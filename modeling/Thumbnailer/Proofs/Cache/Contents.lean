/-
This file follows what a cache holds. A cache never makes up a value: whatever it holds under a key
was stored under that key. So a statement that is true of every value as it is stored stays true of
all that the cache holds, whatever is looked up, pushed out or dropped in between.
-/

import Thumbnailer.Cache.Basic

namespace Thumbnailer.Cache

variable {Key Value : Type} [BEq Key] [Hashable Key]

/-- Every value the cache holds is allowed under its key. -/
def Holds (Allowed : Key → Value → Prop) (cache : Cache Key Value) : Prop :=
  ∀ key stored, cache.entries[key]? = some stored → Allowed key stored.value

variable {Allowed : Key → Value → Prop} {cache : Cache Key Value}

theorem Holds.lookup (holds : cache.Holds Allowed) (key : Key) :
    (cache.lookup key).2.Holds Allowed := by
  unfold Cache.lookup
  split <;> exact holds

/-- What a lookup finds is allowed. -/
theorem Holds.found (holds : cache.Holds Allowed) {key : Key} {value : Value}
    (found : (cache.lookup key).1 = some value) : Allowed key value := by
  unfold Cache.lookup at found
  split at found
  · rename_i stored held
    rw [← Option.some.inj found]
    exact holds key stored held
  · cases found

theorem holds_clear (Allowed : Key → Value → Prop) (cache : Cache Key Value) :
    cache.clear.Holds Allowed := by
  intro key stored held
  exact absurd held (by simp [clear])

theorem holds_empty (Allowed : Key → Value → Prop) (memoryBudget : UInt64) (entryBudget : Nat) :
    (empty memoryBudget entryBudget : Cache Key Value).Holds Allowed := by
  intro key stored held
  exact absurd held (by simp [empty])

variable [LawfulBEq Key] [LawfulHashable Key]

/-- Taking a key out only takes away. -/
theorem Holds.erase {entries : Std.HashMap Key (Stored Value)}
    (holds : ∀ key stored, entries[key]? = some stored → Allowed key stored.value) (gone : Key) :
    ∀ key stored, (entries.erase gone)[key]? = some stored → Allowed key stored.value := by
  intro key stored held
  rw [Std.HashMap.getElem?_erase] at held
  split at held
  · cases held
  · exact holds key stored held

theorem Holds.remove (holds : cache.Holds Allowed) (key : Key) :
    (cache.remove key).Holds Allowed := by
  unfold Cache.remove
  split
  · exact Holds.erase holds key
  · exact holds

theorem Holds.dropOldest (holds : cache.Holds Allowed) (oldest : Key) (younger : List Key) :
    (cache.dropOldest oldest younger).Holds Allowed := by
  unfold Cache.dropOldest
  split
  · exact Holds.erase holds oldest
  · exact holds

theorem Holds.makeRoom (holds : cache.Holds Allowed) (size : UInt64) (queue : List Key) :
    (makeRoom size queue cache).Holds Allowed := by
  induction queue generalizing cache with
  | nil => exact holds
  | cons oldest younger inductionHypothesis =>
    unfold Cache.makeRoom
    split
    · exact inductionHypothesis (holds.dropOldest oldest younger)
    · exact holds

theorem Holds.push (holds : cache.Holds Allowed) {key : Key} {value : Value}
    (allowed : Allowed key value) (size : UInt64) : (cache.push key value size).Holds Allowed := by
  intro other stored held
  rw [Cache.push, Std.HashMap.getElem?_insert] at held
  split at held
  · rename_i same
    rw [← Option.some.inj held, ← eq_of_beq same]
    exact allowed
  · exact holds other stored held

/-- Storing an allowed value keeps all that is held allowed. -/
theorem Holds.insert (holds : cache.Holds Allowed) {key : Key} {value : Value}
    (allowed : Allowed key value) (size : UInt64) :
    (cache.insert key value size).Holds Allowed := by
  unfold Cache.insert
  split
  · exact ((holds.remove key).makeRoom size _).push allowed size
  · exact holds

end Thumbnailer.Cache
