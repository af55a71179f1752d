/-
This file proves that the parts of a cache never come apart. The table, the queue of keys and the
sum of sizes are changed separately when a value is stored, when it replaces another, when it
pushes others out and when all is dropped; after every run the queue lists the keys of the table,
each of them once, the sum is the sum of the sizes, and both budgets are kept.

Storing a value is also written out with every step of it watched: each sum must fit the word, each
difference must not fall below zero, each key that leaves the queue must be in the table, and the
queue must not run out while there is still no room. After every run the watched way stores the
value as the checked way does, and the one fault it can find is a sum that is no word. With a memory
budget below `2^63` it finds no fault at all, and stores the value as the unwatched way does.
-/

import Thumbnailer.Proofs.Cache.Queue

namespace Thumbnailer.Cache

variable {Key Value : Type} [BEq Key] [Hashable Key]

/-! ### What holds of the parts -/

/-- The parts of a cache agree with each other, and both budgets are kept. -/
structure Consistent (memoryBudget : UInt64) (entryBudget : Nat) (cache : Cache Key Value) :
    Prop where
  /-- No key is queued twice. -/
  distinct : cache.order.Nodup
  /-- The queue and the table have the same keys. -/
  listed : ∀ key, key ∈ cache.order ↔ key ∈ cache.entries
  /-- The sum is exact, as a sum of natural numbers. -/
  exact : cache.memory.toNat = (cache.entries.toList.map fun entry => entry.2.size.toNat).sum
  memory_le : cache.memory ≤ memoryBudget
  size_le : cache.size ≤ entryBudget

/-! ### Storing with every step watched -/

/-- What could go wrong as a value is stored. -/
inductive Fault where
  /-- A sum of sizes past the end of the word. -/
  | overflow
  /-- A difference of sizes below zero. -/
  | underflow
  /-- A key of the queue that is not in the table. -/
  | unlisted
  /-- No key left in the queue, and still no room. -/
  | exhausted
  /-- More turns of the loop than there are keys in the queue. -/
  | endless

/-- A sum of two sizes, if the word holds it. -/
def strictAdd (first second : UInt64) : Except Fault UInt64 :=
  if first.toNat + second.toNat < 2 ^ 64 then .ok (first + second) else .error .overflow

/-- A difference of two sizes, if it is not below zero. -/
def strictSub (first second : UInt64) : Except Fault UInt64 :=
  if second ≤ first then .ok (first - second) else .error .underflow

/-- Take out what is stored under a key, if anything is. -/
def removeStrictly (cache : Cache Key Value) (key : Key) : Except Fault (Cache Key Value) :=
  match cache.entries[key]? with
  | some stored => do
    let memory ← strictSub cache.memory stored.size
    return { cache with
      entries := cache.entries.erase key
      order := cache.order.filter fun other => !(other == key)
      memory := memory }
  | none => return cache

/-- As long as there is no room for a value of this size, take the oldest key off the queue and
what it stands for out of the table; at most so many times. -/
def makeRoomStrictly (size : UInt64) : Nat → Cache Key Value → Except Fault (Cache Key Value)
  | 0, _ => .error .endless
  | turns + 1, cache => do
    let total ← strictAdd cache.memory size
    if cache.memoryBudget < total || cache.entryBudget ≤ cache.entries.size then
      match cache.order with
      | [] => .error .exhausted
      | oldest :: younger =>
        match cache.entries[oldest]? with
        | none => .error .unlisted
        | some stored =>
          let memory ← strictSub cache.memory stored.size
          makeRoomStrictly size turns
            { cache with
              entries := cache.entries.erase oldest
              order := younger
              memory := memory
              statistics :=
                { cache.statistics with evictions := cache.statistics.evictions + 1 } }
    else
      return cache

/-- Put a value at the young end. -/
def pushStrictly (cache : Cache Key Value) (key : Key) (value : Value) (size : UInt64) :
    Except Fault (Cache Key Value) := do
  let memory ← strictAdd cache.memory size
  return { cache with
    entries := cache.entries.insert key { value := value, size := size }
    order := cache.order ++ [key]
    memory := memory }

/-- Store a value under a key. The loop that makes room has one turn for each key of the queue and
one to find that there is room. -/
def insertStrictly (cache : Cache Key Value) (key : Key) (value : Value) (size : UInt64) :
    Except Fault (Cache Key Value) :=
  if cache.accepts size then do
    let without ← cache.removeStrictly key
    let roomy ← makeRoomStrictly size (without.order.length + 1) without
    roomy.pushStrictly key value size
  else
    return cache

/-! ### No fault is found -/

variable {memoryBudget : UInt64} {entryBudget : Nat} {queue : Queue Key Value}
  {cache : Cache Key Value}

theorem strictAdd_eq_ok {first second : UInt64} (within : first.toNat + second.toNat < 2 ^ 64) :
    strictAdd first second = .ok (first + second) :=
  if_pos within

theorem strictSub_eq_ok {first second : UInt64} (below : second ≤ first) :
    strictSub first second = .ok (first - second) :=
  if_pos below

/-- Where the sum is a word, the word is asked what the cache asks of the sum. -/
theorem overflows_of_word {size : UInt64} (within : cache.memory.toNat + size.toNat < 2 ^ 64) :
    cache.overflows size =
      (decide (cache.memoryBudget < cache.memory + size) ||
        decide (cache.entryBudget ≤ cache.entries.size)) := by
  rw [overflows]
  simp only [UInt64.lt_iff_toNat_lt, UInt64.toNat_add, Nat.mod_eq_of_lt within]

/-- A turn of the loop that finds room is the last one. -/
theorem makeRoomStrictly_of_room {size : UInt64} (turns : Nat)
    (within : cache.memory.toNat + size.toNat < 2 ^ 64) (room : cache.overflows size = false) :
    makeRoomStrictly size (turns + 1) cache = .ok cache := by
  rw [overflows_of_word within] at room
  rw [makeRoomStrictly, strictAdd_eq_ok within]
  simp only [bind, Except.bind, room]
  rfl

/-- A turn of the loop that finds no room drops the oldest value. -/
theorem makeRoomStrictly_of_overflows {size : UInt64} (turns : Nat) {oldest : Key}
    {younger : List Key} {stored : Stored Value}
    (within : cache.memory.toNat + size.toNat < 2 ^ 64) (full : cache.overflows size = true)
    (queued : cache.order = oldest :: younger) (held : cache.entries[oldest]? = some stored)
    (counted : stored.size ≤ cache.memory) :
    makeRoomStrictly size (turns + 1) cache =
      makeRoomStrictly size turns (cache.dropOldest oldest younger) := by
  rw [overflows_of_word within] at full
  rw [makeRoomStrictly, strictAdd_eq_ok within, dropOldest, held]
  simp only [bind, Except.bind, full, queued, held, strictSub_eq_ok counted]
  rfl

/-- A sum that is no word ends the loop at once. -/
theorem makeRoomStrictly_of_no_word {size : UInt64} (turns : Nat)
    (beyond : ¬cache.memory.toNat + size.toNat < 2 ^ 64) :
    makeRoomStrictly size (turns + 1) cache = .error .overflow := by
  rw [makeRoomStrictly, strictAdd, if_neg beyond]
  rfl

theorem pushStrictly_eq (key : Key) (value : Value) {size : UInt64}
    (within : cache.memory.toNat + size.toNat < 2 ^ 64) :
    cache.pushStrictly key value size = .ok (cache.push key value size) := by
  rw [pushStrictly, strictAdd_eq_ok within]
  rfl

namespace Represents

/-- What is taken out was counted. -/
theorem size_le_memory (represents : Represents memoryBudget entryBudget queue cache)
    (fits : queue.weight ≤ memoryBudget.toNat) {key : Key} {stored : Stored Value}
    (held : cache.entries[key]? = some stored) : stored.size ≤ cache.memory := by
  have member : [(key, stored)].Sublist queue :=
    List.singleton_sublist.mpr ((represents.held_iff key stored).mp held)
  have counted := Queue.weight_le_of_sublist member
  rw [UInt64.le_iff_toNat_le, represents.memory_toNat fits]
  rwa [Queue.weight_singleton] at counted

theorem removeStrictly_eq (represents : Represents memoryBudget entryBudget queue cache)
    (fits : queue.weight ≤ memoryBudget.toNat) (key : Key) :
    cache.removeStrictly key = .ok (cache.remove key) := by
  rw [removeStrictly, Cache.remove]
  cases held : cache.entries[key]? with
  | none => rfl
  | some stored =>
    simp only [strictSub_eq_ok (represents.size_le_memory fits held)]
    rfl

/-- Where the sums are no words, the first of them is the fault that is found. -/
theorem insertStrictly_of_not_countable
    (represents : Represents memoryBudget entryBudget queue cache)
    (fits : queue.weight ≤ memoryBudget.toNat) {key : Key} (value : Value) {size : UInt64}
    (uncountable : ¬cache.countable key size) :
    cache.insertStrictly key value size = .error .overflow := by
  rw [countable, Bool.or_eq_true, Bool.not_eq_true', decide_eq_true_iff, not_or,
    Bool.not_eq_false] at uncountable
  rw [insertStrictly, if_pos uncountable.1, represents.removeStrictly_eq fits]
  change (makeRoomStrictly size ((cache.remove key).order.length + 1) (cache.remove key) >>=
    fun roomy => roomy.pushStrictly key value size) = _
  rw [makeRoomStrictly_of_no_word _ uncountable.2]
  rfl

variable [LawfulBEq Key] [LawfulHashable Key]

/-- The induction is on the queue: a turn of the loop takes its oldest key off, so that the sums
fall, and beside an empty queue every value within the budgets has room. -/
theorem makeRoomStrictly_eq (represents : Represents memoryBudget entryBudget queue cache)
    (fits : queue.weight ≤ memoryBudget.toNat) {size : UInt64}
    (within : queue.weight + size.toNat < 2 ^ 64) (small : size ≤ memoryBudget)
    (counted : 1 ≤ entryBudget) :
    makeRoomStrictly size (cache.order.length + 1) cache =
      .ok (Cache.makeRoom size cache.order cache) := by
  rw [represents.order_eq, Queue.keys, List.length_map]
  induction queue generalizing cache with
  | nil =>
    rw [← represents.memory_toNat fits] at within
    refine makeRoomStrictly_of_room _ within ?_
    rw [represents.overflows_eq, Bool.not_eq_false', Queue.roomy, Queue.weight_nil,
      List.length_nil]
    simpa [UInt64.le_iff_toNat_le.mp small] using Nat.lt_of_succ_le counted
  | cons oldest younger inductionHypothesis =>
    have counts := represents.memory_toNat fits
    rw [List.map_cons, Cache.makeRoom]
    cases room : cache.overflows size with
    | false => exact makeRoomStrictly_of_room _ (counts ▸ within) room
    | true =>
      have held : cache.entries[oldest.1]? = some oldest.2 :=
        (represents.held_iff _ _).mpr List.mem_cons_self
      have lighter : Queue.weight younger ≤ Queue.weight (oldest :: younger) :=
        Queue.weight_le_of_sublist (List.sublist_cons_self oldest younger)
      rw [List.length_cons, makeRoomStrictly_of_overflows _ (counts ▸ within) room
        represents.order_eq held (represents.size_le_memory fits held)]
      exact inductionHypothesis represents.dropOldest (lighter.trans fits)
        ((Nat.add_le_add_right lighter _).trans_lt within)

/-- Where the sums are words, no fault is found as a value is stored. -/
theorem insertStrictly_of_countable (represents : Represents memoryBudget entryBudget queue cache)
    (fits : queue.weight ≤ memoryBudget.toNat) {key : Key} (value : Value) {size : UInt64}
    (countable : cache.countable key size) :
    cache.insertStrictly key value size = .ok (cache.insert key value size) := by
  rw [insertStrictly, Cache.insert]
  split
  · rename_i accepted
    obtain ⟨small, counted⟩ := (represents.accepts_iff size).mp accepted
    have within := (represents.countable_iff fits key size).mp countable small counted
    have removed := represents.remove key
    have fitsRemoved : Queue.weight (queue.without key) ≤ memoryBudget.toNat :=
      (Queue.weight_le_of_sublist List.filter_sublist).trans fits
    have roomy := removed.makeRoom size
    rw [← removed.order_eq] at roomy
    have lighter := Queue.weight_le_of_sublist
      (@longestEnd_suffix _ (Queue.roomy memoryBudget entryBudget size)
        (queue.without key)).sublist
    have withinRoomy : (Cache.makeRoom size (cache.remove key).order
        (cache.remove key)).memory.toNat + size.toNat < 2 ^ 64 := by
      rw [roomy.memory_toNat (lighter.trans fitsRemoved)]
      exact (Nat.add_le_add_right lighter _).trans_lt within
    rw [represents.removeStrictly_eq fits]
    change (makeRoomStrictly size ((cache.remove key).order.length + 1) (cache.remove key) >>=
      fun roomy => roomy.pushStrictly key value size) = _
    rw [removed.makeRoomStrictly_eq fitsRemoved within small counted]
    exact pushStrictly_eq key value withinRoomy
  · rfl

/-- Of a cache within its memory budget, the watched way of storing a value is the checked one. -/
theorem insertStrictly_eq (represents : Represents memoryBudget entryBudget queue cache)
    (fits : queue.weight ≤ memoryBudget.toNat) (key : Key) (value : Value) (size : UInt64) :
    cache.insertStrictly key value size =
      (cache.insert? key value size).elim (.error .overflow) .ok := by
  rw [insert?]
  split
  · rename_i countable
    exact represents.insertStrictly_of_countable fits value countable
  · rename_i uncountable
    exact represents.insertStrictly_of_not_countable fits value uncountable

/-- The parts agree where they are those of one queue, and the budgets are kept where it keeps
them. -/
theorem consistent (represents : Represents memoryBudget entryBudget queue cache)
    (fits : queue.Fits memoryBudget entryBudget) : cache.Consistent memoryBudget entryBudget where
  distinct := by
    rw [represents.order_eq]
    exact represents.distinct
  listed := by
    intro key
    rw [represents.order_eq, represents.mem_entries_iff]
  exact := by
    rw [represents.memory_toNat fits.1]
    exact (Queue.weight_perm represents.perm).symm
  memory_le := by
    rw [UInt64.le_iff_toNat_le, represents.memory_toNat fits.1]
    exact fits.1
  size_le := by
    rw [Cache.size, represents.size_eq]
    exact fits.2

end Represents

/-- After every run the parts agree, the budgets are kept, and a further value is stored without a
fault. -/
theorem consistent_after [LawfulBEq Key] [LawfulHashable Key] {memoryBudget : UInt64}
    (bounded : memoryBudget.toNat ≤ 2 ^ 63 - 1) (entryBudget : Nat)
    (operations : List (Operation Key Value)) :
    (after memoryBudget entryBudget operations).Consistent memoryBudget entryBudget ∧
      ∀ key value size,
        (after memoryBudget entryBudget operations).insertStrictly key value size =
          .ok ((after memoryBudget entryBudget operations).insert key value size) := by
  have below : memoryBudget.toNat < 2 ^ 63 := Nat.lt_of_le_pred (Nat.two_pow_pos 63) bounded
  have represents := represents_after memoryBudget entryBudget operations
  have fits := fits_after memoryBudget entryBudget operations
  refine ⟨represents.consistent fits, fun key value size => ?_⟩
  rw [represents.insertStrictly_eq fits.1, insert?,
    if_pos (represents.countable_of_bounded (Or.inl below) fits.1 key size)]
  rfl

/-- A value is replaced, and the new one pushes the other value out. -/
theorem consistent_after_replacing :
    (10 : UInt64).toNat ≤ 2 ^ 63 - 1 ∧
      ((after 10 2 [.insert "first" 1 4, .insert "second" 2 6, .insert "first" 3 5] :
          Cache String Nat).Consistent 10 2 ∧
        ∀ key value size,
          (after 10 2 [.insert "first" 1 4, .insert "second" 2 6, .insert "first" 3 5] :
              Cache String Nat).insertStrictly key value size =
            .ok ((after 10 2 [.insert "first" 1 4, .insert "second" 2 6, .insert "first" 3 5] :
              Cache String Nat).insert key value size)) :=
  ⟨by decide, consistent_after (by decide) 2 _⟩

end Thumbnailer.Cache
