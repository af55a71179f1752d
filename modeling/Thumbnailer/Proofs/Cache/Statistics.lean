/-
This file shows that the counts of a cache are honest. They are kept in words and changed in the
midst of other work: a lookup counts a hit or a miss, and a value that is pushed out to make room is
counted where it is dropped. Here a run is watched from outside, one operation after the other, each
with the cache as it finds it, and what is seen is counted in natural numbers.

Every lookup is counted once, as a hit if it gives a value. Every value that has to leave for
another is counted once; one that is replaced under its own key is not, nor is one that is dropped
along with all others. So the values that came in under keys that were not in use are those that are
still there, those that had to leave and those that were dropped. The words are exact for as long as
there are fewer operations than a word can count.
-/

import Thumbnailer.Proofs.Cache.Eviction

namespace Thumbnailer

namespace CacheStatistics

/-- The counts after so many more hits and misses. -/
def counting (statistics : CacheStatistics) (hits misses : Nat) : CacheStatistics :=
  { statistics with
    hits := statistics.hits + UInt64.ofNat hits
    misses := statistics.misses + UInt64.ofNat misses }

/-- The counts after so many more values had to leave. -/
def evicting (statistics : CacheStatistics) (count : Nat) : CacheStatistics :=
  { statistics with evictions := statistics.evictions + UInt64.ofNat count }

theorem counting_hit (statistics : CacheStatistics) :
    statistics.counting 1 0 = { statistics with hits := statistics.hits + 1 } :=
  congrArg (CacheStatistics.mk _ · _) (UInt64.add_zero _)

theorem counting_miss (statistics : CacheStatistics) :
    statistics.counting 0 1 = { statistics with misses := statistics.misses + 1 } :=
  congrArg (CacheStatistics.mk · _ _) (UInt64.add_zero _)

theorem counting_counting (statistics : CacheStatistics) (hits misses moreHits moreMisses : Nat) :
    (statistics.counting hits misses).counting moreHits moreMisses =
      statistics.counting (hits + moreHits) (misses + moreMisses) := by
  simp only [counting, UInt64.ofNat_add, UInt64.add_assoc]

theorem evicting_zero (statistics : CacheStatistics) : statistics.evicting 0 = statistics :=
  congrArg (CacheStatistics.mk _ _) (UInt64.add_zero _)

theorem evicting_evicting (statistics : CacheStatistics) (count more : Nat) :
    (statistics.evicting count).evicting more = statistics.evicting (count + more) := by
  simp only [evicting, UInt64.ofNat_add, UInt64.add_assoc]

end CacheStatistics

namespace Cache

variable {Key Value : Type} [BEq Key] [Hashable Key] {memoryBudget : UInt64} {entryBudget : Nat}

/-! ### What is seen of a run -/

/-- An operation, and the cache as it finds it. -/
structure Encounter (Key Value : Type) [BEq Key] [Hashable Key] where
  before : Cache Key Value
  operation : Operation Key Value

instance (memoryBudget : UInt64) (entryBudget : Nat) (size : UInt64) :
    Decidable (Storable memoryBudget entryBudget size) :=
  inferInstanceAs (Decidable (_ ∧ _))

namespace Encounter

/-- A key is looked up, and a value is given. -/
def finds (encounter : Encounter Key Value) : Bool :=
  match encounter.operation with
  | .lookup key => (encounter.before.lookup key).1.isSome
  | .insert .. | .clear => false

/-- A key is looked up, and no value is given. -/
def misses (encounter : Encounter Key Value) : Bool :=
  match encounter.operation with
  | .lookup key => (encounter.before.lookup key).1.isNone
  | .insert .. | .clear => false

/-- A value that can be stored is stored under a key that is not in use. -/
def brings (memoryBudget : UInt64) (entryBudget : Nat) (encounter : Encounter Key Value) : Bool :=
  match encounter.operation with
  | .insert key _ size =>
    Storable memoryBudget entryBudget size && !encounter.before.entries.contains key
  | .lookup _ | .clear => false

/-- How many values have to leave for one that is stored: they are there before, under other keys,
and are not there afterwards. -/
def leaving (encounter : Encounter Key Value) : Nat :=
  match encounter.operation with
  | .insert key value size =>
    encounter.before.order.countP fun other =>
      !(other == key) && !(encounter.before.insert key value size).entries.contains other
  | .lookup _ | .clear => 0

/-- How many values are dropped with all others. -/
def dropped (encounter : Encounter Key Value) : Nat :=
  match encounter.operation with
  | .clear => encounter.before.size
  | .lookup _ | .insert .. => 0

end Encounter

/-- An operation adds to the counts what is seen of it, and what it brings in is there afterwards,
or makes up for what is not. -/
structure Encounter.Accounted (memoryBudget : UInt64) (entryBudget : Nat)
    (encounter : Encounter Key Value) (later : Cache Key Value) : Prop where
  hits : later.statistics.hits =
    encounter.before.statistics.hits + UInt64.ofNat (if encounter.finds then 1 else 0)
  misses : later.statistics.misses =
    encounter.before.statistics.misses + UInt64.ofNat (if encounter.misses then 1 else 0)
  evictions : later.statistics.evictions =
    encounter.before.statistics.evictions + UInt64.ofNat encounter.leaving
  balance : encounter.before.size + (if encounter.brings memoryBudget entryBudget then 1 else 0) =
    later.size + encounter.leaving + encounter.dropped

/-- The counts of a cache are what was seen of its run, as words, and what came in is accounted
for. -/
structure Counted (memoryBudget : UInt64) (entryBudget : Nat)
    (met : List (Encounter Key Value)) (cache : Cache Key Value) : Prop where
  hits : cache.statistics.hits = UInt64.ofNat (met.countP Encounter.finds)
  misses : cache.statistics.misses = UInt64.ofNat (met.countP Encounter.misses)
  evictions : cache.statistics.evictions = UInt64.ofNat (met.map Encounter.leaving).sum
  balance : met.countP (Encounter.brings memoryBudget entryBudget) =
    cache.size + (met.map Encounter.leaving).sum + (met.map Encounter.dropped).sum

theorem Counted.concat {met : List (Encounter Key Value)} {encounter : Encounter Key Value}
    {later : Cache Key Value} (counted : Counted memoryBudget entryBudget met encounter.before)
    (accounted : encounter.Accounted memoryBudget entryBudget later) :
    Counted memoryBudget entryBudget (met ++ [encounter]) later where
  hits := by
    rw [accounted.hits, counted.hits, List.countP_append, List.countP_singleton, UInt64.ofNat_add]
  misses := by
    rw [accounted.misses, counted.misses, List.countP_append, List.countP_singleton,
      UInt64.ofNat_add]
  evictions := by
    rw [accounted.evictions, counted.evictions, List.map_append, List.sum_append,
      List.map_singleton, List.sum_singleton, UInt64.ofNat_add]
  balance := by
    have before := counted.balance
    have step := accounted.balance
    simp only [List.countP_append, List.countP_singleton, List.map_append, List.sum_append,
      List.map_singleton, List.sum_singleton]
    omega

/-! ### One operation -/

theorem lookup_of_held {cache : Cache Key Value} {key : Key} {stored : Stored Value}
    (held : cache.entries[key]? = some stored) :
    cache.lookup key =
      (some stored.value, { cache with statistics := cache.statistics.counting 1 0 }) := by
  rw [Cache.lookup, held, CacheStatistics.counting_hit]

theorem lookup_of_absent {cache : Cache Key Value} {key : Key}
    (absent : cache.entries[key]? = none) :
    cache.lookup key = (none, { cache with statistics := cache.statistics.counting 0 1 }) := by
  rw [Cache.lookup, absent, CacheStatistics.counting_miss]

theorem statistics_remove (cache : Cache Key Value) (key : Key) :
    (cache.remove key).statistics = cache.statistics := by
  unfold Cache.remove
  split <;> rfl

/-- Dropping a value that is held counts one. -/
theorem statistics_dropOldest {cache : Cache Key Value} {oldest : Key} {stored : Stored Value}
    (held : cache.entries[oldest]? = some stored) (younger : List Key) :
    (cache.dropOldest oldest younger).statistics = cache.statistics.evicting 1 := by
  unfold Cache.dropOldest
  simp only [held]
  rfl

section Lawful

variable [LawfulBEq Key] {queue : Queue Key Value}

omit [Hashable Key] in
theorem Queue.length_without_add (distinct : queue.keys.Nodup) (key : Key) :
    (queue.without key).length + (if key ∈ queue.keys then 1 else 0) = queue.length := by
  split
  · rename_i member
    obtain ⟨⟨other, stored⟩, held, rfl⟩ := List.mem_map.mp member
    rw [(Queue.perm_cons_without distinct held).length_eq, List.length_cons]
  · rename_i absent
    rw [Queue.without_of_notMem absent, Nat.add_zero]

variable [LawfulHashable Key] {cache : Cache Key Value}

namespace Represents

/-- Making room counts each value that it drops. The induction is on the queue, of which the oldest
value goes first. -/
theorem exists_gone_makeRoom (represents : Represents memoryBudget entryBudget queue cache)
    (size : UInt64) :
    ∃ gone, gone ++ longestEnd (Queue.roomy memoryBudget entryBudget size) queue = queue ∧
      (Cache.makeRoom size queue.keys cache).statistics =
        cache.statistics.evicting gone.length := by
  induction queue generalizing cache with
  | nil => exact ⟨[], rfl, cache.statistics.evicting_zero.symm⟩
  | cons oldest younger inductionHypothesis =>
    rw [Queue.keys, List.map_cons, Cache.makeRoom, longestEnd, represents.overflows_eq]
    cases Queue.roomy memoryBudget entryBudget size (oldest :: younger) with
    | true => exact ⟨[], rfl, cache.statistics.evicting_zero.symm⟩
    | false =>
      have held : cache.entries[oldest.1]? = some oldest.2 :=
        (represents.held_iff _ _).mpr List.mem_cons_self
      obtain ⟨gone, parted, counted⟩ := inductionHypothesis represents.dropOldest
      refine ⟨oldest :: gone, congrArg (oldest :: ·) parted, counted.trans ?_⟩
      rw [statistics_dropOldest held, CacheStatistics.evicting_evicting, Nat.add_comm]
      rfl

/-- A value that is stored stands behind what it leaves of the other values, and each of those that
are gone is counted. -/
theorem exists_gone_insert (represents : Represents memoryBudget entryBudget queue cache)
    (key : Key) (value : Value) {size : UInt64}
    (storable : Storable memoryBudget entryBudget size) :
    ∃ gone kept : Queue Key Value, gone ++ kept = queue.without key ∧
      Represents memoryBudget entryBudget (kept ++ [(key, ⟨value, size⟩)])
        (cache.insert key value size) ∧
      (cache.insert key value size).statistics = cache.statistics.evicting gone.length := by
  have accepted := (represents.accepts_iff size).mpr storable
  have removed := represents.remove key
  obtain ⟨gone, parted, counted⟩ := removed.exists_gone_makeRoom size
  refine ⟨gone, _, parted, represents.insert_of_accepted key value accepted, ?_⟩
  rw [statistics_remove] at counted
  rw [Cache.insert, if_pos accepted]
  simp only [removed.order_eq]
  exact counted

/-- The values that are gone are those that were there under other keys and are there no more. -/
theorem countP_gone {key : Key} {gone kept : Queue Key Value} {stored : Stored Value}
    {later : Cache Key Value} (represents : Represents memoryBudget entryBudget queue cache)
    (parted : gone ++ kept = queue.without key)
    (remains : Represents memoryBudget entryBudget (kept ++ [(key, stored)]) later) :
    (cache.order.countP fun other => !(other == key) && !later.entries.contains other) =
      gone.length := by
  have keysParted : gone.keys ++ kept.keys = (queue.without key).keys := by
    rw [← parted]
    exact List.map_append.symm
  have others : cache.order.filter (fun other => !(other == key)) = gone.keys ++ kept.keys := by
    rw [represents.order_eq, keysParted, Queue.keys_without]
  have apart : (gone.keys ++ kept.keys).Nodup := by
    rw [← others, represents.order_eq]
    exact represents.distinct.filter _
  have held : ∀ other, later.entries.contains other ↔ other ∈ kept.keys ∨ other = key := by
    intro other
    rw [Std.HashMap.contains_iff_mem, remains.mem_entries_iff, Queue.keys, List.map_append,
      List.mem_append, List.map_singleton, List.mem_singleton]
    rfl
  have inside : ∀ other ∈ kept.keys, later.entries.contains other := fun other member =>
    (held other).mpr (.inl member)
  have outside : ∀ other ∈ gone.keys, ¬later.entries.contains other := by
    intro other member contained
    obtain stays | same := (held other).mp contained
    · exact List.disjoint_of_nodup_append apart member stays
    · refine Queue.notMem_keys_without queue key ?_
      rw [← keysParted, ← same]
      exact List.mem_append_left _ member
  calc cache.order.countP (fun other => !(other == key) && !later.entries.contains other)
      = (gone.keys ++ kept.keys).countP (fun other => !later.entries.contains other) := by
        rw [← others, List.countP_filter]
        exact List.countP_congr fun _ _ => by rw [Bool.and_comm]
    _ = gone.keys.length + 0 := by
        rw [List.countP_append, List.countP_eq_length.mpr, List.countP_eq_zero.mpr]
        · simpa using inside
        · simpa using outside
    _ = gone.length := List.length_map _

/-- Of a cache that stays as it is nothing is gone. -/
theorem countP_gone_self (represents : Represents memoryBudget entryBudget queue cache)
    (key : Key) :
    (cache.order.countP fun other => !(other == key) && !cache.entries.contains other) = 0 := by
  refine List.countP_eq_zero.mpr fun other member => ?_
  rw [represents.order_eq, ← represents.mem_entries_iff, ← Std.HashMap.contains_iff_mem] at member
  rw [member, Bool.not_true, Bool.and_false]
  exact Bool.false_ne_true

/-- A value that is stored takes the place of the one under its key, or comes in as one more. -/
theorem accounted_insert (represents : Represents memoryBudget entryBudget queue cache)
    (key : Key) (value : Value) (size : UInt64) :
    Encounter.Accounted memoryBudget entryBudget ⟨cache, .insert key value size⟩
      (cache.insert key value size) := by
  have same : ∀ word : UInt64, word = word + UInt64.ofNat 0 := fun word =>
    (UInt64.add_zero word).symm
  have brought : Encounter.brings memoryBudget entryBudget ⟨cache, .insert key value size⟩ =
      (decide (Storable memoryBudget entryBudget size) && !cache.entries.contains key) := rfl
  have left : Encounter.leaving ⟨cache, .insert key value size⟩ = cache.order.countP fun other =>
      !(other == key) && !(cache.insert key value size).entries.contains other := rfl
  by_cases storable : Storable memoryBudget entryBudget size
  · obtain ⟨gone, kept, parted, remains, counted⟩ :=
      represents.exists_gone_insert key value storable
    rw [represents.countP_gone parted remains] at left
    refine ⟨?_, ?_, ?_, ?_⟩
    · rw [counted]
      exact same _
    · rw [counted]
      exact same _
    · rw [counted, left]
      rfl
    · have replaced := Queue.length_without_add represents.distinct key
      rw [← parted, List.length_append] at replaced
      have present : cache.entries.contains key = decide (key ∈ queue.keys) := by
        rw [Bool.eq_iff_iff, Std.HashMap.contains_iff_mem, represents.mem_entries_iff,
          decide_eq_true_iff]
      show cache.entries.size + _ = (cache.insert key value size).entries.size + _ + 0
      rw [brought, left, present, represents.size_eq, remains.size_eq, List.length_append,
        List.length_singleton]
      by_cases member : key ∈ queue.keys
      · simp only [member, if_true] at replaced
        simp [storable, member]
        omega
      · simp only [member, if_false] at replaced
        simp [storable, member]
        omega
  · have refused : cache.insert key value size = cache :=
      if_neg fun accepted => storable ((represents.accepts_iff size).mp accepted)
    rw [refused, represents.countP_gone_self] at left
    rw [refused]
    refine ⟨same _, same _, ?_, ?_⟩
    · rw [left]
      exact same _
    · rw [left, brought, decide_eq_false storable]
      rfl

end Represents

/-! ### Runs -/

end Lawful

end Cache

end Thumbnailer
