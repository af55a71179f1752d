/-
This file proves when a cache acts as a bounded queue. Such a queue is a list of values under keys
that differ, the oldest first. A value that is stored takes the place of the one under its key; of
the rest the longest young end is kept that keeps both budgets along with it, and it stands at the
young end itself. A value too large for the memory budget changes nothing, a lookup changes nothing,
and dropping everything leaves the empty list. So what a lookup finds is the value that was last
stored under the key, and it finds it as long as the value has not been pushed out as one of the
oldest.

A cache acts so after every run exactly if its memory budget is below `2^63` or it stores nothing at
all. With a larger budget two sizes that are each within it can come to more than a word holds, and
then the second of two values is not stored at all: the run ends there, without a cache.
-/

import Thumbnailer.Proofs.Cache.Consistency

namespace Thumbnailer.Cache

/-! ### A bounded queue -/

section Specification

variable {Key Value : Type}

/-- A value of this size is stored at all. -/
def Storable (memoryBudget : UInt64) (entryBudget : Nat) (size : UInt64) : Prop :=
  size ≤ memoryBudget ∧ 1 ≤ entryBudget

namespace Queue

/-- What is kept is the longest end of the queue that keeps both budgets along with a newcomer. -/
structure LongestBeside (memoryBudget : UInt64) (entryBudget : Nat)
    (newcomer : Key × Stored Value) (queue kept : Queue Key Value) : Prop where
  ending : kept <:+ queue
  fits : Fits memoryBudget entryBudget (kept ++ [newcomer])
  longest : ∀ other, other <:+ queue → Fits memoryBudget entryBudget (other ++ [newcomer]) →
    other.length ≤ kept.length

/-- The longest end that passes the test is what a bounded queue keeps. -/
theorem longestBeside_keptBeside {memoryBudget : UInt64} {entryBudget : Nat}
    (queue : Queue Key Value) (key : Key) (value : Value) {size : UInt64}
    (storable : Storable memoryBudget entryBudget size) :
    queue.LongestBeside memoryBudget entryBudget (key, ⟨value, size⟩)
      (queue.keptBeside memoryBudget entryBudget (key, ⟨value, size⟩)) where
  ending := longestEnd_suffix queue
  fits := queue.fits_keptBeside key value storable.1 storable.2
  longest _ ending fits := length_le_longestEnd ending (decide_eq_true fits)

variable [BEq Key]

/-- What an operation does to a bounded queue, as what is there before and what is there after. -/
def Step (memoryBudget : UInt64) (entryBudget : Nat) (before : Queue Key Value)
    (operation : Operation Key Value) (later : Queue Key Value) : Prop :=
  match operation with
  | .lookup _ => later = before
  | .insert key value size =>
    (Storable memoryBudget entryBudget size → ∃ kept,
        LongestBeside memoryBudget entryBudget (key, ⟨value, size⟩) (before.without key) kept ∧
          later = kept ++ [(key, ⟨value, size⟩)]) ∧
      (¬Storable memoryBudget entryBudget size → later = before)
  | .clear => later = []

/-- An operation pushes a key out: a value is stored under another key, and of the rest the key is
among the older values, which are not kept. -/
def PushesOut (memoryBudget : UInt64) (entryBudget : Nat) (before : Queue Key Value)
    (operation : Operation Key Value) (later : Queue Key Value) (key : Key) : Prop :=
  match operation with
  | .insert newcomer value size =>
    Storable memoryBudget entryBudget size ∧
      ∃ dropped kept : Queue Key Value, before.without newcomer = dropped ++ kept ∧
        later = kept ++ [(newcomer, ⟨value, size⟩)] ∧ key ∈ dropped.keys
  | _ => False

end Queue

/-- An operation neither drops everything nor stores a value under the key. -/
def Operation.Spares (memoryBudget : UInt64) (entryBudget : Nat) (key : Key) :
    Operation Key Value → Prop
  | .lookup _ => True
  | .insert other _ size => other = key → ¬Storable memoryBudget entryBudget size
  | .clear => False

end Specification

section Runs

variable {Key Value : Type} [BEq Key] [Hashable Key]

/-- After a run an operation neither replaces nor drops what is stored under the key, and does not
push it out. -/
def Leaves (memoryBudget : UInt64) (entryBudget : Nat) (operations : List (Operation Key Value))
    (operation : Operation Key Value) (key : Key) : Prop :=
  operation.Spares memoryBudget entryBudget key ∧
    ¬(after memoryBudget entryBudget operations).contents.PushesOut memoryBudget entryBudget
      operation (after memoryBudget entryBudget (operations ++ [operation])).contents key

/-- In the course of a run a value was stored under the key, and each operation since left it. -/
def Stands (memoryBudget : UInt64) (entryBudget : Nat) (operations : List (Operation Key Value))
    (key : Key) (stored : Stored Value) : Prop :=
  ∃ before since, operations = before ++ .insert key stored.value stored.size :: since ∧
    Storable memoryBudget entryBudget stored.size ∧
    ∀ earlier operation later, since = earlier ++ operation :: later →
      Leaves memoryBudget entryBudget
        (before ++ .insert key stored.value stored.size :: earlier) operation key

/-- After a run the cache is as a bounded queue. -/
structure ActsAsQueue (memoryBudget : UInt64) (entryBudget : Nat)
    (operations : List (Operation Key Value)) : Prop where
  /-- No operation of the run comes by a sum of sizes that is no word. -/
  goesThrough : after? memoryBudget entryBudget operations =
    some (after memoryBudget entryBudget operations)
  distinct : (after memoryBudget entryBudget operations).contents.keys.Nodup
  /-- Whatever comes next does to the contents what it does to a bounded queue. -/
  steps : ∀ operation, (after memoryBudget entryBudget operations).contents.Step memoryBudget
    entryBudget operation (after memoryBudget entryBudget (operations ++ [operation])).contents
  /-- A lookup finds what is in the contents. -/
  finds : ∀ key, ((after memoryBudget entryBudget operations).lookup key).1 =
    ((after memoryBudget entryBudget operations).contents.find key).map Stored.value
  /-- A lookup finds what was last stored under the key, if it has not been pushed out since. -/
  lasts : ∀ key value, ((after memoryBudget entryBudget operations).lookup key).1 = some value ↔
    ∃ size, Stands memoryBudget entryBudget operations key ⟨value, size⟩

/-! ### What stands after a run -/

variable {memoryBudget : UInt64} {entryBudget : Nat} {operations : List (Operation Key Value)}
  {operation : Operation Key Value} {key : Key} {stored : Stored Value}

/-- Nothing stands before anything is stored. -/
theorem not_stands_nil : ¬Stands memoryBudget entryBudget [] key stored := by
  rintro ⟨before, since, run, -⟩
  exact absurd run.symm (List.append_ne_nil_of_right_ne_nil _ (List.cons_ne_nil _ _))

/-- A value stands after one more operation if that operation stored it, or if it stood before and
the operation left it. -/
theorem stands_concat :
    Stands memoryBudget entryBudget (operations ++ [operation]) key stored ↔
      (operation = .insert key stored.value stored.size ∧
        Storable memoryBudget entryBudget stored.size) ∨
      (Stands memoryBudget entryBudget operations key stored ∧
        Leaves memoryBudget entryBudget operations operation key) := by
  constructor
  · rintro ⟨before, since, run, storable, left⟩
    rcases List.eq_nil_or_concat since with rfl | ⟨earlier, last, rfl⟩
    · exact Or.inl ⟨(List.append_singleton_inj.mp run).2, storable⟩
    · rw [List.concat_eq_append, ← List.cons_append, ← List.append_assoc] at run
      obtain ⟨rfl, rfl⟩ := List.append_singleton_inj.mp run
      rw [List.concat_eq_append] at left
      refine Or.inr ⟨⟨before, earlier, rfl, storable, ?_⟩, left earlier operation [] rfl⟩
      rintro first next rest rfl
      exact left first next (rest ++ [operation]) (List.append_assoc first (next :: rest) _)
  · rintro (⟨rfl, storable⟩ | ⟨⟨before, since, rfl, storable, left⟩, leaves⟩)
    · refine ⟨operations, [], rfl, storable, fun earlier next later none => ?_⟩
      exact absurd none.symm (List.append_ne_nil_of_right_ne_nil _ (List.cons_ne_nil _ _))
    · refine ⟨before, since ++ [operation], List.append_assoc before _ _, storable, ?_⟩
      intro earlier next later parted
      rcases List.eq_nil_or_concat later with rfl | ⟨between, last, rfl⟩
      · obtain ⟨rfl, rfl⟩ := List.append_singleton_inj.mp parted
        exact leaves
      · rw [List.concat_eq_append, ← List.cons_append, ← List.append_assoc] at parted
        exact left earlier next between (List.append_singleton_inj.mp parted).1

variable [LawfulBEq Key]

omit [Hashable Key] in
/-- Where a value has been stored, it is what there is under its key, and of the rest there is what
it did not push out. -/
theorem Queue.mem_concat_iff {before dropped kept : Queue Key Value} {newcomer : Key}
    {value : Value} {size : UInt64} (distinct : before.keys.Nodup)
    (storable : Storable memoryBudget entryBudget size)
    (parted : before.without newcomer = dropped ++ kept) :
    (key, stored) ∈ kept ++ [(newcomer, ⟨value, size⟩)] ↔
      (newcomer = key ∧ Stored.mk value size = stored) ∨
      ((key, stored) ∈ before ∧ newcomer ≠ key ∧
        ¬before.PushesOut memoryBudget entryBudget (.insert newcomer value size)
          (kept ++ [(newcomer, ⟨value, size⟩)]) key) := by
  have apart : (dropped ++ kept).map Prod.fst |>.Nodup := by
    rw [← parted]
    exact distinct.sublist (List.filter_sublist.map _)
  rw [List.map_append] at apart
  rw [List.mem_append, List.mem_singleton, Prod.mk.injEq, or_comm, eq_comm,
    @eq_comm _ stored (Stored.mk value size)]
  refine or_congr_right ⟨fun member => ?_, fun ⟨member, differs, stays⟩ => ?_⟩
  · have there := mem_without_iff.mp (parted ▸ List.mem_append_right dropped member)
    refine ⟨there.1, there.2.symm, ?_⟩
    rintro ⟨-, older, younger, split, same, gone⟩
    obtain ⟨rfl, -⟩ := List.append_singleton_inj.mp same
    obtain rfl : dropped = older := List.append_cancel_right (parted.symm.trans split)
    exact (List.disjoint_of_nodup_append apart) gone (List.mem_map_of_mem member)
  · have there := mem_without_iff.mpr ⟨member, differs.symm⟩
    rw [parted, List.mem_append] at there
    refine there.resolve_left fun gone => stays ?_
    exact ⟨storable, dropped, kept, parted, rfl, List.mem_map_of_mem gone⟩

variable [LawfulHashable Key]

/-- A value is in the contents after one more operation if that operation stored it, or if it was
there before and the operation left it. -/
theorem mem_contents_concat :
    (key, stored) ∈ (after memoryBudget entryBudget (operations ++ [operation])).contents ↔
      (operation = .insert key stored.value stored.size ∧
        Storable memoryBudget entryBudget stored.size) ∨
      ((key, stored) ∈ (after memoryBudget entryBudget operations).contents ∧
        Leaves memoryBudget entryBudget operations operation key) := by
  have represents := represents_after memoryBudget entryBudget operations
  unfold Leaves
  cases operation with
  | lookup other =>
    rw [after_concat, Operation.perform, (represents.lookup other).contents_eq]
    simp [Operation.Spares, Queue.PushesOut]
  | clear =>
    rw [after_concat, Operation.perform, represents.clear.contents_eq]
    simp [Operation.Spares]
  | insert newcomer value size =>
    by_cases storable : Storable memoryBudget entryBudget size
    · have inserted := represents.insert_of_accepted newcomer value
        ((represents.accepts_iff size).mpr storable)
      obtain ⟨dropped, parted⟩ := longestEnd_suffix
        ((after memoryBudget entryBudget operations).contents.without newcomer)
      rw [after_concat, Operation.perform, inserted.contents_eq,
        Queue.mem_concat_iff represents.distinct storable parted.symm]
      have spares : Operation.Spares memoryBudget entryBudget key
          (.insert newcomer value size) ↔ newcomer ≠ key :=
        ⟨fun spared same => spared same storable, fun differs same => absurd same differs⟩
      rw [spares, Operation.insert.injEq]
      refine or_congr_left ⟨?_, ?_⟩
      · rintro ⟨rfl, rfl⟩
        exact ⟨⟨rfl, rfl, rfl⟩, storable⟩
      · rintro ⟨⟨rfl, rfl, rfl⟩, -⟩
        exact ⟨rfl, rfl⟩
    · have refused : ¬(after memoryBudget entryBudget operations).accepts size :=
        fun accepted => storable ((represents.accepts_iff size).mp accepted)
      rw [after_concat, Operation.perform, Cache.insert, if_neg refused]
      constructor
      · exact fun member => Or.inr ⟨member, fun _ => storable, fun pushed => storable pushed.1⟩
      · rintro (⟨same, stores⟩ | ⟨member, -⟩)
        · rw [(Operation.insert.inj same).2.2] at storable
          exact absurd stores storable
        · exact member

/-- What is in the contents after a run is what stands. -/
theorem mem_contents_iff : (key, stored) ∈ (after memoryBudget entryBudget operations).contents ↔
    Stands memoryBudget entryBudget operations key stored := by
  induction operations using List.reverseRecOn with
  | nil =>
    have nothing : (after memoryBudget entryBudget []).contents = ([] : Queue Key Value) :=
      (represents_empty memoryBudget entryBudget).contents_eq
    rw [nothing]
    exact iff_of_false List.not_mem_nil not_stands_nil
  | append_singleton operations operation inductionHypothesis =>
    rw [mem_contents_concat, stands_concat, inductionHypothesis]

/-! ### When a cache acts as a bounded queue -/

/-- One more operation does to the contents what it does to a bounded queue. -/
theorem step_after (memoryBudget : UInt64) (entryBudget : Nat)
    (operations : List (Operation Key Value)) (operation : Operation Key Value) :
    (after memoryBudget entryBudget operations).contents.Step memoryBudget entryBudget operation
      (after memoryBudget entryBudget (operations ++ [operation])).contents := by
  have represents := represents_after memoryBudget entryBudget operations
  rw [after_concat]
  cases operation with
  | lookup key => exact (represents.lookup key).contents_eq
  | clear => exact represents.clear.contents_eq
  | insert key value size =>
    refine ⟨fun storable => ?_, fun refused => ?_⟩
    · refine ⟨_, Queue.longestBeside_keptBeside _ key value storable, ?_⟩
      exact (represents.insert_fits (fits_after memoryBudget entryBudget operations) key value
        storable.1 storable.2).contents_eq
    · rw [Operation.perform, Cache.insert,
        if_neg fun accepted => refused ((represents.accepts_iff size).mp accepted)]

/-- A run that goes through leaves a cache that acts as a bounded queue. -/
theorem actsAsQueue_of_goesThrough
    (goesThrough : after? memoryBudget entryBudget operations =
      some (after memoryBudget entryBudget operations)) :
    ActsAsQueue memoryBudget entryBudget operations where
  goesThrough := goesThrough
  distinct := (represents_after memoryBudget entryBudget operations).distinct
  steps := step_after memoryBudget entryBudget operations
  finds := (represents_after memoryBudget entryBudget operations).lookup_eq
  lasts := by
    have represents := represents_after memoryBudget entryBudget operations
    intro key value
    simp only [← mem_contents_iff]
    rw [represents.lookup_eq, Option.map_eq_some_iff]
    constructor
    · rintro ⟨stored, found, rfl⟩
      exact ⟨stored.size, (Queue.find_eq_some_iff represents.distinct).mp found⟩
    · rintro ⟨size, member⟩
      exact ⟨⟨value, size⟩, (Queue.find_eq_some_iff represents.distinct).mpr member, rfl⟩

/-- The size of which two come to more than a word holds. -/
def halfTurn : UInt64 := 9223372036854775808

theorem toNat_halfTurn : halfTurn.toNat = 2 ^ 63 := by decide

/-- Beside a value of half a turn, the sum that a second one asks for is no word. -/
theorem not_countable_of_halfTurn {first second : Key} (differ : first ≠ second)
    (wide : 2 ^ 63 ≤ memoryBudget.toNat) (counted : 1 ≤ entryBudget) (old : Value) :
    ¬(after memoryBudget entryBudget [.insert first old halfTurn]).countable second halfTurn := by
  have small : halfTurn ≤ memoryBudget := UInt64.le_iff_toNat_le.mpr (toNat_halfTurn ▸ wide)
  have one := (represents_empty memoryBudget entryBudget).insert_of_accepted first old
    (((represents_empty memoryBudget entryBudget).accepts_iff halfTurn).mpr ⟨small, counted⟩)
  have alone : (after memoryBudget entryBudget [.insert first old halfTurn]).contents =
      [(first, Stored.mk old halfTurn)] := one.contents_eq
  have represents := represents_after memoryBudget entryBudget [.insert first old halfTurn]
  have light := (fits_after memoryBudget entryBudget [.insert first old halfTurn]).1
  rw [represents.countable_iff light, alone,
    Queue.without_of_notMem (fun member => differ (List.mem_singleton.mp member).symm),
    Queue.weight_singleton, toNat_halfTurn]
  exact fun within => absurd (within small counted) (by decide)

/-- So the run ends at the second one, without a cache. -/
theorem after?_of_halfTurns {first second : Key} (differ : first ≠ second)
    (wide : 2 ^ 63 ≤ memoryBudget.toNat) (counted : 1 ≤ entryBudget) (old new : Value) :
    after? memoryBudget entryBudget
      [.insert first old halfTurn, .insert second new halfTurn] = none := by
  refine Option.eq_none_iff_forall_ne_some.mpr fun cache left => ?_
  obtain ⟨before, goes, last⟩ := Option.bind_eq_some_iff.mp
    ((after?_concat memoryBudget entryBudget [.insert first old halfTurn] _).symm.trans left)
  rw [eq_after_of_after? goes, Operation.perform?, insert?,
    if_neg (not_countable_of_halfTurn differ wide counted old)] at last
  cases last

end Runs

/-- Of a cache with string keys: it acts as a bounded queue after every run exactly if its memory
budget is below `2^63`, or it stores nothing at all. -/
theorem actsAsQueue_iff {Value : Type} [Inhabited Value] (memoryBudget : UInt64)
    (entryBudget : Nat) :
    (∀ operations : List (Operation String Value),
        ActsAsQueue memoryBudget entryBudget operations) ↔
      memoryBudget.toNat < 2 ^ 63 ∨ entryBudget = 0 := by
  refine ⟨fun acts => ?_, fun bounded operations => ?_⟩
  · by_contra unbounded
    rw [not_or, Nat.not_lt, ← ne_eq, ← Nat.one_le_iff_ne_zero] at unbounded
    have differ : "first" ≠ "second" := by decide
    have goes := (acts [.insert "first" default halfTurn,
      .insert "second" default halfTurn]).goesThrough
    rw [after?_of_halfTurns differ unbounded.1 unbounded.2] at goes
    cases goes
  · exact actsAsQueue_of_goesThrough (after?_of_bounded bounded operations)

/-- With the largest memory budget a first value of half a turn is stored. The sum that a second one
asks for is found to be no word, and the run ends there. -/
theorem after?_of_largest_budget :
    after? 18446744073709551615 10 [.insert "a" 1 9223372036854775808] =
        some (after 18446744073709551615 10 [.insert "a" 1 9223372036854775808] :
          Cache String Nat) ∧
      (after 18446744073709551615 10 [.insert "a" 1 9223372036854775808] :
          Cache String Nat).insertStrictly "b" 2 9223372036854775808 = .error .overflow ∧
      (after? 18446744073709551615 10
        [.insert "a" 1 9223372036854775808, .insert "b" 2 9223372036854775808] :
          Option (Cache String Nat)) = none := by
  have wide : 2 ^ 63 ≤ (18446744073709551615 : UInt64).toNat := by decide
  have differ : "a" ≠ "b" := by decide
  refine ⟨?_, ?_, after?_of_halfTurns differ wide (by decide) 1 2⟩
  · have alone : (empty 18446744073709551615 10 : Cache String Nat).countable "a"
        9223372036854775808 :=
      ((represents_empty _ _).countable_iff (Nat.zero_le _) _ _).mpr fun _ _ => by decide
    rw [after?, List.foldlM_cons, Operation.perform?, insert?, if_pos alone]
    rfl
  · exact (represents_after _ _ _).insertStrictly_of_not_countable (fits_after _ _ _).1 2
      (not_countable_of_halfTurn differ wide (by decide) 1)

end Thumbnailer.Cache
