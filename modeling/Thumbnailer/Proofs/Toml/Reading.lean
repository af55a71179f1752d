/-
This file says when a table is read into a record, and what the record then holds. Every key is read
on its own: whether its value fits does not depend on what the record holds, and it sets a part that
no other key sets. So a table is read exactly if each of its keys is known and has a value of its
kind, and a part of the record is then what the table has under its key, or what it was before if
the table has nothing there. Of a table laid over one that fits, only the keys of the upper one are
left to be checked.
-/

import Mathlib.Data.List.Nodup
import Thumbnailer.Proofs.Toml.Merge
import Thumbnailer.Toml.Record

namespace Thumbnailer.Toml

/-! ### Outcomes -/

/-- Two steps succeed if the first does and the second does with what the first gave. -/
@[grind =]
theorem bind_eq_ok_iff {First Second : Type} {first : Fit First} {second : First → Fit Second}
    {result : Second} :
    first >>= second = .ok result ↔
      ∃ between, first = .ok between ∧ second between = .ok result := by
  cases first with
  | error misfit => exact iff_of_false nofun nofun
  | ok between =>
    constructor
    · exact fun done => ⟨between, rfl, done⟩
    · rintro ⟨_, same, done⟩
      obtain rfl := Except.ok.inj same
      exact done

@[grind =]
theorem pure_eq_ok_iff {Result : Type} {first second : Result} :
    (pure first : Fit Result) = .ok second ↔ first = second :=
  ⟨Except.ok.inj, congrArg _⟩

theorem exists_bind_pure_iff {First Second : Type} {first : Fit First} {change : First → Second} :
    (∃ result, (first >>= fun between => pure (change between)) = .ok result) ↔
      ∃ between, first = .ok between := by
  simp only [bind_eq_ok_iff, pure_eq_ok_iff]
  exact ⟨fun ⟨_, between, found, _⟩ => ⟨between, found⟩, fun ⟨_, found⟩ => ⟨_, _, found, rfl⟩⟩

theorem mapError_eq_ok_iff {Result : Type} {outcome : Fit Result} {change : Misfit → Misfit}
    {result : Result} : outcome.mapError change = .ok result ↔ outcome = .ok result := by
  cases outcome with
  | error misfit => exact iff_of_false nofun nofun
  | ok found => exact Iff.rfl

/-! ### Kinds of values -/

namespace Value

/-- A whole number from zero up to a bound, which it does not reach. -/
def IsNumber (bound : Nat) (value : Value) : Prop :=
  ∃ number : Nat, number < bound ∧ value = .whole number

def IsTruth (value : Value) : Prop :=
  ∃ truth, value = .truth truth

section Words

variable {value : Value} {bound : Nat} {expected : String}

theorem number_eq_ok_iff {number : Nat} :
    value.number bound expected = .ok number ↔ number < bound ∧ value = .whole number := by
  cases value with
  | whole found =>
    rw [Value.number, Value.whole.injEq]
    split_ifs with within
    · rw [Except.ok.injEq]
      omega
    · refine iff_of_false nofun ?_
      omega
  | _ => exact iff_of_false nofun fun both => nomatch both.2

theorem map_number_eq_ok_iff {Word : Type} {ofNat : Nat → Word} {word : Word} :
    (value.number bound expected).map ofNat = .ok word ↔
      ∃ number : Nat, (number < bound ∧ value = .whole number) ∧ ofNat number = word := by
  simp only [← @number_eq_ok_iff value bound expected]
  cases value.number bound expected with
  | error misfit => exact iff_of_false nofun nofun
  | ok number => simp [Except.map]

theorem exists_map_number_iff {Word : Type} {ofNat : Nat → Word} :
    (∃ word, (value.number bound expected).map ofNat = .ok word) ↔ value.IsNumber bound := by
  simp only [map_number_eq_ok_iff]
  exact ⟨fun ⟨_, number, is, _⟩ => ⟨number, is⟩, fun ⟨number, is⟩ => ⟨_, number, is, rfl⟩⟩

/-- A word is read from the number that it stands for. -/
theorem map_number_eq_ok_iff_eq {Word : Type} {ofNat : Nat → Word} {toNat : Word → Nat}
    (below : ∀ word, toNat word < bound)
    (toNat_ofNat : ∀ number < bound, toNat (ofNat number) = number)
    (ofNat_toNat : ∀ word, ofNat (toNat word) = word) {word : Word} :
    (value.number bound expected).map ofNat = .ok word ↔ value = .whole (toNat word) := by
  rw [map_number_eq_ok_iff]
  constructor
  · rintro ⟨number, ⟨less, is⟩, rfl⟩
    rw [toNat_ofNat number less, is]
  · exact fun is => ⟨toNat word, ⟨below word, is⟩, ofNat_toNat word⟩

end Words

@[grind =]
theorem word32_eq_ok_iff {value : Value} {word : UInt32} :
    value.word32 = .ok word ↔ value = .whole word.toNat :=
  map_number_eq_ok_iff_eq UInt32.toNat_lt (fun _ => UInt32.toNat_ofNat_of_lt)
    (fun _ => UInt32.ofNat_toNat)

@[grind =]
theorem word64_eq_ok_iff {value : Value} {word : UInt64} :
    value.word64 = .ok word ↔ value = .whole word.toNat :=
  map_number_eq_ok_iff_eq UInt64.toNat_lt (fun _ => UInt64.toNat_ofNat_of_lt)
    (fun _ => UInt64.ofNat_toNat)

@[grind =]
theorem count_eq_ok_iff {value : Value} {word : UInt64} :
    value.count = .ok word ↔ value = .whole word.toNat :=
  map_number_eq_ok_iff_eq UInt64.toNat_lt (fun _ => UInt64.toNat_ofNat_of_lt)
    (fun _ => UInt64.ofNat_toNat)

theorem exists_word32_iff {value : Value} :
    (∃ word, value.word32 = .ok word) ↔ value.IsNumber UInt32.size :=
  exists_map_number_iff

theorem exists_word64_iff {value : Value} :
    (∃ word, value.word64 = .ok word) ↔ value.IsNumber UInt64.size :=
  exists_map_number_iff

theorem exists_count_iff {value : Value} :
    (∃ word, value.count = .ok word) ↔ value.IsNumber UInt64.size :=
  exists_map_number_iff

@[grind =]
theorem bool_eq_ok_iff {value : Value} {truth : Bool} :
    value.bool = .ok truth ↔ value = .truth truth := by
  cases value with
  | truth found => rw [Value.bool, Except.ok.injEq, Value.truth.injEq]
  | _ => exact iff_of_false nofun nofun

theorem exists_bool_iff {value : Value} : (∃ truth, value.bool = .ok truth) ↔ value.IsTruth :=
  exists_congr fun _ => bool_eq_ok_iff

end Value

/-! ### Kinds of tables -/

/-- A table has a value under a key that is known, and the value is of the kind of that key. -/
def Allows (kinds : List (String × (Value → Prop))) (key : String) (value : Value) : Prop :=
  ∃ kind ∈ kinds, kind.1 = key ∧ kind.2 value

/-- Every key of a table is known, and what it has is of its kind. -/
def Fits (kinds : List (String × (Value → Prop))) (entries : List (String × Value)) : Prop :=
  ∀ entry ∈ entries, Allows kinds entry.1 entry.2

section Tables

variable {kinds : List (String × (Value → Prop))} {base overlay entries : List (String × Value)}

theorem allows_cons {kind : String × (Value → Prop)} {key : String} {value : Value} :
    Allows (kind :: kinds) key value ↔ kind.1 = key ∧ kind.2 value ∨ Allows kinds key value := by
  unfold Allows
  rw [List.exists_mem_cons_iff]

theorem not_allows_nil {key : String} {value : Value} : ¬Allows [] key value :=
  fun ⟨_, member, _⟩ => List.not_mem_nil member

theorem fits_iff_find? (ordered : Value.Ordered entries) :
    Fits kinds entries ↔
      ∀ key value, Value.find? key entries = some value → Allows kinds key value :=
  ⟨fun fits _ _ found => fits _ (Value.mem_of_find? found),
    fun each _ member => each _ _ (Value.find?_of_mem ordered member)⟩

/-- Over a table that fits, where covering does not change whether a value fits, the upper table
decides. -/
theorem fits_mergeEntries (baseOrdered : Value.Ordered base)
    (overlayOrdered : Value.Ordered overlay) (baseFits : Fits kinds base)
    (same : ∀ key value, Value.find? key overlay = some value →
      (Allows kinds key (Value.cover (Value.find? key base) value) ↔ Allows kinds key value)) :
    Fits kinds (Value.mergeEntries base overlay) ↔ Fits kinds overlay := by
  rw [fits_iff_find? (Value.ordered_mergeEntries baseOrdered overlay),
    fits_iff_find? overlayOrdered]
  refine forall_congr' fun key => ?_
  rw [Value.find?_mergeEntries overlayOrdered]
  cases above : Value.find? key overlay with
  | none => exact iff_of_true (fun value found => baseFits _ (Value.mem_of_find? found)) nofun
  | some value =>
    constructor
    · rintro each _ ⟨⟩
      exact (same key value above).1 (each _ rfl)
    · rintro each _ ⟨⟩
      exact (same key value above).2 (each _ rfl)

theorem fits_mergeEntries_of_plain (baseOrdered : Value.Ordered base)
    (overlayOrdered : Value.Ordered overlay) (baseFits : Fits kinds base)
    (plain : ∀ entry ∈ base, entry.2.entries? = none) :
    Fits kinds (Value.mergeEntries base overlay) ↔ Fits kinds overlay := by
  refine fits_mergeEntries baseOrdered overlayOrdered baseFits fun key value _ => ?_
  rw [Value.cover_of_plain fun covered found => plain _ (Value.mem_of_find? found)]

end Tables

/-! ### Records -/

namespace Field

variable {Record Part : Type} {fields : List (Field Record)}
  {kinds : List (String × (Value → Prop))} {entries : List (String × Value)}

/-- An entry is put by the field with its key. -/
theorem putEntry_eq_ok_iff (distinct : (fields.map Field.key).Nodup) {entry : String × Value}
    {record changed : Record} :
    putEntry fields record entry = .ok changed ↔
      ∃ field ∈ fields, field.key = entry.1 ∧ field.put entry.2 record = .ok changed := by
  unfold putEntry
  cases found : fields.find? fun field => field.key = entry.1 with
  | none =>
    refine iff_of_false nofun fun ⟨field, member, same, _⟩ => ?_
    exact List.find?_eq_none.1 found field member (decide_eq_true same)
  | some field =>
    have member := List.mem_of_find?_eq_some found
    have same : field.key = entry.1 := by simpa using List.find?_some found
    constructor
    · exact fun put => ⟨field, member, same, mapError_eq_ok_iff.1 put⟩
    · rintro ⟨other, otherMember, otherSame, put⟩
      obtain rfl := List.inj_on_of_nodup_map distinct otherMember member (otherSame.trans same.symm)
      exact mapError_eq_ok_iff.2 put

theorem readRecord_cons_eq_ok_iff {expected : String} {entry : String × Value}
    {record changed : Record} :
    readRecord expected fields record (.table (entry :: entries)) = .ok changed ↔
      ∃ between, putEntry fields record entry = .ok between ∧
        readRecord expected fields between (.table entries) = .ok changed :=
  bind_eq_ok_iff

/-- A table is read exactly if it fits, where fields take the values that their keys allow. -/
theorem exists_readRecord_iff {expected : String} (distinct : (fields.map Field.key).Nodup)
    (takes : ∀ entry ∈ entries, ∀ record, (∃ field ∈ fields, field.key = entry.1 ∧
      ∃ changed, field.put entry.2 record = .ok changed) ↔ Allows kinds entry.1 entry.2)
    (record : Record) :
    (∃ changed, readRecord expected fields record (.table entries) = .ok changed) ↔
      Fits kinds entries := by
  induction entries generalizing record with
  | nil => exact iff_of_true ⟨record, rfl⟩ nofun
  | cons entry entries inductionHypothesis =>
    obtain ⟨first, later⟩ := List.forall_mem_cons.1 takes
    have reads := inductionHypothesis later
    unfold Fits
    rw [List.forall_mem_cons, ← first record]
    simp only [readRecord_cons_eq_ok_iff, putEntry_eq_ok_iff distinct]
    constructor
    · rintro ⟨changed, between, ⟨field, member, same, put⟩, read⟩
      exact ⟨⟨field, member, same, between, put⟩, (reads between).1 ⟨changed, read⟩⟩
    · rintro ⟨⟨field, member, same, between, put⟩, fits⟩
      obtain ⟨changed, read⟩ := (reads between).2 fits
      exact ⟨changed, between, ⟨field, member, same, put⟩, read⟩

/-- A part of the record that the value under one key gives, and that nothing under another key
changes. -/
structure Reads (fields : List (Field Record)) (key : String) (gives : Value → Part → Prop)
    (part : Record → Part) : Prop where
  here : ∀ field ∈ fields, field.key = key → ∀ value record changed,
    field.put value record = .ok changed → gives value (part changed)
  elsewhere : ∀ field ∈ fields, field.key ≠ key → ∀ value record changed,
    field.put value record = .ok changed → part changed = part record

/-- A part of the record is what the table has under its key, or what it was. -/
theorem Reads.ofTable (distinct : (fields.map Field.key).Nodup) {key : String}
    {gives : Value → Part → Prop} {part : Record → Part} (reads : Reads fields key gives part)
    (ordered : Value.Ordered entries) {expected : String} {record changed : Record}
    (done : readRecord expected fields record (.table entries) = .ok changed) :
    match Value.find? key entries with
    | some value => gives value (part changed)
    | none => part changed = part record := by
  induction entries generalizing record with
  | nil =>
    obtain rfl := Except.ok.inj done
    rfl
  | cons entry entries inductionHypothesis =>
    obtain ⟨before, later⟩ := List.pairwise_cons.1 ordered
    obtain ⟨between, put, rest⟩ := readRecord_cons_eq_ok_iff.1 done
    obtain ⟨field, member, same, put⟩ := (putEntry_eq_ok_iff distinct).1 put
    have remaining := inductionHypothesis later rest
    rw [Value.find?]
    split_ifs with here
    · have absent : Value.find? key entries = none := here ▸ Value.find?_of_before before
      rw [absent] at remaining
      show gives entry.2 (part changed)
      rw [show part changed = part between from remaining]
      exact reads.here field member (same.trans here) _ _ _ put
    · have other : field.key ≠ key := fun equal => here (same.symm.trans equal)
      have kept := reads.elsewhere field member other _ _ _ put
      cases found : Value.find? key entries with
      | none =>
        rw [found] at remaining
        exact remaining.trans kept
      | some value =>
        rw [found] at remaining
        exact remaining

/-- Of a table laid over another, a part of the record is what the upper table has under its key, or
else the plain value that the lower one has there. -/
theorem Reads.ofMerged (distinct : (fields.map Field.key).Nodup) {key : String}
    {gives : Value → Part → Prop} {part : Record → Part} (reads : Reads fields key gives part)
    {base overlay : List (String × Value)} (baseOrdered : Value.Ordered base)
    (overlayOrdered : Value.Ordered overlay) {covered : Value}
    (below : Value.find? key base = some covered) (plain : covered.entries? = none)
    {expected : String} {record changed : Record}
    (done : readRecord expected fields record (.table (Value.mergeEntries base overlay)) =
      .ok changed) :
    gives ((Value.find? key overlay).getD covered) (part changed) := by
  have given := reads.ofTable distinct (Value.ordered_mergeEntries baseOrdered overlay) done
  rwa [Value.find?_mergeEntries_of_plain overlayOrdered below plain] at given

end Field

end Thumbnailer.Toml
