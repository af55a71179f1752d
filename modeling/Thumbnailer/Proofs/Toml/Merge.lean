/-
This file says what becomes of every key when one table is laid over another. A key path leads from
table to table. What is no table lies at a path of the merged table exactly if it lies there in the
upper one, or if it lies there in the lower one while the upper one has nothing there and breaks the
path nowhere by something that is no table. So a path of the upper table is never lost, nothing laid
over a table leaves it as it is, and what has been laid over once changes nothing the second time.

Tables hold their keys in order, each of them once. That makes tables equal that have the same under
every key, and merging keeps it so.
-/

import Mathlib.Data.List.Basic
import Mathlib.Tactic.SplitIfs
import Thumbnailer.Toml.Value

namespace Thumbnailer.Toml.Value

/-- Entries in the order of their keys, each key once. -/
def Ordered (entries : List (String × Value)) : Prop :=
  entries.Pairwise fun first second => first.1 < second.1

instance (entries : List (String × Value)) : Decidable (Ordered entries) :=
  inferInstanceAs (Decidable (entries.Pairwise fun first second => first.1 < second.1))

/-! ### Entries -/

section Entries

variable {key : String} {value : Value} {entries : List (String × Value)}

theorem mem_of_find? (found : find? key entries = some value) : (key, value) ∈ entries := by
  induction entries with
  | nil => cases found
  | cons entry rest inductionHypothesis =>
    rw [find?] at found
    split_ifs at found with same
    · obtain rfl := Option.some.inj found
      rw [← same]
      exact List.mem_cons_self
    · exact List.mem_cons_of_mem _ (inductionHypothesis found)

theorem find?_of_mem (ordered : Ordered entries) (member : (key, value) ∈ entries) :
    find? key entries = some value := by
  induction entries with
  | nil => cases member
  | cons entry rest inductionHypothesis =>
    obtain ⟨before, later⟩ := List.pairwise_cons.1 ordered
    rw [find?]
    rcases List.mem_cons.1 member with rfl | further
    · rw [if_pos rfl]
    · have other : entry.1 ≠ key := fun same => by
        have less := before _ further
        rw [same] at less
        exact String.lt_irrefl _ less
      rw [if_neg other, inductionHypothesis later further]

/-- A key that comes before all others is none of them. -/
theorem find?_of_before (before : ∀ entry ∈ entries, key < entry.1) : find? key entries = none := by
  cases found : find? key entries with
  | none => rfl
  | some value => exact absurd (before _ (mem_of_find? found)) (String.lt_irrefl _)

/-- Tables that have the same under every key are the same. -/
theorem eq_of_find? {first second : List (String × Value)} (firstOrdered : Ordered first)
    (secondOrdered : Ordered second) (same : ∀ key, find? key first = find? key second) :
    first = second := by
  have distinct {entries : List (String × Value)} (ordered : Ordered entries) : entries.Nodup := by
    refine List.Pairwise.imp (fun less equal => ?_) ordered
    rw [equal] at less
    exact String.lt_irrefl _ less
  have members (entry : String × Value) : entry ∈ first ↔ entry ∈ second := by
    constructor
    · intro member
      exact mem_of_find? ((same entry.1).symm.trans (find?_of_mem firstOrdered member))
    · intro member
      exact mem_of_find? ((same entry.1).trans (find?_of_mem secondOrdered member))
  refine List.Perm.eq_of_pairwise ?_ firstOrdered secondOrdered
    ((List.perm_ext_iff_of_nodup (distinct firstOrdered) (distinct secondOrdered)).2 members)
  exact fun _ _ _ _ less greater => absurd greater (String.lt_asymm less)

/-! ### Setting a key -/

theorem find?_insert (key other : String) (value : Value) (entries : List (String × Value)) :
    find? other (insert key value entries) =
      if key = other then some value else find? other entries := by
  induction entries with
  | nil => rfl
  | cons entry rest inductionHypothesis =>
    by_cases same : entry.1 = key
    · rw [insert, if_pos same, find?, find?, same]
      split_ifs <;> rfl
    · by_cases less : key < entry.1
      · rw [insert, if_neg same, if_pos less, find?]
      · rw [insert, if_neg same, if_neg less, find?, find?, inductionHypothesis]
        split_ifs with here new
        · exact absurd (here.trans new.symm) same
        all_goals rfl

theorem mem_insert {entry : String × Value} (member : entry ∈ insert key value entries) :
    entry = (key, value) ∨ entry ∈ entries := by
  induction entries with
  | nil => exact .inl (List.mem_singleton.1 member)
  | cons first rest inductionHypothesis =>
    rw [insert] at member
    split_ifs at member with same before
    · exact (List.mem_cons.1 member).imp_right (List.mem_cons_of_mem _)
    · exact List.mem_cons.1 member
    · rcases List.mem_cons.1 member with rfl | later
      · exact .inr List.mem_cons_self
      · exact (inductionHypothesis later).imp_right (List.mem_cons_of_mem _)

theorem ordered_insert (key : String) (value : Value) (ordered : Ordered entries) :
    Ordered (insert key value entries) := by
  induction entries with
  | nil => exact List.pairwise_singleton _ _
  | cons first rest inductionHypothesis =>
    obtain ⟨before, later⟩ := List.pairwise_cons.1 ordered
    rw [insert]
    split_ifs with same less
    · exact List.pairwise_cons.2 ⟨fun entry member => same ▸ before entry member, later⟩
    · refine List.pairwise_cons.2 ⟨fun entry member => ?_, ordered⟩
      rcases List.mem_cons.1 member with rfl | further
      · exact less
      · exact String.lt_trans less (before entry further)
    · refine List.pairwise_cons.2 ⟨fun entry member => ?_, inductionHypothesis later⟩
      rcases mem_insert member with rfl | further
      · exact Std.lt_of_le_of_ne (String.not_lt.1 less) same
      · exact before entry further

end Entries

/-! ### Laying over -/

/-- What a key has after a value is laid over what it had. -/
def cover (covered : Option Value) (value : Value) : Value :=
  match covered with
  | some covered => merge covered value
  | none => value

theorem mergeEntries_cons (base rest : List (String × Value)) (entry : String × Value) :
    mergeEntries base (entry :: rest) =
      mergeEntries (insert entry.1 (cover (find? entry.1 base) entry.2) base) rest := by
  obtain ⟨key, value⟩ := entry
  rw [mergeEntries]
  unfold cover
  rfl

theorem find?_mergeEntries {base overlay : List (String × Value)} (ordered : Ordered overlay)
    (key : String) :
    find? key (mergeEntries base overlay) =
      ((find? key overlay).map (cover (find? key base))).or (find? key base) := by
  induction overlay generalizing base with
  | nil => rw [mergeEntries]; rfl
  | cons entry rest inductionHypothesis =>
    obtain ⟨before, later⟩ := List.pairwise_cons.1 ordered
    rw [mergeEntries_cons, inductionHypothesis later, find?_insert, find?]
    split_ifs with same
    · rw [← same, find?_of_before before]
      rfl
    · rfl

theorem ordered_mergeEntries {base : List (String × Value)} (ordered : Ordered base)
    (overlay : List (String × Value)) : Ordered (mergeEntries base overlay) := by
  induction overlay generalizing base with
  | nil => rwa [mergeEntries]
  | cons entry rest inductionHypothesis =>
    rw [mergeEntries_cons]
    exact inductionHypothesis (ordered_insert _ _ ordered)

/-! ### Orderly tables -/

/-- The entries of a table. -/
def entries? : Value → Option (List (String × Value))
  | .table entries => some entries
  | _ => none

/-- A table has its keys in order, each of them once, and so have the tables in it. What is in lists
is left open, for merging does not look into them. -/
inductive Orderly : Value → Prop
  | plain {value : Value} (plain : value.entries? = none) : value.Orderly
  | table {entries : List (String × Value)} (ordered : Ordered entries)
      (each : ∀ entry ∈ entries, entry.2.Orderly) : (Value.table entries).Orderly

theorem orderly_table_iff {entries : List (String × Value)} :
    (Value.table entries).Orderly ↔ Ordered entries ∧ ∀ entry ∈ entries, entry.2.Orderly := by
  constructor
  · rintro (⟨⟨⟩⟩ | ⟨ordered, each⟩)
    exact ⟨ordered, each⟩
  · exact fun ⟨ordered, each⟩ => .table ordered each

theorem eq_table_of_entries? {value : Value} {entries : List (String × Value)}
    (is : value.entries? = some entries) : value = .table entries := by
  cases value with
  | table => exact congrArg _ (Option.some.inj is)
  | _ => cases is

theorem merge_of_plain {overlay : Value} (plain : overlay.entries? = none) (base : Value) :
    base.merge overlay = overlay := by
  cases overlay with
  | table => cases plain
  | _ => cases base <;> rw [merge] <;> nofun

theorem merge_over_plain {base : Value} (plain : base.entries? = none) (overlay : Value) :
    base.merge overlay = overlay := by
  cases base with
  | table => cases plain
  | _ => cases overlay <;> rw [merge] <;> nofun

theorem cover_of_plain {below : Option Value}
    (plain : ∀ covered, below = some covered → covered.entries? = none) (value : Value) :
    cover below value = value := by
  cases below with
  | none => rfl
  | some covered => exact merge_over_plain (plain covered rfl) value

theorem merge_table (base overlay : List (String × Value)) :
    (Value.table base).merge (.table overlay) = .table (mergeEntries base overlay) := by
  rw [merge]

theorem find?_mergeEntries_of_plain {base overlay : List (String × Value)}
    (ordered : Ordered overlay) {key : String} {covered : Value}
    (below : find? key base = some covered) (plain : covered.entries? = none) :
    find? key (mergeEntries base overlay) = some ((find? key overlay).getD covered) := by
  rw [find?_mergeEntries ordered, below]
  cases find? key overlay with
  | none => rfl
  | some value => exact congrArg some (merge_over_plain plain value)

theorem mergeEntries_nil {overlay : List (String × Value)} (ordered : Ordered overlay) :
    mergeEntries [] overlay = overlay := by
  refine eq_of_find? (ordered_mergeEntries List.Pairwise.nil overlay) ordered fun key => ?_
  rw [find?_mergeEntries ordered]
  cases find? key overlay <;> rfl

/-- An orderly value laid over the empty table, or over nothing, is itself. -/
theorem empty_merge {overlay : Value} (orderly : overlay.Orderly) :
    (Value.table []).merge overlay = overlay := by
  cases orderly with
  | plain plain => exact merge_of_plain plain _
  | table ordered => rw [merge_table, mergeEntries_nil ordered]

theorem orderly_of_find? {key : String} {value : Value} {entries : List (String × Value)}
    (each : ∀ entry ∈ entries, entry.2.Orderly) (found : find? key entries = some value) :
    value.Orderly :=
  each _ (mem_of_find? found)

theorem orderly_merge {base overlay : Value} (overlayOrderly : overlay.Orderly)
    (baseOrderly : base.Orderly) : (base.merge overlay).Orderly := by
  induction overlayOrderly generalizing base with
  | plain plain =>
    rw [merge_of_plain plain]
    exact .plain plain
  | @table upper ordered each inductionHypothesis =>
    cases baseOrderly with
    | plain plain =>
      rw [merge_over_plain plain]
      exact .table ordered each
    | @table lower lowerOrdered lowerEach =>
      rw [merge_table]
      refine .table (ordered_mergeEntries lowerOrdered upper) fun entry member => ?_
      have found := find?_of_mem (ordered_mergeEntries lowerOrdered upper) member
      rw [find?_mergeEntries ordered] at found
      cases above : find? entry.1 upper with
      | none =>
        rw [above] at found
        exact orderly_of_find? lowerEach found
      | some value =>
        rw [above] at found
        rw [← Option.some.inj found]
        cases below : find? entry.1 lower with
        | none => exact orderly_of_find? each above
        | some covered =>
          exact inductionHypothesis _ (mem_of_find? above) (orderly_of_find? lowerEach below)

/-- What has been laid over once changes nothing the second time. -/
theorem merge_merge {base overlay : Value} (overlayOrderly : overlay.Orderly)
    (baseOrderly : base.Orderly) : (base.merge overlay).merge overlay = base.merge overlay := by
  induction overlayOrderly generalizing base with
  | plain plain => rw [merge_of_plain plain, merge_of_plain plain]
  | @table upper ordered each inductionHypothesis =>
    have twice {lower : List (String × Value)} (lowerOrdered : Ordered lower)
        (lowerEach : ∀ entry ∈ lower, entry.2.Orderly) :
        mergeEntries (mergeEntries lower upper) upper = mergeEntries lower upper := by
      have once := ordered_mergeEntries lowerOrdered upper
      refine eq_of_find? (ordered_mergeEntries once upper) once fun key => ?_
      rw [find?_mergeEntries ordered, find?_mergeEntries ordered]
      cases above : find? key upper with
      | none => rfl
      | some value =>
        have again {covered : Value} (orderly : covered.Orderly) :=
          inductionHypothesis _ (mem_of_find? above) orderly
        show some (merge (cover (find? key lower) value) value) =
          some (cover (find? key lower) value)
        cases below : find? key lower with
        | none =>
          -- Over nothing is over the empty table.
          have covering := again (.table List.Pairwise.nil nofun)
          rw [empty_merge (orderly_of_find? each above)] at covering
          exact congrArg some covering
        | some covered => exact congrArg some (again (orderly_of_find? lowerEach below))
    cases baseOrderly with
    | plain plain =>
      have self := twice List.Pairwise.nil nofun
      rw [mergeEntries_nil ordered] at self
      rw [merge_over_plain plain, merge_table, self]
    | table lowerOrdered lowerEach =>
      rw [merge_table, merge_table, twice lowerOrdered lowerEach]

/-! ### Key paths -/

/-- What lies at a key path, which leads from table to table. -/
def at? (value : Value) : List String → Option Value
  | [] => some value
  | key :: path => (value.entries?.bind (find? key)).bind fun inner => inner.at? path

/-- Whatever lies on the way along a path, before its end, is a table. -/
def Passable (value : Value) (path : List String) : Prop :=
  ∀ shorter, shorter <+: path → shorter ≠ path →
    ∀ found, value.at? shorter = some found → found.entries? ≠ none

theorem at?_cons_of_plain {value : Value} (plain : value.entries? = none) (key : String)
    (path : List String) : value.at? (key :: path) = none := by
  rw [at?, plain]
  rfl

theorem at?_table_cons (entries : List (String × Value)) (key : String) (path : List String) :
    (Value.table entries).at? (key :: path) =
      (find? key entries).bind fun inner => inner.at? path := rfl

theorem at?_table_singleton (entries : List (String × Value)) (key : String) :
    (Value.table entries).at? [key] = find? key entries :=
  Option.bind_fun_some _

theorem not_passable_of_plain {value : Value} (plain : value.entries? = none) (key : String)
    (path : List String) : ¬value.Passable (key :: path) := fun passable =>
  passable [] List.nil_prefix (List.cons_ne_nil _ _).symm value rfl plain

theorem passable_table_cons {entries : List (String × Value)} {key : String} {path : List String} :
    (Value.table entries).Passable (key :: path) ↔
      ∀ inner, find? key entries = some inner → inner.Passable path := by
  constructor
  · intro passable inner found shorter part short value lies
    refine passable (key :: shorter) (List.cons_prefix_cons.2 ⟨rfl, part⟩)
      (fun same => short (List.cons.inj same).2) value ?_
    rw [at?_table_cons, found]
    exact lies
  · intro each shorter part short value lies
    cases shorter with
    | nil =>
      obtain rfl := Option.some.inj lies
      nofun
    | cons first rest =>
      obtain ⟨rfl, restPart⟩ := List.cons_prefix_cons.1 part
      rw [at?_table_cons] at lies
      obtain ⟨inner, found, deeper⟩ := Option.bind_eq_some_iff.1 lies
      exact each inner found rest restPart (fun same => short (congrArg _ same)) value deeper

theorem merge_eq_plain_iff {base overlay value : Value} (plain : value.entries? = none) :
    base.merge overlay = value ↔ overlay = value := by
  cases upper : overlay.entries? with
  | none => rw [merge_of_plain upper]
  | some upperEntries =>
    cases lower : base.entries? with
    | none => rw [merge_over_plain lower]
    | some lowerEntries =>
      obtain rfl := eq_table_of_entries? upper
      obtain rfl := eq_table_of_entries? lower
      rw [merge_table]
      refine iff_of_false ?_ ?_ <;> rintro rfl <;> cases plain

/-- One step along a path: what the upper table has under the key covers what the lower value has
there. -/
theorem at?_merge_table_cons (base : Value) {upper : List (String × Value)}
    (ordered : Ordered upper) (key : String) (path : List String) :
    (base.merge (.table upper)).at? (key :: path) =
      match find? key upper with
      | none => base.at? (key :: path)
      | some inner => (cover (base.entries?.bind (find? key)) inner).at? path := by
  cases below : base.entries? with
  | none =>
    rw [merge_over_plain below, at?_table_cons, at?_cons_of_plain below]
    cases find? key upper <;> rfl
  | some lower =>
    obtain rfl := eq_table_of_entries? below
    rw [merge_table, at?_table_cons, find?_mergeEntries ordered]
    cases find? key upper <;> rfl

/-- What is no table lies at a path of the merged table if it lies there above, or below where
nothing above covers it. -/
theorem at?_merge_iff {base overlay value : Value} (orderly : overlay.Orderly)
    (plain : value.entries? = none) (path : List String) :
    (base.merge overlay).at? path = some value ↔
      overlay.at? path = some value ∨
        base.at? path = some value ∧ overlay.at? path = none ∧ overlay.Passable path := by
  induction path generalizing base overlay with
  | nil =>
    rw [at?, at?, Option.some.injEq, Option.some.injEq, merge_eq_plain_iff plain]
    exact (or_iff_left fun both => nomatch both.2.1).symm
  | cons key path inductionHypothesis =>
    cases orderly with
    | plain upperPlain =>
      rw [merge_of_plain upperPlain]
      exact (or_iff_left fun both => not_passable_of_plain upperPlain key path both.2.2).symm
    | @table upper ordered each =>
      rw [at?_merge_table_cons base ordered, at?_table_cons, passable_table_cons]
      cases above : find? key upper with
      | none => exact ⟨fun lies => .inr ⟨lies, rfl, nofun⟩, fun lies => (lies.resolve_left nofun).1⟩
      | some inner =>
        have onlyInner : (∀ found, some inner = some found → found.Passable path) ↔
            inner.Passable path :=
          ⟨fun each => each inner rfl, fun passable _ same => Option.some.inj same ▸ passable⟩
        rw [onlyInner, Option.bind_some, at?]
        cases base.entries?.bind (find? key) with
        | none => exact (or_iff_left fun both => nomatch both.1).symm
        | some covered => exact inductionHypothesis (orderly_of_find? each above)

/-- A path of the upper table is never lost. -/
theorem isSome_at?_merge {base overlay : Value} (orderly : overlay.Orderly) {path : List String}
    (there : (overlay.at? path).isSome = true) : ((base.merge overlay).at? path).isSome = true := by
  induction path generalizing base overlay with
  | nil => rfl
  | cons key path inductionHypothesis =>
    cases orderly with
    | plain upperPlain => rwa [merge_of_plain upperPlain]
    | @table upper ordered each =>
      rw [at?_merge_table_cons base ordered]
      rw [at?_table_cons] at there
      cases above : find? key upper with
      | none =>
        rw [above] at there
        cases there
      | some inner =>
        rw [above] at there
        cases base.entries?.bind (find? key) with
        | none => exact there
        | some covered => exact inductionHypothesis (orderly_of_find? each above) there

/-- What becomes of every key when one table is laid over another. -/
theorem overlays_merge {base overlay : List (String × Value)}
    (baseOrderly : (Value.table base).Orderly) (overlayOrderly : (Value.table overlay).Orderly) :
    let merged := (Value.table base).merge (.table overlay)
    (∀ path value, value.entries? = none →
      (merged.at? path = some value ↔
        (Value.table overlay).at? path = some value ∨
          (Value.table base).at? path = some value ∧ (Value.table overlay).at? path = none ∧
            (Value.table overlay).Passable path)) ∧
      (∀ path, ((Value.table overlay).at? path).isSome = true →
        (merged.at? path).isSome = true) ∧
      (Value.table base).merge (.table []) = .table base ∧
      merged.merge (.table overlay) = merged := by
  refine ⟨fun path value plain => at?_merge_iff overlayOrderly plain path,
    fun path there => isSome_at?_merge overlayOrderly there, ?_,
    merge_merge overlayOrderly baseOrderly⟩
  rw [merge_table, mergeEntries]

/-- A setting that the upper table does not name stays, and one whose section it replaces is
lost. -/
theorem overlays_merge_sections :
    let lower := [("engine", Value.table [("entries", .whole 5)]),
      ("workers", .table [("most", .whole 2)])]
    let upper := [("engine", Value.table [("memory", .whole 7)]), ("workers", .whole 0)]
    let merged := (Value.table lower).merge (.table upper)
    merged.at? ["engine", "entries"] = some (.whole 5) ∧
      merged.at? ["workers", "most"] ≠ some (.whole 2) ∧
      merged.merge (.table upper) = merged := by
  intro lower upper merged
  have part (key : String) (number : Int) : (Value.table [(key, .whole number)]).Orderly :=
    .table (List.pairwise_singleton _ _) (List.forall_mem_singleton.2 (.plain rfl))
  have lowerOrderly : (Value.table lower).Orderly := by
    refine .table (by decide) (List.forall_mem_cons.2 ⟨part _ _, ?_⟩)
    exact List.forall_mem_singleton.2 (part _ _)
  have upperOrderly : (Value.table upper).Orderly := by
    refine .table (by decide) (List.forall_mem_cons.2 ⟨part _ _, ?_⟩)
    exact List.forall_mem_singleton.2 (.plain rfl)
  obtain ⟨law, -, -, again⟩ := overlays_merge lowerOrderly upperOrderly
  refine ⟨(law _ _ rfl).2 (.inr ⟨rfl, rfl, ?_⟩), fun lies => ?_, again⟩
  · refine passable_table_cons.2 fun inner found => ?_
    rw [← Option.some.inj found]
    exact passable_table_cons.2 nofun
  · rcases (law _ _ rfl).1 lies with above | ⟨-, -, passable⟩
    · cases above
    · exact passable ["workers"] ⟨["most"], rfl⟩ (by decide) (.whole 0) rfl rfl

end Thumbnailer.Toml.Value
