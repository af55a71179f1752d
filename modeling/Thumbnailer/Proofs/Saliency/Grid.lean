/-
This file is about the grid of offsets that are tried along an axis. The grid runs upwards from
zero in steps of one width, and the far end is added where the last step falls short of it. The
centre need not lie on the grid, but some offset is never further from it than half a step.

The width of a step is a quotient that is rounded down, so an axis has more steps than it is cut
into. It has the most just below the length at which steps become two wide; from there on there are
never again as many.
-/

import Mathlib.Data.List.Chain
import Mathlib.Data.List.Range
import Thumbnailer.Proofs.Windows

namespace Thumbnailer.Saliency

theorem gridStep_pos (spare : Nat) : 0 < gridStep spare :=
  Nat.le_max_right _ _

/-- A step that is wider than one is at most what is to spare. -/
theorem gridStep_le (spare : Nat) : gridStep spare ≤ max spare 1 := by
  have quotient := Nat.div_le_self spare stepsPerAxis
  unfold gridStep
  omega

/-- The steps from zero that stay within what is to spare. -/
def regularOffsets (spare : Nat) : List Nat :=
  (List.range (spare / gridStep spare + 1)).map (· * gridStep spare)

theorem mem_regularOffsets_iff {spare offset : Nat} :
    offset ∈ regularOffsets spare ↔
      ∃ steps, steps * gridStep spare = offset ∧ offset ≤ spare := by
  have positive := gridStep_pos spare
  simp only [regularOffsets, List.mem_map, List.mem_range]
  constructor
  · rintro ⟨steps, few, rfl⟩
    exact ⟨steps, rfl, (Nat.le_div_iff_mul_le positive).1 (Nat.le_of_lt_succ few)⟩
  · rintro ⟨steps, rfl, within⟩
    exact ⟨steps, Nat.lt_succ_of_le ((Nat.le_div_iff_mul_le positive).2 within), rfl⟩

theorem length_regularOffsets (spare : Nat) :
    (regularOffsets spare).length = spare / gridStep spare + 1 := by
  rw [regularOffsets, List.length_map, List.length_range]

theorem head?_regularOffsets (spare : Nat) : (regularOffsets spare).head? = some 0 := by
  rw [regularOffsets, List.range_succ_eq_map, List.map_cons, List.head?_cons, Nat.zero_mul]

theorem getLast?_regularOffsets (spare : Nat) :
    (regularOffsets spare).getLast? = some (spare / gridStep spare * gridStep spare) := by
  rw [regularOffsets, List.getLast?_map, List.getLast?_range, if_neg (Nat.succ_ne_zero _),
    Option.map_some, Nat.add_sub_cancel]

/-- The far end is added unless it is a whole number of steps away. -/
theorem offsets_eq (spare : Nat) :
    offsets spare =
      if gridStep spare ∣ spare then regularOffsets spare else regularOffsets spare ++ [spare] := by
  have reaches : (regularOffsets spare).getLast? = some spare ↔ gridStep spare ∣ spare := by
    rw [getLast?_regularOffsets, Option.some_inj]
    exact ⟨fun same => ⟨_, same.symm.trans (Nat.mul_comm _ _)⟩, Nat.div_mul_cancel⟩
  show (if (regularOffsets spare).getLast? = some spare then _ else _) = _
  simp only [reaches]
  rfl

theorem mem_offsets_of_regular {spare offset : Nat} (regular : offset ∈ regularOffsets spare) :
    offset ∈ offsets spare := by
  rw [offsets_eq]
  split
  · exact regular
  · exact List.mem_append_left _ regular

theorem zero_mem_offsets (spare : Nat) : 0 ∈ offsets spare :=
  mem_offsets_of_regular (mem_regularOffsets_iff.2 ⟨0, Nat.zero_mul _, Nat.zero_le _⟩)

theorem pairwise_lt_regularOffsets (spare : Nat) : (regularOffsets spare).Pairwise (· < ·) :=
  List.pairwise_map.2 (List.pairwise_lt_range.imp fun less =>
    Nat.mul_lt_mul_of_pos_right less (gridStep_pos spare))

theorem pairwise_lt_offsets (spare : Nat) : (offsets spare).Pairwise (· < ·) := by
  rw [offsets_eq]
  split
  case isTrue => exact pairwise_lt_regularOffsets spare
  case isFalse ragged =>
    refine List.pairwise_append.2
      ⟨pairwise_lt_regularOffsets spare, List.pairwise_singleton _ _, ?_⟩
    intro offset regular far member
    obtain rfl := List.mem_singleton.1 member
    obtain ⟨steps, count, within⟩ := mem_regularOffsets_iff.1 regular
    refine Nat.lt_of_le_of_ne within fun same => ragged ?_
    exact ⟨steps, (count.trans same).symm.trans (Nat.mul_comm _ _)⟩

theorem head?_offsets (spare : Nat) : (offsets spare).head? = some 0 := by
  rw [offsets_eq]
  split
  · exact head?_regularOffsets spare
  · rw [List.head?_append, head?_regularOffsets, Option.some_or]

theorem getLast?_offsets (spare : Nat) : (offsets spare).getLast? = some spare := by
  rw [offsets_eq]
  split
  case isTrue whole => rw [getLast?_regularOffsets, Nat.div_mul_cancel whole]
  case isFalse => exact List.getLast?_concat

/-- No two neighbours are further apart than a step. -/
theorem isChain_offsets (spare : Nat) :
    (offsets spare).IsChain fun place next => next ≤ place + gridStep spare := by
  have regular : (regularOffsets spare).IsChain fun place next =>
      next ≤ place + gridStep spare := by
    refine (List.isChain_map _).2 ((List.isChain_range_succ _ _).2 fun steps _ => ?_)
    exact Nat.le_of_eq (Nat.succ_mul _ _)
  rw [offsets_eq]
  split
  case isTrue => exact regular
  case isFalse =>
    refine regular.append (List.isChain_singleton _) fun place last next far => ?_
    rw [getLast?_regularOffsets] at last
    cases last
    cases far
    -- What the last step falls short by is less than a step.
    exact Nat.le_of_lt (Nat.lt_div_mul_add (gridStep_pos spare))

/-- Below twice the number of steps that an axis is cut into, steps are one wide. -/
theorem gridStep_of_lt {spare : Nat} (short : spare < 96) : gridStep spare = 1 := by
  unfold gridStep stepsPerAxis
  omega

/-- Where steps are wider than one, rounding them down makes no more of them than half as many
again. -/
theorem div_gridStep_lt {spare : Nat} (long : 96 ≤ spare) : spare / gridStep spare < 72 := by
  rw [Nat.div_lt_iff_lt_mul (gridStep_pos spare)]
  unfold gridStep stepsPerAxis
  omega

theorem length_offsets_le (spare : Nat) : (offsets spare).length ≤ 96 := by
  rw [offsets_eq]
  by_cases short : spare < 96
  · rw [gridStep_of_lt short, if_pos (Nat.one_dvd spare), length_regularOffsets,
      gridStep_of_lt short, Nat.div_one]
    exact short
  · have few := div_gridStep_lt (Nat.le_of_not_lt short)
    split
    · rw [length_regularOffsets]
      omega
    · rw [List.length_append, length_regularOffsets, List.length_singleton]
      omega

/-- Some offset is no further than half a step from the centre. -/
theorem exists_central_offset (spare : Nat) :
    ∃ offset ∈ offsets spare,
      2 * offset ≤ spare + gridStep spare ∧ spare ≤ 2 * offset + gridStep spare := by
  have positive := gridStep_pos spare
  have narrow := gridStep_le spare
  -- The whole number of steps that is nearest to the centre.
  have below := Nat.div_mul_le_self (spare + gridStep spare) (2 * gridStep spare)
  have above := Nat.lt_div_mul_add (a := spare + gridStep spare) (b := 2 * gridStep spare)
    (Nat.mul_pos Nat.two_pos positive)
  generalize (spare + gridStep spare) / (2 * gridStep spare) = steps at below above
  rw [Nat.mul_left_comm] at below above
  refine ⟨steps * gridStep spare, mem_offsets_of_regular ?_, by omega, by omega⟩
  refine mem_regularOffsets_iff.2 ⟨steps, rfl, ?_⟩
  obtain rfl | some := Nat.eq_zero_or_pos spare
  · obtain rfl : steps = 0 := by
      by_contra many
      have := Nat.le_mul_of_pos_left (gridStep 0) (Nat.pos_of_ne_zero many)
      omega
    exact Nat.le_of_eq (Nat.zero_mul _)
  · omega

/-- Places along an axis that run upwards from its near end to its far end, no two neighbours
further apart than the forty-eighth part of it, or than one where that is less. -/
structure IsGrid (spare : Nat) (places : List Nat) : Prop where
  ascending : places.Pairwise (· < ·)
  first : places.head? = some 0
  last : places.getLast? = some spare
  close : places.IsChain fun place next => next - place ≤ max (spare / 48) 1
  few : places.length ≤ 96

/-- The offsets that are tried are such places, however long the axis. -/
theorem isGrid_offsets (spare : Nat) : IsGrid spare (offsets spare) where
  ascending := pairwise_lt_offsets spare
  first := head?_offsets spare
  last := getLast?_offsets spare
  close := (isChain_offsets spare).imp fun _ _ near => Nat.sub_le_of_le_add (near.trans
    (Nat.le_of_eq (Nat.add_comm _ _)))
  few := length_offsets_le spare

/-- The bound on their number is reached. -/
example : (offsets 95).length = 96 := by decide

end Thumbnailer.Saliency
