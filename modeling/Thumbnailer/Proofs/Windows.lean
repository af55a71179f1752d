/-
This file places windows. The window that gravity places in a picture and the one that is found
most salient have the same size, the part of the target that the picture has, and neither ever
leaves the picture. This holds of all sizes: a spare axis is the greatest word only in a picture
that is as long as that, and then the centre wraps to the edge, which is a place like any other.
-/

import Thumbnailer.Proofs.Axes
import Thumbnailer.Raster.Saliency

namespace Thumbnailer

namespace Region

/-- The least coordinate of a region along an axis. -/
def start (region : Region) : Axis → UInt32
  | .width => region.left
  | .height => region.top

theorem inside_iff {region : Region} {size : Size} :
    region.Inside size ↔ ∀ axis,
      (region.start axis).toNat + (region.size.along axis).toNat ≤ (size.along axis).toNat := by
  rw [Axis.forall_iff]
  rfl

end Region

/-! ### The window of a gravity -/

theorem toNat_spareAxis {current target : UInt32} (within : target ≤ current) :
    (spareAxis current target).toNat = current.toNat - target.toNat := by
  unfold spareAxis
  rw [if_neg (UInt32.not_lt.2 within)]
  exact UInt32.toNat_sub_of_le current target within

theorem toNat_centredOffset {spare : UInt32} (word : spare.toNat + 1 < UInt32.size) :
    (centredOffset spare).toNat = (spare.toNat + 1) / 2 := by
  show ((spare.toNat + 1) % UInt32.size) / 2 = _
  rw [Nat.mod_eq_of_lt word]

theorem centredOffset_le (spare : UInt32) : (centredOffset spare).toNat ≤ spare.toNat := by
  by_cases word : spare.toNat + 1 < UInt32.size
  · rw [toNat_centredOffset word]
    omega
  · have wraps : spare.toNat + 1 = UInt32.size :=
      Nat.le_antisymm spare.toNat_lt (Nat.le_of_not_lt word)
    show ((spare.toNat + 1) % UInt32.size) / 2 ≤ spare.toNat
    rw [wraps, Nat.mod_self]
    exact Nat.zero_le _

theorem size_gravityWindow (current target : Size) (gravity : Gravity) :
    (gravityWindow current target gravity).size = target.meet current :=
  rfl

/-- Wherever gravity places a window, it starts at no more than what is to spare. -/
theorem start_gravityWindow (current target : Size) (gravity : Gravity) (axis : Axis) :
    ((gravityWindow current target gravity).start axis).toNat ≤
      (spareAxis (current.along axis) ((target.meet current).along axis)).toNat := by
  have edge : (0 : UInt32).toNat ≤
      (spareAxis (current.along axis) ((target.meet current).along axis)).toNat := Nat.zero_le _
  have centre := centredOffset_le
    (spareAxis (current.along axis) ((target.meet current).along axis))
  cases gravity <;> cases axis <;> first | exact edge | exact centre | exact Nat.le_refl _

theorem inside_gravityWindow (current target : Size) (gravity : Gravity) :
    (gravityWindow current target gravity).Inside current := by
  refine Region.inside_iff.2 fun axis => ?_
  have starts := start_gravityWindow current target gravity axis
  have within := target.along_meet_le_right current axis
  rw [toNat_spareAxis within] at starts
  rw [size_gravityWindow]
  have shorter := UInt32.le_iff_toNat_le.1 within
  omega

/-! ### The most salient window -/

namespace Saliency

/-- The grid has no place beyond what is to spare. -/
theorem le_of_mem_offsets {spare offset : Nat} (member : offset ∈ offsets spare) :
    offset ≤ spare := by
  have regular : ∀ offset ∈ (List.range (spare / gridStep spare + 1)).map (· * gridStep spare),
      offset ≤ spare := by
    intro offset member
    obtain ⟨steps, counted, rfl⟩ := List.mem_map.1 member
    have few : steps ≤ spare / gridStep spare := Nat.le_of_lt_succ (List.mem_range.1 counted)
    exact Nat.le_trans (Nat.mul_le_mul_right _ few) (Nat.div_mul_le_self _ _)
  unfold offsets at member
  dsimp only at member
  split at member
  · exact regular offset member
  · obtain before | last := List.mem_append.1 member
    · exact regular offset before
    · exact Nat.le_of_eq (List.mem_singleton.1 last)

/-- A place no further from the corner than what is to spare. -/
def Reaches (spareWidth spareHeight : Nat) (placement : Placement) : Prop :=
  placement.left ≤ spareWidth ∧ placement.top ≤ spareHeight

/-- The best place is one of the places that were tried, or the corner. -/
theorem reaches_best {table : Array UInt64} {stride width height spareWidth spareHeight : Nat} :
    Reaches spareWidth spareHeight
      (best (placements table stride width height spareWidth spareHeight)) := by
  refine foldl_choice (fun one other => (ite_eq_or_eq _ other one).symm) ?_
  refine List.forall_mem_cons.2 ⟨⟨Nat.zero_le _, Nat.zero_le _⟩, fun placement member => ?_⟩
  obtain ⟨top, atTop, inRow⟩ := List.mem_flatMap.1 member
  obtain ⟨left, atLeft, rfl⟩ := List.mem_map.1 inRow
  exact ⟨le_of_mem_offsets atLeft, le_of_mem_offsets atTop⟩

theorem size_window (raster : Raster) (size : Size) :
    (window raster size).size = size.meet raster.size := by
  unfold window
  dsimp only
  split <;> rfl

theorem inside_window (raster : Raster) (size : Size) :
    (window raster size).Inside raster.size := by
  have within : ∀ axis, ((size.meet raster.size).along axis).toNat ≤
      (raster.size.along axis).toNat := fun axis =>
    UInt32.le_iff_toNat_le.1 (size.along_meet_le_right raster.size axis)
  have across := within .width
  have down := within .height
  unfold window
  dsimp only
  split
  · refine ⟨?_, ?_⟩
    · rw [UInt32.toNat_zero, Nat.zero_add]
      exact across
    · rw [UInt32.toNat_zero, Nat.zero_add]
      exact down
  · generalize sumTable (scores raster) raster.size.width.toNat raster.size.height.toNat = table
    obtain ⟨left, top⟩ := @reaches_best table (raster.size.width.toNat + 1)
      (size.meet raster.size).width.toNat (size.meet raster.size).height.toNat
      (raster.size.width.toNat - (size.meet raster.size).width.toNat)
      (raster.size.height.toNat - (size.meet raster.size).height.toNat)
    -- An offset is at most an axis, so that it is a word and stays as it is.
    have kept : ∀ {offset spare : Nat} {axis : UInt32}, offset ≤ axis.toNat - spare →
        spare ≤ axis.toNat → (UInt32.ofNat offset).toNat + spare ≤ axis.toNat := by
      intro offset spare axis few most
      have word := axis.toNat_lt
      rw [UInt32.toNat_ofNat_of_lt' (Nat.lt_of_le_of_lt (by omega) word)]
      omega
    exact ⟨kept left across, kept top down⟩

end Saliency

end Thumbnailer
