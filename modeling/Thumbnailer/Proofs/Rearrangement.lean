/-
This file follows single pixels through what only moves pixels. An image that is rearranged shows in
each place the pixel that its source had in the place it was taken from; so a chain of turns,
mirrorings and windows is a chain of places. Two images whose pixels are all known are the same if
they agree in size, in colour type and in each pixel.

A picture is seen upright by a table of eight places, one for each orientation tag, and the turn
and the mirroring that a tag asks for come to the place of the table. It is stated for every size,
so that it tells columns from rows.
-/

import Thumbnailer.Orientation
import Thumbnailer.Raster.Basic

namespace Thumbnailer

namespace Raster

/-! ### Single pixels -/

/-- Every pixel of the image is known. -/
def Full (raster : Raster) : Prop :=
  ∃ pixels, raster.pixels = some pixels ∧ pixels.size = raster.size.area

/-- A place in the image. -/
def Has (size : Size) (column row : Nat) : Prop :=
  column < size.width.toNat ∧ row < size.height.toNat

theorem index_lt_area {size : Size} {column row : Nat} (has : Has size column row) :
    row * size.width.toNat + column < size.area := by
  obtain ⟨across, down⟩ := has
  calc row * size.width.toNat + column
    _ < row * size.width.toNat + size.width.toNat := Nat.add_lt_add_left across _
    _ = (row + 1) * size.width.toNat := (Nat.succ_mul _ _).symm
    _ ≤ size.height.toNat * size.width.toNat := Nat.mul_le_mul_right _ down
    _ = size.area := Nat.mul_comm _ _

/-- Every index is that of a place. -/
theorem has_of_lt_area {size : Size} {index : Nat} (within : index < size.area) :
    Has size (index % size.width.toNat) (index / size.width.toNat) := by
  have width : 0 < size.width.toNat := by
    refine Nat.pos_of_ne_zero fun empty => ?_
    rw [Size.area, empty, Nat.zero_mul] at within
    exact Nat.not_lt_zero _ within
  exact ⟨Nat.mod_lt _ width, Nat.div_lt_of_lt_mul within⟩

/-- A place counted from the other end of an axis lies on it too. -/
theorem reversed_lt {axis place : Nat} (within : place < axis) : axis - 1 - place < axis := by
  omega

theorem Has.mirror {size : Size} {column row : Nat} (has : Has size column row) :
    Has size (size.width.toNat - 1 - column) row :=
  ⟨reversed_lt has.1, has.2⟩

/-- A turned picture takes its pixels from within the picture. -/
theorem Has.turnSource {size : Size} {turn : Turn} {column row : Nat}
    (has : Has (turn.apply size) column row) :
    Has size (turnSource size turn column row).1 (turnSource size turn column row).2 := by
  obtain ⟨across, down⟩ := has
  cases turn with
  | none => exact ⟨across, down⟩
  | quarter => exact ⟨down, reversed_lt across⟩
  | half => exact ⟨reversed_lt across, reversed_lt down⟩
  | threeQuarters => exact ⟨reversed_lt down, across⟩

theorem pixelIn_tabulate {size : Size} {pixel : Nat → Nat → Pixel} {column row : Nat}
    (has : Has size column row) :
    pixelIn (tabulate size pixel) size.width.toNat column row = pixel column row := by
  have width : 0 < size.width.toNat := Nat.zero_lt_of_lt has.1
  have index : row * size.width.toNat + column < (tabulate size pixel).size := by
    rw [tabulate, Array.size_ofFn]
    exact index_lt_area has
  rw [pixelIn, Array.getD_eq_getD_getElem?, Array.getElem?_eq_getElem index, Option.getD_some]
  simp only [tabulate, Array.getElem_ofFn]
  rw [Nat.mul_comm row, Nat.mul_add_mod, Nat.mod_eq_of_lt has.1, Nat.mul_add_div width,
    Nat.div_eq_of_lt has.1, Nat.add_zero]

theorem Full.rearrange {raster : Raster} (full : raster.Full) (size : Size)
    (source : Nat → Nat → Nat × Nat) : (raster.rearrange size source).Full := by
  obtain ⟨pixels, known, -⟩ := full
  refine ⟨_, congrArg (Option.map _) known, ?_⟩
  exact Array.size_ofFn

/-- A rearranged image shows what its source has in the place that is told. -/
theorem pixel?_rearrange (raster : Raster) {size : Size} (source : Nat → Nat → Nat × Nat)
    {column row : Nat} (has : Has size column row) :
    (raster.rearrange size source).pixel? column row =
      raster.pixel? (source column row).1 (source column row).2 := by
  rw [pixel?, pixel?, rearrange, Option.map_map]
  refine congrArg (fun read => raster.pixels.map read) (funext fun pixels => ?_)
  exact pixelIn_tabulate has

/-- Known images are the same if they agree in size, in colour type and in each pixel. -/
theorem Full.eq_of_pixel? {first second : Raster} (firstFull : first.Full)
    (secondFull : second.Full) (sizes : first.size = second.size)
    (colours : first.colour = second.colour)
    (pixels : ∀ column row, Has first.size column row →
      first.pixel? column row = second.pixel? column row) : first = second := by
  obtain ⟨firstPixels, firstKnown, firstCount⟩ := firstFull
  obtain ⟨secondPixels, secondKnown, secondCount⟩ := secondFull
  have same : firstPixels = secondPixels := by
    refine Array.ext (firstCount.trans (sizes ▸ secondCount.symm)) fun place inFirst inSecond => ?_
    have width : 0 < first.size.width.toNat := by
      refine Nat.pos_of_ne_zero fun empty => ?_
      rw [firstCount, Size.area, empty, Nat.zero_mul] at inFirst
      exact Nat.not_lt_zero _ inFirst
    have has : Has first.size (place % first.size.width.toNat)
        (place / first.size.width.toNat) := by
      rw [firstCount, Size.area] at inFirst
      exact ⟨Nat.mod_lt _ width, Nat.div_lt_of_lt_mul inFirst⟩
    have shown := pixels _ _ has
    rw [pixel?, pixel?, firstKnown, secondKnown, ← sizes] at shown
    have read := Option.some.inj shown
    simp only [pixelIn, Nat.mul_comm (place / _), Nat.div_add_mod] at read
    simpa [Array.getD, inFirst, inSecond] using read
  obtain ⟨firstSize, firstColour, _⟩ := first
  obtain ⟨secondSize, secondColour, _⟩ := second
  cases firstKnown
  cases secondKnown
  cases sizes
  cases colours
  cases same
  rfl

end Raster

/-! ### Pictures seen upright -/

namespace Orientation

/-- Where a picture of this stored size has the pixel that is seen in a column and a row. -/
def preimage (stored : Size) (tag : UInt8) (column row : Nat) : Nat × Nat :=
  let lastColumn := stored.width.toNat - 1
  let lastRow := stored.height.toNat - 1
  match tag with
  | 2 => (lastColumn - column, row)
  | 3 => (lastColumn - column, lastRow - row)
  | 4 => (column, lastRow - row)
  | 5 => (row, column)
  | 6 => (row, lastRow - column)
  | 7 => (lastColumn - row, lastRow - column)
  | 8 => (lastColumn - row, column)
  | _ => (column, row)

/-- A tag that is not in the table asks for nothing. -/
theorem turn_mirrored_of_other {tag : UInt8} (not2 : tag ≠ 2) (not3 : tag ≠ 3) (not4 : tag ≠ 4)
    (not5 : tag ≠ 5) (not6 : tag ≠ 6) (not7 : tag ≠ 7) (not8 : tag ≠ 8) :
    turn tag = .none ∧ mirrored tag = false := by
  simp [turn, mirrored, not2, not3, not4, not5, not6, not7, not8]

/-- The place of the table is the one that the turn takes the pixel from which the mirroring
takes. -/
theorem preimage_eq_turnSource {stored : Size} {tag : UInt8} {column row : Nat}
    (has : Raster.Has ((turn tag).apply stored) column row) :
    preimage stored tag column row =
      Raster.turnSource stored (turn tag)
        (if mirrored tag then ((turn tag).apply stored).width.toNat - 1 - column else column)
        row := by
  obtain ⟨across, -⟩ := has
  -- Only under tags 4 and 5 does a reversed axis come to be reversed again.
  have twice : ∀ {axis place : Nat}, place < axis → place = axis - 1 - (axis - 1 - place) := by
    intro axis place within
    omega
  unfold preimage
  split
  case h_8 not2 not3 not4 not5 not6 not7 not8 =>
    obtain ⟨upright, plain⟩ := turn_mirrored_of_other not2 not3 not4 not5 not6 not7 not8
    rw [upright, plain]
    rfl
  case h_3 => exact Prod.ext (twice across) rfl
  case h_4 => exact Prod.ext rfl (twice across)
  all_goals rfl

/-- The place lies in the stored picture. -/
theorem has_preimage {stored : Size} {tag : UInt8} {column row : Nat}
    (has : Raster.Has ((turn tag).apply stored) column row) :
    Raster.Has stored (preimage stored tag column row).1 (preimage stored tag column row).2 := by
  rw [preimage_eq_turnSource has]
  split
  · exact has.mirror.turnSource
  · exact has.turnSource

end Orientation

namespace Raster

variable {raster : Raster} {column row : Nat}

/-- The picture as it is seen under a tag. -/
def upright (raster : Raster) (tag : UInt8) : Raster :=
  raster.rearrange ((Orientation.turn tag).apply raster.size)
    (Orientation.preimage raster.size tag)

/-- The picture turned and then mirrored, as a tag asks. -/
def oriented (raster : Raster) (tag : UInt8) : Raster :=
  if Orientation.mirrored tag then (raster.turned (Orientation.turn tag)).mirrored
  else raster.turned (Orientation.turn tag)

theorem pixel?_turned (raster : Raster) (turn : Turn)
    (has : Has (turn.apply raster.size) column row) :
    (raster.turned turn).pixel? column row =
      raster.pixel? (turnSource raster.size turn column row).1
        (turnSource raster.size turn column row).2 :=
  raster.pixel?_rearrange _ has

theorem pixel?_mirrored (raster : Raster) (has : Has raster.size column row) :
    raster.mirrored.pixel? column row =
      raster.pixel? (raster.size.width.toNat - 1 - column) row :=
  raster.pixel?_rearrange _ has

theorem pixel?_window (raster : Raster) {region : Region} (has : Has region.size column row) :
    (raster.window region).pixel? column row =
      raster.pixel? (region.left.toNat + column) (region.top.toNat + row) :=
  raster.pixel?_rearrange _ has

theorem pixel?_upright (raster : Raster) {tag : UInt8}
    (has : Has ((Orientation.turn tag).apply raster.size) column row) :
    (raster.upright tag).pixel? column row =
      raster.pixel? (Orientation.preimage raster.size tag column row).1
        (Orientation.preimage raster.size tag column row).2 :=
  raster.pixel?_rearrange _ has

theorem Full.turned (full : raster.Full) (turn : Turn) : (raster.turned turn).Full :=
  full.rearrange _ _

theorem Full.mirrored (full : raster.Full) : raster.mirrored.Full :=
  full.rearrange _ _

theorem Full.upright (full : raster.Full) (tag : UInt8) : (raster.upright tag).Full :=
  full.rearrange _ _

/-- No turn leaves a known image as it is. -/
theorem Full.turned_none (full : raster.Full) : raster.turned .none = raster :=
  (full.turned .none).eq_of_pixel? full rfl rfl fun _ _ has => raster.pixel?_turned .none has

/-- Turned and mirrored as its tag asks, a known picture is seen upright. -/
theorem Full.oriented_eq_upright (full : raster.Full) (tag : UInt8) :
    raster.oriented tag = raster.upright tag := by
  rw [oriented]
  split
  case isTrue mirror =>
    refine (full.turned _).mirrored.eq_of_pixel? (full.upright tag) rfl rfl fun column row has => ?_
    have seen : Has ((Orientation.turn tag).apply raster.size) column row := has
    rw [(raster.turned _).pixel?_mirrored has, raster.pixel?_upright seen,
      Orientation.preimage_eq_turnSource seen, if_pos mirror]
    exact raster.pixel?_turned _ seen.mirror
  case isFalse plain =>
    refine (full.turned _).eq_of_pixel? (full.upright tag) rfl rfl fun column row has => ?_
    rw [raster.pixel?_turned _ has, raster.pixel?_upright has,
      Orientation.preimage_eq_turnSource has, if_neg plain]

/-- Tag 5 makes rows of columns. -/
example :
    let pixels := #[[1], [2], [3],
                    [4], [5], [6]]
    (oriented { size := ⟨3, 2⟩, colour := .l8, pixels := some pixels } 5).pixels =
      some #[[1], [4],
             [2], [5],
             [3], [6]] := by
  decide +kernel

end Raster

end Thumbnailer
