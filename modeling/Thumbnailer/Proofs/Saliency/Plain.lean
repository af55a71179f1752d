/-
This file shows that a picture of one colour is cropped at its centre. Brightness changes nowhere in
it, at the edge no more than inside, as the pixel itself stands for the missing neighbour; so every
pixel scores half the spread of the colour, and every window scores the same. What is left to decide
is the distance from the centre, which is a sum over the axes. The place that is chosen is therefore
the nearest along each axis by itself, and the grid has a place within half a step.
-/

import Thumbnailer.Proofs.Rearrangement
import Thumbnailer.Proofs.Saliency.Choice

namespace Thumbnailer.Saliency

/-! ### One colour -/

/-- Every pixel of the picture is the same. -/
def Plain (raster : Raster) (pixel : Pixel) : Prop :=
  raster.pixels = some (Array.replicate raster.size.area pixel)

theorem pixelIn_replicate {size : Size} {pixel : Pixel} {column row : Nat}
    (has : Raster.Has size column row) :
    Raster.pixelIn (Array.replicate size.area pixel) size.width.toNat column row = pixel := by
  rw [Raster.pixelIn, Array.getD_eq_getD_getElem?, Array.getElem?_replicate,
    if_pos (Raster.index_lt_area has), Option.getD_some]

theorem distance_self (number : Nat) : distance number number = 0 := by
  unfold distance
  omega

/-- The score of a pixel among its like is half the spread of its colour. -/
theorem score_replicate {size : Size} {pixel : Pixel} {column row : Nat}
    (has : Raster.Has size column row) :
    score (Raster.pixelIn (Array.replicate size.area pixel) size.width.toNat) size.width.toNat
      size.height.toNat column row = spread pixel / 2 := by
  obtain ⟨across, down⟩ := has
  have right : Raster.Has size (min (column + 1) (size.width.toNat - 1)) row :=
    ⟨by omega, down⟩
  have left : Raster.Has size (column - 1) row := ⟨by omega, down⟩
  have below : Raster.Has size column (min (row + 1) (size.height.toNat - 1)) :=
    ⟨across, by omega⟩
  have above : Raster.Has size column (row - 1) := ⟨across, by omega⟩
  simp only [score, pixelIn_replicate right, pixelIn_replicate left, pixelIn_replicate below,
    pixelIn_replicate above, pixelIn_replicate ⟨across, down⟩, distance_self, Nat.zero_add]

/-- All pixels of a plain picture score the same. -/
theorem Plain.scores_eq {raster : Raster} {pixel : Pixel} (plain : Plain raster pixel) :
    scores raster = Array.replicate raster.size.area
      (UInt32.ofNat (spread (Raster.convertPixel raster.colour .rgb8 pixel) / 2)) := by
  have converted : (raster.convert .rgb8).pixels = some (Array.replicate raster.size.area
      (Raster.convertPixel raster.colour .rgb8 pixel)) := by
    rw [pixels_convert_rgb8, plain, Option.map_some, Array.map_replicate]
  refine Array.ext ((size_scores raster).trans Array.size_replicate.symm) fun index inside _ => ?_
  have has := Raster.has_of_lt_area (size_scores raster ▸ inside)
  rw [getElem_scores converted inside, scoreAt, score_replicate has, Array.getElem_replicate]

/-! ### Windows that score the same -/

section Uniform

variable {raster : Raster} {kept : Size} {value : UInt32}

/-- Where every pixel scores the same, a window scores that much for each of its pixels. -/
theorem salience_uniform (uniform : scores raster = Array.replicate raster.size.area value)
    {left top : Nat} (across : left + kept.width.toNat ≤ raster.size.width.toNat)
    (down : top + kept.height.toNat ≤ raster.size.height.toNat) :
    salience raster kept left top = kept.height.toNat * (kept.width.toNat * value.toNat) := by
  refine windowTotal_uniform fun column inColumns row inRows => ?_
  have has : Raster.Has raster.size (left + column) (top + row) := ⟨by omega, by omega⟩
  rw [valueIn, uniform, Array.getD_eq_getD_getElem?, Array.getElem?_replicate,
    if_pos (Raster.index_lt_area has), Option.getD_some]

/-- Of windows that score the same the chosen one is the nearest. -/
theorem FirstBest.remoteness_le {chosen : Placement}
    (first : FirstBest (candidates raster kept) chosen) (within : Within kept raster)
    (uniform : scores raster = Array.replicate raster.size.area value) {left top : Nat}
    (onWidth : left ∈ offsets (spareWidth raster kept))
    (onHeight : top ∈ offsets (spareHeight raster kept)) :
    remoteness raster kept chosen.left chosen.top ≤ remoteness raster kept left top := by
  have same {left top : Nat} (onWidth : left ∈ offsets (spareWidth raster kept))
      (onHeight : top ∈ offsets (spareHeight raster kept)) :
      salience raster kept left top = kept.height.toNat * (kept.width.toNat * value.toNat) := by
    have width := within.width
    have height := within.height
    have across := le_of_mem_offsets onWidth
    have down := le_of_mem_offsets onHeight
    unfold spareWidth at across
    unfold spareHeight at down
    exact salience_uniform uniform (by omega) (by omega)
  by_cases chosenIs : (left, top) = (chosen.left, chosen.top)
  · cases chosenIs
    exact Nat.le_refl _
  · have preferred := first.preferred within onWidth onHeight chosenIs
    obtain ⟨chosenWidth, chosenHeight, -⟩ := within.appraised first.mem
    unfold Preferred at preferred
    rw [same onWidth onHeight, same chosenWidth chosenHeight] at preferred
    omega

end Uniform

/-- Some offset of the grid is no further than a step off the centre, counted twice. -/
theorem exists_offCentre_le (spare : Nat) :
    ∃ offset ∈ offsets spare, offCentre spare offset ≤ max (spare / 48) 1 := by
  obtain ⟨offset, member, above, below⟩ := exists_central_offset spare
  refine ⟨offset, member, ?_⟩
  unfold gridStep stepsPerAxis at above below
  unfold offCentre
  omega

/-- In a picture of one colour a window is found if all of it is kept or it can be searched, and the
window lies within half a step of the centre, along each axis. -/
theorem offCentre_window_of_plain {raster : Raster} {pixel : Pixel} (plain : Plain raster pixel)
    (size : Size) (findable : size.meet raster.size = raster.size ∨ Searchable raster.size)
    (across : (size.meet raster.size).width ≠ 0) (down : (size.meet raster.size).height ≠ 0) :
    let kept := size.meet raster.size
    let chosen := window raster size
    window? raster size = some chosen ∧
      (InBytes raster → Checked.window raster size = .ok chosen) ∧
      offCentre (spareWidth raster kept) chosen.left.toNat ≤ max (spareWidth raster kept / 48) 1 ∧
      offCentre (spareHeight raster kept) chosen.top.toNat ≤
        max (spareHeight raster kept / 48) 1 := by
  refine ⟨window?_of_findable findable, checked_window_of_findable findable, ?_⟩
  by_cases whole : size.meet raster.size = raster.size
  · have corner : window raster size = ⟨0, 0, raster.size.width, raster.size.height⟩ := by
      unfold window
      dsimp only
      rw [whole, if_pos (.inl rfl)]
    simp only [corner, whole, spareWidth, spareHeight, Nat.sub_self]
    decide
  · have searchable : Searchable raster.size := findable.resolve_left whole
    obtain ⟨within, best, first, leftIs, topIs⟩ := exists_firstBest searchable.1 whole across down
    obtain ⟨onWidth, onHeight, -⟩ := within.appraised first.mem
    obtain ⟨left, atLeft, leftNear⟩ := exists_offCentre_le
      (spareWidth raster (size.meet raster.size))
    obtain ⟨top, atTop, topNear⟩ := exists_offCentre_le (spareHeight raster (size.meet raster.size))
    -- Moving along one axis alone to the place near the centre would come no nearer.
    have sideways := first.remoteness_le within plain.scores_eq atLeft onHeight
    have upwards := first.remoteness_le within plain.scores_eq onWidth atTop
    unfold remoteness at sideways upwards
    simp only [leftIs, topIs]
    omega

/-- A dull picture, in which no window of three by two pixels lies at the centre exactly. -/
def dull : Raster :=
  { size := ⟨8, 3⟩, colour := .rgb8, pixels := some (Array.replicate 24 [90, 60, 30]) }

theorem offCentre_window_of_plain_dull :
    (Plain dull [90, 60, 30] ∧ Searchable dull.size ∧ Size.meet ⟨3, 2⟩ dull.size = ⟨3, 2⟩) ∧
      Checked.window dull ⟨3, 2⟩ = .ok ⟨2, 0, 3, 2⟩ ∧ offCentre 5 2 ≤ max (5 / 48) 1 ∧
        offCentre 1 0 ≤ max (1 / 48) 1 := by
  have plain : Plain dull [90, 60, 30] := rfl
  have chosen : window dull ⟨3, 2⟩ = ⟨2, 0, 3, 2⟩ := by decide +kernel
  obtain ⟨-, goes, central⟩ := offCentre_window_of_plain plain ⟨3, 2⟩ (.inr (by decide)) (by decide)
    (by decide)
  rw [chosen] at goes central
  exact ⟨⟨plain, by decide, by decide⟩, goes (inBytes_of_replicate plain rfl), central⟩

/-- A grey column of as many pixels as a word can tell. -/
def tallColumn : Raster :=
  { size := ⟨1, 4294967295⟩, colour := .rgb8
    pixels := some (Array.replicate (Size.area ⟨1, 4294967295⟩) [9, 9, 9]) }

/-- The pixels of the column are of one colour and are counted by a word, but the number of the
table's rows is none: there is no window, at the centre or elsewhere. -/
theorem window_tallColumn :
    (Plain tallColumn [9, 9, 9] ∧ tallColumn.size.area < UInt32.size ∧
        Size.meet ⟨1, 1⟩ tallColumn.size = ⟨1, 1⟩) ∧
      Checked.window tallColumn ⟨1, 1⟩ = .error .overflow ∧
        window? tallColumn ⟨1, 1⟩ = none := by
  have plain : Plain tallColumn [9, 9, 9] := rfl
  have lost : window? tallColumn ⟨1, 1⟩ = none := by
    unfold window?
    exact if_neg (by decide)
  refine ⟨⟨plain, by decide, by decide⟩, ?_, lost⟩
  rw [checked_window (inBytes_of_replicate plain rfl), lost]
  rfl

end Thumbnailer.Saliency
