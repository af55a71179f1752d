/-
This file carries the whole search for a window out in checked steps. Every number that the search
counts columns, rows or pixels with has to be a word of 32 bits, every array is only read within its
bounds, and the table is filled and looked up with every sum and every difference checked.

In a picture whose samples are bytes a pixel scores little, so the scores of all pixels come to a
word even if they are taken twice, and no look-up fails. What is left to fail are the words of 32
bits: the search in checked steps finds the window exactly where the picture can be searched, and is
stopped by a number that is no word everywhere else.
-/

import Mathlib.Algebra.Order.BigOperators.Group.List
import Thumbnailer.Proofs.Rearrangement
import Thumbnailer.Proofs.Saliency.Checked
import Thumbnailer.Proofs.Saliency.Grid

namespace Thumbnailer.Saliency

/-! ### The search in checked steps -/

namespace Checked

/-- The pixel in a column and a row. -/
def pixel (pixels : Array Pixel) (width column row : Nat) : Except Slip Pixel := do
  let start ← word (row * width)
  let place ← word (start + column)
  read pixels place

/-- The score of a pixel, from the pixels to its right and left, below and above it. -/
def score (pixels : Array Pixel) (width height column row : Nat) : Except Slip UInt32 := do
  let next ← word (column + 1)
  let right ← pixel pixels width (min next (width - 1)) row
  let left ← pixel pixels width (column - 1) row
  let under ← word (row + 1)
  let below ← pixel pixels width column (min under (height - 1))
  let above ← pixel pixels width column (row - 1)
  let own ← pixel pixels width column row
  let sum ← word (distance (brightness right) (brightness left) +
    distance (brightness below) (brightness above) + spread own / 2)
  return UInt32.ofNat sum

/-- The scores of an image, row by row. -/
def scores (raster : Raster) : Except Slip (Array UInt32) := do
  let width := raster.size.width.toNat
  let height := raster.size.height.toNat
  let count ← word (width * height)
  match (raster.convert .rgb8).pixels with
  | none => return Array.replicate count 0
  | some pixels =>
    let values ← (List.range count).mapM fun place =>
      score pixels width height (place % width) (place / width)
    return values.toArray

/-- All placements on the grid, from the top and in each row from the left. -/
def placements (table : Array UInt64) (stride width height spareWidth spareHeight : Nat) :
    Except Slip (List Placement) :=
  let places := (offsets spareHeight).flatMap fun top =>
    (offsets spareWidth).map fun left => (left, top)
  places.mapM fun place => do
    let score ← windowSum table stride place.1 place.2 width height
    return {
      score := score
      offCentre := distance (2 * place.1) spareWidth + distance (2 * place.2) spareHeight
      left := place.1
      top := place.2 }

/-- The most salient window of a size, which is kept within the image. -/
def window (raster : Raster) (size : Size) : Except Slip Region :=
  let kept := size.meet raster.size
  if kept = raster.size ∨ kept.width = 0 ∨ kept.height = 0 then
    return { left := 0, top := 0, width := kept.width, height := kept.height }
  else do
    let width := raster.size.width.toNat
    let height := raster.size.height.toNat
    let values ← scores raster
    let table ← sumTable values width height
    let stride ← word (width + 1)
    let tried ← placements table stride kept.width.toNat kept.height.toNat
      (width - kept.width.toNat) (height - kept.height.toNat)
    let chosen := best tried
    return { left := UInt32.ofNat chosen.left, top := UInt32.ofNat chosen.top
             width := kept.width, height := kept.height }

/-- If every step goes through, then so does all of them one after the other. -/
theorem mapM_eq_ok {Entry Result : Type} {step : Entry → Except Slip Result}
    {result : Entry → Result} {entries : List Entry}
    (goes : ∀ entry ∈ entries, step entry = .ok (result entry)) :
    entries.mapM step = .ok (entries.map result) := by
  induction entries with
  | nil => rfl
  | cons first rest inductionHypothesis =>
    obtain ⟨now, later⟩ := List.forall_mem_cons.1 goes
    rw [List.mapM_cons, now, inductionHypothesis later]
    rfl

end Checked

/-! ### Scores -/

/-- A conversion to colours keeps what is known of the pixels. -/
theorem pixels_convert_rgb8 (raster : Raster) :
    (raster.convert .rgb8).pixels =
      raster.pixels.map fun pixels => pixels.map (Raster.convertPixel raster.colour .rgb8) := by
  rw [Raster.convert]
  exact if_neg (by simp [Colour.isGrey])

/-- As colours in bytes the image has all its pixels, if they are known, and each sample is a
byte. -/
def InBytes (raster : Raster) : Prop :=
  ∀ pixels, (raster.convert .rgb8).pixels = some pixels →
    pixels.size = raster.size.area ∧ ∀ pixel ∈ pixels, ∀ sample ∈ pixel, sample.toNat < 256

/-- As many known pixels as the picture has are in bytes if a run over their samples says so. -/
theorem inBytes_of_all {raster : Raster} {pixels : Array Pixel}
    (known : (raster.convert .rgb8).pixels = some pixels) (all : pixels.size = raster.size.area)
    (bytes : pixels.toList.all fun pixel => pixel.all fun sample => sample.toNat < 256) :
    InBytes raster := by
  intro others same
  obtain rfl := Option.some.inj (known.symm.trans same)
  refine ⟨all, fun pixel member sample inPixel => ?_⟩
  have ofPixel := List.all_eq_true.1 bytes pixel (Array.mem_toList_iff.2 member)
  exact of_decide_eq_true (List.all_eq_true.1 ofPixel sample inPixel)

/-- A picture of one colour is in bytes if that colour is. -/
theorem inBytes_of_replicate {raster : Raster} {pixel : Pixel}
    (plain : raster.pixels = some (Array.replicate raster.size.area pixel))
    (bytes : (Raster.convertPixel raster.colour .rgb8 pixel).all fun sample => sample.toNat < 256) :
    InBytes raster := by
  have known := pixels_convert_rgb8 raster
  rw [plain, Option.map_some, Array.map_replicate] at known
  refine inBytes_of_all known Array.size_replicate (List.all_eq_true.2 fun other member => ?_)
  rw [Array.eq_of_mem_replicate (Array.mem_toList_iff.1 member)]
  exact bytes

theorem brightness_lt {pixel : Pixel} (bytes : ∀ sample ∈ pixel, sample.toNat < 256) :
    brightness pixel < 256 := by
  unfold brightness
  split
  case h_1 red green blue =>
    simp only [List.forall_mem_cons] at bytes
    omega
  case h_2 => decide

theorem spread_lt {pixel : Pixel} (bytes : ∀ sample ∈ pixel, sample.toNat < 256) :
    spread pixel < 256 := by
  unfold spread
  split
  case h_1 red green blue =>
    simp only [List.forall_mem_cons] at bytes
    omega
  case h_2 => decide

section Scores

variable {pixels : Array Pixel}

/-- A place beyond the pixels shows a pixel without samples. -/
theorem sample_pixelIn_lt (bytes : ∀ pixel ∈ pixels, ∀ sample ∈ pixel, sample.toNat < 256)
    (width column row : Nat) :
    ∀ sample ∈ Raster.pixelIn pixels width column row, sample.toNat < 256 := by
  rw [Raster.pixelIn, Array.getD_eq_getD_getElem?]
  cases found : pixels[row * width + column]? with
  | none => exact List.forall_mem_nil _
  | some pixel => exact bytes pixel (Array.mem_of_getElem? found)

theorem score_lt (bytes : ∀ pixel ∈ pixels, ∀ sample ∈ pixel, sample.toNat < 256)
    (width height column row : Nat) :
    score (Raster.pixelIn pixels width) width height column row < 1024 := by
  have bright := fun column row => brightness_lt (sample_pixelIn_lt bytes width column row)
  have right := bright (min (column + 1) (width - 1)) row
  have left := bright (column - 1) row
  have below := bright column (min (row + 1) (height - 1))
  have above := bright column (row - 1)
  have apart := spread_lt (sample_pixelIn_lt bytes width column row)
  unfold score distance
  dsimp only
  omega

variable {size : Size} {column row : Nat}

theorem checked_pixel (complete : pixels.size = size.area) (few : size.area < UInt32.size)
    (has : Raster.Has size column row) :
    Checked.pixel pixels size.width.toNat column row =
      .ok (Raster.pixelIn pixels size.width.toNat column row) := by
  have within := Raster.index_lt_area has
  rw [Checked.pixel, Checked.word_of_lt (by omega)]
  change (Checked.word (row * size.width.toNat + column) >>= Checked.read pixels) = _
  rw [Checked.word_of_lt (by omega)]
  exact Checked.read_of_lt (complete ▸ within) []

theorem checked_score (complete : pixels.size = size.area) (few : size.area < UInt32.size)
    (bytes : ∀ pixel ∈ pixels, ∀ sample ∈ pixel, sample.toNat < 256)
    (has : Raster.Has size column row) :
    Checked.score pixels size.width.toNat size.height.toNat column row =
      .ok (UInt32.ofNat (score (Raster.pixelIn pixels size.width.toNat) size.width.toNat
        size.height.toNat column row)) := by
  obtain ⟨across, down⟩ := has
  have right : Raster.Has size (min (column + 1) (size.width.toNat - 1)) row := ⟨by omega, down⟩
  have left : Raster.Has size (column - 1) row := ⟨by omega, down⟩
  have below : Raster.Has size column (min (row + 1) (size.height.toNat - 1)) :=
    ⟨across, by omega⟩
  have above : Raster.Has size column (row - 1) := ⟨across, by omega⟩
  have next : column + 1 < UInt32.size := Nat.lt_of_le_of_lt across size.width.toNat_lt_size
  have under : row + 1 < UInt32.size := Nat.lt_of_le_of_lt down size.height.toNat_lt_size
  have sum := (score_lt bytes size.width.toNat size.height.toNat column row).trans
    (show 1024 < UInt32.size by decide)
  simp only [Checked.score, Checked.word_of_lt next, Checked.word_of_lt under,
    checked_pixel complete few right, checked_pixel complete few left,
    checked_pixel complete few below, checked_pixel complete few above,
    checked_pixel complete few ⟨across, down⟩, bind, Except.bind]
  simp only [score] at sum ⊢
  rw [Checked.word_of_lt sum]
  rfl

end Scores

section Scored

variable {raster : Raster}

theorem size_scores (raster : Raster) : (scores raster).size = raster.size.area :=
  Array.size_ofFn

/-- The score of the pixel at an index. -/
def scoreAt (pixels : Array Pixel) (size : Size) (index : Nat) : UInt32 :=
  UInt32.ofNat (score (Raster.pixelIn pixels size.width.toNat) size.width.toNat size.height.toNat
    (index % size.width.toNat) (index / size.width.toNat))

theorem getElem_scores {pixels : Array Pixel}
    (known : (raster.convert .rgb8).pixels = some pixels) {index : Nat}
    (inside : index < (scores raster).size) :
    (scores raster)[index] = scoreAt pixels raster.size index := by
  simp only [scores, Array.getElem_ofFn, known, scoreAt]

/-- An image whose pixels are not known scores nothing. -/
theorem scores_of_unknown (unknown : (raster.convert .rgb8).pixels = none) :
    scores raster = Array.replicate raster.size.area 0 := by
  refine Array.ext ((size_scores raster).trans Array.size_replicate.symm) fun place inside _ => ?_
  simp only [scores, Array.getElem_ofFn, unknown, Array.getElem_replicate]

theorem checked_scores (bytes : InBytes raster) (few : raster.size.area < UInt32.size) :
    Checked.scores raster = .ok (scores raster) := by
  unfold Checked.scores
  dsimp only
  rw [show Checked.word (raster.size.width.toNat * raster.size.height.toNat) =
    .ok raster.size.area from Checked.word_of_lt few]
  cases known : (raster.convert .rgb8).pixels with
  | none => exact congrArg Except.ok (scores_of_unknown known).symm
  | some pixels =>
    obtain ⟨complete, samples⟩ := bytes pixels known
    have goes : (List.range raster.size.area).mapM (fun index =>
        Checked.score pixels raster.size.width.toNat raster.size.height.toNat
          (index % raster.size.width.toNat) (index / raster.size.width.toNat)) =
          .ok ((List.range raster.size.area).map (scoreAt pixels raster.size)) :=
      Checked.mapM_eq_ok fun index member =>
        checked_score complete few samples (Raster.has_of_lt_area (List.mem_range.1 member))
    have same : ((List.range raster.size.area).map (scoreAt pixels raster.size)).toArray =
        scores raster := by
      refine Array.ext (by simp [size_scores]) fun index _ inside => ?_
      simp [getElem_scores known inside]
    simp only [bind, Except.bind] at goes ⊢
    rw [goes]
    exact congrArg Except.ok same

/-- No score is large. -/
theorem toNat_score_le (bytes : InBytes raster) {value : UInt32} (member : value ∈ scores raster) :
    value.toNat ≤ 1024 := by
  obtain ⟨index, inside, rfl⟩ := Array.mem_iff_getElem.1 member
  cases known : (raster.convert .rgb8).pixels with
  | none => simp [scores_of_unknown known]
  | some pixels =>
    rw [getElem_scores known inside, scoreAt, UInt32.toNat_ofNat']
    exact (Nat.mod_le _ _).trans (score_lt (bytes pixels known).2 _ _ _ _).le

/-- The scores come to a word even if they are taken twice. -/
theorem twice_scores_lt (bytes : InBytes raster) (few : raster.size.area < UInt32.size) :
    2 * ((scores raster).toList.map UInt32.toNat).sum < UInt64.size := by
  have bounded := List.sum_le_card_nsmul ((scores raster).toList.map UInt32.toNat) 1024 (by
    simp only [List.forall_mem_map, Array.mem_toList_iff]
    exact fun value member => toNat_score_le bytes member)
  rw [List.length_map, Array.length_toList, size_scores, smul_eq_mul] at bounded
  have limit : 2 * (UInt32.size * 1024) < UInt64.size := by decide
  omega

end Scored

/-! ### The search -/

section Search

variable {raster : Raster} {kept : Size}

/-- Every placement on the grid of a table of scores is looked up without a slip. -/
theorem checked_placements (bytes : InBytes raster) (few : raster.size.area < UInt32.size)
    (narrow : kept.width.toNat ≤ raster.size.width.toNat)
    (low : kept.height.toNat ≤ raster.size.height.toNat) :
    let table := sumTable (scores raster) raster.size.width.toNat raster.size.height.toNat
    Checked.placements table (raster.size.width.toNat + 1) kept.width.toNat kept.height.toNat
        (raster.size.width.toNat - kept.width.toNat)
        (raster.size.height.toNat - kept.height.toNat) =
      .ok (placements table (raster.size.width.toNat + 1) kept.width.toNat kept.height.toNat
        (raster.size.width.toNat - kept.width.toNat)
        (raster.size.height.toNat - kept.height.toNat)) := by
  intro table
  unfold Checked.placements placements
  dsimp only
  have goes : ∀ place ∈ (offsets (raster.size.height.toNat - kept.height.toNat)).flatMap
      (fun top => (offsets (raster.size.width.toNat - kept.width.toNat)).map fun left =>
        (left, top)),
      Checked.windowSum table (raster.size.width.toNat + 1) place.1 place.2 kept.width.toNat
          kept.height.toNat =
        .ok (windowSum table (raster.size.width.toNat + 1) place.1 place.2 kept.width.toNat
          kept.height.toNat) := by
    intro place member
    obtain ⟨top, onHeight, inRow⟩ := List.mem_flatMap.1 member
    obtain ⟨left, onWidth, rfl⟩ := List.mem_map.1 inRow
    have across := le_of_mem_offsets onWidth
    have down := le_of_mem_offsets onHeight
    exact checked_windowSum_of_twice (size_scores raster) (twice_scores_lt bytes few)
      (by dsimp only; omega) (by dsimp only; omega)
  rw [Checked.mapM_eq_ok fun place member => by rw [goes place member]; rfl, List.map_flatMap]
  simp only [List.map_map, Function.comp_def]

/-- Where pixels are too many for a word, the search is stopped as it counts them. -/
theorem checked_scores_of_many (many : ¬raster.size.area < UInt32.size) :
    Checked.scores raster = .error .overflow := by
  unfold Checked.scores
  dsimp only
  rw [show Checked.word (raster.size.width.toNat * raster.size.height.toNat) = .error .overflow
    from Checked.word_of_not_lt many]
  rfl

/-- Where the size asked for leaves nothing to choose, no search is needed. -/
theorem window?_of_no_choice {size : Size}
    (simple : size.meet raster.size = raster.size ∨ (size.meet raster.size).width = 0 ∨
      (size.meet raster.size).height = 0) : window? raster size = some (window raster size) := by
  refine if_pos ?_
  simp only [← or_assoc] at simple ⊢
  exact .inl simple

/-- Elsewhere the window is found exactly if the picture can be searched. -/
theorem window?_of_choice {size : Size}
    (choice : ¬(size.meet raster.size = raster.size ∨ (size.meet raster.size).width = 0 ∨
      (size.meet raster.size).height = 0)) :
    window? raster size =
      if Searchable raster.size then some (window raster size) else none := by
  refine if_congr ?_ rfl rfl
  simp only [← or_assoc] at choice ⊢
  exact or_iff_right choice

/-- In a picture in bytes the search in checked steps finds the window where the picture can be
searched, and is stopped by a number that is no word where it cannot. -/
theorem checked_window (bytes : InBytes raster) (size : Size) :
    Checked.window raster size = (window? raster size).elim (.error .overflow) .ok := by
  have narrow : (size.meet raster.size).width.toNat ≤ raster.size.width.toNat :=
    UInt32.le_iff_toNat_le.1 (size.along_meet_le_right raster.size .width)
  have low : (size.meet raster.size).height.toNat ≤ raster.size.height.toNat :=
    UInt32.le_iff_toNat_le.1 (size.along_meet_le_right raster.size .height)
  by_cases simple : size.meet raster.size = raster.size ∨ (size.meet raster.size).width = 0 ∨
      (size.meet raster.size).height = 0
  · rw [window?_of_no_choice simple, Checked.window, window]
    dsimp only
    rw [if_pos simple, if_pos simple]
    rfl
  · rw [window?_of_choice simple, Checked.window, window]
    dsimp only
    rw [if_neg simple, if_neg simple]
    split
    case isTrue searchable =>
      obtain ⟨few, wide, high⟩ := searchable
      have word : ((scores raster).toList.map UInt32.toNat).sum < UInt64.size :=
        (Nat.le_mul_of_pos_left _ Nat.two_pos).trans_lt (twice_scores_lt bytes few)
      rw [checked_scores bytes few]
      simp only [bind, Except.bind, checked_sumTable (size_scores raster) word wide high,
        Checked.word_of_lt wide, checked_placements bytes few narrow low]
      rfl
    case isFalse unsearchable =>
      by_cases few : raster.size.area < UInt32.size
      · rw [checked_scores bytes few]
        simp only [bind, Except.bind,
          checked_sumTable_of_long fun both => unsearchable ⟨few, both⟩]
        rfl
      · rw [checked_scores_of_many few]
        rfl

/-- Where all of the picture is kept or it can be searched, the window is found. -/
theorem window?_of_findable {size : Size}
    (findable : size.meet raster.size = raster.size ∨ Searchable raster.size) :
    window? raster size = some (window raster size) := by
  refine if_pos ?_
  obtain whole | searchable := findable
  · exact .inl whole
  · exact .inr (.inr (.inr searchable))

/-- So is it in checked steps. -/
theorem checked_window_of_findable {size : Size}
    (findable : size.meet raster.size = raster.size ∨ Searchable raster.size)
    (bytes : InBytes raster) : Checked.window raster size = .ok (window raster size) := by
  rw [checked_window bytes, window?_of_findable findable]
  rfl

end Search

end Thumbnailer.Saliency
