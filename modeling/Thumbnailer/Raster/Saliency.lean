/-
This file finds the most salient window of an image. Each pixel is scored by how much brightness
changes around it and by how far its colours are apart. A table of sums over all rectangles from
the corner gives the score of any window in four look-ups. Windows are tried on a grid that always
has both ends of each axis; the highest score wins, then the place nearest to the centre, then the
first in order from the top and from the left. An image whose pixels are unknown counts as plain.

The pixels of an image are counted in words of 32 bits, and so are the columns and the rows of the
table. An image for which one of these numbers is no word cannot be searched, and the checked way to
find a window gives none.
-/

import Thumbnailer.Raster.Convert

namespace Thumbnailer.Saliency

def brightness : Pixel → Nat
  | [red, green, blue] => (299 * red.toNat + 587 * green.toNat + 114 * blue.toNat) / 1000
  | _ => 0

/-- How far the colours of a pixel are apart. -/
def spread : Pixel → Nat
  | [red, green, blue] =>
    max (max red.toNat green.toNat) blue.toNat - min (min red.toNat green.toNat) blue.toNat
  | _ => 0

def distance (first second : Nat) : Nat :=
  (first - second) + (second - first)

/-- The score of a pixel: the changes of brightness across it, and half its spread of colour. At
the edge the pixel itself stands for the missing neighbour. -/
def score (pixel : Nat → Nat → Pixel) (width height column row : Nat) : Nat :=
  let bright := fun column row => brightness (pixel column row)
  distance (bright (min (column + 1) (width - 1)) row) (bright (column - 1) row) +
    distance (bright column (min (row + 1) (height - 1))) (bright column (row - 1)) +
    spread (pixel column row) / 2

/-- The scores of an image, row by row. -/
def scores (raster : Raster) : Array UInt32 :=
  let plain := (raster.convert .rgb8).pixels
  let width := raster.size.width.toNat
  let height := raster.size.height.toNat
  Array.ofFn fun place : Fin raster.size.area =>
    match plain with
    | none => 0
    | some pixels =>
      UInt32.ofNat
        (score (Raster.pixelIn pixels width) width height (place.val % width) (place.val / width))

/-! ### Sums over rectangles -/

/-- Extend the table by one entry of a row: the sum along the row so far, and the entry above. -/
def addEntry (values : Array UInt32) (width row : Nat) (state : Array UInt64 × UInt64)
    (column : Nat) : Array UInt64 × UInt64 :=
  match state with
  | (table, along) =>
    let sum := along + (values.getD (row * width + column) 0).toUInt64
    let above := table.getD (row * (width + 1) + column + 1) 0
    (table.push (above + sum), sum)

/-- Extend the table by one row, which starts with zero. -/
def addRow (values : Array UInt32) (width : Nat) (table : Array UInt64) (row : Nat) :
    Array UInt64 :=
  ((List.range width).foldl (addEntry values width row) (table.push 0, 0)).1

/-- The sums over the rectangles between the upper left corner and every place, with a row and a
column of zeros in front. -/
def sumTable (values : Array UInt32) (width height : Nat) : Array UInt64 :=
  (List.range height).foldl (addRow values width) (Array.replicate (width + 1) 0)

/-- The sum over a window, from a table whose rows have the given length. -/
def windowSum (table : Array UInt64) (stride left top width height : Nat) : UInt64 :=
  let entry := fun column row => table.getD (row * stride + column) 0
  entry (left + width) (top + height) + entry left top - entry (left + width) top -
    entry left (top + height)

/-! ### The grid -/

/-- The number of steps that a grid has along an axis, roughly. -/
def stepsPerAxis : Nat := 48

/-- The width of a step. -/
def gridStep (spare : Nat) : Nat :=
  max (spare / stepsPerAxis) 1

/-- The offsets tried along an axis: steps from zero, and the far end. -/
def offsets (spare : Nat) : List Nat :=
  let regular := (List.range (spare / gridStep spare + 1)).map (· * gridStep spare)
  if regular.getLast? = some spare then regular else regular ++ [spare]

/-- A place for the window, its score, and twice its distance from the centre. -/
structure Placement where
  score : UInt64
  offCentre : Nat
  left : Nat
  top : Nat

/-- Any placement is better than this one, unless it scores nothing and lies as far off. -/
def Placement.worst : Placement :=
  { score := 0, offCentre := 0x7FFFFFFFFFFFFFFF, left := 0, top := 0 }

/-- Whether the first placement is to be taken instead of the second. -/
def Placement.better (first second : Placement) : Bool :=
  second.score < first.score || (first.score = second.score && first.offCentre < second.offCentre)

/-- All placements on the grid, from the top and in each row from the left. -/
def placements (table : Array UInt64) (stride width height spareWidth spareHeight : Nat) :
    List Placement :=
  (offsets spareHeight).flatMap fun top =>
    (offsets spareWidth).map fun left =>
      { score := windowSum table stride left top width height
        offCentre := distance (2 * left) spareWidth + distance (2 * top) spareHeight
        left := left
        top := top }

/-- The best of the placements, the first of equals. -/
def best (candidates : List Placement) : Placement :=
  candidates.foldl (fun best placement => if placement.better best then placement else best) .worst

/-- The most salient window of a size, which is kept within the image. -/
def window (raster : Raster) (size : Size) : Region :=
  let kept := size.meet raster.size
  if kept = raster.size ∨ kept.width = 0 ∨ kept.height = 0 then
    { left := 0, top := 0, width := kept.width, height := kept.height }
  else
    let width := raster.size.width.toNat
    let height := raster.size.height.toNat
    let table := sumTable (scores raster) width height
    let chosen := best (placements table (width + 1) kept.width.toNat kept.height.toNat
      (width - kept.width.toNat) (height - kept.height.toNat))
    { left := UInt32.ofNat chosen.left, top := UInt32.ofNat chosen.top
      width := kept.width, height := kept.height }

/-- The numbers that a search counts with are words: that of all pixels, and the length and the
number of the rows of the table, which has one more of each than the image. -/
def Searchable (size : Size) : Prop :=
  size.area < UInt32.size ∧ size.width.toNat + 1 < UInt32.size ∧
    size.height.toNat + 1 < UInt32.size

instance : DecidablePred Searchable :=
  fun _ => inferInstanceAs (Decidable (_ ∧ _ ∧ _))

/-- The most salient window, if none needs to be searched for or the image can be searched. -/
def window? (raster : Raster) (size : Size) : Option Region :=
  let kept := size.meet raster.size
  if kept = raster.size ∨ kept.width = 0 ∨ kept.height = 0 ∨ Searchable raster.size then
    some (window raster size)
  else
    none

end Thumbnailer.Saliency
