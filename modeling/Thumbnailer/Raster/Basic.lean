/-
This file holds pixel images: a size, a colour type, and the pixels row by row. The pixels can be
unknown, which is how an image stands whose samples came out of a lossy codec or a resampling
kernel; its size and colour type are known all the same. Turns, mirroring and windows only move
pixels, and each is given by where its pixels come from.
-/

import Thumbnailer.Size

namespace Thumbnailer

/-- The colour types: grey or colour, with alpha or without, in bytes, words or floating point. -/
inductive Colour where
  | l8
  | la8
  | rgb8
  | rgba8
  | l16
  | la16
  | rgb16
  | rgba16
  | rgb32f
  | rgba32f
  deriving DecidableEq, Repr

namespace Colour

def all : List Colour :=
  [.l8, .la8, .rgb8, .rgba8, .l16, .la16, .rgb16, .rgba16, .rgb32f, .rgba32f]

def isGrey : Colour → Bool
  | .l8 | .la8 | .l16 | .la16 => true
  | _ => false

def hasAlpha : Colour → Bool
  | .la8 | .rgba8 | .la16 | .rgba16 | .rgba32f => true
  | _ => false

def band : Colour → Band
  | .l8 | .la8 | .rgb8 | .rgba8 => .byte
  | .l16 | .la16 | .rgb16 | .rgba16 => .word
  | .rgb32f | .rgba32f => .float

def channels (colour : Colour) : Nat :=
  (if colour.isGrey then 1 else 3) + (if colour.hasAlpha then 1 else 0)

/-- The type of colours that are not grey. -/
def chromatic (alpha : Bool) : Band → Colour
  | .byte => if alpha then .rgba8 else .rgb8
  | .word => if alpha then .rgba16 else .rgb16
  | .float => if alpha then .rgba32f else .rgb32f

def name : Colour → String
  | .l8 => "l8"
  | .la8 => "la8"
  | .rgb8 => "rgb8"
  | .rgba8 => "rgba8"
  | .l16 => "l16"
  | .la16 => "la16"
  | .rgb16 => "rgb16"
  | .rgba16 => "rgba16"
  | .rgb32f => "rgb32f"
  | .rgba32f => "rgba32f"

/-- The name as it stands in messages. -/
def title : Colour → String
  | .l8 => "L8"
  | .la8 => "La8"
  | .rgb8 => "Rgb8"
  | .rgba8 => "Rgba8"
  | .l16 => "L16"
  | .la16 => "La16"
  | .rgb16 => "Rgb16"
  | .rgba16 => "Rgba16"
  | .rgb32f => "Rgb32F"
  | .rgba32f => "Rgba32F"

/-- How the bands of an image of this type are read. -/
def interpretation : Colour → Interpretation
  | .l8 | .la8 => .bw
  | .l16 | .la16 => .grey16
  | .rgb8 | .rgba8 => .srgb
  | .rgb16 | .rgba16 => .rgb16
  | .rgb32f | .rgba32f => .scrgb

/-- The type that an image is converted to for an interpretation; its alpha stays. -/
def forInterpretation (alpha : Bool) : Interpretation → Colour
  | .srgb => chromatic alpha .byte
  | .rgb16 => chromatic alpha .word
  | .scrgb => chromatic alpha .float
  | .bw => if alpha then .la8 else .l8
  | .grey16 => if alpha then .la16 else .l16

end Colour

def Band.bytes : Band → Nat
  | .byte => 1
  | .word => 2
  | .float => 4

/-- The samples of one pixel: numbers for bytes and words, bits for floating point. -/
abbrev Pixel := List UInt32

structure Raster where
  size : Size
  colour : Colour
  /-- Pixels row by row from the top, each row from the left; nothing if they are unknown. -/
  pixels : Option (Array Pixel)
  deriving DecidableEq

namespace Raster

def byteCount (raster : Raster) : Nat :=
  raster.size.area * raster.colour.channels * raster.colour.band.bytes

/-- The pixel in a column and a row, of an array with rows of the given width. -/
def pixelIn (pixels : Array Pixel) (width column row : Nat) : Pixel :=
  pixels.getD (row * width + column) []

/-- The pixel in a column and a row; nothing if it is unknown. -/
def pixel? (raster : Raster) (column row : Nat) : Option Pixel :=
  raster.pixels.map fun pixels => pixelIn pixels raster.size.width.toNat column row

/-- Pixels of the given size, each told by its column and row. -/
def tabulate (size : Size) (pixel : Nat → Nat → Pixel) : Array Pixel :=
  Array.ofFn fun place : Fin size.area =>
    pixel (place.val % size.width.toNat) (place.val / size.width.toNat)

/-- An image of another size whose pixels are taken from the places told by a map of columns and
rows. -/
def rearrange (raster : Raster) (size : Size) (source : Nat → Nat → Nat × Nat) : Raster :=
  { size := size
    colour := raster.colour
    pixels := raster.pixels.map fun pixels =>
      tabulate size fun column row =>
        let place := source column row
        pixelIn pixels raster.size.width.toNat place.1 place.2 }

/-- Where a pixel of the turned image comes from, in an image of this size. -/
def turnSource (size : Size) (turn : Turn) (column row : Nat) : Nat × Nat :=
  match turn with
  | .none => (column, row)
  | .quarter => (row, size.height.toNat - 1 - column)
  | .half => (size.width.toNat - 1 - column, size.height.toNat - 1 - row)
  | .threeQuarters => (size.width.toNat - 1 - row, column)

def turned (raster : Raster) (turn : Turn) : Raster :=
  raster.rearrange (turn.apply raster.size) (turnSource raster.size turn)

def mirrored (raster : Raster) : Raster :=
  raster.rearrange raster.size fun column row => (raster.size.width.toNat - 1 - column, row)

def window (raster : Raster) (region : Region) : Raster :=
  raster.rearrange region.size fun column row =>
    (region.left.toNat + column, region.top.toNat + row)

/-- An image of this size and colour type whose pixels are unknown. -/
def unknown (size : Size) (colour : Colour) : Raster :=
  { size := size, colour := colour, pixels := none }

end Raster

end Thumbnailer
