/-
This file converts images between colour types. Samples of one family of colour change number
format only; grey samples become colour by way of floating point. An alpha that was not there is
full, and one that is not wanted is dropped. How colour becomes grey is a matter of weights that
are left to the codec, so such an image has unknown pixels here.

Floating point is single precision. A number is rounded to the nearest whole one, halves upwards.
-/

import Thumbnailer.Raster.Basic

namespace Thumbnailer.Raster

/-- The sample that stands for one. -/
def fullSample : Band → UInt32
  | .byte => 255
  | .word => 65535
  | .float => (1 : Float32).toBits

/-- The largest number of a whole-number band; one for floating point. -/
def bandLimit : Band → Float32
  | .byte => 255
  | .word => 65535
  | .float => 1

/-- The nearest whole number of a number that is not negative, at most the limit of the band. -/
def roundSample (band : Band) (number : Float32) : UInt32 :=
  let whole := number.toUInt32
  let rounded := if number - whole.toFloat32 ≥ 0.5 then whole + 1 else whole
  min rounded (bandLimit band).toUInt32

/-- A number kept between zero and one. -/
def clampUnit (number : Float32) : Float32 :=
  if number < 0 then 0 else if 1 < number then 1 else number

/-- A sample of the same family of colour in another number format. -/
def rescale (source target : Band) (sample : UInt32) : UInt32 :=
  match source, target with
  | .byte, .word => sample * 257
  | .word, .byte => (sample + 128) / 257
  | .byte, .float | .word, .float => (sample.toFloat32 / bandLimit source).toBits
  | .float, .byte | .float, .word =>
    roundSample target (clampUnit (Float32.ofBits sample) * bandLimit target)
  | .byte, .byte | .word, .word | .float, .float => sample

/-- A sample by way of floating point, as grey becomes colour. -/
def throughFloat (source target : Band) (sample : UInt32) : UInt32 :=
  let number :=
    match source with
    | .float => Float32.ofBits sample
    | _ => sample.toFloat32 * (1 / bandLimit source)
  match target with
  | .float => number.toBits
  | _ => roundSample target (number * bandLimit target)

/-- The samples of a pixel apart from alpha, and its alpha. -/
def splitAlpha (colour : Colour) (pixel : Pixel) : Pixel × Option UInt32 :=
  if colour.hasAlpha then (pixel.dropLast, pixel.getLast?) else (pixel, none)

/-- A pixel in another colour type of the same family, or from grey to colour. -/
def convertPixel (source target : Colour) (pixel : Pixel) : Pixel :=
  let parts := splitAlpha source pixel
  let change :=
    if source.isGrey && !target.isGrey then throughFloat source.band target.band
    else rescale source.band target.band
  let tones := parts.1.map change
  let spread :=
    if source.isGrey && !target.isGrey then tones.flatMap fun tone => [tone, tone, tone] else tones
  if target.hasAlpha then
    spread ++ [(parts.2.map change).getD (fullSample target.band)]
  else
    spread

def convert (raster : Raster) (target : Colour) : Raster :=
  { size := raster.size
    colour := target
    pixels :=
      if !raster.colour.isGrey && target.isGrey then none
      else raster.pixels.map fun pixels => pixels.map (convertPixel raster.colour target) }

/-! ### Alpha -/

def multiplyPixel : Pixel → Pixel
  | [red, green, blue, alpha] =>
    let weigh := fun sample => (Float32.ofBits sample * Float32.ofBits alpha).toBits
    [weigh red, weigh green, weigh blue, alpha]
  | pixel => pixel

/-- Colours divided by alpha, at most one; a pixel without alpha stays as it is. -/
def dividePixel : Pixel → Pixel
  | [red, green, blue, alpha] =>
    let share := Float32.ofBits alpha
    if 0 < share then
      let undo := fun sample =>
        let quotient := Float32.ofBits sample / share
        (if 1 < quotient then 1 else quotient).toBits
      [undo red, undo green, undo blue, alpha]
    else
      [red, green, blue, alpha]
  | pixel => pixel

def mapPixels (raster : Raster) (change : Pixel → Pixel) : Raster :=
  { raster with pixels := raster.pixels.map fun pixels => pixels.map change }

/-- The image in floating point with its colours multiplied by alpha. -/
def premultiplied (raster : Raster) : Raster :=
  (raster.convert .rgba32f).mapPixels multiplyPixel

/-- A floating-point image with its colours divided by alpha, in the given number format. -/
def unpremultiplied (raster : Raster) (band : Band) : Raster :=
  (raster.mapPixels dividePixel).convert (.chromatic true band)

end Thumbnailer.Raster
