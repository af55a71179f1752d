/-
This file holds the arithmetic of scale factors as an interface, so that one set of geometry
formulas serves two number systems: binary floating point, in which the program computes, and
exact rationals, in which laws about sizes are stated. It gives the floating-point reading.
-/

import Thumbnailer.Decimal

namespace Thumbnailer

/-- What the geometry formulas ask of a number that scales axes. -/
class ScaleFactor (Scale : Type) where
  /-- The factor that changes nothing. -/
  unit : Scale
  /-- The factor that takes the second axis to the first. -/
  ratio : UInt32 → UInt32 → Scale
  lesser : Scale → Scale → Scale
  greater : Scale → Scale → Scale
  /-- Whether the factor makes a picture smaller. -/
  reduces : Scale → Bool
  /-- The whole part of the reciprocal, at most the largest axis; one for a factor that is not
  positive. -/
  wholeReciprocal : Scale → UInt32
  /-- The factor that is left to do after an integer reduction. -/
  afterReduction : Scale → UInt32 → Scale
  /-- An axis times the factor, rounded with halves away from zero, at least one pixel and at
  most the largest axis. -/
  resize : UInt32 → Scale → UInt32
  /-- Whether an image can be scaled by the factor: it is positive and not beyond all bounds. -/
  usable : Scale → Bool
  text : Scale → String

namespace Rounding

def largestAxis : UInt64 := 4294967295

/-- A product rounded to a whole number of pixels. A half rounds up, nothing is below zero, and
what exceeds the largest axis is the largest axis. -/
def toAxis (number : Float) : UInt32 :=
  let whole := number.toUInt64
  if largestAxis ≤ whole then
    largestAxis.toUInt32
  else if number - whole.toFloat ≥ 0.5 then
    (whole + 1).toUInt32
  else
    whole.toUInt32

end Rounding

instance : ScaleFactor Float where
  unit := 1
  ratio target source := target.toFloat / source.toFloat
  lesser first second := if second < first then second else first
  greater first second := if first < second then second else first
  reduces scale := scale < 1
  wholeReciprocal scale := if 0 < scale then (1 / scale).toUInt32 else 1
  afterReduction scale shrink := scale * shrink.toFloat
  resize axis scale := max (Rounding.toAxis (axis.toFloat * scale)) 1
  usable scale := scale.isFinite && 0 < scale
  text := Decimal.text

end Thumbnailer
