/-
This file gives the exact reading of scale factors: they are rational numbers, and nothing is
rounded but the axes themselves. The laws about sizes are stated in this reading.
-/

import Mathlib.Algebra.Order.Field.Rat
import Thumbnailer.Scale

namespace Thumbnailer

namespace Rounding

/-- A whole number as an axis: nothing is below zero, and what exceeds the largest axis is the
largest axis. -/
def saturate (whole : Int) : UInt32 :=
  UInt32.ofNat (min whole.toNat largestAxis.toNat)

/-- The whole number of pixels nearest to a number; a half rounds up. -/
def nearest (number : Rat) : Int :=
  (number + 1 / 2).floor

end Rounding

instance : ScaleFactor Rat where
  unit := 1
  ratio target source := (target.toNat : Rat) / source.toNat
  lesser first second := min first second
  greater first second := max first second
  reduces scale := scale < 1
  wholeReciprocal scale := if 0 < scale then Rounding.saturate (1 / scale).floor else 1
  afterReduction scale shrink := scale * shrink.toNat
  resize axis scale := max (Rounding.saturate (Rounding.nearest (axis.toNat * scale))) 1
  usable scale := 0 < scale
  text scale := toString scale.num ++ "/" ++ toString scale.den

end Thumbnailer
