/-
This file plans the geometry of a request from sizes alone, without any pixels. Sizes are those of
the picture as it will be seen. The target box is first clamped to the picture, then a scale factor
is read off the axis ratios; for formats that can be decoded at reduced size the whole part of the
reduction is left to the decoder and the rest stays in the factor. What a scaled picture has over
its target is cut off by a window that gravity places.
-/

import Thumbnailer.Options
import Thumbnailer.Scale
import Thumbnailer.Size

namespace Thumbnailer

variable {Scale : Type} [ScaleFactor Scale]

namespace Options

/-- The requested box. -/
def box (options : Options) : Size :=
  { width := options.width, height := options.height }

/-- The target box, clamped to the picture unless it may grow. A crop never exceeds the picture;
an axis that was not given stays zero. -/
def clampedBox (options : Options) (source : Size) : Size :=
  if !options.enlarge || options.resize = .crop then
    options.box.meet source
  else
    options.box

end Options

/-! ### Scale -/

/-- The axis ratios of the target axes that were given. -/
def axisRatios (source target : Size) : List Scale :=
  (if target.width = 0 then [] else [ScaleFactor.ratio target.width source.width]) ++
    (if target.height = 0 then [] else [ScaleFactor.ratio target.height source.height])

/-- The factor that takes the picture to the target. FIT takes the lesser axis ratio, so that the
whole picture lands in the box; FILL takes the greater, so that the box is covered. -/
def scaleFor (source target : Size) (resize : ResizeMode) : Scale :=
  if source = target ∨ resize = .crop ∨ source.width = 0 ∨ source.height = 0 then
    ScaleFactor.unit
  else
    match axisRatios source target with
    | [] => ScaleFactor.unit
    | first :: rest =>
      match resize with
      | .fit => rest.foldl ScaleFactor.lesser first
      | _ => rest.foldl ScaleFactor.greater first

/-- The integer reduction a decoder is asked for. A JPEG decoder reduces by two, four or eight
only; others take the whole reduction as a hint. -/
def shrinkFactor (scale : Scale) (format : Format) : UInt32 :=
  let whole := ScaleFactor.wholeReciprocal scale
  match format with
  | .jpeg => if 16 ≤ whole then 8 else if 8 ≤ whole then 4 else if 4 ≤ whole then 2 else 1
  | _ => max whole 1

/-- Whether a format can be decoded at reduced size. -/
def Format.shrinksOnLoad : Format → Bool
  | .jpeg | .webp => true
  | .png | .gif => false

/-! ### Windows -/

/-- What one axis exceeds another by. -/
def spareAxis (current target : UInt32) : UInt32 :=
  if current < target then 0 else current - target

/-- Offset of a centred window; an odd spare pixel goes before it. The sum wraps only where the
window has no pixels. -/
def centredOffset (spare : UInt32) : UInt32 :=
  (spare + 1) / 2

/-- The upper left corner of a window of the target size. -/
def windowOrigin (current target : Size) (gravity : Gravity) : UInt32 × UInt32 :=
  let spareWidth := spareAxis current.width target.width
  let spareHeight := spareAxis current.height target.height
  match gravity with
  | .center | .smart => (centredOffset spareWidth, centredOffset spareHeight)
  | .north => (centredOffset spareWidth, 0)
  | .south => (centredOffset spareWidth, spareHeight)
  | .west => (0, centredOffset spareHeight)
  | .east => (spareWidth, centredOffset spareHeight)

/-- The window of the target size that gravity places; an axis on which the picture is short of
the target is kept whole. -/
def gravityWindow (current target : Size) (gravity : Gravity) : Region :=
  let window := target.meet current
  let origin := windowOrigin current window gravity
  { left := origin.1, top := origin.2, width := window.width, height := window.height }

/-! ### Plans -/

/-- The picture as it will be seen, and what brings the stored image there. -/
structure Appearance where
  /-- Size as seen. -/
  size : Size
  turn : Turn
  /-- Whether it is mirrored left to right after the turn. -/
  mirrored : Bool
  hasAlpha : Bool
  deriving DecidableEq, Repr

namespace Appearance

/-- Whether any turn or mirroring is pending. -/
def needsOrientation (appearance : Appearance) : Bool :=
  appearance.turn ≠ .none || appearance.mirrored

end Appearance

/-- The numbers by which a request is carried out. -/
structure Plan (Scale : Type) where
  /-- The scale that is left after the reduced decode. -/
  scale : Scale
  /-- Integer reduction asked of the decoder. -/
  shrink : UInt32
  /-- The clamped target box. -/
  target : Size

namespace Plan

/-- Whether the source is decoded a second time, at reduced size. -/
def redecodes (plan : Plan Scale) : Bool :=
  1 < plan.shrink

/-- Plan a request for a picture of this size, stored in this format. -/
def of (source : Size) (options : Options) (format : Format) : Plan Scale :=
  let target := options.clampedBox source
  let scale : Scale := scaleFor source target options.resize
  if ScaleFactor.reduces scale && format.shrinksOnLoad then
    let shrink := shrinkFactor scale format
    { scale := ScaleFactor.afterReduction scale shrink, shrink := shrink, target := target }
  else
    { scale := scale, shrink := 1, target := target }

theorem of_target (source : Size) (options : Options) (format : Format) :
    (of source options format : Plan Scale).target = options.clampedBox source := by
  unfold of
  dsimp only
  split <;> rfl

end Plan

end Thumbnailer
