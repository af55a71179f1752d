/-
This file holds the boundary between the stages of a request and whatever does the pixel work: the
primitives an engine offers, the errors they end in, and what may be read off an image without any
work. An engine is any handler for this interface. It also answers what time it is, which is all
that the stages need to keep a deadline.
-/

import Thumbnailer.Capabilities
import Thumbnailer.Deadline
import Thumbnailer.Options
import Thumbnailer.Orientation
import Thumbnailer.Procedure
import Thumbnailer.Size

namespace Thumbnailer

inductive Primitive where
  | decode
  | encode
  | resize
  | rotate
  | flip
  | crop
  | convert
  | premultiply
  | unpremultiply
  | smartCrop
  | copy
  deriving DecidableEq, Repr

namespace Primitive

def all : List Primitive :=
  [.decode, .encode, .resize, .rotate, .flip, .crop, .convert, .premultiply, .unpremultiply,
    .smartCrop, .copy]

def name : Primitive → String
  | .decode => "decode"
  | .encode => "encode"
  | .resize => "resize"
  | .rotate => "rotate"
  | .flip => "flip"
  | .crop => "crop"
  | .convert => "colourspace"
  | .premultiply => "premultiply"
  | .unpremultiply => "unpremultiply"
  | .smartCrop => "smartcrop"
  | .copy => "copy_memory"

end Primitive

inductive EngineError where
  | startup (failure : StartupError)
  | decode (detail : String)
  | encode (detail : String)
  | operation (primitive : Primitive) (detail : String)
  deriving DecidableEq

def EngineError.message : EngineError → String
  | .startup failure => "engine initialization failed: " ++ failure.text
  | .decode detail => "decode failed: " ++ detail
  | .encode detail => "encode failed: " ++ detail
  | .operation primitive detail => primitive.name ++ " failed: " ++ detail

/-- What may be read off an image without any work. -/
class Picture (Image : Type) where
  /-- Size as stored, before any orientation. -/
  size : Image → Size
  orientation : Image → UInt8
  hasAlpha : Image → Bool
  interpretation : Image → Interpretation

/-- One request to an engine. Transforms use up the image they are given. -/
inductive Task (Image Scale : Type) where
  | decode (data : Bytes) (format : Format) (shrink : UInt32)
  | encode (image : Image) (format : Format) (quality : Quality)
  | resize (image : Image) (scale : Scale)
  | rotate (image : Image) (turn : Turn)
  | flip (image : Image)
  | crop (image : Image) (region : Region)
  | convert (image : Image) (target : Interpretation)
  | premultiply (image : Image)
  | unpremultiply (image : Image) (band : Band)
  | smartCrop (image : Image) (size : Size)
  | copy (image : Image)
  /-- What time it is. -/
  | now

abbrev Task.Answer {Image Scale : Type} : Task Image Scale → Type
  | .encode .. => Except EngineError Bytes
  | .premultiply .. => Except EngineError (Image × Band)
  | .now => Instant
  | _ => Except EngineError Image

/-- The interface of pixel work on one kind of image, scaled by one kind of number. -/
abbrev Work (Image Scale : Type) : Interface :=
  { Request := Task Image Scale, Answer := Task.Answer }

/-- The appearance of an image under its own orientation tag. -/
def appearanceOf {Image : Type} [Picture Image] (image : Image) : Appearance :=
  Orientation.appearance (Picture.size image) (Picture.orientation image) (Picture.hasAlpha image)

end Thumbnailer
