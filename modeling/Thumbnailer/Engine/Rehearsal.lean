/-
This file gives an engine without pixels. Its images are sketches: sizes and flags, which the
primitives change as real ones would. Every primitive is written down before it is carried out, and
one of them can be made to fail, or to use up the time that is left; data can be made to be refused.
A rehearsal shows which work a request asks for, in which order and at which sizes.
-/

import Thumbnailer.Engine
import Thumbnailer.Scale

namespace Thumbnailer

/-- An image without pixels. -/
structure Sketch where
  size : Size
  orientation : UInt8
  hasAlpha : Bool
  interpretation : Interpretation
  premultiplied : Bool := false
  deriving DecidableEq, Repr

instance : Picture Sketch where
  size := Sketch.size
  orientation := Sketch.orientation
  hasAlpha := Sketch.hasAlpha
  interpretation := Sketch.interpretation

/-- A primitive as it is written down. -/
inductive Entry (Scale : Type) where
  | decode (format : Format) (shrink : UInt32)
  | encode (format : Format) (quality : Quality) (size : Size)
  | resize (scale : Scale) (premultiplied : Bool)
  | rotate (turn : Turn)
  | flip
  | crop (region : Region)
  | convert (source target : Interpretation)
  | premultiply
  | unpremultiply (band : Band)
  | smartCrop (size : Size)
  | copy

namespace Entry

variable {Scale : Type}

def primitive : Entry Scale → Primitive
  | .decode .. => .decode
  | .encode .. => .encode
  | .resize .. => .resize
  | .rotate _ => .rotate
  | .flip => .flip
  | .crop _ => .crop
  | .convert .. => .convert
  | .premultiply => .premultiply
  | .unpremultiply _ => .unpremultiply
  | .smartCrop _ => .smartCrop
  | .copy => .copy

end Entry

/-- Which calls of a primitive something happens at: all of them, or the one with this number,
counted from one. -/
structure Occasion where
  primitive : Primitive
  number : Option Nat
  deriving DecidableEq, Repr

structure Rehearsal where
  /-- What decoding gives at full size. -/
  source : Sketch
  capabilities : Capabilities
  /-- The band that multiplying by alpha reports. -/
  band : Band
  /-- Where a primitive fails. -/
  failing : Option Occasion
  /-- Where all remaining time is used up. -/
  stalling : Option Occasion
  /-- What data that cannot be decoded begins with. -/
  refusing : Option Bytes := none

namespace Rehearsal

variable {Scale : Type}

/-- What happened so far, and what time it is. -/
structure Record (Scale : Type) where
  entries : List (Entry Scale)
  clock : Instant

/-- How many calls of a primitive are written down. -/
def Record.calls (record : Record Scale) (primitive : Primitive) : Nat :=
  record.entries.countP fun entry => entry.primitive = primitive

/-- Whether an occasion is met by the call that was written down last. -/
def meets (occasion : Option Occasion) (primitive : Primitive) (record : Record Scale) : Bool :=
  match occasion with
  | none => false
  | some occasion =>
    occasion.primitive = primitive &&
      match occasion.number with
      | none => true
      | some number => record.calls primitive = number

/-- The instant to which a stalling primitive moves the clock. -/
def longAfter : Instant :=
  { nanoseconds := Instant.horizon }

/-- Write a primitive down; afterwards time may be used up and the primitive may fail. -/
def note (rehearsal : Rehearsal) (entry : Entry Scale) (record : Record Scale) :
    Except EngineError Unit × Record Scale :=
  let noted : Record Scale := { record with entries := record.entries ++ [entry] }
  let timed :=
    if meets rehearsal.stalling entry.primitive noted then { noted with clock := longAfter }
    else noted
  if meets rehearsal.failing entry.primitive noted then
    (.error (.operation entry.primitive "mock failure"), timed)
  else
    (.ok (), timed)

/-- Write a primitive down and, if it does not fail, give its result. -/
def noted {Answer : Type} (rehearsal : Rehearsal) (entry : Entry Scale) (record : Record Scale)
    (result : Except EngineError Answer) : Except EngineError Answer × Record Scale :=
  let outcome := rehearsal.note entry record
  (outcome.1.bind fun _ => result, outcome.2)

/-- Whether data is refused. -/
def refuses (rehearsal : Rehearsal) (data : Bytes) : Bool :=
  rehearsal.refusing.any fun opening => opening.isPrefixOf data

def decoded (rehearsal : Rehearsal) (data : Bytes) (shrink : UInt32) : Except EngineError Sketch :=
  if rehearsal.refuses data then
    .error (.decode "mock refuses this data")
  else
    .ok { rehearsal.source with size := rehearsal.source.size.reduce shrink }

/-- A failure as the codecs report it. -/
def asCodecFailure (wrap : String → EngineError) (failure : EngineError) : EngineError :=
  wrap failure.message

/-- What encoding gives: the format and the size in words. -/
def encoded (format : Format) (size : Size) : Bytes :=
  (format.name ++ ":" ++ size.text).toUTF8.toList

/-- A crop keeps to the image. -/
def cropped (image : Sketch) (region : Region) : Except EngineError Sketch :=
  if region.Inside image.size then
    .ok { image with size := region.size }
  else
    .error (.operation .crop "bad extract area")

/-- Dividing by alpha needs an image that was multiplied by it. -/
def divided (image : Sketch) : Except EngineError Sketch :=
  if image.premultiplied then
    .ok { image with premultiplied := false }
  else
    .error (.operation .unpremultiply "not premultiplied")

variable [ScaleFactor Scale]

def scaled (size : Size) (scale : Scale) : Size :=
  { width := ScaleFactor.resize size.width scale, height := ScaleFactor.resize size.height scale }

def engine (rehearsal : Rehearsal) : Procedure.Handler (Work Sketch Scale) (Record Scale)
  | .now, record => (record.clock, record)
  | .decode data format shrink, record =>
    let outcome := rehearsal.note (.decode format shrink) record
    ((outcome.1.mapError (asCodecFailure .decode)).bind fun _ => rehearsal.decoded data shrink,
      outcome.2)
  | .encode image format quality, record =>
    let outcome := rehearsal.note (.encode format quality image.size) record
    ((outcome.1.mapError (asCodecFailure .encode)).map fun _ => encoded format image.size,
      outcome.2)
  | .resize image scale, record =>
    rehearsal.noted (.resize scale image.premultiplied) record
      (.ok { image with size := scaled image.size scale })
  | .rotate image turn, record =>
    rehearsal.noted (.rotate turn) record (.ok { image with size := turn.apply image.size })
  | .flip image, record => rehearsal.noted .flip record (.ok image)
  | .crop image region, record =>
    rehearsal.noted (.crop region) record (cropped image region)
  | .convert image target, record =>
    rehearsal.noted (.convert image.interpretation target) record
      (.ok { image with interpretation := target })
  | .premultiply image, record =>
    rehearsal.noted .premultiply record (.ok ({ image with premultiplied := true }, rehearsal.band))
  | .unpremultiply image band, record =>
    rehearsal.noted (.unpremultiply band) record (divided image)
  | .smartCrop image size, record =>
    rehearsal.noted (.smartCrop size) record (.ok { image with size := size.meet image.size })
  | .copy image, record => rehearsal.noted .copy record (.ok image)

def blank (clock : Instant) : Record Scale :=
  { entries := [], clock := clock }

end Rehearsal

end Thumbnailer
