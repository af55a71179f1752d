/-
This file sequences the stages of one request, from encoded data to encoded data. The order never
varies: options and capabilities are checked before anything is decoded; the decoded image gives
the plan; unless the target is the picture's own size, the image is scaled, brought to standard
colour, turned, mirrored and cropped; then it is encoded. The deadline is looked at after the first
decode, after the colour step, after the crop and before the encode, and nowhere else. A failure
ends the request where it happens.

Two orders inside the stages matter for the result. Scaling an image with alpha happens between
multiplying its colours by alpha and dividing them again, or not at all. The crop window is placed
on the image as it is after the turn.
-/

import Thumbnailer.Engine
import Thumbnailer.Geometry

namespace Thumbnailer

inductive Lack where
  | smartCrop
  | decoder (format : Format)
  | encoder (format : Format)
  deriving DecidableEq, Repr

def Lack.text : Lack → String
  | .smartCrop => "smart crop is not available"
  | .decoder format => "cannot decode " ++ format.name
  | .encoder format => "cannot encode " ++ format.name

inductive PipelineError where
  | options (failure : OptionsError)
  | unsupported (lack : Lack)
  | engine (failure : EngineError)
  | deadline (exceeded : DeadlineExceeded)
  deriving DecidableEq

def PipelineError.message : PipelineError → String
  | .options failure => "invalid options: " ++ failure.message
  | .unsupported lack => "unsupported: " ++ lack.text
  | .engine failure => "image processing failed: " ++ failure.message
  | .deadline exceeded => exceeded.message

structure Request where
  data : Bytes
  format : Format
  options : Options
  quality : Quality
  deadline : Deadline

/-- What the capabilities lack for a request. The crop is looked at first, then the source
format, then the format to write. -/
def Capabilities.lack? (capabilities : Capabilities) (request : Request) : Option Lack :=
  if request.options.gravity = .smart ∧ capabilities.smartCrop = false then some .smartCrop
  else if capabilities.decodes request.format = false then some (.decoder request.format)
  else if capabilities.encodes request.options.format = false then
    some (.encoder request.options.format)
  else none

/-- Why a request is refused before any work is done. -/
def Request.refusal? (request : Request) (capabilities : Capabilities) : Option PipelineError :=
  match request.options.validate with
  | .error failure => some (.options failure)
  | .ok () => (capabilities.lack? request).map .unsupported

/-- A part of a request: it asks an engine for work and may end the request. -/
abbrev Stage (Image Scale : Type) := ExceptT PipelineError (Procedure (Work Image Scale))

namespace Stage

variable {Image Scale : Type}

/-- Work whose failure ends the request. -/
def work {Answer : Type} (procedure : Procedure (Work Image Scale) (Except EngineError Answer)) :
    Stage Image Scale Answer :=
  ExceptT.mk (procedure.bind fun answer => .done (answer.mapError .engine))

def decode (data : Bytes) (format : Format) (shrink : UInt32) : Stage Image Scale Image :=
  work (.ask (.decode data format shrink) .done)

def encode (image : Image) (format : Format) (quality : Quality) : Stage Image Scale Bytes :=
  work (.ask (.encode image format quality) .done)

def resize (image : Image) (scale : Scale) : Stage Image Scale Image :=
  work (.ask (.resize image scale) .done)

def rotate (image : Image) (turn : Turn) : Stage Image Scale Image :=
  work (.ask (.rotate image turn) .done)

def flip (image : Image) : Stage Image Scale Image :=
  work (.ask (.flip image) .done)

def crop (image : Image) (region : Region) : Stage Image Scale Image :=
  work (.ask (.crop image region) .done)

def convert (image : Image) (target : Interpretation) : Stage Image Scale Image :=
  work (.ask (.convert image target) .done)

def premultiply (image : Image) : Stage Image Scale (Image × Band) :=
  work (.ask (.premultiply image) .done)

def unpremultiply (image : Image) (band : Band) : Stage Image Scale Image :=
  work (.ask (.unpremultiply image band) .done)

def smartCrop (image : Image) (size : Size) : Stage Image Scale Image :=
  work (.ask (.smartCrop image size) .done)

def copy (image : Image) : Stage Image Scale Image :=
  work (.ask (.copy image) .done)

/-- End the request if its deadline has passed. -/
def checkpoint (deadline : Deadline) : Stage Image Scale Unit :=
  ExceptT.mk (.ask .now fun now => .done ((deadline.check now).mapError .deadline))

variable [Picture Image]

/-- Scale an image; one with alpha is scaled with its colours multiplied by alpha. -/
def scaleEvenly (image : Image) (scale : Scale) : Stage Image Scale Image := do
  if Picture.hasAlpha image then
    let (multiplied, band) ← premultiply image
    let scaled ← resize multiplied scale
    unpremultiply scaled band
  else
    resize image scale

/-- Bring an image to standard colour, unless it is read so already. -/
def normalizeColour (image : Image) : Stage Image Scale Image :=
  if Picture.interpretation image = .srgb then pure image else convert image .srgb

/-- Turn and mirror an image as its appearance asks. -/
def orient (image : Image) (appearance : Appearance) : Stage Image Scale Image := do
  let owned ← copy image
  let turned ← if appearance.turn = .none then pure owned else rotate owned appearance.turn
  if appearance.mirrored then flip turned else pure turned

/-- Cut an oriented image to the target. The image is copied first unless it is already owned
alone; a window of the image's own size cuts nothing. -/
def cut (image : Image) (owned : Bool) (target : Size) (gravity : Gravity) :
    Stage Image Scale Image := do
  if gravity = .smart then
    let exclusive ← if owned then pure image else copy image
    smartCrop exclusive target
  else
    let window := gravityWindow (Picture.size image) target gravity
    if window.size = Picture.size image then
      pure image
    else
      let exclusive ← if owned then pure image else copy image
      crop exclusive window

/-- Apply the pending turn and mirroring, then cut unless the mode is FIT. -/
def orientAndCut (image : Image) (appearance : Appearance) (target : Size) (options : Options) :
    Stage Image Scale Image := do
  let oriented ← if appearance.needsOrientation then orient image appearance else pure image
  if options.resize = .fit then
    pure oriented
  else
    cut oriented appearance.needsOrientation target options.gravity

/-- Bring a decoded image to the target of its plan. -/
def transform (image : Image) (request : Request) (appearance : Appearance) (plan : Plan Scale) :
    Stage Image Scale Image := do
  let scaled ←
    if request.options.resize = .crop then
      pure image
    else
      let source ←
        if plan.redecodes then decode request.data request.format plan.shrink else pure image
      scaleEvenly source plan.scale
  let standard ← normalizeColour scaled
  checkpoint request.deadline
  let finished ← orientAndCut standard appearance plan.target request.options
  checkpoint request.deadline
  pure finished

variable [ScaleFactor Scale]

/-- The work of a request that is not refused. -/
def serve (request : Request) : Stage Image Scale Bytes := do
  let image ← decode request.data request.format 1
  checkpoint request.deadline
  let appearance := appearanceOf image
  let plan : Plan Scale := Plan.of appearance.size request.options request.format
  let finished ←
    if plan.target = appearance.size then
      pure image
    else
      transform image request appearance plan
  checkpoint request.deadline
  encode finished request.options.format request.quality

/-- Serve one request under the given capabilities. -/
def process (capabilities : Capabilities) (request : Request) : Stage Image Scale Bytes :=
  match request.refusal? capabilities with
  | some refusal => throw refusal
  | none => serve request

/-- Serve one request under what the process has settled on. -/
def processSettled (registry : Registry) (request : Request) : Stage Image Scale Bytes :=
  match registry with
  | none => throw (.engine (.startup .notInitialized))
  | some capabilities => process capabilities request

end Stage

end Thumbnailer
