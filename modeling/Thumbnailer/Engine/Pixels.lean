/-
This file gives the engine that works on pixels. What it decodes is cached under the encoded data,
the format and the reduction, and a reduced image is made from the full one, which goes through the
cache as well. The codec works between the steps on what is shared. Every transform
writes to a buffer of its own; only scaling to the same size and a turn by nothing give the same
image back.
-/

import Thumbnailer.Cache.Key
import Thumbnailer.Engine.Settings
import Thumbnailer.Engine.Shared
import Thumbnailer.Raster.Saliency
import Thumbnailer.Scale

namespace Thumbnailer

namespace EngineSettings

/-- An engine whose cache could hold nothing does not start. -/
def start (settings : EngineSettings) : Except StartupError SharedState :=
  if settings.cacheMemory = 0 ∨ settings.cacheEntries = 0 then
    .error .zeroBudget
  else
    .ok (.initial settings.cacheMemory settings.cacheEntries.toNat)

end EngineSettings

namespace Pixels

/-- Work in steps that may fail. -/
abbrev Attempt (Result : Type) := Procedure WorkerAccess (Except EngineError Result)

/-- The given pixels in a buffer of their own. -/
def own (raster : Raster) (orientation : UInt8) : Procedure WorkerAccess Canvas :=
  .ask .fresh fun buffer =>
    .done { buffer := buffer, raster := raster, orientation := orientation }

/-- New pixels for an image; its tag stays. -/
def replace (canvas : Canvas) (raster : Raster) : Attempt Canvas :=
  (own raster canvas.orientation).bind fun fresh => .done (.ok fresh)

/-- Put an image into the cache and give it. -/
def remember (key : String) (canvas : Canvas) : Attempt Canvas :=
  .ask (.store key canvas (UInt64.ofNat canvas.raster.byteCount)) fun () => .done (.ok canvas)

/-- Decode at full size, out of the cache if it is there. -/
def decodeFull (data : Bytes) (format : Format) : Attempt Canvas :=
  let key := Cache.key data format 1
  .ask (.lookup key) fun
    | some canvas => .done (.ok canvas)
    | none =>
      .ask (.read data format) fun
        | .error detail => .done (.error (.decode detail))
        | .ok decoded => (own decoded.raster decoded.orientation).bind (remember key)

/-- Decode at a reduction, out of the cache if it is there. -/
def decode (data : Bytes) (format : Format) (shrink : UInt32) : Attempt Canvas :=
  if shrink ≤ 1 then
    decodeFull data format
  else
    let key := Cache.key data format shrink
    .ask (.lookup key) fun
      | some canvas => .done (.ok canvas)
      | none =>
        (decodeFull data format).bind fun
          | .error failure => .done (.error failure)
          | .ok full =>
            .ask (.reduce full.raster (full.raster.size.reduce shrink)) fun reduced =>
              (own reduced full.orientation).bind (remember key)

def resize {Scale : Type} [ScaleFactor Scale] (canvas : Canvas) (scale : Scale) : Attempt Canvas :=
  if ScaleFactor.usable scale then
    let size : Size :=
      { width := ScaleFactor.resize canvas.raster.size.width scale
        height := ScaleFactor.resize canvas.raster.size.height scale }
    if size = canvas.raster.size then .done (.ok canvas)
    else .ask (.resample canvas.raster size) fun scaled => replace canvas scaled
  else
    .done (.error (.operation .resize ("bad scale " ++ ScaleFactor.text scale)))

def rotate (canvas : Canvas) (turn : Turn) : Attempt Canvas :=
  if turn = .none then .done (.ok canvas) else replace canvas (canvas.raster.turned turn)

/-- A region that is not empty and lies inside. -/
def crop (canvas : Canvas) (region : Region) : Attempt Canvas :=
  if region.width ≠ 0 ∧ region.height ≠ 0 ∧ region.Inside canvas.raster.size then
    replace canvas (canvas.raster.window region)
  else
    .done (.error (.operation .crop
      ("bad extract area " ++ region.text ++ " for " ++ canvas.raster.size.text)))

def premultiply (canvas : Canvas) : Attempt (Canvas × Band) :=
  (own canvas.raster.premultiplied canvas.orientation).bind fun fresh =>
    .done (.ok (fresh, canvas.raster.colour.band))

def unpremultiply (canvas : Canvas) (band : Band) : Attempt Canvas :=
  if canvas.raster.colour = .rgba32f then
    replace canvas (canvas.raster.unpremultiplied band)
  else
    .done (.error (.operation .unpremultiply
      ("expected premultiplied float image, got " ++ canvas.raster.colour.title)))

def smartCrop (settings : EngineSettings) (canvas : Canvas) (size : Size) : Attempt Canvas :=
  if settings.smartCrop then crop canvas (Saliency.window canvas.raster size)
  else .done (.error (.operation .smartCrop "disabled"))

variable {Scale : Type} [ScaleFactor Scale]

/-- How each task is carried out in steps. -/
def perform (settings : EngineSettings) :
    (task : Task Canvas Scale) → Procedure WorkerAccess (Task.Answer task)
  | .decode data format shrink => decode data format shrink
  | .encode canvas format quality =>
    .ask (.write canvas.raster format quality) fun written => .done (written.mapError .encode)
  | .resize canvas scale => resize canvas scale
  | .rotate canvas turn => rotate canvas turn
  | .flip canvas => replace canvas canvas.raster.mirrored
  | .crop canvas region => crop canvas region
  | .convert canvas target =>
    replace canvas
      (canvas.raster.convert (.forInterpretation canvas.raster.colour.hasAlpha target))
  | .premultiply canvas => premultiply canvas
  | .unpremultiply canvas band => unpremultiply canvas band
  | .smartCrop canvas size => smartCrop settings canvas size
  | .copy canvas => replace canvas canvas.raster
  | .now => .ask .now .done

/-- The engine that carries out tasks one after the other. -/
def engine (codec : Codec) (settings : EngineSettings) :
    Procedure.Handler (Work Canvas Scale) SharedState :=
  fun task state => (perform settings task).run (SharedState.step codec) state

end Pixels

end Thumbnailer
