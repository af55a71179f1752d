/-
This file holds sessions: an engine worked by hand, with its images in named slots. A transform
takes the image out of its slot and puts the result back, so that a failure leaves the slot empty.
A failed decode leaves its slot as it was.
-/

import Thumbnailer.Engine.Pixels

namespace Thumbnailer

inductive SessionError where
  | emptySlot
  | failed (failure : EngineError)
  deriving DecidableEq

/-- An engine's codec and shared state, and the images in the slots. -/
structure Session where
  codec : Codec
  shared : SharedState
  slots : List (String × Canvas)

namespace Session

def slot? (session : Session) (name : String) : Option Canvas :=
  session.slots.lookup name

def empty (session : Session) (name : String) : Session :=
  { session with slots := session.slots.filter fun slot => slot.1 ≠ name }

def put (session : Session) (name : String) (canvas : Canvas) : Session :=
  { session with slots := (name, canvas) :: (session.empty name).slots }

/-- Whether an image is the only owner of its buffer. -/
def exclusive (session : Session) (canvas : Canvas) : Bool :=
  session.shared.owners (session.slots.map Prod.snd) canvas.buffer = 1

/-- Whether the image in a slot, if there is one, has a window of this size that can be found. -/
def searches (session : Session) (name : String) (size : Size) : Bool :=
  (session.slot? name).all fun canvas => (Saliency.window? canvas.raster size).isSome

/-- Carry out work in steps. -/
def attempt {Result : Type} (session : Session) (work : Procedure WorkerAccess Result) :
    Result × Session :=
  let ended := work.run (SharedState.step session.codec) session.shared
  (ended.1, { session with shared := ended.2 })

def release (session : Session) : Session :=
  (session.attempt (.ask .release .done)).2

def decode (session : Session) (name : String) (data : Bytes) (format : Format) (shrink : UInt32) :
    Except SessionError Canvas × Session :=
  let ended := session.attempt (Pixels.decode data format shrink)
  match ended.1 with
  | .ok canvas => (.ok canvas, ended.2.put name canvas)
  | .error failure => (.error (.failed failure), ended.2)

/-- Take the image out of a slot, transform it, and put the result back. Gives the new image and
what the transform tells besides. -/
def transform {Extra : Type} (session : Session) (name : String)
    (work : Canvas → Pixels.Attempt (Canvas × Extra)) :
    Except SessionError (Canvas × Extra) × Session :=
  match session.slot? name with
  | none => (.error .emptySlot, session)
  | some canvas =>
    let ended := (session.empty name).attempt (work canvas)
    match ended.1 with
    | .ok result => (.ok result, ended.2.put name result.1)
    | .error failure => (.error (.failed failure), ended.2)

end Session

end Thumbnailer
