/-
This file holds what the workers of one engine share: the decode cache, the names of pixel buffers,
and the clock. What a worker does is cut into steps that no other worker can see half done. Some are
on what is shared; the others are work of the codec on what the worker holds by itself, and change
nothing that is shared. An image refers to its buffer by name, and the owners of a buffer are the
images that refer to it, those in the cache included.
-/

import Thumbnailer.Cache.Basic
import Thumbnailer.Codec
import Thumbnailer.Deadline
import Thumbnailer.Engine

namespace Thumbnailer

/-- An image whose pixels lie in a buffer. Images with the same buffer share its pixels. -/
structure Canvas where
  buffer : Nat
  raster : Raster
  orientation : UInt8

instance : Picture Canvas where
  size canvas := canvas.raster.size
  orientation := Canvas.orientation
  hasAlpha canvas := canvas.raster.colour.hasAlpha
  interpretation canvas := canvas.raster.colour.interpretation

inductive WorkerStep where
  | lookup (key : String)
  | store (key : String) (canvas : Canvas) (size : UInt64)
  /-- Drop all cached images. -/
  | release
  /-- A buffer name that was not used before. -/
  | fresh
  | now
  | read (data : Bytes) (format : Format)
  | write (raster : Raster) (format : Format) (quality : Quality)
  /-- Resample pixels that are read at a reduced size. -/
  | reduce (raster : Raster) (size : Size)
  /-- Resample pixels that are scaled. -/
  | resample (raster : Raster) (size : Size)

abbrev WorkerStep.Answer : WorkerStep → Type
  | .lookup _ => Option Canvas
  | .store .. => Unit
  | .release => Unit
  | .fresh => Nat
  | .now => Instant
  | .read .. => Except String Decoded
  | .write .. => Except String Bytes
  | .reduce .. => Raster
  | .resample .. => Raster

abbrev WorkerAccess : Interface :=
  { Request := WorkerStep, Answer := WorkerStep.Answer }

structure SharedState where
  cache : Cache String Canvas
  /-- The next buffer name. -/
  next : Nat
  clock : Instant

namespace SharedState

/-- The shared state of an engine that has done nothing yet. -/
def initial (memoryBudget : UInt64) (entryBudget : Nat) : SharedState :=
  { cache := .empty memoryBudget entryBudget, next := 0, clock := { nanoseconds := 0 } }

def step (codec : Codec) : Procedure.Handler WorkerAccess SharedState
  | .lookup key, state =>
    let found := state.cache.lookup key
    (found.1, { state with cache := found.2 })
  | .store key canvas size, state =>
    ((), { state with cache := state.cache.insert key canvas size })
  | .release, state => ((), { state with cache := state.cache.clear })
  | .fresh, state => (state.next, { state with next := state.next + 1 })
  | .now, state => (state.clock, state)
  | .read data format, state => (codec.decode data format, state)
  | .write raster format quality, state => (codec.encode raster format quality, state)
  | .reduce raster size, state => (codec.reduce raster size, state)
  | .resample raster size, state => (codec.resample raster size, state)

/-- The images that the cache holds. -/
def cached (state : SharedState) : List Canvas :=
  state.cache.order.filterMap fun key => (state.cache.entries[key]?).map Stored.value

/-- How many of the cached images and of the given ones refer to a buffer. -/
def owners (state : SharedState) (held : List Canvas) (buffer : Nat) : Nat :=
  (held ++ state.cached).countP fun canvas => canvas.buffer = buffer

end SharedState

end Thumbnailer
