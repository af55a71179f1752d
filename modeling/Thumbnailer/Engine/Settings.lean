/-
This file holds what an engine is set up with, and what an engine set up so can do.
-/

import Thumbnailer.Capabilities

namespace Thumbnailer

structure EngineSettings where
  /-- Bytes of decoded pixels that the cache may hold. -/
  cacheMemory : UInt64 := 104857600
  /-- Decoded images that the cache may hold. -/
  cacheEntries : UInt64 := 500
  /-- Whether smart crops are offered. -/
  smartCrop : Bool := true
  deriving DecidableEq, Repr

namespace EngineSettings

/-- Every format is read, and every format but GIF is written. -/
def capabilities (settings : EngineSettings) : Capabilities :=
  .ofLists Format.all [.jpeg, .png, .webp] settings.smartCrop

end EngineSettings

end Thumbnailer
