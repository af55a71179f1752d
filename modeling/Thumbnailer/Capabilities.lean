/-
This file holds what an engine can do, and the registry that fixes it for the life of a process. A
registry is set at most once, from the first engine that can read some format and write some
format; afterwards it never changes.
-/

import Thumbnailer.Format

namespace Thumbnailer

/-- Why no request can be served. -/
inductive StartupError where
  | nothingToDecode
  | nothingToEncode
  | alreadyInitialized
  | notInitialized
  | zeroBudget
  deriving DecidableEq, Repr

def StartupError.text : StartupError → String
  | .nothingToDecode => "engine reports no decodable formats"
  | .nothingToEncode => "engine reports no encodable formats"
  | .alreadyInitialized => "capability registry already initialized"
  | .notInitialized => "capability registry has not been initialized"
  | .zeroBudget => "decode cache budgets must be non-zero"

/-- What an engine can do. -/
structure Capabilities where
  decodes : Format → Bool
  encodes : Format → Bool
  smartCrop : Bool

namespace Capabilities

/-- The capabilities given by lists of formats, in which order and repetition do not matter. -/
def ofLists (decodable encodable : List Format) (smartCrop : Bool) : Capabilities :=
  { decodes := fun format => decodable.contains format
    encodes := fun format => encodable.contains format
    smartCrop := smartCrop }

/-- The formats that can be read, in the common order. -/
def decodable (capabilities : Capabilities) : List Format :=
  Format.all.filter capabilities.decodes

/-- The formats that can be written, in the common order. -/
def encodable (capabilities : Capabilities) : List Format :=
  Format.all.filter capabilities.encodes

/-- Capabilities that can serve some request: an engine that can read nothing or write nothing is
refused. -/
def usable (capabilities : Capabilities) : Except StartupError Capabilities :=
  if capabilities.decodable.isEmpty then .error .nothingToDecode
  else if capabilities.encodable.isEmpty then .error .nothingToEncode
  else .ok capabilities

end Capabilities

/-- The capabilities that a process has settled on, once it has. -/
abbrev Registry := Option Capabilities

namespace Registry

/-- Settle on an engine's capabilities. Returns what is now settled, or why nothing changed. -/
def settle (registry : Registry) (capabilities : Capabilities) :
    Except StartupError Capabilities × Registry :=
  match capabilities.usable with
  | .error failure => (.error failure, registry)
  | .ok usable =>
    match registry with
    | some _ => (.error .alreadyInitialized, registry)
    | none => (.ok usable, some usable)

end Registry

end Thumbnailer
