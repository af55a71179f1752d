/-
This file finds the files of a batch: those below its input directory whose extension names a
format that can be read, in the order of paths. What the walk could not look at is kept with its
cause; only an input directory that cannot be walked at all is an error.
-/

import Thumbnailer.Capabilities
import Thumbnailer.Files.Walk

namespace Thumbnailer.Batch

/-- What lies below an input directory. -/
structure Inputs where
  /-- Files that can be read, in the order of paths. -/
  files : List (Path × Format) := []
  /-- What could not be looked at. -/
  unreadable : List (Path × WalkError) := []

namespace Inputs

/-- The format that a file is read as by its extension, if it can be read. -/
def readable? (capabilities : Capabilities) (path : Path) : Option Format :=
  path.format?.filter capabilities.decodes

/-- The files among some findings, as they were found. -/
def filesOf (capabilities : Capabilities) (findings : List Finding) : List (Path × Format) :=
  findings.filterMap fun
    | .file path => (readable? capabilities path).map fun format => (path, format)
    | .unreadable .. => none

/-- What could not be looked at among some findings. -/
def unreadableOf (findings : List Finding) : List (Path × WalkError) :=
  findings.filterMap fun
    | .file _ => none
    | .unreadable path error => some (path, error)

/-- The inputs that some findings come to. -/
def ofFindings (capabilities : Capabilities) (findings : List Finding) : Inputs :=
  { files := (filesOf capabilities findings).mergeSort fun first second =>
      !second.1.before first.1
    unreadable := unreadableOf findings }

/-- The inputs below a directory. -/
def collect (capabilities : Capabilities) (input : Path) :
    Procedure FileAccess (Except WalkError Inputs) :=
  (Walk.start input).bind fun found => .done (found.map (ofFindings capabilities))

end Inputs

end Thumbnailer.Batch
