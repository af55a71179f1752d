/-
This file walks through a directory and everything below it, links included. A link to a directory
that is already being walked through would lead round in a circle, so it is not entered but told.
What cannot be looked at is told as well and does not stop the walk; only the directory to start
from has to be there.
-/

import Thumbnailer.Files

namespace Thumbnailer

/-- Why a part of a walk was left out. -/
inductive WalkError where
  | refused (path : Path) (error : FileError)
  /-- A link back to a directory above it. -/
  | circle (path above : Path)
  deriving DecidableEq, Repr

def WalkError.text : WalkError → String
  | .refused path error => "IO error for operation on " ++ path.display ++ ": " ++ error.text
  | .circle path above =>
    "File system loop found: " ++ path.display ++ " points to an ancestor " ++ above.display

/-- What a walk comes upon. -/
inductive Finding where
  | file (path : Path)
  | unreadable (path : Path) (error : WalkError)
  deriving DecidableEq, Repr

namespace Walk

/-- A directory that is being walked through: how it was reached, and where it lies. -/
structure Ancestor where
  path : Path
  place : Path

/-- What a path leads to. A link is followed, unless to a directory that is being walked through. -/
def look (above : List Ancestor) (path : Path) :
    Procedure FileAccess (Except WalkError FileStatus) :=
  .ask (.examine path false) fun
    | .error error => .done (.error (.refused path error))
    | .ok status =>
      if status.kind = .link then
        .ask (.examine path true) fun
          | .error error => .done (.error (.refused path error))
          | .ok target =>
            match target.kind, above.find? fun ancestor => ancestor.place = target.place with
            | .directory, some ancestor => .done (.error (.circle path ancestor.path))
            | _, _ => .done (.ok target)
      else
        .done (.ok status)

/-- The findings along some paths; one that cannot be looked at is a finding itself. -/
def findAll (visit : Path → Procedure FileAccess (Except WalkError (List Finding))) :
    List Path → Procedure FileAccess (List Finding)
  | [] => .done []
  | path :: rest =>
    (visit path).bind fun found =>
      (findAll visit rest).bind fun others =>
        .done <| match found with
          | .ok findings => findings ++ others
          | .error error => .unreadable path error :: others

/-- The findings at a path and below it, down to as many levels. -/
def visit : Nat → List Ancestor → Path → Procedure FileAccess (Except WalkError (List Finding))
  | 0, _, _ => .done (.ok [])
  | levels + 1, above, path =>
    (look above path).bind fun
      | .error error => .done (.error error)
      | .ok status =>
        match status.kind with
        | .file => .done (.ok [.file path])
        | .directory =>
          .ask (.list path) fun
            | .error error => .done (.error (.refused path error))
            | .ok names =>
              (findAll (visit levels ({ path := path, place := status.place } :: above))
                (names.map fun name => path.join { bytes := name })).bind fun findings =>
                  .done (.ok findings)
        | _ => .done (.ok [])

/-- More levels than there can be: each one makes the path longer by a slash and a name, and no
path longer than this is followed. -/
def levelLimit : Nat := 4096

/-- The findings below a path. -/
def start (path : Path) : Procedure FileAccess (Except WalkError (List Finding)) :=
  visit levelLimit [] path

end Walk

end Thumbnailer
