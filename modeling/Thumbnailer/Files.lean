/-
This file holds what a program may ask of a file system, and what it is answered. Every request
names its path as it is written; the file system follows links and refuses what it cannot do with
one of a few causes. Making a directory along with all that are missing above it is put together
from single requests, so it can be interrupted by others between any two of them.
-/

import Thumbnailer.Path
import Thumbnailer.Procedure
import Thumbnailer.Text.Quoted

namespace Thumbnailer

/-- Why a file system refuses a request. -/
inductive FileError where
  | missing
  | denied
  | exists
  | notDirectory
  | isDirectory
  | nameTooLong
  | tooManyLinks
  /-- A path that cannot name anything. -/
  | unusableName
  /-- Another cause, by its number and its description. -/
  | other (number : Nat) (description : String)
  deriving DecidableEq, Repr

namespace FileError

def description : FileError → String
  | .missing => "No such file or directory"
  | .denied => "Permission denied"
  | .exists => "File exists"
  | .notDirectory => "Not a directory"
  | .isDirectory => "Is a directory"
  | .nameTooLong => "File name too long"
  | .tooManyLinks => "Too many levels of symbolic links"
  | .unusableName => "file name contained an unexpected NUL byte"
  | .other _ description => description

/-- The number that the system gives the cause, if it comes from the system. -/
def number? : FileError → Option Nat
  | .missing => some 2
  | .denied => some 13
  | .exists => some 17
  | .notDirectory => some 20
  | .isDirectory => some 21
  | .nameTooLong => some 36
  | .tooManyLinks => some 40
  | .unusableName => none
  | .other number _ => some number

def kind : FileError → String
  | .missing => "NotFound"
  | .denied => "PermissionDenied"
  | .exists => "AlreadyExists"
  | .notDirectory => "NotADirectory"
  | .isDirectory => "IsADirectory"
  | .nameTooLong => "InvalidFilename"
  | .tooManyLinks => "FilesystemLoop"
  | .unusableName => "InvalidInput"
  | .other .. => "Uncategorized"

def text (error : FileError) : String :=
  match error.number? with
  | some number => error.description ++ " (os error " ++ toString number ++ ")"
  | none => error.description

/-- The cause with all its parts, as a record. -/
def record (error : FileError) : String :=
  match error.number? with
  | some number =>
    "Os \x7b code: " ++ toString number ++ ", kind: " ++ error.kind ++ ", message: " ++
      Text.quoted error.description ++ " \x7d"
  | none =>
    "Error \x7b kind: " ++ error.kind ++ ", message: " ++ Text.quoted error.description ++ " \x7d"

end FileError

inductive FileKind where
  | file
  | directory
  | link
  | other
  deriving DecidableEq, Repr

/-- What is known about a file without reading it. -/
structure FileStatus where
  kind : FileKind
  /-- The path that leads there from the root without any links. Two paths lead to the same file
  exactly if these are the same. -/
  place : Path
  deriving DecidableEq, Repr

inductive FileTask where
  | read (path : Path)
  /-- Write a file, which is made if it is missing. -/
  | write (path : Path) (data : Bytes)
  | makeDirectory (path : Path)
  /-- What a path leads to; a link at its end is followed only if asked. -/
  | examine (path : Path) (follow : Bool)
  | list (path : Path)

abbrev FileTask.Answer : FileTask → Type
  | .read _ => Except FileError Bytes
  | .write .. => Except FileError Unit
  | .makeDirectory _ => Except FileError Unit
  | .examine .. => Except FileError FileStatus
  | .list _ => Except FileError (List Bytes)

abbrev FileAccess : Interface :=
  { Request := FileTask, Answer := FileTask.Answer }

namespace Files

def isDirectory (path : Path) : Procedure FileAccess Bool :=
  .ask (.examine path true) fun
    | .ok status => .done (status.kind = .directory)
    | .error _ => .done false

/-- Whether a path leads anywhere. -/
def present (path : Path) : Procedure FileAccess Bool :=
  .ask (.examine path true) fun answer => .done answer.isOk

/-- Make the first of some directories; if what is above it is missing, the rest is made before.
A directory that is there already is as good as one that was made. -/
def makeUpward : List Path → Procedure FileAccess (Except FileError Unit)
  | [] => .done (.ok ())
  | path :: above =>
    let settle : FileError → Procedure FileAccess (Except FileError Unit) := fun error =>
      (isDirectory path).bind fun found => .done (if found then .ok () else .error error)
    .ask (.makeDirectory path) fun
      | .ok () => .done (.ok ())
      | .error .missing =>
        (makeUpward above).bind fun
          | .error error => .done (.error error)
          | .ok () =>
            .ask (.makeDirectory path) fun
              | .ok () => .done (.ok ())
              | .error error => settle error
      | .error error => settle error

/-- Make a directory along with those that are missing above it. -/
def makeDirectories (path : Path) : Procedure FileAccess (Except FileError Unit) :=
  makeUpward path.upward

end Files

end Thumbnailer
