/-
This file is the command line itself: it reaches files, the clock and the terminal. Everything it
prints is made elsewhere; here it only goes out. Pictures are read and written in the library's own
container.
-/

import Thumbnailer.Codec
import Thumbnailer.Program

namespace Thumbnailer

namespace Terminal

/-- The cause with a number. -/
def causeOf (number : UInt32) (description : String) : FileError :=
  let known := [FileError.missing, .denied, .exists, .notDirectory, .isDirectory, .nameTooLong,
    .tooManyLinks]
  (known.find? fun cause => cause.number? = some number.toNat).getD
    (.other number.toNat description)

/-- Why an action was refused. -/
def refusalOf : IO.Error → FileError
  | .noFileOrDirectory _ _ _ => .missing
  | .alreadyExists _ number text | .permissionDenied _ number text
  | .inappropriateType _ number text | .invalidArgument _ number text
  | .resourceExhausted _ number text | .noSuchThing _ number text | .interrupted _ number text
  | .otherError number text | .resourceBusy number text | .resourceVanished number text
  | .unsupportedOperation number text | .hardwareFault number text
  | .unsatisfiedConstraints number text | .illegalOperation number text
  | .protocolError number text | .timeExpired number text => causeOf number text
  | .unexpectedEof => .other 0 "unexpected end of file"
  | .userError text => .other 0 text

/-- What an action gives, or why it was refused. -/
def attempt {Result : Type} (action : IO Result) : IO (Except FileError Result) := do
  match ← action.toBaseIO with
  | .ok result => pure (.ok result)
  | .error error => pure (.error (refusalOf error))

/-- The entry that a path names, seen from the working directory. -/
def entryAt (path : Path) : IO.FS.DirEntry :=
  { root := ".", fileName := path.display }

def kindOf : IO.FS.FileType → FileKind
  | .dir => .directory
  | .file => .file
  | .symlink => .link
  | .other => .other

/-- Carry out one request on the file system. An empty path leads nowhere. -/
def files (task : FileTask) : IO (FileTask.Answer task) :=
  match task with
  | .read path => attempt do
    let data ← IO.FS.readBinFile (entryAt path).path
    pure data.toList
  | .write path data => attempt (IO.FS.writeBinFile (entryAt path).path ⟨data.toArray⟩)
  | .makeDirectory path => attempt (IO.FS.createDir (entryAt path).path)
  | .examine path follow =>
    if path.bytes.isEmpty then
      pure (.error .missing)
    else attempt do
      let place := (entryAt path).path
      let status ← if follow then place.metadata else place.symlinkMetadata
      let real ← if follow || status.type != .symlink then IO.FS.realPath place else pure place
      pure { kind := kindOf status.type, place := .ofString real.toString }
  | .list path => attempt do
    let entries ← (entryAt path).path.readDir
    pure (entries.toList.map fun entry => Utf8.encode entry.fileName)

/-- The machine that the program runs on. -/
def machine : Machine IO :=
  { files := files
    clock := do
      let now ← IO.monoNanosNow
      pure { nanoseconds := now }
    print := fun line => IO.println line }

end Terminal

end Thumbnailer

def main (arguments : List String) : IO UInt32 := do
  match Thumbnailer.CommandLine.parse (arguments.map Thumbnailer.Utf8.encode) with
  | .error refusal =>
    refusal.lines.forM (if refusal.isFault then IO.eprintln else IO.println)
    pure (if refusal.isFault then 2 else 0)
  | .ok invocation =>
    let program := Thumbnailer.Program.run Thumbnailer.Terminal.machine
      Thumbnailer.Container.codec invocation
    match ← program.run with
    | .ok () => pure 0
    | .error error =>
      IO.eprintln ("Error: " ++ error.record)
      pure 1
