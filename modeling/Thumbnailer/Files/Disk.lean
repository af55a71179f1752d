/-
This file holds a file system in memory: a tree of directories, files and links, and the directory
that paths start from unless they are rooted. A path is followed name by name; a link on the way,
or at the end where that is asked for, is replaced by the path it holds. Following stops with a
cause where a name is missing, where something that is no directory is entered, and where too many
links are met. All requests to a file system can be answered from it.
-/

import Thumbnailer.Files

namespace Thumbnailer

/-- A file, a link that holds a path, or a directory with its names in order. -/
inductive FileTree where
  | file (data : Bytes)
  | link (target : Path)
  | directory (entries : List (Bytes × FileTree))

namespace FileTree

def kind : FileTree → FileKind
  | .file _ => .file
  | .link _ => .link
  | .directory _ => .directory

/-- What lies under these names. -/
def find? : FileTree → List Bytes → Option FileTree
  | node, [] => some node
  | .directory entries, name :: rest => (entries.lookup name).bind fun node => node.find? rest
  | _, _ :: _ => none

/-- Entries with a name set, which comes to its place in order. -/
def setEntry (name : Bytes) (node : FileTree) :
    List (Bytes × FileTree) → List (Bytes × FileTree)
  | [] => [(name, node)]
  | entry :: rest =>
    if entry.1 = name then (name, node) :: rest
    else if Component.bytesBefore name entry.1 then (name, node) :: entry :: rest
    else entry :: setEntry name node rest

/-- The tree with something new under these names. The directories on the way have to be there. -/
def set : FileTree → List Bytes → FileTree → FileTree
  | _, [], new => new
  | .directory entries, name :: rest, new =>
    .directory (setEntry name (((entries.lookup name).getD new).set rest new) entries)
  | other, _ :: _, _ => other

end FileTree

/-- A file system: the tree under its root, and the names of the directory that paths start from. -/
structure Disk where
  root : FileTree
  start : List Bytes := []

namespace Disk

/-- The longest name, in bytes. -/
def longestName : Nat := 255

/-- The longest path, in bytes. -/
def longestPath : Nat := 4095

/-- How many links are followed for one path. -/
def linkLimit : Nat := 40

/-- A step on the way along a path. -/
inductive Step where
  /-- Stay, which only a directory allows. -/
  | stay
  | up
  | enter (name : Bytes)
  deriving DecidableEq

/-- The steps along a path. A path that ends with a slash has to lead to a directory. -/
def steps (path : Path) : List Step :=
  let named := (path.segments.filter fun segment => !segment.isEmpty).map fun segment =>
    if segment = [0x2E] then .stay else if segment = [0x2E, 0x2E] then .up else .enter segment
  if path.bytes.getLast? = some 0x2F && !named.isEmpty then named ++ [.stay] else named

/-- Where a path leads. -/
inductive Spot where
  /-- To something under these names. -/
  | present (place : List Bytes)
  /-- To a name that is not there in a directory that is. -/
  | absent (directory : List Bytes) (name : Bytes)
  deriving DecidableEq

/-- Take steps from a place, and jump from links with the steps that remain. A link at the end is
followed only if asked. -/
def advance (root : FileTree) (follow : Bool)
    (jump : List Bytes → List Step → Except FileError Spot) (place : List Bytes)
    (todo : List Step) : Except FileError Spot :=
  match todo with
  | [] => .ok (.present place)
  | step :: rest =>
    match root.find? place with
    | some (.directory entries) =>
      match step with
      | .stay => advance root follow jump place rest
      | .up => advance root follow jump place.dropLast rest
      | .enter name =>
        if longestName < name.length then .error .nameTooLong
        else
          match entries.lookup name with
          | none => if rest.isEmpty then .ok (.absent place name) else .error .missing
          | some (.link target) =>
            if rest.isEmpty && !follow then .ok (.present (place ++ [name]))
            else jump (if target.rooted then [] else place) (steps target ++ rest)
          | some _ => advance root follow jump (place ++ [name]) rest
    | _ => .error .notDirectory

/-- Take steps from a place, over as many links at most. -/
def lead (root : FileTree) (follow : Bool) :
    Nat → List Bytes → List Step → Except FileError Spot
  | 0 => advance root follow fun _ _ => .error .tooManyLinks
  | left + 1 => advance root follow (lead root follow left)

/-- Where a path leads from the start. -/
def locate (disk : Disk) (path : Path) (follow : Bool) : Except FileError Spot :=
  if path.bytes.contains 0 then .error .unusableName
  else if path.bytes.isEmpty then .error .missing
  else if longestPath < path.bytes.length then .error .nameTooLong
  else lead disk.root follow linkLimit (if path.rooted then [] else disk.start) (steps path)

/-- What a path leads to, and the names it lies under. -/
def visit (disk : Disk) (path : Path) (follow : Bool) :
    Except FileError (FileTree × List Bytes) := do
  match ← disk.locate path follow with
  | .absent .. => .error .missing
  | .present place =>
    match disk.root.find? place with
    | some node => .ok (node, place)
    | none => .error .missing

/-- A path without the slashes at its end. -/
def withoutSlashes (path : Path) : Path :=
  { bytes := (path.bytes.reverse.dropWhile (· = 0x2F)).reverse }

def read (disk : Disk) (path : Path) : Except FileError Bytes := do
  match ← disk.visit path true with
  | (.file data, _) => .ok data
  | _ => .error .isDirectory

/-- Put something new under these names. -/
def put (disk : Disk) (place : List Bytes) (node : FileTree) : Disk :=
  { disk with root := disk.root.set place node }

/-- Write a file. A path that ends with a slash names no file. -/
def write (disk : Disk) (path : Path) (data : Bytes) : Except FileError Disk := do
  let trimmed := withoutSlashes path
  if trimmed ≠ path ∧ !trimmed.bytes.isEmpty then
    discard (disk.locate trimmed false)
    .error .isDirectory
  else
    match ← disk.locate path true with
    | .absent directory name => .ok (disk.put (directory ++ [name]) (.file data))
    | .present place =>
      match disk.root.find? place with
      | some (.file _) => .ok (disk.put place (.file data))
      | _ => .error .isDirectory

/-- Make a new entry at a path that leads to nothing. -/
def make (disk : Disk) (path : Path) (node : FileTree) : Except FileError Disk := do
  let trimmed := withoutSlashes path
  match ← disk.locate (if trimmed.bytes.isEmpty then path else trimmed) false with
  | .absent directory name => .ok (disk.put (directory ++ [name]) node)
  | .present _ => .error .exists

def examine (disk : Disk) (path : Path) (follow : Bool) : Except FileError FileStatus := do
  let (node, place) ← disk.visit path follow
  .ok { kind := node.kind, place := .ofSegments true place }

def list (disk : Disk) (path : Path) : Except FileError (List Bytes) := do
  match ← disk.visit path true with
  | (.directory entries, _) => .ok (entries.map Prod.fst)
  | _ => .error .notDirectory

/-- A change that leaves the file system as it was where it is refused. -/
def apply (disk : Disk) (change : Disk → Except FileError Disk) : Except FileError Unit × Disk :=
  match change disk with
  | .ok changed => (.ok (), changed)
  | .error error => (.error error, disk)

/-- Every request answered from memory. -/
def handler : Procedure.Handler FileAccess Disk
  | .read path, disk => (disk.read path, disk)
  | .write path data, disk => disk.apply fun disk => disk.write path data
  | .makeDirectory path, disk => disk.apply fun disk => disk.make path (.directory [])
  | .examine path follow, disk => (disk.examine path follow, disk)
  | .list path, disk => (disk.list path, disk)

/-- The file system with a directory, made along with those that are missing above it. -/
def withDirectory (disk : Disk) (path : Path) : Disk :=
  ((Files.makeDirectories path).run handler disk).2

/-- The file system with a file or a link at a path, and the directories above it. -/
def plant (disk : Disk) (path : Path) (node : FileTree) : Disk :=
  let above := match path.parent? with
    | some parent => disk.withDirectory parent
    | none => disk
  (above.apply fun disk => match node with
    | .file data => disk.write path data
    | other => disk.make path other).2

/-- The contents below a path, down to as many levels: directories have no data. Links to
directories are left out. -/
def contentsFrom (disk : Disk) : Nat → Path → List (Path × Option Bytes)
  | 0, _ => []
  | levels + 1, path =>
    match disk.list path with
    | .error _ => []
    | .ok names => names.flatMap fun name =>
      let child := path.join { bytes := name }
      match (disk.examine child false).map FileStatus.kind, disk.read child with
      | .ok .directory, _ => (child, none) :: contentsFrom disk levels child
      | _, .ok data => [(child, some data)]
      | _, .error _ => []

/-- The contents below a path, in the order of paths. -/
def contents (disk : Disk) (path : Path) : List (Path × Option Bytes) :=
  disk.contentsFrom longestPath path

end Disk

end Thumbnailer
