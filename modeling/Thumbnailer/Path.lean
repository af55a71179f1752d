/-
This file holds file paths. A path is a run of bytes in which slashes separate segments; it is
rooted if it starts with one. Empty segments mean nothing, and neither do segments of a single dot,
except as the very first segment of a path that is not rooted. What is left are the components.
Paths are compared by components, while the functions that cut paths keep the bytes they do not
touch as they are written.
-/

import Thumbnailer.Text.Utf8

namespace Thumbnailer

/-- A path as it is written. -/
structure Path where
  bytes : Bytes
  deriving DecidableEq, Repr

inductive Component where
  | root
  | current
  | parent
  | name (bytes : Bytes)
  deriving DecidableEq, Repr

namespace Component

/-- The place of a component's kind in the order of paths. -/
def rank : Component → Nat
  | .root => 0
  | .current => 1
  | .parent => 2
  | .name _ => 3

/-- Byte strings in dictionary order. -/
def bytesBefore : Bytes → Bytes → Bool
  | _, [] => false
  | [], _ :: _ => true
  | first :: firstRest, second :: secondRest =>
    first < second || (first = second && bytesBefore firstRest secondRest)

/-- Roots come first, then the current and the parent directory, then names by their bytes. -/
def before : Component → Component → Bool
  | .name first, .name second => bytesBefore first second
  | first, second => first.rank < second.rank

end Component

namespace Path

def ofString (text : String) : Path :=
  { bytes := Utf8.encode text }

/-- The path as text for people; bytes that are no text are shown as U+FFFD. -/
def display (path : Path) : String :=
  Utf8.decodeLossy path.bytes

/-- Segments between slashes; there is always at least one. -/
def splitSlashes : Bytes → Bytes × List Bytes
  | [] => ([], [])
  | byte :: rest =>
    let split := splitSlashes rest
    if byte = 0x2F then ([], split.1 :: split.2) else (byte :: split.1, split.2)

def rooted (path : Path) : Bool :=
  path.bytes.head? = some 0x2F

/-- The segments after the root, if there is one. -/
def segments (path : Path) : List Bytes :=
  let split := splitSlashes (if path.rooted then path.bytes.drop 1 else path.bytes)
  split.1 :: split.2

def joinSegments : List Bytes → Bytes
  | [] => []
  | [last] => last
  | first :: rest => first ++ 0x2F :: joinSegments rest

def ofSegments (rooted : Bool) (segments : List Bytes) : Path :=
  { bytes := (if rooted then [0x2F] else []) ++ joinSegments segments }

/-- Whether a segment means nothing. A single dot means something only in the leading place of a
path that is not rooted. -/
def isVoid (leading : Bool) (segment : Bytes) : Bool :=
  segment.isEmpty || (segment = [0x2E] && !leading)

/-- Segments without the meaningless ones at the end. -/
def trimEnd (leading : Bool) : List Bytes → List Bytes
  | [] => []
  | segment :: rest =>
    match trimEnd false rest with
    | [] => if isVoid leading segment then [] else [segment]
    | kept => segment :: kept

/-- The component that a meaningful segment is. -/
def componentOf (segment : Bytes) : Component :=
  if segment = [0x2E] then .current
  else if segment = [0x2E, 0x2E] then .parent
  else .name segment

/-- The components of segments. -/
def componentsOf (leading : Bool) : List Bytes → List Component
  | [] => []
  | segment :: rest =>
    if isVoid leading segment then componentsOf false rest
    else componentOf segment :: componentsOf false rest

def components (path : Path) : List Component :=
  (if path.rooted then [.root] else []) ++ componentsOf (!path.rooted) path.segments

def sameAs (first second : Path) : Bool :=
  first.components = second.components

/-- Lists of components in dictionary order. -/
def componentsBefore : List Component → List Component → Bool
  | _, [] => false
  | [], _ :: _ => true
  | first :: firstRest, second :: secondRest =>
    first.before second || (first = second && componentsBefore firstRest secondRest)

def before (first second : Path) : Bool :=
  componentsBefore first.components second.components

/-- The path without its last component; nothing for the root and for a path without components. -/
def parent? (path : Path) : Option Path :=
  match trimEnd (!path.rooted) path.segments with
  | [] => none
  | kept => some (ofSegments path.rooted (trimEnd (!path.rooted) kept.dropLast))

/-- The path and its parents, nearest first, as many as asked for at most. -/
def upwardFrom : Nat → Path → List Path
  | 0, _ => []
  | count + 1, path =>
    if path.components.isEmpty then []
    else
      path :: match path.parent? with
        | none => []
        | some parent => upwardFrom count parent

/-- The path and all its parents that have a component, nearest first. -/
def upward (path : Path) : List Path :=
  upwardFrom path.components.length path

/-- The last component, if it is a name. -/
def fileName? (path : Path) : Option Bytes :=
  match path.components.getLast? with
  | some (.name bytes) => some bytes
  | _ => none

/-- A name split at its last dot: what is before it, if there is a dot, and what is after it. A name
whose only dot is its first byte is not split. -/
def splitName (name : Bytes) : Option Bytes × Bytes :=
  let reversed := name.reverse
  let after := (reversed.takeWhile (· ≠ 0x2E)).reverse
  match reversed.dropWhile (· ≠ 0x2E) with
  | [] => (none, name)
  | [_] => (none, name)
  | _ :: before => (some before.reverse, after)

def stem? (path : Path) : Option Bytes :=
  path.fileName?.map fun name => (splitName name).1.getD name

/-- What follows the last dot of the file name. -/
def extension? (path : Path) : Option Bytes :=
  path.fileName?.bind fun name => (splitName name).1.map fun _ => (splitName name).2

/-- The segments after a number of components. -/
def dropComponents (leading : Bool) : Nat → List Bytes → List Bytes
  | 0, segments => segments
  | _ + 1, [] => []
  | count + 1, segment :: rest =>
    if isVoid leading segment then dropComponents false (count + 1) rest
    else dropComponents false count rest

/-- The rest of a path after the components of another, if it starts with them. -/
def relativeTo? (path base : Path) : Option Path :=
  let given := base.components
  if given.isEmpty then
    some (ofSegments path.rooted (trimEnd (!path.rooted) path.segments))
  else if given.isPrefixOf path.components then
    let count := if path.rooted then given.length - 1 else given.length
    let rest := dropComponents (!path.rooted) count path.segments
    some (ofSegments false (trimEnd false (rest.dropWhile (isVoid false))))
  else
    none

/-- One path after another; a rooted path replaces what is before it. -/
def join (path next : Path) : Path :=
  if next.rooted then next
  else if path.bytes.isEmpty || path.bytes.getLast? = some 0x2F then
    { bytes := path.bytes ++ next.bytes }
  else
    { bytes := path.bytes ++ 0x2F :: next.bytes }

def format? (path : Path) : Option Format :=
  (path.extension?.bind Utf8.decode).bind Format.ofToken?

end Path

end Thumbnailer
