/-
This file holds the means to read text from the front: a reading takes some characters and gives
what they mean along with the rest, or fails. Repetition stops where a reading fails or takes
nothing, so it always ends.
-/

namespace Thumbnailer

/-- A reading of characters from the front. -/
abbrev Reading (Result : Type) := StateT (List Char) Option Result

namespace Reading

variable {Result : Type}

/-- The next character, which stays where it is. -/
def peek : Reading (Option Char) :=
  fun input => some (input.head?, input)

/-- One character that passes a test. -/
def one (test : Char → Bool) : Reading Char
  | [] => none
  | c :: rest => if test c then some (c, rest) else none

def exactly (wanted : Char) : Reading Unit :=
  fun input => (one (· == wanted) input).map fun found => ((), found.2)

/-- The characters at the front that pass a test. -/
def takeWhile (test : Char → Bool) : Reading (List Char) :=
  fun input => some (input.takeWhile test, input.dropWhile test)

/-- At least one character that passes a test. -/
def takeSome (test : Char → Bool) : Reading (List Char) := do
  let found ← takeWhile test
  if found.isEmpty then failure else pure found

def word (text : String) : Reading Unit :=
  fun input =>
    if text.toList.isPrefixOf input then some ((), input.drop text.length) else none

/-- As many readings as succeed and take something. -/
def many (reading : Reading Result) (input : List Char) : Option (List Result × List Char) :=
  match reading input with
  | some (result, rest) =>
    if rest.length < input.length then
      (many reading rest).map fun found => (result :: found.1, found.2)
    else
      some ([], input)
  | none => some ([], input)
termination_by input.length

/-- Readings with a character between them; there may be none. The character is left where no
reading follows it. -/
def separated (separator : Char) (reading : Reading Result) : Reading (List Result) := do
  match ← optional reading with
  | none => pure []
  | some first =>
    let rest ← many do
      exactly separator
      reading
    pure (first :: rest)

def finished : Reading Unit
  | [] => some ((), [])
  | _ => none

end Reading

end Thumbnailer
