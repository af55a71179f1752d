/-
This file reads bytes as UTF-8 text. A well-formed sequence gives a character. Where the bytes are
not well-formed, the longest run that could still have begun a character is one fault, and at least
one byte is. A strict reading refuses any fault; a lossy reading writes U+FFFD for each.
-/

import Thumbnailer.Format

namespace Thumbnailer.Utf8

/-- The second bytes that may follow a leading byte, and how many bytes follow it altogether;
nothing for a byte that cannot lead. -/
def following (lead : UInt8) : Option (UInt8 × UInt8 × Nat) :=
  if 0xC2 ≤ lead ∧ lead ≤ 0xDF then some (0x80, 0xBF, 1)
  else if lead = 0xE0 then some (0xA0, 0xBF, 2)
  else if lead = 0xED then some (0x80, 0x9F, 2)
  else if 0xE1 ≤ lead ∧ lead ≤ 0xEF then some (0x80, 0xBF, 2)
  else if lead = 0xF0 then some (0x90, 0xBF, 3)
  else if 0xF1 ≤ lead ∧ lead ≤ 0xF3 then some (0x80, 0xBF, 3)
  else if lead = 0xF4 then some (0x80, 0x8F, 3)
  else none

/-- The bits that a leading byte contributes, by the number of bytes after it. -/
def leadBits (lead : UInt8) (count : Nat) : Nat :=
  lead.toNat % (64 >>> count)

/-- Read continuation bytes into a number. Gives the number, unless a byte is wrong, and how many
bytes were right. -/
def continuation (low high : UInt8) : Nat → Nat → Nat → Bytes → Option Nat × Nat
  | 0, number, used, _ => (some number, used)
  | _ + 1, _, used, [] => (none, used)
  | count + 1, number, used, byte :: rest =>
    if low ≤ byte ∧ byte ≤ high then
      continuation 0x80 0xBF count (number * 64 + byte.toNat % 64) (used + 1) rest
    else
      (none, used)

/-- The character at the front, if the bytes there are well-formed, and how many bytes after the
first belong to it or to the fault. -/
def front (lead : UInt8) (rest : Bytes) : Option Char × Nat :=
  if lead < 0x80 then
    (some (Char.ofNat lead.toNat), 0)
  else
    match following lead with
    | none => (none, 0)
    | some (low, high, count) =>
      let found := continuation low high count (leadBits lead count) 0 rest
      (found.1.map Char.ofNat, found.2)

/-- The characters of the bytes, nothing for each fault. -/
def scan (bytes : Bytes) : List (Option Char) :=
  match bytes with
  | [] => []
  | lead :: rest =>
    let found := front lead rest
    found.1 :: scan (rest.drop found.2)
termination_by bytes.length
decreasing_by simp only [List.length_drop, List.length_cons]; omega

/-- The text, if all of it is well-formed. -/
def decode (bytes : Bytes) : Option String :=
  ((scan bytes).mapM id).map String.ofList

/-- The text, with U+FFFD for each fault. -/
def decodeLossy (bytes : Bytes) : String :=
  String.ofList ((scan bytes).map fun found => found.getD '\uFFFD')

def encode (text : String) : Bytes :=
  text.toUTF8.toList

end Thumbnailer.Utf8
