/-
This file holds the container formats: their names, the tokens they are requested by, the file
extension each one is stored under, and the leading bytes by which encoded data shows its format.
A format is recognised by either of its tokens in any letter case, and the canonical extension is
itself a token of its format.
-/

namespace Thumbnailer

/-- File contents. -/
abbrev Bytes := List UInt8

/-- Lower case for the letters `A` to `Z`; every other character stays as it is. -/
def lowerCase (text : String) : String :=
  text.map Char.toLower

/-- The container formats. Which of them can be read or written is a matter of capabilities. -/
inductive Format where
  | jpeg
  | png
  | webp
  | gif
  deriving DecidableEq, Repr

namespace Format

/-- Every format, in the order in which lists of formats are written. -/
def all : List Format := [.jpeg, .png, .webp, .gif]

def name : Format → String
  | .jpeg => "jpeg"
  | .png => "png"
  | .webp => "webp"
  | .gif => "gif"

/-- The extension under which a file of this format is stored. -/
def extension : Format → String
  | .jpeg => "jpg"
  | .png => "png"
  | .webp => "webp"
  | .gif => "gif"

/-- The format a token names, in any letter case. -/
def ofToken? (token : String) : Option Format :=
  match lowerCase token with
  | "jpeg" | "jpg" => some .jpeg
  | "png" => some .png
  | "webp" => some .webp
  | "gif" => some .gif
  | _ => none

/-- The format of encoded data, told from its leading bytes. -/
def sniff : Bytes → Option Format
  | 0xFF :: 0xD8 :: 0xFF :: _ => some .jpeg
  | 0x89 :: 0x50 :: 0x4E :: 0x47 :: 0x0D :: 0x0A :: 0x1A :: 0x0A :: _ => some .png
  | 0x47 :: 0x49 :: 0x46 :: 0x38 :: 0x37 :: 0x61 :: _ => some .gif
  | 0x47 :: 0x49 :: 0x46 :: 0x38 :: 0x39 :: 0x61 :: _ => some .gif
  | 0x52 :: 0x49 :: 0x46 :: 0x46 :: _ :: _ :: _ :: _ :: 0x57 :: 0x45 :: 0x42 :: 0x50 :: _ =>
    some .webp
  | _ => none

/-- Leading bytes that show the format. -/
def signature : Format → Bytes
  | .jpeg => [0xFF, 0xD8, 0xFF]
  | .png => [0x89, 0x50, 0x4E, 0x47, 0x0D, 0x0A, 0x1A, 0x0A]
  | .webp => [0x52, 0x49, 0x46, 0x46, 0, 0, 0, 0, 0x57, 0x45, 0x42, 0x50]
  | .gif => [0x47, 0x49, 0x46, 0x38, 0x39, 0x61]

theorem mem_all (format : Format) : format ∈ all := by
  cases format <;> decide

theorem sniff_signature_append (format : Format) (rest : Bytes) :
    sniff (format.signature ++ rest) = some format := by
  cases format <;> rfl

end Format

end Thumbnailer
