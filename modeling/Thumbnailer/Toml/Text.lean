/-
This file reads TOML texts. Between double quotes a backslash escapes; between single quotes
nothing does. A text in triple quotes goes over lines: a line end right after the opening quotes is
left out, every other one counts as a line feed, and one or two quotes are themselves, also right
before the closing ones. A backslash at the end of a line joins the lines around it.
-/

import Thumbnailer.Toml.Number

namespace Thumbnailer.Toml

open Reading

/-- Whether a character is above the ASCII ones. -/
def isWide (c : Char) : Bool :=
  0x80 ≤ c.toNat

def isBlank (c : Char) : Bool :=
  c == ' ' || c == '\t'

/-- Characters that may stand in a comment: the visible ones and blanks. -/
def isPlain (c : Char) : Bool :=
  isBlank c || (0x21 ≤ c.toNat && c.toNat ≤ 0x7E) || isWide c

/-- Characters that stand for themselves between double quotes. -/
def isBasic (c : Char) : Bool :=
  isPlain c && c ≠ '"' && c ≠ '\\'

/-- Characters that stand for themselves between single quotes. -/
def isLiteral (c : Char) : Bool :=
  isPlain c && c ≠ '\''

def newline : Reading Unit :=
  exactly '\n' <|> word "\r\n"

def blanks : Reading Unit :=
  discard (takeWhile isBlank)

/-- The character with a number of this many hexadecimal digits. -/
def numbered (count : Nat) : Reading Char :=
  fun input =>
    let found := input.take count
    let number := digitsNumber 16 found
    if found.length = count ∧ found.all isHexDigit ∧ number.isValidChar then
      some (Char.ofNat number, input.drop count)
    else
      none

/-- What a backslash and what follows it stand for. -/
def escaped : Reading Char := do
  exactly '\\'
  match ← one fun _ => true with
  | 'b' => pure '\x08'
  | 'f' => pure '\x0c'
  | 'n' => pure '\n'
  | 'r' => pure '\r'
  | 't' => pure '\t'
  | '"' => pure '"'
  | '\\' => pure '\\'
  | 'u' => numbered 4
  | 'U' => numbered 8
  | _ => failure

/-- Text on one line between double quotes. -/
def basicText : Reading (List Char) := do
  exactly '"'
  let found ← many (one isBasic <|> escaped)
  exactly '"'
  pure found

/-- Text on one line between single quotes. -/
def literalText : Reading (List Char) := do
  exactly '\''
  let found ← takeWhile isLiteral
  exactly '\''
  pure found

/-- A backslash, blanks, a line end, and all blanks and line ends after it. -/
def joinedLines : Reading (List Char) := do
  exactly '\\'
  blanks
  newline
  discard (many (discard (one isBlank) <|> newline))
  pure []

/-- One or two quotes that no further one follows. -/
def fewQuotes (quote : Char) : Reading (List Char) :=
  fun input =>
    let found := input.takeWhile (· == quote)
    if found.length = 1 ∨ found.length = 2 then some (found, input.drop found.length) else none

/-- Three quotes after none, one or two that belong to the text. -/
def closingQuotes (quote : Char) : Reading (List Char) :=
  fun input =>
    let count := (input.takeWhile (· == quote)).length
    if 3 ≤ count then
      let kept := min (count - 3) 2
      some (List.replicate kept quote, input.drop (kept + 3))
    else
      none

/-- Text over lines between triple quotes. -/
def longText (quote : Char) (piece : Reading (List Char)) : Reading (List Char) := do
  discard (word (String.ofList [quote, quote, quote]))
  discard (optional newline)
  let found ← many (piece <|> (do newline; pure ['\n']) <|> fewQuotes quote)
  let last ← closingQuotes quote
  pure (found.flatten ++ last)

def longBasicText : Reading (List Char) :=
  longText '"' (takeSome isBasic <|> joinedLines <|> (do let c ← escaped; pure [c]))

def longLiteralText : Reading (List Char) :=
  longText '\'' (takeSome isLiteral)

def quotedText : Reading String := do
  let found ← longBasicText <|> basicText <|> longLiteralText <|> literalText
  pure (String.ofList found)

end Thumbnailer.Toml
