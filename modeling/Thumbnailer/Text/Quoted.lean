/-
This file writes text in double quotes, as it stands in messages. Quotes and backslashes are
escaped, the usual controls have their letters, and any other character that does not show by
itself is written by its number.
-/

import Thumbnailer.Text.Unprinted

namespace Thumbnailer.Text

def hexText (number : Nat) : String :=
  String.ofList (Nat.toDigits 16 number)

/-- A character as it stands between double quotes. -/
def quotedChar (c : Char) : String :=
  if c = '\x00' then "\\0"
  else if c = '\t' then "\\t"
  else if c = '\r' then "\\r"
  else if c = '\n' then "\\n"
  else if c = '"' then "\\\""
  else if c = '\\' then "\\\\"
  else if isUnprinted c then "\\u\x7b" ++ hexText c.toNat ++ "\x7d"
  else c.toString

def quoted (text : String) : String :=
  "\"" ++ String.join (text.toList.map quotedChar) ++ "\""

end Thumbnailer.Text
