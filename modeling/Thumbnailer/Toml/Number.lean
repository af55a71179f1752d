/-
This file reads TOML numbers. Digits can be set apart by single underscores between them. A whole
number is a signed word of 64 bits; one in decimal has no leading zeros. A number with a fraction
or an exponent is floating point, rounded to the nearest; one too large for that is refused, unless
it is negative.
-/

import Thumbnailer.Text.Reading

namespace Thumbnailer.Toml

open Reading

/-- The value of a digit, in bases up to sixteen. -/
def digitValue (c : Char) : Nat :=
  if c.isDigit then c.toNat - 48
  else if 'a' ≤ c ∧ c ≤ 'f' then c.toNat - 87
  else c.toNat - 55

def isHexDigit (c : Char) : Bool :=
  c.isDigit || ('a' ≤ c && c ≤ 'f') || ('A' ≤ c && c ≤ 'F')

def isOctalDigit (c : Char) : Bool :=
  '0' ≤ c && c ≤ '7'

def isBinaryDigit (c : Char) : Bool :=
  c == '0' || c == '1'

/-- The number that digits write in a base. -/
def digitsNumber (base : Nat) (digits : List Char) : Nat :=
  digits.foldl (fun number c => number * base + digitValue c) 0

/-- A digit, perhaps after an underscore. -/
def nextDigit (test : Char → Bool) : Reading Char := do
  discard (optional (exactly '_'))
  one test

/-- Digits with single underscores between some of them. -/
def digits (test : Char → Bool) : Reading (List Char) := do
  let first ← one test
  let rest ← many (nextDigit test)
  pure (first :: rest)

/-- The sign in front of a number: whether it is a minus. -/
def minus : Reading Bool := do
  match ← peek with
  | some '-' => do exactly '-'; pure true
  | some '+' => do exactly '+'; pure false
  | _ => pure false

/-- Decimal digits without leading zeros. -/
def plainDigits : Reading (List Char) := do
  match ← peek with
  | some '0' => do exactly '0'; pure ['0']
  | _ => digits Char.isDigit

/-- A whole number that a signed word of 64 bits can hold. -/
def inRange (number : Int) : Reading Int :=
  if Int64.minValue.toInt ≤ number ∧ number ≤ Int64.maxValue.toInt then pure number else failure

/-- A whole number in a base that is shown in front. -/
def based (mark : String) (base : Nat) (test : Char → Bool) : Reading Int := do
  word mark
  let found ← digits test
  inRange (digitsNumber base found)

def decimal : Reading Int := do
  let negative ← minus
  let found ← plainDigits
  let number : Int := digitsNumber 10 found
  inRange (if negative then -number else number)

def whole : Reading Int :=
  based "0x" 16 isHexDigit <|> based "0o" 8 isOctalDigit <|> based "0b" 2 isBinaryDigit <|> decimal

/-! ### Floating point -/

/-- The double nearest to digits times a power of ten; nothing if it is too large. -/
def nearestDouble (digits : Nat) (exponent : Int) : Option Float :=
  let leading : Int := (toString digits).length + exponent
  if digits = 0 ∨ leading < -400 then some 0
  else if 400 < leading then none
  else
    let number := Float.ofScientific digits (exponent < 0) exponent.natAbs
    if number.isInf then none else some number

/-- An exponent: its sign and its digits, which may start with zeros. -/
def exponent : Reading Int := do
  discard (one fun c => c == 'e' || c == 'E')
  let negative ← minus
  let found ← digits Char.isDigit
  let number : Int := digitsNumber 10 found
  pure (if negative then -number else number)

def fraction : Reading (List Char) := do
  exactly '.'
  digits Char.isDigit

def infinite (negative : Bool) : Float :=
  if negative then -(1 / 0) else 1 / 0

/-- A number with a fraction, an exponent, or both. -/
def pointed : Reading Float := do
  let negative ← minus
  let front ← plainDigits
  let places ← optional fraction
  let power ← optional exponent
  if places.isNone && power.isNone then failure
  let behind := places.getD []
  match nearestDouble (digitsNumber 10 (front ++ behind)) (power.getD 0 - behind.length) with
  | some number => pure (if negative then -number else number)
  | none => if negative then pure (infinite true) else failure

/-- Infinity, or what is not a number. -/
def named : Reading Float := do
  let negative ← minus
  (do word "inf"; pure (infinite negative)) <|> (do word "nan"; pure (0 / 0))

def real : Reading Float :=
  pointed <|> named

end Thumbnailer.Toml
