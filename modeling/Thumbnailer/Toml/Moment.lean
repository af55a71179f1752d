/-
This file reads TOML dates and times and writes them in one way: a capital `T` between date and
time, fractions of a second without closing zeros and to at most nine places, and offsets with a
sign and less than sixty minutes. A day must be in its month. A moment that is given as text may
have a few more hours and minutes than one that stands in a document by itself.
-/

import Thumbnailer.Toml.Number

namespace Thumbnailer.Toml

open Reading

/-- This many decimal digits. -/
def digitRun (count : Nat) : Reading (List Char) :=
  fun input =>
    let found := input.take count
    if found.length = count ∧ found.all Char.isDigit then some (found, input.drop count) else none

/-- The greatest numbers that may stand in a time and in an offset. -/
structure ClockLimits where
  hour : Nat
  offsetHour : Nat
  offsetMinute : Nat

/-- The limits for a moment that stands in a document by itself. -/
def ClockLimits.strict : ClockLimits :=
  { hour := 23, offsetHour := 23, offsetMinute := 59 }

/-- The limits for a moment that is given as text. -/
def ClockLimits.loose : ClockLimits :=
  { hour := 24, offsetHour := 99, offsetMinute := 99 }

/-- A number of this many digits that lies between two others. -/
def field (count low high : Nat) : Reading (List Char) := do
  let found ← digitRun count
  let number := digitsNumber 10 found
  if low ≤ number ∧ number ≤ high then pure found else failure

def isLeapYear (year : Nat) : Bool :=
  year % 4 = 0 && (year % 100 ≠ 0 || year % 400 = 0)

def daysIn (year month : Nat) : Nat :=
  if month = 2 then (if isLeapYear year then 29 else 28)
  else if month = 4 ∨ month = 6 ∨ month = 9 ∨ month = 11 then 30
  else 31

def date : Reading String := do
  let year ← digitRun 4
  exactly '-'
  let month ← field 2 1 12
  exactly '-'
  let day ← field 2 1 31
  if daysIn (digitsNumber 10 year) (digitsNumber 10 month) < digitsNumber 10 day then failure
  pure (String.ofList (year ++ '-' :: month ++ '-' :: day))

/-- A fraction of a second, of which nine places count. -/
def secondFraction : Reading String := do
  exactly '.'
  let found ← takeSome Char.isDigit
  let kept := ((found.take 9).reverse.dropWhile (· == '0')).reverse
  pure (if kept.isEmpty then "" else "." ++ String.ofList kept)

def time (limits : ClockLimits) : Reading String := do
  let hour ← field 2 0 limits.hour
  exactly ':'
  let minute ← field 2 0 59
  exactly ':'
  let second ← field 2 0 60
  let places ← optional secondFraction
  pure (String.ofList (hour ++ ':' :: minute ++ ':' :: second) ++ places.getD "")

def twoDigits (number : Nat) : List Char :=
  [Char.ofNat (48 + number / 10), Char.ofNat (48 + number % 10)]

/-- An offset in minutes, in hours and minutes; one of nothing has a plus. -/
def offsetText (mark : Char) (minutes : Nat) : String :=
  let sign := if minutes = 0 then '+' else mark
  String.ofList (sign :: twoDigits (minutes / 60) ++ ':' :: twoDigits (minutes % 60))

/-- The minutes of a day, which an offset does not exceed. -/
def dayMinutes : Nat := 1440

def offset (limits : ClockLimits) : Reading String := do
  let mark ← one fun c => c == 'Z' || c == 'z' || c == '+' || c == '-'
  if mark == 'Z' || mark == 'z' then
    pure "Z"
  else
    let hour ← field 2 0 limits.offsetHour
    exactly ':'
    let minute ← field 2 0 limits.offsetMinute
    let minutes := 60 * digitsNumber 10 hour + digitsNumber 10 minute
    if minutes ≤ dayMinutes then pure (offsetText mark minutes) else failure

def timeAfterDate (limits : ClockLimits) : Reading String := do
  discard (one fun c => c == 'T' || c == 't' || c == ' ')
  let clock ← time limits
  let shift ← optional (offset limits)
  pure ("T" ++ clock ++ shift.getD "")

def dateAndTime (limits : ClockLimits) : Reading String := do
  let day ← date
  let rest ← optional (timeAfterDate limits)
  pure (day ++ rest.getD "")

def moment (limits : ClockLimits) : Reading String :=
  dateAndTime limits <|> time limits

/-- The moment that a whole text gives. -/
def momentOf? (text : String) : Option String :=
  let reading : Reading String := do
    let found ← moment .loose
    finished
    pure found
  (reading text.toList).map Prod.fst

end Thumbnailer.Toml
