/-
This file writes floating-point numbers in decimal. A finite number is a whole number of steps of a
power of two, and the reals nearer to it than to its neighbours form an interval. The shortest text
has the fewest digits that still lie in the interval, and of those the nearest. Text with a fixed
number of places is rounded from the exact value, and a half goes to the even neighbour. Both are
computed with whole numbers only.
-/

namespace Thumbnailer.Decimal

/-- A positive number of steps, and the power of two that one step is. -/
structure Steps where
  count : Nat
  exponent : Int

/-- A number as its kind shows it. -/
inductive Shape where
  | notANumber
  | infinite (negative : Bool)
  | zero (negative : Bool)
  | finite (negative : Bool) (steps : Steps)

/-- The first number of steps to an exponent; one more bit would be the next exponent. -/
def firstCount : Nat := 0x10000000000000

/-- The bits of a number taken apart: sign, eleven bits of exponent, fifty-two bits of fraction. -/
def shape (number : Float) : Shape :=
  let bits := number.toBits.toNat
  let negative := 0x8000000000000000 ≤ bits
  let exponent : Nat := bits / firstCount % 2048
  let fraction := bits % firstCount
  if exponent = 2047 then
    if fraction = 0 then .infinite negative else .notANumber
  else if exponent = 0 then
    if fraction = 0 then .zero negative
    else .finite negative { count := fraction, exponent := -1074 }
  else
    .finite negative { count := firstCount + fraction, exponent := (exponent : Int) - 1075 }

structure Fraction where
  numerator : Nat
  denominator : Nat

namespace Fraction

/-- A whole number times a power of a base. -/
def scaled (count base : Nat) (exponent : Int) : Fraction :=
  { numerator := count * Nat.pow base exponent.toNat
    denominator := Nat.pow base (-exponent).toNat }

def le (first second : Fraction) : Bool :=
  first.numerator * second.denominator ≤ second.numerator * first.denominator

def lt (first second : Fraction) : Bool :=
  first.numerator * second.denominator < second.numerator * first.denominator

/-- How often the second goes into the first as a whole. -/
def wholeQuotient (first second : Fraction) : Nat :=
  first.numerator * second.denominator / (first.denominator * second.numerator)

end Fraction

/-- A quotient of whole numbers, rounded to the nearest; a half goes to the even neighbour. -/
def roundHalfEven (numerator denominator : Nat) : Nat :=
  let whole := numerator / denominator
  let twice := 2 * (numerator % denominator)
  if twice < denominator then whole
  else if denominator < twice then whole + 1
  else whole + whole % 2

namespace Steps

def value (steps : Steps) : Fraction :=
  .scaled steps.count 2 steps.exponent

/-- The lower end of the reals that are nearest to this number. Below a power of two the steps are
half as wide. -/
def lowerEnd (steps : Steps) : Fraction :=
  let below := if steps.count = firstCount ∧ -1074 < steps.exponent then 1 else 2
  .scaled (4 * steps.count - below) 2 (steps.exponent - 2)

/-- The upper end of the reals that are nearest to this number. -/
def upperEnd (steps : Steps) : Fraction :=
  .scaled (4 * steps.count + 2) 2 (steps.exponent - 2)

/-- Whether a decimal reads back as this number. The ends of the interval do if the number of
steps is even. -/
def readsBack (steps : Steps) (decimal : Fraction) : Bool :=
  if steps.count % 2 = 0 then
    steps.lowerEnd.le decimal && decimal.le steps.upperEnd
  else
    steps.lowerEnd.lt decimal && decimal.lt steps.upperEnd

/-- The decimal on the grid of a power of ten that reads back, if there is one; of two, the nearer
one. -/
def onGrid (steps : Steps) (grid : Int) : Option Nat :=
  let value := steps.value
  let unit := Fraction.scaled 1 10 grid
  let below := value.wholeQuotient unit
  let above := below + 1
  let fits := fun digits => steps.readsBack (.scaled digits 10 grid)
  let nearest :=
    roundHalfEven (value.numerator * unit.denominator) (value.denominator * unit.numerator)
  match fits below && below ≠ 0, fits above with
  | true, true => some nearest
  | true, false => some below
  | false, true => some above
  | false, false => none

/-- The power of ten of the first digit, searched downwards. -/
def leadingPower (steps : Steps) : Nat → Int → Int
  | 0, power => power
  | count + 1, power =>
    if (Fraction.scaled 1 10 power).le steps.value then power
    else leadingPower steps count (power - 1)

/-- The coarsest decimal that reads back: its digits and the power of ten of the last one. -/
def shortestFrom (steps : Steps) : Nat → Int → Nat × Int
  | 0, grid => (steps.value.wholeQuotient (.scaled 1 10 grid), grid)
  | count + 1, grid =>
    match steps.onGrid grid with
    | some digits => (digits, grid)
    | none => shortestFrom steps count (grid - 1)

/-- The search starts above the first digit, for the number may be nearest to a rounder one. -/
def shortest (steps : Steps) : Nat × Int :=
  shortestFrom steps 18 (leadingPower steps 650 310 + 1)

end Steps

/-- Digits with a point before the last places, zeros filled in. -/
def withPoint (digits places : Nat) : String :=
  let text := toString digits
  let filled := String.ofList (List.replicate (places + 1 - text.length) '0') ++ text
  let cut := filled.length - places
  String.ofList (filled.toList.take cut) ++ "." ++ String.ofList (filled.toList.drop cut)

/-- Digits whose last one counts a power of ten, without an exponent. -/
def positional (digits : Nat) (grid : Int) : String :=
  if 0 ≤ grid then toString digits ++ String.ofList (List.replicate grid.toNat '0')
  else withPoint digits (-grid).toNat

def sign (negative : Bool) : String :=
  if negative then "-" else ""

/-- The shortest text that reads back as the number, without an exponent. -/
def text (number : Float) : String :=
  match shape number with
  | .notANumber => "NaN"
  | .infinite negative => sign negative ++ "inf"
  | .zero negative => sign negative ++ "0"
  | .finite negative steps =>
    let found := steps.shortest
    sign negative ++ positional found.1 found.2

/-- The shortest text, with at least one place after the point. -/
def pointedText (number : Float) : String :=
  let plain := text number
  match shape number with
  | .zero _ | .finite .. => if plain.contains '.' then plain else plain ++ ".0"
  | _ => plain

/-- The number with a fixed number of places after the point. -/
def fixed (places : Nat) (number : Float) : String :=
  match shape number with
  | .notANumber => "NaN"
  | .infinite negative => sign negative ++ "inf"
  | .zero negative => sign negative ++ withPoint 0 places
  | .finite negative steps =>
    let value := steps.value
    sign negative ++
      withPoint (roundHalfEven (value.numerator * Nat.pow 10 places) value.denominator) places

end Thumbnailer.Decimal
