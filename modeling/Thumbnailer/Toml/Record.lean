/-
This file reads records out of values. A record is written as a table whose keys are its fields, or
as a list that gives its fields in their order; a field that is not given keeps the value it had.
A table is read in the order of its keys and a list in the order of its items, and the first thing
that does not fit ends the reading. A misfit tells the keys that lead to it, but no places in lists.
-/

import Thumbnailer.Decimal
import Thumbnailer.Text.Quoted
import Thumbnailer.Toml.Value

namespace Thumbnailer.Toml

/-- What does not fit about a value. -/
inductive MisfitCause where
  /-- A value of another kind than expected. -/
  | kind (found expected : String)
  /-- A number outside the range of what is expected. -/
  | range (number : Int) (expected : String)
  /-- A key that is none of the fields. -/
  | field (key : String) (known : List String)
  | excess (count : Nat)
  deriving DecidableEq

/-- Names as alternatives of each other. -/
def alternatives (names : List String) : String :=
  let quoted := names.map fun name => "`" ++ name ++ "`"
  match quoted with
  | [] => "nothing"
  | [only] => only
  | [first, second] => first ++ " or " ++ second
  | several => "one of " ++ ", ".intercalate several

def MisfitCause.text : MisfitCause → String
  | .kind found expected => "invalid type: " ++ found ++ ", expected " ++ expected
  | .range number expected =>
    "invalid value: integer `" ++ toString number ++ "`, expected " ++ expected
  | .field key known => "unknown field `" ++ key ++ "`, expected " ++ alternatives known
  | .excess count =>
    "invalid length " ++ toString count ++ ", expected fewer elements in array"

/-- Something that does not fit, and the keys that lead to it. -/
structure Misfit where
  cause : MisfitCause
  keys : List String := []
  deriving DecidableEq

namespace Misfit

/-- The same misfit seen from a table, where it lies under a key. -/
def under (key : String) (misfit : Misfit) : Misfit :=
  { misfit with keys := key :: misfit.keys }

/-- The text, which ends its lines. -/
def text (misfit : Misfit) : String :=
  misfit.cause.text ++ "\n" ++
    if misfit.keys.isEmpty then "" else "in `" ++ ".".intercalate misfit.keys ++ "`\n"

end Misfit

/-- What a value is called where it does not fit. -/
def Value.description : Value → String
  | .text characters | .moment characters => "string " ++ Text.quoted characters
  | .whole number => "integer `" ++ toString number ++ "`"
  | .real number => "floating point `" ++ Decimal.pointedText number ++ "`"
  | .truth value => "boolean `" ++ (if value then "true" else "false") ++ "`"
  | .list _ => "sequence"
  | .table _ => "map"

abbrev Fit (Result : Type) := Except Misfit Result

/-- A value of another kind than expected. -/
def wrongKind {Result : Type} (value : Value) (expected : String) : Fit Result :=
  .error { cause := .kind value.description expected }

/-- A whole number from zero up to a bound, which it does not reach. -/
def Value.number (bound : Nat) (expected : String) : Value → Fit Nat
  | .whole number =>
    if 0 ≤ number ∧ number < bound then .ok number.toNat
    else .error { cause := .range number expected }
  | other => wrongKind other expected

def Value.word32 (value : Value) : Fit UInt32 :=
  (value.number UInt32.size "u32").map UInt32.ofNat

def Value.word64 (value : Value) : Fit UInt64 :=
  (value.number UInt64.size "u64").map UInt64.ofNat

/-- A number of things that a memory can hold. -/
def Value.count (value : Value) : Fit UInt64 :=
  (value.number UInt64.size "usize").map UInt64.ofNat

def Value.bool : Value → Fit Bool
  | .truth value => .ok value
  | other => wrongKind other "a boolean"

/-- A field of a record: its key, and how a value is put into it. -/
structure Field (Record : Type) where
  key : String
  put : Value → Record → Fit Record

namespace Field

variable {Record : Type}

/-- Put one entry of a table into its field. -/
def putEntry (fields : List (Field Record)) (record : Record) (entry : String × Value) :
    Fit Record :=
  match fields.find? fun field => field.key = entry.1 with
  | none => .error { cause := .field entry.1 (fields.map Field.key) }
  | some field => (field.put entry.2 record).mapError (Misfit.under entry.1)

/-- Put items into the fields, one after the other, as long as there are both. -/
def putItems : List (Field Record) → List Value → Record → Fit Record
  | field :: fields, item :: items, record => do
    let changed ← field.put item record
    putItems fields items changed
  | _, _, record => .ok record

/-- Put a value into a record with these fields, of the kind expected. -/
def readRecord (expected : String) (fields : List (Field Record)) (record : Record) :
    Value → Fit Record
  | .table entries => entries.foldlM (putEntry fields) record
  | .list items => do
    let changed ← putItems fields items record
    if fields.length < items.length then .error { cause := .excess items.length } else .ok changed
  | other => wrongKind other expected

end Field

end Thumbnailer.Toml
