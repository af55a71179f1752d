/-
This file holds the values of TOML documents. A table keeps its keys in order, each once, so that
two tables with the same entries are the same. Laying one value over another replaces it, except
that a table over a table is merged key by key.
-/

namespace Thumbnailer.Toml

inductive Value where
  | text (text : String)
  | whole (number : Int)
  | real (number : Float)
  | truth (value : Bool)
  /-- A date, a time, or both, as it is written. -/
  | moment (text : String)
  | list (items : List Value)
  | table (entries : List (String × Value))

instance : Inhabited Value where
  default := .table []

namespace Value

def find? (key : String) : List (String × Value) → Option Value
  | [] => none
  | entry :: rest => if entry.1 = key then some entry.2 else find? key rest

/-- Set the value under a key, which comes to its place in order. -/
def insert (key : String) (value : Value) : List (String × Value) → List (String × Value)
  | [] => [(key, value)]
  | entry :: rest =>
    if entry.1 = key then (key, value) :: rest
    else if key < entry.1 then (key, value) :: entry :: rest
    else entry :: insert key value rest

/-- A table of these entries; of entries with the same key the last counts. -/
def tableOf (entries : List (String × Value)) : Value :=
  .table (entries.foldl (fun table entry => insert entry.1 entry.2 table) [])

mutual

/-- One value laid over another. -/
def merge : Value → Value → Value
  | .table base, .table overlay => .table (mergeEntries base overlay)
  | _, overlay => overlay

/-- Entries laid over a table, one after the other. -/
def mergeEntries : List (String × Value) → List (String × Value) → List (String × Value)
  | base, [] => base
  | base, (key, value) :: rest =>
    let merged :=
      match find? key base with
      | some covered => merge covered value
      | none => value
    mergeEntries (insert key merged base) rest

end

end Value

end Thumbnailer.Toml
