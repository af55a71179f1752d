/-
This file reads whole TOML documents. A document is a tree of tables that its lines fill in. A table
knows whether a header or braces have opened it, or whether it is only implied by a longer key; an
implied one can still be opened once, unless dotted keys have made it. Any violation refuses the
document as a whole.

The keys of a table are kept in the order in which they came, because one key is special: a table
whose first key it is stands for a moment.
-/

import Thumbnailer.Toml.Moment
import Thumbnailer.Toml.Text
import Thumbnailer.Toml.Value

namespace Thumbnailer.Toml

open Reading

/-- How a table came to be. -/
inductive Origin where
  /-- By a header, or as the table of the document. -/
  | opened
  /-- As a part of the key of a header. -/
  | implied
  /-- As a part of a dotted key. -/
  | dotted
  deriving DecidableEq

mutual

/-- What a key stands for while the document is read. -/
inductive Item where
  /-- A text, a number, a truth value or a moment. -/
  | value (value : Value)
  | list (items : List Item)
  /-- A table in braces, which nothing can be added to. -/
  | closed (table : Node)
  | table (table : Node)
  /-- The tables under a header in double brackets, the last one first. -/
  | tables (last : Node) (before : List Node)

/-- A table while the document is read. -/
inductive Node where
  | mk (origin : Origin) (entries : List (String × Item))

end

namespace Node

def origin : Node → Origin
  | .mk origin _ => origin

def entries : Node → List (String × Item)
  | .mk _ entries => entries

def empty (origin : Origin) : Node :=
  .mk origin []

def find? (node : Node) (key : String) : Option Item :=
  node.entries.lookup key

/-- Entries with one set: a key that is there keeps its place, and a new one comes last. -/
def setEntry (key : String) (item : Item) : List (String × Item) → List (String × Item)
  | [] => [(key, item)]
  | entry :: rest =>
    if entry.1 = key then (key, item) :: rest else entry :: setEntry key item rest

def set (node : Node) (key : String) (item : Item) : Node :=
  .mk node.origin (setEntry key item node.entries)

/-- Set the item under a key, which comes to the last place in any case. -/
def setLast (node : Node) (key : String) (item : Item) : Node :=
  .mk node.origin ((node.entries.filter fun entry => entry.1 ≠ key) ++ [(key, item)])

/-- Change the table at the end of a key, making the tables on the way. Dotted keys do not go into
tables that are opened. -/
def change (dotted : Bool) : List String → (Node → Option Node) → Node → Option Node
  | [], edit, node => edit node
  | key :: rest, edit, node =>
    match node.find? key with
    | none => do
      let made ← change dotted rest edit (empty (if dotted then .dotted else .implied))
      some (node.set key (.table made))
    | some (.value _) | some (.list _) | some (.closed _) => none
    | some (.tables last before) => do
      let changed ← change dotted rest edit last
      some (node.set key (.tables changed before))
    | some (.table table) =>
      if dotted && table.origin = .opened then none
      else do
        let changed ← change dotted rest edit table
        some (node.set key (.table changed))

/-- Give a new key a value. The keys before it are dotted to it. -/
def assign (path : List String) (key : String) (item : Item) : Node → Option Node :=
  change true path fun node =>
    if path.isEmpty == (node.origin == .dotted) then none
    else if (node.find? key).isSome then none
    else some (node.set key item)

/-- Open a table by its header. One that was implied before comes last among its neighbours. -/
def openTable (path : List String) (key : String) : Node → Option Node :=
  change false path fun node =>
    match node.find? key with
    | none => some (node.set key (.table (empty .opened)))
    | some (.table (.mk .implied entries)) =>
      some (node.setLast key (.table (.mk .opened entries)))
    | some _ => none

/-- Add a table by a header in double brackets. -/
def addTable (path : List String) (key : String) : Node → Option Node :=
  change false path fun node =>
    match node.find? key with
    | none => some (node.set key (.tables (empty .opened) []))
    | some (.tables last before) => some (node.set key (.tables (empty .opened) (last :: before)))
    | some _ => none

end Node

/-! ### Values -/

/-- The key under which a table gives a moment as text. -/
def momentKey : String := "$__toml_private_datetime"

/-- The moment that an item gives as text. -/
def Item.moment? : Item → Option Value
  | .value (.text text) => (momentOf? text).map .moment
  | _ => none

mutual

/-- The value that an item comes to. -/
def Item.toValue? : Item → Option Value
  | .value value => some value
  | .list items => (itemValues items).map .list
  | .closed table => table.toValue?
  | .table table => table.toValue?
  | .tables last before =>
    last.toValue?.bind fun value => (nodeValues before [value]).map .list

def itemValues : List Item → Option (List Value)
  | [] => some []
  | item :: rest =>
    item.toValue?.bind fun value => (itemValues rest).map fun values => value :: values

/-- The tables before some values, turned round. -/
def nodeValues : List Node → List Value → Option (List Value)
  | [], after => some after
  | node :: before, after => node.toValue?.bind fun value => nodeValues before (value :: after)

/-- The value that a table comes to. If its first key is that of a moment, the moment is all that
counts, and it has to be one. -/
def Node.toValue? : Node → Option Value
  | .mk _ [] => some (Value.tableOf [])
  | .mk _ ((key, item) :: rest) =>
    if key = momentKey then item.moment?
    else
      item.toValue?.bind fun value =>
        (entryValues rest).map fun entries => Value.tableOf ((key, value) :: entries)

def entryValues : List (String × Item) → Option (List (String × Value))
  | [] => some []
  | (key, item) :: rest =>
    item.toValue?.bind fun value => (entryValues rest).map fun entries => (key, value) :: entries

end

/-! ### Braces -/

/-- The table of a list of pairs in braces. -/
def braceTable (pairs : List (List String × String × Item)) : Option Node :=
  pairs.foldlM (fun table pair => Node.assign pair.1 pair.2.1 pair.2.2 table) (Node.empty .opened)

/-! ### Lines -/

/-- How deep values and keys may be nested. -/
def nestingLimit : Nat := 80

def comment : Reading Unit := do
  exactly '#'
  discard (takeWhile isPlain)

/-- Blanks, comments and line ends, as they may stand inside brackets. -/
def spacing : Reading Unit :=
  discard (many (discard (takeSome isBlank) <|> newline <|> (do comment; newline)))

/-- The rest of a line that is not read for its meaning. -/
def lineEnd : Reading Unit := do
  blanks
  discard (optional comment)
  newline <|> finished

def simpleKey : Reading String := do
  let found ← basicText <|> literalText <|>
    takeSome fun c => c.isAlphanum || c == '_' || c == '-'
  pure (String.ofList found)

/-- A key: the parts before its last one, and the last one. -/
def key : Reading (List String × String) := do
  let parts ← separated '.' do
    blanks
    let part ← simpleKey
    blanks
    pure part
  if nestingLimit ≤ parts.length then failure
  match parts.getLast? with
  | some last => pure (parts.dropLast, last)
  | none => failure

/-- A value in brackets, whose items are read as given. -/
def brackets (item : Reading Item) : Reading Item := do
  exactly '['
  let items ← separated ',' do
    spacing
    let found ← item
    spacing
    pure found
  if !items.isEmpty then discard (optional (exactly ','))
  spacing
  exactly ']'
  pure (.list items)

/-- A table in braces, whose values are read as given. -/
def braces (item : Reading Item) : Reading Item := do
  exactly '\x7b'
  let pairs ← separated ',' do
    let name ← key
    exactly '='
    blanks
    let found ← item
    blanks
    pure (name.1, name.2, found)
  blanks
  exactly '\x7d'
  match braceTable pairs with
  | some table => pure (.closed table)
  | none => failure

/-- A text, a moment, a number or a truth value. -/
def scalar : Reading Value :=
  (do let found ← quotedText; pure (.text found)) <|>
  (do let found ← moment .strict; pure (.moment found)) <|>
  (do let found ← real; pure (.real found)) <|>
  (do let found ← whole; pure (.whole found)) <|>
  (do word "true"; pure (.truth true)) <|>
  (do word "false"; pure (.truth false))

/-- A value, whose brackets and braces are nested less deep than this. -/
def value : Nat → Reading Item
  | 0 => failure
  | levels + 1 =>
    (do let found ← scalar; pure (.value found)) <|>
    (if levels = 0 then failure else brackets (value levels) <|> braces (value levels))

/-- What one line does to a document. -/
inductive Line where
  | nothing
  | assign (path : List String) (key : String) (item : Item)
  | openTable (path : List String) (key : String)
  | addTable (path : List String) (key : String)

/-- A line with a header, in single or double brackets. -/
def header : Reading Line := do
  exactly '['
  let double ← optional (exactly '[')
  let name ← key
  exactly ']'
  if double.isSome then exactly ']'
  lineEnd
  pure (if double.isSome then .addTable name.1 name.2 else .openTable name.1 name.2)

/-- A line that gives a key a value. -/
def assignment : Reading Line := do
  let name ← key
  exactly '='
  blanks
  let found ← value nestingLimit
  lineEnd
  pure (.assign name.1 name.2 found)

def line : Reading Line := do
  blanks
  match ← peek with
  | none => failure
  | some '[' => header
  | some c => if c == '#' || c == '\n' || c == '\r' then do lineEnd; pure .nothing else assignment

/-- A document that is read up to some line: its tables, and the key of the table that is open. -/
structure Draft where
  root : Node
  current : List String

/-- Add a line to what is read so far. -/
def Draft.add (draft : Draft) : Line → Option Draft
  | .nothing => some draft
  | .assign path key item => do
    let root ← Node.change false draft.current (Node.assign path key item) draft.root
    some { draft with root := root }
  | .openTable path key => do
    let root ← draft.root.openTable path key
    some { root := root, current := path ++ [key] }
  | .addTable path key => do
    let root ← draft.root.addTable path key
    some { root := root, current := path ++ [key] }

def allLines : Reading (List Line) := do
  let found ← many line
  blanks
  finished
  pure found

/-- Read a document. A mark of the byte order in front is passed over. -/
def read (text : String) : Option Value := do
  let input := match text.toList with
    | '\uFEFF' :: rest => rest
    | all => all
  let (lines, _) ← allLines input
  let draft ← lines.foldlM Draft.add { root := .empty .opened, current := [] }
  draft.root.toValue?

end Thumbnailer.Toml
