/-
This file reads command lines. Arguments are read from left to right: switches, their values, and
places, of which each command takes a number. A switch is written with two dashes and its name, or
with one dash and its letter, and its value follows after an equals sign, directly after the
letter, or as the next argument. No switch may be given twice at the same level; the configuration
file can be given before the command and after it, and then the later one counts. After two dashes
alone everything is a place. A help or version switch ends the reading where it stands; whatever
follows its letter in the same argument is not looked at.
-/

import Thumbnailer.Options
import Thumbnailer.Path

namespace Thumbnailer

/-- How a picture is to be changed. -/
structure Transform where
  resize : ResizeMode := .fit
  width : UInt32 := 0
  height : UInt32 := 0
  gravity : Gravity := .center
  enlarge : Bool := false
  format : Option Format := none
  deriving DecidableEq

/-- The options of a transform that writes a format. -/
def Transform.options (transform : Transform) (format : Format) : Options :=
  { resize := transform.resize
    width := transform.width
    height := transform.height
    gravity := transform.gravity
    enlarge := transform.enlarge
    format := format }

inductive Command where
  | process (input output : Path) (transform : Transform)
  | batch (input output : Path) (transform : Transform)
  | capabilities (json : Bool)
  | stockConfig
  deriving DecidableEq

/-- A command and the configuration file it runs under. -/
structure Invocation where
  config : Path
  command : Command
  deriving DecidableEq

/-- Why a command line asks for no command. -/
inductive Refusal where
  | help
  | version
  | misuse
  deriving DecidableEq, Repr

/-- How the program is called. -/
def usageLines : List String :=
  ["Usage: imgpipe [--config <CONFIG>] <COMMAND>",
    "",
    "Commands:",
    "  process <INPUT> <DEST>    Process a single image",
    "  batch <INPUT> <OUT_DIR>   Process every image under a directory",
    "  capabilities [--json]     Show which formats the engine can decode and encode",
    "  gen-config                Print a stock imgpipe.toml",
    "",
    "Options of process and batch:",
    "  --resize <fit|fill|crop>  -W, --width <N>  -H, --height <N>",
    "  --gravity <ce|no|ea|so|we|sm>  --enlarge  --format <jpeg|png|webp>"]

namespace Refusal

/-- What is printed in place of a command's output. -/
def lines : Refusal → List String
  | .version => ["imgpipe dev@unknown"]
  | .help | .misuse => usageLines

/-- Whether the command line is at fault. -/
def isFault (refusal : Refusal) : Bool :=
  refusal = .misuse

end Refusal

namespace CommandLine

structure Draft where
  config : Option Path := none
  transform : Transform := {}
  json : Bool := false
  /-- The places, the last one first. -/
  places : List Path := []

/-- What a switch does. -/
inductive Effect where
  | set (change : Draft → Draft)
  /-- Take a value, which may be refused. -/
  | value (put : Bytes → Draft → Option Draft)
  | stop (refusal : Refusal)

/-- A switch: its name, its letter if it has one, and what it does. -/
structure Switch where
  name : String
  letter : Option Char := none
  effect : Effect

/-! ### Values -/

/-- A path that is not empty. -/
def pathValue (value : Bytes) : Option Path :=
  if value.isEmpty then none else some { bytes := value }

/-- Decimal digits and nothing else. -/
def digitsValue (digits : List Char) : Option Nat :=
  if digits.isEmpty || !digits.all Char.isDigit then none
  else some (digits.foldl (fun number digit => number * 10 + (digit.toNat - 48)) 0)

/-- A number in 32 bits. A sign may stand before it. -/
def numberValue (value : Bytes) : Option UInt32 := do
  let text ← Utf8.decode value
  let number ← match text.toList with
    | '+' :: digits => digitsValue digits
    | '-' :: digits => (digitsValue digits).filter (· = 0)
    | digits => digitsValue digits
  if number < UInt32.size then some (UInt32.ofNat number) else none

/-- A value that a token names. -/
def tokenValue {Value : Type} (ofToken? : String → Option Value) (value : Bytes) : Option Value :=
  (Utf8.decode value).bind ofToken?

/-- A change of the transform by a value. -/
def onTransform {Value : Type} (read : Bytes → Option Value)
    (put : Value → Transform → Transform) : Effect :=
  .value fun bytes draft =>
    (read bytes).map fun value => { draft with transform := put value draft.transform }

/-! ### Switches -/

def configSwitch : Switch :=
  { name := "config"
    effect := .value fun bytes draft =>
      (pathValue bytes).map fun path => { draft with config := some path } }

def helpSwitch : Switch :=
  { name := "help", letter := some 'h', effect := .stop .help }

def versionSwitch : Switch :=
  { name := "version", letter := some 'V', effect := .stop .version }

def jsonSwitch : Switch :=
  { name := "json", effect := .set fun draft => { draft with json := true } }

def transformSwitches : List Switch :=
  [{ name := "resize"
     effect := onTransform (tokenValue ResizeMode.ofToken?) fun mode transform =>
       { transform with resize := mode } },
   { name := "width"
     letter := some 'W'
     effect := onTransform numberValue fun width transform => { transform with width := width } },
   { name := "height"
     letter := some 'H'
     effect := onTransform numberValue fun height transform =>
       { transform with height := height } },
   { name := "gravity"
     effect := onTransform (tokenValue Gravity.ofToken?) fun gravity transform =>
       { transform with gravity := gravity } },
   { name := "enlarge"
     effect := .set fun draft =>
       { draft with transform := { draft.transform with enlarge := true } } },
   { name := "format"
     effect := onTransform (tokenValue Format.ofToken?) fun format transform =>
       { transform with format := some format } }]

/-! ### Arguments -/

def dash : UInt8 := 0x2D

def terminator : Bytes := [dash, dash]

/-- Whether an argument is a place or the value of a switch before it. -/
def isPlain (argument : Bytes) : Bool :=
  argument.head? ≠ some dash || argument = [dash]

/-- An argument with two dashes, split at its first equals sign. -/
def splitLong (argument : Bytes) : Bytes × Option Bytes :=
  let body := argument.drop 2
  match body.dropWhile (· ≠ 0x3D) with
  | [] => (body, none)
  | _ :: value => (body.takeWhile (· ≠ 0x3D), some value)

/-- The letter after a dash, and the value written directly after it. -/
def splitShort (argument : Bytes) : Bytes × Option Bytes :=
  match argument.drop 2 with
  | [] => (argument.drop 1, none)
  | rest => ((argument.drop 1).take 1, some (if rest.head? = some 0x3D then rest.drop 1 else rest))

/-- The value that counts of what is written after the letter of a switch. -/
def Switch.attached (switch : Switch) (written : Option Bytes) : Option Bytes :=
  match switch.effect with
  | .stop _ => none
  | _ => written

/-- The switch that an argument names, and the value written in it. -/
def named (switches : List Switch) (argument : Bytes) : Option (Switch × Option Bytes) :=
  if terminator.isPrefixOf argument then
    let split := splitLong argument
    (switches.find? fun switch => Utf8.encode switch.name = split.1).map fun switch =>
      (switch, split.2)
  else
    let split := splitShort argument
    (switches.find? fun switch =>
      switch.letter.map (fun letter => Utf8.encode letter.toString) = some split.1).map
        fun switch => (switch, switch.attached split.2)

/-- Add a place, of which there may be only so many. -/
def addPlace (capacity : Nat) (draft : Draft) (argument : Bytes) : Except Refusal Draft :=
  match pathValue argument with
  | some path =>
    if draft.places.length < capacity then .ok { draft with places := path :: draft.places }
    else .error .misuse
  | none => .error .misuse

/-- What the arguments of one level come to: what is read, and the plain argument it ended at along
with those after it, if plain arguments are not places there. -/
structure Reached where
  draft : Draft
  rest : Option (Bytes × List Bytes) := none

/-- Put a value that may be refused. -/
def accept (result : Option Draft) : Except Refusal Draft :=
  match result with
  | some draft => .ok draft
  | none => .error .misuse

/-- Read the arguments of one level. The names of the switches that were given are kept. Without a
capacity the reading ends at the first plain argument. -/
def readLevel (switches : List Switch) (capacity : Option Nat) (given : List String)
    (draft : Draft) (arguments : List Bytes) : Except Refusal Reached :=
  match arguments with
  | [] => .ok { draft := draft }
  | argument :: rest =>
    if argument = terminator then
      match capacity with
      | some capacity => do
        let ended ← rest.foldlM (addPlace capacity) draft
        .ok { draft := ended }
      | none => .error .misuse
    else if isPlain argument then
      match capacity with
      | some places => do
        let added ← addPlace places draft argument
        readLevel switches capacity given added rest
      | none => .ok { draft := draft, rest := some (argument, rest) }
    else
      match named switches argument with
      | none => .error .misuse
      | some (switch, attached) =>
        let again := given.contains switch.name
        let after := switch.name :: given
        match switch.effect, attached with
        | .stop refusal, none => .error refusal
        | .set change, none =>
          if again then .error .misuse
          else readLevel switches capacity after (change draft) rest
        | .value put, some value => do
          let changed ← accept (put value draft)
          if again then .error .misuse
          else readLevel switches capacity after changed rest
        | .value put, none =>
          match rest with
          | value :: others =>
            if isPlain value then do
              let changed ← accept (put value draft)
              if again then .error .misuse
              else readLevel switches capacity after changed others
            else
              .error .misuse
          | [] => .error .misuse
        | _, some _ => .error .misuse
termination_by arguments.length
decreasing_by all_goals simp +arith

/-! ### Commands -/

/-- A command: its name, its switches, and what it comes to with its places in order. -/
structure CommandForm where
  name : String
  switches : List Switch
  capacity : Nat
  build : Draft → List Path → Option Command

def commandForms : List CommandForm :=
  [{ name := "process"
     switches := transformSwitches
     capacity := 2
     build := fun draft places => match places with
       | [input, output] => some (.process input output draft.transform)
       | _ => none },
   { name := "batch"
     switches := transformSwitches
     capacity := 2
     build := fun draft places => match places with
       | [input, output] => some (.batch input output draft.transform)
       | _ => none },
   { name := "capabilities"
     switches := [jsonSwitch]
     capacity := 0
     build := fun draft _ => some (.capabilities draft.json) },
   { name := "gen-config"
     switches := []
     capacity := 0
     build := fun _ _ => some .stockConfig }]

def commandForm? (name : Bytes) : Option CommandForm :=
  commandForms.find? fun form => Utf8.encode form.name = name

/-- Whether help can be given about these names: about the whole, about help, or about a command. -/
def isHelpTopic : List Bytes → Bool
  | [] => true
  | [name] => name = Utf8.encode "help" || (commandForm? name).isSome
  | _ => false

/-- The configuration file unless another is given. -/
def defaultConfig : Path := .ofString "imgpipe.toml"

def parse (arguments : List Bytes) : Except Refusal Invocation := do
  let reached ← readLevel [configSwitch, helpSwitch, versionSwitch] none [] {} arguments
  match reached.rest with
  | none => .error .misuse
  | some (word, rest) =>
    match commandForm? word with
    | none =>
      if word = Utf8.encode "help" && isHelpTopic rest then .error .help else .error .misuse
    | some form =>
      let ended ← readLevel (configSwitch :: helpSwitch :: form.switches) (some form.capacity) []
        reached.draft rest
      match form.build ended.draft ended.draft.places.reverse with
      | some command => .ok { config := ended.draft.config.getD defaultConfig, command := command }
      | none => .error .misuse

end CommandLine

end Thumbnailer
