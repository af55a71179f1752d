/-
This file holds what the program does for each command. It is given a machine: the means to reach
files, to tell the time, and to print a line. The configuration is read first, then the engine is
started, then the registry settles on what the engine can do; only the stock configuration can be
shown without all that. What keeps the program from going on is told with all its parts.
-/

import Thumbnailer.Batch.Run
import Thumbnailer.CommandLine
import Thumbnailer.Config.File
import Thumbnailer.Engine.Pixels
import Thumbnailer.Report

namespace Thumbnailer

/-- Why the program could not do what it was asked for. -/
inductive Failure where
  | config (error : ConfigFileError)
  | startup (error : StartupError)
  | file (error : FileError)
  /-- Neither the data nor the name of a file says what format it has. -/
  | unrecognized (path : Path)
  | pipeline (error : PipelineError)
  | batch (error : Batch.BatchError)
  deriving DecidableEq

namespace Failure

/-- A named cause with one text. -/
def named (name text : String) : String :=
  name ++ "(" ++ Text.quoted text ++ ")"

def configRecord : ConfigFileError → String
  | .refused error => "Io(" ++ error.record ++ ")"
  | .notText =>
    "Io(Error \x7b kind: InvalidData, message: \"stream did not contain valid UTF-8\" \x7d)"
  | .notDocument => "Toml(\"not a document\")"
  | .config (.misfit found) => named "Toml" found.text
  | .config (.broken rule) => named "Validation" rule.text

def optionsRecord : OptionsError → String
  | .unknownResize token => named "UnknownResize" token
  | .unknownGravity token => named "UnknownGravity" token
  | .unknownFormat token => named "UnknownFormat" token
  | .invalidBox width height rule =>
    "InvalidSize \x7b width: " ++ toString width ++ ", height: " ++ toString height ++
      ", reason: " ++ Text.quoted rule.text ++ " \x7d"

def engineRecord : EngineError → String
  | .startup failure => named "Init" failure.text
  | .decode detail => named "Decode" detail
  | .encode detail => named "Encode" detail
  | .operation primitive detail =>
    "Operation \x7b op: " ++ Text.quoted primitive.name ++ ", message: " ++ Text.quoted detail ++
      " \x7d"

def pipelineRecord : PipelineError → String
  | .options failure => "InvalidOptions(" ++ optionsRecord failure ++ ")"
  | .unsupported lack => named "UnsupportedCapability" lack.text
  | .engine failure => "Engine(" ++ engineRecord failure ++ ")"
  | .deadline exceeded =>
    "DeadlineExceeded(DeadlineExceeded \x7b elapsed: " ++ toString exceeded.elapsed.milliseconds ++
      "ms \x7d)"

/-- The cause with all its parts. -/
def record : Failure → String
  | .config error => configRecord error
  | .startup error => named "Init" error.text
  | .file error => error.record
  | .unrecognized path => Text.quoted (path.display ++ ": unrecognized image format")
  | .pipeline error => pipelineRecord error
  | .batch (.refused error) => "Io(" ++ error.record ++ ")"
  | .batch (.walk error) => named "Walk" error.text

end Failure

/-- The means to reach what is outside the program. -/
structure Machine (Effect : Type → Type) where
  files : (task : FileTask) → Effect (FileTask.Answer task)
  clock : Effect Instant
  print : String → Effect Unit

namespace Program

variable {Effect : Type → Type} [Monad Effect]

/-- What is done while the engine runs. -/
abbrev Running (Effect : Type → Type) := StateT SharedState Effect

/-- Work that a failure may end. -/
abbrev Attempt (Effect : Type → Type) := ExceptT Failure Effect

def access {Result : Type} (machine : Machine Effect) (procedure : Procedure FileAccess Result) :
    Effect Result :=
  procedure.perform machine.files

/-- Take one step, at the time that it is. -/
def take (machine : Machine Effect) (codec : Codec) (step : WorkerStep) :
    Running Effect (WorkerStep.Answer step) := do
  let now ← (machine.clock : Effect Instant)
  modifyGet fun state => SharedState.step codec step { state with clock := now }

def engine {Result : Type} (machine : Machine Effect) (codec : Codec) (settings : EngineSettings)
    (procedure : Procedure (Work Canvas Float) Result) : Running Effect Result :=
  (procedure.carryOut (Pixels.perform settings)).perform (take machine codec)

def printAll (machine : Machine Effect) : List String → Effect Unit
  | [] => pure ()
  | line :: rest => do
    machine.print line
    printAll machine rest

/-- The answers that a batch gets. -/
def serve (machine : Machine Effect) (codec : Codec) (settings : EngineSettings) :
    (request : (Batch.Service Canvas Float).Request) →
      Running Effect ((Batch.Service Canvas Float).Answer request)
  | .inl task => (machine.files task : Effect (FileTask.Answer task))
  | .inr (.inl task) => engine machine codec settings (.ask task .done)
  | .inr (.inr event) => (printAll machine (Report.eventLines event) : Effect Unit)

/-- Process one picture. What the data starts with says what format it has; if it says nothing,
the name does. The format to write is the one asked for, or the one that the name of the output
says, or that of the source. -/
def processOne (machine : Machine Effect) (codec : Codec) (config : Config)
    (capabilities : Capabilities) (input output : Path) (transform : Transform) :
    Attempt (Running Effect) Unit := do
  let data ← ExceptT.mk do
    let answer ← (machine.files (.read input) : Effect (Except FileError Bytes))
    pure (answer.mapError Failure.file)
  let some source := (Format.sniff data).orElse fun () => input.format?
    | throw (.unrecognized input)
  let target := (transform.format.orElse fun () => output.format?).getD source
  let now ← (machine.clock : Effect Instant)
  let request : Request :=
    { data := data
      format := source
      options := transform.options target
      quality := .ofNumber config.quality
      deadline := .ofTimeout now config.timeout }
  let result ← ExceptT.mk do
    let answer ← engine machine codec config.engine
      (Stage.processSettled (some capabilities) request).run
    pure (answer.mapError Failure.pipeline)
  ExceptT.mk do
    let answer ← (machine.files (.write output result) : Effect (Except FileError Unit))
    pure (answer.mapError Failure.file)
  (machine.print (input.display ++ " → " ++ output.display ++ " (" ++ toString result.length ++
    " bytes)") : Effect Unit)

/-- Process every picture below a directory. Events are printed as they happen. -/
def processAll (machine : Machine Effect) (codec : Codec) (config : Config)
    (capabilities : Capabilities) (input output : Path) (transform : Transform) :
    Attempt (Running Effect) Unit := do
  let settings : Batch.Settings :=
    { options := transform.options (transform.format.getD .jpeg)
      quality := .ofNumber config.quality
      timeout := config.timeout }
  let work : Procedure (Batch.Service Canvas Float) (Except Batch.BatchError Batch.Summary) :=
    Batch.run capabilities settings input output
  let summary ← ExceptT.mk do
    let answer ← work.perform (serve machine codec config.engine)
    pure (answer.mapError Failure.batch)
  let shared ← (get : Running Effect SharedState)
  (printAll machine (Report.summaryLines summary (some shared.cache.statistics)) : Effect Unit)

/-- What a command does once the engine has been started. -/
def obey (machine : Machine Effect) (codec : Codec) (config : Config)
    (capabilities : Capabilities) : Command → Attempt (Running Effect) Unit
  | .process input output transform =>
    processOne machine codec config capabilities input output transform
  | .batch input output transform =>
    processAll machine codec config capabilities input output transform
  | .capabilities json =>
    (printAll machine
      (if json then (Report.capabilityJson capabilities).splitOn "\n"
      else Report.capabilityLines capabilities) : Effect Unit)
  | .stockConfig => pure ()

/-- Start the engine under a configuration and do what a command asks for. -/
def start (machine : Machine Effect) (codec : Codec) (config : Config) (command : Command) :
    Attempt Effect Unit := do
  let shared ← ExceptT.mk (pure (config.engine.start.mapError Failure.startup))
  let settled := Registry.settle none config.engine.capabilities
  let capabilities ← ExceptT.mk (pure (settled.1.mapError Failure.startup))
  ExceptT.mk do
    let (ended, _) ← (obey machine codec config capabilities command).run.run shared
    pure ended

def run (machine : Machine Effect) (codec : Codec) (invocation : Invocation) :
    Attempt Effect Unit := do
  match invocation.command with
  | .stockConfig => (printAll machine Config.stockLines : Effect Unit)
  | command =>
    let loaded ← (access machine (Config.load invocation.config) : Effect _)
    let config ← ExceptT.mk (pure (loaded.mapError Failure.config))
    start machine codec config command

end Program

end Thumbnailer
