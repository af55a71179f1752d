/-
This file runs a batch. What is rejected without being processed is told first: what could not be
looked at, then the files whose output is already claimed. Each job reads its file, serves one
request, and writes the result, making the directory for it; as soon as it ends it tells so. A job
that fails does not stop the others. The jobs are given one by one, so that they can be run in any
order; `run` takes them in turn.
-/

import Thumbnailer.Batch.Event
import Thumbnailer.Batch.Inputs
import Thumbnailer.Batch.Plan
import Thumbnailer.Pipeline

namespace Thumbnailer.Batch

/-- What every file of a batch is processed with. -/
structure Settings where
  options : Options
  quality : Quality
  /-- The time that one file may take, if it is limited. -/
  timeout : Option Duration

/-- Why one file was not processed. -/
inductive JobError where
  | refused (error : FileError)
  | pipeline (source : Path) (error : PipelineError)
  deriving DecidableEq

def JobError.message : JobError → String
  | .refused error => "IO error: " ++ error.text
  | .pipeline source error => source.display ++ ": " ++ error.message

/-- Why a batch did not start. -/
inductive BatchError where
  | refused (error : FileError)
  | walk (error : WalkError)
  deriving DecidableEq

def BatchError.message : BatchError → String
  | .refused error => "IO error: " ++ error.text
  | .walk error => "directory walk failed: " ++ error.text

/-- Telling events as they happen. Nothing is answered, whether anybody listens or not. -/
abbrev Progress : Interface :=
  { Request := Event, Answer := fun _ => Unit }

/-- What a batch needs: a file system, an engine, and somebody to tell. -/
abbrev Service (Image Scale : Type) : Interface :=
  FileAccess.beside ((Work Image Scale).beside Progress)

variable {Image Scale : Type}

def files {Result : Type} (procedure : Procedure FileAccess Result) :
    Procedure (Service Image Scale) Result :=
  procedure.onLeft _

def engine {Result : Type} (procedure : Procedure (Work Image Scale) Result) :
    Procedure (Service Image Scale) Result :=
  (procedure.onLeft Progress).onRight FileAccess

def now : Procedure (Service Image Scale) Instant :=
  .ask (.inr (.inl .now)) .done

def tell (event : Event) : Procedure (Service Image Scale) Unit :=
  .ask (.inr (.inr event)) .done

/-- Tell several events, one after the other. -/
def tellAll : List Event → Procedure (Service Image Scale) Unit
  | [] => .done ()
  | event :: rest => (tell event).bind fun () => tellAll rest

namespace Job

/-- A part of a job: it may end the job. -/
abbrev Part (Image Scale : Type) := ExceptT JobError (Procedure (Service Image Scale))

/-- A request to the file system whose refusal ends the job. -/
def accessed {Result : Type} (procedure : Procedure FileAccess (Except FileError Result)) :
    Part Image Scale Result :=
  ExceptT.mk ((files procedure).bind fun answer => .done (answer.mapError .refused))

variable [Picture Image] [ScaleFactor Scale]

/-- The encoded result for a file's data. What the data starts with says what format it has; if it
says nothing, the extension does. -/
def encoded (job : Job) (capabilities : Capabilities) (settings : Settings) (data : Bytes) :
    Part Image Scale Bytes :=
  ExceptT.mk <| now.bind fun started =>
    let request : Request :=
      { data := data
        format := (Format.sniff data).getD job.format
        options := settings.options
        quality := settings.quality
        deadline := .ofTimeout started settings.timeout }
    let work : Stage Image Scale Bytes := Stage.process capabilities request
    (engine work.run).bind fun answer => .done (answer.mapError (.pipeline job.source))

/-- Read the file, serve its request, and write the result. Gives the size of the result. -/
def serve (job : Job) (capabilities : Capabilities) (settings : Settings) :
    Part Image Scale Nat := do
  let data ← accessed (.ask (.read job.source) .done)
  let result ← encoded job capabilities settings data
  match job.output.parent? with
  | some directory => accessed (Files.makeDirectories directory)
  | none => pure ()
  accessed (.ask (.write job.output result) .done)
  pure result.length

/-- What is told about a job that ended so after some time. -/
def event (job : Job) (elapsed : Duration) : Except JobError Nat → Event
  | .ok size => .processed job.source job.output size elapsed
  | .error error => .failed job.source error.message

/-- Do a job and tell how it ended. Gives whether the file was processed. -/
def perform (job : Job) (capabilities : Capabilities) (settings : Settings) :
    Procedure (Service Image Scale) Bool :=
  now.bind fun started =>
    (serve job capabilities settings).run.bind fun ended =>
      now.bind fun stopped =>
        (tell (event job (stopped.since started) ended)).bind fun () => .done ended.isOk

end Job

def inTurn {interface : Interface} {Result : Type} :
    List (Procedure interface Result) → Procedure interface (List Result)
  | [] => .done []
  | first :: rest =>
    first.bind fun result => (inTurn rest).bind fun results => .done (result :: results)

/-- The events for what is rejected without being processed. -/
def rejections (inputs : Inputs) (assignment : Assignment) : List Event :=
  (inputs.unreadable.map fun left => .failed left.1 (BatchError.walk left.2).message) ++
    assignment.conflicts.map fun conflict => .failed conflict.source conflict.message

/-- The summary of a batch, from the number of rejections and from which jobs succeeded. -/
def summarize (rejected : Nat) (succeeded : List Bool) (elapsed : Duration) : Summary :=
  let processed := succeeded.countP id
  { processed := processed
    failed := succeeded.length - processed + rejected
    elapsed := elapsed }

variable [Picture Image] [ScaleFactor Scale]

/-- The jobs of an assignment, each ready to be done. -/
def tasks (capabilities : Capabilities) (settings : Settings) (assignment : Assignment) :
    List (Procedure (Service Image Scale) Bool) :=
  assignment.jobs.map fun job => job.perform capabilities settings

/-- Process every file below the input directory that can be read. -/
def run (capabilities : Capabilities) (settings : Settings) (input output : Path) :
    Procedure (Service Image Scale) (Except BatchError Summary) :=
  now.bind fun started =>
    (files (Inputs.collect capabilities input)).bind fun
      | .error error => .done (.error (.walk error))
      | .ok inputs =>
        (files (Files.makeDirectories output)).bind fun
          | .error error => .done (.error (.refused error))
          | .ok () =>
            let assignment := assign inputs.files input output settings.options.format
            let rejected := rejections inputs assignment
            (tellAll rejected).bind fun () =>
              (inTurn (tasks capabilities settings assignment)).bind fun succeeded =>
                now.bind fun stopped =>
                  .done (.ok (summarize rejected.length succeeded (stopped.since started)))

end Thumbnailer.Batch
