/-
This file decides where a batch writes. An output lies in the output directory at the place its
source has in the input directory, under the stem of its source and the extension of the format. Of
the sources that come to the same output, the first keeps it and the others are conflicts.
-/

import Thumbnailer.Path

namespace Thumbnailer.Batch

/-- Where the output of a source goes. A source outside the input directory, and one directly in
it, goes directly into the output directory. -/
def outputPath (source input output : Path) (format : Format) : Path :=
  let directory := ((source.relativeTo? input).bind Path.parent?).getD { bytes := [] }
  let stem := (source.stem?.map Utf8.decodeLossy).getD "image"
  (output.join directory).join (.ofString (stem ++ "." ++ format.extension))

/-- A file to process. -/
structure Job where
  source : Path
  format : Format
  output : Path
  deriving DecidableEq

/-- A file whose output another file has already claimed. -/
structure Conflict where
  source : Path
  output : Path
  /-- The source that keeps the output. -/
  first : Path
  deriving DecidableEq

def Conflict.message (conflict : Conflict) : String :=
  conflict.source.display ++ ": output " ++ conflict.output.display ++ " is already written by " ++
    conflict.first.display

/-- Jobs and conflicts, each in the order of the files. -/
structure Assignment where
  jobs : List Job := []
  conflicts : List Conflict := []

/-- The job that has claimed an output. -/
def Assignment.owner? (assignment : Assignment) (output : Path) : Option Job :=
  assignment.jobs.find? fun job => job.output.sameAs output

/-- Add one file: as a job if its output is free, else as a conflict. -/
def Assignment.add (assignment : Assignment) (source : Path) (format : Format) (output : Path) :
    Assignment :=
  match assignment.owner? output with
  | none =>
    { assignment with
      jobs := assignment.jobs ++ [{ source := source, format := format, output := output }] }
  | some job =>
    { assignment with
      conflicts := assignment.conflicts ++
        [{ source := source, output := job.output, first := job.source }] }

/-- Assign outputs to files in order. -/
def assign (files : List (Path × Format)) (input output : Path) (format : Format) : Assignment :=
  files.foldl
    (fun assignment file =>
      assignment.add file.1 file.2 (outputPath file.1 input output format))
    {}

end Thumbnailer.Batch
