/-
This file holds what a batch tells about its files: one event for each of them as it is finished or
rejected, and a summary at the end.
-/

import Thumbnailer.Deadline
import Thumbnailer.Path

namespace Thumbnailer.Batch

/-- What became of one file. -/
inductive Event where
  | processed (source output : Path) (size : Nat) (elapsed : Duration)
  | failed (source : Path) (error : String)
  deriving DecidableEq

namespace Event

def source : Event → Path
  | .processed source .. => source
  | .failed source _ => source

def isProcessed : Event → Bool
  | .processed .. => true
  | .failed .. => false

end Event

/-- How many files were processed, how many failed, and how long it took. -/
structure Summary where
  processed : Nat
  failed : Nat
  elapsed : Duration
  deriving DecidableEq

def Summary.total (summary : Summary) : Nat :=
  summary.processed + summary.failed

end Thumbnailer.Batch
