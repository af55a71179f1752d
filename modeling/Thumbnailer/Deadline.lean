/-
This file holds cooperative deadlines. Work is never interrupted: a request checks its deadline
between stages, and one that has passed stops it there. Instants are counted in nanoseconds from a
fixed start and have a latest value; a budget that would reach beyond it sets no limit.
-/

namespace Thumbnailer

structure Duration where
  nanoseconds : Nat
  deriving DecidableEq, Repr

namespace Duration

def ofSeconds (seconds : Nat) : Duration :=
  { nanoseconds := seconds * 1000000000 }

/-- Whole seconds and the nanoseconds beyond them. -/
def ofParts (seconds nanoseconds : Nat) : Duration :=
  { nanoseconds := seconds * 1000000000 + nanoseconds }

def milliseconds (duration : Duration) : Nat :=
  duration.nanoseconds / 1000000

end Duration

structure Instant where
  nanoseconds : Nat
  deriving DecidableEq, Repr

namespace Instant

/-- The first instant that cannot be told: seconds are a signed word of 64 bits. -/
def horizon : Nat := 0x8000000000000000 * 1000000000

/-- The instant a span later, if it can be told. -/
def later? (instant : Instant) (span : Duration) : Option Instant :=
  if instant.nanoseconds + span.nanoseconds < horizon then
    some { nanoseconds := instant.nanoseconds + span.nanoseconds }
  else
    none

/-- The span from an earlier instant; nothing if it is not earlier. -/
def since (instant earlier : Instant) : Duration :=
  { nanoseconds := instant.nanoseconds - earlier.nanoseconds }

end Instant

/-- A deadline was found to have passed, this long after the start. -/
structure DeadlineExceeded where
  elapsed : Duration
  deriving DecidableEq, Repr

def DeadlineExceeded.message (exceeded : DeadlineExceeded) : String :=
  "deadline exceeded after " ++ toString exceeded.elapsed.milliseconds ++ "ms"

/-- A start, and the instant from which the deadline has passed, if there is one. -/
structure Deadline where
  started : Instant
  limit : Option Instant
  deriving DecidableEq, Repr

namespace Deadline

def never (now : Instant) : Deadline :=
  { started := now, limit := none }

def passingAt (now limit : Instant) : Deadline :=
  { started := now, limit := some limit }

/-- A deadline that passes once a budget is used up. -/
def after (now : Instant) (budget : Duration) : Deadline :=
  { started := now, limit := now.later? budget }

/-- A deadline after a budget, if one is given. -/
def ofTimeout (now : Instant) (timeout : Option Duration) : Deadline :=
  match timeout with
  | none => never now
  | some budget => after now budget

def expired (deadline : Deadline) (now : Instant) : Bool :=
  match deadline.limit with
  | none => false
  | some limit => limit.nanoseconds ≤ now.nanoseconds

/-- A checkpoint: it fails once the deadline has passed. -/
def check (deadline : Deadline) (now : Instant) : Except DeadlineExceeded Unit :=
  if deadline.expired now then
    .error { elapsed := now.since deadline.started }
  else
    .ok ()

end Deadline

end Thumbnailer
