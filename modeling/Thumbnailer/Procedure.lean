/-
This file defines procedures: computations that ask for things they cannot do themselves, such as
pixel work, a cache access or a file read, and go on with whatever is answered. An interface lists
the requests and the type of each answer. A procedure is a finite tree, so it can be run against
any handler, its requests can be carried out by other procedures, and the steps of several
procedures can be taken in any order. The main lemmas say that running respects sequencing.
-/

namespace Thumbnailer

/-- Requests, and the type of the answer to each. -/
structure Interface where
  Request : Type
  Answer : Request → Type

/-- The requests of two interfaces together. -/
abbrev Interface.beside (first second : Interface) : Interface :=
  { Request := first.Request ⊕ second.Request
    Answer := fun
      | .inl request => first.Answer request
      | .inr request => second.Answer request }

/-- A computation that asks requests of an interface before it ends. -/
inductive Procedure (interface : Interface) (Result : Type) where
  | done (result : Result)
  | ask (request : interface.Request)
      (next : interface.Answer request → Procedure interface Result)

namespace Procedure

variable {interface inner : Interface} {Result Next State : Type}

/-- Go on with a second procedure once the first one ends. -/
def bind (procedure : Procedure interface Result)
    (continuation : Result → Procedure interface Next) : Procedure interface Next :=
  match procedure with
  | .done result => continuation result
  | .ask request next => .ask request fun answer => (next answer).bind continuation

instance : Monad (Procedure interface) where
  pure := .done
  bind := bind

/-- Ask one request and end with its answer. -/
def request (wanted : interface.Request) : Procedure interface (interface.Answer wanted) :=
  .ask wanted .done

/-- How each request is answered, from a state that the answer may change. -/
abbrev Handler (interface : Interface) (State : Type) :=
  (request : interface.Request) → State → interface.Answer request × State

/-- Run a procedure to its end, each request answered by the handler. -/
def run (handler : Handler interface State) : Procedure interface Result → State → Result × State
  | .done result, state => (result, state)
  | .ask request next, state =>
    let answered := handler request state
    run handler (next answered.1) answered.2

/-- Run a procedure with effects: each request is answered by an action. -/
def perform {Effect : Type → Type} [Monad Effect]
    (answer : (request : interface.Request) → Effect (interface.Answer request)) :
    Procedure interface Result → Effect Result
  | .done result => pure result
  | .ask request next => do
    let answered ← answer request
    (next answered).perform answer

/-- The handler that also writes every request down. -/
def recorded (handler : Handler interface State) :
    Handler interface (State × List interface.Request) :=
  fun request state =>
    let answered := handler request state.1
    (answered.1, (answered.2, state.2 ++ [request]))

/-- Carry out each request by a procedure of another interface. -/
def carryOut (means : (request : interface.Request) → Procedure inner (interface.Answer request)) :
    Procedure interface Result → Procedure inner Result
  | .done result => .done result
  | .ask request next => (means request).bind fun answer => carryOut means (next answer)

/-- Each of two interfaces answered by a handler of its own. -/
def beside {Other : Type} {first second : Interface} (left : Handler first State)
    (right : Handler second Other) : Handler (first.beside second) (State × Other)
  | .inl request, (state, other) =>
    let answered := left request state
    (answered.1, (answered.2, other))
  | .inr request, (state, other) =>
    let answered := right request other
    (answered.1, (state, answered.2))

/-- A procedure of the first of two interfaces. -/
def onLeft {first : Interface} (second : Interface) (procedure : Procedure first Result) :
    Procedure (first.beside second) Result :=
  procedure.carryOut fun request => .ask (.inl request) .done

/-- A procedure of the second of two interfaces. -/
def onRight (first : Interface) {second : Interface} (procedure : Procedure second Result) :
    Procedure (first.beside second) Result :=
  procedure.carryOut fun request => .ask (.inr request) .done

/-! ### Laws -/

@[simp]
theorem pure_eq (result : Result) : (pure result : Procedure interface Result) = .done result :=
  rfl

@[simp]
theorem bind_eq (procedure : Procedure interface Result)
    (continuation : Result → Procedure interface Next) :
    procedure >>= continuation = procedure.bind continuation :=
  rfl

@[simp]
theorem bind_done (procedure : Procedure interface Result) : procedure.bind .done = procedure := by
  induction procedure with
  | done result => rfl
  | ask request next inductionHypothesis => simp [bind, inductionHypothesis]

theorem bind_assoc {Last : Type} (procedure : Procedure interface Result)
    (first : Result → Procedure interface Next) (second : Next → Procedure interface Last) :
    (procedure.bind first).bind second =
      procedure.bind fun result => (first result).bind second := by
  induction procedure with
  | done result => rfl
  | ask request next inductionHypothesis => simp [bind, inductionHypothesis]

instance : LawfulMonad (Procedure interface) :=
  LawfulMonad.mk' (Procedure interface) (fun procedure => bind_done procedure) (fun _ _ => rfl)
    (fun procedure first second => bind_assoc procedure first second)

@[simp]
theorem run_done (handler : Handler interface State) (result : Result) (state : State) :
    run handler (.done result) state = (result, state) :=
  rfl

@[simp]
theorem run_request (handler : Handler interface State) (wanted : interface.Request)
    (state : State) : run handler (request wanted) state = handler wanted state :=
  rfl

/-- Running a sequence runs the second part from where the first part ended. -/
theorem run_bind (handler : Handler interface State) (procedure : Procedure interface Result)
    (continuation : Result → Procedure interface Next) (state : State) :
    run handler (procedure.bind continuation) state =
      let ended := run handler procedure state
      run handler (continuation ended.1) ended.2 := by
  induction procedure generalizing state with
  | done result => rfl
  | ask request next inductionHypothesis => simp [bind, run, inductionHypothesis]

/-- Carrying out requests by procedures and then running is running with the handler that runs
those procedures. -/
theorem run_carryOut (handler : Handler inner State)
    (means : (request : interface.Request) → Procedure inner (interface.Answer request))
    (procedure : Procedure interface Result) (state : State) :
    run handler (procedure.carryOut means) state =
      run (fun request state => run handler (means request) state) procedure state := by
  induction procedure generalizing state with
  | done result => rfl
  | ask request next inductionHypothesis =>
    simp [carryOut, run_bind, run, inductionHypothesis]

/-- A procedure of the first interface runs as it does alone, and the other state stays. -/
theorem run_onLeft {Other : Type} {first second : Interface} (left : Handler first State)
    (right : Handler second Other) (procedure : Procedure first Result) (state : State)
    (other : Other) :
    run (beside left right) (procedure.onLeft second) (state, other) =
      let ended := run left procedure state
      (ended.1, (ended.2, other)) := by
  induction procedure generalizing state with
  | done result => rfl
  | ask request next inductionHypothesis =>
    exact inductionHypothesis (left request state).1 (left request state).2

/-- A procedure of the second interface runs as it does alone, and the other state stays. -/
theorem run_onRight {Other : Type} {first second : Interface} (left : Handler first State)
    (right : Handler second Other) (procedure : Procedure second Result) (state : State)
    (other : Other) :
    run (beside left right) (procedure.onRight first) (state, other) =
      let ended := run right procedure other
      (ended.1, (state, ended.2)) := by
  induction procedure generalizing other with
  | done result => rfl
  | ask request next inductionHypothesis =>
    exact inductionHypothesis (right request other).1 (right request other).2

end Procedure

end Thumbnailer
