/-
This file states what a failure does to a request. The run of a request in which everything
succeeds is compared with the run in which one call fails, whichever call that is and whatever
engine does the work: the second run makes the calls of the first up to the one that fails, and
ends there with its error.

An engine is made to fail by counting its calls. The time is told by an engine too, but that is no
call and never fails.

What kind of error the request ends in is left to the engine. Rehearsals and the engine that works
on pixels have one kind for reading, one for writing and one for all other work.
-/

import Thumbnailer.Proofs.Pixels
import Thumbnailer.Proofs.Protocol

namespace Thumbnailer

open Procedure Stage Protocol

variable {Image Scale Value State : Type}

namespace Task

/-- The answer that tells a failure. The time is told all the same. -/
def refuse (failure : EngineError) : (task : Task Image Scale) → task.Answer → task.Answer
  | .now, instant => instant
  | .encode .., _ => .error failure
  | .premultiply _, _ => .error failure
  | .decode .., _ | .resize .., _ | .rotate .., _ | .flip _, _ | .crop .., _ | .convert .., _
  | .unpremultiply .., _ | .smartCrop .., _ | .copy _, _ => .error failure

end Task

/-- The engine that fails at the call with a number, counted from one. It counts its calls in its
state, and how the call fails may depend on what is asked. -/
def failingAt (number : Nat) (failure : Task Image Scale → EngineError)
    (engine : Handler (Work Image Scale) State) : Handler (Work Image Scale) (State × Nat) :=
  fun task state =>
    let answered := engine task state.1
    if task.isWork then
      (if state.2 + 1 = number then task.refuse (failure task) answered.1 else answered.1,
        (answered.2, state.2 + 1))
    else
      (answered.1, (answered.2, state.2))

section Answers

variable {number made : Nat} {failure : Task Image Scale → EngineError}
  {engine : Handler (Work Image Scale) State} {task : Task Image Scale} {state : State}

theorem failingAt_of_look (look : task.isWork = false) :
    failingAt number failure engine task (state, made) =
      ((engine task state).1, ((engine task state).2, made)) := by
  unfold failingAt
  rw [look]
  rfl

theorem failingAt_self (works : task.isWork = true) :
    failingAt (made + 1) failure engine task (state, made) =
      (task.refuse (failure task) (engine task state).1, ((engine task state).2, made + 1)) := by
  unfold failingAt
  rw [if_pos works, if_pos rfl]

theorem failingAt_of_ne (works : task.isWork = true) (other : made + 1 ≠ number) :
    failingAt number failure engine task (state, made) =
      ((engine task state).1, ((engine task state).2, made + 1)) := by
  unfold failingAt
  rw [if_pos works, if_neg other]

theorem obstacle?_refuse {deadline : Deadline} {error : EngineError} (works : task.isWork = true)
    (answer : task.Answer) :
    obstacle? deadline task (task.refuse error answer) = some (.engine error) := by
  cases task with
  | now => cases works
  | _ => rfl

end Answers

namespace Stage

/-- What an orderly stage does under an engine that fails at one of the calls that the stage would
make otherwise. So many calls were made before the stage, and so many it makes before that one. -/
theorem Orderly.failingAt {deadline : Deadline}
    {leads : Task Image Scale → Stretch → Stretch → Prop} {first last : Stretch}
    {stage : Stage Image Scale Value} (orderly : stage.Orderly deadline leads first last)
    (engine : Handler (Work Image Scale) State) (failure : Task Image Scale → EngineError)
    (state : State) (made count : Nat) (smooth : Smooth deadline (transcript engine stage state))
    (within : count < (calls (transcript engine stage state)).length) :
    let failing := failingAt (made + count + 1) failure engine
    (calls (transcript failing stage (state, made))).map Sigma.fst =
        ((calls (transcript engine stage state)).map Sigma.fst).take (count + 1) ∧
      ∃ exchange, (calls (transcript engine stage state))[count]? = some exchange ∧
        (run failing stage (state, made)).1 = .error (.engine (failure exchange.1)) := by
  induction stage using Procedure.rec generalizing first state made count with
  | done outcome => cases within
  | ask task next inductionHypothesis =>
    obtain ⟨later, -, answers⟩ := orderly
    have orderly := answers (engine task state).1
    rw [goesOn_iff.1 (smooth _ (List.mem_cons_self ..))] at orderly
    have smooth : Smooth deadline (transcript engine (next (engine task state).1)
        (engine task state).2) :=
      fun exchange member => smooth exchange (List.mem_cons_of_mem _ member)
    have further := inductionHypothesis (engine task state).1 orderly (engine task state).2
    simp only [transcript, run] at within ⊢
    cases works : task.isWork with
    | false =>
      rw [calls_cons_of_look works] at within
      rw [calls_cons_of_look works, calls_cons_of_look works, failingAt_of_look works]
      exact further made count smooth within
    | true =>
      rw [calls_cons_of_work works] at within
      rw [calls_cons_of_work works, calls_cons_of_work works]
      cases count with
      | zero =>
        -- The stage stops at the refusal: what it would do next is not reached.
        have stopped := answers (task.refuse (failure task) (engine task state).1)
        rw [obstacle?_refuse works] at stopped
        rw [Nat.add_zero, failingAt_self works, stopped]
        exact ⟨rfl, _, rfl, rfl⟩
      | succ count =>
        have same : made + (count + 1) + 1 = made + 1 + count + 1 := by omega
        rw [same, failingAt_of_ne works (by omega)]
        obtain ⟨asked, exchange, found, ended⟩ :=
          further (made + 1) count smooth (Nat.lt_of_succ_lt_succ within)
        refine ⟨?_, exchange, found, ended⟩
        rw [List.map_cons, List.map_cons, List.take_succ_cons, asked]

end Stage

/-! ### A failure ends a request -/

section Process

variable [Picture Image] [ScaleFactor Scale]

/-- A request leads through its stretches, unless it is refused and nothing is asked. -/
theorem leading_process (engine : Handler (Work Image Scale) State) (capabilities : Capabilities)
    (request : Request) (start : State) :
    ∃ reached, Leading .opening reached
      (transcript engine (process capabilities request) start) := by
  cases decision : request.refusal? capabilities with
  | some refusal =>
    rw [(refused_process engine start decision).1]
    exact ⟨_, .rests⟩
  | none =>
    rw [process_of_accepted decision]
    obtain ⟨reached, leading, -⟩ :=
      orderly_serve.leading (conversation_run engine (serve request) start)
    exact ⟨reached, leading⟩

/-- A request is refused for its options or for what is not offered. -/
theorem refusal?_ne_engine {capabilities : Capabilities} {request : Request}
    (failure : EngineError) : request.refusal? capabilities ≠ some (.engine failure) := by
  intro refused
  unfold Request.refusal? at refused
  split at refused
  · cases refused
  · obtain ⟨lack, -, refusal⟩ := Option.map_eq_some_iff.1 refused
    cases refusal

/-- A request that ends in an error of the engine was told it in answer to its last task. -/
theorem stopped_process (engine : Handler (Work Image Scale) State) {capabilities : Capabilities}
    {request : Request} {start : State} {failure : EngineError}
    (fails : (run engine (process capabilities request) start).1 = .error (.engine failure)) :
    ∃ before task answer,
      transcript engine (process capabilities request) start = before ++ [⟨task, answer⟩] ∧
        obstacle? request.deadline task answer = some (.engine failure) := by
  cases decision : request.refusal? capabilities with
  | some refusal =>
    have refused := (refused_process engine start decision).2
    cases Except.error.inj (refused.symm.trans fails)
    exact absurd decision (refusal?_ne_engine failure)
  | none =>
    rw [process_of_accepted decision] at fails ⊢
    obtain ⟨-, bytes, succeeds⟩ | ⟨before, ⟨task, answer⟩, error, last, -, stops, ended⟩ :=
      orderly_serve.smooth_or_stopped (conversation_run engine (serve request) start)
    · cases succeeds.symm.trans fails
    · cases ended.symm.trans fails
      exact ⟨before, task, answer, last, stops⟩

/-- Whatever engine does the work, if the calls of a request succeed and its deadline does not pass,
then under the engine that fails at the call with a number, from one to the number of all calls, the
request asks for exactly so many of the same calls, and ends in the error of the last one. Nothing
is asked after an encode, which only takes place if it is the call that fails. -/
theorem calls_failingAt (engine : Handler (Work Image Scale) State) (capabilities : Capabilities)
    (request : Request) (start : State) (failure : Task Image Scale → EngineError) (number : Nat)
    (smooth : Smooth request.deadline (transcript engine (process capabilities request) start))
    (least : 1 ≤ number)
    (most : number ≤ (calls (transcript engine (process capabilities request) start)).length) :
    let made := calls (transcript engine (process capabilities request) start)
    let failing := failingAt number failure engine
    let talk := transcript failing (process capabilities request) (start, 0)
    (calls talk).map Sigma.fst = (made.map Sigma.fst).take number ∧
      (∃ exchange, made[number - 1]? = some exchange ∧
        (run failing (process capabilities request) (start, 0)).1 =
          .error (.engine (failure exchange.1))) ∧
      ∀ before image format quality answer after,
        talk = before ++ ⟨.encode image format quality, answer⟩ :: after → after = [] := by
  intro made failing talk
  have accepted := accepted_of_asked (Nat.lt_of_lt_of_le least most)
  obtain ⟨count, rfl⟩ : ∃ count, number = count + 1 := ⟨number - 1, by omega⟩
  have orderly := @orderly_serve Image Scale _ _ request
  rw [← process_of_accepted accepted] at orderly
  have stopped := orderly.failingAt engine failure start 0 count smooth most
  rw [Nat.zero_add] at stopped
  refine ⟨stopped.1, stopped.2, fun before image format quality answer after split => ?_⟩
  have leads : ∃ reached, Leading .opening reached talk :=
    leading_process failing capabilities request (start, 0)
  rw [split] at leads
  obtain ⟨reached, leading⟩ := leads
  exact leading.encode_last rfl

theorem calls_failingAt_thorough :
    let start := Rehearsal.blank { nanoseconds := 0 }
    let engine : Handler (Work Sketch Rat) _ := thorough.engine
    let process : Stage Sketch Rat Bytes := process thorough.capabilities thoroughRequest
    let failing := fun number failure => run (failingAt number (fun _ => failure) engine) process
      (start, 0)
    let asked := fun number failure =>
      (calls (transcript (failingAt number (fun _ => failure) engine) process (start, 0))).map
        Sigma.fst
    let made := calls (transcript engine process start)
    let unreadable : EngineError := .decode "unreadable"
    let exhausted : EngineError := .operation .resize "out of memory"
    let unwritable : EngineError := .encode "disk full"
    Smooth thoroughRequest.deadline (transcript engine process start) ∧ made.length = 11 ∧
      asked 1 unreadable = (made.map Sigma.fst).take 1 ∧
      (failing 1 unreadable).1 = .error (.engine unreadable) ∧
      asked 4 exhausted = (made.map Sigma.fst).take 4 ∧
      (failing 4 exhausted).1 = .error (.engine exhausted) ∧
      (failing 4 exhausted).2.1.entries.map Entry.primitive =
        [.decode, .decode, .premultiply, .resize] ∧
      asked 11 unwritable = (made.map Sigma.fst).take 11 ∧
      (failing 11 unwritable).1 = .error (.engine unwritable) := by
  intro start engine process failing asked made unreadable exhausted unwritable
  have smooth : Smooth thoroughRequest.deadline (transcript engine process start) := by
    decide +kernel
  have length : made.length = 11 := by decide +kernel
  have stops := fun (number : Nat) (failure : EngineError) (least : 1 ≤ number)
      (most : number ≤ made.length) =>
    calls_failingAt engine thorough.capabilities thoroughRequest start (fun _ => failure) number
      smooth least most
  have first := stops 1 unreadable (by decide) (by omega)
  have fourth := stops 4 exhausted (by decide) (by omega)
  have last := stops 11 unwritable (by decide) (by omega)
  obtain ⟨_, -, unread⟩ := first.2.1
  obtain ⟨_, -, unscaled⟩ := fourth.2.1
  obtain ⟨_, -, unwritten⟩ := last.2.1
  exact ⟨smooth, length, first.1, unread, fourth.1, unscaled, by decide +kernel, last.1, unwritten⟩

end Process

/-! ### Kinds of failures -/

/-- Whether a failure of a task is told by this kind of error: reading and writing have kinds of
their own. -/
def Task.toldBy : Task Image Scale → EngineError → Bool
  | .decode .., .decode _ | .encode .., .encode _ => true
  | .decode .., _ | .encode .., _ => false
  | _, .operation .. => true
  | _, _ => false

/-- If this is a failure, then of a primitive that neither reads nor writes. -/
def Operates {Answer : Type} (result : Except EngineError Answer) : Prop :=
  ∀ failure, result = .error failure → ∃ primitive detail, failure = .operation primitive detail

section Kinds

variable {Answer : Type} {failure : EngineError}

theorem operates_ok (answer : Answer) : Operates (.ok answer) :=
  nofun

theorem operates_error (primitive : Primitive) (detail : String) :
    Operates (.error (.operation primitive detail) : Except EngineError Answer) := by
  rintro failure ⟨⟩
  exact ⟨primitive, detail, rfl⟩

theorem operation_of_operates {result : Except EngineError Answer} (operates : Operates result)
    (fails : failure? .engine result = some (.engine failure)) :
    ∃ primitive detail, failure = .operation primitive detail :=
  operates failure (failure?_eq_some_iff.1 fails)

namespace Rehearsal

theorem operates_note (rehearsal : Rehearsal) (entry : Entry Scale) (record : Record Scale) :
    Operates (rehearsal.note entry record).1 := by
  unfold note
  dsimp only
  split
  · exact operates_error _ _
  · exact operates_ok _

theorem operates_noted (rehearsal : Rehearsal) (entry : Entry Scale) (record : Record Scale)
    {result : Except EngineError Answer} (operates : Operates result) :
    Operates (rehearsal.noted entry record result).1 := by
  have notes := rehearsal.operates_note entry record
  unfold noted
  dsimp only
  cases written : (rehearsal.note entry record).1 with
  | ok _ => exact operates
  | error failure =>
    rw [written] at notes
    rintro _ ⟨⟩
    exact notes failure rfl

theorem operates_cropped (image : Sketch) (region : Region) : Operates (cropped image region) := by
  unfold cropped
  split
  · exact operates_ok _
  · exact operates_error _ _

theorem operates_divided (image : Sketch) : Operates (divided image) := by
  unfold divided
  split
  · exact operates_ok _
  · exact operates_error _ _

variable [ScaleFactor Scale] {deadline : Deadline}

/-- A rehearsal tells each failure by its kind. -/
theorem toldBy_engine (rehearsal : Rehearsal) {task : Task Sketch Scale} {record : Record Scale}
    (fails : obstacle? deadline task (rehearsal.engine task record).1 = some (.engine failure)) :
    task.toldBy failure = true := by
  have works : ∀ {Answer : Type} (entry : Entry Scale) {result : Except EngineError Answer},
      Operates result →
        failure? .engine (rehearsal.noted entry record result).1 = some (.engine failure) →
          ∃ primitive detail, failure = .operation primitive detail := fun entry _ operates =>
    operation_of_operates (rehearsal.operates_noted entry record operates)
  cases task with
  | now => exact absurd fails obstacle?_now_ne_engine
  | decode data format shrink =>
    have failed : (((rehearsal.note (.decode format shrink) record).1.mapError
        (asCodecFailure .decode)).bind fun _ => rehearsal.decoded data shrink) = .error failure :=
      failure?_eq_some_iff.1 fails
    unfold decoded at failed
    cases written : (rehearsal.note (.decode format shrink) record).1 with
    | error other =>
      rw [written] at failed
      cases failed
      rfl
    | ok _ =>
      rw [written] at failed
      by_cases refused : rehearsal.refuses data
      · rw [if_pos refused] at failed
        cases failed
        rfl
      · rw [if_neg refused] at failed
        cases failed
  | encode image format quality =>
    have failed : (((rehearsal.note (.encode format quality image.size) record).1.mapError
        (asCodecFailure .encode)).map fun _ => encoded format image.size) = .error failure :=
      failure?_eq_some_iff.1 fails
    cases written : (rehearsal.note (.encode format quality image.size) record).1 with
    | error other =>
      rw [written] at failed
      cases failed
      rfl
    | ok _ =>
      rw [written] at failed
      cases failed
  | crop image region =>
    obtain ⟨primitive, detail, rfl⟩ := works _ (operates_cropped image region) fails
    rfl
  | unpremultiply image band =>
    obtain ⟨primitive, detail, rfl⟩ := works _ (operates_divided image) fails
    rfl
  | _ =>
    obtain ⟨primitive, detail, rfl⟩ := works _ (operates_ok _) fails
    rfl

end Rehearsal

namespace Pixels

variable [ScaleFactor Scale] {deadline : Deadline} {codec : Codec} {state : SharedState}

theorem operates_crop (canvas : Canvas) (region : Region) :
    Operates ((crop canvas region).run (SharedState.step codec) state).1 := by
  unfold crop
  split
  · exact operates_ok _
  · exact operates_error _ _

/-- The engine that works on pixels tells each failure by its kind. -/
theorem toldBy_engine (settings : EngineSettings) {task : Task Canvas Scale}
    (fails : obstacle? deadline task (engine codec settings task state).1 =
      some (.engine failure)) :
    task.toldBy failure = true := by
  have works : ∀ {attempt : Attempt Canvas},
      Operates (attempt.run (SharedState.step codec) state).1 →
        failure? .engine (attempt.run (SharedState.step codec) state).1 = some (.engine failure) →
          ∃ primitive detail, failure = .operation primitive detail :=
    operation_of_operates
  cases task with
  | now => exact absurd fails obstacle?_now_ne_engine
  | decode data format shrink =>
    obtain ⟨detail, rfl, -⟩ := decode_eq_error (failure?_eq_some_iff.1 fails)
    rfl
  | encode canvas format quality =>
    have failed : (codec.encode canvas.raster format quality).mapError .encode = .error failure :=
      failure?_eq_some_iff.1 fails
    cases written : codec.encode canvas.raster format quality with
    | ok bytes =>
      rw [written] at failed
      cases failed
    | error detail =>
      rw [written] at failed
      cases failed
      rfl
  | crop canvas region =>
    obtain ⟨primitive, detail, rfl⟩ := works (operates_crop canvas region) fails
    rfl
  | smartCrop canvas target =>
    have operates : Operates
        ((smartCrop settings canvas target).run (SharedState.step codec) state).1 := by
      unfold smartCrop
      split
      · exact operates_crop _ _
      · exact operates_error _ _
    obtain ⟨primitive, detail, rfl⟩ := works operates fails
    rfl
  | resize canvas scale =>
    have operates : Operates ((resize canvas scale).run (SharedState.step codec) state).1 := by
      unfold resize
      dsimp only
      split
      · split <;> exact operates_ok _
      · exact operates_error _ _
    obtain ⟨primitive, detail, rfl⟩ := works operates fails
    rfl
  | rotate canvas turn =>
    have operates : Operates ((rotate canvas turn).run (SharedState.step codec) state).1 := by
      unfold rotate
      split <;> exact operates_ok _
    obtain ⟨primitive, detail, rfl⟩ := works operates fails
    rfl
  | unpremultiply canvas band =>
    have operates : Operates
        ((unpremultiply canvas band).run (SharedState.step codec) state).1 := by
      unfold unpremultiply
      split
      · exact operates_ok _
      · exact operates_error _ _
    obtain ⟨primitive, detail, rfl⟩ := works operates fails
    rfl
  | _ => cases fails

end Pixels

/-- Where an engine tells each failure by its kind, a request that fails ends in an error of the
kind of its last task. -/
theorem toldBy_process [Picture Image] [ScaleFactor Scale]
    {engine : Handler (Work Image Scale) State} {capabilities : Capabilities} {request : Request}
    {start : State}
    (told : ∀ task state failure, obstacle? request.deadline task (engine task state).1 =
      some (.engine failure) → task.toldBy failure = true)
    (fails : (run engine (process capabilities request) start).1 = .error (.engine failure)) :
    ∃ before task answer,
      transcript engine (process capabilities request) start = before ++ [⟨task, answer⟩] ∧
        task.toldBy failure = true := by
  obtain ⟨before, task, answer, last, stops⟩ := stopped_process engine fails
  have tells : ∀ exchange ∈ transcript engine (process capabilities request) start, ∀ failure,
      obstacle? request.deadline exchange.1 exchange.2 = some (.engine failure) →
        exchange.1.toldBy failure = true :=
    forall_transcript told (process capabilities request) start
  rw [last] at tells
  have member : ⟨task, answer⟩ ∈ before ++ [(⟨task, answer⟩ : Exchange (Work Image Scale))] :=
    List.mem_append_right _ (List.mem_singleton_self _)
  exact ⟨before, task, answer, last, tells _ member failure stops⟩

end Kinds

end Thumbnailer
