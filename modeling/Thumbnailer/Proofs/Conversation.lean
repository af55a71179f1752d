/-
This file looks at procedures from the side of whoever answers them. A conversation is one way in
which a procedure can go: what it asks in turn, what it is answered each time, and what it ends
with. Which answers are given is left open, so what holds of every conversation holds under every
handler, whatever state that handler keeps. The transcript of a run is the conversation that took
place in it.

A conversation of a sequence falls apart into one of the first part and one of the second, and a
stage of a request goes on only if its parts succeed. These laws take the conversations of a
request apart into those of its stages.
-/

import Thumbnailer.Pipeline

namespace Thumbnailer

namespace Procedure

variable {interface : Interface} {Result Next State : Type}

/-- A request and what was answered. -/
abbrev Exchange (interface : Interface) : Type :=
  (request : interface.Request) × interface.Answer request

/-- A way in which a procedure can go: its exchanges one after the other, and its result. -/
inductive Conversation : Procedure interface Result → List (Exchange interface) → Result → Prop
  | done (result : Result) : Conversation (.done result) [] result
  | ask {request : interface.Request} {next : interface.Answer request → Procedure interface Result}
      {answer : interface.Answer request} {rest : List (Exchange interface)} {result : Result}
      (further : Conversation (next answer) rest result) :
      Conversation (.ask request next) (⟨request, answer⟩ :: rest) result

/-- The exchanges of a run. -/
def transcript (handler : Handler interface State) :
    Procedure interface Result → State → List (Exchange interface)
  | .done _, _ => []
  | .ask request next, state =>
    let answered := handler request state
    ⟨request, answered.1⟩ :: transcript handler (next answered.1) answered.2

/-- Every run is a conversation. -/
theorem conversation_run (handler : Handler interface State)
    (procedure : Procedure interface Result) (state : State) :
    Conversation procedure (transcript handler procedure state)
      (run handler procedure state).1 := by
  induction procedure generalizing state with
  | done result => exact .done result
  | ask request next inductionHypothesis => exact .ask (inductionHypothesis _ _)

/-- What every answer of a handler is like is what every exchange of its runs is like. -/
theorem forall_transcript {property : Exchange interface → Prop} {handler : Handler interface State}
    (answers : ∀ request state, property ⟨request, (handler request state).1⟩)
    (procedure : Procedure interface Result) (state : State) :
    ∀ exchange ∈ transcript handler procedure state, property exchange := by
  induction procedure generalizing state with
  | done result => exact fun exchange member => nomatch member
  | ask request next inductionHypothesis =>
    refine List.forall_mem_cons.2 ⟨answers request state, ?_⟩
    exact inductionHypothesis _ _

/-- What is said in a sequence is what is said in its first part and then in its second part. -/
theorem transcript_bind (handler : Handler interface State) (procedure : Procedure interface Result)
    (continuation : Result → Procedure interface Next) (state : State) :
    transcript handler (procedure.bind continuation) state =
      let ended := run handler procedure state
      transcript handler procedure state ++
        transcript handler (continuation ended.1) ended.2 := by
  induction procedure generalizing state with
  | done result => rfl
  | ask request next inductionHypothesis =>
    exact congrArg (⟨request, (handler request state).1⟩ :: ·) (inductionHypothesis _ _)

/-- The transcript tells the requests that the recording handler writes down. -/
theorem run_recorded (handler : Handler interface State) (procedure : Procedure interface Result)
    (state : State) (log : List interface.Request) :
    run (recorded handler) procedure (state, log) =
      let ended := run handler procedure state
      (ended.1, (ended.2, log ++ (transcript handler procedure state).map Sigma.fst)) := by
  induction procedure generalizing state log with
  | done result => simp [transcript]
  | ask request next inductionHypothesis =>
    simp only [run, recorded, transcript, inductionHypothesis, List.map_cons, List.append_assoc,
      List.singleton_append]

theorem conversation_done_iff {result ended : Result} {talk : List (Exchange interface)} :
    Conversation (.done result) talk ended ↔ talk = [] ∧ ended = result := by
  constructor
  · intro conversation
    cases conversation
    exact ⟨rfl, rfl⟩
  · rintro ⟨rfl, rfl⟩
    exact .done _

theorem conversation_ask_iff {request : interface.Request}
    {next : interface.Answer request → Procedure interface Result}
    {talk : List (Exchange interface)} {result : Result} :
    Conversation (.ask request next) talk result ↔
      ∃ answer rest, talk = ⟨request, answer⟩ :: rest ∧ Conversation (next answer) rest result := by
  constructor
  · intro conversation
    cases conversation with
    | ask further => exact ⟨_, _, rfl, further⟩
  · rintro ⟨answer, rest, rfl, further⟩
    exact .ask further

/-- A conversation of a sequence is one of its first part and then one of its second part. -/
theorem conversation_bind_iff {procedure : Procedure interface Result}
    {continuation : Result → Procedure interface Next} {talk : List (Exchange interface)}
    {ended : Next} :
    Conversation (procedure.bind continuation) talk ended ↔
      ∃ middle before after, talk = before ++ after ∧ Conversation procedure before middle ∧
        Conversation (continuation middle) after ended := by
  induction procedure generalizing talk with
  | done result =>
    constructor
    · intro conversation
      exact ⟨result, [], talk, rfl, .done result, conversation⟩
    · rintro ⟨middle, before, after, rfl, first, second⟩
      obtain ⟨rfl, rfl⟩ := conversation_done_iff.1 first
      exact second
  | ask request next inductionHypothesis =>
    constructor
    · intro conversation
      obtain ⟨answer, rest, rfl, further⟩ := conversation_ask_iff.1 conversation
      obtain ⟨middle, before, after, rfl, first, second⟩ := (inductionHypothesis answer).1 further
      exact ⟨middle, ⟨request, answer⟩ :: before, after, rfl, .ask first, second⟩
    · rintro ⟨middle, before, after, rfl, first, second⟩
      obtain ⟨answer, rest, rfl, further⟩ := conversation_ask_iff.1 first
      exact .ask ((inductionHypothesis answer).2 ⟨middle, rest, after, rfl, further, second⟩)

end Procedure

/-! ### Stages -/

open Procedure

namespace Stage

variable {Image Scale Value Next : Type}

/-- What is said in the course of a stage. -/
abbrev Talk (Image Scale : Type) := List (Exchange (Work Image Scale))

/-- A stage can go this way and succeed with this value. -/
def Achieves (stage : Stage Image Scale Value) (talk : Talk Image Scale) (value : Value) : Prop :=
  Conversation stage talk (.ok value)

theorem achieves_pure_iff {value result : Value} {talk : Talk Image Scale} :
    (pure value : Stage Image Scale Value).Achieves talk result ↔ talk = [] ∧ result = value := by
  refine conversation_done_iff.trans (and_congr_right fun _ => ?_)
  exact ⟨fun same => Except.ok.inj same, congrArg Except.ok⟩

/-- A sequence succeeds if its first part succeeds and then its second part does. -/
theorem achieves_bind_iff {first : Stage Image Scale Value}
    {second : Value → Stage Image Scale Next} {talk : Talk Image Scale} {result : Next} :
    (first >>= second).Achieves talk result ↔
      ∃ value before after, talk = before ++ after ∧ first.Achieves before value ∧
        (second value).Achieves after result := by
  refine conversation_bind_iff.trans ⟨?_, ?_⟩
  · rintro ⟨middle, before, after, split, begun, ended⟩
    cases middle with
    | ok value => exact ⟨value, before, after, split, begun, ended⟩
    | error failure => cases (conversation_done_iff.1 ended).2
  · rintro ⟨value, before, after, split, begun, ended⟩
    exact ⟨.ok value, before, after, split, begun, ended⟩

/-- The same where the first part is one of two. -/
theorem achieves_ite_bind_iff {condition : Prop} [Decidable condition]
    {first other : Stage Image Scale Value} {second : Value → Stage Image Scale Next}
    {talk : Talk Image Scale} {result : Next} :
    (if condition then first >>= second else other >>= second).Achieves talk result ↔
      ∃ value before after, talk = before ++ after ∧
        (if condition then first else other).Achieves before value ∧
          (second value).Achieves after result := by
  split <;> exact achieves_bind_iff

/-- The conversations of work are its one exchange. -/
theorem conversation_work_iff {task : Task Image Scale}
    {read : task.Answer → Except EngineError Value} {talk : Talk Image Scale}
    {outcome : Except PipelineError Value} :
    Conversation (work (.ask task fun answer => .done (read answer))) talk outcome ↔
      ∃ answer, talk = [⟨task, answer⟩] ∧ outcome = (read answer).mapError .engine := by
  refine (@conversation_ask_iff (Work Image Scale) ..).trans (exists_congr fun answer => ?_)
  constructor
  · rintro ⟨rest, rfl, further⟩
    obtain ⟨rfl, outcomeIs⟩ := conversation_done_iff.1 further
    exact ⟨rfl, outcomeIs⟩
  · rintro ⟨rfl, rfl⟩
    exact ⟨[], rfl, .done _⟩

/-- Work succeeds if its one exchange does. -/
theorem achieves_work_iff {task : Task Image Scale} {read : task.Answer → Except EngineError Value}
    {talk : Talk Image Scale} {value : Value} :
    (work (.ask task fun answer => .done (read answer))).Achieves talk value ↔
      ∃ answer, talk = [⟨task, answer⟩] ∧ read answer = .ok value := by
  refine conversation_work_iff.trans (exists_congr fun answer => and_congr_right fun _ => ?_)
  cases read answer with
  | ok result =>
    constructor
    · intro same
      cases same
      rfl
    · rintro ⟨⟩
      rfl
  | error failure => constructor <;> intro impossible <;> cases impossible

/-- A stage that begins with work goes on if that work is done. -/
theorem transcript_work_bind {State : Type} (handler : Handler (Work Image Scale) State)
    {task : Task Image Scale} {read : task.Answer → Except EngineError Value}
    {further : Value → Stage Image Scale Next} (state : State) :
    transcript handler (work (.ask task fun answer => .done (read answer)) >>= further :
        Stage Image Scale Next) state =
      ⟨task, (handler task state).1⟩ :: match read (handler task state).1 with
        | .ok value => transcript handler (further value) (handler task state).2
        | .error _ => [] := by
  refine congrArg (List.cons _) ?_
  dsimp only
  cases read (handler task state).1 with
  | ok value => rfl
  | error failure => rfl

/-- A checkpoint asks what time it is. -/
theorem conversation_checkpoint_iff {deadline : Deadline} {talk : Talk Image Scale}
    {outcome : Except PipelineError Unit} :
    Conversation (checkpoint deadline) talk outcome ↔
      ∃ now, talk = [⟨.now, now⟩] ∧ outcome = (deadline.check now).mapError .deadline := by
  refine (@conversation_ask_iff (Work Image Scale) ..).trans (exists_congr fun now => ?_)
  constructor
  · rintro ⟨rest, rfl, further⟩
    obtain ⟨rfl, outcomeIs⟩ := conversation_done_iff.1 further
    exact ⟨rfl, outcomeIs⟩
  · rintro ⟨rfl, rfl⟩
    exact ⟨[], rfl, .done _⟩

/-- A checkpoint is passed at a time before the deadline. -/
theorem achieves_checkpoint_iff {deadline : Deadline} {talk : Talk Image Scale} {passed : Unit} :
    (checkpoint deadline).Achieves talk passed ↔
      ∃ now, talk = [⟨.now, now⟩] ∧ deadline.expired now = false := by
  refine conversation_checkpoint_iff.trans (exists_congr fun now => and_congr_right fun _ => ?_)
  unfold Deadline.check
  cases deadline.expired now with
  | false => exact ⟨fun _ => rfl, fun _ => rfl⟩
  | true => constructor <;> intro impossible <;> cases impossible

/-! ### Exchanges that let a stage go on -/

/-- Whether an answer lets a request go on: work is done, and the time is before the deadline. -/
def goesOn (deadline : Deadline) : (task : Task Image Scale) → task.Answer → Bool
  | .now, now => !deadline.expired now
  | .encode .., answer => answer.isOk
  | .premultiply _, answer => answer.isOk
  | .decode .., answer | .resize .., answer | .rotate .., answer | .flip _, answer
  | .crop .., answer | .convert .., answer | .unpremultiply .., answer | .smartCrop .., answer
  | .copy _, answer => answer.isOk

/-- Every exchange lets the request go on. -/
def Smooth (deadline : Deadline) (talk : Talk Image Scale) : Prop :=
  ∀ exchange ∈ talk, goesOn deadline exchange.1 exchange.2 = true

instance (deadline : Deadline) (talk : Talk Image Scale) : Decidable (Smooth deadline talk) :=
  inferInstanceAs (Decidable (∀ exchange ∈ talk, _))

end Stage

end Thumbnailer
