/-
This file states what a deadline does to a request. The run of a request whose deadline never passes
is compared with the run in which it passes during one call, whichever call that is and whatever
engine does the work.

The looks at the clock part the calls of a request into four groups: the first decode, scaling with
what belongs to it, turning and cutting with what belongs to them, and the encode. The main
statement says that the group in which the deadline passes is finished and nothing is begun after
it, unless work fails before, or only the encode was left to do.
-/

import Thumbnailer.Proofs.Groups

namespace Thumbnailer

open Procedure Stage Protocol

variable {Image Scale Value Next State : Type}

namespace Stage

/-! ### Stages that heed a deadline -/

/-- What a deadline stops a request with at an exchange. Only looks at the clock can stop it so. -/
def overdue? (deadline : Deadline) (exchange : Exchange (Work Image Scale)) :
    Option PipelineError :=
  if exchange.1.isWork then none else obstacle? deadline exchange.1 exchange.2

theorem overdue?_of_work {deadline : Deadline} {task : Task Image Scale}
    (works : task.isWork = true) (answer : task.Answer) :
    overdue? deadline ⟨task, answer⟩ = none :=
  if_pos works

/-- The stage that also ends wherever it finds that a deadline has passed. -/
def heeding (deadline : Deadline) (stage : Stage Image Scale Value) : Stage Image Scale Value :=
  match stage with
  | .done outcome => .done outcome
  | .ask task next => .ask task fun answer =>
    match overdue? deadline ⟨task, answer⟩ with
    | none => heeding deadline (next answer)
    | some error => .done (.error error)

section Laws

variable {deadline : Deadline}

theorem heeding_bind (first : Stage Image Scale Value) (further : Value → Stage Image Scale Next) :
    heeding deadline (first >>= further) =
      heeding deadline first >>= fun value => heeding deadline (further value) := by
  induction first using Procedure.rec with
  | done outcome => cases outcome <;> rfl
  | ask task next inductionHypothesis =>
    refine congrArg (@Procedure.ask (Work Image Scale) _ task) (funext fun answer => ?_)
    dsimp only
    cases overdue? deadline ⟨task, answer⟩ with
    | none => exact inductionHypothesis answer
    | some error => rfl

theorem heeding_sequence {first heeded : Stage Image Scale Value}
    {further on : Value → Stage Image Scale Next} (begins : heeding deadline first = heeded)
    (ends : ∀ value, heeding deadline (further value) = on value) :
    heeding deadline (first >>= further) = heeded >>= on := by
  rw [heeding_bind, begins, funext ends]

theorem heeding_ite {condition : Prop} [Decidable condition]
    {one other heeded otherwise : Stage Image Scale Value}
    (oneHeeds : heeding deadline one = heeded)
    (otherHeeds : heeding deadline other = otherwise) :
    heeding deadline (if condition then one else other) =
      if condition then heeded else otherwise := by
  rw [← oneHeeds, ← otherHeeds]
  split <;> rfl

theorem heeding_checkpoint {started : Instant} :
    heeding deadline (checkpoint (.never started) : Stage Image Scale Unit) =
      checkpoint deadline := by
  refine congrArg (@Procedure.ask (Work Image Scale) _ .now) (funext fun now => ?_)
  show (match failure? .deadline (deadline.check now) with
    | none => Procedure.done (Except.ok ())
    | some error => .done (.error error)) =
      .done ((deadline.check now).mapError PipelineError.deadline)
  cases deadline.check now <;> rfl

theorem heeding_work {task : Task Image Scale} {read : task.Answer → Except EngineError Value}
    (works : task.isWork = true) :
    heeding deadline (work (.ask task fun answer => .done (read answer))) =
      work (.ask task fun answer => .done (read answer)) := by
  refine congrArg (@Procedure.ask (Work Image Scale) _ task) (funext fun answer => ?_)
  dsimp only
  rw [overdue?_of_work works]
  rfl

/-- A stage that stays in one stretch does not look at the clock. -/
theorem Orderly.heeding_eq {first last : Stretch} {stage : Stage Image Scale Value}
    (orderly : stage.Orderly deadline Task.Stays first last) :
    heeding deadline stage = stage := by
  induction stage using Procedure.rec with
  | done outcome => rfl
  | ask task next inductionHypothesis =>
    obtain ⟨later, ⟨own, rfl⟩, answers⟩ := orderly
    refine congrArg (@Procedure.ask (Work Image Scale) _ task) (funext fun answer => ?_)
    have answered := answers answer
    dsimp only
    rw [overdue?_of_work (isWork_of_stretch? own)]
    cases stops : obstacle? deadline task answer with
    | none =>
      rw [stops] at answered
      exact inductionHypothesis answer answered
    | some error =>
      rw [stops] at answered
      rw [answered]
      rfl

end Laws

end Stage

/-- The request whose deadline never passes. -/
def Request.patient (request : Request) : Request :=
  { request with deadline := .never request.deadline.started }

namespace Stage

section Process

variable [Picture Image]

theorem heeding_transform (image : Image) (request : Request) (appearance : Appearance)
    (plan : Plan Scale) :
    heeding request.deadline (transform image request.patient appearance plan) =
      transform image request appearance plan := by
  have finishes : ∀ scaled : Image, heeding request.deadline (do
      let standard ← normalizeColour scaled
      checkpoint request.patient.deadline
      let finished ← orientAndCut standard appearance plan.target request.options
      checkpoint request.patient.deadline
      pure finished : Stage Image Scale Image) = (do
      let standard ← normalizeColour scaled
      checkpoint request.deadline
      let finished ← orientAndCut standard appearance plan.target request.options
      checkpoint request.deadline
      pure finished) := fun scaled =>
    heeding_sequence orderly_normalizeColour.heeding_eq fun standard =>
      heeding_sequence heeding_checkpoint fun _ =>
        heeding_sequence orderly_orientAndCut.heeding_eq fun finished =>
          heeding_sequence heeding_checkpoint fun _ => rfl
  have scales : ∀ source : Image, heeding request.deadline (scaleEvenly source plan.scale >>= _) =
      scaleEvenly source plan.scale >>= _ := fun source =>
    heeding_sequence orderly_scaleEvenly.heeding_eq finishes
  exact heeding_ite (heeding_sequence rfl finishes)
    (heeding_ite (heeding_sequence (heeding_work rfl) scales) (heeding_sequence rfl scales))

variable [ScaleFactor Scale]

theorem heeding_serve (request : Request) :
    heeding request.deadline (serve request.patient : Stage Image Scale Bytes) = serve request := by
  have encodes : ∀ finished : Image, heeding request.deadline (do
      checkpoint request.patient.deadline
      encode finished request.options.format request.quality : Stage Image Scale Bytes) = (do
      checkpoint request.deadline
      encode finished request.options.format request.quality) := fun finished =>
    heeding_sequence heeding_checkpoint fun _ => heeding_work rfl
  refine heeding_sequence (heeding_work rfl) fun image => ?_
  refine heeding_sequence heeding_checkpoint fun _ => ?_
  exact heeding_ite (heeding_sequence rfl encodes)
    (heeding_sequence (heeding_transform image request _ _) encodes)

/-- A request is served like the request whose deadline never passes, except that it heeds its
deadline. -/
theorem heeding_process (capabilities : Capabilities) (request : Request) :
    heeding request.deadline (process capabilities request.patient : Stage Image Scale Bytes) =
      process capabilities request := by
  have same : request.patient.refusal? capabilities = request.refusal? capabilities := rfl
  unfold process
  rw [same]
  cases request.refusal? capabilities with
  | some refusal => rfl
  | none => exact heeding_serve request

end Process

/-! ### Runs that heed a deadline -/

section Runs

variable {deadline : Deadline}

/-- A conversation up to the first look at the clock that finds the deadline passed. -/
def untilExpired (deadline : Deadline) : Talk Image Scale → Talk Image Scale
  | [] => []
  | exchange :: rest =>
    match overdue? deadline exchange with
    | none => exchange :: untilExpired deadline rest
    | some _ => [exchange]

/-- Such a stage does what the stage does, up to the first look that finds the deadline passed. -/
theorem transcript_heeding (engine : Handler (Work Image Scale) State)
    (stage : Stage Image Scale Value) (state : State) :
    transcript engine (heeding deadline stage) state =
      untilExpired deadline (transcript engine stage state) := by
  induction stage using Procedure.rec generalizing state with
  | done outcome => rfl
  | ask task next inductionHypothesis =>
    show ⟨task, (engine task state).1⟩ :: transcript engine
        (match overdue? deadline ⟨task, (engine task state).1⟩ with
          | none => heeding deadline (next (engine task state).1)
          | some error => .done (.error error)) (engine task state).2 =
      match overdue? deadline ⟨task, (engine task state).1⟩ with
      | none => ⟨task, (engine task state).1⟩ :: untilExpired deadline
          (transcript engine (next (engine task state).1) (engine task state).2)
      | some _ => [⟨task, (engine task state).1⟩]
    cases overdue? deadline ⟨task, (engine task state).1⟩ with
    | none => rw [inductionHypothesis]
    | some error => rfl

/-- It ends with what that look stops it with, if there is such a look. -/
theorem run_heeding (engine : Handler (Work Image Scale) State) (stage : Stage Image Scale Value)
    (state : State) :
    (run engine (heeding deadline stage) state).1 =
      match (transcript engine stage state).findSome? (overdue? deadline) with
      | none => (run engine stage state).1
      | some error => .error error := by
  induction stage using Procedure.rec generalizing state with
  | done outcome => rfl
  | ask task next inductionHypothesis =>
    show (run engine (match overdue? deadline ⟨task, (engine task state).1⟩ with
        | none => heeding deadline (next (engine task state).1)
        | some error => .done (.error error)) (engine task state).2).1 =
      match (⟨task, (engine task state).1⟩ :: transcript engine (next (engine task state).1)
          (engine task state).2).findSome? (overdue? deadline) with
      | none => (run engine (next (engine task state).1) (engine task state).2).1
      | some error => .error error
    rw [List.findSome?_cons]
    cases overdue? deadline ⟨task, (engine task state).1⟩ with
    | none => exact inductionHypothesis _ _
    | some error => rfl

theorem untilExpired_append {before after : Talk Image Scale}
    (early : ∀ exchange ∈ before, overdue? deadline exchange = none) :
    untilExpired deadline (before ++ after) = before ++ untilExpired deadline after := by
  induction before with
  | nil => rfl
  | cons exchange rest inductionHypothesis =>
    obtain ⟨first, early⟩ := List.forall_mem_cons.1 early
    show (match overdue? deadline exchange with
      | none => exchange :: untilExpired deadline (rest ++ after)
      | some _ => [exchange]) = exchange :: (rest ++ untilExpired deadline after)
    rw [first, inductionHypothesis early]

theorem untilExpired_of_none {talk : Talk Image Scale}
    (early : ∀ exchange ∈ talk, overdue? deadline exchange = none) :
    untilExpired deadline talk = talk := by
  have kept := @untilExpired_append Image Scale deadline talk [] early
  rwa [List.append_nil, show untilExpired deadline ([] : Talk Image Scale) = [] from rfl,
    List.append_nil] at kept

theorem findSome?_overdue?_append {before after : Talk Image Scale}
    (early : ∀ exchange ∈ before, overdue? deadline exchange = none) :
    (before ++ after).findSome? (overdue? deadline) = after.findSome? (overdue? deadline) := by
  rw [List.findSome?_append, List.findSome?_eq_none_iff.2 early, Option.none_or]

end Runs

/-! ### A deadline that passes during a call -/

/-- The deadline passes during the call with a number: a look at the clock finds it passed exactly
if so many calls were made before the look. The number is counted down. Nothing is looked at before
the first call returns, so that a deadline passed from the start passes during the first call. -/
def PassesDuring (deadline : Deadline) : Nat → Talk Image Scale → Prop
  | _, [] => True
  | number, ⟨.now, now⟩ :: rest =>
    (deadline.expired now = true ↔ number = 0) ∧ PassesDuring deadline number rest
  | number, _ :: rest => PassesDuring deadline (number - 1) rest

instance decidablePassesDuring (deadline : Deadline) :
    (number : Nat) → (talk : Talk Image Scale) → Decidable (PassesDuring deadline number talk)
  | _, [] => .isTrue trivial
  | number, ⟨.now, _⟩ :: rest =>
    have := decidablePassesDuring deadline number rest
    inferInstanceAs (Decidable (_ ∧ _))
  | number, ⟨.decode .., _⟩ :: rest | number, ⟨.encode .., _⟩ :: rest
  | number, ⟨.resize .., _⟩ :: rest | number, ⟨.rotate .., _⟩ :: rest
  | number, ⟨.flip _, _⟩ :: rest | number, ⟨.crop .., _⟩ :: rest
  | number, ⟨.convert .., _⟩ :: rest | number, ⟨.premultiply _, _⟩ :: rest
  | number, ⟨.unpremultiply .., _⟩ :: rest | number, ⟨.smartCrop .., _⟩ :: rest
  | number, ⟨.copy _, _⟩ :: rest => decidablePassesDuring deadline (number - 1) rest

theorem passesDuring_cons_of_work {deadline : Deadline} {number : Nat}
    {exchange : Exchange (Work Image Scale)} {rest : Talk Image Scale}
    (works : exchange.1.isWork = true) :
    PassesDuring deadline number (exchange :: rest) ↔ PassesDuring deadline (number - 1) rest := by
  obtain ⟨task, answer⟩ := exchange
  cases task with
  | now => cases works
  | _ => exact Iff.rfl

theorem overdue?_look (deadline : Deadline) (now : Instant) :
    overdue? deadline (⟨.now, now⟩ : Exchange (Work Image Scale)) =
      failure? .deadline (deadline.check now) :=
  rfl

theorem overdue?_of_expired {deadline : Deadline} {now : Instant}
    (expired : deadline.expired now = true) :
    ∃ exceeded, overdue? deadline (⟨.now, now⟩ : Exchange (Work Image Scale)) =
      some (.deadline exceeded) := by
  rw [overdue?_look]
  unfold Deadline.check
  rw [if_pos expired]
  exact ⟨_, rfl⟩

/-- Before the call with the number no look finds the deadline passed. -/
theorem PassesDuring.before {deadline : Deadline} {more : Nat} {before after : Talk Image Scale}
    (passes : PassesDuring deadline ((calls before).length + (more + 1)) (before ++ after)) :
    (∀ exchange ∈ before, overdue? deadline exchange = none) ∧
      PassesDuring deadline (more + 1) after := by
  induction before with
  | nil =>
    have none : (calls ([] : Talk Image Scale)).length = 0 := rfl
    rw [none, Nat.zero_add] at passes
    exact ⟨List.forall_mem_nil _, passes⟩
  | cons exchange rest inductionHypothesis =>
    cases works : exchange.1.isWork with
    | false =>
      rw [calls_cons_of_look works] at passes
      obtain ⟨task, now⟩ := exchange
      cases task with
      | now =>
        obtain ⟨early, passes⟩ := passes
        obtain ⟨none, passes⟩ := inductionHypothesis passes
        refine ⟨List.forall_mem_cons.2 ⟨?_, none⟩, passes⟩
        have early : deadline.expired now = false :=
          eq_false_of_ne_true fun expired => by have := early.1 expired; omega
        rw [overdue?_look]
        unfold Deadline.check
        rw [early]
        rfl
      | _ => cases works
    | true =>
      rw [calls_cons_of_work works, List.cons_append, passesDuring_cons_of_work works,
        List.length_cons] at passes
      obtain ⟨none, passes⟩ := inductionHypothesis (by
        rwa [show (calls rest).length + 1 + (more + 1) - 1 = (calls rest).length + (more + 1) by
          omega] at passes)
      exact ⟨List.forall_mem_cons.2 ⟨overdue?_of_work works _, none⟩, passes⟩

/-- After that call every look finds it passed. -/
theorem PassesDuring.expired {deadline : Deadline} {before after : Talk Image Scale} {now : Instant}
    (passes : PassesDuring deadline 0 (before ++ ⟨.now, now⟩ :: after)) :
    deadline.expired now = true := by
  induction before with
  | nil => exact passes.1.2 rfl
  | cons exchange rest inductionHypothesis =>
    refine inductionHypothesis ?_
    cases works : exchange.1.isWork with
    | false =>
      obtain ⟨task, answer⟩ := exchange
      cases task with
      | now => exact passes.2
      | _ => cases works
    | true => exact (passesDuring_cons_of_work works).1 passes

/-! ### The deadline of a request -/

/-- Where the last element stands, relative to another one. -/
theorem append_cons_eq_concat {Element : Type} {before after earlier : List Element}
    {element last : Element} (same : before ++ element :: after = earlier ++ [last]) :
    after = [] ∧ earlier = before ∨ ∃ rest, earlier = before ++ element :: rest := by
  obtain rfl | ⟨rest, final, rfl⟩ := List.eq_nil_or_concat after
  · exact .inl ⟨rfl, (List.append_inj' same rfl).1.symm⟩
  · rw [List.concat_eq_append, ← List.cons_append, ← List.append_assoc] at same
    exact .inr ⟨rest, (List.append_inj' same rfl).1.symm⟩

/-- Nothing is asked after a look at the clock that finds the deadline passed. -/
theorem Orderly.stops_at_expiry {deadline : Deadline} {first last : Stretch}
    {stage : Stage Image Scale Value} {before after : Talk Image Scale} {now : Instant}
    {outcome : Except PipelineError Value} (orderly : stage.Orderly deadline Task.Leads first last)
    (conversation : Conversation stage (before ++ ⟨.now, now⟩ :: after) outcome)
    (expired : deadline.expired now = true) : after = [] := by
  have unpassed : ∀ {talk : Talk Image Scale}, Smooth deadline talk → ⟨.now, now⟩ ∉ talk := by
    intro talk smooth member
    have passed : (!deadline.expired now) = true := smooth _ member
    rw [expired] at passed
    cases passed
  obtain ⟨smooth, -⟩ | ⟨earlier, stopping, -, split, smooth, -⟩ :=
    orderly.smooth_or_stopped conversation
  · exact absurd (by simp) (unpassed smooth)
  · obtain ⟨nothing, -⟩ | ⟨rest, rfl⟩ := append_cons_eq_concat split
    · exact nothing
    · exact absurd (by simp) (unpassed smooth)

/-- Work stops a request with an error of the engine. -/
theorem engine_of_obstacle? {deadline : Deadline} {task : Task Image Scale} {answer : task.Answer}
    {error : PipelineError} (works : task.isWork = true)
    (stops : obstacle? deadline task answer = some error) : ∃ failure, error = .engine failure := by
  have ofResult : ∀ {Answer : Type} {result : Except EngineError Answer},
      failure? .engine result = some error → ∃ failure, error = .engine failure := by
    intro Answer result stops
    cases result with
    | ok value => cases stops
    | error failure => exact ⟨failure, (Option.some.inj stops).symm⟩
  cases task with
  | now => cases works
  | _ => exact ofResult stops

/-- Without a deadline only work can stop a request. -/
theorem isWork_of_obstacle?_never {started : Instant} {task : Task Image Scale}
    {answer : task.Answer} {error : PipelineError}
    (stops : obstacle? (.never started) task answer = some error) : task.isWork = true := by
  cases task with
  | now => cases stops
  | _ => rfl

theorem Smooth.calls {deadline : Deadline} {talk : Talk Image Scale}
    (smooth : Smooth deadline talk) : Smooth deadline (calls talk) := fun exchange member =>
  smooth exchange (List.mem_filter.1 member).1

/-- What a deadline that passes during a call of an orderly stage leaves of its conversation. If the
call is the encode, everything; else the calls up to the end of its group, if these succeed; and
else everything as well, which is up to the call that failed. -/
theorem Orderly.untilExpired_cases {deadline : Deadline} {started : Instant}
    {stage : Stage Image Scale Value} {talk : Talk Image Scale}
    {outcome : Except PipelineError Value} {number : Nat}
    (orderly : stage.Orderly (.never started) Task.Leads .opening .encoded)
    (conversation : Conversation stage talk outcome) (least : 1 ≤ number)
    (most : number ≤ (calls talk).length) (passes : PassesDuring deadline number talk) :
    ∃ exchange, (calls talk)[number - 1]? = some exchange ∧
      if exchange.1.stretch? = some .encoding then
        untilExpired deadline talk = talk ∧ talk.findSome? (overdue? deadline) = none
      else if Smooth (.never started) (throughNumber number (grouped (calls talk))) then
        calls (untilExpired deadline talk) = throughNumber number (grouped (calls talk)) ∧
          ∃ exceeded, talk.findSome? (overdue? deadline) = some (.deadline exceeded)
      else
        untilExpired deadline talk = talk ∧ talk.findSome? (overdue? deadline) = none ∧
          ∃ failure, outcome = .error (.engine failure) := by
  obtain ⟨count, rfl⟩ : ∃ count, number = count + 1 := ⟨number - 1, by omega⟩
  obtain ⟨before, ⟨task, answer⟩, after, rfl, works, rfl⟩ := exists_split_call most
  obtain ⟨reached, leading, finished⟩ := orderly.leading conversation
  have during : PassesDuring deadline ((calls before).length + (0 + 1)) _ := passes
  obtain ⟨early, during⟩ := during.before
  have passed := (passesDuring_cons_of_work works).1 during
  refine ⟨⟨task, answer⟩, ?_, ?_⟩
  · rw [calls_append, calls_cons_of_work works, Nat.add_sub_cancel,
      List.getElem?_append_right (Nat.le_refl _), Nat.sub_self]
    rfl
  by_cases encodes : task.stretch? = some .encoding
  · obtain rfl := leading.encode_last encodes
    have unpassed : ∀ exchange ∈ before ++ [⟨task, answer⟩], overdue? deadline exchange = none :=
      List.forall_mem_append.2
        ⟨early, List.forall_mem_singleton.2 (overdue?_of_work works answer)⟩
    rw [if_pos encodes]
    exact ⟨untilExpired_of_none unpassed, List.findSome?_eq_none_iff.2 unpassed⟩
  obtain ⟨here, rest, rfl, inside, group, ends⟩ := leading.group works encodes
  have unpassed : ∀ exchange ∈ before ++ ⟨task, answer⟩ :: here,
      overdue? deadline exchange = none := by
    refine List.forall_mem_append.2
      ⟨early, List.forall_mem_cons.2 ⟨overdue?_of_work works answer, ?_⟩⟩
    exact fun exchange member => overdue?_of_work (inside exchange member) _
  rw [if_neg encodes, group]
  rw [← List.cons_append, ← List.append_assoc] at conversation finished ⊢
  obtain ⟨rfl, unfinished⟩ | ⟨now, beyond, rfl⟩ := ends
  · -- Nothing is left but the failure of a call in the group.
    rw [List.append_nil] at conversation finished ⊢
    obtain ⟨smooth, -⟩ | ⟨earlier, stopping, error, parted, -, stopped, fails⟩ :=
      orderly.smooth_or_stopped conversation
    · exact absurd (finished smooth) unfinished
    have stoppingWorks := isWork_of_obstacle?_never stopped
    obtain ⟨failure, rfl⟩ := engine_of_obstacle? stoppingWorks stopped
    have member : stopping ∈ calls (before ++ ⟨task, answer⟩ :: here) := by
      refine List.mem_filter.2 ⟨?_, stoppingWorks⟩
      rw [parted]
      exact List.mem_append_right _ (List.mem_singleton_self _)
    have stuck : ¬Smooth (.never started) (calls (before ++ ⟨task, answer⟩ :: here)) := by
      intro smooth
      cases (goesOn_iff.1 (smooth stopping member)).symm.trans stopped
    rw [if_neg stuck]
    exact ⟨untilExpired_of_none unpassed, List.findSome?_eq_none_iff.2 unpassed, failure, fails⟩
  · have smooth : Smooth (.never started) (before ++ ⟨task, answer⟩ :: here) := by
      obtain ⟨smooth, -⟩ | ⟨earlier, stopping, error, parted, smooth, -⟩ :=
        orderly.smooth_or_stopped conversation
      · exact (List.forall_mem_append.1 smooth).1
      · obtain ⟨-, rfl⟩ | ⟨rest, rfl⟩ := append_cons_eq_concat parted
        · exact smooth
        · exact (List.forall_mem_append.1 smooth).1
    obtain ⟨exceeded, overdue⟩ := @overdue?_of_expired Image Scale _ _ passed.expired
    rw [if_pos smooth.calls, untilExpired_append unpassed, findSome?_overdue?_append unpassed,
      List.findSome?_cons, overdue]
    refine ⟨?_, exceeded, rfl⟩
    unfold untilExpired
    rw [overdue, calls_append]
    exact List.append_nil _

section Process

variable [Picture Image] [ScaleFactor Scale]

/-- Whatever engine does the work, if the deadline passes during a call of the request as it would
go without a deadline, then the four groups of calls are all calls of that request, and the calls
that are made are these: all, with the same outcome, if the deadline passes during the encode; those
up to the end of the group in which it passes, with the deadline exceeded, if they succeed; and else
all up to the one that fails, with its error. Nothing is asked after a look at the clock that finds
the deadline passed. -/
theorem calls_process_passing (engine : Handler (Work Image Scale) State)
    (capabilities : Capabilities) (request : Request) (start : State) (number : Nat)
    (least : 1 ≤ number)
    (most : number ≤
      (calls (transcript engine (process capabilities request.patient) start)).length)
    (passes : PassesDuring request.deadline number
      (transcript engine (process capabilities request.patient) start)) :
    let plain := transcript engine (process capabilities request.patient) start
    let hurried := transcript engine (process capabilities request) start
    let outcome := (run engine (process capabilities request) start).1
    let kept := throughNumber number (grouped (calls plain))
    (grouped (calls plain)).flatten = calls plain ∧
      (∃ exchange, (calls plain)[number - 1]? = some exchange ∧
        if exchange.1.stretch? = some .encoding then
          hurried = plain ∧
            outcome = (run engine (process capabilities request.patient) start).1
        else if Smooth request.patient.deadline kept then
          calls hurried = kept ∧ ∃ exceeded, outcome = .error (.deadline exceeded)
        else
          hurried = plain ∧ (∃ failure, outcome = .error (.engine failure)) ∧
            outcome = (run engine (process capabilities request.patient) start).1) ∧
      ∀ before now after, hurried = before ++ ⟨.now, now⟩ :: after →
        request.deadline.expired now = true → after = [] := by
  intro plain hurried outcome kept
  have accepted : request.patient.refusal? capabilities = none :=
    accepted_of_asked (Nat.lt_of_lt_of_le least most)
  have patientOrderly := @orderly_serve Image Scale _ _ request.patient
  rw [← process_of_accepted accepted] at patientOrderly
  have conversation := conversation_run engine (process capabilities request.patient) start
  have cut := @transcript_heeding Image Scale _ _ request.deadline engine
    (process capabilities request.patient) start
  have settled := @run_heeding Image Scale _ _ request.deadline engine
    (process capabilities request.patient) start
  rw [heeding_process] at cut settled
  refine ⟨?_, ?_, fun before now after split expired => ?_⟩
  · obtain ⟨reached, leading, -⟩ := patientOrderly.leading conversation
    exact flatten_grouped leading
  · obtain ⟨exchange, found, left⟩ :=
      patientOrderly.untilExpired_cases conversation least most passes
    refine ⟨exchange, found, ?_⟩
    change if _ then _ else if Smooth request.patient.deadline kept then _ else _ at left
    split_ifs at left ⊢ with encodes smooth
    · rw [left.2] at settled
      exact ⟨cut.trans left.1, settled⟩
    · obtain ⟨made, exceeded, overdue⟩ := left
      rw [overdue] at settled
      exact ⟨(congrArg calls cut).trans made, exceeded, settled⟩
    · obtain ⟨whole, none, failure, fails⟩ := left
      rw [none] at settled
      exact ⟨cut.trans whole, ⟨failure, settled.trans fails⟩, settled⟩
  · have accepted : request.refusal? capabilities = none := accepted
    have orderly := @orderly_serve Image Scale _ _ request
    rw [← process_of_accepted accepted] at orderly
    have conversation : Conversation _ hurried _ :=
      conversation_run engine (process capabilities request) start
    rw [split] at conversation
    exact orderly.stops_at_expiry conversation expired

/-- An engine that takes all remaining time for one primitive, and fails at another one. -/
def stallingAt (stalling : Primitive) (failing : Option Primitive) : Rehearsal :=
  { thorough with
    stalling := some { primitive := stalling, number := none }
    failing := failing.map fun primitive => { primitive := primitive, number := none } }

theorem calls_process_passing_stalled :
    let process : Request → Stage Sketch Rat Bytes := process thorough.capabilities
    let start := Rehearsal.blank { nanoseconds := 0 }
    let plain := fun rehearsal : Rehearsal =>
      transcript rehearsal.engine (process thoroughRequest.patient) start
    let hurried := fun rehearsal : Rehearsal =>
      transcript rehearsal.engine (process thoroughRequest) start
    let outcome := fun rehearsal : Rehearsal =>
      (run rehearsal.engine (process thoroughRequest) start).1
    let scaling := stallingAt .resize none
    let dividing := stallingAt .resize (some .unpremultiply)
    let encoding := stallingAt .encode none
    (PassesDuring thoroughRequest.deadline 4 (plain scaling) ∧ (calls (plain scaling)).length = 11 ∧
      (throughNumber 4 (grouped (calls (plain scaling)))).length = 6 ∧
      calls (hurried scaling) = throughNumber 4 (grouped (calls (plain scaling))) ∧
      ∃ exceeded, outcome scaling = .error (.deadline exceeded)) ∧
    (PassesDuring thoroughRequest.deadline 4 (plain dividing) ∧
      (calls (plain dividing)).length = 5 ∧ hurried dividing = plain dividing ∧
      ∃ failure, outcome dividing = .error (.engine failure)) ∧
    PassesDuring thoroughRequest.deadline 11 (plain encoding) ∧
      (calls (plain encoding)).length = 11 ∧ hurried encoding = plain encoding := by
  intro process start plain hurried outcome scaling dividing encoding
  have passes := fun (rehearsal : Rehearsal) (number : Nat) =>
    calls_process_passing (rehearsal.engine : Handler (Work Sketch Rat) _) thorough.capabilities
      thoroughRequest start number
  have stretchOf : ∀ {rehearsal : Rehearsal} {number : Nat} {exchange : Exchange (Work Sketch Rat)},
      (calls (plain rehearsal))[number]? = some exchange → exchange.1.stretch? =
        (calls (plain rehearsal))[number]?.bind fun exchange => exchange.1.stretch? := by
    intro rehearsal number exchange found
    rw [found]
    rfl
  refine ⟨⟨by decide +kernel, by decide +kernel, by decide +kernel, ?_⟩,
    ⟨by decide +kernel, by decide +kernel, ?_⟩, by decide +kernel, by decide +kernel, ?_⟩
  · obtain ⟨-, ⟨exchange, found, left⟩, -⟩ :=
      passes scaling 4 (by decide) (by decide +kernel) (by decide +kernel)
    have stretch : exchange.1.stretch? = some .scaling :=
      (stretchOf found).trans (by decide +kernel)
    rw [stretch, if_neg (by decide), if_pos (by decide +kernel)] at left
    exact left
  · obtain ⟨-, ⟨exchange, found, left⟩, -⟩ :=
      passes dividing 4 (by decide) (by decide +kernel) (by decide +kernel)
    have stretch : exchange.1.stretch? = some .scaling :=
      (stretchOf found).trans (by decide +kernel)
    rw [stretch, if_neg (by decide), if_neg (by decide +kernel)] at left
    exact ⟨left.1, left.2.1⟩
  · obtain ⟨-, ⟨exchange, found, left⟩, -⟩ :=
      passes encoding 11 (by decide) (by decide +kernel) (by decide +kernel)
    have stretch : exchange.1.stretch? = some .encoding :=
      (stretchOf found).trans (by decide +kernel)
    rw [stretch, if_pos rfl] at left
    exact left.1

end Process

end Stage

end Thumbnailer
