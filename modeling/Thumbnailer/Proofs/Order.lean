/-
This file divides a request into stretches: the first decode, scaling with what belongs to it,
turning with what belongs to it, and the encode, with looks at the clock in between. A stage is
orderly if it asks for work of the current stretch only, goes on to later stretches only by a look
at the clock, and ends at the first answer that does not let it go on, with the error of that
answer.

The main statement is that a request is orderly from its first decode to its encode. What a failure
and what a deadline do to a request follows from it, whatever engine does the work.
-/

import Thumbnailer.Proofs.Conversation

namespace Thumbnailer

open Procedure

variable {Image Scale Value Next : Type}

/-! ### Stretches -/

/-- Where a request is. In a stretch named for what is over nothing is asked but the time. -/
inductive Stretch where
  | opening
  | opened
  | scaling
  | finishing
  | finished
  | encoding
  | encoded
  deriving DecidableEq

/-- Stretches are numbered in their order. -/
def Stretch.number : Stretch → Nat
  | .opening => 0
  | .opened => 1
  | .scaling => 2
  | .finishing => 3
  | .finished => 4
  | .encoding => 5
  | .encoded => 6

theorem Stretch.number_le_encoded (stretch : Stretch) : stretch.number ≤ encoded.number := by
  cases stretch <;> decide

namespace Task

/-- The stretch that work belongs to. The first decode of a request is the exception. -/
def stretch? : Task Image Scale → Option Stretch
  | .now => none
  | .decode .. | .resize .. | .convert .. | .premultiply _ | .unpremultiply .. => some .scaling
  | .rotate .. | .flip _ | .crop .. | .smartCrop .. | .copy _ => some .finishing
  | .encode .. => some .encoding

/-- The task is work of the current stretch, and does not leave it. -/
def Stays (task : Task Image Scale) (current next : Stretch) : Prop :=
  task.stretch? = some current ∧ next = current

/-- How a task leads on in a request. -/
inductive Leads : Task Image Scale → Stretch → Stretch → Prop
  | opens (data : Bytes) (format : Format) (shrink : UInt32) :
      Leads (.decode data format shrink) .opening .opened
  | stays {task : Task Image Scale} {current : Stretch} (own : task.stretch? = some current)
      (further : current ≠ .encoding) : Leads task current current
  | looks {current later : Stretch} (begun : current ≠ .opening)
      (on : current.number < later.number) : Leads .now current later
  | closes (image : Image) (format : Format) (quality : Quality) :
      Leads (.encode image format quality) .encoding .encoded

end Task

namespace Stage

/-! ### Answers that stop a request -/

/-- What a result stops a request with, if it is a failure. -/
def failure? {Failure Answer : Type} (wrap : Failure → PipelineError) :
    Except Failure Answer → Option PipelineError
  | .ok _ => none
  | .error failure => some (wrap failure)

/-- What an answer stops a request with, if it does not let it go on. -/
def obstacle? (deadline : Deadline) :
    (task : Task Image Scale) → task.Answer → Option PipelineError
  | .now, now => failure? .deadline (deadline.check now)
  | .encode .., answer => failure? .engine answer
  | .premultiply _, answer => failure? .engine answer
  | .decode .., answer | .resize .., answer | .rotate .., answer | .flip _, answer
  | .crop .., answer | .convert .., answer | .unpremultiply .., answer | .smartCrop .., answer
  | .copy _, answer => failure? .engine answer

theorem goesOn_iff {deadline : Deadline} {task : Task Image Scale} {answer : task.Answer} :
    goesOn deadline task answer = true ↔ obstacle? deadline task answer = none := by
  have ofResult : ∀ {Failure Answer : Type} {wrap : Failure → PipelineError}
      (result : Except Failure Answer), result.isOk = true ↔ failure? wrap result = none := by
    intro Failure Answer wrap result
    cases result with
    | ok value => exact ⟨fun _ => rfl, fun _ => rfl⟩
    | error failure => constructor <;> intro impossible <;> cases impossible
  cases task with
  | now =>
    show (!deadline.expired answer) = true ↔ failure? .deadline (deadline.check answer) = none
    unfold Deadline.check
    cases deadline.expired answer with
    | false => exact ⟨fun _ => rfl, fun _ => rfl⟩
    | true => constructor <;> intro impossible <;> cases impossible
  | _ => exact ofResult answer

theorem failure?_eq_some_iff {Answer : Type} {answer : Except EngineError Answer}
    {failure : EngineError} :
    failure? .engine answer = some (.engine failure) ↔ answer = .error failure := by
  cases answer with
  | ok value => constructor <;> intro impossible <;> cases impossible
  | error other =>
    constructor
    · rintro ⟨⟩
      rfl
    · rintro ⟨⟩
      rfl

/-- A look at the clock never stops a request with an error of the engine. -/
theorem obstacle?_now_ne_engine {deadline : Deadline} {now : Instant} {failure : EngineError} :
    obstacle? deadline (.now : Task Image Scale) now ≠ some (.engine failure) := by
  show failure? .deadline (deadline.check now) ≠ _
  cases deadline.check now with
  | ok passed => exact nofun
  | error exceeded => exact nofun

/-! ### Orderly stages -/

/-- Each task leads on as told; an answer that does not let the request go on ends it with the error
of that answer; and otherwise the stage succeeds, having led from the first stretch to the last. -/
def Orderly (deadline : Deadline) (leads : Task Image Scale → Stretch → Stretch → Prop)
    (first last : Stretch) (stage : Stage Image Scale Value) : Prop :=
  match stage with
  | .done outcome => first = last ∧ ∃ value, outcome = .ok value
  | .ask task next => ∃ later, leads task first later ∧ ∀ answer,
    match obstacle? deadline task answer with
    | none => Orderly deadline leads later last (next answer)
    | some error => next answer = .done (.error error)

section Laws

variable {deadline : Deadline} {leads : Task Image Scale → Stretch → Stretch → Prop}
  {first middle last stretch : Stretch}

theorem orderly_pure {value : Value} :
    (pure value : Stage Image Scale Value).Orderly deadline leads stretch stretch :=
  ⟨rfl, value, rfl⟩

theorem orderly_bind {begun : Stage Image Scale Value} {further : Value → Stage Image Scale Next}
    (begins : begun.Orderly deadline leads first middle)
    (ends : ∀ value, (further value).Orderly deadline leads middle last) :
    (begun >>= further).Orderly deadline leads first last := by
  induction begun using Procedure.rec generalizing first with
  | done outcome =>
    obtain ⟨rfl, value, rfl⟩ := begins
    exact ends value
  | ask task next inductionHypothesis =>
    obtain ⟨later, on, answers⟩ := begins
    refine ⟨later, on, fun answer => ?_⟩
    have answered := answers answer
    cases stops : obstacle? deadline task answer with
    | none =>
      rw [stops] at answered
      exact inductionHypothesis answer answered
    | some error =>
      rw [stops] at answered
      show Procedure.bind (next answer) _ = _
      rw [answered]
      rfl

theorem orderly_ite {condition : Prop} [Decidable condition]
    {one other : Stage Image Scale Value} (oneOrderly : one.Orderly deadline leads first last)
    (otherOrderly : other.Orderly deadline leads first last) :
    (if condition then one else other).Orderly deadline leads first last := by
  split
  · exact oneOrderly
  · exact otherOrderly

theorem orderly_work {task : Task Image Scale} {read : task.Answer → Except EngineError Value}
    (on : leads task first last)
    (settled : ∀ answer, obstacle? deadline task answer = failure? .engine (read answer)) :
    (work (.ask task fun answer => .done (read answer))).Orderly deadline leads first last := by
  refine ⟨last, on, fun answer => ?_⟩
  rw [settled]
  show match failure? .engine (read answer) with
    | none => Orderly deadline leads last last (.done ((read answer).mapError .engine))
    | some error => Procedure.done ((read answer).mapError .engine) = .done (.error error)
  cases read answer with
  | ok value => exact ⟨rfl, value, rfl⟩
  | error failure => rfl

theorem orderly_checkpoint {current later : Stretch} (begun : current ≠ .opening)
    (on : current.number < later.number) :
    (checkpoint deadline : Stage Image Scale Unit).Orderly deadline Task.Leads current later := by
  refine ⟨later, .looks begun on, fun now => ?_⟩
  show match failure? .deadline (deadline.check now) with
    | none =>
      Orderly deadline Task.Leads later later (.done ((deadline.check now).mapError .deadline))
    | some error =>
      Procedure.done ((deadline.check now).mapError PipelineError.deadline) = .done (.error error)
  cases deadline.check now with
  | ok passed => exact ⟨rfl, passed, rfl⟩
  | error exceeded => rfl

/-- A conversation of an orderly stage is smooth and ends in success, or its last answer is the only
one that does not let it go on, and it ends with the error of that answer. -/
theorem Orderly.smooth_or_stopped {stage : Stage Image Scale Value} {talk : Talk Image Scale}
    {outcome : Except PipelineError Value} (orderly : stage.Orderly deadline leads first last)
    (conversation : Conversation stage talk outcome) :
    (Smooth deadline talk ∧ ∃ value, outcome = .ok value) ∨
      ∃ before exchange error, talk = before ++ [exchange] ∧ Smooth deadline before ∧
        obstacle? deadline exchange.1 exchange.2 = some error ∧ outcome = .error error := by
  induction conversation generalizing first with
  | done result => exact .inl ⟨List.forall_mem_nil _, orderly.2⟩
  | @ask task next answer rest result further inductionHypothesis =>
    obtain ⟨later, on, answers⟩ := orderly
    have answered := answers answer
    cases stops : obstacle? deadline task answer with
    | some error =>
      rw [stops] at answered
      rw [answered] at further
      obtain ⟨rfl, rfl⟩ := conversation_done_iff.1 further
      exact .inr ⟨[], _, error, rfl, List.forall_mem_nil _, stops, rfl⟩
    | none =>
      rw [stops] at answered
      have goes := goesOn_iff.2 stops
      obtain ⟨smooth, succeeds⟩ | ⟨before, exchange, error, rfl, smooth, stopped, fails⟩ :=
        inductionHypothesis answered
      · exact .inl ⟨List.forall_mem_cons.2 ⟨goes, smooth⟩, succeeds⟩
      · exact .inr ⟨_ :: before, exchange, error, rfl, List.forall_mem_cons.2 ⟨goes, smooth⟩,
          stopped, fails⟩

/-- An orderly stage succeeds if every answer lets it go on. -/
theorem Orderly.succeeds {stage : Stage Image Scale Value} {talk : Talk Image Scale}
    {outcome : Except PipelineError Value} (orderly : stage.Orderly deadline leads first last)
    (conversation : Conversation stage talk outcome) (smooth : Smooth deadline talk) :
    ∃ value, outcome = .ok value := by
  obtain ⟨-, succeeds⟩ | ⟨before, exchange, error, rfl, -, stopped, -⟩ :=
    orderly.smooth_or_stopped conversation
  · exact succeeds
  · cases (goesOn_iff.1 (smooth exchange (by simp))).symm.trans stopped

end Laws

/-- A stage that stays in one stretch leads through it in any request. -/
theorem Orderly.inRequest {deadline : Deadline} {first last : Stretch}
    {stage : Stage Image Scale Value} (orderly : stage.Orderly deadline Task.Stays first last)
    (further : first ≠ .encoding) : stage.Orderly deadline Task.Leads first last := by
  induction stage using Procedure.rec with
  | done outcome => exact orderly
  | ask task next inductionHypothesis =>
    obtain ⟨later, ⟨own, rfl⟩, answers⟩ := orderly
    refine ⟨later, .stays own further, fun answer => ?_⟩
    have answered := answers answer
    cases stops : obstacle? deadline task answer with
    | none =>
      rw [stops] at answered
      exact inductionHypothesis answer answered
    | some error =>
      rw [stops] at answered
      exact answered

/-! ### Conversations of orderly stages -/

/-- The exchanges lead through a request, from one stretch to another. -/
inductive Leading : Stretch → Stretch → Talk Image Scale → Prop
  | rests {stretch : Stretch} : Leading stretch stretch []
  | asks {task : Task Image Scale} {first middle last : Stretch} {answer : task.Answer}
      {rest : Talk Image Scale} (on : task.Leads first middle) (goes : Leading middle last rest) :
      Leading first last (⟨task, answer⟩ :: rest)

/-- A conversation of an orderly stage leads through the request, and to the last stretch of the
stage if every answer lets it go on. -/
theorem Orderly.leading {deadline : Deadline} {first last : Stretch}
    {stage : Stage Image Scale Value} {talk : Talk Image Scale}
    {outcome : Except PipelineError Value} (orderly : stage.Orderly deadline Task.Leads first last)
    (conversation : Conversation stage talk outcome) :
    ∃ reached, Leading first reached talk ∧ (Smooth deadline talk → reached = last) := by
  induction conversation generalizing first with
  | done result => exact ⟨first, .rests, fun _ => orderly.1⟩
  | @ask task next answer rest result further inductionHypothesis =>
    obtain ⟨later, on, answers⟩ := orderly
    have answered := answers answer
    cases stops : obstacle? deadline task answer with
    | none =>
      rw [stops] at answered
      obtain ⟨reached, goes, ends⟩ := inductionHypothesis answered
      exact ⟨reached, .asks on goes, fun smooth => ends (List.forall_mem_cons.1 smooth).2⟩
    | some error =>
      rw [stops] at answered
      rw [answered] at further
      obtain ⟨rfl, -⟩ := conversation_done_iff.1 further
      refine ⟨later, .asks on .rests, fun smooth => ?_⟩
      cases (goesOn_iff.1 (List.forall_mem_cons.1 smooth).1).symm.trans stops

theorem Leading.split {first last : Stretch} {before after : Talk Image Scale}
    (leading : Leading first last (before ++ after)) :
    ∃ middle, Leading first middle before ∧ Leading middle last after := by
  induction before generalizing first with
  | nil => exact ⟨first, .rests, leading⟩
  | cons exchange rest inductionHypothesis =>
    cases leading with
    | asks on goes =>
      obtain ⟨middle, begun, ended⟩ := inductionHypothesis goes
      exact ⟨middle, .asks on begun, ended⟩

/-- Nothing is asked once the picture is encoded. -/
theorem Leading.nothing {last : Stretch} {talk : Talk Image Scale}
    (leading : Leading .encoded last talk) : talk = [] := by
  cases leading with
  | rests => rfl
  | @asks task _ _ _ _ _ on _ =>
    cases on with
    | stays own => cases task <;> cases own
    | looks _ on => exact absurd on (Nat.not_lt_of_le (Stretch.number_le_encoded _))

/-- The picture is encoded last. -/
theorem Leading.encode_last {first last : Stretch} {before after : Talk Image Scale}
    {task : Task Image Scale} {answer : task.Answer}
    (leading : Leading first last (before ++ ⟨task, answer⟩ :: after))
    (encodes : task.stretch? = some .encoding) : after = [] := by
  obtain ⟨middle, -, ended⟩ := leading.split
  cases ended with
  | asks on goes =>
    cases on with
    | opens => cases encodes
    | stays own further => exact absurd (Option.some.inj (own.symm.trans encodes)) further
    | looks => cases encodes
    | closes => exact goes.nothing

/-! ### The stages of a request -/

section Stages

variable {deadline : Deadline} [Picture Image]

theorem orderly_scaleEvenly {image : Image} {scale : Scale} :
    (scaleEvenly image scale).Orderly deadline Task.Stays .scaling .scaling := by
  have resizes : ∀ image : Image,
      (resize image scale).Orderly deadline Task.Stays .scaling .scaling := fun _ =>
    orderly_work ⟨rfl, rfl⟩ fun _ => rfl
  refine orderly_ite (orderly_bind (orderly_work ⟨rfl, rfl⟩ fun _ => rfl) fun multiplied => ?_)
    (resizes image)
  exact orderly_bind (resizes _) fun scaled => orderly_work ⟨rfl, rfl⟩ fun _ => rfl

theorem orderly_normalizeColour {image : Image} :
    (normalizeColour image : Stage Image Scale Image).Orderly deadline Task.Stays .scaling
      .scaling :=
  orderly_ite orderly_pure (orderly_work ⟨rfl, rfl⟩ fun _ => rfl)

omit [Picture Image] in
theorem orderly_orient {image : Image} {appearance : Appearance} :
    (orient image appearance : Stage Image Scale Image).Orderly deadline Task.Stays .finishing
      .finishing := by
  have mirrors : ∀ turned : Image, (if appearance.mirrored then flip turned else pure turned :
      Stage Image Scale Image).Orderly deadline Task.Stays .finishing .finishing := fun turned =>
    orderly_ite (orderly_work ⟨rfl, rfl⟩ fun _ => rfl) orderly_pure
  refine orderly_bind (orderly_work ⟨rfl, rfl⟩ fun _ => rfl) fun owned => ?_
  exact orderly_ite (orderly_bind orderly_pure mirrors)
    (orderly_bind (orderly_work ⟨rfl, rfl⟩ fun _ => rfl) mirrors)

theorem orderly_cut {image : Image} {owned : Bool} {target : Size} {gravity : Gravity} :
    (cut image owned target gravity : Stage Image Scale Image).Orderly deadline Task.Stays
      .finishing .finishing := by
  have copies : ∀ {cuts : Image → Stage Image Scale Image},
      (∀ exclusive, (cuts exclusive).Orderly deadline Task.Stays .finishing .finishing) →
        (if owned then pure image >>= cuts else copy image >>= cuts).Orderly deadline Task.Stays
          .finishing .finishing :=
    fun orderly => orderly_ite (orderly_bind orderly_pure orderly)
      (orderly_bind (orderly_work ⟨rfl, rfl⟩ fun _ => rfl) orderly)
  refine orderly_ite (copies fun exclusive => ?_)
    (orderly_ite orderly_pure (copies fun exclusive => ?_))
  all_goals exact orderly_work ⟨rfl, rfl⟩ fun _ => rfl

theorem orderly_orientAndCut {image : Image} {appearance : Appearance} {target : Size}
    {options : Options} : (orientAndCut image appearance target options :
      Stage Image Scale Image).Orderly deadline Task.Stays .finishing .finishing := by
  have cuts : ∀ oriented : Image, (if options.resize = .fit then pure oriented
      else cut oriented appearance.needsOrientation target options.gravity :
        Stage Image Scale Image).Orderly deadline Task.Stays .finishing .finishing :=
    fun oriented => orderly_ite orderly_pure orderly_cut
  exact orderly_ite (orderly_bind orderly_orient cuts) (orderly_bind orderly_pure cuts)

theorem orderly_transform {image : Image} {request : Request} {appearance : Appearance}
    {plan : Plan Scale} : (transform image request appearance plan).Orderly request.deadline
      Task.Leads .scaling .finished := by
  have scalingEnds : Stretch.scaling.number < Stretch.finishing.number := by decide
  have finishingEnds : Stretch.finishing.number < Stretch.finished.number := by decide
  have finishes : ∀ scaled : Image, (do
      let standard ← normalizeColour scaled
      checkpoint request.deadline
      let finished ← orientAndCut standard appearance plan.target request.options
      checkpoint request.deadline
      pure finished : Stage Image Scale Image).Orderly request.deadline Task.Leads .scaling
        .finished := fun scaled =>
    orderly_bind (orderly_normalizeColour.inRequest (by decide)) fun standard =>
      orderly_bind (orderly_checkpoint (by decide) scalingEnds) fun _ =>
        orderly_bind (orderly_orientAndCut.inRequest (by decide)) fun finished =>
          orderly_bind (orderly_checkpoint (by decide) finishingEnds) fun _ => orderly_pure
  have scales : ∀ source : Image, (scaleEvenly source plan.scale >>= _).Orderly request.deadline
      Task.Leads .scaling .finished := fun source =>
    orderly_bind (orderly_scaleEvenly.inRequest (by decide)) finishes
  exact orderly_ite (orderly_bind orderly_pure finishes)
    (orderly_ite (orderly_bind (orderly_work (.stays rfl (by decide)) fun _ => rfl) scales)
      (orderly_bind orderly_pure scales))

variable [ScaleFactor Scale]

/-- A request leads through all stretches in their order. -/
theorem orderly_serve {request : Request} : (serve request :
    Stage Image Scale Bytes).Orderly request.deadline Task.Leads .opening .encoded := by
  have encodes : ∀ {reached : Stretch} (finished : Image),
      reached ≠ .opening → reached.number < Stretch.encoding.number → (do
        checkpoint request.deadline
        encode finished request.options.format request.quality :
          Stage Image Scale Bytes).Orderly request.deadline Task.Leads reached .encoded :=
    fun finished begun before => orderly_bind (orderly_checkpoint begun before) fun _ =>
      orderly_work (.closes ..) fun _ => rfl
  have openingEnds : Stretch.opened.number < Stretch.scaling.number := by decide
  refine orderly_bind (orderly_work (.opens ..) fun _ => rfl) fun image => ?_
  refine orderly_bind (orderly_checkpoint (by decide) openingEnds) fun _ => ?_
  exact orderly_ite
    (orderly_bind orderly_pure fun finished => encodes finished (by decide) (by decide))
    (orderly_bind orderly_transform fun finished => encodes finished (by decide) (by decide))

end Stages

end Stage

end Thumbnailer
