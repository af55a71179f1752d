/-
This file follows a process from its start. Engines offer themselves to it, its registry is looked
at, and requests are served on engines of any kind, in any order. The process settles on the
capabilities of the first engine that can read some format and write some format. Before that it
has none, and every request fails before it is looked at. From then on its capabilities stay as
they are, every other engine that offers itself is turned away, and requests are checked against
what is settled, not against the engine that serves them.

Two reasons to turn an engine away compete once the process has settled: an engine that can read
nothing or write nothing is told so, as it was before.
-/

import Thumbnailer.Proofs.Conversation

namespace Thumbnailer

open Procedure

namespace Capabilities

/-- Some format is read, and some format is written. -/
def Serviceable (capabilities : Capabilities) : Prop :=
  (∃ format, capabilities.decodes format = true) ∧ ∃ format, capabilities.encodes format = true

/-- Why capabilities can serve no request. -/
inductive Unserviceable (capabilities : Capabilities) : StartupError → Prop
  | reads (nothing : ∀ format, capabilities.decodes format = false) :
      Unserviceable capabilities .nothingToDecode
  | writes {format : Format} (reads : capabilities.decodes format = true)
      (nothing : ∀ format, capabilities.encodes format = false) :
      Unserviceable capabilities .nothingToEncode

/-- A list of the formats that satisfy a test is empty if none does. -/
theorem isEmpty_filter_all_iff (test : Format → Bool) :
    (Format.all.filter test).isEmpty = true ↔ ∀ format, test format = false := by
  rw [List.isEmpty_iff, List.filter_eq_nil_iff]
  exact ⟨fun none format => eq_false_of_ne_true (none format (Format.mem_all format)),
    fun none format _ => ne_true_of_eq_false (none format)⟩

/-- Capabilities are usable if they are serviceable, and else it is told why they are not. -/
theorem usable_cases (capabilities : Capabilities) :
    (capabilities.Serviceable ∧ capabilities.usable = .ok capabilities) ∨
      ∃ failure, capabilities.Unserviceable failure ∧ capabilities.usable = .error failure := by
  have some_of_not {test : Format → Bool} (some : ¬∀ format, test format = false) :
      ∃ format, test format = true := by
    obtain ⟨format, holds⟩ := Classical.not_forall.1 some
    exact ⟨format, eq_true_of_ne_false holds⟩
  unfold usable decodable encodable
  split
  case isTrue nothing =>
    exact .inr ⟨_, .reads ((isEmpty_filter_all_iff _).1 nothing), rfl⟩
  case isFalse reads =>
    obtain ⟨format, reads⟩ := some_of_not (mt (isEmpty_filter_all_iff _).2 reads)
    split
    case isTrue nothing =>
      exact .inr ⟨_, .writes reads ((isEmpty_filter_all_iff _).1 nothing), rfl⟩
    case isFalse writes =>
      exact .inl ⟨⟨⟨format, reads⟩, some_of_not (mt (isEmpty_filter_all_iff _).2 writes)⟩, rfl⟩

theorem Unserviceable.not_serviceable {capabilities : Capabilities} {failure : StartupError}
    (unserviceable : capabilities.Unserviceable failure) : ¬capabilities.Serviceable := by
  rintro ⟨⟨read, reads⟩, written, writes⟩
  cases unserviceable with
  | reads nothing => exact Bool.false_ne_true ((nothing read).symm.trans reads)
  | writes _ nothing => exact Bool.false_ne_true ((nothing written).symm.trans writes)

end Capabilities

/-! ### What may happen in a process -/

/-- An engine of any kind, as it is when the process turns to it. -/
structure Appliance where
  Image : Type
  Scale : Type
  State : Type
  [picture : Picture Image]
  [scaleFactor : ScaleFactor Scale]
  capabilities : Capabilities
  handler : Handler (Work Image Scale) State
  state : State

attribute [instance] Appliance.picture Appliance.scaleFactor

namespace Appliance

/-- What work on an engine comes to, and the calls that are made for it. -/
def carry (engine : Appliance) (stage : Stage engine.Image engine.Scale Bytes) :
    Except PipelineError Bytes × List (Task engine.Image engine.Scale) :=
  let ended := run (recorded engine.handler) stage (engine.state, [])
  (ended.1, ended.2.2)

/-- The calls are those that the transcript of the work tells. -/
theorem carry_eq (engine : Appliance) (stage : Stage engine.Image engine.Scale Bytes) :
    engine.carry stage = ((run engine.handler stage engine.state).1,
      (transcript engine.handler stage engine.state).map Sigma.fst) := by
  rw [carry, run_recorded]
  rfl

end Appliance

inductive LifeStep : Type 1 where
  /-- An engine offers itself. -/
  | offer (engine : Appliance)
  /-- The registry is looked at. -/
  | look
  /-- An engine is to serve a request under what the process has settled on. -/
  | serve (engine : Appliance) (request : Request)

namespace LifeStep

abbrev Answer : LifeStep → Type
  | .offer _ => Except EngineError Capabilities
  | .look => Registry
  | .serve engine _ => Except PipelineError Bytes × List (Task engine.Image engine.Scale)

/-- The answer to a step, and what the process has settled on after it. -/
def take (registry : Registry) : (step : LifeStep) → step.Answer × Registry
  | .offer engine =>
    let settled := registry.settle engine.capabilities
    (settled.1.mapError .startup, settled.2)
  | .look => (registry, registry)
  | .serve engine request => (engine.carry (Stage.processSettled registry request), registry)

/-- A step and its answer. -/
abbrev Told : Type 1 := (step : LifeStep) × step.Answer

/-- What the process has settled on after some steps. -/
def settledAfter (registry : Registry) (steps : List LifeStep) : Registry :=
  steps.foldl (fun settled step => (step.take settled).2) registry

/-- Steps one after the other, each with its answer. -/
def history : Registry → List LifeStep → List Told
  | _, [] => []
  | registry, step :: later =>
    ⟨step, (step.take registry).1⟩ :: history (step.take registry).2 later

theorem history_cons (registry : Registry) (step : LifeStep) (later : List LifeStep) :
    history registry (step :: later) =
      ⟨step, (step.take registry).1⟩ :: history (step.take registry).2 later :=
  rfl

theorem settledAfter_cons (registry : Registry) (step : LifeStep) (later : List LifeStep) :
    settledAfter registry (step :: later) = settledAfter (step.take registry).2 later :=
  rfl

/-! ### Before and after the process settles -/

/-- An answer of a process that has settled on nothing and goes on so: an engine is turned away for
what it lacks, the registry is empty, and a request fails without a call, whatever it asks for. -/
inductive Idle : Told → Prop
  | offer {engine : Appliance} {failure : StartupError}
      (lacks : engine.capabilities.Unserviceable failure) :
      Idle ⟨.offer engine, .error (.startup failure)⟩
  | look : Idle ⟨.look, none⟩
  | serve {engine : Appliance} {request : Request} :
      Idle ⟨.serve engine request, (.error (.engine (.startup .notInitialized)), [])⟩

/-- An answer of a process that has settled: every engine is turned away, the registry shows what
is settled, and whether a request is refused depends on what is settled and not on the engine. -/
inductive Bound (settled : Capabilities) : Told → Prop
  | lacks {engine : Appliance} {failure : StartupError}
      (lacks : engine.capabilities.Unserviceable failure) :
      Bound settled ⟨.offer engine, .error (.startup failure)⟩
  | late {engine : Appliance} (serviceable : engine.capabilities.Serviceable) :
      Bound settled ⟨.offer engine, .error (.startup .alreadyInitialized)⟩
  | look : Bound settled ⟨.look, some settled⟩
  | refused {engine : Appliance} {request : Request} {refusal : PipelineError}
      (refused : request.refusal? settled = some refusal) :
      Bound settled ⟨.serve engine request, (.error refusal, [])⟩
  | served {engine : Appliance} {request : Request}
      (accepted : request.refusal? settled = none) :
      Bound settled ⟨.serve engine request, engine.carry (Stage.serve request)⟩

/-- A step of a process that has settled on nothing: nothing changes, or a serviceable engine
offers itself and the process settles on what it can do. -/
theorem take_none (step : LifeStep) :
    (Idle ⟨step, (step.take none).1⟩ ∧ (step.take none).2 = none ∧
        ∀ engine, step = .offer engine → ¬engine.capabilities.Serviceable) ∨
      ∃ engine, step = .offer engine ∧ engine.capabilities.Serviceable ∧
        (LifeStep.offer engine).take none =
          (.ok engine.capabilities, some engine.capabilities) := by
  cases step with
  | offer engine =>
    obtain ⟨serviceable, usable⟩ | ⟨failure, lacks, unusable⟩ := engine.capabilities.usable_cases
    · refine .inr ⟨engine, rfl, serviceable, ?_⟩
      simp only [take, Registry.settle, usable]
      rfl
    · refine .inl ?_
      simp only [take, Registry.settle, unusable]
      refine ⟨.offer lacks, trivial, ?_⟩
      rintro _ ⟨⟩
      exact lacks.not_serviceable
  | look => exact .inl ⟨.look, rfl, nofun⟩
  | serve engine request => exact .inl ⟨.serve, rfl, nofun⟩

/-- A step of a process that has settled changes nothing. -/
theorem take_some (settled : Capabilities) (step : LifeStep) :
    Bound settled ⟨step, (step.take (some settled)).1⟩ ∧
      (step.take (some settled)).2 = some settled := by
  cases step with
  | offer engine =>
    obtain ⟨serviceable, usable⟩ | ⟨failure, lacks, unusable⟩ := engine.capabilities.usable_cases
    · simp only [take, Registry.settle, usable]
      exact ⟨.late serviceable, trivial⟩
    · simp only [take, Registry.settle, unusable]
      exact ⟨.lacks lacks, trivial⟩
  | look => exact ⟨.look, rfl⟩
  | serve engine request =>
    refine ⟨?_, rfl⟩
    cases refusal : request.refusal? settled with
    | some reason =>
      simp only [take, Stage.processSettled, Stage.process, refusal]
      exact .refused refusal
    | none =>
      simp only [take, Stage.processSettled, Stage.process, refusal]
      exact .served refusal

/-! ### Whole histories -/

theorem history_some (settled : Capabilities) (steps : List LifeStep) :
    (∀ told ∈ history (some settled) steps, Bound settled told) ∧
      settledAfter (some settled) steps = some settled := by
  induction steps with
  | nil => exact ⟨List.forall_mem_nil _, rfl⟩
  | cons step rest inductionHypothesis =>
    obtain ⟨bound, stays⟩ := take_some settled step
    rw [history_cons, settledAfter_cons, stays]
    exact ⟨List.forall_mem_cons.2 ⟨bound, inductionHypothesis.1⟩, inductionHypothesis.2⟩

/-- A process either never meets a serviceable engine and stays idle, or settles on what the first
serviceable engine that offers itself can do: it is idle before, and bound to this afterwards. That
offer is the only one that succeeds. -/
theorem history_of_start (steps : List LifeStep) :
    ((∀ engine, .offer engine ∈ steps → ¬engine.capabilities.Serviceable) ∧
        (∀ told ∈ history none steps, Idle told) ∧ settledAfter none steps = none) ∨
      ∃ earlier engine later, steps = earlier ++ .offer engine :: later ∧
        (∀ other, .offer other ∈ earlier → ¬other.capabilities.Serviceable) ∧
        engine.capabilities.Serviceable ∧
        history none steps = history none earlier ++
          ⟨.offer engine, .ok engine.capabilities⟩ ::
            history (some engine.capabilities) later ∧
        (∀ told ∈ history none earlier, Idle told) ∧
        (∀ told ∈ history (some engine.capabilities) later, Bound engine.capabilities told) ∧
        settledAfter none steps = some engine.capabilities := by
  induction steps with
  | nil => exact .inl ⟨fun _ member => absurd member List.not_mem_nil, List.forall_mem_nil _, rfl⟩
  | cons step rest inductionHypothesis =>
    obtain ⟨idle, stays, lacks⟩ | ⟨engine, rfl, serviceable, taken⟩ := take_none step
    · rw [history_cons, settledAfter_cons, stays]
      obtain ⟨none, idleRest, unsettled⟩ |
        ⟨earlier, engine, later, rfl, none, serviceable, split, idleRest, bound, settled⟩ :=
          inductionHypothesis
      · refine .inl ⟨fun engine member => ?_, List.forall_mem_cons.2 ⟨idle, idleRest⟩, unsettled⟩
        obtain same | member := List.mem_cons.1 member
        · exact lacks engine same.symm
        · exact none engine member
      · refine .inr ⟨step :: earlier, engine, later, rfl, fun other member => ?_, serviceable, ?_,
          ?_, bound, settled⟩
        · obtain same | member := List.mem_cons.1 member
          · exact lacks other same.symm
          · exact none other member
        · rw [split, history_cons, stays]
          rfl
        · rw [history_cons, stays]
          exact List.forall_mem_cons.2 ⟨idle, idleRest⟩
    · obtain ⟨bound, settled⟩ := history_some engine.capabilities rest
      refine .inr ⟨[], engine, rest, rfl, fun _ member => absurd member List.not_mem_nil,
        serviceable, ?_, List.forall_mem_nil _, bound, ?_⟩
      · rw [history_cons, taken]
        rfl
      · rw [settledAfter_cons, taken]
        exact settled

end LifeStep

end Thumbnailer
