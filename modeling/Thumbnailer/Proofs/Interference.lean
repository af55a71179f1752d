/-
This file is about a worker that others interfere with while it is under way. It relies on what the
others may do to the shared state between two steps of its own, and owes something about what its
own steps do. If every worker's debts cover what the others rely on, then each comes to what it
promises, whatever order the steps are taken in. What is promised is about all that the worker says
on its way and about its result.

A worker relies on more than the state at the moment: what it has seen before may have to be so
still. That is why the bounds on one state, which are enough where nothing has to be remembered, do
not do here.
-/

import Thumbnailer.Proofs.Schedules

namespace Thumbnailer

namespace Procedure

variable {interface : Interface} {Result Next State Moment : Type}
  {handler : Moment → Handler interface State} {Rely Owed : State → State → Prop}

/-- From a state on, and as long as others only do what is relied on, each step does what is owed,
and what is said and what it comes to are as promised. -/
def Secure (handler : Moment → Handler interface State) (Rely Owed : State → State → Prop) :
    Procedure interface Result → (List (Exchange interface) → Result → Prop) → State → Prop
  | .done result, promise, _ => promise [] result
  | .ask request next, promise, state =>
    ∀ later, Rely state later → ∀ moment,
      let answered := handler moment request later
      Owed later answered.2 ∧
        Secure handler Rely Owed (next answered.1)
          (fun talk => promise (⟨request, answered.1⟩ :: talk)) answered.2

variable {procedure : Procedure interface Result}
  {promise also : List (Exchange interface) → Result → Prop} {state later : State}

/-- What others did while nothing was asked takes nothing away. -/
theorem Secure.rely (transitive : ∀ {first second third}, Rely first second → Rely second third →
    Rely first third) (secure : Secure handler Rely Owed procedure promise state)
    (moved : Rely state later) : Secure handler Rely Owed procedure promise later := by
  cases procedure with
  | done result => exact secure
  | ask request next => exact fun last further => secure last (transitive moved further)

theorem Secure.imp (secure : Secure handler Rely Owed procedure promise state)
    (weaker : ∀ talk result, promise talk result → also talk result) :
    Secure handler Rely Owed procedure also state := by
  induction procedure generalizing promise also state with
  | done result => exact weaker [] result secure
  | ask request next inductionHypothesis =>
    intro later relied moment
    obtain ⟨owed, further⟩ := secure later relied moment
    exact ⟨owed, inductionHypothesis _ further fun talk result => weaker _ result⟩

/-- What is said is a conversation. -/
theorem Secure.conversation (secure : Secure handler Rely Owed procedure promise state) :
    Secure handler Rely Owed procedure
      (fun talk result => Conversation procedure talk result ∧ promise talk result) state := by
  induction procedure generalizing promise state with
  | done result => exact ⟨.done result, secure⟩
  | ask request next inductionHypothesis =>
    intro later relied moment
    obtain ⟨owed, further⟩ := secure later relied moment
    exact ⟨owed, (inductionHypothesis _ further).imp fun talk result both => ⟨.ask both.1, both.2⟩⟩

/-- A sequence is secure if its second part is, from wherever the first part ends. -/
theorem Secure.bind {continuation : Result → Procedure interface Next}
    {last : List (Exchange interface) → Next → Prop}
    (first : Secure handler Rely Owed procedure promise state)
    (second : ∀ before result, promise before result → ∀ middle,
      Secure handler Rely Owed (continuation result) (fun after => last (before ++ after)) middle) :
    Secure handler Rely Owed (procedure.bind continuation) last state := by
  induction procedure generalizing promise last state with
  | done result => exact second [] result first state
  | ask request next inductionHypothesis =>
    intro later relied moment
    obtain ⟨owed, further⟩ := first later relied moment
    exact ⟨owed, inductionHypothesis _ further fun before result promised =>
      second (_ :: before) result promised⟩

end Procedure

namespace Pool

open Procedure

variable {interface : Interface} {Label Result State Moment : Type} [DecidableEq Label]
  {handler : Moment → Handler interface State}

/-- Where each worker's debts cover what every other one relies on, a worker that has ended has
kept its promise. -/
theorem promise_of_secure (Within : State → Prop) (Rely Owed : Label → State → State → Prop)
    (promise : Label → List (Exchange interface) → Result → Prop)
    (reflexive : ∀ label state, Within state → Rely label state state)
    (transitive : ∀ label {first second third}, Rely label first second →
      Rely label second third → Rely label first third)
    (remains : ∀ label {state after}, Owed label state after → Within after)
    (covers : ∀ {label other}, label ≠ other → ∀ {state after}, Owed label state after →
      Rely other state after)
    {pool : Pool interface Label Result State} (distinct : pool.labels.Nodup)
    (within : Within pool.shared)
    (secure : ∀ label procedure, (label, procedure) ∈ pool.workers →
      Secure handler (Rely label) (Owed label) procedure (promise label) pool.shared)
    (schedule : Schedule Moment) {label : Label} {result : Result}
    (ended : (label, .done result) ∈ (pool.run handler schedule).workers) :
    promise label (talk label (pool.trace handler schedule)) result := by
  induction schedule generalizing pool promise with
  | nil => exact secure label _ ended
  | cons turn rest inductionHypothesis =>
    rw [run_cons] at ended
    have still : (pool.turn (handler turn.2) turn.1).labels.Nodup := by
      rwa [labels_turn]
    obtain ⟨same, traced⟩ | ⟨mover, request, next, found, turned, traced⟩ :=
      turn_cases handler pool turn
    · rw [same] at ended
      rw [traced]
      exact inductionHypothesis promise distinct within secure ended
    -- The mover has one thing less to say, and what its step owes is all that the others rely on.
    obtain ⟨owed, further⟩ := secure mover _ (List.mem_of_getElem? found) pool.shared
      (reflexive mover _ within) turn.2
    rw [traced, ← List.singleton_append, talk_append]
    refine inductionHypothesis (fun other after => promise other (talk other [(mover, _)] ++ after))
      still ?_ (fun other procedure member => ?_) ended
    · rw [turned]
      exact remains mover owed
    by_cases own : other = mover
    · subst own
      have moved : (other, next (handler turn.2 request pool.shared).1) ∈
          (pool.turn (handler turn.2) turn.1).workers := by
        rw [turned]
        exact List.mem_set (List.getElem?_eq_some_iff.1 found).1 _
      obtain rfl := eq_of_mem_workers still member moved
      rw [turned]
      simp only [talk_cons_self, talk_nil, List.singleton_append]
      exact further
    · rw [turned] at member ⊢
      obtain kept | moved := List.mem_or_eq_of_mem_set member
      · simp only [talk_cons_of_ne (Ne.symm own), talk_nil, List.nil_append]
        exact (secure other procedure kept).rely (transitive other)
          (covers (Ne.symm own) owed)
      · exact absurd (congrArg Prod.fst moved) own

end Pool

end Thumbnailer
