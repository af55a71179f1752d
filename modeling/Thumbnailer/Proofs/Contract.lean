/-
This file states what a stage may rely on and what it owes. A contract tells which tasks an engine
welcomes and what its answer to a welcome task grants. A stage keeps a contract if it only asks for
welcome tasks, as long as the answers grant what the contract tells, and then succeeds with a value
that meets its goal, if it succeeds.

A stage keeps a contract if its parts do, each part starting from the goal of the part before. Under
an engine whose answers grant what the contract tells, it then only asks for welcome tasks.
-/

import Thumbnailer.Proofs.Conversation

namespace Thumbnailer

open Procedure

variable {Image Scale Value Next : Type}

/-- The tasks that are welcome, and what the answers to them grant. -/
structure Contract (Image Scale : Type) where
  welcome : Task Image Scale → Prop
  grants : (task : Task Image Scale) → task.Answer → Prop

namespace Stage

/-- Only welcome tasks are asked for, and the value that the stage succeeds with meets the goal. -/
def Keeps (contract : Contract Image Scale) (goal : Value → Prop)
    (stage : Stage Image Scale Value) : Prop :=
  match stage with
  | .done outcome => ∀ value, outcome = .ok value → goal value
  | .ask task next =>
    contract.welcome task ∧
      ∀ answer, contract.grants task answer → Keeps contract goal (next answer)

variable {contract : Contract Image Scale} {goal : Value → Prop}

theorem keeps_pure {value : Value} (meets : goal value) :
    (pure value : Stage Image Scale Value).Keeps contract goal := by
  rintro result ⟨⟩
  exact meets

/-- The second part starts from the goal of the first. -/
theorem keeps_bind {reached : Next → Prop} {begun : Stage Image Scale Next}
    {further : Next → Stage Image Scale Value} (begins : begun.Keeps contract reached)
    (ends : ∀ value, reached value → (further value).Keeps contract goal) :
    (begun >>= further).Keeps contract goal := by
  induction begun using Procedure.rec with
  | done outcome =>
    cases outcome with
    | ok value => exact ends value (begins value rfl)
    | error failure =>
      rintro value ⟨⟩
  | ask task next inductionHypothesis =>
    obtain ⟨welcome, answers⟩ := begins
    exact ⟨welcome, fun answer granted => inductionHypothesis answer (answers answer granted)⟩

theorem keeps_ite {condition : Prop} [Decidable condition] {one other : Stage Image Scale Value}
    (oneKeeps : condition → one.Keeps contract goal)
    (otherKeeps : ¬condition → other.Keeps contract goal) :
    (if condition then one else other).Keeps contract goal := by
  split
  case isTrue holds => exact oneKeeps holds
  case isFalse fails => exact otherKeeps fails

/-- The same where the first part is one of two. -/
theorem keeps_ite_bind {condition : Prop} [Decidable condition] {reached : Next → Prop}
    {one other : Stage Image Scale Next} {further : Next → Stage Image Scale Value}
    (oneKeeps : condition → one.Keeps contract reached)
    (otherKeeps : ¬condition → other.Keeps contract reached)
    (ends : ∀ value, reached value → (further value).Keeps contract goal) :
    (if condition then one >>= further else other >>= further).Keeps contract goal :=
  keeps_ite (fun holds => keeps_bind (oneKeeps holds) ends)
    fun fails => keeps_bind (otherKeeps fails) ends

theorem keeps_work {task : Task Image Scale} {read : task.Answer → Except EngineError Value}
    (welcome : contract.welcome task)
    (meets : ∀ answer value, contract.grants task answer → read answer = .ok value → goal value) :
    (work (.ask task fun answer => .done (read answer))).Keeps contract goal := by
  refine ⟨welcome, fun answer granted value succeeds => meets answer value granted ?_⟩
  cases outcome : read answer with
  | ok result =>
    rw [outcome] at succeeds
    cases succeeds
    rfl
  | error failure =>
    rw [outcome] at succeeds
    cases succeeds

theorem keeps_checkpoint {deadline : Deadline} (welcome : contract.welcome .now) :
    (checkpoint deadline).Keeps contract fun _ => True :=
  ⟨welcome, fun _ _ _ _ => trivial⟩

/-- Where each answer to a welcome task grants what the contract tells and leads from within some
bounds back into them, a stage that keeps the contract only asks for welcome tasks, and only within
the bounds. -/
theorem Keeps.transcript {State : Type} {handler : Handler (Work Image Scale) State}
    {stage : Stage Image Scale Value} {start : State} (keeps : stage.Keeps contract goal)
    (Within : State → Prop)
    (answers : ∀ task state, Within state → contract.welcome task →
      contract.grants task (handler task state).1 ∧ Within (handler task state).2)
    (within : Within start) :
    ∀ exchange ∈ transcript handler stage start, contract.welcome exchange.1 ∧
      ∃ state, Within state ∧ exchange.2 = (handler exchange.1 state).1 := by
  induction stage using Procedure.rec generalizing start with
  | done outcome => exact List.forall_mem_nil _
  | ask task next inductionHypothesis =>
    obtain ⟨welcome, further⟩ := keeps
    obtain ⟨granted, remains⟩ := answers task start within welcome
    refine List.forall_mem_cons.2 ⟨⟨welcome, start, within, rfl⟩, ?_⟩
    exact inductionHypothesis _ (further _ granted) remains

end Stage

end Thumbnailer
