/-
This file takes the steps of several procedures in any order. A pool holds the procedures that are
under way over one state that all of them share; a turn carries out the next request of one of
them, and nobody sees a request half done.

Two arguments about pools are made here once. If every request of a procedure leads from within
some bounds back into them, and its result is as promised as long as the bounds hold, then its
result is as promised however its requests are mixed with those of others that keep the bounds as
well. And a procedure that ends within a number of requests, whatever is answered, has ended once
it had as many turns.
-/

import Thumbnailer.Procedure

namespace Thumbnailer

namespace Procedure

variable {interface : Interface} {Result Next State : Type}

/-! ### One procedure among others -/

/-- Each request leads from any state within the bounds to a state within them, and to a procedure
of which the same holds; what the procedure ends with is as promised. Between two requests the
state may have been moved anywhere within the bounds. -/
def Guarded (handler : Handler interface State) (Within : State → Prop)
    (Promise : Result → Prop) : Procedure interface Result → Prop
  | .done result => Promise result
  | .ask request next =>
    ∀ state, Within state →
      Within (handler request state).2 ∧
        Guarded handler Within Promise (next (handler request state).1)

/-- The procedure ends after at most so many requests, whatever is answered. -/
def EndsWithin : Procedure interface Result → Nat → Prop
  | .done _, _ => True
  | .ask _ _, 0 => False
  | .ask _ next, count + 1 => ∀ answer, EndsWithin (next answer) count

variable {handler : Handler interface State} {Within : State → Prop} {Promise : Result → Prop}
  {Further : Next → Prop}

theorem Guarded.bind {procedure : Procedure interface Result}
    {continuation : Result → Procedure interface Next}
    (first : Guarded handler Within Promise procedure)
    (second : ∀ result, Promise result → Guarded handler Within Further (continuation result)) :
    Guarded handler Within Further (procedure.bind continuation) := by
  induction procedure with
  | done result => exact second result first
  | ask request next inductionHypothesis =>
    intro state within
    obtain ⟨kept, rest⟩ := first state within
    exact ⟨kept, inductionHypothesis _ rest⟩

/-- A procedure that has the state to itself keeps the bounds as well, and ends as promised. -/
theorem Guarded.run {procedure : Procedure interface Result} {state : State}
    (guarded : Guarded handler Within Promise procedure) (within : Within state) :
    Promise (run handler procedure state).1 ∧ Within (run handler procedure state).2 := by
  induction procedure generalizing state with
  | done result => exact ⟨guarded, within⟩
  | ask request next inductionHypothesis =>
    obtain ⟨kept, rest⟩ := guarded state within
    exact inductionHypothesis _ rest kept

theorem EndsWithin.mono {few many : Nat} {procedure : Procedure interface Result}
    (ends : procedure.EndsWithin few) (more : few ≤ many) : procedure.EndsWithin many := by
  induction procedure generalizing few many with
  | done result => trivial
  | ask request next inductionHypothesis =>
    cases few with
    | zero => exact absurd ends id
    | succ few =>
      obtain ⟨less, rfl⟩ : ∃ less, many = less + 1 := ⟨many - 1, by omega⟩
      exact fun answer => inductionHypothesis answer (ends answer) (by omega)

theorem EndsWithin.bind {first second : Nat} {procedure : Procedure interface Result}
    {continuation : Result → Procedure interface Next} (ends : procedure.EndsWithin first)
    (further : ∀ result, (continuation result).EndsWithin second) :
    (procedure.bind continuation).EndsWithin (first + second) := by
  induction procedure generalizing first with
  | done result => exact (further result).mono (Nat.le_add_left _ _)
  | ask request next inductionHypothesis =>
    cases first with
    | zero => exact absurd ends id
    | succ first =>
      rw [Nat.add_right_comm]
      exact fun answer => inductionHypothesis answer (ends answer)

end Procedure

/-! ### Pools -/

/-- Procedures under way, each with a label that tells what it is for, over one shared state. -/
structure Pool (interface : Interface) (Label Result State : Type) where
  workers : List (Label × Procedure interface Result)
  shared : State

namespace Pool

open Procedure

variable {interface : Interface} {Label Result State : Type}

/-- One more worker. -/
def join (pool : Pool interface Label Result State) (label : Label)
    (procedure : Procedure interface Result) : Pool interface Label Result State :=
  { pool with workers := pool.workers ++ [(label, procedure)] }

/-- A worker takes its next step. One that has ended, or a number that no worker has, does
nothing. -/
def turn (handler : Handler interface State) (pool : Pool interface Label Result State)
    (number : Nat) : Pool interface Label Result State :=
  match pool.workers[number]? with
  | some (label, .ask request next) =>
    let answered := handler request pool.shared
    { workers := pool.workers.set number (label, next answered.1), shared := answered.2 }
  | _ => pool

/-- A request from outside, whose answer nobody waits for. -/
def aside (handler : Handler interface State) (pool : Pool interface Label Result State)
    (request : interface.Request) : Pool interface Label Result State :=
  { pool with shared := (handler request pool.shared).2 }

/-- The shared state is within bounds, and every worker is guarded within them. -/
structure Sound (handler : Handler interface State) (Within : State → Prop)
    (Promise : Label → Result → Prop) (pool : Pool interface Label Result State) : Prop where
  within : Within pool.shared
  guarded : ∀ worker ∈ pool.workers, Guarded handler Within (Promise worker.1) worker.2

/-- A worker has a label, and ends within so many more requests. -/
def Nearing (pool : Pool interface Label Result State) (number : Nat) (label : Label)
    (count : Nat) : Prop :=
  ∃ procedure, pool.workers[number]? = some (label, procedure) ∧ procedure.EndsWithin count

variable {handler : Handler interface State} {Within : State → Prop}
  {Promise : Label → Result → Prop} {pool : Pool interface Label Result State}

/-- Turns change no worker's place. -/
@[simp]
theorem length_turn (handler : Handler interface State)
    (pool : Pool interface Label Result State) (number : Nat) :
    (pool.turn handler number).workers.length = pool.workers.length := by
  unfold turn
  split
  · exact List.length_set
  · rfl

/-! ### Soundness of each step -/

theorem Sound.join (sound : pool.Sound handler Within Promise) {label : Label}
    {procedure : Procedure interface Result}
    (guarded : Guarded handler Within (Promise label) procedure) :
    (pool.join label procedure).Sound handler Within Promise := by
  refine ⟨sound.within, fun worker member => ?_⟩
  rcases List.mem_append.1 member with earlier | last
  · exact sound.guarded worker earlier
  · rw [List.mem_singleton.1 last]
    exact guarded

theorem Sound.turn (sound : pool.Sound handler Within Promise) (number : Nat) :
    (pool.turn handler number).Sound handler Within Promise := by
  unfold Pool.turn
  split
  · rename_i label request next found
    have guarded := sound.guarded _ (List.mem_of_getElem? found)
    obtain ⟨kept, rest⟩ := guarded pool.shared sound.within
    refine ⟨kept, fun worker member => ?_⟩
    rcases List.mem_or_eq_of_mem_set member with other | moved
    · exact sound.guarded worker other
    · rw [moved]
      exact rest
  · exact sound

theorem Sound.aside (sound : pool.Sound handler Within Promise) {request : interface.Request}
    (kept : ∀ state, Within state → Within (handler request state).2) :
    (pool.aside handler request).Sound handler Within Promise :=
  ⟨kept _ sound.within, sound.guarded⟩

/-- What a worker of a sound pool has ended with is as promised. -/
theorem Sound.promise (sound : pool.Sound handler Within Promise) {number : Nat} {label : Label}
    {result : Result} (ended : pool.workers[number]? = some (label, .done result)) :
    Promise label result :=
  sound.guarded _ (List.mem_of_getElem? ended)

/-! ### Progress of each step -/

theorem nearing_join (pool : Pool interface Label Result State) (label : Label)
    {procedure : Procedure interface Result} {count : Nat} (ends : procedure.EndsWithin count) :
    (pool.join label procedure).Nearing pool.workers.length label count :=
  ⟨procedure, by simp [join], ends⟩

theorem Nearing.join {number count : Nat} {label other : Label}
    {procedure : Procedure interface Result} (nearing : pool.Nearing number label count) :
    (pool.join other procedure).Nearing number label count := by
  obtain ⟨current, found, ends⟩ := nearing
  refine ⟨current, ?_, ends⟩
  rw [Pool.join, List.getElem?_append_left (List.getElem?_eq_some_iff.1 found).1]
  exact found

theorem Nearing.aside {number count : Nat} {label : Label} {request : interface.Request}
    (nearing : pool.Nearing number label count) :
    (pool.aside handler request).Nearing number label count :=
  nearing

/-- The turn of another worker takes nothing away. -/
theorem Nearing.turn_other {number other count : Nat} {label : Label} (distinct : other ≠ number)
    (nearing : pool.Nearing number label count) :
    (pool.turn handler other).Nearing number label count := by
  obtain ⟨current, found, ends⟩ := nearing
  refine ⟨current, ?_, ends⟩
  unfold Pool.turn
  split
  · rw [List.getElem?_set_ne distinct]
    exact found
  · exact found

/-- A turn of its own brings a worker nearer to its end. -/
theorem Nearing.turn_self (handler : Handler interface State) {number count : Nat} {label : Label}
    (nearing : pool.Nearing number label count) :
    (pool.turn handler number).Nearing number label (count - 1) := by
  obtain ⟨current, found, ends⟩ := nearing
  have inside := (List.getElem?_eq_some_iff.1 found).1
  cases current with
  | done result =>
    refine ⟨.done result, ?_, trivial⟩
    rw [Pool.turn, found]
    exact found
  | ask request next =>
    cases count with
    | zero => exact absurd ends id
    | succ count =>
      refine ⟨_, ?_, ends (handler request pool.shared).1⟩
      rw [Pool.turn, found]
      exact List.getElem?_set_self inside

theorem Nearing.ended {number : Nat} {label : Label} (nearing : pool.Nearing number label 0) :
    ∃ result, pool.workers[number]? = some (label, .done result) := by
  obtain ⟨current, found, ends⟩ := nearing
  cases current with
  | done result => exact ⟨result, found⟩
  | ask request next => exact absurd ends id

end Pool

end Thumbnailer
