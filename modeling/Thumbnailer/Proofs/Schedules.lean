/-
This file runs a pool by a schedule: a list of turns, each of one worker at some moment. What the
moment decides is left to the handler; a clock may show another time each turn. The trace of a run
tells who asked what and was answered what, one exchange after the other, and the talk of a worker
is its own part of the trace.

However the turns are mixed, the talk of a worker that has ended is a conversation of what it set
out with, so whatever holds of all conversations of a procedure holds of each of its workers. The
trace is made up of the talks, in some order. A schedule that gives every worker enough turns is
always there: the workers can be taken one after the other.
-/

import Mathlib.Data.List.Induction
import Mathlib.Data.List.Perm.Lattice
import Thumbnailer.Proofs.Conversation
import Thumbnailer.Proofs.Interleaving

namespace Thumbnailer

/-! ### What a procedure asks for -/

namespace Procedure

variable {interface inner : Interface} {Result Next : Type}

/-- Every request is of a kind, whatever is answered. -/
def Asks (kind : interface.Request → Prop) : Procedure interface Result → Prop
  | .done _ => True
  | .ask request next => kind request ∧ ∀ answer, (next answer).Asks kind

variable {kind : interface.Request → Prop}

theorem Asks.mono {other : interface.Request → Prop} {procedure : Procedure interface Result}
    (asks : procedure.Asks kind) (also : ∀ request, kind request → other request) :
    procedure.Asks other := by
  induction procedure with
  | done result => trivial
  | ask request next inductionHypothesis =>
    exact ⟨also request asks.1, fun answer => inductionHypothesis answer (asks.2 answer)⟩

theorem Asks.bind {procedure : Procedure interface Result}
    {continuation : Result → Procedure interface Next} (first : procedure.Asks kind)
    (second : ∀ result, (continuation result).Asks kind) :
    (procedure.bind continuation).Asks kind := by
  induction procedure with
  | done result => exact second result
  | ask request next inductionHypothesis =>
    exact ⟨first.1, fun answer => inductionHypothesis answer (first.2 answer)⟩

theorem Conversation.asks {procedure : Procedure interface Result}
    {talk : List (Exchange interface)} {result : Result}
    (conversation : Conversation procedure talk result) (asks : procedure.Asks kind) :
    ∀ exchange ∈ talk, kind exchange.1 := by
  induction conversation with
  | done result => exact List.forall_mem_nil _
  | ask further inductionHypothesis =>
    exact List.forall_mem_cons.2 ⟨asks.1, inductionHypothesis (asks.2 _)⟩

/-- Carrying out a sequence carries out its parts. -/
theorem carryOut_bind
    (means : (request : interface.Request) → Procedure inner (interface.Answer request))
    (procedure : Procedure interface Result) (continuation : Result → Procedure interface Next) :
    (procedure.bind continuation).carryOut means =
      (procedure.carryOut means).bind fun result => (continuation result).carryOut means := by
  induction procedure with
  | done result => rfl
  | ask request next inductionHypothesis =>
    simp only [bind, carryOut, bind_assoc, inductionHypothesis]

/-- Where two states are answered alike, a procedure ends alike from both. -/
theorem run_alike {State Other : Type} {handler : Handler interface State}
    {otherHandler : Handler interface Other} (Alike : State → Other → Prop)
    (answers : ∀ request state other, Alike state other →
      (handler request state).1 = (otherHandler request other).1 ∧
        Alike (handler request state).2 (otherHandler request other).2)
    (procedure : Procedure interface Result) {state : State} {other : Other}
    (alike : Alike state other) :
    (procedure.run handler state).1 = (procedure.run otherHandler other).1 ∧
      Alike (procedure.run handler state).2 (procedure.run otherHandler other).2 := by
  induction procedure generalizing state other with
  | done result => exact ⟨rfl, alike⟩
  | ask request next inductionHypothesis =>
    obtain ⟨same, still⟩ := answers request state other alike
    unfold run
    dsimp only
    rw [same]
    exact inductionHypothesis _ still

end Procedure

/-! ### Schedules -/

/-- Turns one after the other: which worker takes each, and at what moment. -/
abbrev Schedule (Moment : Type) := List (Nat × Moment)

namespace Pool

open Procedure

variable {interface : Interface} {Label Result State Moment : Type}

def labels (pool : Pool interface Label Result State) : List Label :=
  pool.workers.map Prod.fst

/-- All turns of a schedule, requests being answered as the moment has it. -/
def run (handler : Moment → Handler interface State) (pool : Pool interface Label Result State)
    (schedule : Schedule Moment) : Pool interface Label Result State :=
  schedule.foldl (fun pool turn => pool.turn (handler turn.2) turn.1) pool

/-- The exchange that a worker's next turn would be, with its label. -/
def exchange? (handler : Handler interface State) (pool : Pool interface Label Result State)
    (number : Nat) : Option (Label × Exchange interface) :=
  match pool.workers[number]? with
  | some (label, .ask request _) => some (label, ⟨request, (handler request pool.shared).1⟩)
  | _ => none

/-- The exchanges of a run in order, each with the label of its worker. -/
def trace (handler : Moment → Handler interface State) :
    Pool interface Label Result State → Schedule Moment → List (Label × Exchange interface)
  | _, [] => []
  | pool, turn :: rest =>
    (pool.exchange? (handler turn.2) turn.1).toList ++
      trace handler (pool.turn (handler turn.2) turn.1) rest

/-- The part of a trace that has one label. -/
def talk [DecidableEq Label] (label : Label) (trace : List (Label × Exchange interface)) :
    List (Exchange interface) :=
  trace.filterMap fun entry => if entry.1 = label then some entry.2 else none

/-- What the workers have ended with, if all of them have. -/
def results? (pool : Pool interface Label Result State) : Option (List Result) :=
  pool.workers.mapM fun worker =>
    match worker.2 with
    | .done result => some result
    | .ask .. => none

variable {handler : Moment → Handler interface State} {pool : Pool interface Label Result State}
  {label : Label}

@[simp]
theorem run_nil : pool.run handler [] = pool := rfl

@[simp]
theorem run_cons (turn : Nat × Moment) (rest : Schedule Moment) :
    pool.run handler (turn :: rest) = (pool.turn (handler turn.2) turn.1).run handler rest :=
  rfl

theorem run_append (before after : Schedule Moment) :
    pool.run handler (before ++ after) = (pool.run handler before).run handler after :=
  List.foldl_append

/-! ### One turn -/

/-- A turn is nothing, or it is the next step of its worker. -/
theorem turn_cases (handler : Moment → Handler interface State)
    (pool : Pool interface Label Result State) (turn : Nat × Moment) :
    (pool.turn (handler turn.2) turn.1 = pool ∧
      ∀ rest, pool.trace handler (turn :: rest) = pool.trace handler rest) ∨
    ∃ label request next, pool.workers[turn.1]? = some (label, .ask request next) ∧
      let answered := handler turn.2 request pool.shared
      pool.turn (handler turn.2) turn.1 =
          { workers := pool.workers.set turn.1 (label, next answered.1), shared := answered.2 } ∧
        ∀ rest, pool.trace handler (turn :: rest) =
          (label, ⟨request, answered.1⟩) ::
            (pool.turn (handler turn.2) turn.1).trace handler rest := by
  cases found : pool.workers[turn.1]? with
  | none =>
    refine .inl ⟨by rw [Pool.turn, found], fun rest => ?_⟩
    rw [trace, exchange?, Pool.turn, found]
    rfl
  | some worker =>
    obtain ⟨label, procedure⟩ := worker
    cases procedure with
    | done result =>
      refine .inl ⟨by rw [Pool.turn, found], fun rest => ?_⟩
      rw [trace, exchange?, Pool.turn, found]
      rfl
    | ask request next =>
      refine .inr ⟨label, request, next, rfl, by rw [Pool.turn, found], fun rest => ?_⟩
      rw [trace, exchange?, found]
      rfl

/-- Workers keep their labels. -/
@[simp]
theorem labels_turn (handler : Handler interface State)
    (pool : Pool interface Label Result State) (number : Nat) :
    (pool.turn handler number).labels = pool.labels := by
  unfold turn
  split
  · rename_i label request next found
    have labelled : (pool.workers.map Prod.fst)[number]? = some label := by
      rw [List.getElem?_map, found]
      rfl
    obtain ⟨inside, same⟩ := List.getElem?_eq_some_iff.1 labelled
    unfold labels
    rw [List.map_set, ← same]
    exact List.set_getElem_self _
  · rfl

@[simp]
theorem labels_run (handler : Moment → Handler interface State)
    (pool : Pool interface Label Result State) (schedule : Schedule Moment) :
    (pool.run handler schedule).labels = pool.labels := by
  induction schedule generalizing pool with
  | nil => rfl
  | cons turn rest inductionHypothesis =>
    exact (inductionHypothesis _).trans (labels_turn _ _ _)

/-- Only workers talk. -/
theorem mem_labels_of_mem_trace (handler : Moment → Handler interface State)
    (pool : Pool interface Label Result State) (schedule : Schedule Moment) :
    ∀ entry ∈ pool.trace handler schedule, entry.1 ∈ pool.labels := by
  induction schedule generalizing pool with
  | nil => exact List.forall_mem_nil _
  | cons turn rest inductionHypothesis =>
    obtain ⟨-, traced⟩ | ⟨label, request, next, found, -, traced⟩ := turn_cases handler pool turn
    · rw [traced]
      exact inductionHypothesis pool
    · rw [traced]
      refine List.forall_mem_cons.2 ⟨?_, fun entry member => ?_⟩
      · exact List.mem_map_of_mem (List.mem_of_getElem? found)
      · have known := inductionHypothesis (pool.turn (handler turn.2) turn.1) entry member
        rwa [labels_turn] at known

/-- Where labels are different, the workers that did not take the turn are as they were. -/
theorem mem_workers_set {number : Nat} {other : Label} {procedure next : Procedure interface Result}
    {moved : Procedure interface Result} (found : pool.workers[number]? = some (other, moved))
    (different : other ≠ label) (member : (label, procedure) ∈ pool.workers) :
    (label, procedure) ∈ pool.workers.set number (other, next) := by
  obtain ⟨place, here⟩ := List.mem_iff_getElem?.1 member
  have elsewhere : number ≠ place := by
    rintro rfl
    exact different (congrArg Prod.fst (Option.some.inj (found.symm.trans here)))
  exact List.mem_of_getElem? ((List.getElem?_set_ne elsewhere).trans here)

/-- Where labels are different, a label stands for one worker. -/
theorem eq_of_mem_workers (distinct : pool.labels.Nodup) {one other : Procedure interface Result}
    (member : (label, one) ∈ pool.workers) (otherMember : (label, other) ∈ pool.workers) :
    one = other :=
  congrArg Prod.snd (List.inj_on_of_nodup_map distinct member otherMember rfl)

/-! ### The talk of one worker -/

section Talk

variable [DecidableEq Label]

@[simp]
theorem talk_nil (label : Label) : talk label ([] : List (Label × Exchange interface)) = [] := rfl

theorem talk_cons_self (label : Label) (exchange : Exchange interface)
    (rest : List (Label × Exchange interface)) :
    talk label ((label, exchange) :: rest) = exchange :: talk label rest := by
  unfold talk
  rw [List.filterMap_cons, if_pos rfl]

theorem talk_cons_of_ne {other : Label} (different : other ≠ label)
    (exchange : Exchange interface) (rest : List (Label × Exchange interface)) :
    talk label ((other, exchange) :: rest) = talk label rest := by
  unfold talk
  rw [List.filterMap_cons, if_neg different]

theorem talk_append (label : Label) (before after : List (Label × Exchange interface)) :
    talk label (before ++ after) = talk label before ++ talk label after :=
  List.filterMap_append

theorem mem_talk_iff {exchange : Exchange interface} {trace : List (Label × Exchange interface)} :
    exchange ∈ talk label trace ↔ (label, exchange) ∈ trace := by
  unfold talk
  rw [List.mem_filterMap]
  constructor
  · rintro ⟨⟨other, said⟩, member, found⟩
    split at found
    case isTrue own =>
      cases own
      cases found
      exact member
    case isFalse => cases found
  · intro member
    exact ⟨_, member, if_pos rfl⟩

/-- After a run, what is left for a worker to do goes on where its talk ends. -/
theorem exists_left (handler : Moment → Handler interface State) (distinct : pool.labels.Nodup)
    {procedure : Procedure interface Result} (begun : (label, procedure) ∈ pool.workers)
    (schedule : Schedule Moment) :
    ∃ left, (label, left) ∈ (pool.run handler schedule).workers ∧
      ∀ rest result, Conversation left rest result →
        Conversation procedure (talk label (pool.trace handler schedule) ++ rest) result := by
  induction schedule generalizing pool procedure with
  | nil => exact ⟨procedure, begun, fun rest result further => further⟩
  | cons turn later inductionHypothesis =>
    rw [run_cons]
    have still : (pool.turn (handler turn.2) turn.1).labels.Nodup := by
      rwa [labels_turn]
    obtain ⟨same, traced⟩ | ⟨other, request, next, found, turned, traced⟩ :=
      turn_cases handler pool turn
    · rw [traced, same]
      exact inductionHypothesis distinct begun
    rw [traced]
    by_cases own : other = label
    · subst own
      obtain rfl := eq_of_mem_workers distinct begun (List.mem_of_getElem? found)
      have moved : (other, next (handler turn.2 request pool.shared).1) ∈
          (pool.turn (handler turn.2) turn.1).workers := by
        rw [turned]
        exact List.mem_set (List.getElem?_eq_some_iff.1 found).1 _
      obtain ⟨left, ended, further⟩ := inductionHypothesis still moved
      refine ⟨left, ended, fun rest result conversation => ?_⟩
      rw [talk_cons_self]
      exact .ask (further rest result conversation)
    · have stays : (label, procedure) ∈ (pool.turn (handler turn.2) turn.1).workers := by
        rw [turned]
        exact mem_workers_set found own begun
      rw [talk_cons_of_ne own]
      exact inductionHypothesis still stays

/-- The talk of a worker that has ended is a conversation of what it set out with. -/
theorem conversation_talk (distinct : pool.labels.Nodup) {procedure : Procedure interface Result}
    {schedule : Schedule Moment} {result : Result} (begun : (label, procedure) ∈ pool.workers)
    (ended : (label, .done result) ∈ (pool.run handler schedule).workers) :
    Conversation procedure (talk label (pool.trace handler schedule)) result := by
  obtain ⟨left, found, further⟩ := exists_left handler distinct begun schedule
  have still : (pool.run handler schedule).labels.Nodup := by rwa [labels_run]
  obtain rfl := eq_of_mem_workers still found ended
  have whole := further [] result (.done result)
  rwa [List.append_nil] at whole

/-- The trace is made up of the talks, in some order. -/
theorem perm_flatMap_talk {labels : List Label} (distinct : labels.Nodup)
    {trace : List (Label × Exchange interface)} (known : ∀ entry ∈ trace, entry.1 ∈ labels) :
    (trace.map Prod.snd).Perm (labels.flatMap fun label => talk label trace) := by
  induction trace with
  | nil =>
    rw [List.flatMap_eq_nil_iff.2 fun _ _ => talk_nil _]
    exact .refl _
  | cons entry rest inductionHypothesis =>
    obtain ⟨label, exchange⟩ := entry
    obtain ⟨here, later⟩ := List.forall_mem_cons.1 known
    -- The exchange goes to the talk of its worker and to no other.
    obtain ⟨before, after, rfl⟩ := List.append_of_mem here
    have elsewhere : ∀ other ∈ before ++ after, label ≠ other := by
      rw [List.nodup_middle, List.nodup_cons] at distinct
      rintro other member rfl
      exact distinct.1 member
    have others : ∀ part : List Label, (∀ other ∈ part, label ≠ other) →
        (part.flatMap fun other => talk other ((label, exchange) :: rest)) =
          part.flatMap fun other => talk other rest := fun part apart =>
      List.flatMap_congr fun other member => talk_cons_of_ne (apart other member) _ _
    rw [List.flatMap_append, List.flatMap_cons, others before fun other member =>
        elsewhere other (List.mem_append_left _ member), others after fun other member =>
        elsewhere other (List.mem_append_right _ member), talk_cons_self]
    refine .trans ((inductionHypothesis later).cons exchange) ?_
    rw [List.flatMap_append, List.flatMap_cons]
    exact List.perm_middle.symm

end Talk

/-! ### Runs that come to an end -/

/-- All workers have ended, each with its result. -/
theorem exists_result_of_results? [Nonempty Result] (distinct : pool.labels.Nodup)
    {results : List Result} (ended : pool.results? = some results) :
    ∃ result : Label → Result, results = pool.labels.map result ∧
      ∀ label ∈ pool.labels, (label, .done (result label)) ∈ pool.workers := by
  classical
  unfold results? at ended
  unfold labels at distinct ⊢
  generalize pool.workers = workers at ended distinct ⊢
  induction workers generalizing results with
  | nil =>
    obtain rfl := Option.some.inj ended
    exact ⟨fun _ => Classical.arbitrary Result, rfl, List.forall_mem_nil _⟩
  | cons worker rest inductionHypothesis =>
    obtain ⟨label, procedure⟩ := worker
    rw [List.mapM_cons] at ended
    obtain ⟨reached, first, remains⟩ := Option.bind_eq_some_iff.1 ended
    obtain ⟨others, later, same⟩ := Option.bind_eq_some_iff.1 remains
    obtain rfl := Option.some.inj same
    obtain ⟨fresh, restDistinct⟩ := List.nodup_cons.1 distinct
    obtain ⟨result, rfl, finished⟩ := inductionHypothesis later restDistinct
    cases procedure with
    | ask request next => cases first
    | done own =>
      obtain rfl := Option.some.inj first
      have elsewhere : ∀ other ∈ rest.map Prod.fst,
          Function.update result label own other = result other := fun other member =>
        Function.update_of_ne (fun same => fresh (by rwa [same] at member)) _ _
      have here : Function.update result label own label = own := Function.update_self _ _ _
      refine ⟨Function.update result label own, ?_, List.forall_mem_cons.2 ⟨?_, ?_⟩⟩
      · exact (congrArg₂ List.cons here (List.map_congr_left elsewhere)).symm
      · rw [here]
        exact List.mem_cons_self
      · intro other member
        rw [elsewhere other member]
        exact List.mem_cons_of_mem _ (finished other member)

theorem results?_of_done (finished : List (Label × Result)) (state : State) :
    ({ workers := finished.map fun worker => (worker.1, .done worker.2), shared := state } :
        Pool interface Label Result State).results? = some (finished.map Prod.snd) := by
  unfold results?
  induction finished with
  | nil => rfl
  | cons worker rest inductionHypothesis =>
    rw [List.map_cons, List.mapM_cons, inductionHypothesis]
    rfl

/-- A worker can be taken to its end by turns of its own. -/
theorem exists_run_alone (handler : Moment → Handler interface State) (moment : Moment)
    {number : Nat} {procedure : Procedure interface Result}
    (found : pool.workers[number]? = some (label, procedure)) :
    let ended := procedure.run (handler moment) pool.shared
    ∃ schedule, pool.run handler schedule =
      { workers := pool.workers.set number (label, .done ended.1), shared := ended.2 } := by
  induction procedure generalizing pool with
  | done result =>
    obtain ⟨inside, is⟩ := List.getElem?_eq_some_iff.1 found
    refine ⟨[], ?_⟩
    rw [run_nil, run_done, ← is, List.set_getElem_self]
  | ask request next inductionHypothesis =>
    have turned : pool.turn (handler moment) number =
        { workers := pool.workers.set number
            (label, next (handler moment request pool.shared).1),
          shared := (handler moment request pool.shared).2 } := by
      rw [Pool.turn, found]
    have moved : (pool.turn (handler moment) number).workers[number]? =
        some (label, next (handler moment request pool.shared).1) := by
      rw [turned]
      exact List.getElem?_set_self (List.getElem?_eq_some_iff.1 found).1
    obtain ⟨schedule, ended⟩ := inductionHypothesis _ moved
    refine ⟨(number, moment) :: schedule, ?_⟩
    rw [run_cons, ended, turned, List.set_set]
    rfl

/-! ### What holds of the shared state -/

section Shared

variable (handler)

/-- What every exchange of a trace keeps holds at the end, if it holds at the start. -/
theorem shared_of_trace (Inv : State → Prop) {schedule : Schedule Moment} (begun : Inv pool.shared)
    (kept : ∀ entry ∈ pool.trace handler schedule, ∀ moment state, Inv state →
      (handler moment entry.2.1 state).1 = entry.2.2 → Inv (handler moment entry.2.1 state).2) :
    Inv (pool.run handler schedule).shared := by
  induction schedule generalizing pool with
  | nil => exact begun
  | cons turn rest inductionHypothesis =>
    obtain ⟨same, traced⟩ | ⟨label, request, next, -, turned, traced⟩ :=
      turn_cases handler pool turn
    · rw [run_cons, same]
      rw [traced] at kept
      exact inductionHypothesis begun kept
    · rw [traced] at kept
      obtain ⟨here, later⟩ := List.forall_mem_cons.1 kept
      have still : Inv (pool.turn (handler turn.2) turn.1).shared := by
        rw [turned]
        exact here turn.2 pool.shared begun rfl
      exact inductionHypothesis still later

/-- What one exchange of a trace brings about and every other one keeps holds at the end. -/
theorem shared_of_mem_trace (Inv Goal : State → Prop) {schedule : Schedule Moment}
    {entry : Label × Exchange interface} (member : entry ∈ pool.trace handler schedule)
    (begun : Inv pool.shared)
    (kept : ∀ other ∈ pool.trace handler schedule, ∀ moment state, Inv state →
      (handler moment other.2.1 state).1 = other.2.2 → Inv (handler moment other.2.1 state).2)
    (arrives : ∀ moment state, Inv state → (handler moment entry.2.1 state).1 = entry.2.2 →
      Goal (handler moment entry.2.1 state).2)
    (stays : ∀ other ∈ pool.trace handler schedule, ∀ moment state, Inv state → Goal state →
      (handler moment other.2.1 state).1 = other.2.2 → Goal (handler moment other.2.1 state).2) :
    Goal (pool.run handler schedule).shared := by
  induction schedule generalizing pool with
  | nil => cases member
  | cons turn rest inductionHypothesis =>
    obtain ⟨same, traced⟩ | ⟨label, request, next, -, turned, traced⟩ :=
      turn_cases handler pool turn
    · rw [run_cons, same]
      rw [traced] at member kept stays
      exact inductionHypothesis member begun kept stays
    rw [traced] at member kept stays
    obtain ⟨keptHere, keptLater⟩ := List.forall_mem_cons.1 kept
    obtain ⟨-, staysLater⟩ := List.forall_mem_cons.1 stays
    have still : Inv (pool.turn (handler turn.2) turn.1).shared := by
      rw [turned]
      exact keptHere turn.2 pool.shared begun rfl
    obtain rfl | later := List.mem_cons.1 member
    · -- From here on both hold, and every exchange that is left keeps both.
      refine (shared_of_trace handler (fun state => Inv state ∧ Goal state) ⟨still, ?_⟩
        fun other otherMember moment state both answered =>
          ⟨keptLater other otherMember moment state both.1 answered,
            staysLater other otherMember moment state both.1 both.2 answered⟩).2
      rw [turned]
      exact arrives turn.2 pool.shared begun rfl
    · exact inductionHypothesis later still keptLater staysLater

end Shared

/-- Pools whose states are answered alike go alike. -/
theorem run_alike {Other : Type} {handler : Moment → Handler interface State}
    {otherHandler : Moment → Handler interface Other} (Alike : State → Other → Prop)
    (answers : ∀ moment request state other, Alike state other →
      (handler moment request state).1 = (otherHandler moment request other).1 ∧
        Alike (handler moment request state).2 (otherHandler moment request other).2)
    (workers : List (Label × Procedure interface Result)) {state : State} {other : Other}
    (alike : Alike state other) (schedule : Schedule Moment) :
    let one := (Pool.mk workers state).run handler schedule
    let another := (Pool.mk workers other).run otherHandler schedule
    one.workers = another.workers ∧ Alike one.shared another.shared ∧
      (Pool.mk workers state).trace handler schedule =
        (Pool.mk workers other).trace otherHandler schedule := by
  induction schedule generalizing workers state other with
  | nil => exact ⟨rfl, alike, rfl⟩
  | cons turn rest inductionHypothesis =>
    simp only [run_cons, trace, Pool.turn, exchange?]
    rcases found : workers[turn.1]? with _ | ⟨label, result | ⟨request, next⟩⟩
    · exact inductionHypothesis workers alike
    · exact inductionHypothesis workers alike
    · obtain ⟨same, still⟩ := answers turn.2 request state other alike
      obtain ⟨sameWorkers, sameState, sameTrace⟩ := inductionHypothesis
        (workers.set turn.1 (label, next (handler turn.2 request state).1)) still
      rw [same] at sameWorkers sameState sameTrace
      dsimp only
      rw [same, sameTrace]
      exact ⟨sameWorkers, sameState, rfl⟩

end Pool

end Thumbnailer
