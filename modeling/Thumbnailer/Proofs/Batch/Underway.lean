/-
This file sets up a batch whose jobs are under way at once. What is rejected has been told, and each
job is a worker of a pool, labelled by itself. A schedule says in which order the jobs take their
steps; the file system, the engine and the listener answer each request.

The batch that takes its jobs one after the other is one of these, and from wherever the jobs have
come there is a schedule that takes all of them to their ends.
-/

import Thumbnailer.Proofs.Batch.Course

namespace Thumbnailer.Batch

open Procedure

variable {Image Scale : Type} {Moment : Type} {Inner : Interface} {Drive Engine Listener : Type}

/-! ### A batch under way -/

/-- What serves a batch: a file system, an engine, and somebody who is told how it goes. What they
answer may be different at every moment. -/
structure Services (Moment : Type) (Inner : Interface) (Drive Engine Listener : Type) where
  files : Moment → Handler FileAccess Drive
  work : Moment → Handler Inner Engine
  listen : Moment → Handler Progress Listener

def Services.handler (services : Services Moment Inner Drive Engine Listener) :
    Moment → Handler (Station Inner) (Drive × (Engine × Listener)) :=
  fun moment =>
    beside (services.files moment) (beside (services.work moment) (services.listen moment))

/-- Write down what is told. -/
def record : Handler Progress (List Event) :=
  fun event heard => ((), heard ++ [event])

section Begun

variable [Picture Image] [ScaleFactor Scale]
  (means : (task : Task Image Scale) → Procedure Inner task.Answer)
  (capabilities : Capabilities) (settings : Settings)

/-- The jobs of an assignment, each ready to be done in steps. -/
def crew (jobs : List Job) : List (Job × Procedure (Station Inner) Bool) :=
  jobs.map fun job => (job, (job.perform capabilities settings).carryOut (steps means))

/-- The jobs of a batch once what is rejected has been told. -/
def begun (services : Services Moment Inner Drive Engine Listener) (moment : Moment)
    (inputs : Inputs) (assignment : Assignment) (state : Drive × (Engine × Listener)) :
    Pool (Station Inner) Job Bool (Drive × (Engine × Listener)) :=
  { workers := crew means capabilities settings assignment.jobs
    shared := (((tellAll (rejections inputs assignment)).carryOut (steps means)).run
      (services.handler moment) state).2 }

end Begun

/-! ### Jobs in turn -/

/-- To take procedures in turn is one of the schedules for a pool of them. -/
theorem exists_run_inTurn {interface : Interface} {Label Result State : Type}
    (handler : Moment → Handler interface State) (moment : Moment)
    (waiting : List (Label × Procedure interface Result)) (finished : List (Label × Result))
    (state : State) :
    let ended := (inTurn (waiting.map Prod.snd)).run (handler moment) state
    ∃ schedule,
      (Pool.mk (finished.map (fun worker => (worker.1, .done worker.2)) ++ waiting) state).run
          handler schedule =
        { workers := (finished ++ (waiting.map Prod.fst).zip ended.1).map fun worker =>
            (worker.1, .done worker.2)
          shared := ended.2 } := by
  induction waiting generalizing finished state with
  | nil =>
    refine ⟨[], ?_⟩
    rw [List.append_nil, Pool.run_nil, List.map_nil, List.zip_nil_left, List.append_nil]
    rfl
  | cons worker rest inductionHypothesis =>
    obtain ⟨label, procedure⟩ := worker
    intro ended
    have place : (finished.map fun worker => (worker.1, (.done worker.2 : Procedure interface
        Result))).length = finished.length := List.length_map _
    have found : (Pool.mk ((finished.map fun worker => (worker.1, .done worker.2)) ++
        (label, procedure) :: rest) state).workers[finished.length]? = some (label, procedure) := by
      rw [← place]
      exact List.getElem?_append_right (Nat.le_refl _) |>.trans (by rw [Nat.sub_self]; rfl)
    obtain ⟨first, alone⟩ := Pool.exists_run_alone handler moment found
    obtain ⟨later, remains⟩ := inductionHypothesis
      (finished ++ [(label, (procedure.run (handler moment) state).1)])
      (procedure.run (handler moment) state).2
    refine ⟨first ++ later, ?_⟩
    rw [Pool.run_append, alone]
    rw [List.map_append, List.append_assoc] at remains
    rw [List.set_append_right _ _ (Nat.le_of_eq place), place, Nat.sub_self]
    refine remains.trans ?_
    simp only [ended, List.map_cons, inTurn, run_bind, run_done, List.zip_cons_cons,
      List.append_assoc, List.singleton_append]

theorem length_run_inTurn {interface : Interface} {Result State : Type}
    (handler : Handler interface State) (procedures : List (Procedure interface Result))
    (state : State) : ((inTurn procedures).run handler state).1.length = procedures.length := by
  induction procedures generalizing state with
  | nil => rfl
  | cons first rest inductionHypothesis =>
    rw [inTurn, run_bind, run_bind]
    exact congrArg (· + 1) (inductionHypothesis _)

/-- From wherever it is, a pool can be taken to the end of all of its workers: by a schedule that
takes one after the other. -/
theorem exists_results_inTurn {interface : Interface} {Label Result State : Type}
    (handler : Moment → Handler interface State) (moment : Moment)
    (pool : Pool interface Label Result State) :
    let ended := (inTurn (pool.workers.map Prod.snd)).run (handler moment) pool.shared
    ∃ schedule, (pool.run handler schedule).results? = some ended.1 ∧
      (pool.run handler schedule).shared = ended.2 := by
  intro ended
  obtain ⟨schedule, taken⟩ := exists_run_inTurn handler moment pool.workers [] pool.shared
  refine ⟨schedule, ?_, congrArg Pool.shared taken⟩
  refine (congrArg Pool.results? taken).trans ((Pool.results?_of_done _ _).trans ?_)
  have sameLength : ended.1.length = (pool.workers.map Prod.fst).length := by
    rw [length_run_inTurn, List.length_map, List.length_map]
  rw [List.nil_append, List.map_snd_zip (Nat.le_of_eq sameLength)]

/-- Carrying out procedures in turn takes what carries each of them out in turn. -/
theorem carryOut_inTurn {interface inner : Interface} {Result : Type}
    (means : (request : interface.Request) → Procedure inner (interface.Answer request))
    (procedures : List (Procedure interface Result)) :
    (inTurn procedures).carryOut means =
      inTurn (procedures.map fun procedure => procedure.carryOut means) := by
  induction procedures with
  | nil => rfl
  | cons first rest inductionHypothesis =>
    rw [inTurn, List.map_cons, inTurn, carryOut_bind]
    refine congrArg _ (funext fun result => ?_)
    rw [carryOut_bind, inductionHypothesis]
    rfl

/-- To carry out a sequence is to carry out its parts, one from where the other ends. -/
theorem run_carryOut_bind {interface inner : Interface} {Result Next State : Type}
    (means : (request : interface.Request) → Procedure inner (interface.Answer request))
    (handler : Handler inner State) (procedure : Procedure interface Result)
    (continuation : Result → Procedure interface Next) (state : State) :
    ((procedure.bind continuation).carryOut means).run handler state =
      let middle := (procedure.carryOut means).run handler state
      ((continuation middle.1).carryOut means).run handler middle.2 := by
  rw [carryOut_bind, run_bind]

section Run

variable [Picture Image] [ScaleFactor Scale]
  (means : (task : Task Image Scale) → Procedure Inner task.Answer)
  (capabilities : Capabilities) (settings : Settings)

/-- A batch that takes its jobs in turn is a batch under one of the schedules: once the inputs are
collected and the output directory is there, what it gives is the summary of that run. -/
theorem exists_schedule_run (services : Services Moment Inner Drive Engine Listener)
    (moment : Moment) (input output : Path) {inputs : Inputs} {drive collected ready : Drive}
    {engine : Engine} {listener : Listener}
    (collects : (Inputs.collect capabilities input).run (services.files moment) drive =
      (.ok inputs, collected))
    (makes : (Files.makeDirectories output).run (services.files moment) collected =
      (.ok (), ready)) :
    let clock : Procedure (Station Inner) Instant :=
      (now : Procedure (Service Image Scale) Instant).carryOut (steps means)
    let assignment := assign inputs.files input output settings.options.format
    let started := clock.run (services.handler moment) (drive, (engine, listener))
    let pool := begun means capabilities settings services moment inputs assignment
      (ready, started.2.2)
    ∃ schedule succeeded, (pool.run services.handler schedule).results? = some succeeded ∧
      let stopped := clock.run (services.handler moment) (pool.run services.handler schedule).shared
      ((run capabilities settings input output : Procedure (Service Image Scale) _).carryOut
          (steps means)).run (services.handler moment) (drive, (engine, listener)) =
        (.ok (summarize (rejections inputs assignment).length succeeded
          (stopped.1.since started.1)), stopped.2) := by
  intro clock assignment started pool
  have untouched : started.2 = (drive, started.2.2) := by
    have asked : clock = (((means .now).onLeft Progress).onRight FileAccess).bind .done := rfl
    simp only [started, asked, bind_done, Services.handler, run_onRight, run_onLeft]
  have collecting : ((Inputs.collect capabilities input).onLeft _).run (services.handler moment)
      started.2 = (.ok inputs, (collected, started.2.2)) := by
    rw [untouched, Services.handler, run_onLeft, collects]
  have making : ((Files.makeDirectories output).onLeft _).run (services.handler moment)
      (collected, started.2.2) = (.ok (), (ready, started.2.2)) := by
    rw [Services.handler, run_onLeft, makes]
  have working : (tasks capabilities settings assignment).map
      (fun task => task.carryOut (steps means)) = pool.workers.map Prod.snd := by
    simp only [tasks, pool, begun, crew, List.map_map]
    rfl
  obtain ⟨schedule, results, shared⟩ := exists_results_inTurn services.handler moment pool
  refine ⟨schedule, _, results, ?_⟩
  rw [shared]
  simp only [started, clock] at collecting making
  simp only [assignment] at working
  simp only [run, run_carryOut_bind, carryOut_files, collecting, making, carryOut_inTurn, working]
  rfl

end Run

/-! ### The jobs of a run -/

section Jobs

variable [Picture Image] [ScaleFactor Scale]
  {means : (task : Task Image Scale) → Procedure Inner task.Answer}
  {capabilities : Capabilities} {settings : Settings}

theorem labels_crew {State : Type} (jobs : List Job) (shared : State) :
    (Pool.mk (crew means capabilities settings jobs) shared).labels = jobs := by
  unfold Pool.labels crew
  rw [List.map_map]
  exact List.map_id _

/-- At the end of a run every job has gone its course, which says how the job ended. -/
theorem exists_courses {State : Type} {handler : Moment → Handler (Station Inner) State}
    {jobs : List Job} (distinct : jobs.Nodup) {shared : State} {schedule : Schedule Moment}
    {succeeded : List Bool}
    (ended : ((Pool.mk (crew means capabilities settings jobs) shared).run handler
      schedule).results? = some succeeded) :
    let trace := (Pool.mk (crew means capabilities settings jobs) shared).trace handler schedule
    ∃ (made : Job → Except JobError Bytes) (stored : Job → Except FileError Unit),
      (∀ job ∈ jobs, job.Course means capabilities settings (Pool.talk job trace) (made job)
        (stored job)) ∧
      succeeded = jobs.map fun job => (Job.ended (made job) (stored job)).isOk := by
  intro trace
  have labelled : (Pool.mk (crew means capabilities settings jobs) shared).labels.Nodup := by
    rwa [labels_crew]
  obtain ⟨success, rfl, finished⟩ :=
    Pool.exists_result_of_results? (by rwa [Pool.labels_run]) ended
  rw [Pool.labels_run, labels_crew] at finished ⊢
  have course (job : Job) (member : job ∈ jobs) : ∃ made stored,
      job.Course means capabilities settings (Pool.talk job trace) made stored ∧
        success job = (Job.ended made stored).isOk :=
    Job.exists_course
      (Pool.conversation_talk labelled (List.mem_map_of_mem member) (finished job member))
  have : Nonempty (Except JobError Bytes) := ⟨.ok []⟩
  have : Nonempty (Except FileError Unit) := ⟨.ok ()⟩
  choose! made stored goes using course
  exact ⟨made, stored, fun job member => (goes job member).1,
    List.map_congr_left fun job member => (goes job member).2⟩

/-- What is asked in a run is asked by a job, which may ask it. -/
theorem follows_of_mem_trace {State : Type} {handler : Moment → Handler (Station Inner) State}
    {jobs : List Job} {shared : State} {schedule : Schedule Moment}
    (courses : ∀ job ∈ jobs, ∃ made stored, Job.Course means capabilities settings job
      (Pool.talk job ((Pool.mk (crew means capabilities settings jobs) shared).trace handler
        schedule)) made stored) :
    ∀ entry ∈ (Pool.mk (crew means capabilities settings jobs) shared).trace handler schedule,
      entry.1 ∈ jobs ∧ entry.1.Follows entry.2.1 := by
  intro entry inTrace
  have labelled := Pool.mem_labels_of_mem_trace handler _ schedule entry inTrace
  rw [labels_crew] at labelled
  obtain ⟨made, stored, course⟩ := courses entry.1 labelled
  exact ⟨labelled, course.follows entry.2 (Pool.mem_talk_iff.2 inTrace)⟩

/-- What is said in a run is what the jobs say, in some order. -/
theorem perm_talks {State : Type} (handler : Moment → Handler (Station Inner) State)
    {jobs : List Job} (distinct : jobs.Nodup) (shared : State) (schedule : Schedule Moment) :
    let trace := (Pool.mk (crew means capabilities settings jobs) shared).trace handler schedule
    (trace.map Prod.snd).Perm (jobs.flatMap fun job => Pool.talk job trace) := by
  refine Pool.perm_flatMap_talk distinct fun entry member => ?_
  have known := Pool.mem_labels_of_mem_trace handler _ schedule entry member
  rwa [labels_crew] at known

theorem perm_filterMap_talk {State Value : Type} (pick : Exchange (Station Inner) → Option Value)
    (handler : Moment → Handler (Station Inner) State) {jobs : List Job} (distinct : jobs.Nodup)
    (shared : State) (schedule : Schedule Moment) :
    let trace := (Pool.mk (crew means capabilities settings jobs) shared).trace handler schedule
    ((trace.map Prod.snd).filterMap pick).Perm
      (jobs.flatMap fun job => (Pool.talk job trace).filterMap pick) := by
  intro trace
  have talks : (trace.map Prod.snd).Perm (jobs.flatMap fun job => Pool.talk job trace) :=
    perm_talks handler distinct shared schedule
  have picked := talks.filterMap pick
  rwa [List.filterMap_flatMap] at picked

section Courses

variable {State : Type} {handler : Moment → Handler (Station Inner) State} {jobs : List Job}
  {shared : State} {schedule : Schedule Moment} {made : Job → Except JobError Bytes}
  {stored : Job → Except FileError Unit}

/-- What is told is one event of each job, in some order. -/
theorem exists_perm_told (distinct : jobs.Nodup)
    (courses : ∀ job ∈ jobs, job.Course means capabilities settings (Pool.talk job ((Pool.mk
      (crew means capabilities settings jobs) shared).trace handler schedule)) (made job)
      (stored job)) :
    ∃ elapsed : Job → Duration,
      (told (((Pool.mk (crew means capabilities settings jobs) shared).trace handler
        schedule).map Prod.snd)).Perm
      (jobs.map fun job => job.event (elapsed job) (Job.ended (made job) (stored job))) := by
  have : Nonempty Duration := ⟨⟨0⟩⟩
  have tells := fun job member => (courses job member).told_eq
  choose! elapsed tells using tells
  refine ⟨elapsed, (perm_filterMap_talk told? handler distinct shared schedule).trans ?_⟩
  rw [List.map_eq_flatMap]
  exact .of_eq (List.flatMap_congr tells)

/-- What is written is what each job leaves, in some order. -/
theorem perm_written (distinct : jobs.Nodup)
    (courses : ∀ job ∈ jobs, job.Course means capabilities settings (Pool.talk job ((Pool.mk
      (crew means capabilities settings jobs) shared).trace handler schedule)) (made job)
      (stored job)) :
    (written (((Pool.mk (crew means capabilities settings jobs) shared).trace handler
        schedule).map Prod.snd)).Perm
      (jobs.filterMap fun job => job.yield? (made job) (stored job)) := by
  refine (perm_filterMap_talk written? handler distinct shared schedule).trans ?_
  rw [List.filterMap_eq_flatMap_toList]
  exact .of_eq (List.flatMap_congr fun job member => (courses job member).written_eq)

end Courses

end Jobs

end Thumbnailer.Batch
