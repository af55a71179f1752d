/-
This file shows that a batch loses no file from its accounts, whatever its requests are answered and
in whatever order its jobs come to their ends. What was told is the rejections and then one event
for each job; every file that was found, and everything that could not be looked at, is the source
of one of them; and the summary counts what was told. Nobody has to listen for that.
-/

import Thumbnailer.Engine.Pixels
import Thumbnailer.Engine.Settings
import Thumbnailer.Proofs.Batch.Prepared
import Thumbnailer.Scale.Exact

namespace Thumbnailer.Batch

open Procedure

variable {Image Scale Moment : Type} {Inner : Interface} {Drive Engine Listener : Type}

/-! ### Events -/

@[simp]
theorem source_event (job : Job) (elapsed : Duration) (ended : Except JobError Nat) :
    (job.event elapsed ended).source = job.source := by
  cases ended <;> rfl

@[simp]
theorem isProcessed_event (job : Job) (elapsed : Duration) (ended : Except JobError Nat) :
    (job.event elapsed ended).isProcessed = ended.isOk := by
  cases ended <;> rfl

/-- Nothing that is rejected is processed. -/
theorem not_isProcessed_of_mem_rejections {inputs : Inputs} {assignment : Assignment}
    {event : Event} (member : event ∈ rejections inputs assignment) :
    event.isProcessed = false := by
  obtain unreadable | conflict := List.mem_append.1 member
  · obtain ⟨left, -, rfl⟩ := List.mem_map.1 unreadable
    rfl
  · obtain ⟨conflict, -, rfl⟩ := List.mem_map.1 conflict
    rfl

theorem map_source_rejections (inputs : Inputs) (assignment : Assignment) :
    (rejections inputs assignment).map Event.source =
      inputs.unreadable.map Prod.fst ++ assignment.conflicts.map Conflict.source := by
  unfold rejections
  rw [List.map_append, List.map_map, List.map_map]
  rfl

/-! ### Listeners -/

/-- Services whose listener writes down what it is told. -/
def noted (files : Moment → Handler FileAccess Drive) (work : Moment → Handler Inner Engine) :
    Services Moment Inner Drive Engine (List Event) :=
  { files := files, work := work, listen := fun _ => record }

section Listen

variable (files : Moment → Handler FileAccess Drive) (work : Moment → Handler Inner Engine)

theorem heard_handler (moment : Moment) (request : (Station Inner).Request)
    (state : Drive × (Engine × List Event)) :
    ((noted files work).handler moment request state).2.2.2 =
      state.2.2 ++ told [⟨request, ((noted files work).handler moment request state).1⟩] := by
  rcases request with task | step | event
  · exact (List.append_nil _).symm
  · exact (List.append_nil _).symm
  · rfl

/-- What a listener writes down in a run is what is told in it. -/
theorem heard_run {Result : Type} (pool : Pool (Station Inner) Job Result _)
    (schedule : Schedule Moment) :
    (pool.run (noted files work).handler schedule).shared.2.2 =
      pool.shared.2.2 ++
        told ((pool.trace (noted files work).handler schedule).map Prod.snd) := by
  induction schedule generalizing pool with
  | nil => exact (List.append_nil _).symm
  | cons turn rest inductionHypothesis =>
    rw [Pool.run_cons, inductionHypothesis]
    obtain ⟨same, traced⟩ | ⟨job, request, next, -, turned, traced⟩ :=
      Pool.turn_cases (noted files work).handler pool turn
    · rw [same, traced]
    · rw [traced, List.map_cons, ← List.singleton_append, told_append, ← List.append_assoc,
        ← heard_handler, turned]

/-- Telling changes the listener alone, which writes down all that is told. -/
theorem run_tellAll_noted (means : (task : Task Image Scale) → Procedure Inner task.Answer)
    (moment : Moment) (events : List Event) (state : Drive × (Engine × List Event)) :
    ((tellAll events).carryOut (steps means)).run ((noted files work).handler moment) state =
      ((), (state.1, (state.2.1, state.2.2 ++ events))) := by
  induction events generalizing state with
  | nil =>
    rw [List.append_nil]
    rfl
  | cons event rest inductionHypothesis =>
    rw [tellAll, carryOut_bind, run_bind]
    refine (inductionHypothesis _).trans ?_
    show _ = ((), state.1, state.2.1, state.2.2 ++ ([event] ++ rest))
    rw [← List.append_assoc]
    rfl

/-- A batch under way has told what is rejected, and nothing else has happened. -/
theorem begun_noted [Picture Image] [ScaleFactor Scale]
    (means : (task : Task Image Scale) → Procedure Inner task.Answer) (capabilities : Capabilities)
    (settings : Settings) (moment : Moment) (inputs : Inputs) (assignment : Assignment)
    (drive : Drive) (engine : Engine) :
    begun means capabilities settings (noted files work) moment inputs assignment
        (drive, (engine, [])) =
      Pool.mk (crew means capabilities settings assignment.jobs)
        (drive, (engine, rejections inputs assignment)) := by
  unfold begun
  rw [run_tellAll_noted]
  rfl

/-- What the listener has written down at the end is what it had before, and then one event of each
job. -/
theorem exists_heard_of_courses [Picture Image] [ScaleFactor Scale]
    {means : (task : Task Image Scale) → Procedure Inner task.Answer} {capabilities : Capabilities}
    {settings : Settings} {jobs : List Job} (distinct : jobs.Nodup)
    {shared : Drive × (Engine × List Event)} {schedule : Schedule Moment}
    {made : Job → Except JobError Bytes} {stored : Job → Except FileError Unit}
    (courses : ∀ job ∈ jobs, job.Course means capabilities settings
      (Pool.talk job ((Pool.mk (crew means capabilities settings jobs) shared).trace
        (noted files work).handler schedule)) (made job) (stored job)) :
    ∃ (byJobs : List Event) (elapsed : Job → Duration),
      ((Pool.mk (crew means capabilities settings jobs) shared).run (noted files work).handler
        schedule).shared.2.2 = shared.2.2 ++ byJobs ∧
      byJobs.Perm
        (jobs.map fun job => job.event (elapsed job) (Job.ended (made job) (stored job))) := by
  obtain ⟨elapsed, tells⟩ := exists_perm_told distinct courses
  exact ⟨_, elapsed, heard_run files work _ schedule, tells⟩

/-- Two states that differ in what the listener knows, and in nothing else. -/
def SameButHeard {Other : Type} (state : Drive × (Engine × Listener))
    (other : Drive × (Engine × Other)) : Prop :=
  state.1 = other.1 ∧ state.2.1 = other.2.1

theorem SameButHeard.handler {Other : Type} (listen : Moment → Handler Progress Listener)
    (otherListen : Moment → Handler Progress Other) (moment : Moment)
    (request : (Station Inner).Request) {state : Drive × (Engine × Listener)}
    {other : Drive × (Engine × Other)} (same : SameButHeard state other) :
    let one := (Services.mk files work listen).handler moment request state
    let another := (Services.mk files work otherListen).handler moment request other
    one.1 = another.1 ∧ SameButHeard one.2 another.2 := by
  obtain ⟨drive, engine, listener⟩ := state
  obtain ⟨otherDrive, otherEngine, otherListener⟩ := other
  obtain ⟨rfl, rfl⟩ : drive = otherDrive ∧ engine = otherEngine := same
  rcases request with task | step | event <;> exact ⟨rfl, rfl, rfl⟩

/-- Whoever listens, the jobs come to the same and the drive ends the same. -/
theorem results?_of_listener [Picture Image] [ScaleFactor Scale]
    (means : (task : Task Image Scale) → Procedure Inner task.Answer) (capabilities : Capabilities)
    (settings : Settings) (moment : Moment) (inputs : Inputs) (assignment : Assignment)
    (drive : Drive) (engine : Engine) (listen : Moment → Handler Progress Listener)
    (listener : Listener) (schedule : Schedule Moment) :
    let others : Services Moment Inner Drive Engine Listener :=
      { files := files, work := work, listen := listen }
    let heard := (begun means capabilities settings (noted files work) moment inputs assignment
      (drive, (engine, []))).run (noted files work).handler schedule
    let unheard := (begun means capabilities settings others moment inputs assignment
      (drive, (engine, listener))).run others.handler schedule
    unheard.results? = heard.results? ∧ unheard.shared.1 = heard.shared.1 := by
  intro others heard unheard
  have answers := SameButHeard.handler files work (fun _ => record) listen
  have alike : SameButHeard (drive, (engine, ([] : List Event))) (drive, (engine, listener)) :=
    ⟨rfl, rfl⟩
  have begins := Procedure.run_alike SameButHeard (fun request _ _ => answers moment request)
    ((tellAll (rejections inputs assignment)).carryOut (steps means)) alike
  obtain ⟨workers, shared, -⟩ := Pool.run_alike SameButHeard
    (fun moment request _ _ => answers moment request)
    (crew means capabilities settings assignment.jobs) begins.2 schedule
  refine ⟨?_, shared.1.symm⟩
  unfold Pool.results?
  exact congrArg _ workers.symm

end Listen

/-! ### The accounts -/

/-- The accounts of a batch are in order: all files are counted, each is the source of one event,
the events are counted right, and those of what is rejected come first. -/
structure Balanced (inputs : Inputs) (assignment : Assignment) (events : List Event)
    (summary : Summary) : Prop where
  total : summary.processed + summary.failed = inputs.files.length + inputs.unreadable.length
  sources : (events.map Event.source).Perm
    (inputs.unreadable.map Prod.fst ++ inputs.files.map Prod.fst)
  processed : events.countP Event.isProcessed = summary.processed
  failed : (events.countP fun event => !event.isProcessed) = summary.failed
  rejectedFirst : ∃ byJobs, events = rejections inputs assignment ++ byJobs ∧
    (byJobs.map Event.source).Perm (assignment.jobs.map Job.source)

/-- The rejections and one event of each job make up the accounts. -/
theorem balanced_of_jobs {inputs : Inputs} {input output : Path} {format : Format}
    {byJobs : List Event} {times : Job → Duration} {outcomes : Job → Except JobError Nat}
    (tells : byJobs.Perm ((assign inputs.files input output format).jobs.map fun job =>
      job.event (times job) (outcomes job))) (elapsed : Duration) :
    let assignment := assign inputs.files input output format
    let rejected := rejections inputs assignment
    Balanced inputs assignment (rejected ++ byJobs) (summarize rejected.length
      (assignment.jobs.map fun job => (outcomes job).isOk) elapsed) := by
  intro assignment rejected
  have sources : (byJobs.map Event.source).Perm (assignment.jobs.map Job.source) := by
    refine (tells.map Event.source).trans (.of_eq ?_)
    rw [List.map_map]
    exact List.map_congr_left fun job _ => source_event job _ _
  have named : ((rejected ++ byJobs).map Event.source).Perm
      (inputs.unreadable.map Prod.fst ++ inputs.files.map Prod.fst) := by
    rw [List.map_append, map_source_rejections, List.append_assoc]
    refine List.Perm.append_left _ (.trans (List.Perm.append_left _ sources) ?_)
    exact perm_sources_assign inputs.files input output format
  have rejectedCount : rejected.countP Event.isProcessed = 0 :=
    List.countP_eq_zero.2 fun event member => by
      rw [not_isProcessed_of_mem_rejections member]
      exact Bool.false_ne_true
  have jobsCount : byJobs.countP Event.isProcessed =
      (assignment.jobs.map fun job => (outcomes job).isOk).countP id := by
    rw [tells.countP_eq, List.countP_map, List.countP_map]
    exact List.countP_congr fun job _ => by simp
  have length : byJobs.length = (assignment.jobs.map fun job => (outcomes job).isOk).length := by
    rw [tells.length_eq, List.length_map, List.length_map]
  generalize (assignment.jobs.map fun job => (outcomes job).isOk) = succeeded at jobsCount length ⊢
  have processed : (rejected ++ byJobs).countP Event.isProcessed = succeeded.countP id := by
    rw [List.countP_append, rejectedCount, Nat.zero_add, jobsCount]
  have bound : succeeded.countP id ≤ succeeded.length := List.countP_le_length
  have whole := named.length_eq
  have split := List.length_eq_countP_add_countP Event.isProcessed (l := rejected ++ byJobs)
  simp only [List.length_map, List.length_append] at whole
  rw [List.length_append, processed] at split
  refine ⟨?_, named, processed, ?_, byJobs, rfl, sources⟩
  · show succeeded.countP id + (succeeded.length - succeeded.countP id + rejected.length) = _
    omega
  · show _ = succeeded.length - succeeded.countP id + rejected.length
    have negated : ((rejected ++ byJobs).countP fun event => !event.isProcessed) =
        (rejected ++ byJobs).countP fun event => decide ¬event.isProcessed = true :=
      List.countP_congr fun event _ => by simp
    omega

section Accounts

variable [Picture Image] [ScaleFactor Scale]

/-- Once all jobs of a batch have ended, which some schedule brings about, the accounts are in
order, whatever the schedule was and whatever was answered. They are the same for any other
listener. What was written is the outputs of those jobs whose result was made and stored, each with
that result; and it is there at the end, on any file system that keeps what is written. -/
theorem balanced_results (files : Moment → Handler FileAccess Drive)
    (work : Moment → Handler Inner Engine)
    (means : (task : Task Image Scale) → Procedure Inner task.Answer)
    (capabilities : Capabilities) (settings : Settings) (inputs : Inputs) (input output : Path)
    (moment : Moment) (drive : Drive) (engine : Engine) :
    let assignment := assign inputs.files input output settings.options.format
    let services := noted files work
    let pool := begun means capabilities settings services moment inputs assignment
      (drive, (engine, []))
    (∃ schedule succeeded, (pool.run services.handler schedule).results? = some succeeded) ∧
    ∀ schedule succeeded, (pool.run services.handler schedule).results? = some succeeded →
      let final := (pool.run services.handler schedule).shared
      let trace := pool.trace services.handler schedule
      (∀ elapsed, Balanced inputs assignment final.2.2
        (summarize (rejections inputs assignment).length succeeded elapsed)) ∧
      (∀ (Listener : Type) (listen : Moment → Handler Progress Listener) (listener : Listener),
        let others : Services Moment Inner Drive Engine Listener :=
          { files := files, work := work, listen := listen }
        let ended := (begun means capabilities settings others moment inputs assignment
          (drive, (engine, listener))).run others.handler schedule
        ended.results? = some succeeded ∧ ended.shared.1 = final.1) ∧
      ∃ (made : Job → Except JobError Bytes) (stored : Job → Except FileError Unit),
        (∀ job ∈ assignment.jobs, job.Course means capabilities settings (Pool.talk job trace)
          (made job) (stored job)) ∧
        succeeded = assignment.jobs.map (fun job => (Job.ended (made job) (stored job)).isOk) ∧
        (written (trace.map Prod.snd)).Perm
          (assignment.jobs.filterMap fun job => job.yield? (made job) (stored job)) ∧
        ∀ content Fit, Retentive files content Fit (Asked assignment.jobs)
            (Outputs assignment.jobs) → Fit drive →
          ∀ file ∈ written (trace.map Prod.snd), content final.1 file.1 = some file.2 := by
  intro assignment services pool
  have apart : assignment.jobs.Pairwise Job.Apart := pairwise_output_assign _ _ _ _
  have distinct : assignment.jobs.Nodup := nodup_jobs_assign _ _ _ _
  have begins : pool = Pool.mk (crew means capabilities settings assignment.jobs)
      (drive, (engine, rejections inputs assignment)) :=
    begun_noted files work means capabilities settings moment inputs assignment drive engine
  clear_value pool
  subst begins
  refine ⟨?_, fun schedule succeeded ended => ?_⟩
  · obtain ⟨schedule, results, -⟩ := exists_results_inTurn services.handler moment _
    exact ⟨schedule, _, results⟩
  intro final trace
  obtain ⟨made, stored, courses, rfl⟩ := exists_courses distinct ended
  obtain ⟨byJobs, times, heard, tells⟩ := exists_heard_of_courses files work distinct courses
  refine ⟨fun elapsed => ?_, fun Listener listen listener => ?_, made, stored, courses,
    rfl, perm_written distinct courses, fun content Fit law fit =>
      content_of_mem_written apart law fit courses⟩
  · rw [heard]
    exact balanced_of_jobs tells elapsed
  · have unheard := results?_of_listener files work means capabilities settings moment inputs
      assignment drive engine listen listener schedule
    rw [begun_noted] at unheard
    exact ⟨unheard.1.trans ended, unheard.2⟩

end Accounts

theorem balanced_results_sample :
    let assignment := assign sampleInputs.files (.ofString "in") (.ofString "out") .png
    let services := noted (fun _ : Unit => Disk.handler) fun _ => SharedState.step Container.codec
    let pool := begun (@Pixels.perform Rat _ {}) (EngineSettings.capabilities {}) sampleSettings
      services () sampleInputs assignment (sampleDisk, (.initial 100 1, []))
    ∃ schedule succeeded, (pool.run services.handler schedule).results? = some succeeded ∧
      let final := (pool.run services.handler schedule).shared
      (∀ elapsed, Balanced sampleInputs assignment final.2.2
        (summarize (rejections sampleInputs assignment).length succeeded elapsed)) ∧
      ∀ file ∈ written ((pool.trace services.handler schedule).map Prod.snd),
        final.1.content? file.1 = some file.2 := by
  intro assignment services pool
  have law : Retentive (fun _ : Unit => Disk.handler) Disk.content? (Prepared assignment.jobs)
      (Asked assignment.jobs) (Outputs assignment.jobs) :=
    retentive_outputs (retentive_prepared Unit (jobs_sample ▸ plain_sample))
  obtain ⟨⟨schedule, succeeded, ended⟩, accounts⟩ := balanced_results (fun _ : Unit => Disk.handler)
    (fun _ => SharedState.step Container.codec) (@Pixels.perform Rat _ {})
    (EngineSettings.capabilities {}) sampleSettings sampleInputs (.ofString "in")
    (.ofString "out") () sampleDisk (.initial 100 1)
  obtain ⟨balanced, -, made, stored, -, -, -, holds⟩ := accounts schedule succeeded ended
  exact ⟨schedule, succeeded, ended, balanced,
    holds _ _ law (jobs_sample ▸ prepared_sample)⟩

end Thumbnailer.Batch
