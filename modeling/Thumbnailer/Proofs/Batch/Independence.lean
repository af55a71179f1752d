/-
This file shows that what a batch comes to does not depend on the order in which its jobs take their
steps. The jobs share one engine, and their steps on its cache are mixed like all others; they share
one file system as well. What is cached, what is found there and what is pushed out depends on the
schedule, but no result does.

A job relies on two things. The cache is truthful about the images that the batch may ask for, and
the source of the job is as it was when the batch began, until the job has read it. The others owe
it the same: none of them writes to that source. So each job comes to what it was expected to come
to from the beginning: what its depiction gives for what its source held then, stored as the file
system stores it at any time.

That no job writes to the source of another is a matter of files and not of paths. Where a link
ties an output to a source, their paths are different and the law of file systems fails; then the
order of the jobs decides what they come to. What two schedules come to is computed with the engine
on a ledger.
-/

import Thumbnailer.Proofs.Batch.Accounting
import Thumbnailer.Proofs.Batch.Prepared
import Thumbnailer.Proofs.Cache.Ledger
import Thumbnailer.Proofs.Depiction
import Thumbnailer.Proofs.Interference

namespace Thumbnailer.Batch

open Procedure

variable {Scale Drive : Type} [ScaleFactor Scale]

/-! ### What is expected -/

/-- The request for the data of a file, without a deadline. -/
def Job.request (job : Job) (settings : Settings) (data : Bytes) : Request :=
  { data := data
    format := (Format.sniff data).getD job.format
    options := settings.options
    quality := settings.quality
    deadline := .never { nanoseconds := 0 } }

/-- What a job makes of what its source reads as. -/
def Job.expected (Scale : Type) [ScaleFactor Scale] (codec : Codec) (engine : EngineSettings)
    (capabilities : Capabilities) (settings : Settings) (job : Job) :
    Except FileError Bytes → Except JobError Bytes
  | .error refusal => .error (.refused refusal)
  | .ok data =>
    let stage : Stage Decoded Scale Bytes := Stage.process capabilities (job.request settings data)
    (Depiction.outcome codec engine stage).mapError (.pipeline job.source)

/-- What the sources of jobs read as. -/
abbrev Readings := Job → Except FileError Bytes

def readings (files : Handler FileAccess Drive) (drive : Drive) : Readings :=
  fun job => (files (.read job.source) drive).1

/-- The images that some jobs may ask their engine to decode or to keep. -/
def wishes (Scale : Type) [ScaleFactor Scale] (codec : Codec) (settings : Settings)
    (reads : Readings) (jobs : List Job) : List Wish :=
  jobs.flatMap fun job =>
    match reads job with
    | .error _ => []
    | .ok data => ((job.request settings data).wishes Scale codec).flatMap Wish.parts

/-- The shared engine, where the moment decides what time it is. -/
def clocked (codec : Codec) : Instant → Handler WorkerAccess SharedState :=
  fun moment step state => SharedState.step codec step { state with clock := moment }

/-- What the outcome of some jobs needs so as not to depend on their order: no deadline is set and
no job writes over the source of another; the file system keeps what is written, and reads or
refuses a source, and stores or refuses an output, at one time as at any other; and no two keys of
the cache are digested to the same, nor does it hold anything wrong to begin with. -/
structure Orderly (Scale : Type) [ScaleFactor Scale] (codec : Codec) (settings : Settings)
    (files : Handler FileAccess Drive) (content : Drive → Path → Option Bytes)
    (Fit : Drive → Prop) (drive : Drive) (engine : SharedState) (jobs : List Job) : Prop where
  timeless : settings.timeout = none
  spared : ∀ job ∈ jobs, ∀ other ∈ jobs, job ≠ other → job.output.sameAs other.source = false
  law : Retentive (fun _ : Instant => files) content Fit (Asked jobs) (Places jobs)
  fit : Fit drive
  reads : ∀ job ∈ jobs, ∀ later, Fit later →
    (readings files later job).map (fun _ => ()) = (readings files drive job).map fun _ => ()
  stores : ∀ job ∈ jobs, ∀ data, ∃ stored, Guarded files Fit (· = stored) (job.store data)
  free : CollisionFree ((wishes Scale codec settings (readings files drive) jobs).map Wish.material)
  truthful : Truthful codec (wishes Scale codec settings (readings files drive) jobs) engine

/-- A batch without deadlines on a prepared disk is orderly if it spares its sources. -/
theorem orderly_of_prepared {codec : Codec} {settings : Settings} {jobs : List Job} {disk : Disk}
    {engine : SharedState} (plain : Plain jobs) (prepared : Prepared jobs disk)
    (timeless : settings.timeout = none)
    (spared : ∀ job ∈ jobs, ∀ other ∈ jobs, job ≠ other →
      job.output.sameAs other.source = false)
    (free : CollisionFree
      ((wishes Scale codec settings (readings Disk.handler disk) jobs).map Wish.material))
    (truthful : Truthful codec (wishes Scale codec settings (readings Disk.handler disk) jobs)
      engine) :
    Orderly Scale codec settings Disk.handler Disk.content? (Prepared jobs) disk engine jobs where
  timeless := timeless
  spared := spared
  law := retentive_prepared Instant plain
  fit := prepared
  reads job member later laterPrepared := by
    obtain ⟨data, reads⟩ := prepared.exists_read plain member
    obtain ⟨laterData, laterReads⟩ := laterPrepared.exists_read plain member
    unfold readings
    rw [show (Disk.handler (.read job.source) later).1 = _ from laterReads,
      show (Disk.handler (.read job.source) disk).1 = _ from reads]
    rfl
  stores job member data := ⟨.ok (), Prepared.guarded_store plain member data⟩
  free := free
  truthful := truthful

/-! ### What a job relies on -/

section Rely

variable (codec : Codec) (wanted : List Wish) (content : Drive → Path → Option Bytes)
  (Fit : Drive → Prop) {Listener : Type}

/-- The drive is fit, and the cache is truthful. -/
def Within (state : Drive × (SharedState × Listener)) : Prop :=
  Fit state.1 ∧ Truthful codec wanted state.2.1

/-- A job relies on finding its source as it was. -/
def Relied (jobs : List Job) (job : Job) (before after : Drive × (SharedState × Listener)) : Prop :=
  Within codec wanted Fit after ∧
    (job ∈ jobs → content after.1 job.source = content before.1 job.source)

/-- A job owes it to the others to leave their sources as they were. -/
def Owes (jobs : List Job) (job : Job) (before after : Drive × (SharedState × Listener)) : Prop :=
  Within codec wanted Fit after ∧
    ∀ other ∈ jobs, job ≠ other → content after.1 other.source = content before.1 other.source

end Rely

section Secure

variable {codec : Codec} {wanted : List Wish} {files : Handler FileAccess Drive}
  {content : Drive → Path → Option Bytes} {Fit : Drive → Prop} {jobs : List Job} {job : Job}
  {state : Drive × (SharedState × List Event)}

/-- Work of the engine among others is secure, for it owes only that the cache is truthful. -/
theorem secure_engine {Result : Type} {Promise : Result → Prop}
    {work : Procedure WorkerAccess Result}
    (guarded : Guarded (SharedState.step codec) (Truthful codec wanted) Promise work) :
    Secure (noted (fun _ => files) (clocked codec)).handler
      (Relied codec wanted content Fit jobs job) (Owes codec wanted content Fit jobs job)
      ((work.onLeft Progress).onRight FileAccess) (fun _ result => Promise result) state := by
  induction work generalizing state with
  | done result => exact guarded
  | ask step next inductionHypothesis =>
    intro later relied moment
    obtain ⟨⟨fit, truthful⟩, -⟩ := relied
    obtain ⟨remains, further⟩ := guarded { later.2.1 with clock := moment } truthful
    exact ⟨⟨⟨fit, remains⟩, fun _ _ _ => rfl⟩, inductionHypothesis _ further⟩

/-- Storing among others is secure, for it writes to the job's own output only. -/
theorem secure_files {Result : Type} {Promise : Result → Prop}
    (spared : ∀ other ∈ jobs, job ≠ other → job.output.sameAs other.source = false)
    (law : Retentive (fun _ : Instant => files) content Fit (Asked jobs) (Places jobs))
    (member : job ∈ jobs) {procedure : Procedure FileAccess Result}
    (asks : procedure.Asks job.Touches) (guarded : Guarded files Fit Promise procedure) :
    Secure (noted (fun _ => files) (clocked codec)).handler
      (Relied codec wanted content Fit jobs job) (Owes codec wanted content Fit jobs job)
      (procedure.onLeft _) (fun _ result => Promise result) state := by
  induction procedure generalizing state with
  | done result => exact guarded
  | ask task next inductionHypothesis =>
    intro later relied moment
    obtain ⟨⟨fit, truthful⟩, -⟩ := relied
    obtain ⟨touches, asksFurther⟩ := asks
    obtain ⟨remains, further⟩ := guarded later.1 fit
    refine ⟨⟨⟨remains, truthful⟩, fun other otherMember different => ?_⟩,
      inductionHypothesis _ (asksFurther _) further⟩
    refine law.others moment ⟨other, otherMember, .inl rfl⟩ ⟨job, member, touches⟩ fit ?_
    cases touches with
    | read => rfl
    | makes makes => cases makes <;> rfl
    | write data => exact spared other otherMember different

end Secure

section Jobs

variable {codec : Codec} {engineSettings : EngineSettings} {capabilities : Capabilities}
  {settings : Settings} {files : Handler FileAccess Drive} {content : Drive → Path → Option Bytes}
  {Fit : Drive → Prop} {drive : Drive} {engine : SharedState} {jobs : List Job} {job : Job}
  {state : Drive × (SharedState × List Event)}

/-- As long as a source is as it was, it reads as it did. -/
theorem readings_eq (orderly : Orderly Scale codec settings files content Fit drive engine jobs)
    (member : job ∈ jobs) {later : Drive} (fit : Fit later)
    (unmoved : content later job.source = content drive job.source) :
    readings files later job = readings files drive job := by
  have place : Places jobs job.source := ⟨job, member, .inl rfl⟩
  have steady := orderly.reads job member later fit
  have readsNow {data : Bytes} (reads : readings files later job = .ok data) :
      content later job.source = some data := orderly.law.read ⟨0⟩ place fit reads
  have readBefore {data : Bytes} (reads : readings files drive job = .ok data) :
      content drive job.source = some data := orderly.law.read ⟨0⟩ place orderly.fit reads
  rcases now : readings files later job with refusal | data <;>
    rcases before : readings files drive job with refusalBefore | dataBefore <;>
    rw [now, before] at steady
  · exact congrArg _ (Except.error.inj steady)
  · cases steady
  · cases steady
  · have same := (readsNow now).symm.trans (unmoved.trans (readBefore before))
    rw [Option.some.inj same]

/-- What a job may ask its engine to keep is wished for. -/
theorem mem_wishes (member : job ∈ jobs) {reads : Readings} {data : Bytes}
    (read : reads job = .ok data) :
    ∀ wish ∈ (job.request settings data).wishes Scale codec, ∀ part ∈ wish.parts,
      part ∈ wishes Scale codec settings reads jobs := by
  intro wish wished part inParts
  refine List.mem_flatMap.2 ⟨job, member, ?_⟩
  rw [read]
  exact List.mem_flatMap.2 ⟨wish, wished, inParts⟩

/-- To look at the clock is secure. -/
theorem secure_now {wanted : List Wish} :
    Secure (noted (fun _ => files) (clocked codec)).handler
      (Relied codec wanted content Fit jobs job) (Owes codec wanted content Fit jobs job)
      ((now : Procedure (Service Canvas Scale) Instant).carryOut
        (steps (Pixels.perform engineSettings)))
      (fun _ _ => True) state :=
  fun _ relied _ => ⟨⟨relied.1, fun _ _ _ => rfl⟩, trivial⟩

/-- A job makes what is expected of it. -/
theorem secure_produce (orderly : Orderly Scale codec settings files content Fit drive engine jobs)
    (member : job ∈ jobs) (unmoved : content state.1 job.source = content drive job.source) :
    let wanted := wishes Scale codec settings (readings files drive) jobs
    Secure (noted (fun _ => files) (clocked codec)).handler
      (Relied codec wanted content Fit jobs job) (Owes codec wanted content Fit jobs job)
      ((job.produce capabilities settings).run.carryOut
        (steps (@Pixels.perform Scale _ engineSettings)))
      (fun _ made => made = job.expected Scale codec engineSettings capabilities settings
        (readings files drive job)) state := by
  intro wanted later relied moment
  obtain ⟨⟨fit, truthful⟩, stays⟩ := relied
  have touches : Asked jobs (.read job.source) := ⟨job, member, .read⟩
  refine ⟨⟨⟨orderly.law.fit moment touches fit, truthful⟩, fun other otherMember _ =>
    orderly.law.others moment ⟨other, otherMember, .inl rfl⟩ touches fit rfl⟩, ?_⟩
  have asBefore := readings_eq orderly member fit ((stays member).trans unmoved)
  generalize ((noted (fun _ => files) (clocked codec)).handler moment (.inl (.read job.source))
    later).2 = after
  have answered : ((noted (fun _ => files) (clocked codec)).handler moment (.inl (.read job.source))
    later).1 = readings files drive job := asBefore
  rw [answered]
  cases read : readings files drive job with
  | error refusal => rfl
  | ok data =>
    show Secure _ _ _ ((now.bind _).carryOut _) _ _
    rw [carryOut_bind]
    refine secure_now.bind fun _ started _ middle => ?_
    rw [carryOut_bind, carryOut_engine]
    have never : (Deadline.ofTimeout started settings.timeout).limit = none := by
      rw [orderly.timeless]
      rfl
    have depicted : Stage.Depicted codec engineSettings wanted Eq
        (Stage.process capabilities { job.request settings data with
          deadline := .ofTimeout started settings.timeout } : Stage Canvas Scale Bytes)
        (Stage.process capabilities (job.request settings data)) :=
      Stage.depicted_process capabilities never rfl (mem_wishes member read)
    refine (secure_engine (Depiction.guarded_of_depicted (keysApart_of_collisionFree orderly.free)
      depicted)).bind fun _ answer is _ => ?_
    rw [is]
    rfl

/-- How the output of a job is stored that made its result so. -/
def Job.storedAs (storing : Bytes → Except FileError Unit) :
    Except JobError Bytes → Except FileError Unit
  | .ok data => storing data
  | .error _ => .ok ()

/-- A job makes and stores what is expected of it. -/
theorem secure_serve (orderly : Orderly Scale codec settings files content Fit drive engine jobs)
    (member : job ∈ jobs) {storing : Bytes → Except FileError Unit}
    (stores : ∀ data, Guarded files Fit (· = storing data) (job.store data))
    (unmoved : content state.1 job.source = content drive job.source) :
    let wanted := wishes Scale codec settings (readings files drive) jobs
    let means := @Pixels.perform Scale _ engineSettings
    let made := job.expected Scale codec engineSettings capabilities settings
      (readings files drive job)
    Secure (noted (fun _ => files) (clocked codec)).handler
      (Relied codec wanted content Fit jobs job) (Owes codec wanted content Fit jobs job)
      ((job.serve capabilities settings).run.carryOut (steps means))
      (fun talk result => job.Serving means capabilities settings talk made
          (Job.storedAs storing made) ∧ result = Job.ended made (Job.storedAs storing made))
      state := by
  intro wanted means made
  rw [Job.serve_eq, carryOut_bind]
  refine (secure_produce orderly member unmoved).conversation.bind ?_
  rintro before result ⟨produced, is⟩ middle
  rw [show made = result from is.symm]
  clear is
  cases result with
  | error failure =>
    refine ⟨?_, rfl⟩
    rw [List.append_nil]
    exact .lost produced
  | ok data =>
    dsimp only
    rw [carryOut_bind, carryOut_files]
    refine (secure_files (orderly.spared job member) orderly.law member (job.asks_store data)
      (stores data)).conversation.bind ?_
    rintro after stored ⟨storing, rfl⟩ _
    refine ⟨?_, rfl⟩
    rw [List.append_nil]
    exact .kept produced storing

/-- A job goes the course that is expected of it. -/
theorem secure_perform (orderly : Orderly Scale codec settings files content Fit drive engine jobs)
    (member : job ∈ jobs) {storing : Bytes → Except FileError Unit}
    (stores : ∀ data, Guarded files Fit (· = storing data) (job.store data))
    (unmoved : content state.1 job.source = content drive job.source) :
    let wanted := wishes Scale codec settings (readings files drive) jobs
    let means := @Pixels.perform Scale _ engineSettings
    let made := job.expected Scale codec engineSettings capabilities settings
      (readings files drive job)
    Secure (noted (fun _ => files) (clocked codec)).handler
      (Relied codec wanted content Fit jobs job) (Owes codec wanted content Fit jobs job)
      ((job.perform capabilities settings).carryOut (steps means))
      (fun talk success => job.Course means capabilities settings talk made
          (Job.storedAs storing made) ∧
        success = (Job.ended made (Job.storedAs storing made)).isOk) state := by
  intro wanted means made later relied moment
  refine ⟨⟨relied.1, fun _ _ _ => rfl⟩, ?_⟩
  show Secure _ _ _ (((job.serve capabilities settings).run.bind _).carryOut _) _ _
  rw [carryOut_bind]
  have still : content ((noted (fun _ => files) (clocked codec)).handler moment
      (.inr (.inl .now)) later).2.1 job.source = content drive job.source :=
    (relied.2 member).trans unmoved
  refine (secure_serve orderly member stores still).bind ?_
  rintro serving result ⟨served, rfl⟩ middle
  rw [carryOut_bind]
  refine secure_now.conversation.bind ?_
  rintro closing stopped ⟨closed, -⟩ _ last lastRelied lastMoment
  have opened (started : Instant) : Conversation
      ((now : Procedure (Service Canvas Scale) Instant).carryOut (steps means))
      [⟨.inr (.inl WorkerStep.now), started⟩] started := .ask (.done started)
  exact ⟨⟨lastRelied.1, fun _ _ _ => rfl⟩, .intro (opened _) served closed, rfl⟩

/-- Whatever the schedule was, at the end each job has gone the course that was expected of it. -/
theorem courses_expected
    (orderly : Orderly Scale codec settings files content Fit drive engine jobs)
    (distinct : jobs.Nodup) {storing : Job → Bytes → Except FileError Unit}
    (stores : ∀ job ∈ jobs, ∀ data, Guarded files Fit (· = storing job data) (job.store data))
    {heard : List Event} {schedule : Schedule Instant} {succeeded : List Bool} :
    let means := @Pixels.perform Scale _ engineSettings
    let services := noted (fun _ : Instant => files) (clocked codec)
    let pool := Pool.mk (crew means capabilities settings jobs) (drive, (engine, heard))
    let made := fun job : Job => job.expected Scale codec engineSettings capabilities settings
      (readings files drive job)
    let stored := fun job => Job.storedAs (storing job) (made job)
    (pool.run services.handler schedule).results? = some succeeded →
    (∀ job ∈ jobs, job.Course means capabilities settings
      (Pool.talk job (pool.trace services.handler schedule)) (made job) (stored job)) ∧
    succeeded = jobs.map fun job => (Job.ended (made job) (stored job)).isOk := by
  intro means services pool made stored ended
  have labelled : pool.labels = jobs := labels_crew jobs _
  obtain ⟨success, rfl, finished⟩ := Pool.exists_result_of_results?
    (by rwa [Pool.labels_run, labelled]) ended
  rw [Pool.labels_run, labelled] at finished ⊢
  have promises : ∀ job ∈ jobs, job.Course means capabilities settings
      (Pool.talk job (pool.trace services.handler schedule)) (made job) (stored job) ∧
      success job = (Job.ended (made job) (stored job)).isOk := by
    intro job member
    let wanted := wishes Scale codec settings (readings files drive) jobs
    refine Pool.promise_of_secure (Within codec wanted Fit) (Relied codec wanted content Fit jobs)
      (Owes codec wanted content Fit jobs)
      (fun job talk success => job.Course means capabilities settings talk (made job) (stored job) ∧
        success = (Job.ended (made job) (stored job)).isOk)
      ?_ ?_ ?_ ?_ (by rwa [labelled]) ⟨orderly.fit, orderly.truthful⟩ ?_ schedule
      (finished job member)
    · exact fun _ _ within => ⟨within, fun _ => rfl⟩
    · exact fun _ _ _ _ first second =>
        ⟨second.1, fun member => (second.2 member).trans (first.2 member)⟩
    · exact fun _ _ _ owed => owed.1
    · exact fun different _ _ owed => ⟨owed.1, fun member => owed.2 _ member different⟩
    · intro other procedure otherMember
      obtain ⟨worker, workerMember, same⟩ := List.mem_map.1 otherMember
      obtain ⟨rfl, rfl⟩ := Prod.mk.inj same
      exact secure_perform orderly workerMember (stores worker workerMember) rfl
  exact ⟨fun job member => (promises job member).1,
    List.map_congr_left fun job member => (promises job member).2⟩

end Jobs

/-! ### Two schedules -/

/-- An event without the time that its file took. -/
def Event.untimed : Event → Event
  | .processed source output size _ => .processed source output size { nanoseconds := 0 }
  | .failed source error => .failed source error

theorem untimed_event (job : Job) (elapsed other : Duration) (ended : Except JobError Nat) :
    (job.event elapsed ended).untimed = (job.event other ended).untimed := by
  cases ended <;> rfl

section Runs

variable {codec : Codec} {engineSettings : EngineSettings} {capabilities : Capabilities}
  {settings : Settings} {files : Handler FileAccess Drive} {content : Drive → Path → Option Bytes}
  {Fit : Drive → Prop} {drive : Drive} {engine : SharedState} {inputs : Inputs}
  {input output : Path}

/-- Any run comes to what was expected: the same jobs succeed, the same is told up to times, the
same is written, and it is there at the end. -/
theorem run_expected (orderly : Orderly Scale codec settings files content Fit drive engine
      (assign inputs.files input output settings.options.format).jobs)
    {storing : Job → Bytes → Except FileError Unit}
    (stores : ∀ job ∈ (assign inputs.files input output settings.options.format).jobs,
      ∀ data, Guarded files Fit (· = storing job data) (job.store data))
    (moment : Instant) {schedule : Schedule Instant} {succeeded : List Bool} :
    let assignment := assign inputs.files input output settings.options.format
    let means := @Pixels.perform Scale _ engineSettings
    let services := noted (fun _ : Instant => files) (clocked codec)
    let pool := begun means capabilities settings services moment inputs assignment
      (drive, (engine, []))
    let made := fun job : Job => job.expected Scale codec engineSettings capabilities settings
      (readings files drive job)
    let stored := fun job => Job.storedAs (storing job) (made job)
    let final := (pool.run services.handler schedule).shared
    let output := written ((pool.trace services.handler schedule).map Prod.snd)
    (pool.run services.handler schedule).results? = some succeeded →
    (succeeded = assignment.jobs.map fun job => (Job.ended (made job) (stored job)).isOk) ∧
    (final.2.2.map Event.untimed).Perm ((rejections inputs assignment ++ assignment.jobs.map
      fun job => job.event ⟨0⟩ (Job.ended (made job) (stored job))).map Event.untimed) ∧
    output.Perm (assignment.jobs.filterMap fun job => job.yield? (made job) (stored job)) ∧
    ∀ file ∈ output, content final.1 file.1 = some file.2 := by
  intro assignment means services pool made stored final written ended
  have apart : assignment.jobs.Pairwise Job.Apart := pairwise_output_assign _ _ _ _
  have distinct : assignment.jobs.Nodup := nodup_jobs_assign _ _ _ _
  have begins : pool = Pool.mk (crew means capabilities settings assignment.jobs)
      (drive, (engine, rejections inputs assignment)) :=
    begun_noted _ _ means capabilities settings moment inputs assignment drive engine
  clear_value pool
  subst begins
  obtain ⟨courses, succeeds⟩ := courses_expected orderly distinct stores ended
  obtain ⟨byJobs, times, heard, tells⟩ := exists_heard_of_courses _ _ distinct courses
  refine ⟨succeeds, ?_, perm_written distinct courses,
    content_of_mem_written apart (retentive_outputs orderly.law) orderly.fit courses⟩
  rw [heard, List.map_append, List.map_append]
  refine List.Perm.append_left _ ((tells.map Event.untimed).trans (.of_eq ?_))
  rw [List.map_map, List.map_map]
  exact List.map_congr_left fun job _ => untimed_event job _ _ _

/-- Whatever the two schedules are by which the jobs of an orderly batch come to their ends, the
same jobs succeed, so the counts are the same; the same is told, in some order and up to the times
that files took; and the same files are written with the same data, which they hold at the end. -/
theorem outcome_of_schedules (orderly : Orderly Scale codec settings files content Fit drive engine
      (assign inputs.files input output settings.options.format).jobs)
    (moment otherMoment : Instant) (schedule otherSchedule : Schedule Instant)
    (succeeded otherSucceeded : List Bool) :
    let assignment := assign inputs.files input output settings.options.format
    let means := @Pixels.perform Scale _ engineSettings
    let services := noted (fun _ : Instant => files) (clocked codec)
    let pool := begun means capabilities settings services moment inputs assignment
      (drive, (engine, []))
    let other := begun means capabilities settings services otherMoment inputs assignment
      (drive, (engine, []))
    let final := (pool.run services.handler schedule).shared
    let otherFinal := (other.run services.handler otherSchedule).shared
    let output := written ((pool.trace services.handler schedule).map Prod.snd)
    let otherOutput := written ((other.trace services.handler otherSchedule).map Prod.snd)
    (pool.run services.handler schedule).results? = some succeeded →
    (other.run services.handler otherSchedule).results? = some otherSucceeded →
      succeeded = otherSucceeded ∧
      (final.2.2.map Event.untimed).Perm (otherFinal.2.2.map Event.untimed) ∧
      output.Perm otherOutput ∧
      ∀ file ∈ output, content final.1 file.1 = some file.2 ∧
        content otherFinal.1 file.1 = some file.2 := by
  intro assignment means services pool other final otherFinal written otherWritten ended otherEnded
  choose! storing stores using orderly.stores
  obtain ⟨succeeds, tells, writes, holds⟩ := run_expected orderly stores moment ended
  obtain ⟨otherSucceeds, otherTells, otherWrites, otherHolds⟩ :=
    run_expected orderly stores otherMoment otherEnded
  have same : written.Perm otherWritten := writes.trans otherWrites.symm
  exact ⟨succeeds.trans otherSucceeds.symm, tells.trans otherTells.symm, same,
    fun file member => ⟨holds file member, otherHolds file (same.subset member)⟩⟩

end Runs

/-! ### A sample -/

/-- The cache keys that the sample may come to have different digests. -/
theorem collisionFree_sample :
    CollisionFree ((wishes Rat Container.codec sampleSettings (readings Disk.handler sampleDisk)
      sampleJobs).map Wish.material) := by
  have holds : ∀ job ∈ sampleJobs,
      (sampleDisk.root.find? (sampleDisk.target job.source)).bind FileTree.data? =
        some (if job.format = .png then samplePicture else []) := by
    decide +kernel
  have reads : ∀ job ∈ sampleJobs, readings Disk.handler sampleDisk job =
      .ok (if job.format = .png then samplePicture else []) := fun job member =>
    (Disk.read_eq_ok_iff prepared_sample.linkFree (plain_sample.sources job member)).2
      (FileTree.bind_data?_eq_some_iff.1 (holds job member))
  have wished : wishes Rat Container.codec sampleSettings (readings Disk.handler sampleDisk)
      sampleJobs = [⟨[], .jpeg, 1⟩, ⟨[], .jpeg, 1⟩, ⟨samplePicture, .png, 1⟩,
        ⟨samplePicture, .png, 1⟩] := by
    have same : wishes Rat Container.codec sampleSettings (readings Disk.handler sampleDisk)
        sampleJobs = wishes Rat Container.codec sampleSettings
          (fun job => .ok (if job.format = .png then samplePicture else [])) sampleJobs :=
      List.flatMap_congr fun job member => by rw [reads job member]
    rw [same]
    decide +kernel
  rw [wished]
  refine collisionFree_of_two (Wish.material ⟨[], .jpeg, 1⟩)
    (Wish.material ⟨samplePicture, .png, 1⟩) (fun string member => ?_) (by decide +kernel)
  simp only [List.map_cons, List.map_nil, List.mem_cons, List.not_mem_nil, or_false] at member
  rcases member with same | same | same | same
  · exact .inl same
  · exact .inl same
  · exact .inr same
  · exact .inr same

/-- One schedule begins with the first job of the sample, the other one with the second. -/
theorem outcome_of_schedules_sample :
    let assignment := assign sampleInputs.files (.ofString "in") (.ofString "out") .png
    let services := noted (fun _ : Instant => Disk.handler) (clocked Container.codec)
    let pool := begun (@Pixels.perform Rat _ {}) (EngineSettings.capabilities {}) sampleSettings
      services ⟨0⟩ sampleInputs assignment (sampleDisk, (.initial 100 1, []))
    ∃ schedule otherSchedule succeeded,
      let final := pool.run services.handler ((0, ⟨1⟩) :: schedule)
      let otherFinal := pool.run services.handler ((1, ⟨2⟩) :: otherSchedule)
      final.results? = some succeeded ∧ otherFinal.results? = some succeeded ∧
      (final.shared.2.2.map Event.untimed).Perm (otherFinal.shared.2.2.map Event.untimed) ∧
      let output := written ((pool.trace services.handler ((0, ⟨1⟩) :: schedule)).map Prod.snd)
      let otherOutput :=
        written ((pool.trace services.handler ((1, ⟨2⟩) :: otherSchedule)).map Prod.snd)
      output.Perm otherOutput ∧ ∀ file ∈ output,
        final.shared.1.content? file.1 = otherFinal.shared.1.content? file.1 := by
  intro assignment services pool
  have orderly : Orderly Rat Container.codec sampleSettings Disk.handler Disk.content?
      (Prepared sampleJobs) sampleDisk (.initial 100 1) sampleJobs :=
    orderly_of_prepared plain_sample prepared_sample rfl (by decide +kernel) collisionFree_sample
      (Truthful.initial _ _ _ _)
  obtain ⟨schedule, ends, -⟩ := exists_results_inTurn services.handler ⟨3⟩
    (pool.turn (services.handler ⟨1⟩) 0)
  obtain ⟨otherSchedule, otherEnds, -⟩ := exists_results_inTurn services.handler ⟨4⟩
    (pool.turn (services.handler ⟨2⟩) 1)
  obtain ⟨same, tells, writes, holds⟩ := outcome_of_schedules (jobs_sample ▸ orderly) ⟨0⟩ ⟨0⟩
    ((0, ⟨1⟩) :: schedule) ((1, ⟨2⟩) :: otherSchedule) _ _ ends otherEnds
  refine ⟨schedule, otherSchedule, _, ends, otherEnds.trans (congrArg some same.symm), tells,
    writes, fun file member => ?_⟩
  obtain ⟨here, there⟩ := holds file member
  exact here.trans there.symm

/-! ### Links -/

/-- The shared engine on a ledger, where the moment decides what time it is. -/
def clockedLedger (codec : Codec) (memoryBudget : UInt64) (entryBudget : Nat) :
    Instant → Handler WorkerAccess Ledger :=
  fun moment step ledger =>
    Ledger.step codec memoryBudget entryBudget step { ledger with clock := moment }

/-- Everything is the same, but that a ledger tells what the engine shares. -/
def Recounts (memoryBudget : UInt64) (entryBudget : Nat)
    (state : Drive × (SharedState × List Event)) (other : Drive × (Ledger × List Event)) : Prop :=
  state.1 = other.1 ∧ Ledger.Tells memoryBudget entryBudget state.2.1 other.2.1 ∧
    state.2.2 = other.2.2

theorem Recounts.handler {memoryBudget : UInt64} {entryBudget : Nat}
    {state : Drive × (SharedState × List Event)} {other : Drive × (Ledger × List Event)}
    (recounts : Recounts memoryBudget entryBudget state other) (files : Handler FileAccess Drive)
    (codec : Codec) (moment : Instant) (request : (Station WorkerAccess).Request) :
    let one := (noted (fun _ => files) (clocked codec)).handler moment request state
    let another := (noted (fun _ => files)
      (clockedLedger codec memoryBudget entryBudget)).handler moment request other
    one.1 = another.1 ∧ Recounts memoryBudget entryBudget one.2 another.2 := by
  obtain ⟨drive, shared, heard⟩ := state
  obtain ⟨otherDrive, ledger, otherHeard⟩ := other
  obtain ⟨rfl, tells, rfl⟩ : drive = otherDrive ∧
    Ledger.Tells memoryBudget entryBudget shared ledger ∧ heard = otherHeard := recounts
  rcases request with task | step | event
  · exact ⟨rfl, rfl, tells, rfl⟩
  · have timed : Ledger.Tells memoryBudget entryBudget { shared with clock := moment }
        { ledger with clock := moment } := { tells with clock := rfl }
    obtain ⟨same, still⟩ := timed.step codec step
    exact ⟨same, rfl, still, rfl⟩
  · exact ⟨rfl, rfl, tells, rfl⟩

/-- A batch goes on a ledger as it goes on a new engine. -/
theorem run_ledger (files : Handler FileAccess Drive) (codec : Codec)
    (engineSettings : EngineSettings) (capabilities : Capabilities) (settings : Settings)
    (moment : Instant) (inputs : Inputs) (assignment : Assignment) (drive : Drive)
    (memoryBudget : UInt64) (entryBudget : Nat) (schedule : Schedule Instant) :
    let means := @Pixels.perform Scale _ engineSettings
    let services := noted (fun _ : Instant => files) (clocked codec)
    let others := noted (fun _ : Instant => files) (clockedLedger codec memoryBudget entryBudget)
    let ended := (begun means capabilities settings services moment inputs assignment
      (drive, (.initial memoryBudget entryBudget, []))).run services.handler schedule
    let told := (begun means capabilities settings others moment inputs assignment
      (drive, ({}, []))).run others.handler schedule
    ended.results? = told.results? ∧ ended.shared.1 = told.shared.1 ∧
      ended.shared.2.2 = told.shared.2.2 := by
  intro means services others ended told
  have begins : Recounts memoryBudget entryBudget
      (drive, (.initial memoryBudget entryBudget, rejections inputs assignment))
      (drive, ({}, rejections inputs assignment)) :=
    ⟨rfl, Ledger.tells_initial _ _, rfl⟩
  obtain ⟨workers, ⟨sameDrive, -, sameHeard⟩, -⟩ := Pool.run_alike
    (Recounts memoryBudget entryBudget)
    (fun moment request _ _ recounts => recounts.handler files codec moment request)
    (crew means capabilities settings assignment.jobs) begins schedule
  rw [← begun_noted _ _ means capabilities settings moment inputs assignment drive _,
    ← begun_noted _ _ means capabilities settings moment inputs assignment drive _]
    at workers sameDrive sameHeard
  exact ⟨congrArg (List.mapM _) workers, sameDrive, sameHeard⟩

/-- A link in the input directory leads to the output directory, in which there is a picture
already. -/
def linkedDisk : Disk :=
  { root := .directory
      [((Path.ofString "in").bytes, .directory
        [((Path.ofString "sub").bytes, .link (.ofString "../out")),
          ((Path.ofString "x.jpg").bytes,
            .file (Container.pack .jpeg (.unknown ⟨3, 2⟩ .rgb8) 1))]),
      ((Path.ofString "out").bytes, .directory
        [((Path.ofString "x.png").bytes, .file samplePicture)])] }

def linkedInputs : Inputs :=
  { files := [(.ofString "in/sub/x.png", .png), (.ofString "in/x.jpg", .jpeg)] }

/-- The jobs of these inputs, run on some engine by a schedule. -/
def linkedRun {Engine : Type} (work : Instant → Handler WorkerAccess Engine) (engine : Engine)
    (schedule : Schedule Instant) :
    Pool (Station WorkerAccess) Job Bool (Disk × (Engine × List Event)) :=
  let services := noted (fun _ => Disk.handler) work
  let pool := begun (@Pixels.perform Rat _ {}) (EngineSettings.capabilities {}) sampleSettings
    services ⟨0⟩ linkedInputs (assign linkedInputs.files (.ofString "in") (.ofString "out") .png)
    (linkedDisk, (engine, []))
  pool.run services.handler schedule

/-- One worker takes all its turns, and then another one does. -/
def oneByOne (first second : Nat) : Schedule Instant :=
  List.replicate 60 (first, ⟨1⟩) ++ List.replicate 60 (second, ⟨1⟩)

/-- The walk follows the link, so that the picture is an input. Its job reads from where the other
one writes to, though the paths are not the same: what comes first decides what it makes. The cache
has no part in it, for nothing is small enough to be kept. -/
theorem outcome_of_schedules_linked :
    let jobs := (assign linkedInputs.files (.ofString "in") (.ofString "out") .png).jobs
    let ended := fun schedule => linkedRun (clocked Container.codec) (.initial 1 1) schedule
    let place := Path.ofString "out/sub/x.png"
    ((Inputs.collect (EngineSettings.capabilities {}) (.ofString "in")).run
        Disk.handler linkedDisk).1 = .ok linkedInputs ∧
      sampleSettings.timeout = none ∧
      (∀ job ∈ jobs, ∀ other ∈ jobs, job ≠ other → job.output.sameAs other.source = false) ∧
      (ended (oneByOne 0 1)).results? = some [true, true] ∧
      (ended (oneByOne 1 0)).results? = some [true, true] ∧
      (ended (oneByOne 0 1)).shared.1.content? place ≠
        (ended (oneByOne 1 0)).shared.1.content? place ∧
      ¬((ended (oneByOne 0 1)).shared.2.2.map Event.untimed).Perm
        ((ended (oneByOne 1 0)).shared.2.2.map Event.untimed) := by
  intro jobs ended place
  let told := fun schedule => linkedRun (clockedLedger Container.codec 1 1) {} schedule
  have same : ∀ schedule, (ended schedule).results? = (told schedule).results? ∧
      (ended schedule).shared.1 = (told schedule).shared.1 ∧
      (ended schedule).shared.2.2 = (told schedule).shared.2.2 := fun schedule =>
    run_ledger Disk.handler Container.codec {} _ sampleSettings ⟨0⟩ linkedInputs _ linkedDisk 1 1
      schedule
  have walked : ((Walk.start (.ofString "in")).run Disk.handler linkedDisk).1 =
      .ok [.file (.ofString "in/sub/x.png"), .file (.ofString "in/x.jpg")] := by decide +kernel
  have found : Inputs.filesOf (EngineSettings.capabilities {})
      [.file (.ofString "in/sub/x.png"), .file (.ofString "in/x.jpg")] = linkedInputs.files := by
    decide +kernel
  refine ⟨?_, rfl, by decide +kernel, ?_, ?_, ?_, ?_⟩
  · rw [Inputs.collect, run_bind]
    dsimp only
    rw [walked]
    refine congrArg Except.ok (congrArg (Inputs.mk · []) ?_)
    rw [found]
    exact List.mergeSort_of_pairwise (by decide +kernel)
  · rw [(same _).1]
    decide +kernel
  · rw [(same _).1]
    decide +kernel
  · rw [(same _).2.1, (same _).2.1]
    decide +kernel
  · rw [(same _).2.2, (same _).2.2]
    decide +kernel

end Thumbnailer.Batch
