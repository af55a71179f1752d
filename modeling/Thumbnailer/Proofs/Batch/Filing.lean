/-
This file says what a batch relies on in a file system, and what the file system then holds once the
jobs have ended. The law of a file system is the usual one: what was written to a path is there, and
a request that does not write to a path leaves it as it is. It is asked for only at paths that the
batch uses, and only as long as nothing but the requests of the batch happens, since a file system
may tie two paths together by a link.

No two jobs write to the same path, so what a job wrote is there still when all of them have ended.
-/

import Thumbnailer.Proofs.Batch.Assignment
import Thumbnailer.Proofs.Batch.Underway

namespace Thumbnailer

open Procedure

/-- Whether a request writes to a path. -/
def FileTask.writesTo (place : Path) : FileTask → Bool
  | .write path _ => path.sameAs place
  | .read _ | .makeDirectory _ | .examine _ _ | .list _ => false

/-- The law of a file system, at some places and for some requests. It may answer differently at
every moment; `content` is what is in a file, and the law holds of the states that are `Fit`. -/
structure Retentive {Moment Drive : Type} (files : Moment → Handler FileAccess Drive)
    (content : Drive → Path → Option Bytes) (Fit : Drive → Prop) (asked : FileTask → Prop)
    (places : Path → Prop) : Prop where
  fit : ∀ moment {task drive}, asked task → Fit drive → Fit (files moment task drive).2
  /-- What is read is what is there. -/
  read : ∀ moment {place drive data}, places place → Fit drive →
    (files moment (.read place) drive).1 = .ok data → content drive place = some data
  /-- What was written is there. -/
  written : ∀ moment {path data place drive}, places place → asked (.write path data) → Fit drive →
    path.sameAs place = true → (files moment (.write path data) drive).1 = .ok () →
      content (files moment (.write path data) drive).2 place = some data
  /-- Requests that do not write to a place leave it as it is. -/
  others : ∀ moment {task place drive}, places place → asked task → Fit drive →
    task.writesTo place = false →
      content (files moment task drive).2 place = content drive place

/-- The law at some places is the law at fewer of them. -/
theorem Retentive.of_subset {Moment Drive : Type} {files : Moment → Handler FileAccess Drive}
    {content : Drive → Path → Option Bytes} {Fit : Drive → Prop} {asked : FileTask → Prop}
    {places fewer : Path → Prop} (law : Retentive files content Fit asked places)
    (subset : ∀ place, fewer place → places place) : Retentive files content Fit asked fewer where
  fit moment _ _ := law.fit moment
  read moment _ _ _ place := law.read moment (subset _ place)
  written moment _ _ _ _ place := law.written moment (subset _ place)
  others moment _ _ _ place := law.others moment (subset _ place)

/-- The law for some states is the law for fewer of them, if no request leads out of these. -/
theorem Retentive.of_fit {Moment Drive : Type} {files : Moment → Handler FileAccess Drive}
    {content : Drive → Path → Option Bytes} {Fit Fitter : Drive → Prop} {asked : FileTask → Prop}
    {places : Path → Prop} (law : Retentive files content Fit asked places)
    (fit : ∀ drive, Fitter drive → Fit drive)
    (kept : ∀ moment {task drive}, asked task → Fitter drive → Fitter (files moment task drive).2) :
    Retentive files content Fitter asked places where
  fit := kept
  read moment _ _ _ placed fitter := law.read moment placed (fit _ fitter)
  written moment _ _ _ _ placed asks fitter := law.written moment placed asks (fit _ fitter)
  others moment _ _ _ placed asks fitter := law.others moment placed asks (fit _ fitter)

namespace Batch

variable {Image Scale Moment : Type} {Inner : Interface} {Drive Engine Listener : Type}
  [Picture Image] [ScaleFactor Scale]
  {means : (task : Task Image Scale) → Procedure Inner task.Answer}
  {capabilities : Capabilities} {settings : Settings}
  {services : Services Moment Inner Drive Engine Listener}
  {content : Drive → Path → Option Bytes} {Fit : Drive → Prop}

/-- What some jobs may ask of the file system. -/
def Asked (jobs : List Job) (task : FileTask) : Prop :=
  ∃ job ∈ jobs, job.Touches task

/-- The outputs of some jobs. -/
def Outputs (jobs : List Job) (place : Path) : Prop :=
  ∃ job ∈ jobs, place = job.output

/-- The paths that some jobs read or write. -/
def Places (jobs : List Job) (place : Path) : Prop :=
  ∃ job ∈ jobs, place = job.source ∨ place = job.output

/-- The law at all places of some jobs is the law at their outputs. -/
theorem retentive_outputs {files : Moment → Handler FileAccess Drive} {asked : FileTask → Prop}
    {jobs : List Job} (law : Retentive files content Fit asked (Places jobs)) :
    Retentive files content Fit asked (Outputs jobs) :=
  law.of_subset fun _ ⟨job, member, same⟩ => ⟨job, member, .inr same⟩

/-- Only a request to the file system changes the drive. -/
theorem drive_handler (moment : Moment) (request : (Station Inner).Request)
    (state : Drive × (Engine × Listener)) :
    (services.handler moment request state).2.1 =
      match request with
      | .inl task => (services.files moment task state.1).2
      | .inr _ => state.1 := by
  rcases request with task | step | event <;> rfl

/-- Only what some job may ask is asked of the file system. -/
theorem fit_handler {jobs : List Job}
    {places : Path → Prop} (law : Retentive services.files content Fit (Asked jobs) places)
    {job : Job} (member : job ∈ jobs) {request : (Station Inner).Request}
    (follows : job.Follows request) (moment : Moment) {state : Drive × (Engine × Listener)}
    (fit : Fit state.1) : Fit (services.handler moment request state).2.1 := by
  rw [drive_handler]
  rcases request with task | others
  · exact law.fit moment ⟨job, member, follows⟩ fit
  · exact fit

/-- An output that was written is there when all jobs have ended. -/
theorem content_output {jobs : List Job} (distinct : jobs.Pairwise Job.Apart)
    (law : Retentive services.files content Fit (Asked jobs) (Outputs jobs))
    {shared : Drive × (Engine × Listener)} (fit : Fit shared.1) {schedule : Schedule Moment}
    (courses : ∀ job ∈ jobs, ∃ made stored, Job.Course means capabilities settings job
      (Pool.talk job ((Pool.mk (crew means capabilities settings jobs) shared).trace
        services.handler schedule)) made stored)
    {job : Job} (member : job ∈ jobs) {data : Bytes}
    (course : Job.Course means capabilities settings job
      (Pool.talk job ((Pool.mk (crew means capabilities settings jobs) shared).trace
        services.handler schedule)) (.ok data) (.ok ())) :
    content ((Pool.mk (crew means capabilities settings jobs) shared).run services.handler
      schedule).shared.1 job.output = some data := by
  have output : Outputs jobs job.output := ⟨job, member, rfl⟩
  have written := Pool.mem_talk_iff.1 course.mem_of_yield
  have known := follows_of_mem_trace courses
  refine Pool.shared_of_mem_trace services.handler (fun state => Fit state.1)
    (fun state => content state.1 job.output = some data) written fit ?_ ?_ ?_
  · intro entry inTrace moment state stillFit _
    obtain ⟨labelled, follows⟩ := known entry inTrace
    exact fit_handler law labelled follows moment stillFit
  · intro moment state stillFit answered
    exact law.written moment output ⟨job, member, .write data⟩ stillFit (Path.sameAs_refl _)
      answered
  · rintro ⟨other, ⟨task | others, answer⟩⟩ inTrace moment state stillFit holds answered
    · obtain ⟨labelled, follows⟩ := known _ inTrace
      cases writes : task.writesTo job.output with
      | false =>
        exact (law.others moment output ⟨other, labelled, follows⟩ stillFit writes).trans holds
      | true =>
        cases task with
        | write path bytes =>
          -- Whoever writes there is the job itself, and it writes the same once more.
          have said := Pool.mem_talk_iff.2 inTrace
          obtain ⟨made, stored, others⟩ := courses other labelled
          obtain ⟨rfl, -, -⟩ := others.eq_attempt_of_mem said
          obtain rfl := Job.eq_of_sameAs distinct labelled member writes
          obtain ⟨-, same, rfl⟩ := course.eq_attempt_of_mem said
          obtain rfl := Except.ok.inj same
          exact law.written moment output ⟨other, member, follows⟩ stillFit writes answered
        | read | makeDirectory | examine | list => cases writes
    · exact holds

/-- Whatever was written is there when all jobs have ended. -/
theorem content_of_mem_written {jobs : List Job} (distinct : jobs.Pairwise Job.Apart)
    (law : Retentive services.files content Fit (Asked jobs) (Outputs jobs))
    {shared : Drive × (Engine × Listener)} (fit : Fit shared.1) {schedule : Schedule Moment}
    {made : Job → Except JobError Bytes} {stored : Job → Except FileError Unit}
    (courses : ∀ job ∈ jobs, job.Course means capabilities settings
      (Pool.talk job ((Pool.mk (crew means capabilities settings jobs) shared).trace
        services.handler schedule)) (made job) (stored job)) :
    ∀ file ∈ written (((Pool.mk (crew means capabilities settings jobs) shared).trace
        services.handler schedule).map Prod.snd),
      content ((Pool.mk (crew means capabilities settings jobs) shared).run services.handler
        schedule).shared.1 file.1 = some file.2 := by
  intro file member
  have writes := perm_written (Job.nodup_of_apart distinct) courses
  obtain ⟨job, jobMember, leaves⟩ := List.mem_filterMap.1 (writes.subset member)
  obtain ⟨place, madeIs, storedIs⟩ := Job.yield?_eq_some_iff.1 leaves
  have course := courses job jobMember
  rw [madeIs, storedIs] at course
  rw [place]
  exact content_output distinct law fit
    (fun other otherMember => ⟨_, _, courses other otherMember⟩) jobMember course

end Batch

end Thumbnailer
