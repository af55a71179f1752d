/-
This file says which file gets an output. Outputs are handed out in the order of the files, and
whoever comes first keeps what it got. So the owner of an output is the first file that comes to it,
no two jobs have the same output, and every file is either a job or a conflict.

It says as well when a batch spares its own files. An output may be a path under which another file
was found, for the two directories may be the same, or one of them inside the other. Then the file
found there is overwritten, unless the output is its own, and an example shows that it happens: of
two pictures in one directory the first is written over the second, which is told to have failed.
The main statement says exactly when no file is lost in this way.
-/

import Mathlib.Data.List.Induction
import Mathlib.Data.List.Pairwise
import Thumbnailer.Batch.Plan

namespace Thumbnailer

/-! ### Equal paths -/

namespace Path

variable {first second third : Path}

theorem sameAs_iff : first.sameAs second = true ↔ first.components = second.components :=
  decide_eq_true_iff

theorem sameAs_refl (path : Path) : path.sameAs path = true :=
  sameAs_iff.2 rfl

theorem sameAs_symm (same : first.sameAs second = true) : second.sameAs first = true :=
  sameAs_iff.2 (sameAs_iff.1 same).symm

theorem sameAs_trans (same : first.sameAs second = true) (further : second.sameAs third = true) :
    first.sameAs third = true :=
  sameAs_iff.2 ((sameAs_iff.1 same).trans (sameAs_iff.1 further))

/-- Equal paths are equal to the same paths. -/
theorem sameAs_congr (same : first.sameAs second = true) (other : Path) :
    other.sameAs first = other.sameAs second := by
  rw [Bool.eq_iff_iff, sameAs_iff, sameAs_iff, sameAs_iff.1 same]

end Path

namespace Batch

/-- The job that a file is, if its output is free. -/
def Job.ofFile (input output : Path) (format : Format) (file : Path × Format) : Job :=
  { source := file.1, format := file.2, output := outputPath file.1 input output format }

/-- Two jobs write to different paths. -/
def Job.Apart (first second : Job) : Prop :=
  first.output.sameAs second.output = false

instance : Std.Symm Job.Apart where
  symm first second apart := by
    rw [Job.Apart, Bool.eq_false_iff] at apart ⊢
    exact fun same => apart (Path.sameAs_symm same)

/-- Where no two jobs write to the same path, jobs that do are one. -/
theorem Job.eq_of_sameAs {jobs : List Job} (apart : jobs.Pairwise Job.Apart) {first second : Job}
    (firstMember : first ∈ jobs) (secondMember : second ∈ jobs)
    (same : first.output.sameAs second.output = true) : first = second := by
  by_contra differs
  exact Bool.false_ne_true ((apart.forall firstMember secondMember differs).symm.trans same)

/-- Jobs with different outputs are different. -/
theorem Job.nodup_of_apart {jobs : List Job} (apart : jobs.Pairwise Job.Apart) : jobs.Nodup := by
  refine apart.imp fun differ same => ?_
  rw [same, Job.Apart, Path.sameAs_refl] at differ
  cases differ

/-! ### One more file -/

namespace Assignment

variable {assignment : Assignment} {source output place : Path} {format : Format}

theorem add_of_free (free : assignment.owner? output = none) :
    assignment.add source format output =
      { assignment with
        jobs := assignment.jobs ++
          [{ source := source, format := format, output := output }] } := by
  unfold add
  rw [free]

theorem add_of_owned {job : Job} (owned : assignment.owner? output = some job) :
    assignment.add source format output =
      { assignment with
        conflicts := assignment.conflicts ++
          [{ source := source, output := job.output, first := job.source }] } := by
  unfold add
  rw [owned]

theorem sameAs_of_owner? {job : Job} (owned : assignment.owner? place = some job) :
    job ∈ assignment.jobs ∧ job.output.sameAs place = true :=
  ⟨List.mem_of_find?_eq_some owned,
    List.find?_some (p := fun job : Job => job.output.sameAs place) owned⟩

/-- The new file owns its output if nobody owned it before. -/
theorem owner?_add :
    (assignment.add source format output).owner? place =
      (assignment.owner? place).or (if output.sameAs place then
        some { source := source, format := format, output := output } else none) := by
  cases owner : assignment.owner? output with
  | none =>
    rw [add_of_free owner]
    unfold owner?
    rw [List.find?_append, List.find?_singleton]
  | some job =>
    rw [add_of_owned owner]
    show assignment.owner? place = _
    split
    case isTrue same =>
      -- Who owns the output owns every path that is equal to it.
      have owned : assignment.owner? place = some job := by
        rw [← owner]
        unfold owner?
        refine congrArg (List.find? · assignment.jobs) (funext fun other => ?_)
        exact (Path.sameAs_congr same _).symm
      rw [owned, Option.some_or]
    case isFalse => rw [Option.or_none]

end Assignment

/-! ### All files -/

section Assign

variable (files : List (Path × Format)) (input output : Path) (format : Format)

theorem assign_concat (file : Path × Format) :
    assign (files ++ [file]) input output format =
      (assign files input output format).add file.1 file.2
        (outputPath file.1 input output format) := by
  unfold assign
  rw [List.foldl_append]
  rfl

/-- The owner of an output is the first file that comes to it. -/
theorem owner?_assign (place : Path) :
    (assign files input output format).owner? place =
      (files.find? fun file => (outputPath file.1 input output format).sameAs place).map
        (Job.ofFile input output format) := by
  induction files using List.reverseRecOn with
  | nil => rfl
  | append_singleton earlier file inductionHypothesis =>
    rw [assign_concat, Assignment.owner?_add, inductionHypothesis, List.find?_append,
      List.find?_singleton, Option.map_or]
    split <;> rfl

/-- No two jobs have the same output. -/
theorem pairwise_output_assign :
    (assign files input output format).jobs.Pairwise Job.Apart := by
  induction files using List.reverseRecOn with
  | nil => exact List.Pairwise.nil
  | append_singleton earlier file inductionHypothesis =>
    rw [assign_concat]
    cases owner : (assign earlier input output format).owner?
        (outputPath file.1 input output format) with
    | none =>
      rw [Assignment.add_of_free owner]
      refine List.pairwise_append.2 ⟨inductionHypothesis, List.pairwise_singleton _ _, ?_⟩
      intro job member new newMember
      rw [List.mem_singleton.1 newMember]
      exact Bool.eq_false_iff.2 (List.find?_eq_none.1 owner job member)
    | some first =>
      rw [Assignment.add_of_owned owner]
      exact inductionHypothesis

/-- The jobs are different, for they have different outputs. -/
theorem nodup_jobs_assign :
    (assign files input output format).jobs.Nodup :=
  Job.nodup_of_apart (pairwise_output_assign files input output format)

/-- Jobs and conflicts are the files, each of them once. -/
theorem perm_sources_assign :
    ((assign files input output format).conflicts.map Conflict.source ++
      (assign files input output format).jobs.map Job.source).Perm (files.map Prod.fst) := by
  induction files using List.reverseRecOn with
  | nil => exact List.Perm.refl _
  | append_singleton earlier file inductionHypothesis =>
    have further := inductionHypothesis.append_right [file.1]
    rw [assign_concat, List.map_append, List.map_singleton]
    refine List.Perm.trans ?_ further
    cases owner : (assign earlier input output format).owner?
        (outputPath file.1 input output format) with
    | none =>
      rw [Assignment.add_of_free owner, List.map_append, List.map_singleton, List.append_assoc]
    | some first =>
      rw [Assignment.add_of_owned owner, List.map_append, List.map_singleton, List.append_assoc,
        List.append_assoc]
      exact List.perm_append_comm.append_left _

/-- A job owns its output. -/
theorem owner?_of_mem_jobs {job : Job} {place : Path}
    (member : job ∈ (assign files input output format).jobs)
    (same : job.output.sameAs place = true) :
    (assign files input output format).owner? place = some job := by
  cases owner : (assign files input output format).owner? place with
  | none => exact absurd same (List.find?_eq_none.1 owner job member)
  | some other =>
    obtain ⟨otherMember, otherSame⟩ := Assignment.sameAs_of_owner? owner
    have together : other.output.sameAs job.output = true :=
      Path.sameAs_trans otherSame (Path.sameAs_symm same)
    exact congrArg some (Job.eq_of_sameAs (pairwise_output_assign files input output format)
      otherMember member together)

end Assign

/-! ### Files that are spared -/

/-- No job writes to a path under which another file was found. -/
def Assignment.Spares (assignment : Assignment) (files : List (Path × Format)) : Prop :=
  ∀ job ∈ assignment.jobs, ∀ file ∈ files,
    job.source.sameAs file.1 = false → job.output.sameAs file.1 = false

/-- A batch spares its own files exactly if every file that lies where the output of some file goes
is itself the first file that comes to that output. -/
theorem spares_assign_iff (files : List (Path × Format)) (input output : Path) (format : Format) :
    (assign files input output format).Spares files ↔
      ∀ file ∈ files, ∀ first,
        (files.find? fun other => (outputPath other.1 input output format).sameAs file.1) =
            some first →
          first.1.sameAs file.1 = true := by
  constructor
  · intro spares file member first found
    have owner : (assign files input output format).owner? file.1 =
        some (Job.ofFile input output format first) := by
      rw [owner?_assign, found]
      rfl
    obtain ⟨jobMember, same⟩ := Assignment.sameAs_of_owner? owner
    by_contra other
    have spared := spares _ jobMember file member (Bool.eq_false_iff.2 other)
    exact Bool.false_ne_true (spared.symm.trans same)
  · intro first job jobMember file member other
    rw [Bool.eq_false_iff]
    intro same
    have owner := owner?_of_mem_jobs files input output format jobMember same
    rw [owner?_assign] at owner
    obtain ⟨keeper, found, rfl⟩ := Option.map_eq_some_iff.1 owner
    exact Bool.false_ne_true (other.symm.trans (first file member keeper found))

/-- Two pictures of one name in a directory that is input and output at once. -/
def namesakes : List (Path × Format) :=
  [(.ofString "in/a.jpg", .jpeg), (.ofString "in/a.png", .png)]

/-- The first is written over the second, which is a conflict. -/
theorem not_spares_namesakes :
    let assignment := assign namesakes (.ofString "in") (.ofString "in") .png
    assignment.conflicts.map Conflict.source = [.ofString "in/a.png"] ∧
      ¬assignment.Spares namesakes := by
  intro assignment
  have jobs : assignment.jobs =
      [{ source := .ofString "in/a.jpg", format := .jpeg, output := .ofString "in/a.png" }] := by
    decide +kernel
  refine ⟨by decide +kernel, fun spares => ?_⟩
  have spared := spares _ (jobs ▸ List.mem_singleton_self _) (.ofString "in/a.png", .png)
    (.tail _ (.head _)) (by decide +kernel)
  exact Bool.false_ne_true (spared.symm.trans (Path.sameAs_refl _))

end Batch

end Thumbnailer
