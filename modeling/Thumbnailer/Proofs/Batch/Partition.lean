/-
This file says what becomes of every file of a batch. Each place in the list of files has one fate:
it is a job, or it is a conflict with an earlier file. The jobs and the conflicts are these fates
and nothing else, each in the order of the files. A file is a job exactly if no file before it comes
to the same output, and then it writes where its own place in the input directory says. A conflict
tells the output as its owner writes it, and who the owner is; there is one, and only one.
-/

import Mathlib.Data.List.Induction
import Thumbnailer.Proofs.Batch.Assignment

namespace Thumbnailer.Batch

/-- What becomes of a file. -/
abbrev Fate := Job ⊕ Conflict

/-- Whether a fate is that of this file. -/
def Fate.IsOf (file : Path × Format) : Fate → Prop
  | .inl job => job.source = file.1 ∧ job.format = file.2
  | .inr conflict => conflict.source = file.1

/-- Outputs are handed out in the order of the files, and whoever comes first keeps what it got. -/
structure FirstWins (files : List (Path × Format)) (input output : Path) (format : Format)
    (assignment : Assignment) : Prop where
  /-- Every place in the list has one fate, a job exactly if no earlier file comes to its output. -/
  parted : ∃ fates : List Fate,
    assignment.jobs = fates.filterMap Sum.getLeft? ∧
      assignment.conflicts = fates.filterMap Sum.getRight? ∧
      fates.length = files.length ∧
      ∀ place file fate, files[place]? = some file → fates[place]? = some fate →
        fate.IsOf file ∧
          (fate.isLeft = true ↔ ∀ earlier ∈ files.take place,
            (outputPath earlier.1 input output format).sameAs
              (outputPath file.1 input output format) = false)
  /-- No two jobs write to the same path. -/
  apart : assignment.jobs.Pairwise Job.Apart
  /-- A job writes where its source says. -/
  placed : ∀ job ∈ assignment.jobs, job.output = outputPath job.source input output format
  /-- A conflict tells the contested output and the source of the one job that writes there. -/
  contested : ∀ conflict ∈ assignment.conflicts,
    conflict.output.sameAs (outputPath conflict.source input output format) = true ∧
      ∃ owner ∈ assignment.jobs, owner.source = conflict.first ∧ owner.output = conflict.output ∧
        ∀ job ∈ assignment.jobs, job.output.sameAs conflict.output = true → job = owner

section Assign

variable (files : List (Path × Format)) (input output : Path) (format : Format)

/-! ### The fate of a file -/

/-- The first of some files that comes to the output of another. -/
def rival? (file : Path × Format) : Option (Path × Format) :=
  files.find? fun other =>
    (outputPath other.1 input output format).sameAs (outputPath file.1 input output format)

theorem sameAs_of_rival? {file first : Path × Format}
    (found : rival? files input output format file = some first) :
    first ∈ files ∧ (outputPath first.1 input output format).sameAs
      (outputPath file.1 input output format) = true := by
  have same := List.find?_some found
  exact ⟨List.mem_of_find?_eq_some found, same⟩

/-- What becomes of a file after others. -/
def fateAfter (file : Path × Format) : Fate :=
  match rival? files input output format file with
  | none => .inl (Job.ofFile input output format file)
  | some first =>
    .inr { source := file.1, output := outputPath first.1 input output format, first := first.1 }

theorem isOf_fateAfter (file : Path × Format) :
    (fateAfter files input output format file).IsOf file := by
  unfold fateAfter
  split
  · exact ⟨rfl, rfl⟩
  · rfl

theorem isLeft_fateAfter (file : Path × Format) :
    (fateAfter files input output format file).isLeft = true ↔
      ∀ earlier ∈ files, (outputPath earlier.1 input output format).sameAs
        (outputPath file.1 input output format) = false := by
  unfold fateAfter
  cases found : rival? files input output format file with
  | none =>
    refine iff_of_true rfl fun earlier member => ?_
    exact Bool.eq_false_iff.2 (List.find?_eq_none.1 found earlier member)
  | some first =>
    refine iff_of_false Bool.false_ne_true fun free => ?_
    obtain ⟨member, same⟩ := sameAs_of_rival? files input output format found
    exact Bool.false_ne_true ((free first member).symm.trans same)

/-- One more file adds its fate to the jobs or to the conflicts. -/
theorem parts_assign_concat (file : Path × Format) :
    (assign (files ++ [file]) input output format).jobs =
        (assign files input output format).jobs ++
          (fateAfter files input output format file).getLeft?.toList ∧
      (assign (files ++ [file]) input output format).conflicts =
        (assign files input output format).conflicts ++
          (fateAfter files input output format file).getRight?.toList := by
  have owner := owner?_assign files input output format (outputPath file.1 input output format)
  rw [assign_concat]
  unfold fateAfter
  cases found : rival? files input output format file with
  | none =>
    unfold rival? at found
    rw [found] at owner
    rw [Assignment.add_of_free owner]
    exact ⟨rfl, (List.append_nil _).symm⟩
  | some first =>
    unfold rival? at found
    rw [found] at owner
    rw [Assignment.add_of_owned owner]
    exact ⟨(List.append_nil _).symm, rfl⟩

/-! ### The fates of all files -/

/-- The fates of the files, each after those before it. -/
def fates : List Fate :=
  files.mapIdx fun place file => fateAfter (files.take place) input output format file

theorem fates_concat (file : Path × Format) :
    fates (files ++ [file]) input output format =
      fates files input output format ++ [fateAfter files input output format file] := by
  unfold fates
  rw [List.mapIdx_concat, List.take_left]
  congr 1
  refine List.mapIdx_eq_mapIdx_iff.2 fun place within => ?_
  rw [List.take_append_of_le_length (Nat.le_of_lt within)]

theorem parts_assign_eq :
    (assign files input output format).jobs =
        (fates files input output format).filterMap Sum.getLeft? ∧
      (assign files input output format).conflicts =
        (fates files input output format).filterMap Sum.getRight? := by
  induction files using List.reverseRecOn with
  | nil => exact ⟨rfl, rfl⟩
  | append_singleton earlier file inductionHypothesis =>
    obtain ⟨jobs, conflicts⟩ := inductionHypothesis
    obtain ⟨moreJobs, moreConflicts⟩ := parts_assign_concat earlier input output format file
    rw [moreJobs, moreConflicts, jobs, conflicts, fates_concat, List.filterMap_append,
      List.filterMap_append]
    cases fateAfter earlier input output format file <;> exact ⟨rfl, rfl⟩

/-- Every fate is that of a file after those before it. -/
theorem exists_of_mem_fates {fate : Fate} (member : fate ∈ fates files input output format) :
    ∃ place file, fate = fateAfter (files.take place) input output format file := by
  obtain ⟨place, within, rfl⟩ := List.mem_mapIdx.1 member
  exact ⟨place, files[place], rfl⟩

theorem output_of_mem_jobs {job : Job} (member : job ∈ (assign files input output format).jobs) :
    job.output = outputPath job.source input output format := by
  rw [(parts_assign_eq files input output format).1] at member
  obtain ⟨fate, fateMember, isJob⟩ := List.mem_filterMap.1 member
  obtain ⟨place, file, rfl⟩ := exists_of_mem_fates files input output format fateMember
  unfold fateAfter at isJob
  split at isJob <;> cases isJob
  rfl

/-- A conflict is with the owner of its output. -/
theorem owner?_of_mem_conflicts {conflict : Conflict}
    (member : conflict ∈ (assign files input output format).conflicts) :
    conflict.output.sameAs (outputPath conflict.source input output format) = true ∧
      ∃ owner, (assign files input output format).owner? conflict.output = some owner ∧
        owner.source = conflict.first ∧ owner.output = conflict.output := by
  rw [(parts_assign_eq files input output format).2] at member
  obtain ⟨fate, fateMember, isConflict⟩ := List.mem_filterMap.1 member
  obtain ⟨place, file, rfl⟩ := exists_of_mem_fates files input output format fateMember
  unfold fateAfter at isConflict
  split at isConflict
  case h_1 => cases isConflict
  case h_2 first found =>
    obtain rfl := Option.some.inj isConflict
    obtain ⟨-, same⟩ := sameAs_of_rival? _ input output format found
    refine ⟨same, Job.ofFile input output format first, ?_, rfl, rfl⟩
    -- The first of the earlier files that comes to this output is the first of all that do.
    unfold rival? at found
    simp only [← Path.sameAs_congr same] at found
    rw [owner?_assign, ← List.take_append_drop place files, List.find?_append, found]
    rfl

/-- Jobs and conflicts part the files, and the first file that comes to an output keeps it. -/
theorem firstWins_assign :
    FirstWins files input output format (assign files input output format) where
  parted := by
    obtain ⟨jobs, conflicts⟩ := parts_assign_eq files input output format
    refine ⟨_, jobs, conflicts, List.length_mapIdx, fun place file fate here found => ?_⟩
    unfold fates at found
    rw [List.getElem?_mapIdx, here] at found
    obtain rfl := Option.some.inj found
    exact ⟨isOf_fateAfter _ _ _ _ _, isLeft_fateAfter _ _ _ _ _⟩
  apart := pairwise_output_assign files input output format
  placed := fun job member => output_of_mem_jobs files input output format member
  contested := fun conflict member => by
    obtain ⟨same, owner, owned, first, wrote⟩ :=
      owner?_of_mem_conflicts files input output format member
    refine ⟨same, owner, (Assignment.sameAs_of_owner? owned).1, first, wrote, ?_⟩
    intro job jobMember jobSame
    have other := owner?_of_mem_jobs files input output format jobMember jobSame
    exact Option.some.inj (other.symm.trans owned)

end Assign

end Thumbnailer.Batch
