/-
This file is about a disk that is prepared for a batch: every source is there, and so is every
directory that an output goes to. The requests of the batch leave such a disk prepared. So at any
time a source can be read and an output be stored, whatever the jobs have done until then.
-/

import Thumbnailer.Codec
import Thumbnailer.Proofs.Disk

namespace Thumbnailer

/-! ### Requests at what is there -/

namespace Disk

open FileTree

variable {disk changed : Disk} {path : Path} {node : FileTree} {data : Bytes} {place : List Bytes}

/-- To write a file neither makes nor takes away a directory. -/
theorem Puts.exists_directory_iff (puts : disk.Puts path (.file data) changed) :
    (∃ entries, changed.root.find? place = some (.directory entries)) ↔
      ∃ entries, disk.root.find? place = some (.directory entries) := by
  by_cases same : place = disk.target path
  · obtain ⟨above, name, split, vacant, -, -⟩ := id puts
    subst same
    refine iff_of_false (fun ⟨entries, is⟩ => ?_) fun ⟨entries, is⟩ => ?_
    · rw [puts.found] at is
      cases is
    · exact vacant.bare entries (split ▸ is)
  · rw [← map_shallow_eq_directory_iff, ← map_shallow_eq_directory_iff,
      puts.shallow same]

/-- To write a file takes no file away. -/
theorem Puts.exists_file (puts : disk.Puts path (.file data) changed)
    (found : ∃ bytes, disk.root.find? place = some (.file bytes)) :
    ∃ bytes, changed.root.find? place = some (.file bytes) := by
  by_cases same : place = disk.target path
  · exact ⟨data, same ▸ puts.found⟩
  · obtain ⟨bytes, there⟩ := found
    refine ⟨bytes, map_shallow_eq_file_iff.1 ?_⟩
    rw [puts.shallow same, there]
    rfl

/-- Nothing is made in the place of something else. -/
theorem make_of_found (linkFree : disk.root.LinkFree) (plain : path.Plain) {there : FileTree}
    (found : disk.root.find? (disk.target path) = some there) :
    disk.make path node = .error .exists := by
  rw [make, plain.withoutSlashes_eq, ite_self, locate_of_found linkFree plain found]
  rfl

theorem examine_of_found (linkFree : disk.root.LinkFree) (plain : path.Plain)
    (found : disk.root.find? (disk.target path) = some node) (follow : Bool) :
    ∃ place, disk.examine path follow = .ok { kind := node.kind, place := place } := by
  have visits := (visit_eq_ok_iff linkFree plain follow (node, disk.target path)).2 ⟨found, rfl⟩
  rw [examine, visits]
  exact ⟨_, rfl⟩

/-- A file can be written under a name that is vacant. -/
theorem exists_write (linkFree : disk.root.LinkFree) (plain : path.Plain) {above : List Bytes}
    {name : Bytes} (split : disk.target path = above ++ [name])
    (vacant : disk.root.Vacant above name) (data : Bytes) :
    ∃ changed, disk.write path data = .ok changed := by
  unfold write
  rw [plain.withoutSlashes_eq]
  simp only [ne_eq, not_true_eq_false, false_and, if_false]
  cases there : disk.root.find? (disk.target path) with
  | none =>
    obtain ⟨entries, parent⟩ := vacant.parent
    have missing : entries.lookup name = none := by
      rw [← find?_child parent, ← split, there]
    rw [locate_of_missing linkFree plain split parent missing]
    exact ⟨_, rfl⟩
  | some node =>
    rw [locate_of_found linkFree plain there]
    simp only [bind, Except.bind, there]
    cases node with
    | file bytes => exact ⟨_, rfl⟩
    | link target => exact absurd there (linkFree _ _)
    | directory entries => exact absurd (split ▸ there) (vacant.bare entries)

end Disk

namespace Batch

open Disk FileTree

/-- Jobs that name plain paths only. -/
structure Plain (jobs : List Job) : Prop where
  sources : ∀ job ∈ jobs, job.source.Plain
  outputs : ∀ job ∈ jobs, job.output.Plain
  rooms : ∀ job ∈ jobs, ∀ path ∈ job.above, path.Plain

/-- All sources are there, and so are all directories that outputs go to. -/
structure Prepared (jobs : List Job) (disk : Disk) : Prop where
  linkFree : disk.root.LinkFree
  sources : ∀ job ∈ jobs, ∃ data, disk.root.find? (disk.target job.source) = some (.file data)
  rooms : ∀ job ∈ jobs, ∀ path ∈ job.above, ∃ entries,
    disk.root.find? (disk.target path) = some (.directory entries)
  outputs : ∀ job ∈ jobs, ∃ above name, disk.target job.output = above ++ [name] ∧
    disk.root.Vacant above name

variable {jobs : List Job} {job : Job} {disk : Disk}

theorem Plain.of_asked (plain : Plain jobs) {task : FileTask} (asked : Asked jobs task) :
    ∀ path, task.changes? = some path → path.Plain := by
  obtain ⟨job, member, touches⟩ := asked
  intro path is
  cases touches with
  | read => cases is
  | makes makes =>
    cases makes with
    | make inAbove => exact Option.some.inj is ▸ plain.rooms job member _ inAbove
    | examine => cases is
  | write => exact Option.some.inj is ▸ plain.outputs job member

theorem Plain.of_places (plain : Plain jobs) {place : Path} (placed : Places jobs place) :
    place.Plain := by
  obtain ⟨job, member, rfl | rfl⟩ := placed
  · exact plain.sources job member
  · exact plain.outputs job member

/-- The requests of a batch leave a disk prepared. -/
theorem Prepared.handler (plain : Plain jobs) (prepared : Prepared jobs disk) {task : FileTask}
    (asked : Asked jobs task) : Prepared jobs (Disk.handler task disk).2 := by
  obtain same | ⟨path, data, rfl, puts⟩ | ⟨path, rfl, -, missing⟩ :=
    handler_cases prepared.linkFree task (plain.of_asked asked)
  · rwa [same]
  · refine ⟨puts.linkFree prepared.linkFree, fun other otherMember => ?_,
      fun other otherMember room inAbove => ?_, fun other otherMember => ?_⟩
    · rw [puts.target]
      exact puts.exists_file (prepared.sources other otherMember)
    · rw [puts.target]
      exact puts.exists_directory_iff.2 (prepared.rooms other otherMember room inAbove)
    · obtain ⟨above, name, split, parent, bare⟩ := prepared.outputs other otherMember
      refine ⟨above, name, by rw [puts.target, split], puts.exists_directory_iff.2 parent,
        fun entries is => ?_⟩
      obtain ⟨before, was⟩ := puts.exists_directory_iff.1 ⟨entries, is⟩
      exact bare before was
  · -- Every directory that may be asked for is there already.
    obtain ⟨job, member, touches⟩ := asked
    cases touches with
    | makes makes =>
      cases makes with
      | make inAbove =>
        obtain ⟨entries, there⟩ := prepared.rooms job member path inAbove
        rw [missing] at there
        cases there

/-- On a prepared disk the directories of an output are there. -/
theorem Prepared.guarded_makeRoom (plain : Plain jobs) (member : job ∈ jobs) :
    Procedure.Guarded Disk.handler (Prepared jobs) (· = .ok ()) job.makeRoom := by
  unfold Job.makeRoom
  cases parent : job.output.parent? with
  | none => rfl
  | some directory =>
    have upward : job.above = directory.upward := by rw [Job.above, parent]
    dsimp only [Files.makeDirectories]
    rw [← upward]
    cases all : job.above with
    | nil => rfl
    | cons path rest =>
      intro disk prepared
      have inAbove : path ∈ job.above := all ▸ List.mem_cons_self
      have plainPath := plain.rooms job member path inAbove
      refine ⟨prepared.handler plain ⟨job, member, .makes (.make inAbove)⟩, ?_⟩
      obtain ⟨entries, there⟩ := prepared.rooms job member path inAbove
      have refused : (Disk.handler (.makeDirectory path) disk).1 = .error .exists := by
        simp [Disk.handler, Disk.apply, make_of_found prepared.linkFree plainPath there]
      rw [refused]
      intro later stillPrepared
      refine ⟨stillPrepared.handler plain ⟨job, member, .makes (.examine inAbove)⟩, ?_⟩
      obtain ⟨others, stillThere⟩ := stillPrepared.rooms job member path inAbove
      obtain ⟨place, examined⟩ :=
        examine_of_found stillPrepared.linkFree plainPath stillThere true
      rw [show (Disk.handler (.examine path true) later).1 = _ from examined]
      rfl

/-- On a prepared disk every output can be stored. -/
theorem Prepared.guarded_store (plain : Plain jobs) (member : job ∈ jobs) (data : Bytes) :
    Procedure.Guarded Disk.handler (Prepared jobs) (· = .ok ()) (job.store data) := by
  refine (guarded_makeRoom plain member).bind ?_
  rintro _ rfl disk prepared
  obtain ⟨above, name, split, vacant⟩ := prepared.outputs job member
  obtain ⟨changed, writes⟩ := exists_write prepared.linkFree (plain.outputs job member) split vacant
    data
  have answered : (Disk.handler (.write job.output data) disk).1 = .ok () := by
    simp [Disk.handler, Disk.apply, writes]
  exact ⟨prepared.handler plain ⟨job, member, .write data⟩, answered⟩

/-- On a prepared disk every source can be read. -/
theorem Prepared.exists_read (plain : Plain jobs) (prepared : Prepared jobs disk)
    (member : job ∈ jobs) : ∃ data, disk.read job.source = .ok data := by
  obtain ⟨data, there⟩ := prepared.sources job member
  exact ⟨data, (read_eq_ok_iff prepared.linkFree (plain.sources job member)).2 there⟩

/-- A prepared disk keeps the law of file systems, at the paths that a batch uses. -/
theorem retentive_prepared (Moment : Type) (plain : Plain jobs) :
    Retentive (fun _ : Moment => Disk.handler) Disk.content? (Prepared jobs) (Asked jobs)
      (Places jobs) :=
  have law := Disk.retentive (fun _ asked => plain.of_asked asked) fun _ placed =>
    plain.of_places placed
  law.of_fit (fun _ prepared => prepared.linkFree)
    fun _ _ _ asked prepared => prepared.handler plain asked

/-! ### A sample -/

/-- Three files, of which two come to the same output, beside something that cannot be looked
at. -/
def sampleInputs : Inputs :=
  { files := [(.ofString "in/a.jpg", .jpeg), (.ofString "in/a.png", .png),
      (.ofString "in/b.png", .png)]
    unreadable := [(.ofString "in/shut", .refused (.ofString "in/shut") .denied)] }

def sampleJobs : List Job :=
  [{ source := .ofString "in/a.jpg", format := .jpeg, output := .ofString "out/a.png" },
   { source := .ofString "in/b.png", format := .png, output := .ofString "out/b.png" }]

theorem jobs_sample :
    (assign sampleInputs.files (.ofString "in") (.ofString "out") .png).jobs = sampleJobs := by
  decide +kernel

/-- Three pixels in a row. -/
def samplePicture : Bytes :=
  Container.pack .png { size := ⟨3, 1⟩, colour := .l8, pixels := some #[[10], [20], [30]] } 1

/-- Of the files one is a picture. -/
def sampleDisk : Disk :=
  { root := .directory
      [((Path.ofString "in").bytes, .directory
        [((Path.ofString "a.jpg").bytes, .file []), ((Path.ofString "a.png").bytes, .file []),
          ((Path.ofString "b.png").bytes, .file samplePicture)]),
      ((Path.ofString "out").bytes, .directory [])] }

def sampleSettings : Settings :=
  { options := { resize := .fit, width := 3, height := 0, format := .png }
    quality := .standard
    timeout := none }

theorem plain_sample : Plain sampleJobs where
  sources := by decide +kernel
  outputs := by decide +kernel
  rooms := by decide +kernel

theorem prepared_sample : Prepared sampleJobs sampleDisk where
  linkFree := by
    refine linkFree_directory (List.forall_mem_cons.2 ⟨linkFree_directory ?_,
      List.forall_mem_singleton.2 (linkFree_directory (List.forall_mem_nil _))⟩)
    exact List.forall_mem_cons.2 ⟨linkFree_file _, List.forall_mem_cons.2 ⟨linkFree_file _,
      List.forall_mem_singleton.2 (linkFree_file _)⟩⟩
  sources := List.forall_mem_cons.2 ⟨⟨[], bind_data?_eq_some_iff.1 (by decide +kernel)⟩,
    List.forall_mem_singleton.2 ⟨samplePicture, bind_data?_eq_some_iff.1 (by decide +kernel)⟩⟩
  rooms := by
    have kinds : ∀ job ∈ sampleJobs, ∀ path ∈ job.above,
        (sampleDisk.root.find? (sampleDisk.target path)).map kind = some .directory := by
      decide +kernel
    exact fun job member path inAbove =>
      map_kind_eq_directory_iff.1 (kinds job member path inAbove)
  outputs := by
    have vacant (name : String) (missing : (sampleDisk.root.find? ([(Path.ofString "out").bytes] ++
          [(Path.ofString name).bytes])).map kind ≠ some .directory) :
        sampleDisk.root.Vacant [(Path.ofString "out").bytes] (Path.ofString name).bytes :=
      ⟨map_kind_eq_directory_iff.1 (by decide +kernel), fun entries is =>
        missing (map_kind_eq_directory_iff.2 ⟨entries, is⟩)⟩
    exact List.forall_mem_cons.2 ⟨⟨_, _, by decide +kernel, vacant "a.png" (by decide +kernel)⟩,
      List.forall_mem_singleton.2 ⟨_, _, by decide +kernel, vacant "b.png" (by decide +kernel)⟩⟩

end Batch

end Thumbnailer
