/-
This file shows that a file system in memory keeps the law of file systems, at paths of plain names
and as long as there are no links. Such a path leads to the names it is written with, below the
start. What is put there is put into a directory and never in place of one, so whatever lies under
other names is as it was.
-/

import Thumbnailer.Files.Disk
import Thumbnailer.Proofs.Batch.Filing

namespace Thumbnailer

/-! ### Trees -/

namespace FileTree

variable {root new node : FileTree} {above place : List Bytes} {name : Bytes}
  {entries : List (Bytes × FileTree)}

theorem lookup_cons_eq (entry : Bytes × FileTree) (rest : List (Bytes × FileTree)) (name : Bytes) :
    (entry :: rest).lookup name = if name = entry.1 then some entry.2 else rest.lookup name := by
  rw [List.lookup_cons]
  by_cases same : name = entry.1
  · rw [if_pos same, beq_iff_eq.2 same]
  · rw [if_neg same, beq_eq_false_iff_ne.2 same]

theorem lookup_setEntry (name other : Bytes) (node : FileTree) (entries : List (Bytes × FileTree)) :
    (setEntry name node entries).lookup other =
      if other = name then some node else entries.lookup other := by
  induction entries with
  | nil => exact lookup_cons_eq _ _ _
  | cons entry rest inductionHypothesis =>
    unfold setEntry
    split
    case isTrue here =>
      rw [lookup_cons_eq, lookup_cons_eq, here]
      by_cases same : other = name
      · rw [if_pos same, if_pos same]
      · rw [if_neg same, if_neg same, if_neg same]
    case isFalse elsewhere =>
      split
      · rw [lookup_cons_eq]
      · rw [lookup_cons_eq, lookup_cons_eq, inductionHypothesis]
        by_cases first : other = entry.1
        · rw [if_pos first, if_pos first, if_neg (first ▸ elsewhere)]
        · rw [if_neg first, if_neg first]

theorem find?_append (root : FileTree) (above below : List Bytes) :
    root.find? (above ++ below) = (root.find? above).bind fun node => node.find? below := by
  induction above generalizing root with
  | nil => rfl
  | cons name rest inductionHypothesis =>
    cases root with
    | file | link => rfl
    | directory entries =>
      show (entries.lookup name).bind _ = ((entries.lookup name).bind _).bind _
      cases entries.lookup name with
      | none => rfl
      | some node => exact inductionHypothesis node

theorem find?_of_lookup (found : entries.lookup name = some node) (rest : List Bytes) :
    (directory entries).find? (name :: rest) = node.find? rest := by
  show (entries.lookup name).bind _ = _
  rw [found]
  rfl

theorem find?_of_not_directory (leaf : ∀ entries, node ≠ .directory entries) (name : Bytes)
    (rest : List Bytes) : node.find? (name :: rest) = none := by
  cases node with
  | file | link => rfl
  | directory entries => exact absurd rfl (leaf entries)

/-- Whatever is found under names lies in a directory under the names above. -/
theorem exists_parent (found : root.find? (above ++ name :: place) = some node) :
    ∃ entries inner, root.find? above = some (.directory entries) ∧
      entries.lookup name = some inner ∧ inner.find? place = some node := by
  rw [find?_append] at found
  obtain ⟨parent, parentFound, below⟩ := Option.bind_eq_some_iff.1 found
  cases parent with
  | file | link => cases below
  | directory entries =>
    obtain ⟨inner, innerFound, rest⟩ := Option.bind_eq_some_iff.1 below
    exact ⟨entries, inner, parentFound, innerFound, rest⟩

/-- What lies in a directory, lies under its name. -/
theorem find?_child (parent : root.find? above = some (.directory entries)) (name : Bytes) :
    root.find? (above ++ [name]) = entries.lookup name := by
  rw [find?_append, parent]
  show (entries.lookup name).bind some = _
  exact Option.bind_fun_some _

/-- A node without what is in it, if it is a directory. -/
def shallow : FileTree → FileTree
  | .directory _ => .directory []
  | other => other

/-- What requests put somewhere: a file, or a directory that is still empty. -/
inductive Fresh : FileTree → Prop
  | file (data : Bytes) : Fresh (.file data)
  | directory : Fresh (.directory [])

theorem Fresh.find?_cons (fresh : new.Fresh) (name : Bytes) (rest : List Bytes) :
    new.find? (name :: rest) = none := by
  cases fresh <;> rfl

/-- A name that something can be put under: in a directory, and not in place of one. -/
structure Vacant (root : FileTree) (above : List Bytes) (name : Bytes) : Prop where
  parent : ∃ entries, root.find? above = some (.directory entries)
  bare : ∀ entries, root.find? (above ++ [name]) ≠ some (.directory entries)

theorem find?_set_self (parent : root.find? above = some (.directory entries)) :
    (root.set (above ++ [name]) new).find? (above ++ [name]) = some new := by
  induction above generalizing root with
  | nil =>
    obtain rfl := Option.some.inj parent
    show ((setEntry name _ entries).lookup name).bind _ = _
    rw [lookup_setEntry, if_pos rfl]
    cases (entries.lookup name).getD new <;> rfl
  | cons first rest inductionHypothesis =>
    obtain ⟨siblings, inner, rootIs, found, below⟩ :=
      exists_parent (show root.find? ([] ++ first :: rest) = _ from parent)
    obtain rfl := Option.some.inj rootIs
    show ((setEntry first _ siblings).lookup first).bind _ = _
    rw [lookup_setEntry, if_pos rfl, found]
    exact inductionHypothesis below

/-- To put something under a name changes nothing under other names, except what directories
hold. -/
theorem shallow_set (vacant : Vacant root above name) (fresh : new.Fresh)
    (elsewhere : place ≠ above ++ [name]) :
    ((root.set (above ++ [name]) new).find? place).map shallow =
      (root.find? place).map shallow := by
  obtain ⟨⟨entries, parent⟩, bare⟩ := vacant
  induction above generalizing root place with
  | nil =>
    obtain rfl := Option.some.inj parent
    cases place with
    | nil => rfl
    | cons other below =>
      have setThere : (((entries.lookup name).getD new).set [] new) = new := by
        cases (entries.lookup name).getD new <;> rfl
      show Option.map shallow (((setEntry name _ entries).lookup other).bind _) = _
      rw [lookup_setEntry, setThere]
      by_cases same : other = name
      · subst same
        cases below with
        | nil => exact absurd rfl elsewhere
        | cons inside rest =>
          rw [if_pos rfl]
          refine congrArg _ ((fresh.find?_cons inside rest).trans (Eq.symm ?_))
          refine Option.bind_eq_none_iff.2 fun node found => find?_of_not_directory ?_ inside rest
          rintro within rfl
          exact bare within (find?_of_lookup found [])
      · rw [if_neg same]
        rfl
  | cons first rest inductionHypothesis =>
    obtain ⟨siblings, inner, rootIs, found, below⟩ :=
      exists_parent (show root.find? ([] ++ first :: rest) = _ from parent)
    obtain rfl := Option.some.inj rootIs
    cases place with
    | nil => rfl
    | cons other place =>
      show Option.map shallow (((setEntry first _ siblings).lookup other).bind _) = _
      rw [lookup_setEntry, found]
      by_cases same : other = first
      · subst same
        have bareInside : ∀ entries, inner.find? (rest ++ [name]) ≠ some (.directory entries) :=
          fun within is => bare within ((find?_of_lookup found _).trans is)
        rw [if_pos rfl]
        refine (inductionHypothesis (fun same => elsewhere (congrArg _ same)) bareInside
          below).trans ?_
        exact congrArg _ (find?_of_lookup found place).symm
      · rw [if_neg same]
        rfl

theorem map_shallow_eq_file_iff {found : Option FileTree} {data : Bytes} :
    found.map shallow = some (.file data) ↔ found = some (.file data) := by
  rcases found with _ | _ | _ | _ <;> simp [shallow]

theorem map_shallow_eq_directory_iff {found : Option FileTree} :
    found.map shallow = some (.directory []) ↔ ∃ entries, found = some (.directory entries) := by
  rcases found with _ | _ | _ | _ <;> simp [shallow]

theorem map_shallow_eq_link_iff {found : Option FileTree} {target : Path} :
    found.map shallow = some (.link target) ↔ found = some (.link target) := by
  rcases found with _ | _ | _ | _ <;> simp [shallow]

/-- The data of a file. -/
def data? : FileTree → Option Bytes
  | .file data => some data
  | .link _ | .directory _ => none

theorem bind_data?_eq_some_iff {found : Option FileTree} {data : Bytes} :
    found.bind data? = some data ↔ found = some (.file data) := by
  rcases found with _ | _ | _ | _ <;> simp [data?]

theorem map_kind_eq_directory_iff {found : Option FileTree} :
    found.map kind = some .directory ↔ ∃ entries, found = some (.directory entries) := by
  rcases found with _ | _ | _ | _ <;> simp [kind]

/-- There are no links. -/
def LinkFree (root : FileTree) : Prop :=
  ∀ place target, root.find? place ≠ some (.link target)

theorem linkFree_file (data : Bytes) : (file data).LinkFree := by
  intro place target found
  cases place <;> cases found

theorem linkFree_directory (each : ∀ entry ∈ entries, entry.2.LinkFree) :
    (directory entries).LinkFree := by
  intro place target found
  cases place with
  | nil => cases found
  | cons name rest =>
    obtain ⟨node, there, below⟩ := Option.bind_eq_some_iff.1 found
    obtain ⟨before, after, rfl, -⟩ := List.lookup_eq_some_iff.1 there
    exact each (name, node) (List.mem_append_right _ List.mem_cons_self) rest target below

theorem LinkFree.set (linkFree : root.LinkFree) (vacant : Vacant root above name)
    (fresh : new.Fresh) :
    (root.set (above ++ [name]) new).LinkFree := by
  intro place target found
  by_cases same : place = above ++ [name]
  · obtain ⟨entries, parent⟩ := vacant.parent
    rw [same, find?_set_self parent] at found
    cases fresh <;> cases found
  · refine linkFree place target (map_shallow_eq_link_iff.1 ?_)
    rw [← shallow_set vacant fresh same, found]
    rfl

end FileTree

/-! ### Plain paths -/

/-- A path of plain names. -/
structure Path.Plain (path : Path) : Prop where
  relative : path.rooted = false
  usable : path.bytes.contains 0 = false
  short : path.bytes.length ≤ Disk.longestPath
  closed : path.bytes.getLast? ≠ some 0x2F
  named : ∀ name ∈ path.segments, name ≠ [] ∧ name ≠ [0x2E] ∧ name ≠ [0x2E, 0x2E]
  within : ∀ name ∈ path.segments, name.length ≤ Disk.longestName

namespace Path.Plain

variable {path other : Path}

instance (path : Path) : Decidable path.Plain :=
  decidable_of_iff (path.rooted = false ∧ path.bytes.contains 0 = false ∧
      path.bytes.length ≤ Disk.longestPath ∧ path.bytes.getLast? ≠ some 0x2F ∧
      (∀ name ∈ path.segments, name ≠ [] ∧ name ≠ [0x2E] ∧ name ≠ [0x2E, 0x2E]) ∧
      ∀ name ∈ path.segments, name.length ≤ Disk.longestName)
    ⟨fun ⟨relative, usable, short, closed, named, within⟩ =>
        ⟨relative, usable, short, closed, named, within⟩,
      fun plain => ⟨plain.relative, plain.usable, plain.short, plain.closed, plain.named,
        plain.within⟩⟩

theorem components_eq (plain : path.Plain) :
    path.components = path.segments.map Component.name := by
  have all (leading : Bool) (segments : List Bytes)
      (named : ∀ name ∈ segments, name ≠ [] ∧ name ≠ [0x2E] ∧ name ≠ [0x2E, 0x2E]) :
      componentsOf leading segments = segments.map Component.name := by
    induction segments generalizing leading with
    | nil => rfl
    | cons name rest inductionHypothesis =>
      obtain ⟨⟨notEmpty, notDot, notDots⟩, later⟩ := List.forall_mem_cons.1 named
      rw [componentsOf, if_neg (by simp [isVoid, notEmpty, notDot]), componentOf, if_neg notDot,
        if_neg notDots, inductionHypothesis false later, List.map_cons]
  rw [components, plain.relative]
  exact all _ _ plain.named

theorem sameAs_iff (plain : path.Plain) (otherPlain : other.Plain) :
    path.sameAs other = true ↔ path.segments = other.segments := by
  rw [sameAs, plain.components_eq, otherPlain.components_eq, decide_eq_true_iff]
  exact (List.map_injective_iff.2 fun _ _ same => Component.name.inj same).eq_iff

theorem steps_eq (plain : path.Plain) : Disk.steps path = path.segments.map Disk.Step.enter := by
  have kept : path.segments.filter (fun name => !name.isEmpty) = path.segments :=
    List.filter_eq_self.2 fun name member => by simp [(plain.named name member).1]
  rw [Disk.steps, kept, if_neg (by simp [plain.closed])]
  refine List.map_congr_left fun name member => ?_
  obtain ⟨-, notDot, notDots⟩ := plain.named name member
  rw [if_neg notDot, if_neg notDots]

theorem bytes_ne_nil (plain : path.Plain) : path.bytes ≠ [] := by
  intro nothing
  refine (plain.named [] ?_).1 rfl
  rw [segments, plain.relative, nothing]
  exact List.mem_cons_self

theorem withoutSlashes_eq (plain : path.Plain) : Disk.withoutSlashes path = path := by
  obtain ⟨bytes⟩ := path
  unfold Disk.withoutSlashes
  congr 1
  rcases List.eq_nil_or_concat bytes with rfl | ⟨front, last, rfl⟩
  · rfl
  · have notSlash : last ≠ 0x2F := fun is => plain.closed (by simp [is])
    simp [notSlash]

end Path.Plain

/-- A path has a last name, and those above it. -/
theorem Path.exists_last (path : Path) (start : List Bytes) :
    ∃ above name, start ++ path.segments = above ++ [name] := by
  obtain nothing | ⟨front, last, is⟩ := List.eq_nil_or_concat path.segments
  · cases nothing
  · exact ⟨start ++ front, last, by rw [is, List.concat_eq_append, List.append_assoc]⟩

/-- The path that a request may change something at. -/
def FileTask.changes? : FileTask → Option Path
  | .write path _ | .makeDirectory path => some path
  | .read _ | .examine _ _ | .list _ => none

/-! ### Where plain paths lead -/

namespace Disk

open FileTree

variable {root : FileTree} {disk changed : Disk} {path : Path} {follow : Bool}
  {jump : List Bytes → List Step → Except FileError Spot} {place names : List Bytes}
  {node : FileTree}

/-- Names lead down; the last of them need not be there. -/
theorem spot_of_advance (linkFree : root.LinkFree) {spot : Spot}
    (leads : advance root follow jump place (names.map .enter) = .ok spot) :
    spot = .present (place ++ names) ∨
      ∃ above name, names = above ++ [name] ∧ spot = .absent (place ++ above) name ∧
        (∃ entries, root.find? (place ++ above) = some (.directory entries)) ∧
        root.find? (place ++ names) = none := by
  induction names generalizing place with
  | nil =>
    rw [List.map_nil, advance] at leads
    obtain rfl := Except.ok.inj leads
    exact .inl (by rw [List.append_nil])
  | cons name rest inductionHypothesis =>
    rw [List.map_cons, advance] at leads
    split at leads
    case h_2 => cases leads
    case h_1 entries here =>
      have below := find?_child here name
      dsimp only at leads
      split at leads
      · cases leads
      · split at leads
        case h_1 missing =>
          cases rest with
          | nil =>
            obtain rfl := Except.ok.inj leads
            exact .inr ⟨[], name, rfl, by rw [List.append_nil], ⟨entries, by rwa [List.append_nil]⟩,
              below.trans missing⟩
          | cons => cases leads
        case h_2 target found => exact absurd (below.trans found) (linkFree _ _)
        case h_3 =>
          obtain is | ⟨above, last, rfl, is, parent, nothing⟩ := inductionHypothesis leads
          · exact .inl (by rw [is, List.append_assoc]; rfl)
          · refine .inr ⟨name :: above, last, rfl, ?_, ?_, ?_⟩
            · rw [is, List.append_assoc]
              rfl
            · rwa [List.append_assoc] at parent
            · rwa [List.append_assoc] at nothing

/-- Names lead to what lies under them. -/
theorem advance_of_found (linkFree : root.LinkFree) {node : FileTree}
    (short : ∀ name ∈ names, name.length ≤ longestName)
    (found : root.find? (place ++ names) = some node) :
    advance root follow jump place (names.map .enter) = .ok (.present (place ++ names)) := by
  induction names generalizing place with
  | nil => rw [List.map_nil, advance, List.append_nil]
  | cons name rest inductionHypothesis =>
    obtain ⟨shortName, shortRest⟩ := List.forall_mem_cons.1 short
    obtain ⟨entries, inner, here, there, below⟩ := exists_parent found
    have next := (find?_child here name).trans there
    have nextFound : root.find? ((place ++ [name]) ++ rest) = some node := by
      rwa [List.append_assoc]
    have further := inductionHypothesis shortRest nextFound
    rw [List.append_assoc] at further
    rw [List.map_cons, advance, here]
    dsimp only
    rw [if_neg (Nat.not_lt.2 shortName), there]
    cases inner with
    | link target => exact absurd next (linkFree _ _)
    | file | directory => exact further

/-- Names lead to a name that is not there, in a directory that is. -/
theorem advance_of_missing (linkFree : root.LinkFree) {above : List Bytes} {name : Bytes}
    {entries : List (Bytes × FileTree)}
    (short : ∀ part ∈ above ++ [name], part.length ≤ longestName)
    (parent : root.find? (place ++ above) = some (.directory entries))
    (missing : entries.lookup name = none) :
    advance root follow jump place ((above ++ [name]).map .enter) =
      .ok (.absent (place ++ above) name) := by
  induction above generalizing place with
  | nil =>
    rw [List.append_nil] at parent
    rw [List.nil_append, List.map_singleton, advance, parent, List.append_nil]
    dsimp only
    rw [if_neg (Nat.not_lt.2 (short name List.mem_cons_self)), missing]
    rfl
  | cons first rest inductionHypothesis =>
    obtain ⟨shortFirst, shortRest⟩ := List.forall_mem_cons.1 short
    obtain ⟨siblings, inner, here, there, below⟩ := exists_parent parent
    have next := (find?_child here first).trans there
    have nextParent : root.find? ((place ++ [first]) ++ rest) = some (.directory entries) := by
      rwa [List.append_assoc]
    have further := inductionHypothesis shortRest nextParent
    rw [List.append_assoc] at further
    rw [List.cons_append, List.map_cons, advance, here]
    dsimp only
    rw [if_neg (Nat.not_lt.2 shortFirst), there]
    cases inner with
    | link target => exact absurd next (linkFree _ _)
    | file | directory => exact further

/-- The names that a plain path leads to. -/
def target (disk : Disk) (path : Path) : List Bytes :=
  disk.start ++ path.segments

theorem locate_eq (plain : path.Plain) (follow : Bool) :
    disk.locate path follow =
      advance disk.root follow (lead disk.root follow (linkLimit - 1)) disk.start
        (path.segments.map .enter) := by
  rw [locate, plain.usable, if_neg Bool.false_ne_true, if_neg (by simp [plain.bytes_ne_nil]),
    if_neg (Nat.not_lt.2 plain.short), plain.relative, plain.steps_eq]
  rfl

theorem locate_of_found (linkFree : disk.root.LinkFree) (plain : path.Plain) {node : FileTree}
    (found : disk.root.find? (disk.target path) = some node) :
    disk.locate path follow = .ok (.present (disk.target path)) := by
  rw [locate_eq plain]
  exact advance_of_found linkFree plain.within found

theorem locate_of_missing (linkFree : disk.root.LinkFree) (plain : path.Plain) {above : List Bytes}
    {name : Bytes} {entries : List (Bytes × FileTree)} (split : disk.target path = above ++ [name])
    (parent : disk.root.find? above = some (.directory entries))
    (missing : entries.lookup name = none) :
    disk.locate path follow = .ok (.absent above name) := by
  obtain ⟨front, last, is⟩ := path.exists_last []
  rw [List.nil_append] at is
  rw [target, is, ← List.append_assoc] at split
  obtain ⟨rfl, same⟩ := List.append_inj' split rfl
  obtain rfl := List.singleton_inj.1 same
  rw [locate_eq plain, is]
  exact advance_of_missing linkFree (is ▸ plain.within) parent missing

/-- A plain path leads to what is under its names, or to the last of them in a directory. -/
theorem spot_of_locate (linkFree : disk.root.LinkFree) (plain : path.Plain) {spot : Spot}
    (leads : disk.locate path follow = .ok spot) :
    spot = .present (disk.target path) ∨
      ∃ above name, disk.target path = above ++ [name] ∧ spot = .absent above name ∧
        (∃ entries, disk.root.find? above = some (.directory entries)) ∧
        disk.root.find? (disk.target path) = none := by
  rw [locate_eq plain] at leads
  obtain is | ⟨above, name, split, is, parent, missing⟩ := spot_of_advance linkFree leads
  · exact .inl is
  · refine .inr ⟨disk.start ++ above, name, ?_, is, parent, missing⟩
    rw [target, split, List.append_assoc]

/-! ### Requests -/

/-- A plain path leads to what lies under its names. -/
theorem visit_eq_ok_iff (linkFree : disk.root.LinkFree) (plain : path.Plain) (follow : Bool)
    (found : FileTree × List Bytes) :
    disk.visit path follow = .ok found ↔
      disk.root.find? (disk.target path) = some found.1 ∧ found.2 = disk.target path := by
  constructor
  · intro visits
    unfold visit at visits
    cases leads : disk.locate path follow with
    | error refusal =>
      rw [leads] at visits
      cases visits
    | ok spot =>
      rw [leads] at visits
      obtain rfl | ⟨above, name, -, rfl, -⟩ := spot_of_locate linkFree plain leads
      · cases there : disk.root.find? (disk.target path) with
        | none =>
          simp only [bind, Except.bind, there] at visits
          cases visits
        | some node =>
          simp only [bind, Except.bind, there] at visits
          obtain rfl := Except.ok.inj visits
          exact ⟨rfl, rfl⟩
      · cases visits
  · obtain ⟨node, place⟩ := found
    rintro ⟨there, rfl⟩
    rw [visit, locate_of_found linkFree plain there]
    simp only [bind, Except.bind, there]

/-- What is read at a plain path is the file under its names. -/
theorem read_eq_ok_iff (linkFree : disk.root.LinkFree) (plain : path.Plain) {data : Bytes} :
    disk.read path = .ok data ↔ disk.root.find? (disk.target path) = some (.file data) := by
  unfold read
  cases visits : disk.visit path true with
  | error refusal =>
    refine ⟨fun reads => (by cases reads), fun there => ?_⟩
    have found := (visit_eq_ok_iff linkFree plain true (_, _)).2 ⟨there, rfl⟩
    rw [visits] at found
    cases found
  | ok found =>
    obtain ⟨there, -⟩ := (visit_eq_ok_iff linkFree plain true found).1 visits
    rw [there]
    obtain ⟨node, place⟩ := found
    cases node with
    | file bytes =>
      show Except.ok bytes = .ok data ↔ _
      simp
    | link => simp [bind, Except.bind]
    | directory => simp [bind, Except.bind]

/-- Something is put where a path leads. -/
def Puts (disk : Disk) (path : Path) (node : FileTree) (changed : Disk) : Prop :=
  ∃ above name, disk.target path = above ++ [name] ∧ disk.root.Vacant above name ∧ node.Fresh ∧
    changed = disk.put (above ++ [name]) node

theorem puts_of_write (linkFree : disk.root.LinkFree) (plain : path.Plain) {data : Bytes}
    (writes : disk.write path data = .ok changed) : disk.Puts path (.file data) changed := by
  unfold write at writes
  rw [plain.withoutSlashes_eq] at writes
  simp only [ne_eq, not_true_eq_false, false_and, if_false] at writes
  cases leads : disk.locate path true with
  | error refusal =>
    rw [leads] at writes
    cases writes
  | ok spot =>
    rw [leads] at writes
    obtain rfl | ⟨above, name, split, rfl, parent, missing⟩ := spot_of_locate linkFree plain leads
    · simp only [bind, Except.bind] at writes
      split at writes
      case h_2 => cases writes
      case h_1 old there =>
        obtain rfl := Except.ok.inj writes
        obtain ⟨above, name, split⟩ := path.exists_last disk.start
        rw [target, split] at there
        obtain ⟨entries, inner, parent, -⟩ := exists_parent there
        refine ⟨above, name, split, ⟨⟨entries, parent⟩, fun within is => ?_⟩, .file data,
          by rw [target, split]⟩
        rw [there] at is
        cases is
    · obtain rfl := Except.ok.inj writes
      refine ⟨above, name, split, ⟨parent, fun within is => ?_⟩, .file data, rfl⟩
      rw [split, is] at missing
      cases missing

theorem puts_of_make (linkFree : disk.root.LinkFree) (plain : path.Plain)
    (makes : disk.make path (.directory []) = .ok changed) :
    disk.Puts path (.directory []) changed ∧ disk.root.find? (disk.target path) = none := by
  unfold make at makes
  rw [plain.withoutSlashes_eq] at makes
  simp only [ite_self] at makes
  cases leads : disk.locate path false with
  | error refusal =>
    rw [leads] at makes
    cases makes
  | ok spot =>
    rw [leads] at makes
    obtain rfl | ⟨above, name, split, rfl, parent, missing⟩ := spot_of_locate linkFree plain leads
    · cases makes
    · obtain rfl := Except.ok.inj makes
      refine ⟨⟨above, name, split, ⟨parent, fun within is => ?_⟩, .directory, rfl⟩, missing⟩
      rw [split, is] at missing
      cases missing

theorem Puts.shallow (puts : disk.Puts path node changed) {place : List Bytes}
    (elsewhere : place ≠ disk.target path) :
    (changed.root.find? place).map FileTree.shallow =
      (disk.root.find? place).map FileTree.shallow := by
  obtain ⟨above, name, split, vacant, fresh, rfl⟩ := puts
  exact shallow_set vacant fresh (split ▸ elsewhere)

theorem Puts.found (puts : disk.Puts path node changed) :
    changed.root.find? (disk.target path) = some node := by
  obtain ⟨above, name, split, ⟨⟨entries, parent⟩, -⟩, -, rfl⟩ := puts
  rw [split]
  exact find?_set_self parent

theorem Puts.target (puts : disk.Puts path node changed) (other : Path) :
    changed.target other = disk.target other := by
  obtain ⟨above, name, split, vacant, fresh, rfl⟩ := puts
  rfl

theorem Puts.linkFree (puts : disk.Puts path node changed) (linkFree : disk.root.LinkFree) :
    changed.root.LinkFree := by
  obtain ⟨above, name, split, vacant, fresh, rfl⟩ := puts
  exact linkFree.set vacant fresh

/-! ### The law -/

/-- What a request does to a disk without links: nothing, or it writes a file, or it makes an empty
directory where nothing was. -/
theorem handler_cases (linkFree : disk.root.LinkFree) (task : FileTask)
    (plain : ∀ path, task.changes? = some path → path.Plain) :
    (handler task disk).2 = disk ∨
    (∃ path data, task = .write path data ∧ disk.Puts path (.file data) (handler task disk).2) ∨
    ∃ path, task = .makeDirectory path ∧
      disk.Puts path (.directory []) (handler task disk).2 ∧
      disk.root.find? (disk.target path) = none := by
  cases task with
  | read path | examine path follow | list path => exact .inl rfl
  | write path data =>
    cases writes : disk.write path data with
    | error refusal => exact .inl (by simp [handler, apply, writes])
    | ok changed =>
      have is : (handler (.write path data) disk).2 = changed := by simp [handler, apply, writes]
      rw [is]
      exact .inr (.inl ⟨path, data, rfl, puts_of_write linkFree (plain path rfl) writes⟩)
  | makeDirectory path =>
    cases makes : disk.make path (.directory []) with
    | error refusal => exact .inl (by simp [handler, apply, makes])
    | ok changed =>
      have is : (handler (.makeDirectory path) disk).2 = changed := by simp [handler, apply, makes]
      rw [is]
      exact .inr (.inr ⟨path, rfl, puts_of_make linkFree (plain path rfl) makes⟩)

/-- What is in the file that a path leads to. -/
def content? (disk : Disk) (place : Path) : Option Bytes :=
  (disk.read place).toOption

theorem content?_eq_some_iff (linkFree : disk.root.LinkFree) (plain : path.Plain) {data : Bytes} :
    disk.content? path = some data ↔ disk.root.find? (disk.target path) = some (.file data) := by
  rw [← read_eq_ok_iff linkFree plain, content?]
  cases disk.read path <;> simp [Except.toOption]

/-- Disks that have the same under the names of a path have the same content there. -/
theorem content?_eq_of_shallow (linkFree : disk.root.LinkFree) (stillFree : changed.root.LinkFree)
    (plain : path.Plain) (same : changed.target path = disk.target path)
    (alike : (changed.root.find? (disk.target path)).map FileTree.shallow =
      (disk.root.find? (disk.target path)).map FileTree.shallow) :
    changed.content? path = disk.content? path := by
  refine Option.ext fun data => ?_
  rw [content?_eq_some_iff linkFree plain, content?_eq_some_iff stillFree plain, same,
    ← map_shallow_eq_file_iff, alike, map_shallow_eq_file_iff]

/-- No request makes a link. -/
theorem linkFree_handler (linkFree : disk.root.LinkFree) (task : FileTask)
    (plain : ∀ path, task.changes? = some path → path.Plain) :
    (handler task disk).2.root.LinkFree := by
  obtain same | ⟨path, data, -, puts⟩ | ⟨path, -, puts, -⟩ := handler_cases linkFree task plain
  · rwa [same]
  · exact puts.linkFree linkFree
  · exact puts.linkFree linkFree

/-- A disk without links keeps the law of file systems at plain paths. -/
theorem retentive {Moment : Type} {asked : FileTask → Prop} {places : Path → Prop}
    (plainAsked : ∀ task, asked task → ∀ path, task.changes? = some path → path.Plain)
    (plainPlaces : ∀ place, places place → place.Plain) :
    Retentive (fun _ : Moment => handler) content? (fun disk => disk.root.LinkFree) asked
      places where
  fit _ task disk asks linkFree := linkFree_handler linkFree task (plainAsked task asks)
  read _ place disk data _ _ reads := by
    rw [content?, show disk.read place = .ok data from reads]
    rfl
  written _ path data place disk placed asks linkFree same writes := by
    have plain := plainAsked _ asks path rfl
    cases written : disk.write path data with
    | error refusal => simp [handler, apply, written] at writes
    | ok changed =>
      have puts := puts_of_write linkFree plain written
      have is : (handler (.write path data) disk).2 = changed := by simp [handler, apply, written]
      have together := (plain.sameAs_iff (plainPlaces place placed)).1 same
      rw [is, content?_eq_some_iff (puts.linkFree linkFree) (plainPlaces place placed), puts.target,
        ← puts.found]
      exact congrArg _ (congrArg (disk.start ++ ·) together.symm)
  others _ task place disk placed asks linkFree elsewhere := by
    have plainTask := plainAsked task asks
    have plain := plainPlaces place placed
    have stillFree := linkFree_handler linkFree task plainTask
    obtain same | ⟨path, data, rfl, puts⟩ | ⟨path, rfl, puts, missing⟩ :=
      handler_cases linkFree task plainTask
    · exact congrArg (content? · place) same
    · refine content?_eq_of_shallow linkFree stillFree plain (puts.target place)
        (puts.shallow fun same => ?_)
      have together := ((plainTask path rfl).sameAs_iff plain).2 (List.append_cancel_left same).symm
      exact Bool.false_ne_true (elsewhere.symm.trans together)
    · by_cases same : disk.target place = disk.target path
      · -- There was nothing, and now there is a directory; neither has content.
        refine Option.ext fun data => ?_
        rw [content?_eq_some_iff linkFree plain, content?_eq_some_iff stillFree plain, puts.target,
          same, puts.found, missing]
        simp
      · exact content?_eq_of_shallow linkFree stillFree plain (puts.target place)
          (puts.shallow same)

end Disk

end Thumbnailer
