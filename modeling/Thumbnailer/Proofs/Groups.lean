/-
This file parts the calls of a request into groups. The looks at the clock stand between the groups:
the first decode, scaling with what belongs to it, turning and cutting with what belongs to them,
and the encode. Any group but the first and the last may be empty.

That the groups put together are the calls again, and where the group of a call ends, are facts
about lists whose elements are ordered by a label, which come first.
-/

import Thumbnailer.Proofs.Protocol

namespace Thumbnailer

open Procedure Stage Protocol

variable {Image Scale : Type}

/-! ### Ordered lists in groups -/

/-- The groups up to the end of the one that holds the element with a number, counted from one
through all groups. -/
def throughNumber {Element : Type} : Nat → List (List Element) → List Element
  | _, [] => []
  | number, group :: groups =>
    if number ≤ group.length then group
    else group ++ throughNumber (number - group.length) groups

section Groups

variable {Element Label : Type} {rank : Element → Nat}

/-- Groups in which each element has a lesser rank than those of later groups, and the same rank as
those of its own group. -/
structure Graded (rank : Element → Nat) (groups : List (List Element)) : Prop where
  increasing : groups.Pairwise fun one other => ∀ element ∈ one, ∀ later ∈ other,
    rank element < rank later
  level : ∀ group ∈ groups, ∀ one ∈ group, ∀ other ∈ group, rank one = rank other

/-- Up to the end of the group that holds an element come the elements of no greater rank. -/
theorem Graded.throughNumber_eq {groups : List (List Element)} (graded : Graded rank groups)
    {count : Nat} {element : Element} (found : groups.flatten[count]? = some element) :
    throughNumber (count + 1) groups =
      groups.flatten.filter fun other => rank other ≤ rank element := by
  induction groups generalizing count with
  | nil => cases found
  | cons group groups inductionHypothesis =>
    obtain ⟨less, increasing⟩ := List.pairwise_cons.1 graded.increasing
    obtain ⟨same, level⟩ := List.forall_mem_cons.1 graded.level
    have exceeds : ∀ one ∈ group, ∀ later ∈ groups.flatten, rank one < rank later := by
      intro one member later inside
      obtain ⟨other, among, inside⟩ := List.mem_flatten.1 inside
      exact less other among one member later inside
    rw [List.flatten_cons] at found ⊢
    rw [List.filter_append]
    unfold throughNumber
    by_cases inside : count < group.length
    · rw [List.getElem?_append_left inside] at found
      have member := List.mem_of_getElem? found
      have kept : (group.filter fun other => rank other ≤ rank element) = group :=
        List.filter_eq_self.2 fun other also => by simp [same other also element member]
      have left : (groups.flatten.filter fun other => rank other ≤ rank element) = [] :=
        List.filter_eq_nil_iff.2 fun later also => by simp [exceeds element member later also]
      rw [if_pos (by omega), kept, left, List.append_nil]
    · rw [List.getElem?_append_right (by omega)] at found
      have member := List.mem_of_getElem? found
      have kept : (group.filter fun other => rank other ≤ rank element) = group :=
        List.filter_eq_self.2 fun other also => by
          simpa using Nat.le_of_lt (exceeds other also element member)
      have number : count + 1 - group.length = count - group.length + 1 := by omega
      rw [if_neg (by omega), kept, number, inductionHypothesis ⟨increasing, level⟩ found]

variable [DecidableEq Label] {number : Label → Nat} {label : Element → Label}

/-- Elements parted by their labels. -/
def partedBy (label : Element → Label) (labels : List Label) (elements : List Element) :
    List (List Element) :=
  labels.map fun wanted => elements.filter fun element => label element = wanted

theorem graded_partedBy {labels : List Label} (elements : List Element)
    (increasing : labels.Pairwise fun one other => number one < number other) :
    Graded (fun element => number (label element)) (partedBy label labels elements) where
  increasing := by
    refine List.pairwise_map.2 (increasing.imp fun less element member later among => ?_)
    rw [of_decide_eq_true (List.mem_filter.1 member).2,
      of_decide_eq_true (List.mem_filter.1 among).2]
    exact less
  level := by
    intro group member one inside other also
    obtain ⟨wanted, -, rfl⟩ := List.mem_map.1 member
    rw [of_decide_eq_true (List.mem_filter.1 inside).2,
      of_decide_eq_true (List.mem_filter.1 also).2]

/-- In an ordered list the elements with the least label come first. -/
theorem filter_append_filter_ne {least : Label} {elements : List Element}
    (sorted : elements.Pairwise fun one other => number (label one) ≤ number (label other))
    (below : ∀ element ∈ elements, label element ≠ least → number least < number (label element)) :
    (elements.filter fun element => label element = least) ++
      (elements.filter fun element => label element ≠ least) = elements := by
  induction elements with
  | nil => rfl
  | cons element rest inductionHypothesis =>
    obtain ⟨ahead, sorted⟩ := List.pairwise_cons.1 sorted
    obtain ⟨above, below⟩ := List.forall_mem_cons.1 below
    by_cases same : label element = least
    · rw [List.filter_cons_of_pos (by simpa using same),
        List.filter_cons_of_neg (by simpa using same), List.cons_append,
        inductionHypothesis sorted below]
    · have later : ∀ other ∈ element :: rest, label other ≠ least := by
        intro other member equal
        have exceeds := above same
        obtain rfl | member := List.mem_cons.1 member
        · exact same equal
        · have := ahead other member
          rw [equal] at this
          omega
      rw [List.filter_eq_nil_iff.2 (by simpa using later), List.nil_append,
        List.filter_eq_self.2 (by simpa using later)]

/-- Parting an ordered list by its labels keeps it together. -/
theorem flatten_partedBy {labels : List Label}
    (increasing : labels.Pairwise fun one other => number one < number other)
    {elements : List Element}
    (sorted : elements.Pairwise fun one other => number (label one) ≤ number (label other))
    (covered : ∀ element ∈ elements, label element ∈ labels) :
    (partedBy label labels elements).flatten = elements := by
  induction labels generalizing elements with
  | nil => exact (List.eq_nil_iff_forall_not_mem.2 fun element member =>
      nomatch covered element member).symm
  | cons least labels inductionHypothesis =>
    obtain ⟨exceeds, increasing⟩ := List.pairwise_cons.1 increasing
    have among : ∀ element ∈ elements, label element ≠ least → label element ∈ labels :=
      fun element member other => (List.mem_cons.1 (covered element member)).resolve_left other
    have others : partedBy label labels elements =
        partedBy label labels (elements.filter fun element => label element ≠ least) := by
      refine List.map_congr_left fun wanted member => ?_
      rw [List.filter_filter]
      refine List.filter_congr fun element _ => ?_
      have greater := exceeds wanted member
      have differs : label element = wanted → label element ≠ least := by
        rintro rfl equal
        rw [equal] at greater
        exact Nat.lt_irrefl _ greater
      simpa using differs
    have further := inductionHypothesis increasing (sorted.filter _) fun element member =>
      among element (List.mem_filter.1 member).1 (of_decide_eq_true (List.mem_filter.1 member).2)
    show (elements.filter fun element => label element = least) ++
      (partedBy label labels elements).flatten = elements
    rw [others, further]
    exact filter_append_filter_ne sorted fun element member other =>
      exceeds _ (among element member other)

/-- The group of an element in an ordered list ends where greater labels begin. -/
theorem throughNumber_partedBy {labels : List Label}
    (increasing : labels.Pairwise fun one other => number one < number other)
    {before here later : List Element} {element : Element}
    (sorted : (before ++ element :: (here ++ later)).Pairwise fun one other =>
      number (label one) ≤ number (label other))
    (covered : ∀ other ∈ before ++ element :: (here ++ later), label other ∈ labels)
    (level : ∀ other ∈ here, number (label other) = number (label element))
    (greater : ∀ other ∈ later, number (label element) < number (label other)) :
    throughNumber (before.length + 1)
        (partedBy label labels (before ++ element :: (here ++ later))) =
      before ++ element :: here := by
  have parted := flatten_partedBy increasing sorted covered
  have found : (partedBy label labels (before ++ element :: (here ++ later))).flatten[
      before.length]? = some element := by
    rw [parted, List.getElem?_append_right (Nat.le_refl _), Nat.sub_self]
    rfl
  rw [(graded_partedBy _ increasing).throughNumber_eq found, parted, List.filter_append,
    List.filter_cons_of_pos (by simp), List.filter_append]
  have kept : ∀ other ∈ before, number (label other) ≤ number (label element) := fun other member =>
    (List.pairwise_append.1 sorted).2.2 other member element (List.mem_cons_self ..)
  rw [List.filter_eq_self.2 fun other member => by simpa using kept other member,
    List.filter_eq_self.2 fun other member => by simp [level other member],
    List.filter_eq_nil_iff.2 fun other member => by simpa using greater other member,
    List.append_nil]

end Groups

namespace Stage

/-! ### Calls in their order -/

theorem isWork_of_stretch? {task : Task Image Scale} {stretch : Stretch}
    (own : task.stretch? = some stretch) : task.isWork = true := by
  cases task with
  | now => cases own
  | _ => rfl

/-- The stretches that work belongs to, in their order. -/
def workStretches : List (Option Stretch) :=
  [some .scaling, some .finishing, some .encoding]

theorem stretch?_of_isWork {task : Task Image Scale} (works : task.isWork = true) :
    task.stretch? ∈ workStretches := by
  cases task with
  | now => cases works
  | _ => simp [Task.stretch?, workStretches]

theorem stretch?_of_mem_calls (talk : Talk Image Scale) :
    ∀ exchange ∈ calls talk, exchange.1.stretch? ∈ workStretches := fun _ member =>
  stretch?_of_isWork (List.mem_filter.1 member).2

theorem mem_workStretches {task : Task Image Scale} {stretch : Stretch}
    (own : task.stretch? = some stretch) : some stretch ∈ workStretches := by
  rw [← own]
  exact stretch?_of_isWork (isWork_of_stretch? own)

/-- The place of a stretch among all; work of no stretch has the first one. -/
def place (stretch : Option Stretch) : Nat :=
  match stretch with
  | none => 0
  | some stretch => stretch.number

/-- A request begins with a decode. -/
theorem Leading.begins {reached : Stretch} {talk : Talk Image Scale}
    (leading : Leading .opening reached talk) (asked : talk ≠ []) :
    ∃ data format shrink answer rest, talk = ⟨.decode data format shrink, answer⟩ :: rest ∧
      Leading .opened reached rest := by
  cases leading with
  | rests => exact absurd rfl asked
  | asks on goes =>
    cases on with
    | opens data format shrink => exact ⟨data, format, shrink, _, _, rfl, goes⟩
    | stays own _ => exact absurd (mem_workStretches own) (by decide)
    | looks begun _ => exact absurd rfl begun

theorem Leading.number_le {first reached : Stretch} {talk : Talk Image Scale}
    (leading : Leading first reached talk) :
    first.number ≤ reached.number := by
  induction leading with
  | rests => exact Nat.le_refl _
  | asks on _ inductionHypothesis =>
    refine Nat.le_trans ?_ inductionHypothesis
    cases on with
    | opens => decide
    | stays => exact Nat.le_refl _
    | looks _ passes => exact Nat.le_of_lt passes
    | closes => decide

/-- The stretches that calls belong to come in their order. -/
theorem Leading.sorted {first reached : Stretch} {talk : Talk Image Scale}
    (leading : Leading first reached talk) (begun : first ≠ .opening) :
    (∀ exchange ∈ calls talk, first.number ≤ place exchange.1.stretch?) ∧
      (calls talk).Pairwise fun one other =>
        place one.1.stretch? ≤ place other.1.stretch? := by
  induction leading with
  | rests => exact ⟨List.forall_mem_nil _, .nil⟩
  | @asks task first _ _ answer rest on goes inductionHypothesis =>
    cases on with
    | opens => exact absurd rfl begun
    | stays own _ =>
      obtain ⟨least, sorted⟩ := inductionHypothesis begun
      have here : place task.stretch? = first.number := by rw [own]; rfl
      rw [calls_cons_of_work (isWork_of_stretch? own)]
      have ahead : ∀ other ∈ calls rest, place task.stretch? ≤ place other.1.stretch? := by
        rw [here]
        exact least
      exact ⟨List.forall_mem_cons.2 ⟨Nat.le_of_eq here.symm, least⟩,
        List.pairwise_cons.2 ⟨ahead, sorted⟩⟩
    | looks _ passes =>
      obtain ⟨least, sorted⟩ := inductionHypothesis fun same => by
        subst same
        exact Nat.not_lt_zero _ passes
      refine ⟨fun exchange member => ?_, sorted⟩
      exact Nat.le_of_lt (Nat.lt_of_lt_of_le passes (least exchange member))
    | closes image format quality =>
      rw [goes.nothing]
      exact ⟨List.forall_mem_singleton.2 (Nat.le_refl _), List.pairwise_singleton ..⟩

/-- A stretch before the encode ends with the conversation or with a look at the clock. -/
theorem Leading.stretch {first reached : Stretch} {talk : Talk Image Scale}
    (leading : Leading first reached talk) (begun : first ≠ .opening)
    (further : first ≠ .encoding) :
    ∃ here rest, talk = here ++ rest ∧ (∀ exchange ∈ here, exchange.1.stretch? = some first) ∧
      (rest = [] ∧ reached = first ∨
        ∃ now later beyond, rest = ⟨.now, now⟩ :: beyond ∧ first.number < later.number ∧
          Leading later reached beyond) := by
  induction leading with
  | rests => exact ⟨[], [], rfl, List.forall_mem_nil _, .inl ⟨rfl, rfl⟩⟩
  | @asks task first _ _ answer rest on goes inductionHypothesis =>
    cases on with
    | opens => exact absurd rfl begun
    | stays own _ =>
      obtain ⟨here, beyond, rfl, inside, ends⟩ := inductionHypothesis begun further
      exact ⟨_ :: here, beyond, rfl, List.forall_mem_cons.2 ⟨own, inside⟩, ends⟩
    | looks _ passes =>
      exact ⟨[], _, rfl, List.forall_mem_nil _, .inr ⟨answer, _, rest, rfl, passes, goes⟩⟩
    | closes => exact absurd rfl further

/-- A conversation can be split at any of its calls. -/
theorem exists_split_call {talk : Talk Image Scale} {count : Nat}
    (within : count < (calls talk).length) :
    ∃ before exchange after, talk = before ++ exchange :: after ∧ exchange.1.isWork = true ∧
      (calls before).length = count := by
  induction talk generalizing count with
  | nil => cases within
  | cons exchange rest inductionHypothesis =>
    cases works : exchange.1.isWork with
    | false =>
      rw [calls_cons_of_look works] at within
      obtain ⟨before, chosen, after, rfl, chosenWorks, length⟩ := inductionHypothesis within
      refine ⟨exchange :: before, chosen, after, rfl, chosenWorks, ?_⟩
      rw [calls_cons_of_look works, length]
    | true =>
      cases count with
      | zero => exact ⟨[], exchange, rest, rfl, works, rfl⟩
      | succ count =>
        rw [calls_cons_of_work works] at within
        obtain ⟨before, chosen, after, rfl, chosenWorks, length⟩ :=
          inductionHypothesis (Nat.lt_of_succ_lt_succ within)
        refine ⟨exchange :: before, chosen, after, rfl, chosenWorks, ?_⟩
        rw [calls_cons_of_work works, List.length_cons, length]

/-! ### The groups of a request -/

/-- Calls in four groups: the first; scaling with what belongs to it; turning and cutting with what
belongs to them; and the encode. -/
def grouped (made : Talk Image Scale) : List (Talk Image Scale) :=
  made.take 1 :: partedBy (fun exchange => exchange.1.stretch?) workStretches (made.drop 1)

section Groups

variable {reached : Stretch} {talk : Talk Image Scale}

theorem pairwise_workStretches :
    workStretches.Pairwise fun one other => place one < place other := by
  decide

theorem flatten_grouped (leading : Leading .opening reached talk) :
    (grouped (calls talk)).flatten = calls talk := by
  by_cases asked : talk = []
  · rw [asked]
    rfl
  · obtain ⟨data, format, shrink, answer, rest, rfl, goes⟩ := leading.begins asked
    have parted := flatten_partedBy pairwise_workStretches (goes.sorted (by decide)).2
      (stretch?_of_mem_calls rest)
    exact congrArg (List.cons _) parted

/-- The group of a call after the first decode, but not the encode: it ends where the conversation
does, unencoded, or the time is looked at. -/
theorem Leading.group_later {before after : Talk Image Scale} {task : Task Image Scale}
    {answer : task.Answer} (leading : Leading .opened reached (before ++ ⟨task, answer⟩ :: after))
    (works : task.isWork = true) (other : task.stretch? ≠ some .encoding) :
    ∃ here rest, after = here ++ rest ∧ (∀ exchange ∈ here, exchange.1.isWork = true) ∧
      throughNumber ((calls before).length + 1) (partedBy (fun exchange => exchange.1.stretch?)
          workStretches (calls (before ++ ⟨task, answer⟩ :: after))) =
        calls (before ++ ⟨task, answer⟩ :: here) ∧
      (rest = [] ∧ reached ≠ .encoded ∨ ∃ now beyond, rest = ⟨.now, now⟩ :: beyond) := by
  obtain ⟨middle, begun, ended⟩ := leading.split
  cases ended with
  | @asks _ _ next _ _ _ on goes =>
    cases on with
    | opens => exact absurd begun.number_le (by decide)
    | looks => cases works
    | closes => exact absurd rfl other
    | stays own further =>
      have among := mem_workStretches own
      obtain ⟨here, rest, rfl, inside, ends⟩ := goes.stretch
        (by rintro rfl; exact absurd among (by decide)) further
      have hereWorks : ∀ exchange ∈ here, exchange.1.isWork = true := fun exchange member =>
        isWork_of_stretch? (inside exchange member)
      have greater : ∀ exchange ∈ calls rest, middle.number < place exchange.1.stretch? := by
        intro exchange member
        obtain ⟨rfl, -⟩ | ⟨now, later, beyond, rfl, passes, goes⟩ := ends
        · cases member
        · have begun : later ≠ .opening := by
            rintro rfl
            exact Nat.not_lt_zero _ passes
          exact Nat.lt_of_lt_of_le passes ((goes.sorted begun).1 exchange member)
      have hereMade : calls here = here := List.filter_eq_self.2 hereWorks
      have made : calls (before ++ ⟨task, answer⟩ :: (here ++ rest)) =
          calls before ++ ⟨task, answer⟩ :: (here ++ calls rest) := by
        rw [calls_append, calls_cons_of_work works, calls_append, hereMade]
      have sorted := (leading.sorted (by decide)).2
      have covered := stretch?_of_mem_calls (before ++ ⟨task, answer⟩ :: (here ++ rest))
      rw [made] at sorted covered
      have placed : place task.stretch? = middle.number := by rw [own]; rfl
      refine ⟨here, rest, rfl, hereWorks, ?_, ?_⟩
      · rw [made, calls_append, calls_cons_of_work works, hereMade]
        refine throughNumber_partedBy pairwise_workStretches sorted covered ?_ ?_
        · intro exchange member
          rw [placed, inside exchange member]
          rfl
        · rw [placed]
          exact greater
      · obtain ⟨rfl, rfl⟩ | ⟨now, _, beyond, rfl, -⟩ := ends
        · refine .inl ⟨rfl, ?_⟩
          rintro rfl
          exact absurd among (by decide)
        · exact .inr ⟨now, beyond, rfl⟩

/-- The same of any call but the encode; the first decode is a group of its own. -/
theorem Leading.group {before after : Talk Image Scale} {task : Task Image Scale}
    {answer : task.Answer} (leading : Leading .opening reached (before ++ ⟨task, answer⟩ :: after))
    (works : task.isWork = true) (other : task.stretch? ≠ some .encoding) :
    ∃ here rest, after = here ++ rest ∧ (∀ exchange ∈ here, exchange.1.isWork = true) ∧
      throughNumber ((calls before).length + 1)
          (grouped (calls (before ++ ⟨task, answer⟩ :: after))) =
        calls (before ++ ⟨task, answer⟩ :: here) ∧
      (rest = [] ∧ reached ≠ .encoded ∨ ∃ now beyond, rest = ⟨.now, now⟩ :: beyond) := by
  obtain ⟨data, format, shrink, decoded, made, split, goes⟩ := leading.begins (by simp)
  cases before with
  | nil =>
    obtain ⟨⟨⟩, rfl⟩ := List.cons.inj split
    obtain ⟨here, rest, rfl, inside, ends⟩ := goes.stretch (by decide) (by decide)
    have nothing : here = [] := List.eq_nil_iff_forall_not_mem.2 fun exchange member =>
      absurd (mem_workStretches (inside exchange member)) (by decide)
    subst nothing
    refine ⟨[], rest, rfl, List.forall_mem_nil _, rfl, ?_⟩
    obtain ⟨rfl, rfl⟩ | ⟨now, _, beyond, rfl, -⟩ := ends
    · exact .inl ⟨rfl, by decide⟩
    · exact .inr ⟨now, beyond, rfl⟩
  | cons first before =>
    obtain ⟨rfl, rfl⟩ := List.cons.inj split
    obtain ⟨here, rest, rfl, inside, group, ends⟩ := goes.group_later works other
    refine ⟨here, rest, rfl, inside, ?_, ends⟩
    rw [List.cons_append, List.cons_append, calls_cons_of_work rfl, calls_cons_of_work rfl,
      calls_cons_of_work rfl]
    show (if (calls before).length + 1 + 1 ≤ 1 then _ else _) = _
    rw [if_neg (by omega)]
    exact congrArg (List.cons _) group

end Groups

end Stage

end Thumbnailer
