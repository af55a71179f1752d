/-
This file looks at sizes one axis at a time. What the geometry of a request does to a size it does
to both axes alike, but for the turn, which exchanges them; so most facts about sizes are one fact
about an axis, whichever it is.
-/

import Mathlib.Logic.Basic
import Mathlib.Tactic.ByContra
import Thumbnailer.Orientation

namespace Thumbnailer

inductive Axis where
  | width
  | height
  deriving DecidableEq

theorem Axis.forall_iff {property : Axis → Prop} :
    (∀ axis, property axis) ↔ property .width ∧ property .height := by
  constructor
  · intro holds
    exact ⟨holds .width, holds .height⟩
  · rintro ⟨across, down⟩ axis
    cases axis with
    | width => exact across
    | height => exact down

namespace Size

/-- The length of an axis. -/
def along (size : Size) : Axis → UInt32
  | .width => size.width
  | .height => size.height

theorem eq_of_along {first second : Size} (same : ∀ axis, first.along axis = second.along axis) :
    first = second := by
  obtain ⟨width, height⟩ := first
  exact (Size.mk.injEq ..).mpr ⟨same .width, same .height⟩

theorem along_meet (first second : Size) (axis : Axis) :
    (first.meet second).along axis = min (first.along axis) (second.along axis) := by
  cases axis <;> rfl

theorem toNat_along_meet (first second : Size) (axis : Axis) :
    ((first.meet second).along axis).toNat =
      min (first.along axis).toNat (second.along axis).toNat := by
  rw [along_meet]
  show (if first.along axis ≤ second.along axis then _ else _ : UInt32).toNat = _
  split
  case isTrue le => exact (Nat.min_eq_left (UInt32.le_iff_toNat_le.1 le)).symm
  case isFalse more =>
    have less := UInt32.lt_iff_toNat_lt.1 (UInt32.not_le.1 more)
    exact (Nat.min_eq_right (Nat.le_of_lt less)).symm

/-- The lesser of two axes is one of them. -/
theorem along_meet_choice (first second : Size) (axis : Axis) :
    (first.meet second).along axis = first.along axis ∨
      (first.meet second).along axis = second.along axis := by
  rw [along_meet]
  exact ite_eq_or_eq (first.along axis ≤ second.along axis) _ _

theorem along_meet_le_right (first second : Size) (axis : Axis) :
    (first.meet second).along axis ≤ second.along axis := by
  rw [UInt32.le_iff_toNat_le, toNat_along_meet]
  exact Nat.min_le_right _ _

/-- A size that is covered is what is left of it. -/
theorem meet_eq_left {first second : Size}
    (covered : ∀ axis, first.along axis ≤ second.along axis) : first.meet second = first := by
  refine eq_of_along fun axis => ?_
  rw [along_meet]
  exact if_pos (covered axis)

end Size

theorem along_meet_ne_zero {first second : Size} {axis : Axis} (firstGiven : first.along axis ≠ 0)
    (secondGiven : second.along axis ≠ 0) : (first.meet second).along axis ≠ 0 := by
  obtain same | same := first.along_meet_choice second axis
  · rw [same]
    exact firstGiven
  · rw [same]
    exact secondGiven

theorem along_apply_ne_zero {size : Size} (nonempty : ∀ axis, size.along axis ≠ 0) (turn : Turn)
    (axis : Axis) : (turn.apply size).along axis ≠ 0 := by
  cases turn <;> cases axis <;> first | exact nonempty .width | exact nonempty .height

/-! ### Target boxes -/

namespace Options

variable {options : Options} {seen : Size}

/-- A valid FIT request gives an axis. -/
theorem box_given_of_fit (mode : options.resize = .fit) (valid : options.validate = .ok ()) :
    ∃ axis, options.box.along axis ≠ 0 := by
  by_contra none
  have unset : ∀ axis, options.box.along axis = 0 := fun axis =>
    Decidable.byContradiction fun given => none ⟨axis, given⟩
  have broken : options.brokenRule? = some .someAxis := by
    rw [brokenRule?, mode]
    exact if_pos ⟨unset .width, unset .height⟩
  rw [validate, broken] at valid
  cases valid

/-- A valid FILL or CROP request gives both axes. -/
theorem box_given_of_cut (mode : options.resize ≠ .fit) (valid : options.validate = .ok ())
    (axis : Axis) : options.box.along axis ≠ 0 := by
  intro unset
  have empty : options.width = 0 ∨ options.height = 0 := by
    cases axis with
    | width => exact .inl unset
    | height => exact .inr unset
  have broken : options.brokenRule? = some .bothAxes := by
    unfold brokenRule?
    cases asked : options.resize with
    | fit => exact absurd asked mode
    | fill => exact if_pos empty
    | crop => exact if_pos empty
  rw [validate, broken] at valid
  cases valid

/-- Clamping to a picture that is not empty keeps the axes that are given. -/
theorem along_clampedBox_ne_zero {axis : Axis} (given : options.box.along axis ≠ 0)
    (nonempty : seen.along axis ≠ 0) : (options.clampedBox seen).along axis ≠ 0 := by
  unfold clampedBox
  split
  · exact along_meet_ne_zero given nonempty
  · exact given

/-- Without permission to grow, and for a crop always, the target is within the picture. -/
theorem along_clampedBox_le (kept : options.resize = .crop ∨ options.enlarge = false)
    (axis : Axis) : (options.clampedBox seen).along axis ≤ seen.along axis := by
  have clamps : (!options.enlarge || options.resize = .crop) = true := by
    obtain mode | forbidden := kept
    · rw [mode]
      exact Bool.or_true _
    · rw [forbidden]
      rfl
  rw [clampedBox, if_pos clamps]
  exact options.box.along_meet_le_right seen axis

/-- A valid FILL or CROP request has a target with both axes. -/
theorem clampedBox_given_of_cut (mode : options.resize ≠ .fit) (valid : options.validate = .ok ())
    (nonempty : ∀ axis, seen.along axis ≠ 0) (axis : Axis) :
    (options.clampedBox seen).along axis ≠ 0 :=
  along_clampedBox_ne_zero (box_given_of_cut mode valid axis) (nonempty axis)

end Options

/-! ### Choices -/

section Choices

variable {Thing : Type} {choice : Thing → Thing → Thing} {first : Thing} {rest : List Thing}

/-- Choosing between things again and again gives one of them. -/
theorem foldl_choice {property : Thing → Prop}
    (among : ∀ one other, choice one other = one ∨ choice one other = other)
    (holds : ∀ thing ∈ first :: rest, property thing) : property (rest.foldl choice first) := by
  induction rest generalizing first with
  | nil => exact holds first (List.mem_singleton_self _)
  | cons second rest inductionHypothesis =>
    obtain ⟨holdsFirst, holdsLater⟩ := List.forall_mem_cons.1 holds
    obtain ⟨holdsSecond, holdsRest⟩ := List.forall_mem_cons.1 holdsLater
    refine inductionHypothesis (List.forall_mem_cons.2 ⟨?_, holdsRest⟩)
    obtain same | same := among first second
    · rw [same]
      exact holdsFirst
    · rw [same]
      exact holdsSecond

/-- Choosing what is before both gives what is before all. -/
theorem foldl_before {before : Thing → Thing → Prop} (reflexive : ∀ thing, before thing thing)
    (transitive : ∀ {one other third}, before one other → before other third → before one third)
    (chosen : ∀ one other, before (choice one other) one ∧ before (choice one other) other) :
    ∀ thing ∈ first :: rest, before (rest.foldl choice first) thing := by
  induction rest generalizing first with
  | nil =>
    intro thing member
    rw [List.mem_singleton.1 member]
    exact reflexive first
  | cons second rest inductionHypothesis =>
    obtain ⟨beforeChosen, beforeRest⟩ := List.forall_mem_cons.1 inductionHypothesis
    obtain ⟨beforeFirst, beforeSecond⟩ := chosen first second
    exact List.forall_mem_cons.2 ⟨transitive beforeChosen beforeFirst,
      List.forall_mem_cons.2 ⟨transitive beforeChosen beforeSecond, beforeRest⟩⟩

end Choices

/-! ### Factors -/

section Factors

variable {Scale : Type} [ScaleFactor Scale]

theorem mem_axisRatios_iff {seen target : Size} {scale : Scale} :
    scale ∈ axisRatios seen target ↔
      ∃ axis, target.along axis ≠ 0 ∧
        scale = ScaleFactor.ratio (target.along axis) (seen.along axis) := by
  constructor
  · intro member
    obtain ofWidth | ofHeight := List.mem_append.1 member
    · split at ofWidth
      · cases ofWidth
      · exact ⟨.width, ‹_›, List.mem_singleton.1 ofWidth⟩
    · split at ofHeight
      · cases ofHeight
      · exact ⟨.height, ‹_›, List.mem_singleton.1 ofHeight⟩
  · rintro ⟨axis, given, rfl⟩
    cases axis with
    | width =>
      refine List.mem_append_left _ ?_
      rw [if_neg (show target.width ≠ 0 from given)]
      exact List.mem_singleton_self _
    | height =>
      refine List.mem_append_right _ ?_
      rw [if_neg (show target.height ≠ 0 from given)]
      exact List.mem_singleton_self _

/-- The factor is chosen among the axis ratios if there is anything to scale. -/
theorem scaleFor_eq_foldl {seen target : Size} {mode : ResizeMode} (scales : mode ≠ .crop)
    (nonempty : ∀ axis, seen.along axis ≠ 0) (some : ∃ axis, target.along axis ≠ 0)
    (other : seen ≠ target) :
    ∃ first rest, (axisRatios seen target : List Scale) = first :: rest ∧
      scaleFor seen target mode =
        match mode with
        | .fit => rest.foldl ScaleFactor.lesser first
        | _ => rest.foldl ScaleFactor.greater first := by
  have changes : ¬(seen = target ∨ mode = .crop ∨ seen.width = 0 ∨ seen.height = 0) := by
    rintro (same | cuts | noWidth | noHeight)
    · exact other same
    · exact scales cuts
    · exact nonempty .width noWidth
    · exact nonempty .height noHeight
  rw [scaleFor, if_neg changes]
  cases ratios : (axisRatios seen target : List Scale) with
  | nil =>
    obtain ⟨axis, given⟩ := some
    have member : ScaleFactor.ratio (target.along axis) (seen.along axis) ∈
        (axisRatios seen target : List Scale) := mem_axisRatios_iff.2 ⟨axis, given, rfl⟩
    rw [ratios] at member
    cases member
  | cons first rest =>
    refine ⟨first, rest, rfl, ?_⟩
    cases mode <;> rfl

/-- The factor of a picture and a target is one of the axis ratios, or the unit. -/
theorem scaleFor_choice {property : Scale → Prop}
    (lesser : ∀ one other : Scale,
      ScaleFactor.lesser one other = one ∨ ScaleFactor.lesser one other = other)
    (greater : ∀ one other : Scale,
      ScaleFactor.greater one other = one ∨ ScaleFactor.greater one other = other)
    (unit : property ScaleFactor.unit)
    (ratio : ∀ target source, target ≠ 0 → source ≠ 0 →
      property (ScaleFactor.ratio target source))
    (source target : Size) (mode : ResizeMode) : property (scaleFor source target mode) := by
  unfold scaleFor
  by_cases none : source = target ∨ mode = .crop ∨ source.width = 0 ∨ source.height = 0
  · rw [if_pos none]
    exact unit
  rw [if_neg none]
  have nonempty : ∀ axis, source.along axis ≠ 0 := by
    intro axis empty
    cases axis with
    | width => exact none (.inr (.inr (.inl empty)))
    | height => exact none (.inr (.inr (.inr empty)))
  have ratios : ∀ scale ∈ (axisRatios source target : List Scale), property scale := by
    intro scale member
    obtain ⟨axis, given, rfl⟩ := mem_axisRatios_iff.1 member
    exact ratio _ _ given (nonempty axis)
  cases found : (axisRatios source target : List Scale) with
  | nil => exact unit
  | cons first rest =>
    rw [found] at ratios
    cases mode with
    | fit => exact foldl_choice lesser ratios
    | fill => exact foldl_choice greater ratios
    | crop => exact foldl_choice greater ratios

end Factors

end Thumbnailer
