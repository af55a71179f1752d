/-
This file is about the margins around the window of a gravity. A gravity that names a side of the
picture puts its window against that side. Along an axis of which it names no side the window is in
the middle, and if the margins cannot be equal, the odd pixel goes before it. Together with the size
of the window this leaves no choice: one window is placed so, and it is the one that is computed.

The corner of the window is also computed with each sum checked. Both offsets to the middle are
formed before gravity is looked at, so a sum that is no word would stop it even along an axis where
gravity has the last say. There is such a sum only if the picture is as long as the greatest word
along an axis on which the target is zero.
-/

import Thumbnailer.Proofs.Windows

namespace Thumbnailer

/-! ### Checked sums -/

/-- A sum of two coordinates, if it is a word. -/
def sum? (first second : UInt32) : Option UInt32 :=
  if first.toNat + second.toNat < UInt32.size then some (first + second) else none

/-- The coordinate behind a region along an axis, if it is a word. -/
def Region.stop? (region : Region) (axis : Axis) : Option UInt32 :=
  sum? (region.start axis) (region.size.along axis)

/-- Offset of a centred window, with its sum checked. -/
def centredOffset? (spare : UInt32) : Option UInt32 :=
  (sum? spare 1).map fun sum => sum / 2

/-- The upper left corner of a window, with its sums checked. Both coordinates are first those of a
centred window. -/
def windowOrigin? (current target : Size) (gravity : Gravity) : Option (UInt32 × UInt32) := do
  let spareWidth := spareAxis current.width target.width
  let spareHeight := spareAxis current.height target.height
  let left ← centredOffset? spareWidth
  let top ← centredOffset? spareHeight
  match gravity with
  | .center | .smart => return (left, top)
  | .north => return (left, 0)
  | .south => return (left, spareHeight)
  | .west => return (0, top)
  | .east => return (spareWidth, top)

/-- The window that gravity places, with the sums for its corner checked. -/
def gravityWindow? (current target : Size) (gravity : Gravity) : Option Region := do
  let window := target.meet current
  let origin ← windowOrigin? current window gravity
  return { left := origin.1, top := origin.2, width := window.width, height := window.height }

theorem sum?_eq_some_iff {first second sum : UInt32} :
    sum? first second = some sum ↔ sum.toNat = first.toNat + second.toNat := by
  unfold sum?
  constructor
  · intro found
    split at found
    case isTrue word =>
      cases found
      rw [UInt32.toNat_add]
      exact Nat.mod_eq_of_lt word
    case isFalse => cases found
  · intro same
    have word : first.toNat + second.toNat < UInt32.size := same ▸ sum.toNat_lt
    rw [if_pos word]
    refine congrArg some (UInt32.toNat_inj.1 ?_)
    rw [UInt32.toNat_add, same]
    exact Nat.mod_eq_of_lt word

theorem centredOffset?_eq_some_iff {spare offset : UInt32} :
    centredOffset? spare = some offset ↔
      spare.toNat + 1 < UInt32.size ∧ centredOffset spare = offset := by
  show Option.map _ (if spare.toNat + 1 < UInt32.size then some (spare + 1) else none) = _ ↔ _
  split
  case isTrue word => exact Option.some_inj.trans (and_iff_right word).symm
  case isFalse exceeded =>
    exact iff_of_false (fun found => nomatch found) fun both => exceeded both.1

/-- The checked corner is the corner. There is one if both offsets to the middle have a sum that is
a word, whichever of them gravity leaves in place. -/
theorem windowOrigin?_eq_some_iff {current target : Size} {gravity : Gravity}
    {origin : UInt32 × UInt32} :
    windowOrigin? current target gravity = some origin ↔
      (∀ axis, (spareAxis (current.along axis) (target.along axis)).toNat + 1 < UInt32.size) ∧
        origin = windowOrigin current target gravity := by
  rw [Axis.forall_iff]
  simp only [windowOrigin?, bind, Option.bind_eq_some_iff, centredOffset?_eq_some_iff]
  constructor
  · rintro ⟨left, ⟨across, rfl⟩, top, ⟨down, rfl⟩, found⟩
    refine ⟨⟨across, down⟩, ?_⟩
    cases gravity <;> exact (Option.some_inj.1 found).symm
  · rintro ⟨⟨across, down⟩, rfl⟩
    refine ⟨_, ⟨across, rfl⟩, _, ⟨down, rfl⟩, ?_⟩
    cases gravity <;> rfl

/-- What is to spare is the greatest word only if the picture is that long and the target is
zero. -/
theorem spareAxis_meet_succ_lt_iff (current target : Size) (axis : Axis) :
    (spareAxis (current.along axis) ((target.meet current).along axis)).toNat + 1 < UInt32.size ↔
      target.along axis ≠ 0 ∨ (current.along axis).toNat + 1 < UInt32.size := by
  have word : (current.along axis).toNat < UInt32.size := (current.along axis).toNat_lt
  have several : 1 < UInt32.size := by decide
  have none : target.along axis = 0 ↔ (target.along axis).toNat = 0 := UInt32.toNat_inj.symm
  rw [toNat_spareAxis (target.along_meet_le_right current axis), Size.toNat_along_meet, Ne, none]
  omega

/-- The checked window is the window. There is one unless the picture is as long as the greatest
word along an axis on which the target is zero. -/
theorem gravityWindow?_eq_some_iff {current target : Size} {gravity : Gravity} {window : Region} :
    gravityWindow? current target gravity = some window ↔
      (∀ axis, target.along axis ≠ 0 ∨ (current.along axis).toNat + 1 < UInt32.size) ∧
        window = gravityWindow current target gravity := by
  simp only [gravityWindow?, bind, pure, Option.bind_eq_some_iff, windowOrigin?_eq_some_iff,
    spareAxis_meet_succ_lt_iff, Option.some_inj]
  constructor
  · rintro ⟨origin, ⟨words, rfl⟩, rfl⟩
    exact ⟨words, rfl⟩
  · rintro ⟨words, rfl⟩
    exact ⟨_, ⟨words, rfl⟩, rfl⟩

/-- Gravity puts this window at the left edge; it is the sum for its middle that is no word. -/
example :
    gravityWindow? { width := 4294967295, height := 1 } { width := 0, height := 1 } .west = none :=
  rfl

/-! ### Sides and margins -/

/-- A side of a picture: the near one of an axis, where coordinates begin, or the far one. -/
inductive Side where
  | near (axis : Axis)
  | far (axis : Axis)
  deriving DecidableEq

def Side.axis : Side → Axis
  | .near axis | .far axis => axis

/-- The side that a gravity names. -/
def Gravity.side? : Gravity → Option Side
  | .north => some (.near .height)
  | .south => some (.far .height)
  | .west => some (.near .width)
  | .east => some (.far .width)
  | .center | .smart => none

/-- A gravity names either side of an axis, or none. -/
theorem Gravity.side_cases (gravity : Gravity) (axis : Axis) :
    gravity.side? = some (.near axis) ∨ gravity.side? = some (.far axis) ∨
      ∀ side ∈ gravity.side?, side.axis ≠ axis := by
  by_cases near : gravity.side? = some (.near axis)
  · exact .inl near
  by_cases far : gravity.side? = some (.far axis)
  · exact .inr (.inl far)
  refine .inr (.inr ?_)
  rintro (_ | _) named rfl
  · exact near named
  · exact far named

namespace Region

/-- A region lies in a picture just if it stops there, at a word. -/
theorem inside_iff_stops {region : Region} {size : Size} :
    region.Inside size ↔
      ∀ axis, ∃ stop, region.stop? axis = some stop ∧ stop ≤ size.along axis := by
  rw [inside_iff]
  refine forall_congr' fun axis => ?_
  simp only [stop?, sum?_eq_some_iff, UInt32.le_iff_toNat_le]
  constructor
  · intro within
    have word := Nat.lt_of_le_of_lt within (size.along axis).toNat_lt
    have told := UInt32.toNat_ofNat_of_lt' word
    exact ⟨_, told, Nat.le_trans (Nat.le_of_eq told) within⟩
  · rintro ⟨stop, told, within⟩
    exact told ▸ within

/-- The pixels between a region and a side of the picture that it lies in. -/
def margin (region : Region) (size : Size) : Side → Nat
  | .near axis => (region.start axis).toNat
  | .far axis =>
    (size.along axis).toNat - ((region.start axis).toNat + (region.size.along axis).toNat)

/-- What a gravity asks of the window that it places. -/
structure Placed (window : Region) (current target : Size) (gravity : Gravity) : Prop where
  /-- The window is as long as the target, or as the picture where that is short of it. -/
  along_eq : ∀ axis, window.size.along axis = min (target.along axis) (current.along axis)
  /-- It lies in the picture, and where it stops is a word. -/
  stops : ∀ axis, ∃ stop, window.stop? axis = some stop ∧ stop ≤ current.along axis
  /-- It has no margin on the side that gravity names. -/
  flush : ∀ side ∈ gravity.side?, window.margin current side = 0
  /-- Along an axis of which gravity names no side, the margin before it is as great as the one
  behind it, or greater by one. -/
  centred : ∀ axis, (∀ side ∈ gravity.side?, side.axis ≠ axis) →
    window.margin current (.near axis) = window.margin current (.far axis) ∨
      window.margin current (.near axis) = window.margin current (.far axis) + 1

theorem eq_of_start {first second : Region} (starts : ∀ axis, first.start axis = second.start axis)
    (sizes : first.size = second.size) : first = second := by
  obtain ⟨left, top, width, height⟩ := first
  obtain ⟨sameWidth, sameHeight⟩ := (Size.mk.injEq ..).mp sizes
  exact (Region.mk.injEq ..).mpr ⟨starts .width, starts .height, sameWidth, sameHeight⟩

/-- What a gravity asks of a window leaves no choice. -/
theorem Placed.unique {first second : Region} {current target : Size} {gravity : Gravity}
    (one : first.Placed current target gravity) (other : second.Placed current target gravity) :
    first = second := by
  have sizes : first.size = second.size := Size.eq_of_along fun axis =>
    (one.along_eq axis).trans (other.along_eq axis).symm
  refine eq_of_start (fun axis => UInt32.toNat_inj.1 ?_) sizes
  have within := inside_iff.1 (inside_iff_stops.2 one.stops) axis
  have alsoWithin := inside_iff.1 (inside_iff_stops.2 other.stops) axis
  rw [← sizes] at alsoWithin
  obtain near | far | free := gravity.side_cases axis
  · exact (one.flush _ near).trans (other.flush _ near).symm
  · have flush := one.flush _ far
    have alsoFlush := other.flush _ far
    simp only [margin, ← sizes] at flush alsoFlush
    omega
  · have centred := one.centred axis free
    have alsoCentred := other.centred axis free
    simp only [margin, ← sizes] at centred alsoCentred
    omega

end Region

/-! ### The margins of a gravity -/

variable {current target : Size} {gravity : Gravity} {axis : Axis}

/-- Where the window starts along an axis hangs on the side of it that gravity names. -/
theorem start_gravityWindow_eq (current target : Size) (gravity : Gravity) (axis : Axis) :
    (gravityWindow current target gravity).start axis =
      let spare := spareAxis (current.along axis) ((target.meet current).along axis)
      if gravity.side? = some (.near axis) then 0
      else if gravity.side? = some (.far axis) then spare
      else centredOffset spare := by
  cases gravity <;> cases axis <;> rfl

theorem margin_near_gravityWindow (named : gravity.side? = some (.near axis)) :
    (gravityWindow current target gravity).margin current (.near axis) = 0 := by
  rw [Region.margin, start_gravityWindow_eq, if_pos named]
  rfl

theorem margin_far_gravityWindow (named : gravity.side? = some (.far axis)) :
    (gravityWindow current target gravity).margin current (.far axis) = 0 := by
  have other : gravity.side? ≠ some (.near axis) := by
    rw [named]
    exact fun same => nomatch same
  have within := target.along_meet_le_right current axis
  have shorter := UInt32.le_iff_toNat_le.1 within
  rw [Region.margin, start_gravityWindow_eq, if_neg other, if_pos named, toNat_spareAxis within,
    size_gravityWindow, Nat.sub_add_cancel shorter, Nat.sub_self]

/-- The odd pixel is before the window, if there is one. -/
theorem margins_gravityWindow (free : ∀ side ∈ gravity.side?, side.axis ≠ axis)
    (given : target.along axis ≠ 0) :
    let window := gravityWindow current target gravity
    window.margin current (.near axis) = window.margin current (.far axis) ∨
      window.margin current (.near axis) = window.margin current (.far axis) + 1 := by
  have near : gravity.side? ≠ some (.near axis) := fun named => free _ named rfl
  have far : gravity.side? ≠ some (.far axis) := fun named => free _ named rfl
  have within := target.along_meet_le_right current axis
  have shorter := UInt32.le_iff_toNat_le.1 within
  have word := (spareAxis_meet_succ_lt_iff current target axis).2 (.inl given)
  simp only [Region.margin, start_gravityWindow_eq, if_neg near, if_neg far, size_gravityWindow]
  rw [toNat_centredOffset word, toNat_spareAxis within]
  omega

/-- If the target is zero along neither axis, then the window of a gravity is computed without a sum
that is no word, and it is the one window that is placed as the gravity asks. -/
theorem placed_gravityWindow (given : ∀ axis, target.along axis ≠ 0) (gravity : Gravity) :
    let window := gravityWindow current target gravity
    gravityWindow? current target gravity = some window ∧
      window.Placed current target gravity ∧
        ∀ other : Region, other.Placed current target gravity → other = window := by
  have computed : gravityWindow? current target gravity =
      some (gravityWindow current target gravity) :=
    gravityWindow?_eq_some_iff.2 ⟨fun axis => .inl (given axis), rfl⟩
  have flush : ∀ side ∈ gravity.side?,
      (gravityWindow current target gravity).margin current side = 0 := by
    rintro (axis | axis) named
    · exact margin_near_gravityWindow named
    · exact margin_far_gravityWindow named
  have placed : (gravityWindow current target gravity).Placed current target gravity :=
    { along_eq := target.along_meet current
      stops := Region.inside_iff_stops.1 (inside_gravityWindow current target gravity)
      flush := flush
      centred := fun axis free => margins_gravityWindow free (given axis) }
  exact ⟨computed, placed, fun _ alike => alike.unique placed⟩

/-- A column in the middle of the widest picture there is; the target is taller than the picture. -/
theorem placed_gravityWindow_widest :
    let current : Size := { width := 4294967295, height := 799 }
    let target : Size := { width := 1, height := 800 }
    let window : Region := { left := 2147483647, top := 0, width := 1, height := 799 }
    (∀ axis, target.along axis ≠ 0) ∧
      window.margin current (.far .width) = 2147483647 ∧
        gravityWindow? current target .north = some window ∧
          window.Placed current target .north ∧
            ∀ other : Region, other.Placed current target .north → other = window := by
  have given : ∀ axis, ({ width := 1, height := 800 } : Size).along axis ≠ 0 := by
    intro axis
    cases axis <;> decide
  exact ⟨given, rfl, @placed_gravityWindow { width := 4294967295, height := 799 } _ given .north⟩

end Thumbnailer
