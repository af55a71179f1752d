/-
This file compares the size that a FIT request ends with with its target box. The scale of the plan
takes the picture into the box, and onto one of its axes, but the picture goes through a reduced
decode first. The decoder counts a partial step as a whole one, so each axis comes out up to one
pixel longer, and whether that pixel is there after rounding is a matter of half a pixel.

The main statement says exactly when the result fits. Formats that are decoded at full size, and
JPEG, which is reduced by no more than half of what it could be, always fit. A WEBP source, reduced
as far as it can be, can be one pixel too large, and then an example shows that it is.
-/

import Mathlib.Algebra.Order.Field.Rat
import Mathlib.Tactic.Linarith
import Mathlib.Tactic.Positivity
import Thumbnailer.Proofs.Axes
import Thumbnailer.Proofs.Dimensions

namespace Thumbnailer

open Procedure Stage Protocol

/-! ### Rounding and reduction of one axis -/

theorem toNat_max (first second : UInt32) :
    (max first second).toNat = max first.toNat second.toNat := by
  show (if first ≤ second then second else first).toNat = _
  split
  case isTrue le =>
    exact (max_eq_right (UInt32.le_iff_toNat_le.1 le)).symm
  case isFalse lt =>
    exact (max_eq_left (Nat.le_of_not_le fun le => lt (UInt32.le_iff_toNat_le.2 le))).symm

theorem toNat_pos_of_ne_zero {axis : UInt32} (given : axis ≠ 0) : 0 < axis.toNat :=
  Nat.pos_of_ne_zero fun zero => given (UInt32.toNat_inj.1 zero)

namespace Rounding

theorem toNat_saturate (whole : Int) :
    (saturate whole).toNat = min whole.toNat 4294967295 := by
  refine UInt32.toNat_ofNat_of_lt' (lt_of_le_of_lt (min_le_right _ _) ?_)
  decide

theorem nearest_le_iff {number : Rat} {limit : Int} :
    nearest number ≤ limit ↔ number < limit + 1 / 2 := by
  rw [← Int.lt_add_one_iff, nearest, Rat.floor_lt_iff]
  push_cast
  constructor <;> intro small <;> linarith

theorem le_nearest_iff {number : Rat} {limit : Int} :
    limit ≤ nearest number ↔ limit - 1 / 2 ≤ number := by
  rw [nearest, Rat.le_floor_iff]
  exact sub_le_iff_le_add.symm

end Rounding

theorem toNat_resize (axis : UInt32) (scale : Rat) :
    (ScaleFactor.resize axis scale).toNat =
      max (min (Rounding.nearest (axis.toNat * scale)).toNat 4294967295) 1 := by
  rw [← Rounding.toNat_saturate]
  exact toNat_max _ 1

/-- A scaled axis is within a bound if the exact product is less than half a pixel above it. -/
theorem resize_le_iff {axis bound : UInt32} {scale : Rat} (given : bound ≠ 0)
    (bounded : axis.toNat * scale < 4294967295 + 1 / 2) :
    ScaleFactor.resize axis scale ≤ bound ↔ axis.toNat * scale < bound.toNat + 1 / 2 := by
  have positive : 0 < bound.toNat := toNat_pos_of_ne_zero given
  have saturated : Rounding.nearest (axis.toNat * scale) ≤ 4294967295 :=
    Rounding.nearest_le_iff.2 (by exact_mod_cast bounded)
  have below : Rounding.nearest (axis.toNat * scale) ≤ (bound.toNat : Int) ↔
      axis.toNat * scale < bound.toNat + 1 / 2 := by
    rw [Rounding.nearest_le_iff, Int.cast_natCast]
  rw [← below, UInt32.le_iff_toNat_le, toNat_resize]
  omega

/-- A scaled axis is at most one pixel above a bound if the exact product is less than that. -/
theorem resize_le_succ {axis bound : UInt32} {scale : Rat}
    (below : axis.toNat * scale < bound.toNat + 1) :
    (ScaleFactor.resize axis scale).toNat ≤ bound.toNat + 1 := by
  have nearest : Rounding.nearest (axis.toNat * scale) ≤ (bound.toNat + 1 : Nat) := by
    rw [Rounding.nearest_le_iff]
    push_cast
    linarith
  rw [toNat_resize]
  omega

/-- A scaled axis reaches whatever whole length the exact product reaches. -/
theorem le_resize {axis bound : UInt32} {scale : Rat} (reaches : bound.toNat ≤ axis.toNat * scale) :
    bound ≤ ScaleFactor.resize axis scale := by
  have nearest : (bound.toNat : Int) ≤ Rounding.nearest (axis.toNat * scale) := by
    rw [Rounding.le_nearest_iff, Int.cast_natCast]
    linarith
  have word := bound.toNat_lt
  rw [UInt32.le_iff_toNat_le, toNat_resize]
  omega

/-- What a reduced axis stands for is no shorter than the axis and longer by less than a step. -/
theorem reduceAxis_bounds (axis : UInt32) {shrink : UInt32} (positive : shrink ≠ 0) :
    axis.toNat ≤ (Size.reduceAxis axis shrink).toNat * shrink.toNat ∧
      (Size.reduceAxis axis shrink).toNat * shrink.toNat < axis.toNat + shrink.toNat := by
  have positive : 0 < shrink.toNat := toNat_pos_of_ne_zero positive
  have word := axis.toNat_lt
  have quotient : (Size.reduceAxis axis shrink).toNat =
      (axis.toNat + shrink.toNat - 1) / shrink.toNat := by
    refine UInt32.toNat_ofNat_of_lt' (Nat.div_lt_of_lt_mul ?_)
    show _ < shrink.toNat * 4294967296
    omega
  rw [quotient]
  have division := Nat.div_add_mod (axis.toNat + shrink.toNat - 1) shrink.toNat
  have remainder := Nat.mod_lt (axis.toNat + shrink.toNat - 1) positive
  rw [Nat.mul_comm] at division
  omega

/-! ### The scale of a FIT plan -/

/-- A scale that takes a picture into a box and onto one of the axes that the box gives. -/
structure FitScale (seen target : Size) (scale : Rat) : Prop where
  positive : 0 < scale
  within : ∀ axis, target.along axis ≠ 0 →
    (seen.along axis).toNat * scale ≤ (target.along axis).toNat
  reaches : ∃ axis, target.along axis ≠ 0 ∧
    (seen.along axis).toNat * scale = (target.along axis).toNat

theorem mul_ratio {source : UInt32} (target : UInt32) (nonempty : source ≠ 0) :
    source.toNat * (ScaleFactor.ratio target source : Rat) = target.toNat := by
  have positive : (0 : Rat) < source.toNat := by exact_mod_cast toNat_pos_of_ne_zero nonempty
  exact mul_div_cancel₀ _ positive.ne'

theorem ratio_pos {source target : UInt32} (nonempty : source ≠ 0) (given : target ≠ 0) :
    0 < (ScaleFactor.ratio target source : Rat) := by
  have above : (0 : Rat) < source.toNat := by exact_mod_cast toNat_pos_of_ne_zero nonempty
  have below : (0 : Rat) < target.toNat := by exact_mod_cast toNat_pos_of_ne_zero given
  exact div_pos below above

/-- The least of some factors is one of them and is below all of them. -/
theorem foldl_lesser (rest : List Rat) (first : Rat) :
    rest.foldl ScaleFactor.lesser first ∈ first :: rest ∧
      ∀ scale ∈ first :: rest, rest.foldl ScaleFactor.lesser first ≤ scale := by
  refine ⟨foldl_choice min_choice fun scale member => member, ?_⟩
  exact foldl_before le_refl le_trans fun one other => ⟨min_le_left one other, min_le_right _ _⟩

/-- The lesser axis ratio takes a picture into the box. -/
theorem fitScale_scaleFor {seen target : Size} (nonempty : ∀ axis, seen.along axis ≠ 0)
    (some : ∃ axis, target.along axis ≠ 0) (other : seen ≠ target) :
    FitScale seen target (scaleFor seen target .fit) := by
  have least : (scaleFor seen target .fit : Rat) ∈ axisRatios seen target ∧
      ∀ scale ∈ axisRatios seen target, (scaleFor seen target .fit : Rat) ≤ scale := by
    obtain ⟨first, rest, ratios, chosen⟩ := @scaleFor_eq_foldl Rat _ seen target .fit nofun nonempty
      some other
    rw [ratios, chosen]
    exact foldl_lesser rest first
  obtain ⟨axis, given, ofAxis⟩ := mem_axisRatios_iff.1 least.1
  refine ⟨?_, fun axis given => ?_, axis, given, ?_⟩
  · rw [ofAxis]
    exact ratio_pos (nonempty axis) given
  · rw [← mul_ratio (target.along axis) (nonempty axis)]
    refine mul_le_mul_of_nonneg_left ?_ (Nat.cast_nonneg _)
    exact least.2 _ (mem_axisRatios_iff.2 ⟨axis, given, rfl⟩)
  · rw [ofAxis]
    exact mul_ratio _ (nonempty axis)

/-! ### The reduction of a plan -/

theorem toNat_wholeReciprocal {scale : Rat} (positive : 0 < scale) :
    (ScaleFactor.wholeReciprocal scale).toNat = min (1 / scale).floor.toNat 4294967295 := by
  rw [← Rounding.toNat_saturate]
  exact congrArg UInt32.toNat (if_pos positive)

/-- The whole reciprocal of a factor that makes smaller is at least one and no more than the
reciprocal. -/
theorem wholeReciprocal_bounds {scale : Rat} (positive : 0 < scale) (reduces : scale < 1) :
    1 ≤ (ScaleFactor.wholeReciprocal scale).toNat ∧
      (ScaleFactor.wholeReciprocal scale).toNat * scale ≤ 1 := by
  have whole := toNat_wholeReciprocal positive
  have one : 1 ≤ (1 / scale).floor := by
    rw [Rat.le_floor_iff]
    exact_mod_cast (one_le_div positive).2 reduces.le
  have floor : ((1 / scale).floor : Rat) ≤ 1 / scale := Rat.floor_le _
  refine ⟨by omega, (le_div_iff₀ positive).1 (le_trans ?_ floor)⟩
  rw [whole]
  have atMost : ((min (1 / scale).floor.toNat 4294967295 : Nat) : Int) ≤ (1 / scale).floor := by
    omega
  exact_mod_cast atMost

/-- JPEG is reduced by no more than half of the whole reciprocal, if it is reduced at all. -/
theorem shrinkFactor_jpeg (scale : Rat) :
    shrinkFactor scale .jpeg = 1 ∨ shrinkFactor scale .jpeg ≠ 0 ∧
      2 * (shrinkFactor scale .jpeg).toNat ≤ (ScaleFactor.wholeReciprocal scale).toNat := by
  have threshold : ∀ {number whole : UInt32}, number ≤ whole → number.toNat ≤ whole.toNat :=
    UInt32.le_iff_toNat_le.1
  unfold shrinkFactor
  dsimp only
  split
  case isTrue atLeast => exact .inr ⟨by decide, threshold atLeast⟩
  case isFalse =>
    split
    case isTrue atLeast => exact .inr ⟨by decide, threshold atLeast⟩
    case isFalse =>
      split
      case isTrue atLeast => exact .inr ⟨by decide, threshold atLeast⟩
      case isFalse => exact .inl rfl

/-- How a plan splits a scale into a reduction and the scale that is left. A reduction is at most
the reciprocal of the scale, and at most half of it unless the source is WEBP. -/
structure Splits (plan : Plan Rat) (scale : Rat) (format : Format) : Prop where
  positive : plan.shrink ≠ 0
  total : plan.scale = plan.shrink.toNat * scale
  bounded : plan.shrink = 1 ∨ plan.shrink.toNat * scale ≤ 1
  halved : format ≠ .webp → plan.shrink = 1 ∨ 2 * (plan.shrink.toNat * scale) ≤ 1

/-- Something of the scale is always left. -/
theorem Splits.scale_pos {plan : Plan Rat} {scale : Rat} {format : Format}
    (splits : Splits plan scale format) (positive : 0 < scale) : 0 < plan.scale := by
  have reduction : (0 : Rat) < plan.shrink.toNat := by
    exact_mod_cast toNat_pos_of_ne_zero splits.positive
  rw [splits.total]
  exact mul_pos reduction positive

/-- Without a reduction all of the scale is left. -/
theorem splits_whole (scale : Rat) (target : Size) (format : Format) :
    Splits { scale := scale, shrink := 1, target := target } scale format :=
  ⟨(by decide : (1 : UInt32) ≠ 0), (one_mul scale).symm, .inl rfl, fun _ => .inl rfl⟩

/-- A scale that makes smaller is split by the reduction that goes with it. -/
theorem splits_shrinkFactor {scale : Rat} {format : Format} (positive : 0 < scale)
    (reduces : scale < 1) (loads : format.shrinksOnLoad) (target : Size) :
    Splits { scale := ScaleFactor.afterReduction scale (shrinkFactor scale format),
             shrink := shrinkFactor scale format, target := target } scale format := by
  obtain ⟨one, whole⟩ := wholeReciprocal_bounds positive reduces
  have total : ∀ shrink : UInt32,
      ScaleFactor.afterReduction scale shrink = shrink.toNat * scale := fun shrink => mul_comm _ _
  rw [total]
  cases format with
  | png => cases loads
  | gif => cases loads
  | webp =>
    have raw : (shrinkFactor scale .webp).toNat = (ScaleFactor.wholeReciprocal scale).toNat :=
      (toNat_max _ 1).trans (max_eq_left one)
    refine ⟨fun zero => ?_, rfl, .inr ?_, fun other => absurd rfl other⟩
    · rw [show shrinkFactor scale .webp = 0 from zero] at raw
      exact absurd raw (by rw [UInt32.toNat_zero]; omega)
    · show ((shrinkFactor scale .webp).toNat : Rat) * scale ≤ 1
      rw [raw]
      exact whole
  | jpeg =>
    obtain same | ⟨given, half⟩ := shrinkFactor_jpeg scale
    · rw [same, show ((UInt32.toNat 1 : Nat) : Rat) = 1 from Nat.cast_one, one_mul]
      exact splits_whole scale target .jpeg
    · have half : (2 * (shrinkFactor scale .jpeg).toNat : Rat) ≤
          (ScaleFactor.wholeReciprocal scale).toNat := by
        exact_mod_cast half
      have halved : 2 * ((shrinkFactor scale .jpeg).toNat * scale) ≤ 1 := by
        rw [← mul_assoc]
        exact (mul_le_mul_of_nonneg_right half positive.le).trans whole
      have nonneg : 0 ≤ (shrinkFactor scale .jpeg).toNat * scale := by positivity
      have bounded : (shrinkFactor scale .jpeg).toNat * scale ≤ 1 := by linarith
      exact ⟨given, rfl, .inr bounded, fun _ => .inr halved⟩

theorem splits_of {seen : Size} {options : Options} (format : Format)
    (positive : 0 < (scaleFor seen (options.clampedBox seen) options.resize : Rat)) :
    Splits (.of seen options format) (scaleFor seen (options.clampedBox seen) options.resize)
      format := by
  unfold Plan.of
  dsimp only
  split
  case isFalse => exact splits_whole _ _ _
  case isTrue reduced =>
    obtain ⟨reduces, loads⟩ := Bool.and_eq_true_iff.1 reduced
    exact splits_shrinkFactor positive (of_decide_eq_true reduces) loads _

/-! ### What fits the box -/

/-- A size is in a box and reaches its edge on some axis. Only the axes that the box gives count. -/
def Size.Fits (size box : Size) : Prop :=
  (∀ axis, box.along axis ≠ 0 → size.along axis ≤ box.along axis) ∧
    ∃ axis, box.along axis ≠ 0 ∧ size.along axis = box.along axis

/-- The length of an axis under a plan before it is rounded to whole pixels. -/
def Plan.exactAxis (plan : Plan Rat) (axis : UInt32) : Rat :=
  (Size.reduceAxis axis (max plan.shrink 1)).toNat * plan.scale

theorem along_scaledSize (plan : Plan Rat) (size : Size) (axis : Axis) :
    (plan.scaledSize .fit size).along axis =
      ScaleFactor.resize (Size.reduceAxis (size.along axis) (max plan.shrink 1)) plan.scale := by
  cases axis <;> rfl

section Exact

variable {plan : Plan Rat} {scale : Rat} {format : Format}

theorem max_shrink_one (splits : Splits plan scale format) : max plan.shrink 1 = plan.shrink :=
  UInt32.toNat_inj.1
    ((toNat_max _ 1).trans (max_eq_left (toNat_pos_of_ne_zero splits.positive)))

theorem exactAxis_eq (splits : Splits plan scale format) (axis : UInt32) :
    plan.exactAxis axis =
      ((Size.reduceAxis axis plan.shrink).toNat * plan.shrink.toNat : Nat) * scale := by
  rw [Plan.exactAxis, max_shrink_one splits, splits.total, Nat.cast_mul, mul_assoc]

/-- Without a reduction an axis comes out as the scale has it. -/
theorem exactAxis_of_whole (splits : Splits plan scale format) (whole : plan.shrink = 1)
    (axis : UInt32) : plan.exactAxis axis = axis.toNat * scale := by
  rw [exactAxis_eq splits, whole, Size.reduceAxis_one, UInt32.toNat_one, mul_one]

theorem le_exactAxis (splits : Splits plan scale format) (positive : 0 < scale) (axis : UInt32) :
    axis.toNat * scale ≤ plan.exactAxis axis := by
  rw [exactAxis_eq splits]
  refine mul_le_mul_of_nonneg_right ?_ positive.le
  exact_mod_cast (reduceAxis_bounds axis splits.positive).1

/-- A reduction makes an axis longer by less than the scale of one of its steps. -/
theorem exactAxis_lt (splits : Splits plan scale format) (positive : 0 < scale) (axis : UInt32) :
    plan.exactAxis axis < axis.toNat * scale + plan.shrink.toNat * scale := by
  rw [exactAxis_eq splits, ← add_mul]
  refine mul_lt_mul_of_pos_right ?_ positive
  exact_mod_cast (reduceAxis_bounds axis splits.positive).2

/-- An axis that the scale takes into the box stays below the box and one pixel. -/
theorem exactAxis_lt_add_one (splits : Splits plan scale format) (positive : 0 < scale)
    {axis bound : UInt32} (within : axis.toNat * scale ≤ bound.toNat) :
    plan.exactAxis axis < bound.toNat + 1 := by
  obtain whole | bounded := splits.bounded
  · rw [exactAxis_of_whole splits whole]
    linarith
  · linarith [exactAxis_lt splits positive axis]

/-- Unless the source is WEBP, it stays below the box and half a pixel. -/
theorem exactAxis_lt_add_half (splits : Splits plan scale format) (positive : 0 < scale)
    (other : format ≠ .webp) {axis bound : UInt32} (within : axis.toNat * scale ≤ bound.toNat) :
    plan.exactAxis axis < bound.toNat + 1 / 2 := by
  obtain whole | halved := splits.halved other
  · rw [exactAxis_of_whole splits whole]
    linarith
  · linarith [exactAxis_lt splits positive axis]

/-- No axis comes near the largest one, unless it is not reduced. -/
theorem exactAxis_lt_largest (splits : Splits plan scale format) (positive : 0 < scale)
    {axis bound : UInt32} (within : axis.toNat * scale ≤ bound.toNat) :
    plan.exactAxis axis < 4294967295 + 1 / 2 := by
  have largest : ∀ length : UInt32, (length.toNat : Rat) ≤ 4294967295 := fun length => by
    have word := length.toNat_lt
    exact_mod_cast Nat.le_of_lt_succ word
  by_cases whole : plan.shrink = 1
  · rw [exactAxis_of_whole splits whole]
    linarith [largest bound]
  · -- A reduction by two or more is made only for a scale of at most one half.
    have bounded := splits.bounded.resolve_left whole
    have two : (2 : Rat) ≤ plan.shrink.toNat := by
      have given := toNat_pos_of_ne_zero splits.positive
      have notOne : plan.shrink.toNat ≠ 1 := fun one => whole (UInt32.toNat_inj.1 one)
      exact_mod_cast (by omega : 2 ≤ plan.shrink.toNat)
    have half : 2 * scale ≤ 1 := (mul_le_mul_of_nonneg_right two positive.le).trans bounded
    have length := mul_le_mul_of_nonneg_right (largest axis) positive.le
    linarith [exactAxis_lt splits positive axis]

variable {seen target : Size}

/-- A FIT plan ends in the box, and on its edge, exactly if no axis that the box gives exceeds it by
half a pixel before rounding. -/
theorem fits_scaledSize_iff (splits : Splits plan scale format)
    (fit : FitScale seen target scale) :
    (plan.scaledSize .fit seen).Fits target ↔
      ∀ axis, target.along axis ≠ 0 →
        plan.exactAxis (seen.along axis) < (target.along axis).toNat + 1 / 2 := by
  have axisWithin : ∀ axis, target.along axis ≠ 0 →
      ((plan.scaledSize .fit seen).along axis ≤ target.along axis ↔
        plan.exactAxis (seen.along axis) < (target.along axis).toNat + 1 / 2) := by
    intro axis given
    rw [along_scaledSize]
    exact resize_le_iff given (exactAxis_lt_largest splits fit.positive (fit.within axis given))
  constructor
  · intro fits axis given
    exact (axisWithin axis given).1 (fits.1 axis given)
  · intro below
    -- The axis that the scale takes onto the box is not made shorter by the reduction.
    obtain ⟨axis, given, reached⟩ := fit.reaches
    refine ⟨fun axis given => (axisWithin axis given).2 (below axis given), axis, given, ?_⟩
    refine UInt32.le_antisymm ((axisWithin axis given).2 (below axis given)) ?_
    rw [along_scaledSize]
    exact le_resize (reached.ge.trans (le_exactAxis splits fit.positive _))

theorem fits_scaledSize (splits : Splits plan scale format) (fit : FitScale seen target scale)
    (other : format ≠ .webp) : (plan.scaledSize .fit seen).Fits target :=
  (fits_scaledSize_iff splits fit).2 fun axis given =>
    exactAxis_lt_add_half splits fit.positive other (fit.within axis given)

theorem along_scaledSize_le_succ (splits : Splits plan scale format)
    (fit : FitScale seen target scale) (axis : Axis) (given : target.along axis ≠ 0) :
    ((plan.scaledSize .fit seen).along axis).toNat ≤ (target.along axis).toNat + 1 := by
  rw [along_scaledSize]
  exact resize_le_succ (exactAxis_lt_add_one splits fit.positive (fit.within axis given))

end Exact

/-! ### Requests -/

variable {Image State : Type} [Picture Image]

/-- Clamping to a picture that is not empty keeps an axis of a valid FIT request. -/
theorem clampedBox_given {options : Options} (mode : options.resize = .fit)
    (valid : options.validate = .ok ()) {seen : Size} (nonempty : ∀ axis, seen.along axis ≠ 0) :
    ∃ axis, (options.clampedBox seen).along axis ≠ 0 := by
  obtain ⟨axis, given⟩ := Options.box_given_of_fit mode valid
  exact ⟨axis, Options.along_clampedBox_ne_zero given (nonempty axis)⟩

/-- A FIT request that is served in time, on a picture of at least one pixel that does not have its
target size, is encoded as the picture turned upright. Its size fits the target exactly if no
target axis is exceeded by half a pixel before rounding. That is so for every source but WEBP, and
a target axis is never exceeded by more than one pixel. -/
theorem fits_encoded_iff (engine : Handler (Work Image Rat) State) (capabilities : Capabilities)
    (request : Request) (start : State) {stored : Size} (nonempty : ∀ axis, stored.along axis ≠ 0)
    (mode : request.options.resize = .fit) (accepted : request.refusal? capabilities = none)
    (smooth : Smooth request.deadline (transcript engine (process capabilities request) start))
    (sized : Proportionate stored (transcript engine (process capabilities request) start)) :
    let made := calls (transcript engine (process capabilities request) start)
    ∃ image finished bytes, (run engine (process capabilities request) start).1 = .ok bytes ∧
      decoded? made = some image ∧ encoded? made = some finished ∧
      let seen := (Orientation.turn (Picture.orientation image)).apply stored
      let plan : Plan Rat := .of seen request.options request.format
      plan.target ≠ seen →
        ((Picture.size finished).Fits plan.target ↔
          ∀ axis, plan.target.along axis ≠ 0 →
            plan.exactAxis (seen.along axis) < (plan.target.along axis).toNat + 1 / 2) ∧
        (request.format ≠ .webp → (Picture.size finished).Fits plan.target) ∧
        ∀ axis, plan.target.along axis ≠ 0 →
          ((Picture.size finished).along axis).toNat ≤ (plan.target.along axis).toNat + 1 := by
  obtain ⟨bytes, succeeds, served⟩ := served_process engine start accepted smooth
  obtain ⟨image, finished, begins, ends, seenIs, sizeIs⟩ := size_of_served served sized.calls
  refine ⟨image, finished, bytes, succeeds, begins, ends, ?_⟩
  intro seen plan other
  have seenNonempty : ∀ axis, seen.along axis ≠ 0 := along_apply_ne_zero nonempty _
  have target : plan.target = request.options.clampedBox seen := Plan.of_target _ _ _
  have fit : FitScale seen plan.target (scaleFor seen plan.target request.options.resize) := by
    rw [mode, target]
    have given := clampedBox_given mode (validate_of_accepted accepted) seenNonempty
    exact fitScale_scaleFor seenNonempty given fun same => other (target.trans same.symm)
  have splits : Splits plan (scaleFor seen plan.target request.options.resize) request.format := by
    rw [target]
    exact splits_of request.format (by rw [← target]; exact fit.positive)
  have size : Picture.size finished = plan.scaledSize .fit seen := by
    have changes : request.options.clampedBox seen ≠ seen := fun same => other (target.trans same)
    rw [seenIs, if_neg changes, Plan.finalSize, if_pos mode, mode] at sizeIs
    exact sizeIs
  rw [size]
  exact ⟨fits_scaledSize_iff splits fit, fits_scaledSize splits fit,
    along_scaledSize_le_succ splits fit⟩

/-- A JPEG picture of 609 by 433 pixels that is stored on its side, fitted into a square. -/
theorem fits_encoded_iff_jpeg :
    let stored : Size := { width := 433, height := 609 }
    let box : Size := { width := 75, height := 75 }
    let request := Request.fitting .jpeg box
    let rehearsal := Rehearsal.plain stored 6
    let process : Stage Sketch Rat Bytes := process rehearsal.capabilities request
    let start := Rehearsal.blank { nanoseconds := 0 }
    let made := calls (transcript rehearsal.engine process start)
    (∀ axis, stored.along axis ≠ 0) ∧ request.options.resize = .fit ∧
    request.refusal? rehearsal.capabilities = none ∧
    Smooth request.deadline (transcript rehearsal.engine process start) ∧
    Proportionate stored (transcript rehearsal.engine process start) ∧
    ∃ finished bytes, (run rehearsal.engine process start).1 = .ok bytes ∧
      encoded? made = some finished ∧ finished.size.Fits box := by
  intro stored box request rehearsal process start made
  have nonempty : ∀ axis, stored.along axis ≠ 0 := by
    intro axis
    cases axis <;> decide
  have smooth : Smooth request.deadline (transcript rehearsal.engine process start) := by
    decide +kernel
  have sized : Proportionate stored (transcript rehearsal.engine process start) :=
    rehearsal.proportionate_transcript process start
  refine ⟨nonempty, rfl, rfl, smooth, sized, ?_⟩
  obtain ⟨image, finished, bytes, succeeds, begins, ends, fits⟩ :=
    fits_encoded_iff rehearsal.engine rehearsal.capabilities request start nonempty rfl rfl smooth
      sized
  have decodes : decoded? made = some rehearsal.source := by decide +kernel
  cases begins.symm.trans decodes
  refine ⟨finished, bytes, succeeds, ends, ?_⟩
  have target : (Plan.of ((Orientation.turn (Picture.orientation rehearsal.source)).apply stored)
      request.options request.format : Plan Rat).target = box := by
    decide +kernel
  have fits := (fits (target.trans_ne (by decide))).2.1 (by decide)
  rwa [target] at fits

/-- A WEBP picture of seven by seven pixels, fitted into a box of two by two, is encoded as three by
three: a reduction by three leaves three pixels, and six sevenths of three are more than two and a
half. -/
theorem exceeds_box_webp :
    let stored : Size := { width := 7, height := 7 }
    let box : Size := { width := 2, height := 2 }
    let request := Request.fitting .webp box
    let rehearsal := Rehearsal.plain stored 1
    let process : Stage Sketch Rat Bytes := process rehearsal.capabilities request
    let start := Rehearsal.blank { nanoseconds := 0 }
    let made := calls (transcript rehearsal.engine process start)
    (∀ axis, stored.along axis ≠ 0) ∧ request.options.resize = .fit ∧
    request.refusal? rehearsal.capabilities = none ∧
    Smooth request.deadline (transcript rehearsal.engine process start) ∧
    Proportionate stored (transcript rehearsal.engine process start) ∧
    (Plan.of stored request.options request.format : Plan Rat).target = box ∧ box ≠ stored ∧
    (encoded? made).map Sketch.size = some { width := 3, height := 3 } ∧
    ¬Size.Fits { width := 3, height := 3 } box := by
  intro stored box request rehearsal process start made
  have nonempty : ∀ axis, stored.along axis ≠ 0 := by
    intro axis
    cases axis <;> decide
  refine ⟨nonempty, rfl, rfl, by decide +kernel,
    rehearsal.proportionate_transcript process start, by decide +kernel, by decide,
    by decide +kernel, fun fits => ?_⟩
  exact absurd (fits.1 .width (by decide)) (by decide)

end Thumbnailer
