/-
This file shows that a picture does not grow unless it may. A box that is clamped to the picture
asks for a scale of at most one, but the scale is not applied to the picture: it is split into a
reduction, which counts a partial step as a whole one, and into what is left, which is applied to
the longer axis and rounded.

What is added by a partial step is made up for by the steps themselves. An axis of at least one
pixel, with a whole step less one pixel added, is no longer than the axis times the reduction, and
the scale takes all of that back to the axis. So no axis is longer than that of the picture before
rounding, nor after it, however short the axis is.
-/

import Thumbnailer.Proofs.Cover

namespace Thumbnailer

open Procedure Stage Protocol

/-! ### The scale of a clamped box -/

/-- A scale that takes an axis of a picture onto one that is no longer makes nothing longer. -/
theorem FitScale.le_one {seen target : Size} {scale : Rat} (fit : FitScale seen target scale)
    (nonempty : ∀ axis, seen.along axis ≠ 0)
    (within : ∀ axis, target.along axis ≤ seen.along axis) : scale ≤ 1 := by
  obtain ⟨axis, -, reached⟩ := fit.reaches
  have positive : (0 : Rat) < (seen.along axis).toNat := by
    exact_mod_cast toNat_pos_of_ne_zero (nonempty axis)
  have shorter : ((target.along axis).toNat : Rat) ≤ (seen.along axis).toNat := by
    exact_mod_cast UInt32.le_iff_toNat_le.1 (within axis)
  rw [← reached] at shorter
  exact le_of_mul_le_mul_left (shorter.trans_eq (mul_one _).symm) positive

/-! ### One axis under a plan that makes nothing longer -/

section Axes

variable {plan : Plan Rat} {scale : Rat} {format : Format}

/-- An axis that is reduced by whole steps stands for no more than as many axes as there are pixels
in a step. -/
theorem reduceAxis_mul_le {axis shrink : UInt32} (nonempty : axis ≠ 0) (positive : shrink ≠ 0) :
    (Size.reduceAxis axis shrink).toNat * shrink.toNat ≤ axis.toNat * shrink.toNat := by
  have pixel : 1 ≤ axis.toNat := toNat_pos_of_ne_zero nonempty
  have step : 1 ≤ shrink.toNat := toNat_pos_of_ne_zero positive
  have reduced := (reduceAxis_bounds axis positive).2
  -- One pixel and a whole step less one are at most the product, both being at least one.
  have product : axis.toNat + shrink.toNat ≤ axis.toNat * shrink.toNat + 1 := by
    obtain ⟨more, moreIs⟩ := Nat.exists_eq_add_of_le pixel
    obtain ⟨further, furtherIs⟩ := Nat.exists_eq_add_of_le step
    rw [moreIs, furtherIs]
    nlinarith [Nat.zero_le (more * further)]
  omega

/-- An axis comes out no longer than it was before it is rounded. -/
theorem exactAxis_le (splits : Splits plan scale format) (positive : 0 < scale) (small : scale ≤ 1)
    {axis : UInt32} (nonempty : axis ≠ 0) : plan.exactAxis axis ≤ axis.toNat := by
  have length : (0 : Rat) ≤ axis.toNat := Nat.cast_nonneg _
  obtain whole | bounded := splits.bounded
  · rw [exactAxis_of_whole splits whole]
    exact mul_le_of_le_one_right length small
  · have steps : (((Size.reduceAxis axis plan.shrink).toNat * plan.shrink.toNat : Nat) : Rat) ≤
        (axis.toNat * plan.shrink.toNat : Nat) := by
      exact_mod_cast reduceAxis_mul_le nonempty splits.positive
    calc plan.exactAxis axis
        = ((Size.reduceAxis axis plan.shrink).toNat * plan.shrink.toNat : Nat) * scale :=
          exactAxis_eq splits axis
      _ ≤ (axis.toNat * plan.shrink.toNat : Nat) * scale :=
          mul_le_mul_of_nonneg_right steps positive.le
      _ = axis.toNat * (plan.shrink.toNat * scale) := by rw [Nat.cast_mul, mul_assoc]
      _ ≤ axis.toNat := mul_le_of_le_one_right length bounded

/-- Nor after it is rounded: the axis is whole, and at least one pixel. -/
theorem along_scaledSize_le (splits : Splits plan scale format) (positive : 0 < scale)
    (small : scale ≤ 1) {size : Size} {axis : Axis} (nonempty : size.along axis ≠ 0) :
    (plan.scaledSize .fit size).along axis ≤ size.along axis := by
  have exactly := exactAxis_le splits positive small nonempty
  have word : ((size.along axis).toNat : Rat) ≤ 4294967295 := by
    exact_mod_cast Nat.le_of_lt_succ (size.along axis).toNat_lt
  rw [along_scaledSize]
  refine (resize_le_iff nonempty ?_).2 ?_
  · exact lt_of_le_of_lt (exactly.trans word) (by norm_num)
  · exact lt_of_le_of_lt exactly (by linarith)

end Axes

/-! ### Requests -/

/-- Under a plan that must not make it grow, a picture ends within itself. -/
theorem along_finalSize_le {options : Options} {seen : Size} (format : Format)
    (kept : options.resize = .crop ∨ options.enlarge = false) (valid : options.validate = .ok ())
    (nonempty : ∀ axis, seen.along axis ≠ 0) (other : options.clampedBox seen ≠ seen)
    (axis : Axis) :
    ((Plan.of seen options format : Plan Rat).finalSize options.resize seen).along axis ≤
      seen.along axis := by
  by_cases mode : options.resize = .fit
  · have fit : FitScale seen (options.clampedBox seen)
        (scaleFor seen (options.clampedBox seen) options.resize) := by
      rw [mode]
      exact fitScale_scaleFor nonempty (clampedBox_given mode valid nonempty) other.symm
    have small := fit.le_one nonempty fun axis => Options.along_clampedBox_le kept axis
    rw [Plan.finalSize, if_pos mode, mode]
    exact along_scaledSize_le (splits_of format fit.positive) fit.positive small (nonempty axis)
  · rw [finalSize_of_cut format mode valid nonempty other]
    exact Options.along_clampedBox_le kept axis

variable {Image State : Type} [Picture Image]

/-- A request that is a crop or may not make the picture grow, served in time on a picture of at
least one pixel by an engine that is true to size, ends with an image that is no wider and no taller
than the picture as seen, if its target is not the picture's own size. -/
theorem size_encoded_le_seen (engine : Handler (Work Image Rat) State)
    (capabilities : Capabilities) (request : Request) (start : State) {stored : Size}
    (nonempty : ∀ axis, stored.along axis ≠ 0)
    (kept : request.options.resize = .crop ∨ request.options.enlarge = false)
    (accepted : request.refusal? capabilities = none)
    (smooth : Smooth request.deadline (transcript engine (process capabilities request) start))
    (sized : Proportionate stored (transcript engine (process capabilities request) start)) :
    let made := calls (transcript engine (process capabilities request) start)
    ∃ image finished bytes, (run engine (process capabilities request) start).1 = .ok bytes ∧
      decoded? made = some image ∧ encoded? made = some finished ∧
      let seen := (Orientation.turn (Picture.orientation image)).apply stored
      let plan : Plan Rat := .of seen request.options request.format
      plan.target ≠ seen →
        ∀ axis, (Picture.size finished).along axis ≤ seen.along axis := by
  obtain ⟨bytes, succeeds, served⟩ := served_process engine start accepted smooth
  obtain ⟨image, finished, begins, ends, seenIs, sizeIs⟩ := size_of_served served sized.calls
  refine ⟨image, finished, bytes, succeeds, begins, ends, ?_⟩
  intro seen plan other axis
  have seenNonempty : ∀ axis, seen.along axis ≠ 0 := along_apply_ne_zero nonempty _
  have changes : request.options.clampedBox seen ≠ seen := fun same =>
    other ((Plan.of_target _ _ _).trans same)
  rw [seenIs, if_neg changes] at sizeIs
  rw [sizeIs]
  exact along_finalSize_le request.format kept (validate_of_accepted accepted) seenNonempty changes
    axis

/-- A WEBP picture one pixel wide and eleven tall that is stored on its side, fitted into a box five
pixels tall: it is reduced by two, the single pixel stays one, and the eleven become six, which are
scaled by ten elevenths. -/
theorem size_encoded_le_seen_sliver :
    let stored : Size := { width := 11, height := 1 }
    let box : Size := { width := 0, height := 5 }
    let request := Request.fitting .webp box
    let rehearsal := Rehearsal.plain stored 6
    let process : Stage Sketch Rat Bytes := process rehearsal.capabilities request
    let start := Rehearsal.blank { nanoseconds := 0 }
    let made := calls (transcript rehearsal.engine process start)
    (∀ axis, stored.along axis ≠ 0) ∧
    (request.options.resize = .crop ∨ request.options.enlarge = false) ∧
    request.refusal? rehearsal.capabilities = none ∧
    Smooth request.deadline (transcript rehearsal.engine process start) ∧
    Proportionate stored (transcript rehearsal.engine process start) ∧
    ∃ finished bytes, (run rehearsal.engine process start).1 = .ok bytes ∧
      encoded? made = some finished ∧ finished.size.width ≤ 1 ∧ finished.size.height ≤ 11 := by
  intro stored box request rehearsal process start made
  have nonempty : ∀ axis, stored.along axis ≠ 0 := by
    intro axis
    cases axis <;> decide
  have smooth : Smooth request.deadline (transcript rehearsal.engine process start) := by
    decide +kernel
  have sized : Proportionate stored (transcript rehearsal.engine process start) :=
    rehearsal.proportionate_transcript process start
  have kept : request.options.resize = .crop ∨ request.options.enlarge = false := .inr rfl
  refine ⟨nonempty, kept, rfl, smooth, sized, ?_⟩
  obtain ⟨image, finished, bytes, succeeds, begins, ends, within⟩ :=
    size_encoded_le_seen rehearsal.engine rehearsal.capabilities request start nonempty kept rfl
      smooth sized
  have decodes : decoded? made = some rehearsal.source := by decide +kernel
  cases begins.symm.trans decodes
  have target : (Plan.of ((Orientation.turn (Picture.orientation rehearsal.source)).apply stored)
      request.options request.format : Plan Rat).target = box := by
    decide +kernel
  have within := within (target.trans_ne (by decide))
  exact ⟨finished, bytes, succeeds, ends, within .width, within .height⟩

end Thumbnailer
