/-
This file follows the size of a picture through a request. An engine is true to size if it does to
the axes what each primitive is for: a reduced decode divides them, a scale multiplies them, a turn
exchanges them, a crop replaces them, and all other work leaves them alone. Rehearsals are true to
size.

The main statement gives the size that is encoded, read off the plan alone. Reduction and scaling
treat both axes alike, so they may be thought of as done after the turn, on the picture as seen.
-/

import Thumbnailer.Proofs.Axes
import Thumbnailer.Proofs.Protocol

namespace Thumbnailer

open Procedure Stage

variable {Image Scale State : Type} [Picture Image] [ScaleFactor Scale]

/-! ### Engines that are true to size -/

/-- What an answer owes to the sizes that went into a task, for a source stored at a size. -/
def TrueToSize (stored : Size) : (task : Task Image Scale) → task.Answer → Prop
  | .decode _ _ shrink, .ok image => Picture.size image = stored.reduce shrink
  | .resize image scale, .ok scaled =>
    Picture.size scaled = Rehearsal.scaled (Picture.size image) scale
  | .rotate image turn, .ok turned => Picture.size turned = turn.apply (Picture.size image)
  | .crop _ region, .ok cut => Picture.size cut = region.size
  | .smartCrop image target, .ok cut => Picture.size cut = target.meet (Picture.size image)
  | .flip image, .ok changed | .convert image _, .ok changed
  | .unpremultiply image _, .ok changed | .copy image, .ok changed =>
    Picture.size changed = Picture.size image
  | .premultiply image, .ok changed => Picture.size changed.1 = Picture.size image
  | _, _ => True

/-- A conversation with an engine that is true to size. -/
def Stage.Proportionate (stored : Size) (talk : Talk Image Scale) : Prop :=
  ∀ exchange ∈ talk, TrueToSize stored exchange.1 exchange.2

namespace Rehearsal

/-- Whatever a rehearsal does, it is true to size. -/
theorem trueToSize_engine (rehearsal : Rehearsal) (task : Task Sketch Scale)
    (record : Record Scale) :
    TrueToSize rehearsal.source.size task (rehearsal.engine task record).1 := by
  cases task with
  | decode data format shrink =>
    show TrueToSize _ (.decode data format shrink)
      (((rehearsal.note (.decode format shrink) record).1.mapError (asCodecFailure .decode)).bind
        fun _ => rehearsal.decoded data shrink)
    unfold decoded
    cases (rehearsal.note (.decode format shrink) record).1 with
    | error failure => trivial
    | ok _ =>
      by_cases refused : rehearsal.refuses data
      · rw [if_pos refused]
        trivial
      · rw [if_neg refused]
        rfl
  | encode image format quality => trivial
  | now => trivial
  | crop image region =>
    unfold engine noted
    dsimp only
    cases (rehearsal.note _ record).1 with
    | ok _ =>
      show TrueToSize _ (.crop image region) (cropped image region)
      unfold cropped
      split
      · rfl
      · trivial
    | error failure => trivial
  | unpremultiply image band =>
    unfold engine noted
    dsimp only
    cases (rehearsal.note _ record).1 with
    | ok _ =>
      show TrueToSize _ (.unpremultiply image band) (divided image)
      unfold divided
      split
      · rfl
      · trivial
    | error failure => trivial
  | _ =>
    unfold engine noted
    dsimp only
    cases (rehearsal.note _ record).1 with
    | ok _ => rfl
    | error failure => trivial

theorem proportionate_transcript {Value : Type} (rehearsal : Rehearsal)
    (stage : Stage Sketch Scale Value) (record : Record Scale) :
    Proportionate rehearsal.source.size (transcript rehearsal.engine stage record) :=
  forall_transcript rehearsal.trueToSize_engine stage record

end Rehearsal

namespace Stage

theorem proportionate_append {stored : Size} {before after : Talk Image Scale} :
    Proportionate stored (before ++ after) ↔
      Proportionate stored before ∧ Proportionate stored after :=
  List.forall_mem_append

theorem Proportionate.calls {stored : Size} {talk : Talk Image Scale}
    (sized : Proportionate stored talk) : Proportionate stored (calls talk) :=
  fun exchange member => sized exchange (List.mem_filter.1 member).1

end Stage

/-- The rehearsal of a picture in standard colour without alpha, by an engine that can do anything
and that nothing happens to. -/
def Rehearsal.plain (size : Size) (orientation : UInt8) : Rehearsal where
  source := { size := size, orientation := orientation, hasAlpha := false, interpretation := .srgb }
  capabilities := { decodes := fun _ => true, encodes := fun _ => true, smartCrop := true }
  band := .byte
  failing := none
  stalling := none

/-- The request to fit a picture of a format into a box, without any limit of time. -/
def Request.fitting (format : Format) (box : Size) : Request where
  data := []
  format := format
  options := { resize := .fit, width := box.width, height := box.height, format := .jpeg }
  quality := .standard
  deadline := .never { nanoseconds := 0 }

/-! ### The size after each part of a request -/

namespace Size

theorem reduceAxis_one (axis : UInt32) : reduceAxis axis 1 = axis := by
  unfold reduceAxis
  rw [show UInt32.toNat 1 = 1 from rfl, Nat.add_sub_cancel, Nat.div_one]
  exact UInt32.ofNat_toNat

/-- A reduction by one, or by nothing, keeps the size. -/
theorem reduce_of_le_one (size : Size) {shrink : UInt32} (whole : shrink ≤ 1) :
    size.reduce shrink = size := by
  have one : max shrink 1 = 1 := if_pos whole
  unfold reduce
  rw [one, reduceAxis_one, reduceAxis_one]

end Size

/-- Scaling leaves every axis if it leaves something of each length. -/
theorem Rehearsal.along_scaled_ne_zero
    (least : ∀ (length : UInt32) (scale : Scale), ScaleFactor.resize length scale ≠ 0)
    (size : Size) (scale : Scale) (axis : Axis) : (scaled size scale).along axis ≠ 0 := by
  cases axis with
  | width => exact least _ _
  | height => exact least _ _

namespace Plan

/-- The size of a picture after the plan's reduction and scale, which CROP leaves out. -/
def scaledSize (plan : Plan Scale) (mode : ResizeMode) (size : Size) : Size :=
  if mode = .crop then size else Rehearsal.scaled (size.reduce plan.shrink) plan.scale

/-- The size that a picture ends with under the plan. -/
def finalSize (plan : Plan Scale) (mode : ResizeMode) (size : Size) : Size :=
  if mode = .fit then plan.scaledSize mode size else plan.target.meet (plan.scaledSize mode size)

end Plan

namespace Protocol

variable {stored : Size}

theorem size_of_scaling {scale : Scale} {image scaled : Image} {scaling : Talk Image Scale}
    (scales : Scaling scale image scaling scaled) (sized : Proportionate stored scaling) :
    Picture.size scaled = Rehearsal.scaled (Picture.size image) scale := by
  cases scales with
  | alone solid => exact sized _ (List.mem_singleton_self _)
  | @bracketed multiplied resized _ band alpha =>
    have multiplies : Picture.size multiplied = Picture.size image := sized _ (.head _)
    have resizes : Picture.size resized = Rehearsal.scaled (Picture.size multiplied) scale :=
      sized _ (.tail _ (.head _))
    have divides : Picture.size scaled = Picture.size resized :=
      sized _ (.tail _ (.tail _ (.head _)))
    rw [divides, resizes, multiplies]

theorem size_of_reducing {request : Request} {plan : Plan Scale} {image scaled : Image}
    {reducing : Talk Image Scale} (reduces : Reducing request plan image reducing scaled)
    (sized : Proportionate stored reducing) (whole : Picture.size image = stored) :
    Picture.size scaled = plan.scaledSize request.options.resize stored := by
  cases reduces with
  | cropping mode => rw [Plan.scaledSize, if_pos mode, whole]
  | whole mode same scales =>
    rw [Plan.scaledSize, if_neg mode, stored.reduce_of_le_one same, ← whole]
    exact size_of_scaling scales sized
  | @reduced smaller _ _ mode reduces scales =>
    rw [Plan.scaledSize, if_neg mode]
    obtain ⟨decodes, sized⟩ := List.forall_mem_cons.1 sized
    have decodes : Picture.size smaller = stored.reduce plan.shrink := decodes
    rw [← decodes]
    exact size_of_scaling scales sized

theorem size_of_standardizing {image standard : Image} {standardizing : Talk Image Scale}
    (standardizes : Standardizing image standardizing standard)
    (sized : Proportionate stored standardizing) :
    Picture.size standard = Picture.size image := by
  cases standardizes with
  | already standard => rfl
  | converted other => exact sized _ (List.mem_singleton_self _)

theorem size_of_turning {turn : Turn} {image turned : Image} {turning : Talk Image Scale}
    (turns : Turning turn image turning turned) (sized : Proportionate stored turning) :
    Picture.size turned = turn.apply (Picture.size image) := by
  cases turns with
  | upright none => rw [none]; rfl
  | turned some => exact sized _ (List.mem_singleton_self _)

theorem size_of_mirroring {mirrored : Bool} {image oriented : Image}
    {mirroring : Talk Image Scale} (mirrors : Mirroring mirrored image mirroring oriented)
    (sized : Proportionate stored mirroring) : Picture.size oriented = Picture.size image := by
  cases mirrors with
  | kept plain => rfl
  | flipped mirror => exact sized _ (List.mem_singleton_self _)

omit [ScaleFactor Scale] in
/-- An image that needs no cut is within the target already, unless the mode is FIT. -/
theorem ite_meet_of_not_needsCut {options : Options} {target : Size} {image : Image}
    (covered : ¬NeedsCut options target image) :
    (if options.resize = .fit then Picture.size image else target.meet (Picture.size image)) =
      Picture.size image := by
  split
  case isTrue fit => rfl
  case isFalse mode =>
    exact Decidable.byContradiction fun differs => covered ⟨mode, .inr differs⟩

/-- Whatever is cut, and however, FIT keeps the size and the other modes meet the target. -/
theorem size_of_cutting {options : Options} {target : Size} {measured image finished : Image}
    {cutting : Talk Image Scale} (cuts : Cutting options target measured image cutting finished)
    (sized : Proportionate stored cutting) (same : Picture.size image = Picture.size measured) :
    Picture.size finished = if options.resize = .fit then Picture.size measured
      else target.meet (Picture.size measured) := by
  cases cuts with
  | full covered => rw [ite_meet_of_not_needsCut covered, same]
  | salient needed smart =>
    rw [if_neg needed.1, ← same]
    exact sized _ (List.mem_singleton_self _)
  | window needed placed =>
    rw [if_neg needed.1]
    exact sized _ (List.mem_singleton_self _)

theorem size_of_finishing {options : Options} {appearance : Appearance} {target : Size}
    {image finished : Image} {finishing : Talk Image Scale}
    (finishes : Finishing options appearance target image finishing finished)
    (sized : Proportionate stored finishing) :
    Picture.size finished =
      if options.resize = .fit then appearance.turn.apply (Picture.size image)
      else target.meet (appearance.turn.apply (Picture.size image)) := by
  cases finishes with
  | untouched upright plain covered =>
    rw [upright]
    exact (ite_meet_of_not_needsCut covered).symm
  | cut upright plain needed cuts =>
    obtain ⟨copies, sized⟩ := List.forall_mem_cons.1 sized
    rw [upright]
    exact size_of_cutting cuts sized copies
  | oriented pending turns mirrors cuts =>
    obtain ⟨copies, sized⟩ := List.forall_mem_cons.1 sized
    obtain ⟨sizedBefore, sizedCutting⟩ := proportionate_append.1 sized
    obtain ⟨sizedTurning, sizedMirroring⟩ := proportionate_append.1 sizedBefore
    rw [size_of_cutting cuts sizedCutting rfl, size_of_mirroring mirrors sizedMirroring,
      size_of_turning turns sizedTurning, copies]

/-! ### The size that is encoded -/

/-- A turn exchanges the axes of the result as it exchanges those of the source. -/
theorem apply_scaledSize (turn : Turn) (plan : Plan Scale) (mode : ResizeMode) (size : Size) :
    turn.apply (plan.scaledSize mode size) = plan.scaledSize mode (turn.apply size) := by
  unfold Plan.scaledSize
  cases turn <;> split <;> rfl

omit [ScaleFactor Scale] in
theorem seen_of_stored {image : Image} (whole : Picture.size image = stored) :
    (appearanceOf image).size = (Orientation.turn (Picture.orientation image)).apply stored := by
  rw [← whole]
  rfl

/-- A picture that has its target size is encoded as large as it is stored. Any other is encoded in
the size that the plan gives the picture as seen. -/
theorem size_of_served {request : Request} {made : Talk Image Scale} {bytes : Bytes}
    (served : Served request made bytes) (sized : Proportionate stored made) :
    ∃ image finished, decoded? made = some image ∧ encoded? made = some finished ∧
      (appearanceOf image).size = (Orientation.turn (Picture.orientation image)).apply stored ∧
      Picture.size finished =
        if request.options.clampedBox (appearanceOf image).size = (appearanceOf image).size then
          stored
        else
          (Plan.of (appearanceOf image).size request.options request.format : Plan Scale).finalSize
            request.options.resize (appearanceOf image).size := by
  cases served with
  | @unchanged image _ same =>
    obtain ⟨decodes, -⟩ := List.forall_mem_cons.1 sized
    have whole : Picture.size image = stored := decodes.trans (stored.reduce_of_le_one (by decide))
    refine ⟨image, image, rfl, rfl, seen_of_stored whole, ?_⟩
    rw [if_pos same, whole]
  | @changed image _ _ finished _ _ _ _ other reduces standardizes finishes =>
    obtain ⟨decodes, sized⟩ := List.forall_mem_cons.1 sized
    obtain ⟨sizedParts, -⟩ := proportionate_append.1 sized
    obtain ⟨sizedBefore, sizedFinishing⟩ := proportionate_append.1 sizedParts
    obtain ⟨sizedReducing, sizedStandardizing⟩ := proportionate_append.1 sizedBefore
    have whole : Picture.size image = stored := decodes.trans (stored.reduce_of_le_one (by decide))
    have seen : (appearanceOf image).size = (appearanceOf image).turn.apply stored :=
      seen_of_stored whole
    refine ⟨image, finished, rfl, encoded?_concat (_ :: _) .., seen, ?_⟩
    rw [if_neg other, size_of_finishing finishes sizedFinishing,
      size_of_standardizing standardizes sizedStandardizing,
      size_of_reducing reduces sizedReducing whole, apply_scaledSize, ← seen, Plan.finalSize,
      Plan.of_target]

end Protocol

end Thumbnailer
