/-
This file shows that FILL and CROP end with the clamped target, to the pixel. A FILL scale takes
each axis of the picture to the target or beyond. The decoder counts a partial step as a whole one,
so that what is left to scale is never too short, and rounding cannot take an axis below a whole
number that it has reached. So the scaled picture covers the target, and the window that is cut out
of it has the target's size. A clamped CROP target is covered by the picture itself.

The exception are pictures that have their target size already. They are encoded as they are stored,
with the axes exchanged if the tag asks for a quarter turn.

The engine that works on pixels is true to size, and so are rehearsals, so that this holds of both.
-/

import Thumbnailer.Proofs.Box
import Thumbnailer.Proofs.Guards

namespace Thumbnailer

open Procedure Stage Protocol

/-! ### Covering a target -/

/-- A scale that takes a picture over a target. -/
structure CoverScale (seen target : Size) (scale : Rat) : Prop where
  positive : 0 < scale
  covers : ∀ axis, (target.along axis).toNat ≤ (seen.along axis).toNat * scale

theorem scaleFor_pos (source target : Size) (mode : ResizeMode) :
    0 < (scaleFor source target mode : Rat) :=
  scaleFor_choice min_choice max_choice zero_lt_one
    (fun _ _ given nonempty => ratio_pos nonempty given) source target mode

/-- The greatest of some factors is above all of them. -/
theorem foldl_greater (rest : List Rat) (first : Rat) :
    ∀ scale ∈ first :: rest, rest.foldl ScaleFactor.greater first ≥ scale :=
  foldl_before le_refl ge_trans fun one other => ⟨le_max_left one other, le_max_right _ _⟩

section Cover

variable {seen target : Size}

/-- The greater axis ratio takes a picture over the box. -/
theorem coverScale_scaleFor (nonempty : ∀ axis, seen.along axis ≠ 0)
    (given : ∀ axis, target.along axis ≠ 0) (other : seen ≠ target) :
    CoverScale seen target (scaleFor seen target .fill) := by
  refine ⟨scaleFor_pos _ _ _, fun axis => ?_⟩
  have greatest : ∀ scale ∈ axisRatios seen target,
      (scaleFor seen target .fill : Rat) ≥ scale := by
    obtain ⟨first, rest, ratios, chosen⟩ := @scaleFor_eq_foldl Rat _ seen target .fill nofun
      nonempty ⟨.width, given .width⟩ other
    rw [ratios, chosen]
    exact foldl_greater rest first
  rw [← mul_ratio (target.along axis) (nonempty axis)]
  refine mul_le_mul_of_nonneg_left ?_ (Nat.cast_nonneg _)
  exact greatest _ (mem_axisRatios_iff.2 ⟨axis, given axis, rfl⟩)

/-- Neither the reduced decode nor the rounding leaves an axis short of the target. -/
theorem le_scaledSize {plan : Plan Rat} {scale : Rat} {format : Format}
    (splits : Splits plan scale format) (cover : CoverScale seen target scale) (axis : Axis) :
    target.along axis ≤ (plan.scaledSize .fill seen).along axis := by
  show target.along axis ≤ (plan.scaledSize .fit seen).along axis
  rw [along_scaledSize]
  exact le_resize ((cover.covers axis).trans (le_exactAxis splits cover.positive _))

/-- Under a FILL or CROP plan a picture ends with the target's size. -/
theorem finalSize_of_cut {options : Options} (format : Format) (mode : options.resize ≠ .fit)
    (valid : options.validate = .ok ()) (nonempty : ∀ axis, seen.along axis ≠ 0)
    (other : options.clampedBox seen ≠ seen) :
    (Plan.of seen options format : Plan Rat).finalSize options.resize seen =
      options.clampedBox seen := by
  have given : ∀ axis, (options.clampedBox seen).along axis ≠ 0 :=
    Options.clampedBox_given_of_cut mode valid nonempty
  rw [Plan.finalSize, if_neg mode, Plan.of_target]
  refine Size.meet_eq_left fun axis => ?_
  cases asked : options.resize with
  | fit => exact absurd asked mode
  | crop => exact Options.along_clampedBox_le (.inl asked) axis
  | fill =>
    have splits := @splits_of seen options format (scaleFor_pos _ _ _)
    rw [asked] at splits
    exact le_scaledSize splits (coverScale_scaleFor nonempty given other.symm) axis

end Cover

/-! ### Requests -/

/-- No tag but those from 5 to 8 exchanges the axes. -/
theorem apply_turn_of_upright {tag : UInt8} (upright : ¬(5 ≤ tag ∧ tag ≤ 8)) (size : Size) :
    (Orientation.turn tag).apply size = size := by
  unfold Orientation.turn
  split
  · rfl
  · split
    case isTrue quarter =>
      refine absurd ?_ upright
      obtain rfl | rfl := quarter <;> decide
    case isFalse =>
      split
      case isTrue threeQuarters =>
        refine absurd ?_ upright
        obtain rfl | rfl := threeQuarters <;> decide
      case isFalse => rfl

variable {Image State : Type} [Picture Image]

/-- A FILL or CROP request that is served in time, on a picture of at least one pixel, by an engine
that is true to size, ends with an image of exactly the clamped target, unless the picture as seen
has the target's size already and is stored on its side. -/
theorem size_encoded_of_cut (engine : Handler (Work Image Rat) State) (capabilities : Capabilities)
    (request : Request) (start : State) {stored : Size} (nonempty : ∀ axis, stored.along axis ≠ 0)
    (mode : request.options.resize ≠ .fit) (accepted : request.refusal? capabilities = none)
    (smooth : Smooth request.deadline (transcript engine (process capabilities request) start))
    (sized : Proportionate stored (transcript engine (process capabilities request) start)) :
    let made := calls (transcript engine (process capabilities request) start)
    ∃ image finished bytes, (run engine (process capabilities request) start).1 = .ok bytes ∧
      decoded? made = some image ∧ encoded? made = some finished ∧
      let tag := Picture.orientation image
      let seen := (Orientation.turn tag).apply stored
      let plan : Plan Rat := .of seen request.options request.format
      (plan.target ≠ seen ∨ ¬(5 ≤ tag ∧ tag ≤ 8)) → Picture.size finished = plan.target := by
  obtain ⟨bytes, succeeds, served⟩ := served_process engine start accepted smooth
  obtain ⟨image, finished, begins, ends, seenIs, sizeIs⟩ := size_of_served served sized.calls
  refine ⟨image, finished, bytes, succeeds, begins, ends, ?_⟩
  intro tag seen plan differs
  have seenNonempty : ∀ axis, seen.along axis ≠ 0 := along_apply_ne_zero nonempty _
  have target : plan.target = request.options.clampedBox seen := Plan.of_target _ _ _
  rw [seenIs] at sizeIs
  rw [sizeIs, target]
  by_cases same : request.options.clampedBox seen = seen
  · have upright := differs.resolve_left fun other => other (target.trans same)
    rw [if_pos same, same]
    exact (apply_turn_of_upright upright stored).symm
  · rw [if_neg same]
    exact finalSize_of_cut request.format mode (validate_of_accepted accepted) seenNonempty same

/-- The request to fill a box with a picture of a format, without any limit of time. -/
def Request.filling (format : Format) (box : Size) (gravity : Gravity) : Request where
  data := []
  format := format
  options :=
    { resize := .fill
      width := box.width
      height := box.height
      gravity := gravity
      format := .png }
  quality := .standard
  deadline := .never { nanoseconds := 0 }

/-- A WEBP picture of seven by nine pixels that is stored on its side, and a box for which it is
reduced by two and then scaled by ten ninths. -/
theorem size_encoded_of_cut_webp :
    let stored : Size := { width := 7, height := 9 }
    let box : Size := { width := 5, height := 3 }
    let request := Request.filling .webp box .south
    let rehearsal := Rehearsal.plain stored 6
    let process : Stage Sketch Rat Bytes := process rehearsal.capabilities request
    let start := Rehearsal.blank { nanoseconds := 0 }
    let made := calls (transcript rehearsal.engine process start)
    (∀ axis, stored.along axis ≠ 0) ∧ request.options.resize ≠ .fit ∧
    request.refusal? rehearsal.capabilities = none ∧
    Smooth request.deadline (transcript rehearsal.engine process start) ∧
    Proportionate stored (transcript rehearsal.engine process start) ∧
    ∃ finished bytes, (run rehearsal.engine process start).1 = .ok bytes ∧
      encoded? made = some finished ∧ finished.size = box := by
  intro stored box request rehearsal process start made
  have nonempty : ∀ axis, stored.along axis ≠ 0 := by
    intro axis
    cases axis <;> decide
  have smooth : Smooth request.deadline (transcript rehearsal.engine process start) := by
    decide +kernel
  have sized : Proportionate stored (transcript rehearsal.engine process start) :=
    rehearsal.proportionate_transcript process start
  have mode : request.options.resize ≠ .fit := nofun
  refine ⟨nonempty, mode, rfl, smooth, sized, ?_⟩
  obtain ⟨image, finished, bytes, succeeds, begins, ends, exactly⟩ :=
    size_encoded_of_cut rehearsal.engine rehearsal.capabilities request start nonempty mode rfl
      smooth sized
  have decodes : decoded? made = some rehearsal.source := by decide +kernel
  cases begins.symm.trans decodes
  have target : (Plan.of ((Orientation.turn (Picture.orientation rehearsal.source)).apply stored)
      request.options request.format : Plan Rat).target = box := by
    decide +kernel
  refine ⟨finished, bytes, succeeds, ends, ?_⟩
  exact (exactly (.inl (target.trans_ne (by decide)))).trans target

/-! ### The engine that works on pixels -/

namespace Pixels

theorem usable_plan_exact (source : Size) (options : Options) (format : Format) :
    ScaleFactor.usable (Plan.of source options format : Plan Rat).scale = true :=
  decide_eq_true ((splits_of format (scaleFor_pos _ _ _)).scale_pos (scaleFor_pos _ _ _))

variable {codec : Codec} {decoded : Decoded}

/-- What decodes as it does without a cache is true to size. -/
theorem trueToSize_of_fulfils (exact : codec.Exact) {wish : Wish}
    (reads : codec.decode wish.data wish.format = .ok decoded)
    {answer : Except EngineError Canvas} (fulfils : Fulfils codec wish answer) :
    TrueToSize decoded.raster.size
      (.decode wish.data wish.format wish.shrink : Task Canvas Rat) answer := by
  obtain ⟨canvas, rfl, reduced, -⟩ := reduced_of_fulfils exact reads fulfils
  exact reduced

/-- A run of the engine that works on pixels is true to size, from a cache that is truthful about
the source at full size and at the plan's reduction. -/
theorem proportionate_process (exact : codec.Exact) (settings : EngineSettings) (request : Request)
    (start : SharedState) (reads : codec.decode request.data request.format = .ok decoded)
    (nonempty : ∀ axis, decoded.raster.size.along axis ≠ 0) :
    let seen := (Orientation.turn decoded.orientation).apply decoded.raster.size
    let plan : Plan Rat := .of seen request.options request.format
    let wish : Wish := ⟨request.data, request.format, plan.shrink⟩
    Wish.KeysApart wish.parts → Truthful codec wish.parts start →
      Proportionate decoded.raster.size (transcript (engine codec settings)
        (process settings.capabilities request : Stage Canvas Rat Bytes) start) := by
  intro seen plan wish apart truthful
  have known : ∀ asked, asked = wish ∨ asked = wish.full →
      codec.decode asked.data asked.format = .ok decoded ∧
        ∀ part ∈ asked.parts, part ∈ wish.parts := by
    rintro asked (rfl | rfl)
    · exact ⟨reads, fun _ member => member⟩
    · exact ⟨reads, fun _ => Wish.mem_parts_of_full⟩
  have opens : ∀ canvas, (engine codec settings
      (.decode request.data request.format 1 : Task Canvas Rat) start).1 = .ok canvas →
        canvas.content = decoded := by
    intro canvas opened
    have fulfils : Fulfils codec wish.full (engine codec settings
        (.decode request.data request.format 1 : Task Canvas Rat) start).1 :=
      (fulfils_engine apart (known _ (.inr rfl)).2 truthful).1
    rw [Fulfils, opened] at fulfils
    exact Except.ok.inj (fulfils.trans (Wish.outcome_full reads))
  have asked := @welcome_process Rat _ codec settings request start exact
    (fun asked => asked = wish ∨ asked = wish.full) (Truthful codec wish.parts)
    (fun _ _ => max_one_ne_zero _) (fun size => usable_plan_exact size _ _) (.inr rfl) ?_ ?_
    truthful
  · rintro ⟨task, answer⟩ member
    obtain ⟨⟨admits, wanted⟩, state, within, answered⟩ := asked _ member
    obtain rfl : answer = (engine codec settings task state).1 := answered
    by_cases other : ∀ data format shrink, task ≠ .decode data format shrink
    · exact (tells_engine exact admits).trueToSize other
    · -- The cache is needed only where something is decoded.
      push Not at other
      obtain ⟨data, format, shrink, rfl⟩ := other
      obtain ⟨reads, parts⟩ := known _ (wanted data format shrink rfl)
      exact trueToSize_of_fulfils exact reads (fulfils_engine apart parts within).1
  · intro canvas opened
    have shows := opens canvas opened
    have sizeIs : canvas.raster.size = decoded.raster.size :=
      congrArg (fun content : Decoded => content.raster.size) shows
    have seenIs : (appearanceOf canvas).size = seen :=
      congrArg (fun content : Decoded =>
        (Orientation.turn content.orientation).apply content.raster.size) shows
    rw [seenIs]
    refine ⟨fun axis => ?_, .inl rfl⟩
    rw [sizeIs]
    exact nonempty axis
  · intro task state within welcome
    exact truthful_engine apart (fun _ _ _ same => (known _ (welcome.2 _ _ _ same)).2) within

end Pixels

end Thumbnailer
