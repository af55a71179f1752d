/-
This file asks how far the reduction that is left to a decoder goes, and what it costs. A reduction
is a whole number, so it can take over only a part of a scale that makes a picture smaller; the rest
of the scale is applied to the reduced picture.

It never goes too far. What is left is never more than the whole picture, of a JPEG picture that is
reduced at all it is at most one half, and a smaller scale never asks for a lesser reduction. A WEBP
picture is reduced as far as it can be, so that what is left is more than one half.

And it costs at most a pixel. An axis that is reduced, with a partial step counted as a whole one,
and then scaled by what is left, comes out as long as if it had been scaled at once, or one pixel
longer: the partial step is worth less than a pixel, because a whole one is worth no more.
-/

import Thumbnailer.Proofs.Cover

namespace Thumbnailer

/-! ### Rounding two lengths that are no more than a pixel apart -/

namespace Rounding

theorem nearest_mono {number other : Rat} (le : number ≤ other) :
    nearest number ≤ nearest other :=
  Rat.floor_monotone (by linarith)

theorem nearest_le_succ {number other : Rat} (below : other ≤ number + 1) :
    nearest other ≤ nearest number + 1 := by
  have above : number < nearest number + 1 / 2 := nearest_le_iff.1 le_rfl
  rw [nearest_le_iff]
  push_cast
  linarith

end Rounding

/-- An axis that is no shorter before it is rounded, and longer by no more than a pixel, is so after
it is rounded. -/
theorem resize_bounds {axis other : UInt32} {scale factor : Rat}
    (le : axis.toNat * scale ≤ other.toNat * factor)
    (below : other.toNat * factor ≤ axis.toNat * scale + 1) :
    ScaleFactor.resize axis scale ≤ ScaleFactor.resize other factor ∧
      (ScaleFactor.resize other factor).toNat ≤ (ScaleFactor.resize axis scale).toNat + 1 := by
  have noShorter := Rounding.nearest_mono le
  have noLonger := Rounding.nearest_le_succ below
  rw [UInt32.le_iff_toNat_le, toNat_resize, toNat_resize]
  omega

/-! ### The reduction that goes with a scale -/

/-- A scale that makes nothing smaller leaves nothing to reduce. -/
theorem shrinkFactor_of_one_le {scale : Rat} (keeps : 1 ≤ scale) (format : Format) :
    shrinkFactor scale format = 1 := by
  have positive : 0 < scale := zero_lt_one.trans_le keeps
  have floor : (1 / scale).floor < 2 := by
    rw [Rat.floor_lt_iff]
    exact lt_of_le_of_lt ((div_le_one positive).2 keeps) (by norm_num)
  have whole : ScaleFactor.wholeReciprocal scale ≤ 1 := by
    rw [UInt32.le_iff_toNat_le, toNat_wholeReciprocal positive, UInt32.toNat_one]
    omega
  have raised : max (ScaleFactor.wholeReciprocal scale) 1 = 1 := if_pos whole
  cases format with
  | jpeg =>
    unfold shrinkFactor
    grind
  | png | webp | gif => exact raised

/-- A JPEG picture is reduced in powers of two only, and by eight at most. -/
theorem shrinkFactor_jpeg_mem (scale : Rat) :
    shrinkFactor scale .jpeg ∈ ([1, 2, 4, 8] : List UInt32) := by
  unfold shrinkFactor
  dsimp only
  split
  · decide
  · split
    · decide
    · split <;> decide

theorem lt_one_of_one_lt_shrinkFactor {scale : Rat} {format : Format}
    (shrinks : 1 < shrinkFactor scale format) : scale < 1 := by
  refine not_le.1 fun keeps => ?_
  rw [shrinkFactor_of_one_le keeps] at shrinks
  exact absurd shrinks (by decide)

theorem wholeReciprocal_antitone {smaller larger : Rat} (positive : 0 < smaller)
    (le : smaller ≤ larger) :
    ScaleFactor.wholeReciprocal larger ≤ ScaleFactor.wholeReciprocal smaller := by
  have reciprocals : (1 / larger).floor ≤ (1 / smaller).floor :=
    Rat.floor_monotone (one_div_le_one_div_of_le positive le)
  rw [UInt32.le_iff_toNat_le, toNat_wholeReciprocal positive,
    toNat_wholeReciprocal (positive.trans_le le)]
  omega

/-- A smaller scale never asks for a lesser reduction. -/
theorem shrinkFactor_antitone {smaller larger : Rat} (positive : 0 < smaller)
    (le : smaller ≤ larger) (format : Format) :
    shrinkFactor larger format ≤ shrinkFactor smaller format := by
  have whole := wholeReciprocal_antitone positive le
  have raised : max (ScaleFactor.wholeReciprocal larger) 1 ≤
      max (ScaleFactor.wholeReciprocal smaller) 1 := by
    rw [UInt32.le_iff_toNat_le, toNat_max, toNat_max]
    exact max_le_max_right _ (UInt32.le_iff_toNat_le.1 whole)
  cases format with
  | jpeg =>
    -- Each threshold that the lesser reciprocal reaches is reached by the greater one.
    unfold shrinkFactor
    grind
  | png | webp | gif => exact raised

/-! ### The scale that is left -/

/-- No scale is less than the one that takes the longest axis to a single pixel. -/
theorem le_scaleFor (source target : Size) (mode : ResizeMode) :
    1 / 4294967295 ≤ (scaleFor source target mode : Rat) := by
  have unit : (1 / 4294967295 : Rat) ≤ 1 := by norm_num
  refine scaleFor_choice min_choice max_choice unit (fun target source given nonempty => ?_)
    source target mode
  have pixel : (1 : Rat) ≤ target.toNat := by exact_mod_cast toNat_pos_of_ne_zero given
  have positive : (0 : Rat) < source.toNat := by exact_mod_cast toNat_pos_of_ne_zero nonempty
  have longest : (source.toNat : Rat) ≤ 4294967295 := by
    exact_mod_cast Nat.le_of_lt_succ source.toNat_lt
  exact div_le_div₀ (zero_le_one.trans pixel) pixel positive longest

/-- One step more than the whole reciprocal would take over more than all of the scale. -/
theorem one_lt_succ_wholeReciprocal_mul {scale : Rat} (least : 1 / 4294967295 ≤ scale) :
    1 < ((ScaleFactor.wholeReciprocal scale).toNat + 1) * scale := by
  have positive : 0 < scale := lt_of_lt_of_le (by norm_num) least
  have reciprocal : 1 / scale ≤ 4294967295 := by
    rw [div_le_iff₀ positive]
    linarith
  -- The reciprocal is within the word, so its whole part is not cut off.
  have floor : (1 / scale).floor < 4294967296 := by
    rw [Rat.floor_lt_iff]
    exact lt_of_le_of_lt reciprocal (by norm_num)
  have below : (1 / scale).floor < ((ScaleFactor.wholeReciprocal scale).toNat + 1 : Nat) := by
    rw [toNat_wholeReciprocal positive]
    omega
  rw [Rat.floor_lt_iff, Int.cast_natCast, div_lt_iff₀ positive] at below
  exact_mod_cast below

/-- What the reduction of a WEBP picture leaves of a scale is more than one half and at most one. -/
theorem afterReduction_webp_bounds {scale : Rat} (least : 1 / 4294967295 ≤ scale)
    (reduces : scale < 1) :
    1 / 2 < ScaleFactor.afterReduction scale (shrinkFactor scale .webp) ∧
      ScaleFactor.afterReduction scale (shrinkFactor scale .webp) ≤ 1 := by
  have positive : 0 < scale := lt_of_lt_of_le (by norm_num) least
  obtain ⟨one, bounded⟩ := wholeReciprocal_bounds positive reduces
  have further := one_lt_succ_wholeReciprocal_mul least
  have raw : (shrinkFactor scale .webp).toNat = (ScaleFactor.wholeReciprocal scale).toNat :=
    (toNat_max _ 1).trans (max_eq_left one)
  have left : ScaleFactor.afterReduction scale (shrinkFactor scale .webp) =
      (ScaleFactor.wholeReciprocal scale).toNat * scale := by
    show scale * (shrinkFactor scale .webp).toNat = _
    rw [raw, mul_comm]
  -- One step more would be twice what is taken over, or less.
  have step : scale ≤ (ScaleFactor.wholeReciprocal scale).toNat * scale :=
    le_mul_of_one_le_left positive.le (by exact_mod_cast one)
  rw [left]
  exact ⟨by linarith, bounded⟩

/-! ### Plans -/

/-- The reduction of a plan is that of its scale, if the format can be reduced. -/
theorem Plan.shrink_of (source : Size) (options : Options) (format : Format) :
    (Plan.of source options format : Plan Rat).shrink =
      if format.shrinksOnLoad then
        shrinkFactor (scaleFor source (options.clampedBox source) options.resize : Rat) format
      else 1 := by
  unfold Plan.of
  dsimp only
  split
  case isTrue reduced => exact (if_pos (Bool.and_eq_true_iff.1 reduced).2).symm
  case isFalse whole =>
    split
    case isFalse => rfl
    case isTrue loads =>
      have keeps : 1 ≤ (scaleFor source (options.clampedBox source) options.resize : Rat) := by
        refine not_lt.1 fun reduces => whole ?_
        rw [loads, Bool.and_true]
        exact decide_eq_true reduces
      exact (shrinkFactor_of_one_le keeps format).symm

/-- How a plan divides a scale between the decoder and what is done after it. -/
structure Plan.Divides (plan : Plan Rat) (scale : Rat) (mode : ResizeMode) (format : Format) :
    Prop where
  /-- Only a picture that scaling makes smaller is reduced, and only where the decoder can. -/
  occasion : 1 < plan.shrink → mode ≠ .crop ∧ (format = .jpeg ∨ format = .webp) ∧ scale < 1
  total : plan.scale = scale * plan.shrink.toNat
  positive : 0 < plan.scale
  jpegSteps : format = .jpeg → plan.shrink ∈ ([1, 2, 4, 8] : List UInt32)
  /-- A reduction of a JPEG picture leaves at least half of the work to scaling. -/
  jpegRest : format = .jpeg → 1 < plan.shrink → plan.scale ≤ 1 / 2
  /-- A WEBP picture is reduced as far as it can be. -/
  webpRest : format = .webp → scale < 1 → 1 / 2 < plan.scale ∧ plan.scale ≤ 1

theorem divides_of (source : Size) (options : Options) (format : Format) :
    (Plan.of source options format).Divides
      (scaleFor source (options.clampedBox source) options.resize) options.resize format := by
  have least := le_scaleFor source (options.clampedBox source) options.resize
  have positive := scaleFor_pos source (options.clampedBox source) options.resize
  have splits := @splits_of source options format positive
  have shrinkIs := Plan.shrink_of source options format
  have ofCrop : options.resize = .crop →
      (scaleFor source (options.clampedBox source) options.resize : Rat) = 1 := fun mode =>
    if_pos (.inr (.inl mode))
  generalize (scaleFor source (options.clampedBox source) options.resize : Rat) = scale at *
  generalize (Plan.of source options format : Plan Rat) = plan at *
  refine ⟨fun shrinks => ?_, splits.total.trans (mul_comm _ _), splits.scale_pos positive,
    ?_, ?_, ?_⟩
  · rw [shrinkIs] at shrinks
    split at shrinks
    case isFalse => exact absurd shrinks (by decide)
    case isTrue loads =>
      have reduces := lt_one_of_one_lt_shrinkFactor shrinks
      refine ⟨fun mode => reduces.ne (ofCrop mode), ?_, reduces⟩
      cases format with
      | jpeg => exact .inl rfl
      | webp => exact .inr rfl
      | png | gif => cases loads
  · rintro rfl
    rw [shrinkIs]
    exact shrinkFactor_jpeg_mem scale
  · rintro rfl shrinks
    have halved := (splits.halved (by decide)).resolve_left fun whole =>
      absurd shrinks (by rw [whole]; decide)
    rw [splits.total]
    linarith
  · rintro rfl reduces
    have left : plan.scale = ScaleFactor.afterReduction scale (shrinkFactor scale .webp) := by
      rw [splits.total, shrinkIs]
      exact mul_comm _ _
    rw [left]
    exact afterReduction_webp_bounds least reduces

/-- Every plan divides its scale so, and a smaller scale never gets a lesser reduction: not as the
reduction goes with a scale, and not as plans for the same format go with theirs. -/
theorem Plan.divides_antitone (source : Size) (options : Options) (format : Format) :
    let scale : Rat := scaleFor source (options.clampedBox source) options.resize
    let plan : Plan Rat := .of source options format
    plan.Divides scale options.resize format ∧
      (∀ smaller larger : Rat, 0 < smaller → smaller ≤ larger →
        shrinkFactor larger format ≤ shrinkFactor smaller format) ∧
      ∀ (other : Size) (wanted : Options),
        scale ≤ scaleFor other (wanted.clampedBox other) wanted.resize →
          (Plan.of other wanted format : Plan Rat).shrink ≤ plan.shrink := by
  intro scale plan
  refine ⟨divides_of source options format,
    fun _ _ positive le => shrinkFactor_antitone positive le format, fun other wanted le => ?_⟩
  rw [Plan.shrink_of, Plan.shrink_of]
  split
  · exact shrinkFactor_antitone (scaleFor_pos _ _ _) le format
  · exact UInt32.le_refl 1

/-- A picture that fills a square of two fifteenths of its height: seven steps are in reach, of
which a JPEG decoder takes two. -/
example :
    let plan : Format → Plan Rat :=
      .of ⟨4000, 3000⟩ { resize := .fill, width := 400, height := 400, format := .png }
    ((plan .jpeg).shrink = 2 ∧ (plan .jpeg).scale = 4 / 15) ∧
      ((plan .webp).shrink = 7 ∧ (plan .webp).scale = 14 / 15) ∧ (plan .png).shrink = 1 := by
  decide +kernel

/-! ### What a reduction costs -/

/-- Before it is rounded, an axis comes out as long as the scale has it, or longer by at most one
pixel. -/
theorem exactAxis_bounds {plan : Plan Rat} {scale : Rat} {format : Format}
    (splits : Splits plan scale format) (positive : 0 < scale) (axis : UInt32) :
    axis.toNat * scale ≤ plan.exactAxis axis ∧
      plan.exactAxis axis ≤ axis.toNat * scale + 1 := by
  refine ⟨le_exactAxis splits positive axis, ?_⟩
  obtain whole | bounded := splits.bounded
  · rw [exactAxis_of_whole splits whole]
    linarith
  · linarith [exactAxis_lt splits positive axis]

/-- An axis that is reduced and then scaled by what is left comes out as if it had been scaled at
once, or one pixel longer. -/
theorem resize_afterReduction_bounds (source target : Size) (mode : ResizeMode) (format : Format)
    (loads : format.shrinksOnLoad) (reduces : (scaleFor source target mode : Rat) < 1)
    (axis : UInt32) :
    let scale : Rat := scaleFor source target mode
    let shrink := shrinkFactor scale format
    let scaled := ScaleFactor.resize axis scale
    let reduced :=
      ScaleFactor.resize (Size.reduceAxis axis shrink) (ScaleFactor.afterReduction scale shrink)
    scaled ≤ reduced ∧ reduced.toNat ≤ scaled.toNat + 1 := by
  intro scale shrink scaled reduced
  have positive : 0 < scale := scaleFor_pos source target mode
  have splits := splits_shrinkFactor positive reduces loads target
  obtain ⟨noShorter, noLonger⟩ := exactAxis_bounds splits positive axis
  rw [Plan.exactAxis, max_shrink_one splits] at noShorter noLonger
  exact resize_bounds noShorter noLonger

/-- Seven pixels of a WEBP picture are to become two. Three steps leave three pixels, and six
sevenths of three are nearer to three than to two: the reduction costs a pixel. -/
theorem resize_afterReduction_bounds_webp :
    let source : Size := { width := 7, height := 7 }
    let target : Size := { width := 2, height := 2 }
    let scale : Rat := scaleFor source target .fit
    let shrink := shrinkFactor scale .webp
    let scaled := ScaleFactor.resize 7 scale
    let reduced :=
      ScaleFactor.resize (Size.reduceAxis 7 shrink) (ScaleFactor.afterReduction scale shrink)
    Format.webp.shrinksOnLoad ∧ scale < 1 ∧ shrink = 3 ∧ scaled = 2 ∧ reduced = 3 ∧
      (scaled ≤ reduced ∧ reduced.toNat ≤ scaled.toNat + 1) := by
  intro source target scale shrink scaled reduced
  have reduces : scale < 1 := by decide +kernel
  exact ⟨rfl, reduces, by decide +kernel, by decide +kernel, by decide +kernel,
    resize_afterReduction_bounds source target .fit .webp rfl reduces 7⟩

end Thumbnailer
