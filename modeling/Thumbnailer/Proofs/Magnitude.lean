/-
This file bounds the scale factors that floating point can come to. A positive number is held as a
mantissa of 53 bits and an exponent, and the exponent tells its magnitude. Bringing a longer
mantissa to 53 bits rounds it, which raises the exponent by one at most beyond the bits that are
dropped, and packing keeps whatever lies between the least and the greatest exponent.

Axes are words of 32 bits, so that the factors of a plan stay far from both ends. The main
statement is that every plan has a factor that images can be scaled by, whatever the sizes.
-/

import Mathlib
import Thumbnailer.Proofs.Axes

namespace Thumbnailer

open Float.Model (Format totalExponent UnpackedFloat)
open Float.Model.UnpackedFloat

namespace Rounding

/-! ### Mantissas -/

theorem mantissa_shiftRight (extended : ExtendedMantissa) (count : Nat) :
    (extended >>> count).mantissa = extended.mantissa / 2 ^ count := by
  induction count with
  | zero => exact (Nat.div_one _).symm
  | succ count inductionHypothesis =>
    show (extended >>> count).mantissa / 2 = _
    rw [inductionHypothesis, Nat.div_div_eq_div_mul, Nat.pow_succ]

theorem mantissa_ofMantissaAndAccuracy (mantissa : Nat) (accuracy : Accuracy) :
    (ExtendedMantissa.ofMantissaAndAccuracy mantissa accuracy).mantissa = mantissa := by
  cases accuracy with
  | exact => rfl
  | inexact order => cases order <;> rfl

/-- Rounding takes a mantissa or its successor. -/
theorem roundedMantissa_bounds (extended : ExtendedMantissa) :
    extended.mantissa ≤ extended.roundedMantissa ∧
      extended.roundedMantissa ≤ extended.mantissa + 1 := by
  obtain ⟨mantissa, half, rest⟩ := extended
  have even : mantissa + mantissa % 2 ≤ mantissa + 1 := by omega
  cases half <;> cases rest
  · exact ⟨Nat.le_refl _, Nat.le_succ _⟩
  · exact ⟨Nat.le_refl _, Nat.le_succ _⟩
  · exact ⟨Nat.le_add_right _ _, even⟩
  · exact ⟨Nat.le_succ _, Nat.le_refl _⟩

/-- The leading 53 bits of a mantissa. -/
theorem leading_bounds {mantissa count : Nat} (long : mantissa.log2 = 52 + count) :
    2 ^ 52 ≤ mantissa / 2 ^ count ∧ mantissa / 2 ^ count < 2 ^ 53 := by
  have positive : mantissa ≠ 0 := by
    rintro rfl
    simp at long
    omega
  obtain ⟨least, most⟩ := (Nat.log2_eq_iff positive).1 long
  refine ⟨(Nat.le_div_iff_mul_le (Nat.two_pow_pos count)).2 ?_,
    (Nat.div_lt_iff_lt_mul (Nat.two_pow_pos count)).2 ?_⟩
  · rw [← Nat.pow_add]
    exact least
  · rw [← Nat.pow_add, show 53 + count = 52 + count + 1 by omega]
    exact most

/-! ### Rounding -/

/-- A mantissa is brought to 53 bits by dropping those it has beyond. -/
theorem shiftToTargetExponent_of_long {mantissa count : Nat} {exponent : Int}
    {accuracy : Accuracy} (long : mantissa.log2 = 52 + count) (least : -1074 ≤ exponent + count) :
    shiftToTargetExponent Format.binary64 mantissa exponent accuracy =
      (ExtendedMantissa.ofMantissaAndAccuracy mantissa accuracy >>> count, exponent + count) := by
  have target : Format.binary64.targetExponent (totalExponent mantissa exponent) =
      exponent + count := by
    simp only [Format.targetExponent, totalExponent, Format.mantissaBits, Format.minExponent]
    omega
  unfold shiftToTargetExponent shiftToExponent
  have dropped : (exponent + count - exponent).toNat = count := by omega
  rw [target]
  dsimp only
  rw [dropped]

/-- Rounding gives 53 bits, which stand for all bits but those dropped, or for one bit more. -/
theorem roundWithAccuracy_of_long {mantissa count : Nat} {exponent : Int} {accuracy : Accuracy}
    (long : mantissa.log2 = 52 + count) (least : -1074 ≤ exponent + count) :
    ∃ (rounded : Nat) (raised : Int) (positive : 0 < rounded), rounded.log2 = 52 ∧
      exponent + count ≤ raised ∧ raised ≤ exponent + count + 1 ∧
        roundWithAccuracy Format.binary64 .positive mantissa exponent accuracy =
          .finite .positive rounded raised positive := by
  obtain ⟨lower, upper⟩ := leading_bounds long
  have bounds := roundedMantissa_bounds
    (ExtendedMantissa.ofMantissaAndAccuracy mantissa accuracy >>> count)
  rw [mantissa_shiftRight, mantissa_ofMantissaAndAccuracy] at bounds
  unfold roundWithAccuracy
  rw [shiftToTargetExponent_of_long long least]
  dsimp only
  generalize (ExtendedMantissa.ofMantissaAndAccuracy mantissa
    accuracy >>> count).roundedMantissa = rounded at bounds ⊢
  have positive : 0 < rounded := by omega
  by_cases carries : rounded < 2 ^ 53
  · have short : rounded.log2 = 52 + 0 := (Nat.log2_eq_iff (by omega)).2 ⟨by omega, carries⟩
    rw [shiftToTargetExponent_of_long short (by omega)]
    refine ⟨rounded, exponent + count, positive, short, by omega, by omega, ?_⟩
    simp [HShiftRight.hShiftRight, Nat.repeat, ExtendedMantissa.ofMantissaAndAccuracy,
      Nat.pos_iff_ne_zero.1 positive]
  · have carried : rounded = 2 ^ 53 := by omega
    subst carried
    rw [shiftToTargetExponent_of_long (Nat.log2_two_pow : (2 ^ 53).log2 = 52 + 1) (by omega)]
    refine ⟨2 ^ 52, exponent + count + 1, by decide, Nat.log2_two_pow, by omega, by omega, ?_⟩
    rfl

/-! ### Packing -/

theorem unpackSign_packComponents {sign : Sign} {exponent : BitVec 11} {mantissa : BitVec 52} :
    @unpackSign Format.binary64 (packComponents Format.binary64 sign exponent mantissa) =
      sign.toBitVec := by
  show (sign.toBitVec ++ exponent ++ mantissa).extractLsb' 63 1 = sign.toBitVec
  rw [BitVec.extractLsb'_append_eq_of_le (by decide),
    BitVec.extractLsb'_append_eq_of_le (by decide)]
  cases sign <;> rfl

/-- What is held with 53 bits and an exponent in range is kept by packing. -/
theorem unpack_pack {mantissa : Nat} {exponent : Int} (positive : 0 < mantissa)
    (short : mantissa.log2 = 52) (least : -1074 ≤ exponent) (most : exponent ≤ 971) :
    (Float.Model.pack (.finite .positive mantissa exponent positive)).unpack =
      .finite .positive mantissa exponent positive := by
  obtain ⟨lower, upper⟩ := (Nat.log2_eq_iff (Nat.ne_of_gt positive)).1 short
  obtain ⟨biased, place⟩ : ∃ biased : Nat, (biased : Int) = exponent + 1075 :=
    ⟨(exponent + 1075).toNat, by omega⟩
  have fits : ¬2 ^ 11 ≤ biased + 1 := by omega
  have stored : (exponent + (1023 : Nat) + (52 : Nat)).toNat = biased := by omega
  have packed : UnpackedFloat.pack Format.binary64 (.finite .positive mantissa exponent positive) =
      packComponents Format.binary64 .positive (BitVec.ofNat 11 biased)
        (BitVec.ofNat 52 mantissa) := by
    show (if 2 ^ 11 ≤ (exponent + (1023 : Nat) + (52 : Nat)).toNat + 1 then _
      else if mantissa.log2 + 1 = 53 then packComponents Format.binary64 .positive
        (BitVec.ofNat 11 (exponent + (1023 : Nat) + (52 : Nat)).toNat) (BitVec.ofNat 52 mantissa)
      else _) = _
    rw [stored, if_neg fits, if_pos (by rw [short])]
  have exponentIs : (BitVec.ofNat 11 biased).toNat = biased := by
    rw [BitVec.toNat_ofNat]
    omega
  have notAll : BitVec.ofNat 11 biased ≠ -1#11 := by
    intro same
    have := congrArg BitVec.toNat same
    rw [exponentIs] at this
    change biased = 2047 at this
    omega
  have notNone : BitVec.ofNat 11 biased ≠ 0#11 := by
    intro same
    have := congrArg BitVec.toNat same
    rw [exponentIs] at this
    change biased = 0 at this
    omega
  have mantissaIs : (1#1 ++ BitVec.ofNat 52 mantissa).toNat = mantissa := by
    rw [BitVec.toNat_append, BitVec.toNat_ofNat, Nat.shiftLeft_eq]
    show 2 ^ 52 ||| mantissa % 2 ^ 52 = mantissa
    rw [Nat.or_comm, Nat.or_two_pow_eq_add_of_lt (Nat.mod_lt _ (Nat.two_pow_pos 52))]
    omega
  show UnpackedFloat.unpack Format.binary64
    (UnpackedFloat.pack Format.binary64 (.finite .positive mantissa exponent positive)) = _
  rw [packed]
  unfold UnpackedFloat.unpack
  simp only [unpackMantissa_packComponents, unpackExponent_packComponents,
    unpackSign_packComponents, exponentIs, mantissaIs]
  rw [if_neg notAll, if_neg notNone]
  refine (UnpackedFloat.finite.injEq ..).mpr ⟨rfl, rfl, ?_⟩
  show (biased : Int) - (1023 + 52) = exponent
  omega

end Rounding

open Rounding

/-! ### Numbers -/

/-- A positive number held with 53 bits and an exponent within bounds. -/
def Measures (low high : Int) (number : Float) : Prop :=
  ∃ (mantissa : Nat) (exponent : Int) (positive : 0 < mantissa), mantissa.log2 = 52 ∧
    low ≤ exponent ∧ exponent ≤ high ∧
      number.toModel.unpack = .finite .positive mantissa exponent positive

theorem measures_round {mantissa : Nat} {exponent low high : Int} {accuracy : Accuracy}
    (long : 52 ≤ mantissa.log2) (least : -1074 ≤ low) (most : high ≤ 970)
    (above : low ≤ exponent + mantissa.log2 - 52) (below : exponent + mantissa.log2 - 52 ≤ high) :
    Measures low (high + 1) (.ofModel (.pack
      (roundWithAccuracy Format.binary64 .positive mantissa exponent accuracy))) := by
  obtain ⟨count, bits⟩ : ∃ count, mantissa.log2 = 52 + count := ⟨mantissa.log2 - 52, by omega⟩
  obtain ⟨rounded, raised, positive, short, lower, upper, rounds⟩ :=
    @roundWithAccuracy_of_long mantissa count exponent accuracy bits (by omega)
  refine ⟨rounded, raised, positive, short, by omega, by omega, ?_⟩
  rw [rounds]
  exact unpack_pack positive short (by omega) (by omega)

theorem log2_shiftLeft {number count : Nat} (positive : number ≠ 0) :
    (number <<< count).log2 = number.log2 + count := by
  obtain ⟨least, most⟩ := (Nat.log2_eq_iff positive).1 rfl
  rw [Nat.shiftLeft_eq]
  refine (Nat.log2_eq_iff (Nat.mul_ne_zero positive (Nat.two_pow_pos count).ne')).2 ⟨?_, ?_⟩
  · rw [Nat.pow_add]
    exact Nat.mul_le_mul_right _ least
  · rw [show number.log2 + count + 1 = number.log2 + 1 + count by omega, Nat.pow_add]
    exact Nat.mul_lt_mul_of_pos_right most (Nat.two_pow_pos count)

theorem measures_toFloat {axis : UInt32} (given : axis ≠ 0) :
    Measures (-52) (-20) axis.toFloat := by
  have nonzero : axis.toNat ≠ 0 := fun zero => given (UInt32.toNat_inj.1 zero)
  have bits : axis.toNat.log2 < 32 := (Nat.log2_lt nonzero).2 axis.toNat_lt
  have target : Format.binary64.targetExponent (totalExponent axis.toNat 0) =
      axis.toNat.log2 - 52 := by
    simp only [Format.targetExponent, totalExponent, Format.mantissaBits, Format.minExponent]
    omega
  have lengthened : (axis.toNat <<< (52 - axis.toNat.log2)).log2 = 52 := by
    rw [log2_shiftLeft nonzero]
    omega
  have moved : (0 - ((axis.toNat.log2 : Int) - 52)).toNat = 52 - axis.toNat.log2 := by omega
  have rounds : axis.toFloat = .ofModel (.pack (roundWithAccuracy Format.binary64 .positive
      (axis.toNat <<< (52 - axis.toNat.log2)) (0 - (52 - axis.toNat.log2 : Nat)) .exact)) := by
    show Float.ofModel (.pack (normalize Format.binary64 axis.toNat 0 .positive)) = _
    unfold UnpackedFloat.normalize
    rw [Int.compare_eq_gt.2 (by omega)]
    show Float.ofModel (.pack (round Format.binary64 .positive axis.toNat 0)) = _
    unfold UnpackedFloat.round decreaseExponent
    rw [target]
    dsimp only
    rw [moved]
  rw [rounds, show (-20 : Int) = -21 + 1 from rfl]
  refine measures_round ?_ ?_ ?_ ?_ ?_
  all_goals omega

theorem measures_mul {low high least most : Int} {first second : Float}
    (one : Measures low high first) (other : Measures least most second)
    (above : -1074 ≤ low + least + 52) (below : high + most + 53 ≤ 970) :
    Measures (low + least + 52) (high + most + 54) (first * second) := by
  obtain ⟨mantissa, exponent, positive, short, lower, upper, held⟩ := one
  obtain ⟨factor, place, factorPositive, factorShort, lowest, highest, factorHeld⟩ := other
  have rounds : first * second = .ofModel (.pack (roundWithAccuracy Format.binary64 .positive
      (mantissa * factor) (exponent + place) .exact)) := by
    show Float.ofModel (.pack (mul Format.binary64 first.toModel.unpack second.toModel.unpack)) = _
    rw [held, factorHeld]
    rfl
  obtain ⟨mantissaLeast, mantissaMost⟩ := (Nat.log2_eq_iff positive.ne').1 short
  obtain ⟨factorLeast, factorMost⟩ := (Nat.log2_eq_iff factorPositive.ne').1 factorShort
  have product : mantissa * factor ≠ 0 := (Nat.mul_pos positive factorPositive).ne'
  have lowerBound : 2 ^ 104 ≤ mantissa * factor := by
    rw [show (2 : Nat) ^ 104 = 2 ^ 52 * 2 ^ 52 by norm_num]
    exact Nat.mul_le_mul mantissaLeast factorLeast
  have upperBound : mantissa * factor < 2 ^ 106 := by
    rw [show (2 : Nat) ^ 106 = 2 ^ 53 * 2 ^ 53 by norm_num]
    exact Nat.mul_lt_mul'' mantissaMost factorMost
  have long := (Nat.le_log2 product).2 lowerBound
  have bounded := (Nat.log2_lt product).2 upperBound
  rw [rounds, show high + most + 54 = high + most + 53 + 1 by omega]
  refine measures_round ?_ above below ?_ ?_
  all_goals omega

theorem measures_div {low high least most : Int} {first second : Float}
    (one : Measures low high first) (other : Measures least most second)
    (above : -1074 ≤ low - most - 53) (below : high - least - 52 ≤ 970) :
    Measures (low - most - 53) (high - least - 51) (first / second) := by
  obtain ⟨mantissa, exponent, positive, short, lower, upper, held⟩ := one
  obtain ⟨divisor, place, divisorPositive, divisorShort, lowest, highest, divisorHeld⟩ := other
  have target : min (exponent - place) (Format.binary64.targetExponent
      (totalExponent mantissa exponent - totalExponent divisor place)) = exponent - place - 53 := by
    simp only [Format.targetExponent, totalExponent, Format.mantissaBits, Format.minExponent]
    omega
  have moved : (exponent - place - (exponent - place - 53)).toNat = 53 := by omega
  have rounds : ∃ accuracy, first / second = .ofModel (.pack (roundWithAccuracy Format.binary64
      .positive (mantissa <<< 53 / divisor) (exponent - place - 53) accuracy)) := by
    refine ⟨accuracyOfFraction (mantissa <<< 53 % divisor) divisor, ?_⟩
    show Float.ofModel (.pack (div Format.binary64 first.toModel.unpack second.toModel.unpack)) = _
    rw [held, divisorHeld]
    show Float.ofModel (.pack (match divCore Format.binary64 mantissa exponent divisor place with
      | (quotient, exponent, accuracy) =>
        roundWithAccuracy Format.binary64 .positive quotient exponent accuracy)) = _
    unfold divCore
    rw [target]
    dsimp only
    rw [moved]
  obtain ⟨mantissaLeast, mantissaMost⟩ := (Nat.log2_eq_iff positive.ne').1 short
  obtain ⟨divisorLeast, divisorMost⟩ := (Nat.log2_eq_iff divisorPositive.ne').1 divisorShort
  have lowerBound : 2 ^ 52 ≤ mantissa <<< 53 / divisor := by
    rw [Nat.shiftLeft_eq, Nat.le_div_iff_mul_le divisorPositive]
    exact Nat.mul_le_mul mantissaLeast divisorMost.le
  have upperBound : mantissa <<< 53 / divisor < 2 ^ 54 := by
    rw [Nat.shiftLeft_eq, Nat.div_lt_iff_lt_mul divisorPositive]
    omega
  have long := (Nat.le_log2 (by omega : mantissa <<< 53 / divisor ≠ 0)).2 lowerBound
  have bounded := (Nat.log2_lt (by omega : mantissa <<< 53 / divisor ≠ 0)).2 upperBound
  obtain ⟨accuracy, rounds⟩ := rounds
  rw [rounds, show high - least - 51 = high - least - 52 + 1 by omega]
  refine measures_round long above below ?_ ?_
  all_goals omega

/-- An image can be scaled by such a number. -/
theorem usable_of_measures {low high : Int} {number : Float} (measures : Measures low high number) :
    ScaleFactor.usable number = true := by
  obtain ⟨mantissa, exponent, positive, -, -, -, held⟩ := measures
  have finite : number.isFinite = true := by
    show number.toModel.unpack.isFinite = true
    rw [held]
    rfl
  have above : 0 < number := by
    refine decide_eq_true ?_
    show (0 : Float).toModel.unpack.lt number.toModel.unpack = true
    rw [held]
    rfl
  exact (Bool.and_eq_true ..).mpr ⟨finite, decide_eq_true above⟩

/-! ### Factors of plans -/

/-- The bounds of the ratio of two axes. -/
theorem measures_ratio {target source : UInt32} (given : target ≠ 0) (nonempty : source ≠ 0) :
    Measures (-85) (-19) (ScaleFactor.ratio target source : Float) :=
  measures_div (measures_toFloat given) (measures_toFloat nonempty) (by decide) (by decide)

theorem measures_unit : Measures (-85) (-19) (ScaleFactor.unit : Float) :=
  ⟨2 ^ 52, -52, by decide, Nat.log2_two_pow, by decide, by decide, rfl⟩

theorem measures_scaleFor (source target : Size) (mode : ResizeMode) :
    Measures (-85) (-19) (scaleFor source target mode : Float) := by
  refine scaleFor_choice ?_ ?_ measures_unit (fun _ _ => measures_ratio) source target mode
  · exact fun one other => (ite_eq_or_eq (other < one) other one).symm
  · exact fun one other => (ite_eq_or_eq (one < other) other one).symm

theorem max_one_ne_zero (axis : UInt32) : max axis 1 ≠ 0 := by
  show (if axis ≤ 1 then 1 else axis) ≠ 0
  split
  · decide
  case isFalse more =>
    rintro rfl
    exact more (by decide)

theorem shrinkFactor_ne_zero {Scale : Type} [ScaleFactor Scale] (scale : Scale)
    (format : Thumbnailer.Format) : shrinkFactor scale format ≠ 0 := by
  unfold shrinkFactor
  cases format with
  | jpeg =>
    dsimp only
    split_ifs <;> decide
  | _ => exact max_one_ne_zero _

/-- The factor of every plan is one that an image can be scaled by. -/
theorem usable_plan (source : Size) (options : Options) (format : Thumbnailer.Format) :
    ScaleFactor.usable (Plan.of source options format : Plan Float).scale = true := by
  unfold Plan.of
  dsimp only
  have scale := measures_scaleFor source (options.clampedBox source) options.resize
  split
  · have shrink := measures_toFloat (shrinkFactor_ne_zero
      (scaleFor source (options.clampedBox source) options.resize : Float) format)
    exact usable_of_measures (measures_mul scale shrink (by decide) (by decide))
  · exact usable_of_measures scale

end Thumbnailer
