/-
This file shows that the parts of a cache key can be told apart. What is digested into a key is the
encoded data, a zero, the name of the format and the four bytes of the reduction, one after the
other and without any length. Read from the far end it falls apart in one way only: the reduction
has a fixed width, and no format has a zero in its name. What the data ends in plays no part, so it
may end like the material of another key. The digits of a digest do not merge digests either, so
two images have one key only if two byte strings have one digest.
-/

import Thumbnailer.Cache.Key

namespace Thumbnailer

/-! ### Digits -/

namespace Sha256

/-- Two byte strings that differ and have one digest. -/
structure Collide (first second : List UInt8) : Prop where
  ne : first ≠ second
  digest_eq : digest first = digest second

theorem hexDigit_injective : ∀ first second : Fin 16,
    hexDigit first.val = hexDigit second.val → first = second := by
  decide

/-- The two digits of a byte tell the byte. -/
theorem byte_of_hexDigits {first second : UInt8}
    (high : hexDigit (first.toNat / 16) = hexDigit (second.toNat / 16))
    (low : hexDigit (first.toNat % 16) = hexDigit (second.toNat % 16)) : first = second := by
  have firstBound := first.toNat_lt
  have secondBound := second.toNat_lt
  have sameHigh := Fin.val_eq_of_eq (hexDigit_injective
    ⟨first.toNat / 16, by omega⟩ ⟨second.toNat / 16, by omega⟩ high)
  have sameLow := Fin.val_eq_of_eq (hexDigit_injective
    ⟨first.toNat % 16, by omega⟩ ⟨second.toNat % 16, by omega⟩ low)
  simp only at sameHigh sameLow
  exact UInt8.toNat_inj.1 (by omega)

theorem hexadecimal_injective {first second : List UInt8}
    (same : hexadecimal first = hexadecimal second) : first = second := by
  have digits := String.ofList_inj.1 same
  clear same
  induction first generalizing second with
  | nil =>
    cases second with
    | nil => rfl
    | cons byte rest => cases digits
  | cons byte rest inductionHypothesis =>
    cases second with
    | nil => cases digits
    | cons other others =>
      simp only [List.flatMap_cons, List.cons_append, List.nil_append, List.cons.injEq] at digits
      rw [byte_of_hexDigits digits.1 digits.2.1, inductionHypothesis digits.2.2]

end Sha256

/-! ### Material -/

namespace Format

/-- The bytes of the name. -/
def nameBytes : Format → Bytes
  | .jpeg => [0x6A, 0x70, 0x65, 0x67]
  | .png => [0x70, 0x6E, 0x67]
  | .webp => [0x77, 0x65, 0x62, 0x70]
  | .gif => [0x67, 0x69, 0x66]

theorem toUTF8_name (format : Format) : format.name.toUTF8.toList = format.nameBytes := by
  cases format <;> decide +kernel

theorem zero_notMem_nameBytes (format : Format) : 0 ∉ format.nameBytes := by
  cases format <;> decide

theorem nameBytes_injective {first second : Format}
    (same : first.nameBytes = second.nameBytes) : first = second := by
  revert same
  cases first <;> cases second <;> decide

end Format

namespace Cache

/-- Four bytes tell the word. -/
theorem littleEndian_injective {first second : UInt32}
    (same : littleEndian first = littleEndian second) : first = second := by
  simp only [littleEndian, List.cons.injEq, and_true] at same
  obtain ⟨lowest, low, high, highest⟩ := same
  have values {one other : UInt32} (equal : one.toUInt8 = other.toUInt8) :
      one.toNat % 256 = other.toNat % 256 := by
    simpa using congrArg UInt8.toNat equal
  have lowestValue := values lowest
  have lowValue := values low
  have highValue := values high
  have highestValue := values highest
  simp only [UInt32.toNat_shiftRight, Nat.shiftRight_eq_div_pow, UInt32.reduceToNat, Nat.reduceMod,
    Nat.reducePow] at lowValue highValue highestValue
  have firstBound := first.toNat_lt
  have secondBound := second.toNat_lt
  exact UInt32.toNat_inj.1 (by omega)

/-- What lies before the last zero and what lies after it are told apart. -/
theorem append_zero_inj {first second firstName secondName : Bytes}
    (firstClean : 0 ∉ firstName) (secondClean : 0 ∉ secondName)
    (same : first ++ 0 :: firstName = second ++ 0 :: secondName) :
    first = second ∧ firstName = secondName := by
  rcases List.append_eq_append_iff.1 same with ⟨between, rest, tail⟩ | ⟨between, rest, tail⟩
  · cases between with
    | nil => exact ⟨by simpa using rest.symm, by simpa using tail⟩
    | cons byte bytes =>
      rw [List.cons_append, List.cons.injEq] at tail
      exact absurd (tail.2 ▸ by simp) firstClean
  · cases between with
    | nil => exact ⟨by simpa using rest, by simpa using tail.symm⟩
    | cons byte bytes =>
      rw [List.cons_append, List.cons.injEq] at tail
      exact absurd (tail.2 ▸ by simp) secondClean

/-- The bytes that are digested into a key tell what the key is for. -/
theorem keyMaterial_inj {firstData secondData : Bytes} {firstFormat secondFormat : Format}
    {firstShrink secondShrink : UInt32}
    (same : keyMaterial firstData firstFormat firstShrink =
      keyMaterial secondData secondFormat secondShrink) :
    firstData = secondData ∧ firstFormat = secondFormat ∧ firstShrink = secondShrink := by
  obtain ⟨front, shrink⟩ := List.append_inj' same rfl
  rw [Format.toUTF8_name, Format.toUTF8_name] at front
  obtain ⟨data, name⟩ := append_zero_inj firstFormat.zero_notMem_nameBytes
    secondFormat.zero_notMem_nameBytes front
  exact ⟨data, Format.nameBytes_injective name, littleEndian_injective shrink⟩

/-- Two keys are the same only if two byte strings have the same digest. -/
theorem digest_eq_of_key_eq {firstData secondData : Bytes} {firstFormat secondFormat : Format}
    {firstShrink secondShrink : UInt32}
    (same : key firstData firstFormat firstShrink = key secondData secondFormat secondShrink) :
    Sha256.digest (keyMaterial firstData firstFormat firstShrink) =
      Sha256.digest (keyMaterial secondData secondFormat secondShrink) :=
  Sha256.hexadecimal_injective same

/-- Material is the same only for the same data, format and reduction, whatever the data ends in.
So is a key, unless two materials collide. -/
theorem key_eq_iff (firstData secondData : Bytes) (firstFormat secondFormat : Format)
    (firstShrink secondShrink : UInt32) :
    let firstMaterial := keyMaterial firstData firstFormat firstShrink
    let secondMaterial := keyMaterial secondData secondFormat secondShrink
    let same := firstData = secondData ∧ firstFormat = secondFormat ∧ firstShrink = secondShrink
    (firstMaterial = secondMaterial ↔ same) ∧
      (key firstData firstFormat firstShrink = key secondData secondFormat secondShrink ↔
        same ∨ Sha256.Collide firstMaterial secondMaterial) := by
  intro firstMaterial secondMaterial same
  have material : firstMaterial = secondMaterial ↔ same := by
    refine ⟨keyMaterial_inj, ?_⟩
    rintro ⟨rfl, rfl, rfl⟩
    rfl
  refine ⟨material, fun equal => ?_, ?_⟩
  · have digests := digest_eq_of_key_eq equal
    by_cases alike : firstMaterial = secondMaterial
    · exact .inl (material.1 alike)
    · exact .inr ⟨alike, digests⟩
  · rintro (alike | collision)
    · exact congrArg (Sha256.hexadecimal ∘ Sha256.digest) (material.2 alike)
    · exact congrArg Sha256.hexadecimal collision.digest_eq

end Cache

end Thumbnailer
