/-
This file says that the text read out of bytes, written as bytes again, has a slash only where the
bytes had one. A character beyond the ASCII ones is written in bytes beyond them, and a well-formed
sequence of several bytes stands for a character beyond them, so that neither way a slash appears
out of other bytes. What stands for a fault is no slash either. Different texts are written
differently, and texts after each other as their bytes after each other.
-/

import Mathlib.Data.List.Basic
import Thumbnailer.Text.Utf8

namespace Thumbnailer.Utf8

/-! ### Writing -/

theorem toList_loop (bytes : ByteArray) (place : Nat) (before : List UInt8) :
    ByteArray.toList.loop bytes place before = before.reverse ++ bytes.data.toList.drop place := by
  induction place, before using ByteArray.toList.loop.induct bytes with
  | case1 place before within inductionHypothesis =>
    have inside : place < bytes.data.toList.length := within
    have byte : bytes.get! place = bytes.data.toList[place] := getElem!_pos bytes.data place within
    rw [ByteArray.toList.loop, if_pos within, inductionHypothesis, byte,
      List.drop_eq_getElem_cons inside, List.reverse_cons, List.append_assoc, List.singleton_append]
  | case2 place before outside =>
    have nothing : bytes.data.toList.length ≤ place := Nat.not_lt.1 outside
    rw [ByteArray.toList.loop, if_neg outside, List.drop_eq_nil_of_le nothing, List.append_nil]

theorem encode_eq (text : String) : encode text = text.toByteArray.data.toList := by
  unfold encode
  rw [ByteArray.toList, toList_loop, String.toUTF8_eq_toByteArray]
  rfl

theorem encode_append (first second : String) :
    encode (first ++ second) = encode first ++ encode second := by
  rw [encode_eq, encode_eq, encode_eq, String.toByteArray_append, ByteArray.toList_data_append]

theorem encode_injective {first second : String} (same : encode first = encode second) :
    first = second := by
  rw [encode_eq, encode_eq] at same
  exact String.toByteArray_inj.1 (ByteArray.ext (Array.ext' same))

theorem encode_ofList (characters : List Char) :
    encode (String.ofList characters) = characters.flatMap String.utf8EncodeChar := by
  rw [encode_eq, String.toByteArray_ofList]
  exact List.toList_data_toByteArray

/-- The bytes of a character beyond the ASCII ones are beyond the ASCII ones. -/
theorem le_of_mem_utf8EncodeChar {character : Char} (wide : ¬character.val.toNat ≤ 127)
    {byte : UInt8} (member : byte ∈ String.utf8EncodeChar character) : 128 ≤ byte.toNat := by
  have code := character.val.toNat_lt
  unfold String.utf8EncodeChar at member
  simp only [if_neg wide] at member
  split at member
  case isTrue two =>
    simp only [List.mem_cons, List.not_mem_nil, or_false] at member
    rcases member with rfl | rfl <;> rw [UInt8.toNat_ofNat'] <;> omega
  case isFalse =>
    split at member <;> simp only [List.mem_cons, List.not_mem_nil, or_false] at member
    · rcases member with rfl | rfl | rfl <;> rw [UInt8.toNat_ofNat'] <;> omega
    · rcases member with rfl | rfl | rfl | rfl <;> rw [UInt8.toNat_ofNat'] <;> omega

theorem slash_mem_utf8EncodeChar {character : Char}
    (member : 0x2F ∈ String.utf8EncodeChar character) : character = '/' := by
  by_cases narrow : character.val.toNat ≤ 127
  · unfold String.utf8EncodeChar at member
    simp only [if_pos narrow, List.mem_singleton] at member
    have code : 47 = character.val.toNat % 256 := congrArg UInt8.toNat member
    have small : character.val.toNat = 47 := by omega
    exact Char.ext (UInt32.toNat_inj.1 small)
  · exact absurd (le_of_mem_utf8EncodeChar narrow member) (by decide)

/-! ### Reading -/

theorem eq_slash_of_ofNat {number : Nat} (slash : Char.ofNat number = '/') : number = 0x2F := by
  have numbers := congrArg Char.toNat slash
  unfold Char.ofNat at numbers
  by_cases valid : number.isValidChar
  · rw [dif_pos valid] at numbers
    exact numbers
  · rw [dif_neg valid] at numbers
    cases numbers

/-- Continuation bytes only add to a number. -/
theorem le_continuation {low high : UInt8} {count number used result : Nat} {bytes : Bytes}
    (read : (continuation low high count number used bytes).1 = some result) : number ≤ result := by
  fun_induction continuation low high count number used bytes with
  | case1 low high number used bytes => exact Nat.le_of_eq (Option.some.inj read)
  | case2 => cases read
  | case3 low high count number used byte rest within inductionHypothesis =>
    have := inductionHypothesis read
    omega
  | case4 => cases read

theorem le_continuation_succ {low high : UInt8} {count number used result : Nat} {bytes : Bytes}
    (read : (continuation low high (count + 1) number used bytes).1 = some result) :
    ∃ byte, low ≤ byte ∧ byte ≤ high ∧ ∃ rest, (continuation 0x80 0xBF count
      (number * 64 + byte.toNat % 64) (used + 1) rest).1 = some result := by
  cases bytes with
  | nil => cases read
  | cons byte rest =>
    unfold continuation at read
    split at read
    case isTrue within => exact ⟨byte, within.1, within.2, rest, read⟩
    case isFalse => cases read

/-- A lead has bits enough to reach beyond the ASCII characters with the bytes after it, or else the
first of these bytes has. -/
theorem following_ample {lead low high : UInt8} {count : Nat}
    (follows : following lead = some (low, high, count)) :
    1 ≤ count ∧ (2 ≤ leadBits lead count ∨
      2 ≤ count ∧ (1 ≤ leadBits lead count ∨ 0x90 ≤ low.toNat ∧ high.toNat ≤ 0xBF)) := by
  unfold following at follows
  unfold leadBits
  simp only [UInt8.le_iff_toNat_le, ← UInt8.toNat_inj, UInt8.reduceToNat] at follows
  split_ifs at follows <;> simp only [Option.some.injEq, Prod.mk.injEq] at follows
  all_goals
    obtain ⟨rfl, rfl, rfl⟩ := follows
    simp only [Nat.reduceShiftRight, UInt8.reduceToNat]
    omega

/-- No sequence of several bytes stands for an ASCII character. -/
theorem le_of_read {lead low high : UInt8} {count used number : Nat} {rest : Bytes}
    (follows : following lead = some (low, high, count))
    (read : (continuation low high count (leadBits lead count) used rest).1 = some number) :
    128 ≤ number := by
  obtain ⟨some, ample⟩ := following_ample follows
  obtain ⟨more, rfl⟩ := Nat.exists_eq_add_of_le' some
  obtain ⟨byte, least, most, rest, read⟩ := le_continuation_succ read
  have sum := le_continuation read
  rw [UInt8.le_iff_toNat_le] at least most
  cases ample with
  | inl bits => omega
  | inr several =>
    obtain ⟨further, rfl⟩ := Nat.exists_eq_add_of_le' (Nat.le_of_succ_le_succ several.1)
    obtain ⟨_, _, _, _, read⟩ := le_continuation_succ read
    have sum := le_continuation read
    omega

/-- A slash is read only where there is one. -/
theorem front_ne_slash {lead : UInt8} {rest : Bytes} (other : lead ≠ 0x2F) :
    (front lead rest).1 ≠ some '/' := by
  unfold front
  split
  case isTrue =>
    intro slash
    have code := eq_slash_of_ofNat (Option.some.inj slash)
    exact other (UInt8.toNat_inj.1 code)
  case isFalse =>
    split
    case h_1 => nofun
    case h_2 low high count follows =>
      intro slash
      obtain ⟨number, read, isSlash⟩ := Option.map_eq_some_iff.1 slash
      have wide := le_of_read follows read
      rw [eq_slash_of_ofNat isSlash] at wide
      exact absurd wide (by decide)

theorem slash_mem_of_scan {bytes : Bytes} (member : some '/' ∈ scan bytes) : 0x2F ∈ bytes := by
  fun_induction scan bytes with
  | case1 => cases member
  | case2 lead rest found inductionHypothesis =>
    rcases List.mem_cons.1 member with slash | later
    · by_contra absent
      exact front_ne_slash (fun same => absent (same ▸ List.mem_cons_self)) slash.symm
    · exact List.mem_cons_of_mem _ (List.mem_of_mem_drop (inductionHypothesis later))

/-- Bytes without a slash are read as a text that is written without one. -/
theorem slash_notMem_decodeLossy {bytes : Bytes} (whole : 0x2F ∉ bytes) :
    0x2F ∉ encode (decodeLossy bytes) := by
  intro member
  unfold decodeLossy at member
  rw [encode_ofList] at member
  obtain ⟨character, read, written⟩ := List.mem_flatMap.1 member
  obtain rfl := slash_mem_utf8EncodeChar written
  obtain ⟨found, scanned, is⟩ := List.mem_map.1 read
  cases found with
  | none => exact absurd is (by decide)
  | some slash =>
    obtain rfl : slash = '/' := is
    exact whole (slash_mem_of_scan scanned)

end Thumbnailer.Utf8
