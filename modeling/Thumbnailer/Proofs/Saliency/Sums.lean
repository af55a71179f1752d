/-
This file shows that the table of sums tells the sum over any window. The table is laid out row by
row, and each of its entries is the sum over the rectangle between the upper left corner and its
place. It is extended entry by entry, and as an entry only looks at the one above it and at the sum
along its row, the layout is kept by each push.

The sums are words, and words wrap. What is said of the table therefore holds in words, whatever
the values; four entries tell the sum over a window in words too, and they tell it in numbers if
that sum itself is a word.
-/

import Mathlib.Algebra.BigOperators.Group.Finset.Basic
import Mathlib.Algebra.BigOperators.Intervals
import Thumbnailer.Raster.Saliency

namespace Thumbnailer.Saliency

open Finset

/-- The value in a column and a row, of values with rows of the given width. -/
def valueIn (values : Array UInt32) (width column row : Nat) : Nat :=
  (values.getD (row * width + column) 0).toNat

/-- The sum of the values in some columns of a row. -/
def rowTotal (values : Array UInt32) (width left across row : Nat) : Nat :=
  ∑ column ∈ range across, valueIn values width (left + column) row

/-- The sum of the values in a window. -/
def windowTotal (values : Array UInt32) (width left top across down : Nat) : Nat :=
  ∑ row ∈ range down, rowTotal values width left across (top + row)

section Totals

variable {values : Array UInt32} {width : Nat}

theorem rowTotal_succ (left across row : Nat) :
    rowTotal values width left (across + 1) row =
      rowTotal values width left across row + valueIn values width (left + across) row :=
  sum_range_succ _ _

theorem windowTotal_succ (left top across down : Nat) :
    windowTotal values width left top across (down + 1) =
      windowTotal values width left top across down +
        rowTotal values width left across (top + down) :=
  sum_range_succ _ _

theorem rowTotal_add (left first second row : Nat) :
    rowTotal values width left (first + second) row =
      rowTotal values width left first row + rowTotal values width (left + first) second row := by
  simp only [rowTotal, sum_range_add, Nat.add_assoc]

theorem rowTotal_le (left across row : Nat) :
    rowTotal values width left across row ≤ across * UInt32.size := by
  induction across with
  | zero => exact Nat.zero_le _
  | succ across inductionHypothesis =>
    rw [rowTotal_succ, Nat.succ_mul]
    exact Nat.add_le_add inductionHypothesis (Nat.le_of_lt (UInt32.toNat_lt_size _))

/-- Values are words, so a window comes to no more than a word for each of its pixels. -/
theorem windowTotal_le (left top across down : Nat) :
    windowTotal values width left top across down ≤ down * (across * UInt32.size) := by
  induction down with
  | zero => exact Nat.zero_le _
  | succ down inductionHypothesis =>
    rw [windowTotal_succ, Nat.succ_mul]
    exact Nat.add_le_add inductionHypothesis (rowTotal_le left across (top + down))

/-- A window is cut in two by a column. -/
theorem windowTotal_add_across (left top first second down : Nat) :
    windowTotal values width left top (first + second) down =
      windowTotal values width left top first down +
        windowTotal values width (left + first) top second down := by
  simp only [windowTotal, rowTotal_add, sum_add_distrib]

/-- A window is cut in two by a row. -/
theorem windowTotal_add_down (left top across first second : Nat) :
    windowTotal values width left top across (first + second) =
      windowTotal values width left top across first +
        windowTotal values width left (top + first) across second := by
  simp only [windowTotal, sum_range_add, Nat.add_assoc]

/-- A window is what four windows at the corner leave over. -/
theorem windowTotal_corners (left top across down : Nat) :
    windowTotal values width 0 0 (left + across) (top + down) +
        windowTotal values width 0 0 left top =
      windowTotal values width 0 0 (left + across) top +
        windowTotal values width 0 0 left (top + down) +
          windowTotal values width left top across down := by
  rw [windowTotal_add_down 0 0 (left + across), windowTotal_add_down 0 0 left,
    windowTotal_add_across 0 (0 + top) left across, Nat.zero_add, Nat.zero_add]
  omega

/-- A window whose values are all the same comes to that value for each of its pixels. -/
theorem windowTotal_uniform {left top across down value : Nat}
    (uniform : ∀ column < across, ∀ row < down,
      valueIn values width (left + column) (top + row) = value) :
    windowTotal values width left top across down = down * (across * value) := by
  have row {row : Nat} (inRows : row < down) :
      rowTotal values width left across (top + row) = across * value := by
    rw [rowTotal, sum_const_nat fun column member => uniform column (mem_range.1 member) row inRows,
      card_range]
  rw [windowTotal, sum_const_nat fun _ member => row (mem_range.1 member), card_range]

end Totals

/-! ### The layout of the table -/

/-- Two places of a layout with rows of the same length are the same if they come to the same
index. -/
theorem place_inj {length row column row' column' : Nat} (within : column < length)
    (within' : column' < length) (same : row * length + column = row' * length + column') :
    row = row' ∧ column = column' := by
  have positive : 0 < length := Nat.zero_lt_of_lt within
  have rows := congrArg (· / length) same
  have columns := congrArg (· % length) same
  simp only [Nat.mul_comm _ length, Nat.mul_add_div positive, Nat.div_eq_of_lt within,
    Nat.div_eq_of_lt within', Nat.mul_add_mod, Nat.mod_eq_of_lt within,
    Nat.mod_eq_of_lt within', Nat.add_zero] at rows columns
  exact ⟨rows, columns⟩

/-- As far as the table goes, its entries are the sums over the rectangles between the corner and
their places. -/
def LaidOut (values : Array UInt32) (width : Nat) (table : Array UInt64) : Prop :=
  ∀ row column, column ≤ width → row * (width + 1) + column < table.size →
    table.getD (row * (width + 1) + column) 0 =
      UInt64.ofNat (windowTotal values width 0 0 column row)

section Layout

variable {values : Array UInt32} {width : Nat} {table : Array UInt64}

/-- An entry that is the sum for the next place keeps the layout. -/
theorem LaidOut.push (laidOut : LaidOut values width table) {row column : Nat}
    (within : column ≤ width) (next : table.size = row * (width + 1) + column) {entry : UInt64}
    (right : entry = UInt64.ofNat (windowTotal values width 0 0 column row)) :
    LaidOut values width (table.push entry) := by
  intro otherRow otherColumn otherWithin inside
  rw [Array.getD_eq_getD_getElem?, Array.getElem?_push]
  split
  case isTrue last =>
    obtain ⟨rfl, rfl⟩ := place_inj (Nat.lt_succ_of_le otherWithin) (Nat.lt_succ_of_le within)
      (last.trans next)
    exact right
  case isFalse other =>
    rw [Array.size_push] at inside
    rw [← Array.getD_eq_getD_getElem?]
    exact laidOut otherRow otherColumn otherWithin (by omega)

/-- The first row is zeros, as nothing lies above it. -/
theorem laidOut_zeros (values : Array UInt32) (width : Nat) :
    LaidOut values width (Array.replicate (width + 1) 0) := by
  intro row column within inside
  rw [Array.size_replicate] at inside
  obtain rfl : row = 0 := by
    refine Nat.eq_zero_of_not_pos fun positive => ?_
    have := Nat.le_mul_of_pos_left (width + 1) positive
    omega
  rw [Array.getD_eq_getD_getElem?, Array.getElem?_replicate, if_pos inside]
  rfl

/-- After some entries of a row, the layout is kept so far, and the sum along the row is known. -/
theorem laidOut_entries {row : Nat} (laidOut : LaidOut values width table)
    (full : table.size = (row + 1) * (width + 1)) {columns : Nat} (most : columns ≤ width) :
    let state := (List.range columns).foldl (addEntry values width row) (table.push 0, 0)
    LaidOut values width state.1 ∧ state.1.size = (row + 1) * (width + 1) + (columns + 1) ∧
      state.2 = UInt64.ofNat (rowTotal values width 0 columns row) := by
  induction columns with
  | zero =>
    have next : table.size = (row + 1) * (width + 1) + 0 := full
    refine ⟨laidOut.push (Nat.zero_le _) next ?_, ?_, rfl⟩
    · simp only [windowTotal, rowTotal, range_zero, sum_empty, sum_const_zero]
      rfl
    · rw [List.range_zero, List.foldl_nil, Array.size_push, full]
  | succ columns inductionHypothesis =>
    obtain ⟨kept, size, along⟩ := inductionHypothesis (Nat.le_of_succ_le most)
    rw [List.range_succ, List.foldl_concat]
    generalize (List.range columns).foldl (addEntry values width row) (table.push 0, 0) = state
      at kept size along
    obtain ⟨entries, sum⟩ := state
    dsimp only at kept size along
    subst along
    -- The entry above lies in a row that is complete.
    have above : entries.getD (row * (width + 1) + columns + 1) 0 =
        UInt64.ofNat (windowTotal values width 0 0 (columns + 1) row) := by
      refine kept row (columns + 1) most ?_
      rw [size, Nat.succ_mul]
      omega
    have further : UInt64.ofNat (rowTotal values width 0 columns row) +
        (values.getD (row * width + columns) 0).toUInt64 =
          UInt64.ofNat (rowTotal values width 0 (columns + 1) row) := by
      rw [rowTotal_succ, UInt64.ofNat_add, Nat.zero_add, valueIn, UInt64.ofNat_uInt32ToNat]
    simp only [addEntry, above, further]
    refine ⟨kept.push most size ?_, ?_, trivial⟩
    · rw [windowTotal_succ, UInt64.ofNat_add, Nat.zero_add]
    · rw [Array.size_push, size]
      rfl

theorem laidOut_addRow {row : Nat} (laidOut : LaidOut values width table)
    (full : table.size = (row + 1) * (width + 1)) :
    LaidOut values width (addRow values width table row) ∧
      (addRow values width table row).size = (row + 1 + 1) * (width + 1) := by
  obtain ⟨kept, size, -⟩ := laidOut_entries laidOut full (Nat.le_refl width)
  refine ⟨kept, size.trans ?_⟩
  rw [Nat.succ_mul (row + 1)]

end Layout

theorem laidOut_sumTable (values : Array UInt32) (width height : Nat) :
    LaidOut values width (sumTable values width height) ∧
      (sumTable values width height).size = (height + 1) * (width + 1) := by
  induction height with
  | zero =>
    refine ⟨laidOut_zeros values width, ?_⟩
    rw [sumTable, List.range_zero, List.foldl_nil, Array.size_replicate, Nat.zero_add, Nat.one_mul]
  | succ height inductionHypothesis =>
    rw [sumTable, List.range_succ, List.foldl_concat]
    exact laidOut_addRow inductionHypothesis.1 inductionHypothesis.2

/-! ### Sums over windows -/

/-- An entry of the table, told by its place. -/
theorem getD_sumTable (values : Array UInt32) {width height column row : Nat}
    (across : column ≤ width) (down : row ≤ height) :
    (sumTable values width height).getD (row * (width + 1) + column) 0 =
      UInt64.ofNat (windowTotal values width 0 0 column row) := by
  obtain ⟨laidOut, size⟩ := laidOut_sumTable values width height
  refine laidOut row column across ?_
  have rows := Nat.mul_le_mul_right (width + 1) down
  rw [size, Nat.succ_mul]
  omega

/-- Four entries tell the sum over a window that lies inside, in words. -/
theorem windowSum_sumTable (values : Array UInt32) {width height left top across down : Nat}
    (inWidth : left + across ≤ width) (inHeight : top + down ≤ height) :
    windowSum (sumTable values width height) (width + 1) left top across down =
      UInt64.ofNat (windowTotal values width left top across down) := by
  have corners := congrArg UInt64.ofNat (@windowTotal_corners values width left top across down)
  simp only [UInt64.ofNat_add] at corners
  have leftIn : left ≤ width := Nat.le_trans (Nat.le_add_right _ _) inWidth
  have topIn : top ≤ height := Nat.le_trans (Nat.le_add_right _ _) inHeight
  simp only [windowSum, getD_sumTable values inWidth inHeight, getD_sumTable values leftIn topIn,
    getD_sumTable values inWidth topIn, getD_sumTable values leftIn inHeight, corners]
  grind

/-- A window inside a picture whose values are together no more than a word is summed up
exactly. -/
theorem toNat_windowSum_sumTable {values : Array UInt32} {width height left top across down : Nat}
    (inWidth : left + across ≤ width) (inHeight : top + down ≤ height)
    (word : windowTotal values width left top across down < UInt64.size) :
    (windowSum (sumTable values width height) (width + 1) left top across down).toNat =
      windowTotal values width left top across down := by
  rw [windowSum_sumTable values inWidth inHeight, UInt64.toNat_ofNat_of_lt' word]

end Thumbnailer.Saliency
