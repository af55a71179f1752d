/-
This file computes the table of sums and the sums over windows with every step checked: an array is
only read and written within its bounds, a sum has to be a word, and a difference must not be
negative. The table is filled in place here, as a table of zeros whose entries are written one after
the other. It is the table that grows by each entry, padded with zeros, so what is known of the
layout of the one carries over to the other.

The length and the number of the rows, each one more than that of the values, are words of 32 bits,
so the longest axis that such a word can tell is too long. If the axes are shorter and all values
together come to a word of 64 bits, then nothing fails while the table is filled. Nor does a look-up
fail for its bounds or for a difference. The first of its steps is a sum of two entries, though, and
there a word may be exceeded, as the two rectangles overlap: the look-up goes through if the sum of
all values could be taken twice.
-/

import Mathlib.Algebra.BigOperators.Fin
import Thumbnailer.Proofs.Saliency.Sums

namespace Thumbnailer.Saliency

open Finset

/-! ### Checked steps -/

namespace Checked

/-- What stops a computation whose steps are checked. -/
inductive Slip where
  | outside
  | overflow
  | underflow
  deriving Repr, DecidableEq

/-- A number, if it is a word of 32 bits. -/
def word (number : Nat) : Except Slip Nat :=
  if number < UInt32.size then .ok number else .error .overflow

def read {Entry : Type} (entries : Array Entry) (place : Nat) : Except Slip Entry :=
  match entries[place]? with
  | some entry => .ok entry
  | none => .error .outside

def write (entries : Array UInt64) (place : Nat) (entry : UInt64) : Except Slip (Array UInt64) :=
  if place < entries.size then .ok (entries.setIfInBounds place entry) else .error .outside

def add (first second : UInt64) : Except Slip UInt64 :=
  if first.toNat + second.toNat < UInt64.size then .ok (first + second) else .error .overflow

def sub (first second : UInt64) : Except Slip UInt64 :=
  if second ≤ first then .ok (first - second) else .error .underflow

/-- Write one entry of a row: the sum along the row so far, and the entry above. -/
def addEntry (values : Array UInt32) (width row : Nat) (state : Array UInt64 × UInt64)
    (column : Nat) : Except Slip (Array UInt64 × UInt64) := do
  let value ← read values (row * width + column)
  let along ← add state.2 value.toUInt64
  let above ← read state.1 (row * (width + 1) + column + 1)
  let sum ← add above along
  let table ← write state.1 ((row + 1) * (width + 1) + column + 1) sum
  return (table, along)

def addRow (values : Array UInt32) (width : Nat) (table : Array UInt64) (row : Nat) :
    Except Slip (Array UInt64) := do
  let state ← (List.range width).foldlM (addEntry values width row) (table, 0)
  return state.1

/-- Fill a table of zeros row by row. The length and the number of its rows are words. -/
def sumTable (values : Array UInt32) (width height : Nat) : Except Slip (Array UInt64) := do
  let length ← word (width + 1)
  let rows ← word (height + 1)
  (List.range height).foldlM (addRow values width) (Array.replicate (rows * length) 0)

/-- The sum over a window, in the order in which the entries are read. -/
def windowSum (table : Array UInt64) (stride left top width height : Nat) :
    Except Slip UInt64 := do
  let far ← read table ((top + height) * stride + (left + width))
  let near ← read table (top * stride + left)
  let both ← add far near
  let above ← read table (top * stride + (left + width))
  let under ← sub both above
  let before ← read table ((top + height) * stride + left)
  sub under before

theorem word_of_lt {number : Nat} (within : number < UInt32.size) : word number = .ok number :=
  if_pos within

theorem word_of_not_lt {number : Nat} (beyond : ¬number < UInt32.size) :
    word number = .error .overflow :=
  if_neg beyond

theorem read_of_getElem? {Entry : Type} {entries : Array Entry} {place : Nat} {entry : Entry}
    (found : entries[place]? = some entry) : read entries place = .ok entry := by
  rw [read, found]

theorem read_of_lt {Entry : Type} {entries : Array Entry} {place : Nat}
    (inside : place < entries.size) (missing : Entry) :
    read entries place = .ok (entries.getD place missing) := by
  refine read_of_getElem? ?_
  rw [Array.getD_eq_getD_getElem?, Array.getElem?_eq_getElem inside, Option.getD_some]

/-- Words for numbers whose sum is a word are added without loss. -/
theorem add_ofNat {first second : Nat} (word : first + second < UInt64.size) :
    add (UInt64.ofNat first) (UInt64.ofNat second) = .ok (UInt64.ofNat (first + second)) := by
  rw [add, UInt64.toNat_ofNat_of_lt' (by omega), UInt64.toNat_ofNat_of_lt' (by omega),
    if_pos word, UInt64.ofNat_add]

theorem foldlM_concat {Entry State : Type} {step : State → Entry → Except Slip State}
    {entries : List Entry} {last : Entry} {start state : State}
    (soFar : entries.foldlM step start = .ok state) :
    (entries ++ [last]).foldlM step start = step state last := by
  rw [List.foldlM_append, soFar]
  exact bind_pure (step state last)

/-! ### A table that is filled in place -/

/-- A table so far, with zeros for the entries that are still to be written. -/
def padded (table : Array UInt64) (size : Nat) : Array UInt64 :=
  table ++ Array.replicate (size - table.size) 0

theorem padded_size (table : Array UInt64) : padded table table.size = table := by
  rw [padded, Nat.sub_self, Array.replicate_zero, Array.append_empty]

/-- One zero is left for the next entry. -/
theorem padded_eq_append {table : Array UInt64} {size : Nat} (more : table.size < size) :
    padded table size = table ++ Array.replicate (size - (table.size + 1) + 1) 0 := by
  rw [padded]
  congr 2
  omega

theorem padded_push (table : Array UInt64) (size : Nat) (entry : UInt64) :
    padded (table.push entry) size =
      table.push entry ++ Array.replicate (size - (table.size + 1)) 0 := by
  rw [padded, Array.size_push]

theorem read_padded {table : Array UInt64} {place : Nat} (inside : place < table.size)
    (size : Nat) : read (padded table size) place = .ok (table.getD place 0) := by
  refine read_of_getElem? ?_
  rw [padded, Array.getElem?_append_left inside, Array.getD_eq_getD_getElem?,
    Array.getElem?_eq_getElem inside, Option.getD_some]

/-- Writing the next entry is pushing it. -/
theorem write_padded {table : Array UInt64} {size : Nat} (more : table.size < size)
    (entry : UInt64) :
    write (padded table size) table.size entry = .ok (padded (table.push entry) size) := by
  have inside : table.size < (padded table size).size := by
    rw [padded, Array.size_append, Array.size_replicate]
    omega
  rw [write, if_pos inside, padded_eq_append more, padded_push,
    Array.setIfInBounds_append_right (Nat.le_refl _), Nat.sub_self, Array.replicate_succ']
  congr 1
  apply Array.ext'
  simp

/-- The first entry of a row is zero already. -/
theorem padded_push_zero {table : Array UInt64} {size : Nat} (more : table.size < size) :
    padded (table.push 0) size = padded table size := by
  rw [padded_eq_append more, padded_push, Array.replicate_succ']
  apply Array.ext'
  simp

theorem padded_zeros {width height : Nat} :
    padded (Array.replicate (width + 1) 0) ((height + 1) * (width + 1)) =
      Array.replicate ((height + 1) * (width + 1)) 0 := by
  rw [padded, Array.size_replicate, Nat.succ_mul, Nat.add_sub_cancel,
    Array.replicate_append_replicate, Nat.add_comm]

end Checked

/-! ### The sum of all values -/

section Whole

variable {values : Array UInt32} {width height : Nat}

theorem windowTotal_rows (values : Array UInt32) (width down : Nat) :
    windowTotal values width 0 0 width down =
      ∑ place ∈ range (down * width), (values.getD place 0).toNat := by
  induction down with
  | zero => rw [Nat.zero_mul, windowTotal, range_zero, sum_empty, sum_empty]
  | succ down inductionHypothesis =>
    rw [windowTotal_succ, inductionHypothesis, Nat.succ_mul, sum_range_add]
    simp only [rowTotal, valueIn, Nat.zero_add]

/-- The window that is the whole picture has the sum of all values. -/
theorem windowTotal_whole (sized : values.size = width * height) :
    windowTotal values width 0 0 width height = (values.toList.map UInt32.toNat).sum := by
  rw [windowTotal_rows, Nat.mul_comm height, ← sized, sum_range, ← Array.length_toList,
    ← Fin.sum_univ_fun_getElem]
  refine sum_congr rfl fun place _ => ?_
  rw [Array.getD_eq_getD_getElem?, ← Array.getElem?_toList, List.getElem?_eq_getElem place.isLt]
  rfl

/-- A window inside has no more than the whole picture. -/
theorem windowTotal_le_sum (sized : values.size = width * height) {left top across down : Nat}
    (inWidth : left + across ≤ width) (inHeight : top + down ≤ height) :
    windowTotal values width left top across down ≤ (values.toList.map UInt32.toNat).sum := by
  obtain ⟨right, rfl⟩ := Nat.exists_eq_add_of_le inWidth
  obtain ⟨under, rfl⟩ := Nat.exists_eq_add_of_le inHeight
  rw [← windowTotal_whole sized, windowTotal_add_down _ _ _ (top + down), windowTotal_add_down,
    windowTotal_add_across _ (0 + top) (left + across), windowTotal_add_across _ (0 + top) left,
    Nat.zero_add, Nat.zero_add]
  omega

/-- So has a rectangle at the corner. -/
theorem windowTotal_corner_le (sized : values.size = width * height) {across down : Nat}
    (inWidth : across ≤ width) (inHeight : down ≤ height) :
    windowTotal values width 0 0 across down ≤ (values.toList.map UInt32.toNat).sum :=
  windowTotal_le_sum sized ((Nat.zero_add across).trans_le inWidth)
    ((Nat.zero_add down).trans_le inHeight)

end Whole

/-! ### Filling the table -/

section Filling

variable {values : Array UInt32} {width height : Nat} {table : Array UInt64}

/-- A place in a table whose rows have the given length. -/
theorem place_lt {length rows row column : Nat} (inLength : column < length) (inRows : row < rows) :
    row * length + column < rows * length :=
  calc row * length + column
      < row * length + length := Nat.add_lt_add_left inLength _
    _ = (row + 1) * length := (Nat.succ_mul row length).symm
    _ ≤ rows * length := Nat.mul_le_mul_right length inRows

/-- One entry of a row is written without a slip: the sum along the row and the entry are sums over
rectangles, and these are words. -/
theorem checked_addEntry (sized : values.size = width * height)
    (word : (values.toList.map UInt32.toNat).sum < UInt64.size) {row column : Nat}
    (inHeight : row < height) (inWidth : column < width) (laidOut : LaidOut values width table)
    (next : table.size = (row + 1) * (width + 1) + (column + 1)) :
    let along := UInt64.ofNat (rowTotal values width 0 column row)
    let further := addEntry values width row (table, along) column
    let size := (height + 1) * (width + 1)
    Checked.addEntry values width row (Checked.padded table size, along) column =
      .ok (Checked.padded further.1 size, further.2) := by
  -- Within the values, within the entries so far, and within the table.
  have inValues : row * width + column < values.size := by
    rw [sized, Nat.mul_comm width]
    exact place_lt inWidth inHeight
  have inEntries : row * (width + 1) + column + 1 < table.size := by
    rw [next, Nat.succ_mul]
    omega
  have inTable : table.size < (height + 1) * (width + 1) := by
    rw [next]
    exact place_lt (Nat.succ_lt_succ inWidth) (Nat.succ_lt_succ inHeight)
  -- The two sums, in numbers and in words.
  have rowSum : rowTotal values width 0 (column + 1) row =
      rowTotal values width 0 column row + (values.getD (row * width + column) 0).toNat := by
    rw [rowTotal_succ, valueIn, Nat.zero_add]
  have entrySum : windowTotal values width 0 0 (column + 1) (row + 1) =
      windowTotal values width 0 0 (column + 1) row +
        rowTotal values width 0 (column + 1) row := by
    rw [windowTotal_succ, Nat.zero_add]
  have entryWord : windowTotal values width 0 0 (column + 1) (row + 1) < UInt64.size :=
    Nat.lt_of_le_of_lt (windowTotal_corner_le sized inWidth inHeight) word
  have above : table.getD (row * (width + 1) + column + 1) 0 =
      UInt64.ofNat (windowTotal values width 0 0 (column + 1) row) :=
    laidOut row (column + 1) inWidth inEntries
  have alongSum := @Checked.add_ofNat (rowTotal values width 0 column row)
    (values.getD (row * width + column) 0).toNat (by omega)
  have nextSum := @Checked.add_ofNat (windowTotal values width 0 0 (column + 1) row)
    (rowTotal values width 0 (column + 1) row) (by omega)
  rw [UInt64.ofNat_uInt32ToNat, ← rowSum] at alongSum
  rw [← entrySum] at nextSum
  have written := Checked.write_padded inTable
    (UInt64.ofNat (windowTotal values width 0 0 (column + 1) (row + 1)))
  rw [show table.size = (row + 1) * (width + 1) + column + 1 from next] at written
  have pushed : addEntry values width row
      (table, UInt64.ofNat (rowTotal values width 0 column row)) column =
        (table.push (UInt64.ofNat (windowTotal values width 0 0 (column + 1) (row + 1))),
          UInt64.ofNat (rowTotal values width 0 (column + 1) row)) := by
    rw [addEntry, above, entrySum, rowSum, UInt64.ofNat_add, UInt64.ofNat_add,
      UInt64.ofNat_uInt32ToNat]
  dsimp only
  rw [pushed]
  simp only [Checked.addEntry, Checked.read_of_lt inValues 0, Checked.read_padded inEntries,
    alongSum, above, nextSum, written, bind, Except.bind, pure, Except.pure]

/-- Entries of a row are written without a slip. -/
theorem checked_entries (sized : values.size = width * height)
    (word : (values.toList.map UInt32.toNat).sum < UInt64.size) {row : Nat}
    (inHeight : row < height) (laidOut : LaidOut values width table)
    (full : table.size = (row + 1) * (width + 1)) {columns : Nat} (most : columns ≤ width) :
    let state := (List.range columns).foldl (addEntry values width row) (table.push 0, 0)
    let size := (height + 1) * (width + 1)
    (List.range columns).foldlM (Checked.addEntry values width row)
        (Checked.padded (table.push 0) size, 0) = .ok (Checked.padded state.1 size, state.2) := by
  induction columns with
  | zero => rfl
  | succ columns inductionHypothesis =>
    have before := Nat.le_of_succ_le most
    obtain ⟨kept, size, along⟩ := laidOut_entries laidOut full before
    have soFar := inductionHypothesis before
    have further := checked_addEntry sized word inHeight most kept size
    dsimp only at soFar further ⊢
    rw [← along] at further
    rw [List.range_succ, List.foldl_concat, Checked.foldlM_concat soFar]
    exact further

theorem checked_addRow (sized : values.size = width * height)
    (word : (values.toList.map UInt32.toNat).sum < UInt64.size) {row : Nat}
    (inHeight : row < height) (laidOut : LaidOut values width table)
    (full : table.size = (row + 1) * (width + 1)) :
    let size := (height + 1) * (width + 1)
    Checked.addRow values width (Checked.padded table size) row =
      .ok (Checked.padded (addRow values width table row) size) := by
  have more : table.size < (height + 1) * (width + 1) := by
    rw [full]
    exact Nat.mul_lt_mul_of_pos_right (Nat.succ_lt_succ inHeight) (Nat.succ_pos _)
  have entries := checked_entries sized word inHeight laidOut full (Nat.le_refl width)
  dsimp only at entries ⊢
  rw [Checked.padded_push_zero more] at entries
  rw [Checked.addRow, entries]
  rfl

/-- The table is filled without a slip, and it is the one that grows entry by entry. -/
theorem checked_sumTable (sized : values.size = width * height)
    (word : (values.toList.map UInt32.toNat).sum < UInt64.size)
    (wide : width + 1 < UInt32.size) (high : height + 1 < UInt32.size) :
    Checked.sumTable values width height = .ok (sumTable values width height) := by
  have rows : ∀ rows ≤ height,
      (List.range rows).foldlM (Checked.addRow values width)
          (Array.replicate ((height + 1) * (width + 1)) 0) =
        .ok (Checked.padded (sumTable values width rows) ((height + 1) * (width + 1))) := by
    intro rows most
    induction rows with
    | zero => exact congrArg Except.ok Checked.padded_zeros.symm
    | succ rows inductionHypothesis =>
      obtain ⟨kept, size⟩ := laidOut_sumTable values width rows
      rw [List.range_succ,
        Checked.foldlM_concat (inductionHypothesis (Nat.le_of_succ_le most)),
        checked_addRow sized word most kept size, sumTable, sumTable, List.range_succ,
        List.foldl_concat]
  have full := Checked.padded_size (sumTable values width height)
  rw [(laidOut_sumTable values width height).2] at full
  rw [Checked.sumTable, Checked.word_of_lt wide, Checked.word_of_lt high]
  exact (rows height (Nat.le_refl height)).trans (congrArg Except.ok full)

/-- An axis that is as long as a word can tell leaves no word for the rows of the table. -/
theorem checked_sumTable_of_long
    (long : ¬(width + 1 < UInt32.size ∧ height + 1 < UInt32.size)) :
    Checked.sumTable values width height = .error .overflow := by
  unfold Checked.sumTable
  by_cases wide : width + 1 < UInt32.size
  · rw [Checked.word_of_lt wide, Checked.word_of_not_lt fun high => long ⟨wide, high⟩]
    rfl
  · rw [Checked.word_of_not_lt wide]
    rfl

end Filling

/-! ### Sums over windows -/

/-- If neither difference is negative in numbers, then only the sum can exceed a word. -/
theorem Checked.sub_sub_of_le {far near above before : UInt64}
    (first : above.toNat ≤ far.toNat + near.toNat)
    (second : before.toNat ≤ far.toNat + near.toNat - above.toNat) :
    (do let both ← add far near; let under ← sub both above; sub under before) =
      if far.toNat + near.toNat < UInt64.size then .ok (far + near - above - before)
      else .error .overflow := by
  rw [add]
  split
  case isFalse => rfl
  case isTrue word =>
    have sum : (far + near).toNat = far.toNat + near.toNat := by
      rw [UInt64.toNat_add, Nat.mod_eq_of_lt word]
    have firstFits : above ≤ far + near := by rwa [UInt64.le_iff_toNat_le, sum]
    have difference : (far + near - above).toNat = far.toNat + near.toNat - above.toNat := by
      rw [UInt64.toNat_sub_of_le _ _ firstFits, sum]
    have secondFits : before ≤ far + near - above := by
      rwa [UInt64.le_iff_toNat_le, difference]
    simp only [sub, firstFits, secondFits, if_true, bind, Except.bind]

/-- An entry of the table as a number, of a table whose rows have the given length. -/
def entryIn (table : Array UInt64) (stride column row : Nat) : Nat :=
  (table.getD (row * stride + column) 0).toNat

section Corners

variable {values : Array UInt32} {width height left top across down : Nat}

theorem entryIn_sumTable (sized : values.size = width * height)
    (word : (values.toList.map UInt32.toNat).sum < UInt64.size) {column row : Nat}
    (inWidth : column ≤ width) (inHeight : row ≤ height) :
    entryIn (sumTable values width height) (width + 1) column row =
      windowTotal values width 0 0 column row := by
  rw [entryIn, getD_sumTable values inWidth inHeight]
  exact UInt64.toNat_ofNat_of_lt'
    (Nat.lt_of_le_of_lt (windowTotal_corner_le sized inWidth inHeight) word)

theorem read_sumTable (values : Array UInt32) {column row : Nat} (inWidth : column ≤ width)
    (inHeight : row ≤ height) :
    Checked.read (sumTable values width height) (row * (width + 1) + column) =
      .ok ((sumTable values width height).getD (row * (width + 1) + column) 0) := by
  refine Checked.read_of_lt ?_ 0
  rw [(laidOut_sumTable values width height).2]
  exact place_lt (Nat.lt_succ_of_le inWidth) (Nat.lt_succ_of_le inHeight)

/-- Neither difference is negative. What the far entry has beyond the upper one is the strip of the
window's rows up to its right edge, and this contains the strip up to its left edge. -/
theorem differences_sumTable (sized : values.size = width * height)
    (word : (values.toList.map UInt32.toNat).sum < UInt64.size) (inWidth : left + across ≤ width)
    (inHeight : top + down ≤ height) :
    let entry := entryIn (sumTable values width height) (width + 1)
    entry (left + across) top ≤ entry (left + across) (top + down) + entry left top ∧
      entry left (top + down) ≤
        entry (left + across) (top + down) + entry left top - entry (left + across) top := by
  have leftIn : left ≤ width := Nat.le_trans (Nat.le_add_right _ _) inWidth
  have topIn : top ≤ height := Nat.le_trans (Nat.le_add_right _ _) inHeight
  have corners := @windowTotal_corners values width left top across down
  simp only [entryIn_sumTable sized word inWidth inHeight, entryIn_sumTable sized word leftIn topIn,
    entryIn_sumTable sized word inWidth topIn, entryIn_sumTable sized word leftIn inHeight]
  omega

/-- Of the steps of a look-up only the sum of two entries can fail. -/
theorem checked_windowSum (sized : values.size = width * height)
    (word : (values.toList.map UInt32.toNat).sum < UInt64.size) (inWidth : left + across ≤ width)
    (inHeight : top + down ≤ height) :
    let table := sumTable values width height
    let entry := entryIn table (width + 1)
    Checked.windowSum table (width + 1) left top across down =
      if entry (left + across) (top + down) + entry left top < UInt64.size then
        .ok (windowSum table (width + 1) left top across down)
      else .error .overflow := by
  dsimp only
  have leftIn : left ≤ width := Nat.le_trans (Nat.le_add_right _ _) inWidth
  have topIn : top ≤ height := Nat.le_trans (Nat.le_add_right _ _) inHeight
  obtain ⟨first, second⟩ := differences_sumTable sized word inWidth inHeight
  simp only [Checked.windowSum, read_sumTable values inWidth inHeight,
    read_sumTable values leftIn topIn, read_sumTable values inWidth topIn,
    read_sumTable values leftIn inHeight]
  exact Checked.sub_sub_of_le first second

/-- If even twice the sum of all values is a word, then no step fails. -/
theorem checked_windowSum_of_twice (sized : values.size = width * height)
    (twice : 2 * (values.toList.map UInt32.toNat).sum < UInt64.size)
    (inWidth : left + across ≤ width) (inHeight : top + down ≤ height) :
    let table := sumTable values width height
    Checked.windowSum table (width + 1) left top across down =
      .ok (windowSum table (width + 1) left top across down) := by
  have word : (values.toList.map UInt32.toNat).sum < UInt64.size := by omega
  have leftIn : left ≤ width := Nat.le_trans (Nat.le_add_right _ _) inWidth
  have topIn : top ≤ height := Nat.le_trans (Nat.le_add_right _ _) inHeight
  have far := windowTotal_corner_le sized inWidth inHeight
  have near := windowTotal_corner_le sized leftIn topIn
  rw [← entryIn_sumTable sized word inWidth inHeight] at far
  rw [← entryIn_sumTable sized word leftIn topIn] at near
  refine (checked_windowSum sized word inWidth inHeight).trans (if_pos ?_)
  omega

end Corners

/-- If no axis is as long as a word can tell and the values come to a word, then the table is filled
without a slip, four of its entries tell the sum over any window inside, and of the steps that this
takes only the sum of two entries can fail, namely if it is no word. If even twice the values come
to a word, then none of them fails. -/
theorem windowSum_exact {values : Array UInt32} {width height left top across down : Nat}
    (sized : values.size = width * height)
    (word : (values.toList.map UInt32.toNat).sum < UInt64.size)
    (wide : width + 1 < UInt32.size) (high : height + 1 < UInt32.size)
    (inWidth : left + across ≤ width) (inHeight : top + down ≤ height) :
    let table := sumTable values width height
    let entry := entryIn table (width + 1)
    let sum := windowSum table (width + 1) left top across down
    Checked.sumTable values width height = .ok table ∧
      sum.toNat = windowTotal values width left top across down ∧
      (Checked.windowSum table (width + 1) left top across down =
        if entry (left + across) (top + down) + entry left top < UInt64.size then .ok sum
        else .error .overflow) ∧
      (2 * (values.toList.map UInt32.toNat).sum < UInt64.size →
        Checked.windowSum table (width + 1) left top across down = .ok sum) := by
  have total : windowTotal values width left top across down < UInt64.size :=
    Nat.lt_of_le_of_lt (windowTotal_le_sum sized inWidth inHeight) word
  exact ⟨checked_sumTable sized word wide high, toNat_windowSum_sumTable inWidth inHeight total,
    checked_windowSum sized word inWidth inHeight,
    fun twice => checked_windowSum_of_twice sized twice inWidth inHeight⟩

/-- The lower right corner of six values. -/
theorem windowSum_exact_six :
    let values : Array UInt32 := #[1, 2, 3, 4, 5, 6]
    values.size = 3 * 2 ∧ 2 * (values.toList.map UInt32.toNat).sum < UInt64.size ∧
      3 + 1 < UInt32.size ∧ 2 + 1 < UInt32.size ∧ 1 + 2 ≤ 3 ∧ 1 + 1 ≤ 2 ∧
      Checked.sumTable values 3 2 = .ok #[0, 0, 0, 0, 0, 1, 3, 6, 0, 5, 12, 21] ∧
      Checked.windowSum #[0, 0, 0, 0, 0, 1, 3, 6, 0, 5, 12, 21] 4 1 1 2 1 = .ok 11 := by
  obtain ⟨filled, -, -, summed⟩ :=
    @windowSum_exact #[1, 2, 3, 4, 5, 6] 3 2 1 1 2 1 (by decide) (by decide) (by decide)
      (by decide) (by decide) (by decide)
  have table : sumTable #[1, 2, 3, 4, 5, 6] 3 2 = #[0, 0, 0, 0, 0, 1, 3, 6, 0, 5, 12, 21] := by
    decide
  rw [table] at filled summed
  exact ⟨by decide, by decide, by decide, by decide, by decide, by decide, filled,
    (summed (by decide)).trans (by decide)⟩

/-! ### Beyond a word -/

theorem sum_replicate (count : Nat) (value : UInt32) :
    ((Array.replicate count value).toList.map UInt32.toNat).sum = count * value.toNat := by
  rw [Array.toList_replicate, List.map_replicate, List.sum_replicate, smul_eq_mul]

theorem windowTotal_replicate {width height across down : Nat} (value : UInt32)
    (inWidth : across ≤ width) (inHeight : down ≤ height) :
    windowTotal (Array.replicate (width * height) value) width 0 0 across down =
      down * (across * value.toNat) := by
  refine windowTotal_uniform fun column inColumns row inRows => ?_
  have inside : (0 + row) * width + (0 + column) < width * height := by
    rw [Nat.zero_add, Nat.zero_add, Nat.mul_comm width]
    exact place_lt (inColumns.trans_le inWidth) (inRows.trans_le inHeight)
  rw [valueIn, Array.getD_eq_getD_getElem?, Array.getElem?_replicate, if_pos inside,
    Option.getD_some]

/-- The longest axis leaves no table even where there is no value. Where the table is filled with
values that are as large as they can be, a look-up can stop, although the values come to a word. -/
theorem windowSum_beyond :
    let values : Array UInt32 := Array.replicate (65536 * 65536) 4294967295
    ((#[] : Array UInt32).size = 4294967295 * 0 ∧
        Checked.sumTable #[] 4294967295 0 = .error .overflow) ∧
      values.size = 65536 * 65536 ∧ (values.toList.map UInt32.toNat).sum < UInt64.size ∧
        Checked.sumTable values 65536 65536 = .ok (sumTable values 65536 65536) ∧
        Checked.windowSum (sumTable values 65536 65536) (65536 + 1) 2 1 65534 65535 =
          .error .overflow := by
  intro values
  have sized : values.size = 65536 * 65536 := Array.size_replicate
  have word : (values.toList.map UInt32.toNat).sum < UInt64.size := by
    rw [sum_replicate]
    decide
  refine ⟨⟨rfl, checked_sumTable_of_long (by decide)⟩, sized, word,
    checked_sumTable sized word (by decide) (by decide), ?_⟩
  refine (checked_windowSum sized word (by decide) (by decide)).trans (if_neg ?_)
  rw [entryIn_sumTable sized word (by decide) (by decide),
    entryIn_sumTable sized word (by decide) (by decide),
    windowTotal_replicate _ (by decide) (by decide),
    windowTotal_replicate _ (by decide) (by decide)]
  decide

end Thumbnailer.Saliency
