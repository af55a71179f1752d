/-
This file shows that the window that is found most salient is the best of its grid. No window on
the grid has pixels of a higher score together; of those that score the same none is nearer to the
centre; and of those that lie as near as well it is the first one, from the top and then from the
left.

A scan that replaces the best candidate only by a better one ends with the first of the best. It
starts from a placement that no window can be worse than, so that it ends on the grid even where
nothing scores at all. Scores are sums of words in a word: a picture of fewer than two to the
thirty-second pixels cannot make them wrap. In such a picture the window is found unless an axis is
as long as a word can tell. Then the search ends without a window, as the table has no room for one
more column or row.
-/

import Thumbnailer.Proofs.Saliency.Search

namespace Thumbnailer.Saliency

/-! ### The scan -/

namespace Placement

theorem better_iff {first second : Placement} :
    first.better second = true ↔
      second.score.toNat < first.score.toNat ∨
        first.score.toNat = second.score.toNat ∧ first.offCentre < second.offCentre := by
  simp only [better, Bool.or_eq_true, Bool.and_eq_true, decide_eq_true_eq, UInt64.lt_iff_toNat_lt,
    ← UInt64.toNat_inj]

/-- What is better than a placement is better than all that is not better than it. -/
theorem better_of_not_better {first second third : Placement} (better : first.better second)
    (not : ¬third.better second) : first.better third := by
  rw [better_iff] at better not ⊢
  omega

theorem better_trans {first second third : Placement} (better : first.better second)
    (further : second.better third) : first.better third := by
  rw [better_iff] at better further ⊢
  omega

theorem not_better_self (placement : Placement) : ¬placement.better placement := by
  rw [better_iff]
  omega

theorem not_better_of_better {first second : Placement} (better : first.better second) :
    ¬second.better first :=
  fun other => not_better_self first (better_trans better other)

end Placement

/-- The first of the best candidates: it is better than those before it, and none after it is
better. -/
def FirstBest (candidates : List Placement) (chosen : Placement) : Prop :=
  ∃ before after, candidates = before ++ chosen :: after ∧
    (∀ placement ∈ before, chosen.better placement) ∧
      ∀ placement ∈ after, ¬placement.better chosen

namespace FirstBest

variable {candidates : List Placement} {chosen : Placement}

theorem mem (first : FirstBest candidates chosen) : chosen ∈ candidates := by
  obtain ⟨before, after, rfl, -, -⟩ := first
  exact List.mem_append_right _ List.mem_cons_self

/-- Every candidate comes before the chosen one and is worse, or is the chosen one, or comes after
it and is not better. -/
theorem cases {Follows : Placement → Placement → Prop} (ordered : candidates.Pairwise Follows)
    (first : FirstBest candidates chosen) {placement : Placement}
    (member : placement ∈ candidates) :
    chosen.better placement ∨ placement = chosen ∨
      ¬placement.better chosen ∧ Follows chosen placement := by
  obtain ⟨before, after, rfl, worse, notBetter⟩ := first
  have follow := (List.pairwise_cons.1 (List.pairwise_append.1 ordered).2.1).1
  obtain earlier | same | later : placement ∈ before ∨ placement = chosen ∨ placement ∈ after := by
    rwa [List.mem_append, List.mem_cons] at member
  · exact .inl (worse placement earlier)
  · exact .inr (.inl same)
  · exact .inr (.inr ⟨notBetter placement later, follow placement later⟩)

theorem not_better (first : FirstBest candidates chosen) {placement : Placement}
    (member : placement ∈ candidates) : ¬placement.better chosen := by
  have ordered : candidates.Pairwise fun _ _ => True := List.pairwise_of_forall fun _ _ => trivial
  obtain worse | rfl | ⟨notBetter, -⟩ := first.cases ordered member
  · exact Placement.not_better_of_better worse
  · exact Placement.not_better_self _
  · exact notBetter

/-- One more candidate that is not better changes nothing. -/
theorem concat (first : FirstBest candidates chosen) {last : Placement}
    (not : ¬last.better chosen) : FirstBest (candidates ++ [last]) chosen := by
  obtain ⟨before, after, rfl, worse, notBetter⟩ := first
  refine ⟨before, after ++ [last], List.append_assoc _ _ _, worse, ?_⟩
  exact List.forall_mem_append.2 ⟨notBetter, List.forall_mem_singleton.2 not⟩

/-- A last candidate that is better than all before it is the first of the best. -/
theorem last {last : Placement} (better : ∀ placement ∈ candidates, last.better placement) :
    FirstBest (candidates ++ [last]) last :=
  ⟨candidates, [], rfl, better, List.forall_mem_nil _⟩

end FirstBest

theorem best_concat (candidates : List Placement) (last : Placement) :
    best (candidates ++ [last]) =
      if last.better (best candidates) then last else best candidates :=
  List.foldl_concat _ _ _ _

/-- The scan ends with the first of the best candidates, or where it started. -/
theorem best_cases (candidates : List Placement) :
    (best candidates = .worst ∧ ∀ placement ∈ candidates, ¬placement.better .worst) ∨
      FirstBest candidates (best candidates) := by
  induction candidates using List.reverseRecOn with
  | nil => exact .inl ⟨rfl, List.forall_mem_nil _⟩
  | append_singleton candidates last inductionHypothesis =>
    rw [best_concat]
    obtain ⟨started, none⟩ | first := inductionHypothesis
    · rw [started]
      split
      case isTrue better =>
        exact .inr (.last fun placement member =>
          Placement.better_of_not_better better (none placement member))
      case isFalse not =>
        exact .inl ⟨rfl, List.forall_mem_append.2 ⟨none, List.forall_mem_singleton.2 not⟩⟩
    · split
      case isTrue better =>
        exact .inr (.last fun placement member =>
          Placement.better_of_not_better better (first.not_better member))
      case isFalse not => exact .inr (first.concat not)

/-- Where some candidate is better than the start, the scan ends with the first of the best. -/
theorem firstBest_best {candidates : List Placement} {some : Placement}
    (member : some ∈ candidates) (better : some.better .worst) :
    FirstBest candidates (best candidates) := by
  obtain ⟨-, none⟩ | first := best_cases candidates
  · exact absurd better (none some member)
  · exact first

/-! ### The grid of windows -/

/-- The saliency of a window: the scores of its pixels together. -/
def salience (raster : Raster) (kept : Size) (left top : Nat) : Nat :=
  windowTotal (scores raster) raster.size.width.toNat left top kept.width.toNat kept.height.toNat

/-- Twice the distance of a place from the middle of what is to spare. -/
def offCentre (spare place : Nat) : Nat :=
  (2 * (place : Int) - spare).natAbs

theorem distance_two_mul (spare place : Nat) :
    distance (2 * place) spare = offCentre spare place := by
  unfold distance offCentre
  omega

/-- What a window leaves of the width. -/
def spareWidth (raster : Raster) (kept : Size) : Nat :=
  raster.size.width.toNat - kept.width.toNat

/-- What a window leaves of the height. -/
def spareHeight (raster : Raster) (kept : Size) : Nat :=
  raster.size.height.toNat - kept.height.toNat

/-- How far a window lies off the centre, along both axes. -/
def remoteness (raster : Raster) (kept : Size) (left top : Nat) : Nat :=
  offCentre (spareWidth raster kept) left + offCentre (spareHeight raster kept) top

/-- The windows of a size that are tried in a picture. -/
def candidates (raster : Raster) (kept : Size) : List Placement :=
  placements (sumTable (scores raster) raster.size.width.toNat raster.size.height.toNat)
    (raster.size.width.toNat + 1) kept.width.toNat kept.height.toNat (spareWidth raster kept)
    (spareHeight raster kept)

/-- A window of some size within the picture, of fewer pixels than a word can count. -/
structure Within (kept : Size) (raster : Raster) : Prop where
  width : kept.width.toNat ≤ raster.size.width.toNat
  height : kept.height.toNat ≤ raster.size.height.toNat
  few : raster.size.area < UInt32.size

section Candidates

variable {raster : Raster} {kept : Size}

/-- Scores are words, so those of fewer pixels than a word can count come to a word of twice the
length. -/
theorem Within.salience_lt (within : Within kept raster) (left top : Nat) :
    salience raster kept left top < UInt64.size :=
  calc salience raster kept left top
    _ ≤ kept.height.toNat * (kept.width.toNat * UInt32.size) := windowTotal_le left top _ _
    _ ≤ raster.size.height.toNat * (raster.size.width.toNat * UInt32.size) :=
      Nat.mul_le_mul within.height (Nat.mul_le_mul_right _ within.width)
    _ = raster.size.area * UInt32.size := by
      rw [← Nat.mul_assoc, Nat.mul_comm raster.size.height.toNat, Size.area]
    _ < UInt64.size := Nat.mul_lt_mul_of_pos_right within.few (by decide)

/-- The score and the distance of a placement are those of the window at its place. -/
structure Appraised (raster : Raster) (kept : Size) (placement : Placement) : Prop where
  score : placement.score.toNat = salience raster kept placement.left placement.top
  distance : placement.offCentre = remoteness raster kept placement.left placement.top

/-- The candidates are appraised placements on the grid. -/
theorem Within.appraised (within : Within kept raster) {placement : Placement}
    (member : placement ∈ candidates raster kept) :
    placement.left ∈ offsets (spareWidth raster kept) ∧
      placement.top ∈ offsets (spareHeight raster kept) ∧
        Appraised raster kept placement := by
  obtain ⟨top, onHeight, inRow⟩ := List.mem_flatMap.1 member
  obtain ⟨left, onWidth, rfl⟩ := List.mem_map.1 inRow
  have across := le_of_mem_offsets onWidth
  have down := le_of_mem_offsets onHeight
  have width := within.width
  have height := within.height
  refine ⟨onWidth, onHeight, ?_, ?_⟩
  · refine toNat_windowSum_sumTable ?_ ?_ (within.salience_lt left top)
    · unfold spareWidth at across
      omega
    · unfold spareHeight at down
      omega
  · simp only [distance_two_mul, remoteness]

theorem exists_candidate {left top : Nat} (onWidth : left ∈ offsets (spareWidth raster kept))
    (onHeight : top ∈ offsets (spareHeight raster kept)) :
    ∃ placement ∈ candidates raster kept, placement.left = left ∧ placement.top = top :=
  ⟨_, List.mem_flatMap.2 ⟨top, onHeight, List.mem_map.2 ⟨left, onWidth, rfl⟩⟩, rfl, rfl⟩

/-- The first placement lies further up, or in the same row and further left. -/
def Placement.Precedes (first second : Placement) : Prop :=
  first.top < second.top ∨ first.top = second.top ∧ first.left < second.left

theorem pairwise_candidates (raster : Raster) (kept : Size) :
    (candidates raster kept).Pairwise Placement.Precedes := by
  refine List.pairwise_flatMap.2 ⟨fun top _ => ?_, ?_⟩
  · exact List.pairwise_map.2 ((pairwise_lt_offsets _).imp fun less => .inr ⟨rfl, less⟩)
  · refine (pairwise_lt_offsets _).imp fun less first inFirst second inSecond => .inl ?_
    obtain ⟨_, -, rfl⟩ := List.mem_map.1 inFirst
    obtain ⟨_, -, rfl⟩ := List.mem_map.1 inSecond
    exact less

/-- Every candidate is better than the start of the scan: no distance is as great. -/
theorem Within.better_worst (within : Within kept raster) {placement : Placement}
    (member : placement ∈ candidates raster kept) : placement.better .worst := by
  obtain ⟨onWidth, onHeight, appraised⟩ := within.appraised member
  have across := le_of_mem_offsets onWidth
  have down := le_of_mem_offsets onHeight
  have width := raster.size.width.toNat_lt
  have height := raster.size.height.toNat_lt
  rw [Placement.better_iff, appraised.distance]
  unfold spareWidth at across
  unfold spareHeight at down
  simp only [Placement.worst, remoteness, offCentre, spareWidth, spareHeight, UInt64.toNat_zero]
  omega

end Candidates

/-! ### The window -/

/-- The first place is to be taken before the second: its window scores more; or the same, and it
lies nearer to the centre; or as near, and it comes first, from the top and then from the left. -/
def Preferred (raster : Raster) (kept : Size) (left top left' top' : Nat) : Prop :=
  salience raster kept left' top' < salience raster kept left top ∨
    salience raster kept left top = salience raster kept left' top' ∧
      (remoteness raster kept left top < remoteness raster kept left' top' ∨
        remoteness raster kept left top = remoteness raster kept left' top' ∧
          (top < top' ∨ top = top' ∧ left < left'))

/-- The first of the best candidates is to be taken before every other one. -/
theorem FirstBest.preferred {raster : Raster} {kept : Size} {chosen : Placement}
    (first : FirstBest (candidates raster kept) chosen) (within : Within kept raster)
    {left top : Nat} (onWidth : left ∈ offsets (spareWidth raster kept))
    (onHeight : top ∈ offsets (spareHeight raster kept))
    (other : (left, top) ≠ (chosen.left, chosen.top)) :
    Preferred raster kept chosen.left chosen.top left top := by
  obtain ⟨placement, member, rfl, rfl⟩ := exists_candidate onWidth onHeight
  obtain ⟨-, -, chosenScore, chosenDistance⟩ := within.appraised first.mem
  obtain ⟨-, -, score, distance⟩ := within.appraised member
  unfold Preferred
  obtain worse | rfl | ⟨notBetter, precedes⟩ := first.cases (pairwise_candidates raster _) member
  · rw [Placement.better_iff] at worse
    omega
  · exact absurd rfl other
  · rw [Placement.better_iff] at notBetter
    unfold Placement.Precedes at precedes
    omega

/-- Where a window is searched for, it is the first of the best candidates. -/
theorem exists_firstBest {raster : Raster} {size : Size}
    (few : raster.size.area < UInt32.size) (cuts : size.meet raster.size ≠ raster.size)
    (across : (size.meet raster.size).width ≠ 0) (down : (size.meet raster.size).height ≠ 0) :
    Within (size.meet raster.size) raster ∧
      ∃ chosen, FirstBest (candidates raster (size.meet raster.size)) chosen ∧
        (window raster size).left.toNat = chosen.left ∧
          (window raster size).top.toNat = chosen.top := by
  have within : Within (size.meet raster.size) raster :=
    ⟨UInt32.le_iff_toNat_le.1 (size.along_meet_le_right raster.size .width),
      UInt32.le_iff_toNat_le.1 (size.along_meet_le_right raster.size .height), few⟩
  obtain ⟨corner, member, -⟩ := @exists_candidate raster (size.meet raster.size) 0 0
    (zero_mem_offsets _) (zero_mem_offsets _)
  have first := firstBest_best member (within.better_worst member)
  refine ⟨within, _, first, ?_⟩
  obtain ⟨onWidth, onHeight, -⟩ := within.appraised first.mem
  have width := raster.size.width.toNat_lt_size
  have height := raster.size.height.toNat_lt_size
  have leftWord := le_of_mem_offsets onWidth
  have topWord := le_of_mem_offsets onHeight
  unfold spareWidth at leftWord
  unfold spareHeight at topWord
  have searched : ¬(size.meet raster.size = raster.size ∨ (size.meet raster.size).width = 0 ∨
      (size.meet raster.size).height = 0) := by
    rintro (whole | empty | empty)
    · exact cuts whole
    · exact across empty
    · exact down empty
  unfold window
  dsimp only
  rw [if_neg searched]
  exact ⟨UInt32.toNat_ofNat_of_lt' (Nat.lt_of_le_of_lt leftWord (by omega)),
    UInt32.toNat_ofNat_of_lt' (Nat.lt_of_le_of_lt topWord (by omega))⟩

/-- In a picture that can be searched the window is found, and no step on the way fails. It has the
size that was asked for, as far as the picture goes, lies inside the picture on the grid, and is to
be taken before every other window of the grid. -/
theorem window_preferred (raster : Raster) (size : Size) (searchable : Searchable raster.size)
    (cuts : size.meet raster.size ≠ raster.size) (across : (size.meet raster.size).width ≠ 0)
    (down : (size.meet raster.size).height ≠ 0) :
    let kept := size.meet raster.size
    let chosen := window raster size
    window? raster size = some chosen ∧
      (InBytes raster → Checked.window raster size = .ok chosen) ∧
      chosen.size = kept ∧ chosen.Inside raster.size ∧
      chosen.left.toNat ∈ offsets (spareWidth raster kept) ∧
      chosen.top.toNat ∈ offsets (spareHeight raster kept) ∧
      ∀ left ∈ offsets (spareWidth raster kept), ∀ top ∈ offsets (spareHeight raster kept),
        (left, top) ≠ (chosen.left.toNat, chosen.top.toNat) →
          Preferred raster kept chosen.left.toNat chosen.top.toNat left top := by
  obtain ⟨within, best, first, leftIs, topIs⟩ := exists_firstBest searchable.1 cuts across down
  obtain ⟨onWidth, onHeight, -⟩ := within.appraised first.mem
  refine ⟨window?_of_findable (.inr searchable), checked_window_of_findable (.inr searchable),
    size_window raster size, inside_window raster size, ?_⟩
  rw [leftIs, topIs]
  exact ⟨onWidth, onHeight, fun left atLeft top atTop other =>
    first.preferred within atLeft atTop other⟩

/-- A bright speck in a dull picture. -/
def speck : Raster :=
  { size := ⟨6, 2⟩, colour := .rgb8
    pixels := some #[[20, 20, 20], [20, 20, 20], [20, 20, 20], [20, 20, 20], [255, 30, 30],
      [20, 20, 20], [20, 20, 20], [20, 20, 20], [20, 20, 20], [20, 20, 20], [20, 20, 20],
      [20, 20, 20]] }

theorem inBytes_speck : InBytes speck :=
  inBytes_of_all rfl (by decide +kernel) (by decide +kernel)

/-- Two windows on the speck score the same, and the one that is nearer to the centre is chosen. -/
theorem window_preferred_speck :
    (Searchable speck.size ∧ Size.meet ⟨2, 9⟩ speck.size = ⟨2, 2⟩) ∧
      Checked.window speck ⟨2, 9⟩ = .ok ⟨3, 0, 2, 2⟩ ∧ Preferred speck ⟨2, 2⟩ 3 0 4 0 ∧
        salience speck ⟨2, 2⟩ 3 0 = salience speck ⟨2, 2⟩ 4 0 := by
  have chosen : window speck ⟨2, 9⟩ = ⟨3, 0, 2, 2⟩ := by decide +kernel
  obtain ⟨-, goes, -, -, -, -, preferred⟩ :=
    window_preferred speck ⟨2, 9⟩ (by decide) (by decide) (by decide) (by decide)
  have others := preferred 4 (by decide +kernel) 0 (by decide +kernel)
  rw [chosen] at goes others
  exact ⟨by decide, goes inBytes_speck, others (by decide), by decide +kernel⟩

/-- A grey line of as many pixels as a word can tell. -/
def longLine : Raster :=
  { size := ⟨4294967295, 1⟩, colour := .rgb8
    pixels := some (Array.replicate (Size.area ⟨4294967295, 1⟩) [9, 9, 9]) }

/-- The pixels of the line are counted by a word, but the length of the table's rows is none: the
search for a single pixel ends without a window. -/
theorem window_longLine :
    (longLine.size.area < UInt32.size ∧ Size.meet ⟨1, 1⟩ longLine.size = ⟨1, 1⟩ ∧
        longLine.size ≠ ⟨1, 1⟩) ∧
      Checked.window longLine ⟨1, 1⟩ = .error .overflow ∧ window? longLine ⟨1, 1⟩ = none := by
  have lost : window? longLine ⟨1, 1⟩ = none := by
    unfold window?
    exact if_neg (by decide)
  have bytes : InBytes longLine := inBytes_of_replicate rfl rfl
  refine ⟨by decide, ?_, lost⟩
  rw [checked_window bytes, lost]
  rfl

end Thumbnailer.Saliency
