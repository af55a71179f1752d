/-
This file says what the functions on paths do to components. Whatever a path is written like, with
slashes repeated or at its end, or with single dots between them, its segments are the parts between
slashes, and those that mean nothing come to no component. So what joins paths, cuts them or drops
their last name can be told by components alone: a path of names joined to another adds its
components, the parent of a path lacks the last component, and a path relative to another that it
starts with has the rest of its components.
-/

import Mathlib.Data.List.Basic
import Thumbnailer.Path

namespace Thumbnailer.Path

/-! ### Segments -/

theorem splitSlashes_eq (bytes : Bytes) :
    (splitSlashes bytes).1 :: (splitSlashes bytes).2 = bytes.splitOn 0x2F := by
  induction bytes with
  | nil => rfl
  | cons byte rest inductionHypothesis =>
    rw [splitSlashes, List.splitOn_cons_eq_if_modifyHead, ← inductionHypothesis]
    by_cases slash : byte = 0x2F
    · rw [if_pos slash, if_pos (beq_iff_eq.2 slash)]
    · rw [if_neg slash, if_neg (mt beq_iff_eq.1 slash), List.modifyHead_cons]

theorem joinSegments_eq (segments : List Bytes) :
    joinSegments segments = [0x2F].intercalate segments := by
  fun_induction joinSegments segments with
  | case1 => rfl
  | case2 last => exact List.intercalate_singleton.symm
  | case3 first rest several inductionHypothesis =>
    rw [List.intercalate_cons_of_ne_nil several, inductionHypothesis, List.append_assoc,
      List.singleton_append]

theorem slash_notMem_of_mem_splitOn {bytes segment : Bytes}
    (member : segment ∈ bytes.splitOn 0x2F) : 0x2F ∉ segment := by
  induction bytes generalizing segment with
  | nil =>
    rw [List.splitOn_nil, List.mem_singleton] at member
    rw [member]
    exact List.not_mem_nil
  | cons byte rest inductionHypothesis =>
    obtain ⟨first, others, split⟩ := List.exists_cons_of_ne_nil (List.splitOn_ne_nil 0x2F rest)
    rw [List.splitOn_cons_eq_if_modifyHead, split] at member
    rw [split] at inductionHypothesis
    split_ifs at member with slash
    · rcases List.mem_cons.1 member with rfl | later
      · exact List.not_mem_nil
      · exact inductionHypothesis later
    · rw [List.modifyHead_cons] at member
      rcases List.mem_cons.1 member with rfl | later
      · rw [List.mem_cons, not_or]
        exact ⟨fun same => slash (beq_iff_eq.2 same.symm), inductionHypothesis List.mem_cons_self⟩
      · exact inductionHypothesis (List.mem_cons_of_mem _ later)

/-! ### Components of segments -/

@[simp] theorem componentsOf_nil (leading : Bool) : componentsOf leading [] = [] := rfl

theorem componentsOf_cons_of_void {leading : Bool} {segment : Bytes} (rest : List Bytes)
    (void : isVoid leading segment = true) :
    componentsOf leading (segment :: rest) = componentsOf false rest := by
  rw [componentsOf, if_pos void]

theorem componentsOf_cons_of_solid {leading : Bool} {segment : Bytes} (rest : List Bytes)
    (solid : isVoid leading segment = false) :
    componentsOf leading (segment :: rest) = componentOf segment :: componentsOf false rest := by
  rw [componentsOf, if_neg (by rw [solid]; exact Bool.false_ne_true)]

theorem componentsOf_append (leading : Bool) (before after : List Bytes) :
    componentsOf leading (before ++ after) =
      componentsOf leading before ++ componentsOf (leading && before.isEmpty) after := by
  induction before generalizing leading with
  | nil => rw [List.isEmpty_nil, Bool.and_true]; rfl
  | cons segment rest inductionHypothesis =>
    rw [List.isEmpty_cons, Bool.and_false, List.cons_append, componentsOf, componentsOf,
      inductionHypothesis, Bool.false_and]
    split_ifs <;> rfl

/-- Only a dot in front means something in the leading place alone. -/
theorem componentsOf_true {segments : List Bytes} (noDot : segments.head? ≠ some [0x2E]) :
    componentsOf true segments = componentsOf false segments := by
  cases segments with
  | nil => rfl
  | cons segment rest =>
    have other : segment ≠ [0x2E] := fun same => noDot (congrArg some same)
    unfold componentsOf isVoid
    simp only [other, decide_false, Bool.false_and]

theorem trimEnd_isPrefix (leading : Bool) (segments : List Bytes) :
    trimEnd leading segments <+: segments := by
  induction segments generalizing leading with
  | nil => exact List.prefix_rfl
  | cons segment rest inductionHypothesis =>
    rw [trimEnd]
    split
    · split_ifs
      · exact List.nil_prefix
      · exact List.cons_prefix_cons.2 ⟨rfl, List.nil_prefix⟩
    · exact List.cons_prefix_cons.2 ⟨rfl, inductionHypothesis false⟩

theorem componentsOf_trimEnd (leading : Bool) (segments : List Bytes) :
    componentsOf leading (trimEnd leading segments) = componentsOf leading segments := by
  induction segments generalizing leading with
  | nil => rfl
  | cons segment rest inductionHypothesis =>
    rw [trimEnd]
    have later := inductionHypothesis false
    split
    case h_1 nothing =>
      rw [nothing, componentsOf_nil] at later
      rw [componentsOf, ← later]
      split_ifs with void
      · rfl
      · exact componentsOf_cons_of_solid [] (Bool.eq_false_iff.2 void)
    case h_2 kept _ =>
      rw [componentsOf, later, componentsOf]

/-- Where something is kept, the last that is kept means something. -/
theorem trimEnd_cases (leading : Bool) (segments : List Bytes) :
    trimEnd leading segments = [] ∨ ∃ front last,
      trimEnd leading segments = front ++ [last] ∧
        isVoid (leading && front.isEmpty) last = false := by
  induction segments generalizing leading with
  | nil => exact .inl rfl
  | cons segment rest inductionHypothesis =>
    rw [trimEnd]
    rcases inductionHypothesis false with nothing | ⟨front, last, kept, solid⟩
    · rw [nothing]
      by_cases void : isVoid leading segment = true
      · exact .inl (if_pos void)
      · refine .inr ⟨[], segment, if_neg void, ?_⟩
        rw [List.isEmpty_nil, Bool.and_true]
        exact Bool.eq_false_iff.2 void
    · refine .inr ⟨segment :: front, last, ?_, ?_⟩
      · rw [kept]
        cases front <;> rfl
      · rw [List.isEmpty_cons, Bool.and_false]
        rwa [Bool.false_and] at solid

theorem componentsOf_dropLast_trimEnd (leading : Bool) (segments : List Bytes) :
    componentsOf leading (trimEnd leading segments).dropLast =
      (componentsOf leading segments).dropLast := by
  rw [← componentsOf_trimEnd leading segments]
  rcases trimEnd_cases leading segments with nothing | ⟨front, last, kept, solid⟩
  · rw [nothing]
    rfl
  · rw [kept, List.dropLast_concat, componentsOf_append, componentsOf_cons_of_solid [] solid,
      componentsOf_nil, List.dropLast_concat]

theorem trimEnd_eq_nil_iff (leading : Bool) (segments : List Bytes) :
    trimEnd leading segments = [] ↔ componentsOf leading segments = [] := by
  rw [← componentsOf_trimEnd leading segments]
  constructor
  · intro nothing
    rw [nothing, componentsOf_nil]
  · intro none
    rcases trimEnd_cases leading segments with nothing | ⟨front, last, kept, solid⟩
    · exact nothing
    · rw [kept, componentsOf_append, componentsOf_cons_of_solid [] solid] at none
      cases (List.append_eq_nil_iff.1 none).2

theorem root_notMem_componentsOf (leading : Bool) (segments : List Bytes) :
    .root ∉ componentsOf leading segments := by
  induction segments generalizing leading with
  | nil => exact List.not_mem_nil
  | cons segment rest inductionHypothesis =>
    rw [componentsOf]
    split
    · exact inductionHypothesis false
    · rw [List.mem_cons, not_or]
      refine ⟨?_, inductionHypothesis false⟩
      unfold componentOf
      split_ifs <;> nofun

/-! ### Components of paths -/

theorem segments_eq (path : Path) :
    path.segments = (if path.rooted then path.bytes.drop 1 else path.bytes).splitOn 0x2F :=
  splitSlashes_eq _

theorem slash_notMem_of_mem_segments {path : Path} {segment : Bytes}
    (member : segment ∈ path.segments) : 0x2F ∉ segment := by
  rw [segments_eq] at member
  exact slash_notMem_of_mem_splitOn member

/-- A root comes to an empty segment in front, which means nothing else. -/
theorem components_eq (path : Path) :
    path.components = (if path.rooted then [.root] else []) ++
      componentsOf (!path.rooted) (path.bytes.splitOn 0x2F) := by
  unfold components
  rw [segments_eq]
  congr 1
  cases rooted : path.rooted with
  | false => rfl
  | true =>
    obtain ⟨bytes⟩ := path
    cases bytes with
    | nil => cases rooted
    | cons byte rest =>
      obtain rfl := Option.some.inj (of_decide_eq_true rooted)
      rw [List.splitOn_cons_eq_if_modifyHead, if_pos (beq_self_eq_true _)]
      exact (componentsOf_cons_of_void _ rfl).symm

/-- A path of segments is rooted only as told, unless the first of them is empty. -/
theorem rooted_ofSegments (rooted : Bool) {segments : List Bytes}
    (whole : ∀ segment ∈ segments, 0x2F ∉ segment)
    (solid : rooted = false → segments.head? ≠ some []) :
    (ofSegments rooted segments).rooted = rooted := by
  cases rooted with
  | true => rfl
  | false =>
    refine decide_eq_false fun slash => ?_
    rw [ofSegments, if_neg Bool.false_ne_true, List.nil_append, joinSegments_eq] at slash
    cases segments with
    | nil => cases slash
    | cons first rest =>
      cases first with
      | nil => exact solid rfl rfl
      | cons byte more =>
        rw [List.intercalate_cons_cons_left] at slash
        obtain rfl := Option.some.inj slash
        exact whole _ List.mem_cons_self List.mem_cons_self

/-- The components of a path of segments. -/
theorem components_ofSegments (rooted : Bool) {segments : List Bytes}
    (whole : ∀ segment ∈ segments, 0x2F ∉ segment)
    (solid : rooted = false → segments.head? ≠ some []) :
    (ofSegments rooted segments).components =
      (if rooted then [.root] else []) ++ componentsOf (!rooted) segments := by
  have parts (leading : Bool) : componentsOf leading ((joinSegments segments).splitOn 0x2F) =
      componentsOf leading segments := by
    rw [joinSegments_eq]
    cases segments with
    | nil => exact componentsOf_cons_of_void [] rfl
    | cons first rest => rw [List.splitOn_intercalate _ whole (List.cons_ne_nil _ _)]
  rw [components_eq, rooted_ofSegments rooted whole solid]
  congr 1
  cases rooted with
  | true =>
    show componentsOf false ((0x2F :: joinSegments segments).splitOn 0x2F) = _
    rw [List.splitOn_cons_eq_if_modifyHead, if_pos (beq_self_eq_true _),
      componentsOf_cons_of_void _ rfl, parts]
    rfl
  | false => exact parts true

theorem rooted_iff (path : Path) : path.rooted = true ↔ .root ∈ path.components := by
  unfold components
  cases rooted : path.rooted with
  | true => exact iff_of_true rfl List.mem_cons_self
  | false =>
    refine iff_of_false Bool.false_ne_true fun member => ?_
    exact root_notMem_componentsOf _ _ member

/-! ### Cutting paths -/

/-- A path that is not rooted begins with an empty segment only if it is empty. -/
theorem bytes_of_empty_segment {path : Path} (relative : path.rooted = false)
    (empty : path.segments.head? = some []) : path.bytes = [] := by
  obtain ⟨bytes⟩ := path
  rw [segments_eq, relative, if_neg Bool.false_ne_true] at empty
  cases bytes with
  | nil => rfl
  | cons byte rest =>
    obtain ⟨first, others, split⟩ := List.exists_cons_of_ne_nil (List.splitOn_ne_nil 0x2F rest)
    have other : ¬(byte == 0x2F) = true := fun slash =>
      of_decide_eq_false relative (congrArg some (beq_iff_eq.1 slash))
    rw [List.splitOn_cons_eq_if_modifyHead, if_neg other, split, List.modifyHead_cons] at empty
    cases empty

/-- What is kept of a path that is not rooted does not begin with an empty segment. -/
theorem solid_of_isPrefix {path : Path} {kept : List Bytes}
    (part : kept <+: trimEnd (!path.rooted) path.segments) :
    path.rooted = false → kept.head? ≠ some [] := by
  intro relative empty
  obtain ⟨rest, rfl⟩ := List.head?_eq_some_iff.1 empty
  obtain ⟨more, whole⟩ := part.trans (trimEnd_isPrefix _ _)
  have nothing : path.bytes = [] :=
    bytes_of_empty_segment relative (by rw [← whole]; rfl)
  rw [relative, segments_eq, relative, nothing] at part
  cases List.prefix_nil.1 part

theorem whole_of_isPrefix {path : Path} {kept : List Bytes}
    (part : kept <+: trimEnd (!path.rooted) path.segments) :
    ∀ segment ∈ kept, 0x2F ∉ segment := fun _ member =>
  slash_notMem_of_mem_segments ((part.trans (trimEnd_isPrefix _ _)).subset member)

theorem parent?_of_kept {path : Path} (kept : trimEnd (!path.rooted) path.segments ≠ []) :
    path.parent? = some (ofSegments path.rooted
      (trimEnd (!path.rooted) (trimEnd (!path.rooted) path.segments).dropLast)) := by
  unfold parent?
  split
  case h_1 nothing => exact absurd nothing kept
  case h_2 => rfl

/-- The parent of a path lacks its last component. -/
theorem exists_parent {path : Path} {above : List Component} {last : Component}
    (ends : path.components = above ++ [last]) (below : last ≠ .root) :
    ∃ parent, path.parent? = some parent ∧ parent.components = above := by
  have named : componentsOf (!path.rooted) path.segments ≠ [] := by
    intro nothing
    unfold components at ends
    rw [nothing, List.append_nil] at ends
    split_ifs at ends
    · have same : [Component.root].getLast? = some last := by rw [ends, List.getLast?_concat]
      exact below (Option.some.inj same).symm
    · exact List.append_ne_nil_of_right_ne_nil _ (List.cons_ne_nil _ _) ends.symm
  have kept : trimEnd (!path.rooted) path.segments ≠ [] := mt (trimEnd_eq_nil_iff _ _).1 named
  have part := (trimEnd_isPrefix (!path.rooted)
    (trimEnd (!path.rooted) path.segments).dropLast).trans (List.dropLast_prefix _)
  refine ⟨_, parent?_of_kept kept, ?_⟩
  rw [components_ofSegments _ (whole_of_isPrefix part) (solid_of_isPrefix part),
    componentsOf_trimEnd, componentsOf_dropLast_trimEnd]
  have dropped := congrArg List.dropLast ends
  unfold components at dropped
  rwa [List.dropLast_append_of_ne_nil named, List.dropLast_concat] at dropped

/-! ### Relative paths -/

theorem mem_of_mem_dropComponents {leading : Bool} {count : Nat} {segments : List Bytes}
    {segment : Bytes} (member : segment ∈ dropComponents leading count segments) :
    segment ∈ segments := by
  fun_induction dropComponents leading count segments with
  | case1 => exact member
  | case2 => cases member
  | case3 leading count first rest void inductionHypothesis =>
    exact List.mem_cons_of_mem _ (inductionHypothesis member)
  | case4 leading count first rest solid inductionHypothesis =>
    exact List.mem_cons_of_mem _ (inductionHypothesis member)

theorem componentsOf_dropComponents (leading : Bool) {count : Nat} (segments : List Bytes)
    (later : leading = true → count ≠ 0) :
    componentsOf false (dropComponents leading count segments) =
      (componentsOf leading segments).drop count := by
  fun_induction dropComponents leading count segments with
  | case1 leading segments =>
    cases leading with
    | true => exact absurd rfl (later rfl)
    | false => rfl
  | case2 => rfl
  | case3 leading count first rest void inductionHypothesis =>
    rw [inductionHypothesis (fun _ => Nat.succ_ne_zero _), componentsOf_cons_of_void rest void]
  | case4 leading count first rest solid inductionHypothesis =>
    rw [inductionHypothesis nofun, componentsOf_cons_of_solid rest (Bool.eq_false_iff.2 solid),
      List.drop_succ_cons]

theorem componentsOf_dropWhile (segments : List Bytes) :
    componentsOf false (segments.dropWhile (isVoid false)) = componentsOf false segments := by
  induction segments with
  | nil => rfl
  | cons segment rest inductionHypothesis =>
    rw [List.dropWhile_cons]
    split
    case isTrue void => rw [inductionHypothesis, componentsOf_cons_of_void rest void]
    case isFalse => rfl

/-- A path made of segments that begin with one that means something. -/
theorem components_relative {segments : List Bytes} (whole : ∀ segment ∈ segments, 0x2F ∉ segment) :
    (ofSegments false (trimEnd false (segments.dropWhile (isVoid false)))).components =
      componentsOf false segments := by
  have part := trimEnd_isPrefix false (segments.dropWhile (isVoid false))
  have head (void : Bytes) (is : isVoid false void = true) :
      (trimEnd false (segments.dropWhile (isVoid false))).head? ≠ some void := by
    intro found
    obtain ⟨rest, kept⟩ := List.head?_eq_some_iff.1 found
    obtain ⟨more, all⟩ := part
    have first := List.head?_dropWhile_not (isVoid false) segments
    rw [← all, kept, List.cons_append, List.head?_cons] at first
    exact Bool.false_ne_true (first.symm.trans is)
  rw [components_ofSegments, Bool.not_false, componentsOf_true (head _ rfl), componentsOf_trimEnd,
    componentsOf_dropWhile]
  · rfl
  · intro segment member
    exact whole segment ((List.dropWhile_sublist _).subset (part.subset member))
  · exact fun _ => head _ rfl

/-- A path that starts with another is the rest of its components from there. -/
theorem exists_relative {path base : Path} {rest : List Component}
    (starts : path.components = base.components ++ rest) :
    ∃ relative, path.relativeTo? base = some relative ∧ relative.components = rest := by
  unfold relativeTo?
  by_cases given : base.components = []
  · refine ⟨_, if_pos (by rw [given]; rfl), ?_⟩
    rw [components_ofSegments _ (whole_of_isPrefix List.prefix_rfl)
        (solid_of_isPrefix List.prefix_rfl),
      componentsOf_trimEnd]
    rw [given, List.nil_append] at starts
    exact starts
  · have here : base.components.isPrefixOf path.components = true :=
      List.isPrefixOf_iff_prefix.2 ⟨rest, starts.symm⟩
    refine ⟨_, (if_neg (mt List.isEmpty_iff.1 given)).trans (if_pos here), ?_⟩
    rw [components_relative fun _ member =>
      slash_notMem_of_mem_segments (mem_of_mem_dropComponents member)]
    have dropped : path.components.drop base.components.length = rest := by
      rw [starts, List.drop_left]
    have some : base.components.length ≠ 0 := mt List.length_eq_zero_iff.1 given
    have parts : path.components = (if path.rooted then [.root] else []) ++
      componentsOf (!path.rooted) path.segments := rfl
    rw [parts] at dropped
    cases rooted : path.rooted with
    | true =>
      -- The root is the first of the components, and it is no segment.
      rw [Bool.not_true, componentsOf_dropComponents false _ nofun, if_pos rfl]
      rw [rooted, if_pos rfl, List.singleton_append, ← Nat.succ_pred_eq_of_ne_zero some,
        List.drop_succ_cons] at dropped
      exact dropped
    | false =>
      rw [Bool.not_false, if_neg Bool.false_ne_true,
        componentsOf_dropComponents true _ fun _ => some]
      rw [rooted, if_neg Bool.false_ne_true, List.nil_append] at dropped
      exact dropped

/-! ### Joined paths -/

theorem splitOn_concat_slash (bytes : Bytes) (leading : Bool) :
    componentsOf leading ((bytes ++ [0x2F]).splitOn 0x2F) =
      componentsOf leading (bytes.splitOn 0x2F) := by
  rw [List.splitOn_append_cons_self, List.splitOn_nil, componentsOf_append]
  exact (congrArg _ (componentsOf_cons_of_void [] rfl)).trans (List.append_nil _)

/-- Bytes after a slash add the components they have in no leading place. -/
theorem components_slash (bytes next : Bytes) {joined : Path}
    (is : joined.bytes = bytes ++ 0x2F :: next) :
    joined.components = components { bytes := bytes ++ [0x2F] } ++
      componentsOf false (next.splitOn 0x2F) := by
  have sameRoot : joined.rooted = rooted { bytes := bytes ++ [0x2F] } := by
    unfold rooted
    rw [is]
    cases bytes <;> rfl
  rw [components_eq joined, components_eq { bytes := bytes ++ [0x2F] }, sameRoot, is,
    splitOn_concat_slash, List.splitOn_append_cons_self, componentsOf_append,
    List.isEmpty_eq_false_iff.2 (List.splitOn_ne_nil 0x2F bytes), Bool.and_false, List.append_assoc]

/-- A slash at the end of a path means nothing, unless it is the root. -/
theorem components_concat_slash {path : Path} (written : path.bytes ≠ []) :
    components { bytes := path.bytes ++ [0x2F] } = path.components := by
  have sameRoot : rooted { bytes := path.bytes ++ [0x2F] } = path.rooted := by
    unfold rooted
    rw [List.head?_append_of_ne_nil _ written]
  rw [components_eq, components_eq path, sameRoot, splitOn_concat_slash]

/-- A path that begins with a name adds its components to the path it is joined to. -/
theorem components_join {path next : Path} (relative : .root ∉ next.components)
    (noDot : .current ∉ next.components) :
    (path.join next).components = path.components ++ next.components := by
  have unrooted : next.rooted = false := Bool.eq_false_iff.2 (mt next.rooted_iff.1 relative)
  have later : next.components = componentsOf false (next.bytes.splitOn 0x2F) := by
    have whole := components_eq next
    rw [unrooted, if_neg Bool.false_ne_true, List.nil_append] at whole
    rw [whole] at noDot ⊢
    refine componentsOf_true fun dot => noDot ?_
    obtain ⟨rest, split⟩ := List.head?_eq_some_iff.1 dot
    rw [split]
    exact List.mem_cons_self
  unfold join
  rw [if_neg (by rw [unrooted]; exact Bool.false_ne_true)]
  by_cases written : path.bytes = []
  · rw [if_pos (by rw [written]; rfl)]
    have nothing : path.components = [] := by
      rw [components_eq, rooted, written]
      rfl
    obtain ⟨bytes⟩ := next
    rw [nothing, written]
    rfl
  · by_cases closed : path.bytes.getLast? = some 0x2F
    · obtain ⟨front, ends⟩ := List.getLast?_eq_some_iff.1 closed
      rw [if_pos (by rw [closed]; exact Bool.or_true _), later,
        components_slash front next.bytes (by rw [ends, List.append_assoc]; rfl), ← ends]
    · have notEmpty : path.bytes.isEmpty = false := List.isEmpty_eq_false_iff.2 written
      rw [if_neg (by rw [notEmpty, decide_eq_false closed]; exact Bool.false_ne_true), later,
        components_slash path.bytes next.bytes rfl, components_concat_slash written]

/-! ### Names -/

theorem fileName?_of_components {path : Path} {above : List Component} {name : Bytes}
    (ends : path.components = above ++ [.name name]) : path.fileName? = some name := by
  unfold fileName?
  rw [ends, List.getLast?_concat]

theorem mem_of_mem_componentsOf {leading : Bool} {segments : List Bytes} {name : Bytes}
    (member : .name name ∈ componentsOf leading segments) : name ∈ segments := by
  induction segments generalizing leading with
  | nil => cases member
  | cons segment rest inductionHypothesis =>
    rw [componentsOf] at member
    split_ifs at member with void
    · exact List.mem_cons_of_mem _ (inductionHypothesis member)
    · rcases List.mem_cons.1 member with first | later
      · unfold componentOf at first
        split_ifs at first
        rw [Component.name.inj first]
        exact List.mem_cons_self
      · exact List.mem_cons_of_mem _ (inductionHypothesis later)

theorem slash_notMem_of_name {path : Path} {name : Bytes} (member : .name name ∈ path.components) :
    0x2F ∉ name := by
  rw [components_eq] at member
  rcases List.mem_append.1 member with root | named
  · split_ifs at root
    · cases List.mem_singleton.1 root
    · cases root
  · exact slash_notMem_of_mem_splitOn (mem_of_mem_componentsOf named)

/-- Bytes without a slash that are neither empty nor dots are a path of one name. -/
theorem components_of_name {name : Bytes} (whole : 0x2F ∉ name) (something : name ≠ [])
    (notDot : name ≠ [0x2E]) (notDots : name ≠ [0x2E, 0x2E]) :
    components { bytes := name } = [.name name] := by
  have unrooted : rooted { bytes := name } = false :=
    decide_eq_false fun slash => whole (List.mem_of_head? slash)
  have solid : isVoid true name = false := by
    unfold isVoid
    rw [List.isEmpty_eq_false_iff.2 something, decide_eq_false notDot]
    rfl
  rw [components_eq, unrooted, List.splitOn_eq_singleton whole]
  refine (componentsOf_cons_of_solid [] solid).trans ?_
  unfold componentOf
  rw [if_neg notDot, if_neg notDots, componentsOf_nil]

theorem mem_of_mem_stem {name : Bytes} {byte : UInt8}
    (member : byte ∈ (splitName name).1.getD name) : byte ∈ name := by
  unfold splitName at member
  dsimp only at member
  split at member
  case h_1 => exact member
  case h_2 => exact member
  case h_3 dot before _ split =>
    have part : (name.reverse.dropWhile (· ≠ 0x2E)).Sublist name.reverse := List.dropWhile_sublist _
    rw [split] at part
    replace part := part.subset
    exact List.mem_reverse.1 (part (List.mem_cons_of_mem _ (List.mem_reverse.1 member)))

end Thumbnailer.Path
