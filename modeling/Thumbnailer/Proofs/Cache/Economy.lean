/-
This file shows how much work a decode is, and what it leaves behind. The codec reads only if
neither the image that is wished for nor the same image at full size is in the cache. One key is
looked up if the image is there or is wished for at full size, and two otherwise; each is a hit if
it was there before the decode, and a miss if it was not. A decode that fails leaves everything as
it was but for the misses. One that succeeds leaves its image in the cache, if the image fits the
memory budget, so that the same decode once more is a single hit.

A reduced image is made of the one at full size, which goes through the same cache. Storing that one
may push out others, but by then both keys have been looked up, and the reduced image is stored
after it. So what a decode finds can be told from the cache as it was before, and what it leaves
from its last step alone. That the counts grow by what is looked up in between holds of every
procedure; it is shown for a step, and for a run by induction on the procedure.
-/

import Thumbnailer.Proofs.Cache.Statistics
import Thumbnailer.Proofs.Cache.Transparency
import Thumbnailer.Proofs.Conversation

namespace Thumbnailer

open Procedure

/-! ### What an engine comes to -/

namespace SharedState

/-- What an engine comes to: it starts, and then workers take steps of any kind, in any order. -/
inductive Reachable (codec : Codec) (settings : EngineSettings) : SharedState → Prop
  | start {state : SharedState} (started : settings.start = .ok state) :
      Reachable codec settings state
  | step {state : SharedState} (reachable : Reachable codec settings state)
      (request : WorkerStep) : Reachable codec settings (SharedState.step codec request state).2

/-- The state after so many more hits and misses. -/
def counting (state : SharedState) (hits misses : Nat) : SharedState :=
  { state with
    cache := { state.cache with statistics := state.cache.statistics.counting hits misses } }

theorem counting_counting (state : SharedState) (hits misses moreHits moreMisses : Nat) :
    (state.counting hits misses).counting moreHits moreMisses =
      state.counting (hits + moreHits) (misses + moreMisses) := by
  simp only [counting, CacheStatistics.counting_counting]

variable {codec : Codec} {settings : EngineSettings} {state : SharedState}

theorem step_lookup_of_held (codec : Codec) {key : String} {stored : Stored Canvas}
    (held : state.cache.entries[key]? = some stored) :
    step codec (.lookup key) state = (some stored.value, state.counting 1 0) := by
  simp only [step, Cache.lookup_of_held held, counting]

theorem step_lookup_of_absent (codec : Codec) {key : String} (absent : key ∉ state.cache.entries) :
    step codec (.lookup key) state = (none, state.counting 0 1) := by
  simp only [step, Cache.lookup_of_absent (Std.HashMap.getElem?_eq_none absent), counting]

namespace Reachable

theorem run {Result : Type} (reachable : Reachable codec settings state)
    (procedure : Procedure WorkerAccess Result) :
    Reachable codec settings (procedure.run (SharedState.step codec) state).2 := by
  induction procedure generalizing state with
  | done result => exact reachable
  | ask request next inductionHypothesis => exact inductionHypothesis _ (reachable.step request)

theorem missing (reachable : Reachable codec settings state) {key : String}
    (absent : key ∉ state.cache.entries) : Reachable codec settings (state.counting 0 1) := by
  have later := reachable.step (.lookup key)
  rw [step_lookup_of_absent codec absent] at later
  exact later

/-- The parts of the cache are those of one queue, under the budgets that the engine was set up
with, and one image at least may be stored. -/
theorem represents (reachable : Reachable codec settings state) :
    1 ≤ settings.cacheEntries.toNat ∧
      ∃ queue, Cache.Represents settings.cacheMemory settings.cacheEntries.toNat queue
        state.cache := by
  induction reachable with
  | start started =>
    unfold EngineSettings.start at started
    split at started
    · cases started
    · rename_i budgets
      cases started
      refine ⟨Nat.one_le_iff_ne_zero.mpr fun none => budgets (.inr ?_), [],
        Cache.represents_empty _ _⟩
      exact UInt64.toNat_inj.mp none
  | step reachable request inductionHypothesis =>
    obtain ⟨counted, queue, represents⟩ := inductionHypothesis
    refine ⟨counted, ?_⟩
    cases request with
    | lookup key => exact represents.perform (.lookup key)
    | store key canvas size => exact represents.perform (.insert key canvas size)
    | release => exact represents.perform .clear
    | fresh | now | read | write | reduce | resample => exact ⟨queue, represents⟩

/-- An image that fits the memory budget is in the cache once it has been stored. -/
theorem held_store (reachable : Reachable codec settings state) (key : String) (canvas : Canvas)
    {size : UInt64} (small : size ≤ settings.cacheMemory) :
    (SharedState.step codec (.store key canvas size) state).2.cache.entries[key]? =
      some ⟨canvas, size⟩ := by
  obtain ⟨counted, queue, represents⟩ := reachable.represents
  have stored := represents.insert_of_accepted key canvas
    ((represents.accepts_iff size).mpr ⟨small, counted⟩)
  exact (stored.held_iff _ _).mpr (List.mem_append_right _ (List.mem_singleton_self _))

end Reachable

end SharedState

/-! ### What is counted -/

section Counts

variable {codec : Codec} {settings : EngineSettings} {state : SharedState}

/-- The key that is looked up in an exchange, and whether an image is found under it. -/
def keySought : Exchange WorkerAccess → Option (String × Bool)
  | ⟨.lookup key, found⟩ => some (key, Option.isSome found)
  | _ => none

/-- What the codec reads in an exchange. -/
def dataRead : Exchange WorkerAccess → Option (Bytes × Format)
  | ⟨.read data format, _⟩ => some (data, format)
  | _ => none

namespace SharedState.Reachable

/-- A step counts what is looked up in it. -/
theorem statistics_step (reachable : state.Reachable codec settings) (request : WorkerStep) :
    let seen := [(⟨request, (SharedState.step codec request state).1⟩ :
      Exchange WorkerAccess)].filterMap keySought
    let later := (SharedState.step codec request state).2.cache.statistics
    later.hits = state.cache.statistics.hits + UInt64.ofNat (seen.countP Prod.snd) ∧
      later.misses = state.cache.statistics.misses +
        UInt64.ofNat (seen.countP fun one => !one.2) := by
  have same : ∀ word : UInt64, word = word + UInt64.ofNat 0 := fun word =>
    (UInt64.add_zero word).symm
  cases request with
  | lookup key =>
    cases held : state.cache.entries[key]? with
    | some stored =>
      rw [step_lookup_of_held codec held]
      exact ⟨rfl, rfl⟩
    | none =>
      rw [step_lookup_of_absent codec ((getElem?_eq_none_iff _ _).mp held)]
      exact ⟨rfl, rfl⟩
  | store key canvas size =>
    obtain ⟨counted, queue, represents⟩ := reachable.represents
    have stored := represents.accounted_insert key canvas size
    exact ⟨stored.hits, stored.misses⟩
  | release => exact ⟨same _, same _⟩
  | fresh | now | read | write | reduce | resample => exact ⟨same _, same _⟩

/-- A run counts what is looked up in its course. -/
theorem statistics_run {Result : Type} (reachable : state.Reachable codec settings)
    (procedure : Procedure WorkerAccess Result) :
    let seen := (transcript (SharedState.step codec) procedure state).filterMap keySought
    let later := (Procedure.run (SharedState.step codec) procedure state).2.cache.statistics
    later.hits = state.cache.statistics.hits + UInt64.ofNat (seen.countP Prod.snd) ∧
      later.misses = state.cache.statistics.misses +
        UInt64.ofNat (seen.countP fun one => !one.2) := by
  induction procedure generalizing state with
  | done result => exact ⟨(UInt64.add_zero _).symm, (UInt64.add_zero _).symm⟩
  | ask request next inductionHypothesis =>
    obtain ⟨firstHits, firstMisses⟩ := reachable.statistics_step request
    obtain ⟨restHits, restMisses⟩ := inductionHypothesis _ (reachable.step request)
    rw [transcript, ← List.singleton_append, List.filterMap_append]
    intro seen later
    rw [List.countP_append, List.countP_append, UInt64.ofNat_add, UInt64.ofNat_add,
      ← UInt64.add_assoc, ← UInt64.add_assoc, ← firstHits, ← firstMisses]
    exact ⟨restHits, restMisses⟩

end SharedState.Reachable

end Counts

/-! ### The course of a decode -/

namespace Wish

/-- The decode that is wished for. -/
abbrev decode (wish : Wish) : Pixels.Attempt Canvas :=
  Pixels.decode wish.data wish.format wish.shrink

/-- The keys that are looked up: that of the image, and if this is a reduced one that is not there,
that of the image at full size. -/
def lookups (wish : Wish) (state : SharedState) : List String :=
  if wish.shrink ≤ 1 ∨ wish.effective.key ∈ state.cache.entries then
    [wish.effective.key]
  else
    [wish.effective.key, wish.full.key]

theorem effective_full (wish : Wish) : wish.full.effective = wish.full :=
  if_pos (UInt32.le_refl 1)

variable {codec : Codec} {settings : EngineSettings} {state : SharedState} {wish : Wish}

theorem key_effective_of_le (small : wish.shrink ≤ 1) :
    wish.effective.key = Cache.key wish.data wish.format 1 := by
  rw [effective, if_pos small]
  rfl

theorem key_effective_of_not_le (reduced : ¬wish.shrink ≤ 1) :
    wish.effective.key = Cache.key wish.data wish.format wish.shrink := by
  rw [effective, if_neg reduced]
  rfl

/-- How a decode can end. -/
inductive Ending (codec : Codec) (settings : EngineSettings) (state : SharedState) (wish : Wish) :
    Except EngineError Canvas × SharedState → Prop
  /-- The image is in the cache, which is counted as a hit. -/
  | found {stored : Stored Canvas}
      (held : state.cache.entries[wish.effective.key]? = some stored) :
      Ending codec settings state wish (.ok stored.value, state.counting 1 0)
  /-- The codec fails, and what was looked up is counted as missed. -/
  | refused {detail : String} (absent : wish.effective.key ∉ state.cache.entries)
      (fullAbsent : wish.full.key ∉ state.cache.entries)
      (fails : codec.decode wish.data wish.format = .error detail) :
      Ending codec settings state wish
        (.error (.decode detail), state.counting 0 (if wish.shrink ≤ 1 then 1 else 2))
  /-- The image is made, and is stored last. -/
  | made {canvas : Canvas} {before : SharedState}
      (absent : wish.effective.key ∉ state.cache.entries)
      (possible : wish.full.key ∈ state.cache.entries ∨
        ∃ decoded, codec.decode wish.data wish.format = .ok decoded)
      (reachable : before.Reachable codec settings) :
      Ending codec settings state wish
        (.ok canvas, (SharedState.step codec (.store wish.effective.key canvas
          (UInt64.ofNat canvas.raster.byteCount)) before).2)

namespace Ending

variable {ended : Except EngineError Canvas × SharedState}

/-- Nothing but the codec makes a decode fail, and then only misses are counted. -/
theorem refusal (ending : Ending codec settings state wish ended) {failure : EngineError}
    (failed : ended.1 = .error failure) :
    (wish.effective.key ∉ state.cache.entries ∧ wish.full.key ∉ state.cache.entries ∧
        ∃ detail, codec.decode wish.data wish.format = .error detail ∧ failure = .decode detail) ∧
      ended.2 = state.counting 0 (if wish.shrink ≤ 1 then 1 else 2) := by
  cases ending with
  | found held => cases failed
  | refused absent fullAbsent fails =>
    cases failed
    exact ⟨⟨absent, fullAbsent, _, fails, rfl⟩, rfl⟩
  | made absent possible reachable => cases failed

/-- An image is in the cache, is made of one that is there, or is read by the codec. -/
theorem possible (ending : Ending codec settings state wish ended) {canvas : Canvas}
    (succeeded : ended.1 = .ok canvas) :
    wish.effective.key ∈ state.cache.entries ∨ wish.full.key ∈ state.cache.entries ∨
      ∃ decoded, codec.decode wish.data wish.format = .ok decoded := by
  cases ending with
  | found held => exact .inl (getElem?_eq_some_iff.mp held).1
  | refused absent fullAbsent fails => cases succeeded
  | made absent possible reachable => exact .inr possible

/-- An image that fits the memory budget is in the cache afterwards. -/
theorem stays (ending : Ending codec settings state wish ended) {canvas : Canvas}
    (succeeded : ended.1 = .ok canvas)
    (small : canvas.raster.byteCount ≤ settings.cacheMemory.toNat) :
    ∃ size, ended.2.cache.entries[wish.effective.key]? = some ⟨canvas, size⟩ := by
  cases ending with
  | @found stored held =>
    cases succeeded
    exact ⟨stored.size, held⟩
  | refused absent fullAbsent fails => cases succeeded
  | made absent possible reachable =>
    cases succeeded
    refine ⟨_, reachable.held_store _ canvas (UInt64.le_iff_toNat_le.mpr ?_)⟩
    rw [UInt64.toNat_ofNat_of_lt' (small.trans_lt settings.cacheMemory.toNat_lt)]
    exact small

/-- The failure to read the image at full size is handed on. -/
theorem refused_reduced {failure : EngineError} {later : SharedState}
    (ending : Ending codec settings (state.counting 0 1) wish.full (.error failure, later))
    (absent : wish.effective.key ∉ state.cache.entries) (reduced : ¬wish.shrink ≤ 1) :
    Ending codec settings state wish (.error failure, later) := by
  obtain ⟨⟨-, fullAbsent, detail, fails, rfl⟩, rfl⟩ := ending.refusal rfl
  have refused : Ending codec settings state wish _ := .refused absent fullAbsent fails
  rw [if_neg reduced] at refused
  have once : (if wish.full.shrink ≤ 1 then 1 else 2) = 1 := if_pos (UInt32.le_refl 1)
  rw [once, SharedState.counting_counting]
  exact refused

/-- Pixels that come out for a wish are put into a buffer and stored. -/
theorem of_pixels {before : SharedState} (absent : wish.effective.key ∉ state.cache.entries)
    (possible : wish.full.key ∈ state.cache.entries ∨
      ∃ decoded, codec.decode wish.data wish.format = .ok decoded)
    (reachable : before.Reachable codec settings) (raster : Raster) (orientation : UInt8) :
    Ending codec settings state wish (run (SharedState.step codec)
      ((Pixels.own raster orientation).bind (Pixels.remember wish.effective.key)) before) :=
  .made absent possible (reachable.step .fresh)

end Ending

/-- What is said in a decode, and how it ends. -/
structure Course (codec : Codec) (settings : EngineSettings) (state : SharedState) (wish : Wish)
    (talk : List (Exchange WorkerAccess)) (ended : Except EngineError Canvas × SharedState) :
    Prop where
  sought : talk.filterMap keySought =
    (wish.lookups state).map fun key => (key, decide (key ∈ state.cache.entries))
  read : talk.filterMap dataRead =
    if wish.effective.key ∈ state.cache.entries ∨ wish.full.key ∈ state.cache.entries then []
    else [(wish.data, wish.format)]
  ending : Ending codec settings state wish ended

/-- An image that is there is found by one lookup. -/
theorem decode_of_held (codec : Codec) {stored : Stored Canvas}
    (held : state.cache.entries[wish.effective.key]? = some stored) :
    transcript (SharedState.step codec) wish.decode state =
        [⟨.lookup wish.effective.key, some stored.value⟩] ∧
      run (SharedState.step codec) wish.decode state = (.ok stored.value, state.counting 1 0) := by
  have looked := SharedState.step_lookup_of_held codec held
  rw [decode, Pixels.decode]
  split
  · rename_i small
    rw [Pixels.decodeFull, ← key_effective_of_le small]
    simp only [transcript, run, looked, and_self]
  · rename_i reduced
    rw [← key_effective_of_not_le reduced]
    simp only [transcript, run, looked, and_self]

theorem course_of_held {stored : Stored Canvas}
    (held : state.cache.entries[wish.effective.key]? = some stored) :
    Course codec settings state wish (transcript (SharedState.step codec) wish.decode state)
      (run (SharedState.step codec) wish.decode state) := by
  obtain ⟨talk, ended⟩ := decode_of_held codec held
  have member : wish.effective.key ∈ state.cache.entries := (getElem?_eq_some_iff.mp held).1
  rw [talk, ended]
  refine ⟨?_, ?_, .found held⟩
  · rw [lookups, if_pos (.inr member), List.map_singleton, decide_eq_true member]
    rfl
  · rw [if_pos (.inl member)]
    rfl

/-- An image at full size that is not there is read. -/
theorem course_of_absent (reachable : state.Reachable codec settings) (small : wish.shrink ≤ 1)
    (absent : wish.effective.key ∉ state.cache.entries) :
    Course codec settings state wish (transcript (SharedState.step codec) wish.decode state)
      (run (SharedState.step codec) wish.decode state) := by
  have fullAbsent : wish.full.key ∉ state.cache.entries := by
    rw [effective, if_pos small] at absent
    exact absent
  have keys : [(wish.effective.key, false)] = (wish.lookups state).map fun key =>
      (key, decide (key ∈ state.cache.entries)) := by
    rw [lookups, if_pos (.inl small), List.map_singleton, decide_eq_false absent]
  have data : [(wish.data, wish.format)] = if wish.effective.key ∈ state.cache.entries ∨
      wish.full.key ∈ state.cache.entries then [] else [(wish.data, wish.format)] :=
    (if_neg fun present => present.elim absent fullAbsent).symm
  have looked := SharedState.step_lookup_of_absent codec absent
  rw [decode, Pixels.decode, if_pos small, Pixels.decodeFull, ← key_effective_of_le small]
  simp only [transcript, run, looked]
  cases reads : codec.decode wish.data wish.format with
  | error detail =>
    have ending : Ending codec settings state wish _ := .refused absent fullAbsent reads
    rw [if_pos small] at ending
    simp only [SharedState.step, reads]
    exact ⟨keys, data, ending⟩
  | ok decoded =>
    have ending := Ending.of_pixels absent (.inr ⟨decoded, reads⟩) (reachable.missing absent)
      decoded.raster decoded.orientation
    simp only [SharedState.step, reads]
    exact ⟨keys, data, ending⟩

theorem course_full (reachable : state.Reachable codec settings) (wish : Wish) :
    Course codec settings state wish.full
      (transcript (SharedState.step codec) (Pixels.decodeFull wish.data wish.format) state)
      (run (SharedState.step codec) (Pixels.decodeFull wish.data wish.format) state) := by
  cases held : state.cache.entries[wish.full.effective.key]? with
  | some stored => exact course_of_held held
  | none =>
    have absent := (getElem?_eq_none_iff _ _).mp held
    exact course_of_absent reachable (UInt32.le_refl 1) absent

/-- A reduced image that is not there is looked up, and then the one at full size is. -/
theorem Course.sought_reduced {talk : List (Exchange WorkerAccess)}
    {ended : Except EngineError Canvas × SharedState}
    (course : Course codec settings (state.counting 0 1) wish.full talk ended)
    (absent : wish.effective.key ∉ state.cache.entries) (reduced : ¬wish.shrink ≤ 1) :
    (wish.effective.key, false) :: talk.filterMap keySought =
      (wish.lookups state).map fun key => (key, decide (key ∈ state.cache.entries)) := by
  rw [course.sought, lookups, lookups, if_pos (.inl (UInt32.le_refl 1)),
    if_neg (not_or.mpr ⟨reduced, absent⟩), effective_full, List.map_cons, List.map_cons,
    decide_eq_false absent]
  rfl

theorem Course.read_reduced {talk : List (Exchange WorkerAccess)}
    {ended : Except EngineError Canvas × SharedState}
    (course : Course codec settings (state.counting 0 1) wish.full talk ended)
    (absent : wish.effective.key ∉ state.cache.entries) :
    talk.filterMap dataRead =
      if wish.effective.key ∈ state.cache.entries ∨ wish.full.key ∈ state.cache.entries then []
      else [(wish.data, wish.format)] := by
  rw [course.read, effective_full]
  exact if_congr (or_self_iff.trans (or_iff_right absent).symm) rfl rfl

theorem filterMap_append_silent {Element Seen : Type} {see : Element → Option Seen}
    {talk rest : List Element} (silent : rest.filterMap see = []) :
    (talk ++ rest).filterMap see = talk.filterMap see := by
  rw [List.filterMap_append, silent, List.append_nil]

/-- A reduced image that is not there is made of the one at full size. -/
theorem course_of_reduced (reachable : state.Reachable codec settings) (reduced : ¬wish.shrink ≤ 1)
    (absent : wish.effective.key ∉ state.cache.entries) :
    Course codec settings state wish (transcript (SharedState.step codec) wish.decode state)
      (run (SharedState.step codec) wish.decode state) := by
  have looked := SharedState.step_lookup_of_absent codec absent
  have reached := reachable.missing absent
  have later := reached.run (Pixels.decodeFull wish.data wish.format)
  have whole := course_full reached wish
  have keys := whole.sought_reduced absent reduced
  have data := whole.read_reduced absent
  have ending := whole.ending
  rw [decode, Pixels.decode, if_neg reduced, ← key_effective_of_not_le reduced]
  simp only [transcript, run, looked]
  rw [transcript_bind, run_bind]
  -- The run at full size is only named from here on: no step below may compute a digest.
  generalize run (SharedState.step codec) (Pixels.decodeFull wish.data wish.format)
    (state.counting 0 1) = ended at later ending ⊢
  generalize transcript (SharedState.step codec) (Pixels.decodeFull wish.data wish.format)
    (state.counting 0 1) = talk at keys data ⊢
  obtain ⟨answer, next⟩ := ended
  refine ⟨?_, ?_, ?_⟩
  · rw [List.filterMap_cons, filterMap_append_silent]
    · exact keys
    · cases answer <;> rfl
  · rw [List.filterMap_cons, filterMap_append_silent]
    · exact data
    · cases answer <;> rfl
  · cases answer with
    | error failure => exact ending.refused_reduced absent reduced
    | ok canvas =>
      have possible := ending.possible rfl
      rw [effective_full] at possible
      exact .of_pixels absent (possible.elim .inl id) later _ _

theorem course_decode (reachable : state.Reachable codec settings) (wish : Wish) :
    Course codec settings state wish (transcript (SharedState.step codec) wish.decode state)
      (run (SharedState.step codec) wish.decode state) := by
  cases held : state.cache.entries[wish.effective.key]? with
  | some stored => exact course_of_held held
  | none =>
    have absent := (getElem?_eq_none_iff _ _).mp held
    by_cases small : wish.shrink ≤ 1
    · exact course_of_absent reachable small absent
    · exact course_of_reduced reachable small absent

/-! ### What a decode costs -/

/-- A decode does no more work than it has to, counts its lookups, leaves no other trace if it
fails, and leaves its image if it succeeds. -/
structure Economical (codec : Codec) (settings : EngineSettings) (state : SharedState)
    (wish : Wish) : Prop where
  reads : (transcript (SharedState.step codec) wish.decode state).filterMap dataRead =
    if wish.effective.key ∈ state.cache.entries ∨ wish.full.key ∈ state.cache.entries then []
    else [(wish.data, wish.format)]
  seeks : (transcript (SharedState.step codec) wish.decode state).filterMap keySought =
    (wish.lookups state).map fun key => (key, decide (key ∈ state.cache.entries))
  hits : (run (SharedState.step codec) wish.decode state).2.cache.statistics.hits =
    state.cache.statistics.hits +
      UInt64.ofNat ((wish.lookups state).countP (· ∈ state.cache.entries))
  misses : (run (SharedState.step codec) wish.decode state).2.cache.statistics.misses =
    state.cache.statistics.misses +
      UInt64.ofNat ((wish.lookups state).countP (· ∉ state.cache.entries))
  fails_iff : ∀ failure, (run (SharedState.step codec) wish.decode state).1 = .error failure ↔
    wish.effective.key ∉ state.cache.entries ∧ wish.full.key ∉ state.cache.entries ∧
      ∃ detail, codec.decode wish.data wish.format = .error detail ∧ failure = .decode detail
  /-- Entries, order, memory and evictions stay as they were. -/
  keeps : ∀ failure, (run (SharedState.step codec) wish.decode state).1 = .error failure →
    (run (SharedState.step codec) wish.decode state).2 =
      state.counting 0 (if wish.shrink ≤ 1 then 1 else 2)
  again : ∀ canvas, (run (SharedState.step codec) wish.decode state).1 = .ok canvas →
    canvas.raster.byteCount ≤ settings.cacheMemory.toNat →
    let later := (run (SharedState.step codec) wish.decode state).2
    transcript (SharedState.step codec) wish.decode later =
        [⟨.lookup wish.effective.key, some canvas⟩] ∧
      run (SharedState.step codec) wish.decode later = (.ok canvas, later.counting 1 0)

theorem economical_decode (reachable : state.Reachable codec settings) (wish : Wish) :
    Economical codec settings state wish := by
  obtain ⟨sought, read, ending⟩ := course_decode reachable wish
  obtain ⟨hits, misses⟩ := reachable.statistics_run wish.decode
  rw [sought, List.countP_map] at hits misses
  refine ⟨read, sought, hits, ?_, fun failure => ⟨fun failed => (ending.refusal failed).1, ?_⟩,
    fun failure failed => (ending.refusal failed).2, ?_⟩
  · simpa only [Function.comp_def, decide_not] using misses
  · rintro ⟨absent, fullAbsent, detail, fails, rfl⟩
    cases answer : (run (SharedState.step codec) wish.decode state).1 with
    | error failure =>
      obtain ⟨-, -, other, same, rfl⟩ := (ending.refusal answer).1
      rw [fails] at same
      cases same
      rfl
    | ok canvas =>
      have possible := ending.possible answer
      rw [fails] at possible
      simp [absent, fullAbsent] at possible
  · intro canvas succeeded small later
    obtain ⟨size, held⟩ := ending.stays succeeded small
    exact decode_of_held codec held

/-- An image is read at full size, and then wished for at half size. -/
theorem economical_decode_reduced :
    let full : Wish := ⟨Crew.sampleData, .png, 1⟩
    let before := (run (SharedState.step Container.codec) full.decode (.initial 104857600 500)).2
    before.Reachable Container.codec {} ∧
      Economical Container.codec {} before ⟨Crew.sampleData, .png, 2⟩ := by
  intro full before
  have reached : before.Reachable Container.codec {} := (SharedState.Reachable.start rfl).run _
  exact ⟨reached, economical_decode reached _⟩

end Wish

end Thumbnailer
