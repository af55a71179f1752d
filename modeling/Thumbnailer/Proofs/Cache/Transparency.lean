/-
This file shows that the decode cache cannot be seen in what is decoded. Any number of workers
decode on one engine, their steps mixed in any order, and the cache may be dropped at any time.
Two workers may both miss and both store the same image, and what one of them has just stored may
be pushed out before the other looks. Still every decode gives what a decode without any cache
gives: the same error, or an image with the same pixels and the same orientation.

One invariant carries this. Whatever the cache holds under the key of an image that some worker
asked for is what decoding that image gives. It speaks of the cache alone, so it does not matter
how far the workers have come. It needs that a key stands for one image, that is, that no two of
the byte strings that are digested have the same digest.
-/

import Thumbnailer.Engine.Pixels
import Thumbnailer.Proofs.Cache.Contents
import Thumbnailer.Proofs.Cache.Key
import Thumbnailer.Proofs.Interleaving

namespace Thumbnailer

open Procedure

/-- What an image shows, whatever buffer it lies in. -/
def Canvas.content (canvas : Canvas) : Decoded :=
  { raster := canvas.raster, orientation := canvas.orientation }

/-! ### Wishes -/

/-- An image that a worker is asked to decode. -/
structure Wish where
  data : Bytes
  format : Format
  shrink : UInt32
  deriving DecidableEq

namespace Wish

/-- The image at full size. -/
def full (wish : Wish) : Wish := { wish with shrink := 1 }

/-- The image at the reduction that counts: a reduction of zero is none. -/
def effective (wish : Wish) : Wish :=
  if wish.shrink ≤ 1 then wish.full else wish

/-- The images that decoding may cache. -/
def parts (wish : Wish) : List Wish := [wish.effective, wish.full]

def material (wish : Wish) : Bytes := Cache.keyMaterial wish.data wish.format wish.shrink

def key (wish : Wish) : String := Cache.key wish.data wish.format wish.shrink

/-- What decoding gives where there is no cache: the failure of the codec, the image as it is
stored, or its reduction with both axes rounded up. -/
def outcome (codec : Codec) (wish : Wish) : Except EngineError Decoded :=
  match codec.decode wish.data wish.format with
  | .error detail => .error (.decode detail)
  | .ok decoded =>
    if wish.shrink ≤ 1 then
      .ok decoded
    else
      .ok { decoded with
            raster := codec.reduce decoded.raster (decoded.raster.size.reduce wish.shrink) }

/-- The keys of these wishes are different. -/
def KeysApart (wishes : List Wish) : Prop :=
  ∀ first ∈ wishes, ∀ second ∈ wishes, first.key = second.key → first = second

theorem eq_of_material_eq {first second : Wish} (same : first.material = second.material) :
    first = second := by
  obtain ⟨firstData, firstFormat, firstShrink⟩ := first
  obtain ⟨secondData, secondFormat, secondShrink⟩ := second
  obtain ⟨data, format, shrink⟩ := Cache.keyMaterial_inj same
  subst data format shrink
  rfl

theorem effective_mem_parts (wish : Wish) : wish.effective ∈ wish.parts :=
  List.mem_cons_self

theorem full_mem_parts (wish : Wish) : wish.full ∈ wish.parts :=
  List.mem_cons_of_mem _ List.mem_cons_self

/-- Decoding the image at full size caches nothing else. -/
theorem eq_full_of_mem_parts {wish part : Wish} (member : part ∈ wish.full.parts) :
    part = wish.full := by
  obtain effective | full := List.mem_cons.1 member
  · exact effective.trans (if_pos (UInt32.le_refl 1))
  · exact List.mem_singleton.1 full

theorem keysApart_full (wish : Wish) : KeysApart wish.full.parts :=
  fun _ first _ second _ =>
    (eq_full_of_mem_parts first).trans (eq_full_of_mem_parts second).symm

theorem mem_parts_of_full {wish part : Wish} (member : part ∈ wish.full.parts) :
    part ∈ wish.parts := by
  rw [eq_full_of_mem_parts member]
  exact wish.full_mem_parts

/-- Decoding at a reduction may cache what decoding at full size may. -/
theorem mem_parts_of_either {data : Bytes} {format : Format} {shrink chosen : UInt32}
    (either : chosen = 1 ∨ chosen = shrink) :
    ∀ part ∈ parts ⟨data, format, chosen⟩, part ∈ parts ⟨data, format, shrink⟩ := by
  intro part member
  obtain rfl | rfl := either
  · exact mem_parts_of_full member
  · exact member

@[simp]
theorem outcome_effective (codec : Codec) (wish : Wish) :
    wish.effective.outcome codec = wish.outcome codec := by
  unfold effective
  split
  · rename_i small
    simp only [outcome, full, if_pos small, UInt32.le_refl, if_true]
  · rfl

theorem outcome_full {codec : Codec} {wish : Wish} {decoded : Decoded}
    (reads : codec.decode wish.data wish.format = .ok decoded) :
    wish.full.outcome codec = .ok decoded := by
  unfold outcome full
  rw [reads]
  exact if_pos (UInt32.le_refl 1)

/-- A reduced image is made from the full one. -/
theorem outcome_of_full (codec : Codec) {wish : Wish} (reduced : ¬ wish.shrink ≤ 1) :
    wish.outcome codec = (wish.full.outcome codec).map fun decoded =>
      { decoded with
        raster := codec.reduce decoded.raster (decoded.raster.size.reduce wish.shrink) } := by
  simp only [outcome, full, if_neg reduced, UInt32.le_refl, if_true]
  split <;> rfl

end Wish

/-! ### The invariant -/

/-- What the cache holds under the key of one of the wishes is what decoding it gives. -/
def Truthful (codec : Codec) (wishes : List Wish) (state : SharedState) : Prop :=
  state.cache.Holds fun key canvas =>
    ∀ wish ∈ wishes, wish.key = key → wish.outcome codec = .ok canvas.content

namespace Truthful

variable {codec : Codec} {wishes : List Wish} {state : SharedState}

theorem initial (codec : Codec) (wishes : List Wish) (memoryBudget : UInt64)
    (entryBudget : Nat) : Truthful codec wishes (.initial memoryBudget entryBudget) :=
  Cache.holds_empty _ _ _

theorem release (codec : Codec) (wishes : List Wish) (state : SharedState) :
    Truthful codec wishes (SharedState.step codec .release state).2 :=
  Cache.holds_clear _ _

theorem lookup (truthful : Truthful codec wishes state) (key : String) :
    Truthful codec wishes (SharedState.step codec (.lookup key) state).2 :=
  Cache.Holds.lookup truthful key

/-- What is found under the key of a wish is what decoding it gives. -/
theorem found (truthful : Truthful codec wishes state) {wish : Wish} (wished : wish ∈ wishes)
    {canvas : Canvas} (hit : (state.cache.lookup wish.key).1 = some canvas) :
    wish.outcome codec = .ok canvas.content :=
  Cache.Holds.found truthful hit wish wished rfl

/-- An image may be stored under the key of a wish if it is what decoding that wish gives: no other
wish has that key. -/
theorem store (truthful : Truthful codec wishes state) (apart : Wish.KeysApart wishes) {wish : Wish}
    (wished : wish ∈ wishes) {canvas : Canvas} (right : wish.outcome codec = .ok canvas.content)
    (size : UInt64) :
    Truthful codec wishes (SharedState.step codec (.store wish.key canvas size) state).2 := by
  refine Cache.Holds.insert truthful (fun other member same => ?_) size
  rw [apart other member wish wished same]
  exact right

end Truthful

/-! ### One decode among others -/

section Decode

variable {codec : Codec} {wishes : List Wish} {wish : Wish}

/-- The answer to a wish is what decoding it gives. -/
def Fulfils (codec : Codec) (wish : Wish) (answer : Except EngineError Canvas) : Prop :=
  answer.map Canvas.content = wish.outcome codec

/-- Where decoding succeeds, an image comes out that shows the same. -/
theorem Fulfils.exists_canvas {answer : Except EngineError Canvas} {decoded : Decoded}
    (fulfils : Fulfils codec wish answer) (outcome : wish.outcome codec = .ok decoded) :
    ∃ canvas, answer = .ok canvas ∧ canvas.content = decoded := by
  rw [Fulfils, outcome] at fulfils
  cases answer with
  | error failure => cases fulfils
  | ok canvas => exact ⟨canvas, rfl, Except.ok.inj fulfils⟩

theorem guarded_own (raster : Raster) (orientation : UInt8) :
    Guarded (SharedState.step codec) (Truthful codec wishes)
      (fun canvas => canvas.content = ⟨raster, orientation⟩) (Pixels.own raster orientation) :=
  fun _ truthful => ⟨truthful, rfl⟩

theorem guarded_remember (apart : Wish.KeysApart wishes) (wished : wish ∈ wishes) {canvas : Canvas}
    (right : wish.outcome codec = .ok canvas.content) :
    Guarded (SharedState.step codec) (Truthful codec wishes) (Fulfils codec wish)
      (Pixels.remember wish.key canvas) :=
  fun _ truthful => ⟨truthful.store apart wished right _, right.symm⟩

theorem guarded_decodeFull (apart : Wish.KeysApart wishes) (wished : wish.full ∈ wishes) :
    Guarded (SharedState.step codec) (Truthful codec wishes) (Fulfils codec wish.full)
      (Pixels.decodeFull wish.data wish.format) := by
  intro state truthful
  refine ⟨truthful.lookup _, ?_⟩
  generalize looked : (SharedState.step codec
    (.lookup (Cache.key wish.data wish.format 1)) state).1 = found
  cases found with
  | some canvas => exact (truthful.found wished looked).symm
  | none =>
    intro later kept
    refine ⟨kept, ?_⟩
    generalize outcome :
      (SharedState.step codec (.read wish.data wish.format) later).1 = read
    have read_eq : codec.decode wish.data wish.format = read := outcome
    cases read with
    | error detail =>
      show _ = wish.full.outcome codec
      simp only [Wish.outcome, Wish.full, read_eq]
      rfl
    | ok decoded =>
      refine (guarded_own decoded.raster decoded.orientation).bind fun canvas shows => ?_
      refine guarded_remember apart wished ?_
      simp only [Wish.outcome, Wish.full, read_eq, UInt32.le_refl, if_true, shows]

theorem guarded_decode (apart : Wish.KeysApart wishes) (wished : wish.effective ∈ wishes)
    (fullWished : wish.full ∈ wishes) :
    Guarded (SharedState.step codec) (Truthful codec wishes) (Fulfils codec wish)
      (Pixels.decode wish.data wish.format wish.shrink) := by
  have promise : Fulfils codec wish.effective = Fulfils codec wish := by
    funext answer
    rw [Fulfils, Fulfils, Wish.outcome_effective]
  unfold Pixels.decode
  split
  · rename_i small
    rw [← promise, Wish.effective, if_pos small]
    exact guarded_decodeFull apart fullWished
  · rename_i reduced
    rw [Wish.effective, if_neg reduced] at wished
    intro state truthful
    refine ⟨truthful.lookup _, ?_⟩
    generalize looked : (SharedState.step codec
      (.lookup (Cache.key wish.data wish.format wish.shrink)) state).1 = found
    cases found with
    | some canvas => exact (truthful.found wished looked).symm
    | none =>
      refine (guarded_decodeFull apart fullWished).bind fun answer fulfilled => ?_
      have made := Wish.outcome_of_full codec reduced
      rw [← fulfilled] at made
      cases answer with
      | error failure => exact made.symm
      | ok full =>
        intro later kept
        refine ⟨kept, ?_⟩
        refine (guarded_own _ full.orientation).bind fun canvas shows => ?_
        refine guarded_remember apart wished ?_
        rw [made, shows]
        rfl

/-! ### The length of a decode -/

theorem endsWithin_own (raster : Raster) (orientation : UInt8) :
    (Pixels.own raster orientation).EndsWithin 1 :=
  fun _ => trivial

theorem endsWithin_remember (key : String) (canvas : Canvas) :
    (Pixels.remember key canvas).EndsWithin 1 :=
  fun _ => trivial

/-- At most a lookup, the work of the codec, a buffer and a store. -/
theorem endsWithin_decodeFull (data : Bytes) (format : Format) :
    (Pixels.decodeFull data format).EndsWithin 4 := by
  intro found
  cases found with
  | some canvas => trivial
  | none =>
    intro read
    cases read with
    | error detail => trivial
    | ok decoded =>
      exact (endsWithin_own _ _).bind fun canvas => endsWithin_remember _ canvas

/-- A reduced decode adds a lookup of its own, the resampling, a buffer and a store. -/
theorem endsWithin_decode (data : Bytes) (format : Format) (shrink : UInt32) :
    (Pixels.decode data format shrink).EndsWithin 8 := by
  unfold Pixels.decode
  split
  · exact (endsWithin_decodeFull data format).mono (by decide)
  · intro found
    cases found with
    | some canvas => trivial
    | none =>
      show ((Pixels.decodeFull data format).bind _).EndsWithin (4 + 3)
      refine (endsWithin_decodeFull data format).bind fun answer => ?_
      cases answer with
      | error failure => trivial
      | ok full =>
        intro reduced
        exact (endsWithin_own _ _).bind fun canvas => endsWithin_remember _ canvas

end Decode

/-! ### Many workers on one engine -/

/-- What may happen next on an engine. -/
inductive Move where
  /-- One more worker sets out to decode an image. -/
  | begin (wish : Wish)
  /-- A worker takes its next step. -/
  | turn (worker : Nat)
  /-- The engine is shut down: all cached images are dropped. -/
  | shutdown
  deriving DecidableEq

/-- The workers of an engine, each at some step of its decode. -/
abbrev Crew := Pool WorkerAccess Wish (Except EngineError Canvas) SharedState

namespace Crew

/-- No worker yet, and nothing in the cache. -/
def idle (memoryBudget : UInt64) (entryBudget : Nat) : Crew :=
  { workers := [], shared := .initial memoryBudget entryBudget }

def move (codec : Codec) (crew : Crew) : Move → Crew
  | .begin wish => crew.join wish (Pixels.decode wish.data wish.format wish.shrink)
  | .turn worker => crew.turn (SharedState.step codec) worker
  | .shutdown => crew.aside (SharedState.step codec) .release

/-- Moves one after the other, in any order at all. -/
def run (codec : Codec) (crew : Crew) (moves : List Move) : Crew :=
  moves.foldl (move codec) crew

end Crew

namespace Move

/-- The images that the workers set out to decode. -/
def wishes (moves : List Move) : List Wish :=
  moves.flatMap fun
    | .begin wish => wish.parts
    | .turn _ | .shutdown => []

/-- The byte strings that are digested into keys. -/
def digested (moves : List Move) : List Bytes :=
  (wishes moves).map Wish.material

/-- How many workers set out. -/
def begun : List Move → Nat
  | [] => 0
  | .begin _ :: rest => begun rest + 1
  | .turn _ :: rest | .shutdown :: rest => begun rest

/-- How many turns a worker has. -/
def turnsOf (worker : Nat) (moves : List Move) : Nat :=
  moves.count (.turn worker)

end Move

/-- No two of the byte strings have the same digest. -/
def CollisionFree (strings : List Bytes) : Prop :=
  ∀ first ∈ strings, ∀ second ∈ strings,
    Sha256.digest first = Sha256.digest second → first = second

theorem collisionFree_of_two {strings : List Bytes} (one other : Bytes)
    (members : ∀ string ∈ strings, string = one ∨ string = other)
    (different : Sha256.digest one ≠ Sha256.digest other) : CollisionFree strings := by
  intro first firstMember second secondMember same
  rcases members first firstMember with rfl | rfl <;>
    rcases members second secondMember with rfl | rfl
  · rfl
  · exact absurd same different
  · exact absurd same.symm different
  · rfl

/-- Keys are different where digests are. -/
theorem keysApart_of_collisionFree {wishes : List Wish}
    (free : CollisionFree (wishes.map Wish.material)) : Wish.KeysApart wishes := by
  intro first firstMember second secondMember same
  exact Wish.eq_of_material_eq (free _ (List.mem_map_of_mem firstMember) _
    (List.mem_map_of_mem secondMember) (Cache.digest_eq_of_key_eq same))

namespace Crew

variable {codec : Codec} {wishes : List Wish} {crew : Crew}

/-- The cache is truthful and every worker will fulfil its wish. -/
abbrev Trusty (codec : Codec) (wishes : List Wish) (crew : Crew) : Prop :=
  crew.Sound (SharedState.step codec) (Truthful codec wishes) (Fulfils codec)

theorem trusty_idle (codec : Codec) (wishes : List Wish) (memoryBudget : UInt64)
    (entryBudget : Nat) : (idle memoryBudget entryBudget).Trusty codec wishes :=
  ⟨Truthful.initial codec wishes memoryBudget entryBudget, fun _ member => by cases member⟩

theorem Trusty.move (apart : Wish.KeysApart wishes) (trusty : crew.Trusty codec wishes)
    {next : Move} (known : ∀ wish ∈ Move.wishes [next], wish ∈ wishes) :
    (crew.move codec next).Trusty codec wishes := by
  cases next with
  | begin wish =>
    have member {part : Wish} (inParts : part ∈ wish.parts) : part ∈ wishes :=
      known part (by simpa [Move.wishes] using inParts)
    exact Pool.Sound.join trusty (guarded_decode apart (member wish.effective_mem_parts)
      (member wish.full_mem_parts))
  | turn worker => exact Pool.Sound.turn trusty worker
  | shutdown => exact Pool.Sound.aside trusty fun state _ => Truthful.release codec wishes state

theorem Trusty.run (apart : Wish.KeysApart wishes) (trusty : crew.Trusty codec wishes)
    (moves : List Move) (known : ∀ wish ∈ Move.wishes moves, wish ∈ wishes) :
    (crew.run codec moves).Trusty codec wishes := by
  induction moves generalizing crew with
  | nil => exact trusty
  | cons next rest inductionHypothesis =>
    have split : Move.wishes (next :: rest) = Move.wishes [next] ++ Move.wishes rest := by
      simp [Move.wishes]
    rw [split] at known
    exact inductionHypothesis
      (trusty.move apart fun wish member => known wish (List.mem_append_left _ member))
      (fun wish member => known wish (List.mem_append_right _ member))

/-- Workers are numbered in the order in which they set out. -/
theorem workers_length_run (codec : Codec) (crew : Crew) (moves : List Move) :
    (crew.run codec moves).workers.length = crew.workers.length + Move.begun moves := by
  induction moves generalizing crew with
  | nil => rfl
  | cons next rest inductionHypothesis =>
    have later := inductionHypothesis (crew.move codec next)
    cases next with
    | begin wish =>
      rw [move, Pool.join, List.length_append, List.length_singleton] at later
      rw [Move.begun, Nat.add_comm (Move.begun rest), ← Nat.add_assoc]
      exact later
    | turn worker =>
      rw [move, Pool.length_turn] at later
      exact later
    | shutdown => exact later

/-- A worker loses one of the steps before it with each turn of its own. -/
theorem nearing_run (codec : Codec) {worker count : Nat} {wish : Wish}
    (nearing : crew.Nearing worker wish count) (moves : List Move) :
    (crew.run codec moves).Nearing worker wish (count - Move.turnsOf worker moves) := by
  induction moves generalizing crew count with
  | nil => exact nearing
  | cons next rest inductionHypothesis =>
    cases next with
    | begin other =>
      exact inductionHypothesis nearing.join
    | turn other =>
      by_cases same : other = worker
      · subst same
        have left := inductionHypothesis (nearing.turn_self (SharedState.step codec))
        rw [Move.turnsOf, List.count_cons_self, Nat.add_comm, ← Nat.sub_sub]
        exact left
      · rw [Move.turnsOf, List.count_cons_of_ne (by simpa using same)]
        exact inductionHypothesis (nearing.turn_other same)
    | shutdown => exact inductionHypothesis nearing.aside

/-- However the steps of any number of workers are mixed, and whenever the cache is dropped, a
worker ends with what decoding without a cache gives; and it does end, after eight turns at
most. -/
theorem decode_eq_outcome (codec : Codec) (memoryBudget : UInt64) (entryBudget : Nat)
    (before after : List Move) (wish : Wish)
    (free : CollisionFree (Move.digested (before ++ .begin wish :: after))) :
    let worker := ((idle memoryBudget entryBudget).run codec before).workers.length
    let crew := (idle memoryBudget entryBudget).run codec (before ++ .begin wish :: after)
    (∀ answer, crew.workers[worker]? = some (wish, .done answer) →
        answer.map Canvas.content = wish.outcome codec) ∧
      (8 ≤ Move.turnsOf worker after →
        ∃ answer, crew.workers[worker]? = some (wish, .done answer)) := by
  intro worker crew
  constructor
  · intro answer ended
    have apart := keysApart_of_collisionFree free
    have trusty := (trusty_idle codec _ memoryBudget entryBudget).run apart
      (before ++ .begin wish :: after) fun _ member => member
    exact trusty.promise ended
  · intro enough
    have begun := Pool.nearing_join ((idle memoryBudget entryBudget).run codec before) wish
      (endsWithin_decode wish.data wish.format wish.shrink)
    have nearing := nearing_run codec begun after
    rw [Nat.sub_eq_zero_of_le enough] at nearing
    have joined : crew = run codec (((idle memoryBudget entryBudget).run codec before).join wish
        (Pixels.decode wish.data wish.format wish.shrink)) after := by
      show run codec _ (before ++ .begin wish :: after) = _
      rw [run, List.foldl_append]
      rfl
    rw [joined]
    exact nearing.ended

/-- Three pixels in a row, tagged to be turned. -/
def sampleData : Bytes :=
  Container.pack .png { size := ⟨3, 1⟩, colour := .l8, pixels := some #[[10], [20], [30]] } 6

/-- A worker that reads the image at full size is between its miss and its store when another sets
out to read it at half size; the cache has room for one image. -/
def raceBefore : List Move :=
  [.begin ⟨sampleData, .png, 0⟩, .turn 0, .turn 0]

/-- Both miss and both store, and the cache is dropped in between. -/
def raceAfter : List Move :=
  [.turn 1, .turn 1, .turn 0, .turn 1, .turn 1, .turn 0, .turn 1, .shutdown, .turn 1, .turn 0,
    .turn 1, .turn 1]

/-- The image at full size and at half size have different digests. -/
theorem collisionFree_race :
    CollisionFree (Move.digested (raceBefore ++ .begin ⟨sampleData, .png, 2⟩ :: raceAfter)) := by
  refine collisionFree_of_two (Wish.material ⟨sampleData, .png, 1⟩)
    (Wish.material ⟨sampleData, .png, 2⟩) (fun string member => ?_) (by decide +kernel)
  have known : string ∈ [Wish.material ⟨sampleData, .png, 1⟩,
      Wish.material ⟨sampleData, .png, 1⟩, Wish.material ⟨sampleData, .png, 2⟩,
      Wish.material ⟨sampleData, .png, 1⟩] := member
  simp only [List.mem_cons, List.not_mem_nil, or_false] at known
  rcases known with same | same | same | same
  · exact Or.inl same
  · exact Or.inl same
  · exact Or.inr same
  · exact Or.inl same

theorem decode_eq_outcome_in_race :
    CollisionFree (Move.digested (raceBefore ++ .begin ⟨sampleData, .png, 2⟩ :: raceAfter)) ∧
      ∃ answer,
        ((idle 100 1).run Container.codec
            (raceBefore ++ .begin ⟨sampleData, .png, 2⟩ :: raceAfter)).workers[1]? =
          some (⟨sampleData, .png, 2⟩, .done answer) ∧
        answer.map Canvas.content = Wish.outcome Container.codec ⟨sampleData, .png, 2⟩ := by
  have number : ((idle 100 1).run Container.codec raceBefore).workers.length = 1 := by
    rw [workers_length_run]
    rfl
  obtain ⟨right, ends⟩ := decode_eq_outcome Container.codec 100 1 raceBefore raceAfter
    ⟨sampleData, .png, 2⟩ collisionFree_race
  rw [number] at right ends
  obtain ⟨answer, ended⟩ := ends (by decide)
  exact ⟨collisionFree_race, answer, ended, right answer ended⟩

end Crew

end Thumbnailer
