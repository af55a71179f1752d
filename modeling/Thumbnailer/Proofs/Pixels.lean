/-
This file tells what the engine that works on pixels answers. Some of its primitives are guarded:
they fail unless the factor can be used, the image is in floating point with alpha, or the region
lies in the image. To a task whose guard is met the engine gives an image of the size and colour
type that the task is for, whatever state it is in; nothing can fail but the codec, when it reads
or writes.

The codec is left open. Of resampling it is assumed that it gives the size that is asked for and
keeps the colour type.
-/

import Thumbnailer.Engine.Pixels
import Thumbnailer.Proofs.Cache.Transparency
import Thumbnailer.Proofs.Dimensions
import Thumbnailer.Proofs.Order
import Thumbnailer.Proofs.Windows

namespace Thumbnailer

open Procedure Stage

/-- Resampling gives the size that is asked for and keeps the colour type. -/
structure Codec.Exact (codec : Codec) : Prop where
  size_reduce : ∀ raster size, (codec.reduce raster size).size = size
  size_resample : ∀ raster size, (codec.resample raster size).size = size
  colour_resample : ∀ raster size, (codec.resample raster size).colour = raster.colour

theorem Container.exact_codec : Container.codec.Exact :=
  ⟨fun _ _ => rfl, fun _ _ => rfl, fun _ _ => rfl⟩

/-- A region of at least one pixel that lies in a picture. -/
def Region.Cuts (region : Region) (size : Size) : Prop :=
  region.width ≠ 0 ∧ region.height ≠ 0 ∧ region.Inside size

theorem Region.cuts_of_inside {region : Region} {size : Size} (inside : region.Inside size)
    (nonempty : ∀ axis, region.size.along axis ≠ 0) : region.Cuts size :=
  ⟨nonempty .width, nonempty .height, inside⟩

variable {Scale : Type} [ScaleFactor Scale] {Value : Type}

namespace Pixels

/-- The guard of a task is met. -/
def Admits (settings : EngineSettings) : Task Canvas Scale → Prop
  | .resize _ scale => ScaleFactor.usable scale = true
  | .unpremultiply canvas _ => canvas.raster.colour = .rgba32f
  | .crop canvas region => region.Cuts canvas.raster.size
  | .smartCrop canvas size =>
    settings.smartCrop = true ∧ (Saliency.window canvas.raster size).Cuts canvas.raster.size
  | .encode _ format _ => format ≠ .gif
  | .decode .. | .rotate .. | .flip _ | .convert .. | .premultiply _ | .copy _ | .now => True

/-- An image comes out, of this size. -/
def Gives (answer : Except EngineError Canvas) (size : Size) : Prop :=
  ∃ canvas, answer = .ok canvas ∧ canvas.raster.size = size

/-- What the answer to a task tells. -/
def Tells (codec : Codec) : (task : Task Canvas Scale) → task.Answer → Prop
  | .decode data format _, answer => ∀ failure, answer = .error failure →
    ∃ detail, failure = .decode detail ∧ codec.decode data format = .error detail
  | .encode canvas format quality, answer =>
    answer = (codec.encode canvas.raster format quality).mapError .encode
  | .resize canvas scale, answer => ∃ scaled, answer = .ok scaled ∧
    scaled.raster.size = Rehearsal.scaled canvas.raster.size scale ∧
      scaled.raster.colour = canvas.raster.colour
  | .premultiply canvas, answer => ∃ changed band, answer = .ok (changed, band) ∧
    changed.raster.size = canvas.raster.size ∧ changed.raster.colour = .rgba32f
  | .rotate canvas turn, answer => Gives answer (turn.apply canvas.raster.size)
  | .crop _ region, answer => Gives answer region.size
  | .smartCrop canvas target, answer => Gives answer (target.meet canvas.raster.size)
  | .flip canvas, answer | .convert canvas _, answer | .unpremultiply canvas _, answer
  | .copy canvas, answer => Gives answer canvas.raster.size
  | .now, _ => True

/-! ### The answers of the engine -/

section Answers

variable {codec : Codec} {state : SharedState}

theorem gives_replace (canvas : Canvas) (raster : Raster) :
    Gives ((replace canvas raster).run (SharedState.step codec) state).1 raster.size :=
  ⟨_, rfl, rfl⟩

theorem gives_crop {canvas : Canvas} {region : Region} (cuts : region.Cuts canvas.raster.size) :
    Gives ((crop canvas region).run (SharedState.step codec) state).1 region.size := by
  obtain ⟨width, height, inside⟩ := cuts
  unfold crop
  rw [if_pos ⟨width, height, inside⟩]
  exact gives_replace canvas _

theorem decodeFull_eq_error {data : Bytes} {format : Format} {failure : EngineError}
    (fails : ((decodeFull data format).run (SharedState.step codec) state).1 = .error failure) :
    ∃ detail, failure = .decode detail ∧ codec.decode data format = .error detail := by
  unfold decodeFull at fails
  simp only [Procedure.run] at fails
  cases found : (SharedState.step codec (.lookup (Cache.key data format 1)) state).1 with
  | some canvas =>
    rw [found] at fails
    cases fails
  | none =>
    rw [found] at fails
    cases read : codec.decode data format with
    | error detail =>
      simp only [Procedure.run, SharedState.step, read] at fails
      cases fails
      exact ⟨detail, rfl, rfl⟩
    | ok decoded =>
      simp only [Procedure.run, SharedState.step, read] at fails
      cases fails

theorem decode_eq_error {data : Bytes} {format : Format} {shrink : UInt32} {failure : EngineError}
    (fails : ((decode data format shrink).run (SharedState.step codec) state).1 = .error failure) :
    ∃ detail, failure = .decode detail ∧ codec.decode data format = .error detail := by
  unfold decode at fails
  by_cases whole : shrink ≤ 1
  · rw [if_pos whole] at fails
    exact decodeFull_eq_error fails
  rw [if_neg whole] at fails
  simp only [Procedure.run] at fails
  cases found : (SharedState.step codec (.lookup (Cache.key data format shrink)) state).1 with
  | some canvas =>
    rw [found] at fails
    cases fails
  | none =>
    rw [found] at fails
    simp only [run_bind] at fails
    generalize (SharedState.step codec (.lookup (Cache.key data format shrink)) state).2 = looked
      at fails
    cases full : ((decodeFull data format).run (SharedState.step codec) looked).1 with
    | error refusal =>
      rw [full] at fails
      cases fails
      exact decodeFull_eq_error full
    | ok canvas =>
      rw [full] at fails
      cases fails

/-- The engine answers a task whose guard is met as the task tells. -/
theorem tells_engine (exact : codec.Exact) {settings : EngineSettings} {task : Task Canvas Scale}
    (admits : Admits settings task) : Tells codec task (engine codec settings task state).1 := by
  cases task with
  | decode data format shrink => exact fun failure fails => decode_eq_error fails
  | encode canvas format quality => exact rfl
  | resize canvas scale =>
    show Tells codec (.resize canvas scale)
      ((resize canvas scale).run (SharedState.step codec) state).1
    unfold resize
    rw [if_pos (show ScaleFactor.usable scale = true from admits)]
    dsimp only
    split
    case isTrue same => exact ⟨canvas, rfl, same.symm, rfl⟩
    case isFalse => exact ⟨_, rfl, exact.size_resample _ _, exact.colour_resample _ _⟩
  | rotate canvas turn =>
    show Gives ((rotate canvas turn).run (SharedState.step codec) state).1 _
    unfold rotate
    split
    case isTrue none =>
      rw [none]
      exact ⟨canvas, rfl, rfl⟩
    case isFalse => exact gives_replace canvas _
  | crop canvas region => exact gives_crop admits
  | smartCrop canvas target =>
    obtain ⟨offered, cuts⟩ := admits
    show Gives ((smartCrop settings canvas target).run (SharedState.step codec) state).1 _
    unfold smartCrop
    rw [if_pos offered, ← Saliency.size_window]
    exact gives_crop cuts
  | unpremultiply canvas band =>
    show Gives ((unpremultiply canvas band).run (SharedState.step codec) state).1 _
    unfold unpremultiply
    rw [if_pos (show canvas.raster.colour = .rgba32f from admits)]
    exact gives_replace canvas _
  | premultiply canvas => exact ⟨_, _, rfl, rfl, rfl⟩
  | flip canvas => exact gives_replace canvas _
  | convert canvas target => exact gives_replace canvas _
  | copy canvas => exact gives_replace canvas _
  | now => trivial

end Answers

/-! ### The cache -/

section Cache

variable {codec : Codec} {settings : EngineSettings} {wishes : List Wish} {state : SharedState}

/-- Nothing but a decode touches the cache. -/
theorem cache_engine {task : Task Canvas Scale}
    (reads : ∀ data format shrink, task ≠ .decode data format shrink) :
    (engine codec settings task state).2.cache = state.cache := by
  have crops : ∀ (canvas : Canvas) (region : Region),
      ((crop canvas region).run (SharedState.step codec) state).2.cache = state.cache := by
    intro canvas region
    unfold crop
    split <;> rfl
  cases task with
  | decode data format shrink => exact absurd rfl (reads data format shrink)
  | resize canvas scale =>
    show ((resize canvas scale).run (SharedState.step codec) state).2.cache = _
    unfold resize
    dsimp only
    split
    · split <;> rfl
    · rfl
  | rotate canvas turn =>
    show ((rotate canvas turn).run (SharedState.step codec) state).2.cache = _
    unfold rotate
    split <;> rfl
  | crop canvas region => exact crops canvas region
  | smartCrop canvas target =>
    show ((smartCrop settings canvas target).run (SharedState.step codec) state).2.cache = _
    unfold smartCrop
    split
    · exact crops canvas _
    · rfl
  | unpremultiply canvas band =>
    show ((unpremultiply canvas band).run (SharedState.step codec) state).2.cache = _
    unfold unpremultiply
    split <;> rfl
  | _ => rfl

/-- A decode from a truthful cache gives what decoding gives, and the cache stays truthful. -/
theorem fulfils_engine {wish : Wish} (apart : Wish.KeysApart wishes)
    (known : ∀ part ∈ wish.parts, part ∈ wishes) (truthful : Truthful codec wishes state) :
    Fulfils codec wish (engine codec settings
        (.decode wish.data wish.format wish.shrink : Task Canvas Scale) state).1 ∧
      Truthful codec wishes (engine codec settings
        (.decode wish.data wish.format wish.shrink : Task Canvas Scale) state).2 :=
  (guarded_decode apart (known _ wish.effective_mem_parts) (known _ wish.full_mem_parts)).run
    truthful

/-- What decodes as it does without a cache is an image of the size and the orientation that the
decode is for. -/
theorem reduced_of_fulfils (exact : codec.Exact) {wish : Wish} {decoded : Decoded}
    (reads : codec.decode wish.data wish.format = .ok decoded)
    {answer : Except EngineError Canvas} (fulfils : Fulfils codec wish answer) :
    ∃ canvas, answer = .ok canvas ∧
      canvas.raster.size = decoded.raster.size.reduce wish.shrink ∧
        canvas.orientation = decoded.orientation := by
  by_cases whole : wish.shrink ≤ 1
  · have outcome : wish.outcome codec = .ok decoded := by
      unfold Wish.outcome
      rw [reads]
      exact if_pos whole
    obtain ⟨canvas, given, shows⟩ := fulfils.exists_canvas outcome
    refine ⟨canvas, given, ?_⟩
    rw [decoded.raster.size.reduce_of_le_one whole, ← shows]
    exact ⟨rfl, rfl⟩
  · have outcome : wish.outcome codec = .ok { decoded with
        raster := codec.reduce decoded.raster (decoded.raster.size.reduce wish.shrink) } := by
      unfold Wish.outcome
      rw [reads]
      exact if_neg whole
    obtain ⟨canvas, given, shows⟩ := fulfils.exists_canvas outcome
    refine ⟨canvas, given, ?_, congrArg Decoded.orientation shows⟩
    rw [show canvas.raster = _ from congrArg Decoded.raster shows, exact.size_reduce]

/-- Whatever is asked for, the cache stays truthful, if only wishes are decoded. -/
theorem truthful_engine {task : Task Canvas Scale} (apart : Wish.KeysApart wishes)
    (known : ∀ data format shrink, task = .decode data format shrink →
      ∀ part ∈ Wish.parts ⟨data, format, shrink⟩, part ∈ wishes)
    (truthful : Truthful codec wishes state) :
    Truthful codec wishes (engine codec settings task state).2 := by
  by_cases reads : ∀ data format shrink, task ≠ .decode data format shrink
  · unfold Truthful
    rw [cache_engine reads]
    exact truthful
  · push Not at reads
    obtain ⟨data, format, shrink, rfl⟩ := reads
    exact (fulfils_engine apart (known data format shrink rfl) truthful).2

end Cache

/-! ### The clock -/

/-- The engine does not turn the clock. -/
theorem clock_engine {codec : Codec} {settings : EngineSettings} (task : Task Canvas Scale)
    (state : SharedState) : (engine codec settings task state).2.clock = state.clock := by
  have steps : ∀ {Result : Type} (procedure : Procedure WorkerAccess Result) (state : SharedState),
      (procedure.run (SharedState.step codec) state).2.clock = state.clock := by
    intro Result procedure
    induction procedure with
    | done result => exact fun state => rfl
    | ask step next inductionHypothesis =>
      intro state
      refine (inductionHypothesis _ _).trans ?_
      cases step <;> rfl
  exact steps (perform settings task) state

/-! ### Failures -/

/-- The codec fails at what a task reads or writes, with this error. -/
def CodecFails (codec : Codec) : Task Canvas Scale → EngineError → Prop
  | .decode data format _, failure =>
    ∃ detail, failure = .decode detail ∧ codec.decode data format = .error detail
  | .encode canvas format quality, failure =>
    ∃ detail, failure = .encode detail ∧ codec.encode canvas.raster format quality = .error detail
  | _, _ => False

omit [ScaleFactor Scale] in
theorem CodecFails.not_operation {codec : Codec} {task : Task Canvas Scale} {primitive : Primitive}
    {detail : String} : ¬CodecFails codec task (.operation primitive detail) := by
  intro fails
  cases task with
  | decode data format shrink =>
    obtain ⟨_, ⟨⟩, -⟩ := fails
  | encode canvas format quality =>
    obtain ⟨_, ⟨⟩, -⟩ := fails
  | _ => exact fails

/-- An engine error that an answer stops a request with is one of the codec. -/
theorem Tells.codecFails {codec : Codec} {deadline : Deadline} {task : Task Canvas Scale}
    {answer : task.Answer} {failure : EngineError} (tells : Tells codec task answer)
    (stops : obstacle? deadline task answer = some (.engine failure)) :
    CodecFails codec task failure := by
  have given : ∀ {Answer : Type} {result : Except EngineError Answer} {value : Answer},
      result = .ok value → failure? .engine result ≠ some (.engine failure) := by
    rintro Answer result value rfl ⟨⟩
  cases task with
  | decode data format shrink => exact tells failure (failure?_eq_some_iff.1 stops)
  | encode canvas format quality =>
    have fails := failure?_eq_some_iff.1 stops
    rw [show answer = _ from tells] at fails
    show ∃ detail, _
    cases written : codec.encode canvas.raster format quality with
    | ok bytes =>
      rw [written] at fails
      cases fails
    | error detail =>
      rw [written] at fails
      cases fails
      exact ⟨detail, rfl, rfl⟩
  | resize canvas scale =>
    obtain ⟨scaled, succeeds, -⟩ := tells
    exact absurd stops (given succeeds)
  | premultiply canvas =>
    obtain ⟨changed, band, succeeds, -⟩ := tells
    exact absurd stops (given succeeds)
  | now => exact absurd stops obstacle?_now_ne_engine
  | _ =>
    obtain ⟨changed, succeeds, -⟩ := tells
    exact absurd stops (given succeeds)

/-- An answer that tells what the task is for is true to size, unless something is decoded. -/
theorem Tells.trueToSize {codec : Codec} {stored : Size} {task : Task Canvas Scale}
    {answer : task.Answer} (tells : Tells codec task answer)
    (reads : ∀ data format shrink, task ≠ .decode data format shrink) :
    TrueToSize stored task answer := by
  cases task with
  | decode data format shrink => exact absurd rfl (reads data format shrink)
  | encode canvas format quality => cases answer <;> trivial
  | now => trivial
  | resize canvas scale =>
    obtain ⟨scaled, rfl, sizeIs, -⟩ := tells
    exact sizeIs
  | premultiply canvas =>
    obtain ⟨changed, band, rfl, sizeIs, -⟩ := tells
    exact sizeIs
  | _ =>
    obtain ⟨changed, rfl, sizeIs⟩ := tells
    exact sizeIs

end Pixels

end Thumbnailer
