/-
This file shows that what a request turns, mirrors or crops is owned by it alone. A request owns
alone what it has copied, as a copy has a fresh buffer, and what a rewriting task gave it; nothing
that the others do brings them nearer to such a buffer. That a decode may share its image with the
cache, or scaling give back the image it was given, does no harm, as neither is counted as owned.

Only decodes store anything, and they store only what they have made themselves. So the buffers in
the cache are never those of a transform.
-/

import Thumbnailer.Proofs.Ownership.Discipline
import Thumbnailer.Proofs.Ownership.Scene
import Thumbnailer.Proofs.Schedules
import Thumbnailer.Proofs.Upright

namespace Thumbnailer

open Procedure

namespace Task

variable {Image Scale : Type}

def reads : Task Image Scale → Bool
  | .decode .. => true
  | _ => false

/-- The image that a request holds after a task. To encode an image it only lends it; any other work
uses up what was held, which is dropped before it decodes again. -/
def handed (held : Option Image) : (task : Task Image Scale) → task.Answer → Option Image
  | .encode .., _ | .now, _ => held
  | task, answer => task.product? answer

/-- What is owned alone after a task is held after it, if it was so before. -/
theorem handed_eq_of_alone {owned held : Option Image} {task : Task Image Scale}
    {answer : task.Answer} {image : Image} (before : owned = some image → held = some image)
    (alone : task.alone? owned answer = some image) : task.handed held answer = some image := by
  cases task
  case decode | resize => cases alone
  case encode | now => exact before alone
  all_goals exact alone

end Task

/-! ### What the engine does with an image -/

namespace Pixels

/-- What a transform of an image comes to: it fails; it gives the image back, where that may stay as
it is; or it gives new pixels for it, which may be resampled. -/
inductive Transform (canvas : Canvas) (Stays : Prop) : Attempt Canvas → Prop
  | fail (failure : EngineError) : Transform canvas Stays (.done (.error failure))
  | stay (stays : Stays) : Transform canvas Stays (.done (.ok canvas))
  | replace (raster : Raster) : Transform canvas Stays (replace canvas raster)
  | resample (size : Size) :
    Transform canvas Stays
      (.ask (.resample canvas.raster size) fun scaled => Pixels.replace canvas scaled)

theorem transform_resize {Scale : Type} [ScaleFactor Scale] (canvas : Canvas) (scale : Scale) :
    Transform canvas True (resize canvas scale) := by
  unfold resize
  split
  · dsimp only
    split
    · exact .stay trivial
    · exact .resample _
  · exact .fail _

/-- Only a turn by nothing gives the image back. -/
theorem transform_rotate (canvas : Canvas) (turn : Turn) :
    Transform canvas (turn = .none) (rotate canvas turn) := by
  unfold rotate
  split
  case isTrue still => exact .stay still
  case isFalse => exact .replace _

theorem transform_crop (canvas : Canvas) (region : Region) :
    Transform canvas False (crop canvas region) := by
  unfold crop
  split
  · exact .replace _
  · exact .fail _

theorem transform_smartCrop (settings : EngineSettings) (canvas : Canvas) (size : Size) :
    Transform canvas False (smartCrop settings canvas size) := by
  unfold smartCrop
  split
  · exact transform_crop canvas _
  · exact .fail _

theorem transform_unpremultiply (canvas : Canvas) (band : Band) :
    Transform canvas False (unpremultiply canvas band) := by
  unfold unpremultiply
  split
  · exact .replace _
  · exact .fail _

/-- Nothing is put into the cache. -/
abbrev StoresNothing {Result : Type} (procedure : Procedure WorkerAccess Result) : Prop :=
  procedure.Asks fun request : WorkerStep => request.stored? = none

theorem Transform.storesNothing {canvas : Canvas} {Stays : Prop} {work : Attempt Canvas}
    (transform : Transform canvas Stays work) : StoresNothing work := by
  cases transform with
  | fail failure | stay stays => trivial
  | replace raster => exact ⟨rfl, fun _ => trivial⟩
  | resample size => exact ⟨rfl, fun _ => ⟨rfl, fun _ => trivial⟩⟩

/-- Only decodes put anything into the cache. -/
theorem storesNothing_perform {Scale : Type} [ScaleFactor Scale] (settings : EngineSettings)
    {task : Task Canvas Scale} (works : task.reads = false) :
    StoresNothing (perform settings task) := by
  cases task with
  | decode data format shrink => cases works
  | encode canvas format quality | premultiply canvas | now => exact ⟨rfl, fun _ => trivial⟩
  | resize canvas scale => exact (transform_resize canvas scale).storesNothing
  | rotate canvas turn => exact (transform_rotate canvas turn).storesNothing
  | crop canvas region => exact (transform_crop canvas region).storesNothing
  | unpremultiply canvas band => exact (transform_unpremultiply canvas band).storesNothing
  | smartCrop canvas size => exact (transform_smartCrop settings canvas size).storesNothing
  | flip canvas | convert canvas target | copy canvas => exact ⟨rfl, fun _ => trivial⟩

end Pixels

/-! ### The tasks of a request -/

namespace Scene

open Pixels (StoresNothing)

variable {Scale : Type} [ScaleFactor Scale] {codec : Codec} {settings : EngineSettings}
  {scene : Scene}

section Steps

variable {Result : Type} {procedure : Procedure WorkerAccess Result} {reading : Bool}
  {buffer : Nat}

theorem Sound.run (sound : scene.Sound) (storesNothing : StoresNothing procedure) :
    (procedure.run (Scene.step codec reading) scene).2.Sound := by
  induction procedure generalizing scene with
  | done result => exact sound
  | ask request next inductionHypothesis =>
    obtain ⟨nothing, further⟩ := storesNothing
    exact inductionHypothesis _ (sound.step_of_none nothing) (further _)

theorem Apart.run (apart : scene.Apart buffer) (storesNothing : StoresNothing procedure) :
    (procedure.run (Scene.step codec reading) scene).2.Apart buffer := by
  induction procedure generalizing scene with
  | done result => exact apart
  | ask request next inductionHypothesis =>
    obtain ⟨nothing, further⟩ := storesNothing
    exact inductionHypothesis _ (apart.step nothing) (further _)

theorem Sound.remember (sound : scene.Sound) {canvas : Canvas} (key : String)
    (storable : scene.Storable canvas.buffer) :
    ((Pixels.remember key canvas).run (Scene.step codec true) scene).2.Sound := by
  refine sound.step ?_
  rintro _ ⟨⟩
  exact ⟨rfl, storable⟩

/-- What a decode has made may be stored when it comes to it, whatever was done since. -/
theorem Sound.remember_own (sound : scene.Sound) (raster : Raster) (orientation : UInt8)
    (key : String) :
    (((Pixels.own raster orientation).bind (Pixels.remember key)).run
      (Scene.step codec true) scene).2.Sound := by
  have named : (Scene.step codec true .fresh scene).2.Sound := sound.step_of_none rfl
  have kept : (Scene.step codec true .fresh scene).2.Storable scene.shared.next :=
    sound.storable_fresh.interlude
  exact named.remember key kept

theorem Sound.decodeFull (sound : scene.Sound) (data : Bytes) (format : Format) :
    ((Pixels.decodeFull data format).run (Scene.step codec true) scene).2.Sound := by
  let key := Cache.key data format 1
  let looked := (Scene.step codec true (.lookup key) scene).2
  have lookedSound : looked.Sound := sound.step_of_none rfl
  have openedSound : (Scene.step codec true (.read data format) looked).2.Sound :=
    lookedSound.step_of_none rfl
  unfold Pixels.decodeFull Procedure.run
  dsimp only
  cases (Scene.step codec true (.lookup key) scene).1 with
  | some canvas => exact lookedSound
  | none =>
    unfold Procedure.run
    dsimp only
    cases (Scene.step codec true (.read data format) looked).1 with
    | error detail => exact openedSound
    | ok decoded => exact openedSound.remember_own _ _ _

theorem Sound.decode (sound : scene.Sound) (data : Bytes) (format : Format) (shrink : UInt32) :
    ((Pixels.decode data format shrink).run (Scene.step codec true) scene).2.Sound := by
  unfold Pixels.decode
  by_cases whole : shrink ≤ 1
  · rw [if_pos whole]
    exact sound.decodeFull data format
  · rw [if_neg whole]
    let key := Cache.key data format shrink
    let looked := (Scene.step codec true (.lookup key) scene).2
    have lookedSound : looked.Sound := sound.step_of_none rfl
    have fullSound : ((Pixels.decodeFull data format).run (Scene.step codec true) looked).2.Sound :=
      lookedSound.decodeFull data format
    dsimp only
    unfold Procedure.run
    dsimp only
    cases (Scene.step codec true (.lookup key) scene).1 with
    | some canvas => exact lookedSound
    | none =>
      dsimp only
      rw [run_bind]
      dsimp only
      cases ((Pixels.decodeFull data format).run (Scene.step codec true) looked).1 with
      | error failure => exact fullSound
      | ok full =>
        exact Sound.remember_own (fullSound.step_of_none rfl) _ _ _

/-- The image that a piece of work gives is out of reach of others. -/
def Isolates (codec : Codec) (reading : Bool) (gives : Result → Option Canvas)
    (work : Procedure WorkerAccess Result) (scene : Scene) : Prop :=
  ∀ canvas, gives (work.run (Scene.step codec reading) scene).1 = some canvas →
    (work.run (Scene.step codec reading) scene).2.Apart canvas.buffer

/-- New pixels lie in a buffer of their own. An image that is given back has to be out of reach
already. -/
theorem Sound.isolates (sound : scene.Sound) {gives : Except EngineError Canvas → Option Canvas}
    (reads : ReadsImage gives) {canvas : Canvas} {Stays : Prop} {work : Pixels.Attempt Canvas}
    (transform : Pixels.Transform canvas Stays work)
    (apart : Stays → scene.Apart canvas.buffer) : scene.Isolates codec reading gives work := by
  intro fresh given
  cases transform with
  | fail failure => cases (reads.failure failure).symm.trans given
  | stay stays =>
    cases (reads.success canvas).symm.trans given
    exact apart stays
  | replace raster =>
    cases (reads.success _).symm.trans given
    exact sound.apart_fresh.interlude
  | resample size =>
    cases (reads.success _).symm.trans given
    exact (sound.step_of_none rfl).apart_fresh.interlude

end Steps

/-! ### The request -/

/-- A task of the request in steps, each followed by what the others do. -/
def perform (codec : Codec) (settings : EngineSettings) :
    Handler (Work Canvas Scale) Scene := fun task scene =>
  let ended := (Pixels.perform settings task).run (step codec task.reads) scene
  (ended.1, { ended.2 with held := task.handed scene.held ended.1 })

/-- What the request is known to own alone is held by it and out of reach of others. -/
structure Owning (scene : Scene) (owned : Option Canvas) : Prop where
  sound : scene.Sound
  held : ∀ canvas, owned = some canvas → scene.held = some canvas
  apart : ∀ canvas, owned = some canvas → scene.Apart canvas.buffer

theorem Sound.perform (sound : scene.Sound) (task : Task Canvas Scale) :
    ((Pixels.perform settings task).run (Scene.step codec task.reads) scene).2.Sound := by
  cases works : task.reads with
  | true =>
    cases task with
    | decode data format shrink => exact sound.decode data format shrink
    | _ => cases works
  | false => exact sound.run (Pixels.storesNothing_perform settings works)

/-- What is owned alone after a task is out of reach of others. -/
theorem Owning.apart_alone {owned : Option Canvas} (owning : scene.Owning owned)
    {task : Task Canvas Scale}
    (rewrites : ∀ image, task.rewritten? = some image → owned = some image) {canvas : Canvas}
    (alone : task.alone? owned (Scene.perform codec settings task scene).1 = some canvas) :
    ((Pixels.perform settings task).run (Scene.step codec task.reads) scene).2.Apart
      canvas.buffer := by
  have sound := owning.sound
  cases task with
  | decode data format shrink => cases alone
  | resize image scale => cases alone
  | encode image format quality | now =>
    exact (owning.apart canvas alone).run (Pixels.storesNothing_perform settings rfl)
  | flip image | convert image target | premultiply image | copy image =>
    cases alone
    exact sound.apart_fresh.interlude
  | rotate image turn =>
    have apart := owning.apart image (rewrites image rfl)
    exact sound.isolates ⟨fun _ => rfl, fun _ => rfl⟩ (Pixels.transform_rotate image turn)
      (fun _ => apart) canvas alone
  | crop image region =>
    exact sound.isolates ⟨fun _ => rfl, fun _ => rfl⟩ (Pixels.transform_crop image region)
      False.elim canvas alone
  | smartCrop image size =>
    exact sound.isolates ⟨fun _ => rfl, fun _ => rfl⟩
      (Pixels.transform_smartCrop settings image size) False.elim canvas alone
  | unpremultiply image band =>
    exact sound.isolates ⟨fun _ => rfl, fun _ => rfl⟩ (Pixels.transform_unpremultiply image band)
      False.elim canvas alone

theorem Owning.perform {owned : Option Canvas} (owning : scene.Owning owned)
    {task : Task Canvas Scale}
    (rewrites : ∀ image, task.rewritten? = some image → owned = some image) :
    (Scene.perform codec settings task scene).2.Owning
      (task.alone? owned (Scene.perform codec settings task scene).1) := by
  obtain ⟨named, stored, made⟩ : ((Pixels.perform settings task).run
      (Scene.step codec task.reads) scene).2.Sound := owning.sound.perform task
  refine ⟨⟨⟨named.others, named.cached⟩, stored, made⟩, fun canvas alone => ?_,
    fun canvas alone => ?_⟩
  · exact Task.handed_eq_of_alone (owning.held canvas) alone
  · obtain ⟨below, only⟩ := owning.apart_alone rewrites alone
    exact ⟨below, only.others, only.cached⟩

/-! ### Runs -/

/-- The request alone owns the buffer of its image: of all images that are held and all that are
cached it is the only one with this buffer. -/
structure SoleOwner (scene : Scene) (canvas : Canvas) : Prop where
  held : scene.held = some canvas
  owners : scene.shared.owners (scene.held.toList ++ scene.others) canvas.buffer = 1
  uncached : scene.shared.cache.Holds fun _ cached => cached.buffer ≠ canvas.buffer

theorem forall_cached {shared : SharedState} {Allowed : Canvas → Prop}
    (holds : shared.cache.Holds fun _ => Allowed) : ∀ canvas ∈ shared.cached, Allowed canvas := by
  intro canvas member
  obtain ⟨key, -, found⟩ := List.mem_filterMap.1 member
  obtain ⟨stored, held, rfl⟩ := Option.map_eq_some_iff.1 found
  exact holds key stored held

theorem Owning.soleOwner {canvas : Canvas} (owning : scene.Owning (some canvas)) :
    scene.SoleOwner canvas := by
  have held := owning.held canvas rfl
  obtain ⟨-, others, cached⟩ := owning.apart canvas rfl
  refine ⟨held, ?_, cached⟩
  have nobody : (scene.others ++ scene.shared.cached).countP (·.buffer = canvas.buffer) = 0 := by
    refine List.countP_eq_zero.2 fun other member => ?_
    have differs : other.buffer ≠ canvas.buffer :=
      (List.mem_append.1 member).elim (others other) (forall_cached cached other)
    simpa using differs
  rw [SharedState.owners, held, Option.toList_some, List.singleton_append, List.cons_append,
    List.countP_cons_of_pos (by simp), nobody]

end Scene

namespace Procedure

variable {interface : Interface} {Result State : Type}

/-- The requests of a run, each with the state in which it is asked. -/
def moments (handler : Handler interface State) :
    Procedure interface Result → State → List (interface.Request × State)
  | .done _, _ => []
  | .ask request next, state =>
    (request, state) :: moments handler (next (handler request state).1) (handler request state).2

end Procedure

/-- A stage that begins with work goes on if that work is done. -/
theorem Stage.moments_work_bind {Image Scale Value Next State : Type}
    (handler : Handler (Work Image Scale) State) {task : Task Image Scale}
    {read : task.Answer → Except EngineError Value} {further : Value → Stage Image Scale Next}
    (state : State) :
    moments handler (work (.ask task fun answer => .done (read answer)) >>= further :
        Stage Image Scale Next) state =
      (task, state) :: match read (handler task state).1 with
        | .ok value => moments handler (further value) (handler task state).2
        | .error _ => [] := by
  refine congrArg (List.cons _) ?_
  dsimp only
  cases read (handler task state).1 with
  | ok value => rfl
  | error failure => rfl

namespace Scene

variable {Scale : Type} [ScaleFactor Scale] {codec : Codec} {settings : EngineSettings}
  {scene : Scene}

/-- In a run of a careful stage every task that rewrites an image is given one that is owned by the
request alone, and the scene stays sound. -/
theorem Owning.run {Value : Type} {goal : Value → Option Canvas → Prop} {owned : Option Canvas}
    {stage : Stage Canvas Scale Value} (owning : scene.Owning owned)
    (careful : stage.Careful goal owned) :
    (∀ moment ∈ moments (Scene.perform codec settings) stage scene,
        ∀ canvas, moment.1.rewritten? = some canvas → moment.2.SoleOwner canvas) ∧
      (Procedure.run (Scene.perform codec settings) stage scene).2.Sound := by
  induction stage using Procedure.rec generalizing scene owned with
  | done outcome => exact ⟨List.forall_mem_nil _, owning.sound⟩
  | ask task next inductionHypothesis =>
    obtain ⟨rewrites, further⟩ := careful
    obtain ⟨later, ends⟩ := inductionHypothesis _ (owning.perform rewrites) (further _)
    refine ⟨List.forall_mem_cons.2 ⟨fun canvas rewritten => ?_, later⟩, ends⟩
    obtain rfl := rewrites canvas rewritten
    exact owning.soleOwner

/-- Whatever was done on an engine since it was started, and whatever others do on it while a
request is served, each image that the request turns, mirrors or crops is the only owner of its
buffer; and in the end each buffer in the cache was put there by a decode and made by no transform.
-/
theorem soleOwner_of_rewritten (codec : Codec) {settings : EngineSettings} {shared : SharedState}
    (starts : settings.start = .ok shared) (past : List Deed) (agenda : List (List Deed))
    (capabilities : Capabilities) (request : Request) :
    let scene := (opening shared agenda).after codec past
    let process : Stage Canvas Scale Bytes := .process capabilities request
    let final := (run (perform codec settings) process scene).2
    (∀ moment ∈ moments (perform codec settings) process scene,
        ∀ canvas, moment.1.rewritten? = some canvas → moment.2.SoleOwner canvas) ∧
      final.shared.cache.Holds fun _ canvas =>
        canvas.buffer ∈ final.inserted ∧ canvas.buffer ∉ final.made := by
  intro scene process final
  have begins : shared = .initial settings.cacheMemory settings.cacheEntries.toNat := by
    unfold EngineSettings.start at starts
    split at starts
    · cases starts
    · exact (Except.ok.inj starts).symm
  have sound : scene.Sound := by
    refine Sound.after ?_ past
    rw [begins]
    exact sound_opening _ _ _
  have owning : scene.Owning none := ⟨sound, nofun, nofun⟩
  have runs : (∀ moment ∈ moments (perform codec settings) process scene,
      ∀ canvas, moment.1.rewritten? = some canvas → moment.2.SoleOwner canvas) ∧ final.Sound :=
    owning.run (Stage.careful_process capabilities request)
  exact ⟨runs.1, runs.2.stored⟩

/-- A picture of three by two pixels that is stored on its side. -/
def lying : Raster :=
  { size := ⟨3, 2⟩, colour := .l8, pixels := some #[[1], [2], [3], [4], [5], [6]] }

/-- To turn it and cut its middle. -/
def lyingRequest : Request where
  data := Container.pack .png lying 6
  format := .png
  options := { resize := .crop, width := 1, height := 1, format := .png }
  quality := .standard
  deadline := .never { nanoseconds := 0 }

/-- As soon as the picture of the request is cached, another holder finds it there and shares it;
later the cache is dropped. -/
def curious : List (List Deed) :=
  [[], [], [], [.find (Cache.key lyingRequest.data .png 1), .share 0], [.release]]

/-- An engine on which that holder has made an image already. -/
def crowded : Scene :=
  (opening (.initial 104857600 500) curious).after Container.codec [.make false lying 1]

/-- The scene once the request has decoded its picture: it finds nothing, reads the picture and
stores it. -/
def stocked : Scene :=
  let key := Cache.key lyingRequest.data .png 1
  let steps := [.lookup key, .read lyingRequest.data .png, .fresh, .store key ⟨1, lying, 6⟩ 6]
  steps.foldl (fun scene request => (step Container.codec true request scene).2) crowded

theorem run_decode_crowded :
    (Pixels.decode lyingRequest.data .png 1).run (step Container.codec true) crowded =
      (.ok ⟨1, lying, 6⟩, stocked) := by
  have missed : (step Container.codec true (.lookup (Cache.key lyingRequest.data .png 1))
      crowded).1 = none := by
    simp [crowded, after, deed, opening, act, step, SharedState.step, SharedState.initial, adopt,
      note, Cache.lookup, Cache.empty]
  have reads (scene : Scene) : (step Container.codec true (.read lyingRequest.data .png) scene).1 =
      .ok ⟨lying, 6⟩ := rfl
  show (Pixels.decodeFull lyingRequest.data .png).run (step Container.codec true) crowded = _
  unfold Pixels.decodeFull
  dsimp only [run]
  rw [missed]
  dsimp only [run]
  rw [reads]
  rfl

theorem soleOwner_of_rewritten_lying :
    let settings : EngineSettings := {}
    let process : Stage Canvas Float Bytes := .process settings.capabilities lyingRequest
    let moments := moments (perform Container.codec settings) process crowded
    let final := (run (perform Container.codec settings) process crowded).2
    settings.start = .ok (.initial 104857600 500) ∧
      moments.filterMap (fun moment => moment.1.rewritten?.map Canvas.buffer) = [3, 4] ∧
      (∀ moment ∈ moments, ∀ canvas, moment.1.rewritten? = some canvas →
        moment.2.SoleOwner canvas) ∧
      final.shared.cache.Holds fun _ canvas =>
        canvas.buffer ∈ final.inserted ∧ canvas.buffer ∉ final.made := by
  intro settings process moments final
  have sole := @soleOwner_of_rewritten Float _ Container.codec settings _ rfl
    [.make false lying 1] curious settings.capabilities lyingRequest
  refine ⟨rfl, ?_, sole⟩
  show List.filterMap _ (Procedure.moments _
    (Stage.decode lyingRequest.data .png 1 >>= _ : Stage Canvas Float Bytes) _) = _
  rw [Stage.decode, Stage.moments_work_bind]
  have decoded : perform Container.codec settings
      (.decode lyingRequest.data .png 1 : Task Canvas Float) crowded =
        (.ok ⟨1, lying, 6⟩, { stocked with held := some ⟨1, lying, 6⟩ }) := by
    unfold perform Pixels.perform
    dsimp only [Task.reads]
    rw [run_decode_crowded]
    rfl
  rw [decoded]
  decide +kernel

end Scene

end Thumbnailer
