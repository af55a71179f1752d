/-
This file shows that scenes tell what can happen on an engine. With nobody else about, a request is
served in a scene as it is by the engine that works alone. And deeds are all that others do:
whatever work another holder of images asks the engine for, some deeds change what is shared as that
work does, and leave others with the image that it gives. So every state that the primitives of an
engine can bring it to is one that deeds bring it to.

Work is gone through step by step. A step that changes what is shared is a single deed; any other is
none at all.
-/

import Thumbnailer.Proofs.Ownership.Sole

namespace Thumbnailer

open Procedure

namespace Scene

/-! ### A request alone -/

section Alone

variable {Scale Value : Type} [ScaleFactor Scale] {codec : Codec} {settings : EngineSettings}

/-- The engine of the scene is in this state, and the others have nothing to do. -/
def Mirrors (scene : Scene) (shared : SharedState) : Prop :=
  scene.shared = shared ∧ scene.agenda = []

theorem mirrors_step (reading : Bool) (request : WorkerStep) (scene : Scene)
    (shared : SharedState) (mirrors : scene.Mirrors shared) :
    (step codec reading request scene).1 = (SharedState.step codec request shared).1 ∧
      (step codec reading request scene).2.Mirrors (SharedState.step codec request shared).2 := by
  obtain ⟨rfl, alone⟩ := mirrors
  have still : (scene.act codec reading request).agenda = [] := by
    cases request <;> cases reading <;> exact alone
  refine ⟨rfl, ?_⟩
  unfold step interlude
  dsimp only
  rw [still]
  exact ⟨rfl, rfl⟩

/-- With nobody else about, a request is served as by the engine. -/
theorem mirrors_run (stage : Stage Canvas Scale Value) {scene : Scene} {shared : SharedState}
    (mirrors : scene.Mirrors shared) :
    (run (perform codec settings) stage scene).1 =
        (run (Pixels.engine codec settings) stage shared).1 ∧
      (run (perform codec settings) stage scene).2.Mirrors
        (run (Pixels.engine codec settings) stage shared).2 := by
  refine run_alike Mirrors (fun task scene shared mirrors => ?_) stage mirrors
  exact run_alike Mirrors (fun request scene shared => mirrors_step _ request scene shared)
    (Pixels.perform settings task) mirrors

end Alone

/-! ### What others ask for -/

section Doable

variable {Result Next : Type} {codec : Codec} {scene : Scene} {gives : Result → Option Canvas}

/-- By deeds of theirs, others bring about what a procedure does to what is shared, and hold the
image that it gives. -/
def Doable (codec : Codec) (gives : Result → Option Canvas)
    (procedure : Procedure WorkerAccess Result) (scene : Scene) : Prop :=
  ∃ deeds,
    let ended := procedure.run (SharedState.step codec) scene.shared
    (scene.after codec deeds).shared = ended.2 ∧
      ∀ canvas, gives ended.1 = some canvas → canvas ∈ (scene.after codec deeds).others

theorem after_append (earlier later : List Deed) :
    scene.after codec (earlier ++ later) = (scene.after codec earlier).after codec later :=
  List.foldl_append

theorem Doable.done {result : Result}
    (held : ∀ canvas, gives result = some canvas → canvas ∈ scene.others) :
    scene.Doable codec gives (.done result) :=
  ⟨[], rfl, held⟩

/-- A step is done by deeds that change what is shared as it does. -/
theorem Doable.ask {request : WorkerStep} {next : request.Answer → Procedure WorkerAccess Result}
    (deeds : List Deed)
    (same : (scene.after codec deeds).shared = (SharedState.step codec request scene.shared).2)
    (further : (scene.after codec deeds).Doable codec gives
      (next (SharedState.step codec request scene.shared).1)) :
    scene.Doable codec gives (.ask request next) := by
  obtain ⟨later, ends, held⟩ := further
  rw [same] at ends held
  refine ⟨deeds ++ later, ?_⟩
  rw [after_append]
  exact ⟨ends, held⟩

/-- A sequence is done by doing its first part and then, from wherever that ends, its second. -/
theorem Doable.bind {first : Procedure WorkerAccess Next}
    {second : Next → Procedure WorkerAccess Result} {reached : Next → Option Canvas}
    (sound : scene.Sound) (begins : scene.Doable codec reached first)
    (ends : ∀ middle : Scene, middle.Sound →
      middle.Doable codec gives (second (first.run (SharedState.step codec) scene.shared).1)) :
    scene.Doable codec gives (first.bind second) := by
  obtain ⟨earlier, same, -⟩ := begins
  obtain ⟨later, shared, held⟩ := ends (scene.after codec earlier) (sound.after earlier)
  rw [same] at shared held
  refine ⟨earlier ++ later, ?_⟩
  rw [after_append, run_bind]
  exact ⟨shared, held⟩

end Doable

section Images

/-! ### Work that gives an image -/

variable {codec : Codec} {scene : Scene} {gives : Except EngineError Canvas → Option Canvas}
  (reads : ReadsImage gives)

include reads in
theorem doable_failure (failure : EngineError) :
    scene.Doable codec gives (.done (.error failure)) := by
  refine .done fun canvas given => ?_
  cases (reads.failure failure).symm.trans given

include reads in
theorem doable_success {canvas : Canvas} (held : canvas ∈ scene.others) :
    scene.Doable codec gives (.done (.ok canvas)) := by
  refine .done fun fresh given => ?_
  cases (reads.success canvas).symm.trans given
  exact held

include reads in
/-- A transform makes an image, if it does not give back the one it is given. -/
theorem doable_transform {canvas : Canvas} {Stays : Prop} {work : Pixels.Attempt Canvas}
    (transform : Pixels.Transform canvas Stays work) (held : canvas ∈ scene.others) :
    scene.Doable codec gives work := by
  cases transform with
  | fail failure => exact doable_failure reads failure
  | stay stays => exact doable_success reads held
  | replace raster =>
    exact .ask [.make false raster canvas.orientation] rfl
      (doable_success reads List.mem_cons_self)
  | resample size =>
    exact .ask [] rfl (.ask [.make false _ canvas.orientation] rfl
      (doable_success reads List.mem_cons_self))

include reads in
/-- What a decode makes may be stored. -/
theorem doable_remember_own (sound : scene.Sound) (raster : Raster) (orientation : UInt8)
    (key : String) :
    scene.Doable codec gives ((Pixels.own raster orientation).bind (Pixels.remember key)) := by
  refine .ask [.make true raster orientation] rfl ?_
  let canvas : Canvas := ⟨scene.shared.next, raster, orientation⟩
  let size := UInt64.ofNat raster.byteCount
  let made := scene.after codec [.make true raster orientation]
  have fresh : (scene.act codec true .fresh).Storable canvas.buffer := sound.storable_fresh
  have found : made.others[0]? = some canvas := rfl
  have keeps : made.after codec [.keep 0 key size] =
      made.act codec true (.store key canvas size) := deed_keep found fresh.unmade key size
  refine .ask [.keep 0 key size] (congrArg Scene.shared keeps) (doable_success reads ?_)
  show canvas ∈ (made.after codec [.keep 0 key size]).others
  rw [keeps, others_act]
  exact List.mem_cons_self

include reads in
theorem doable_decodeFull (sound : scene.Sound) (data : Bytes) (format : Format) :
    scene.Doable codec gives (Pixels.decodeFull data format) := by
  refine .ask [.find (Cache.key data format 1)] rfl ?_
  have looked : (scene.after codec [.find (Cache.key data format 1)]).Sound := sound.after _
  cases found : (SharedState.step codec (.lookup (Cache.key data format 1)) scene.shared).1 with
  | some canvas =>
    refine doable_success reads (List.mem_append_left _ ?_)
    exact Option.mem_toList.2 found
  | none =>
    refine .ask [] rfl ?_
    split
    · exact doable_failure reads _
    · exact doable_remember_own reads looked _ _ _

include reads in
theorem doable_decode (sound : scene.Sound) (data : Bytes) (format : Format) (shrink : UInt32) :
    scene.Doable codec gives (Pixels.decode data format shrink) := by
  unfold Pixels.decode
  split
  · exact doable_decodeFull reads sound data format
  · refine .ask [.find (Cache.key data format shrink)] rfl ?_
    have looked : (scene.after codec [.find (Cache.key data format shrink)]).Sound := sound.after _
    cases found : (SharedState.step codec (.lookup (Cache.key data format shrink))
      scene.shared).1 with
    | some canvas =>
      refine doable_success reads (List.mem_append_left _ ?_)
      exact Option.mem_toList.2 found
    | none =>
      refine .bind looked (doable_decodeFull reads looked data format) ?_
      intro middle sound
      split
      · exact doable_failure reads _
      · exact .ask [] rfl (doable_remember_own reads sound _ _ _)

end Images

variable {Scale : Type} [ScaleFactor Scale]

/-- Whatever the engine is asked for on an image that others hold comes to the same as deeds. -/
theorem doable_perform (codec : Codec) (settings : EngineSettings) {scene : Scene}
    (sound : scene.Sound) (task : Task Canvas Scale)
    (held : ∀ canvas, task.subject? = some canvas → canvas ∈ scene.others) :
    scene.Doable codec task.product? (Pixels.perform settings task) := by
  cases task with
  | decode data format shrink =>
    exact doable_decode ⟨fun _ => rfl, fun _ => rfl⟩ sound data format shrink
  | encode canvas format quality | now => exact .ask [] rfl (.done nofun)
  | premultiply canvas =>
    refine .ask [.make false canvas.raster.premultiplied canvas.orientation] rfl (.done ?_)
    rintro _ ⟨⟩
    exact List.mem_cons_self
  | resize canvas scale =>
    exact doable_transform ⟨fun _ => rfl, fun _ => rfl⟩ (Pixels.transform_resize canvas scale)
      (held canvas rfl)
  | rotate canvas turn =>
    exact doable_transform ⟨fun _ => rfl, fun _ => rfl⟩ (Pixels.transform_rotate canvas turn)
      (held canvas rfl)
  | crop canvas region =>
    exact doable_transform ⟨fun _ => rfl, fun _ => rfl⟩ (Pixels.transform_crop canvas region)
      (held canvas rfl)
  | unpremultiply canvas band =>
    exact doable_transform ⟨fun _ => rfl, fun _ => rfl⟩
      (Pixels.transform_unpremultiply canvas band) (held canvas rfl)
  | smartCrop canvas size =>
    exact doable_transform ⟨fun _ => rfl, fun _ => rfl⟩
      (Pixels.transform_smartCrop settings canvas size) (held canvas rfl)
  | flip canvas | convert canvas target | copy canvas =>
    exact doable_transform ⟨fun _ => rfl, fun _ => rfl⟩ (@Pixels.Transform.replace canvas False _)
      (held canvas rfl)

end Scene

end Thumbnailer
