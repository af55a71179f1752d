/-
This file shows that the guards of the engine that works on pixels are met whenever a request asks
for work. The factor of a plan can be used, whatever the sizes. What is divided by alpha was
multiplied by it before, which makes it floating point, and scaling keeps that. Scaling leaves no
axis empty, a turn exchanges axes, and a target of FILL or CROP gives both, so that the window that
is cut has pixels and lies in the image. What the settings do not offer is refused before any work
is done.

So nothing but the codec can fail. The shared state is left open, and the cache with it: a second
decode may find any image at all.
-/

import Thumbnailer.Proofs.Contract
import Thumbnailer.Proofs.Failure
import Thumbnailer.Proofs.Magnitude

namespace Thumbnailer

open Procedure Stage Protocol

/-- An image of at least one pixel. -/
def Canvas.Filled (canvas : Canvas) : Prop :=
  ∀ axis, canvas.raster.size.along axis ≠ 0

theorem Canvas.Filled.of_size {canvas other : Canvas} (filled : canvas.Filled)
    (same : other.raster.size = canvas.raster.size) : other.Filled := by
  unfold Filled
  rw [same]
  exact filled

/-- What the settings do not offer is refused. -/
theorem offered_of_accepted {settings : EngineSettings} {request : Request}
    (accepted : request.refusal? settings.capabilities = none) :
    (request.options.gravity = .smart → settings.smartCrop = true) ∧
      request.options.format ≠ .gif := by
  have lack := lack?_of_accepted accepted
  unfold Capabilities.lack? at lack
  split at lack
  · cases lack
  case isFalse offers =>
    split at lack
    · cases lack
    · split at lack
      · cases lack
      case isFalse writes =>
        refine ⟨fun smart => ?_, fun gif => writes ?_⟩
        · exact Decidable.byContradiction fun missing =>
            offers ⟨smart, eq_false_of_ne_true missing⟩
        · rw [gif]
          rfl

namespace Pixels

variable {Scale : Type} [ScaleFactor Scale]

/-- The engine is asked for what its guards admit, and to decode nothing but what is wanted; it
answers as the task tells. -/
def contract (codec : Codec) (settings : EngineSettings) (Wanted : Wish → Prop) :
    Contract Canvas Scale where
  welcome task := Admits settings task ∧
    ∀ data format shrink, task = .decode data format shrink → Wanted ⟨data, format, shrink⟩
  grants := Tells codec

end Pixels

/-! ### The stages of a request -/

namespace Stage

open Pixels (contract Admits Tells Gives)

section Stages

variable {Scale : Type} [ScaleFactor Scale] {codec : Codec} {settings : EngineSettings}
  {Wanted : Wish → Prop}

/-- Work that gives an image keeps the contract if its guard is met and it reads nothing. -/
theorem keeps_gives {size : Size} {goal : Canvas → Prop} {task : Task Canvas Scale}
    {read : task.Answer → Except EngineError Canvas} (admits : Admits settings task)
    (reads : ∀ data format shrink, task ≠ .decode data format shrink)
    (gives : ∀ answer, Tells codec task answer → Gives (read answer) size)
    (meets : ∀ canvas, canvas.raster.size = size → goal canvas) :
    (work (.ask task fun answer => .done (read answer))).Keeps (contract codec settings Wanted)
      goal := by
  refine keeps_work ⟨admits, fun _ _ _ same => absurd same (reads _ _ _)⟩ ?_
  intro answer value tells succeeds
  obtain ⟨canvas, given, sizeIs⟩ := gives answer tells
  cases given.symm.trans succeeds
  exact meets _ sizeIs

/-- Scaling fills every axis and keeps the colour type. -/
theorem keeps_resize (least : ∀ (axis : UInt32) (scale : Scale), ScaleFactor.resize axis scale ≠ 0)
    {scale : Scale} (usable : ScaleFactor.usable scale = true) {goal : Canvas → Prop}
    {canvas : Canvas} (meets : ∀ scaled : Canvas, scaled.Filled →
      scaled.raster.colour = canvas.raster.colour → goal scaled) :
    (resize canvas scale).Keeps (contract codec settings Wanted) goal := by
  refine keeps_work ⟨usable, nofun⟩ ?_
  rintro answer scaled ⟨_, rfl, sizeIs, colourIs⟩ ⟨⟩
  refine meets scaled (fun axis => ?_) colourIs
  rw [sizeIs]
  exact Rehearsal.along_scaled_ne_zero least canvas.raster.size scale axis

theorem keeps_scaleEvenly
    (least : ∀ (axis : UInt32) (scale : Scale), ScaleFactor.resize axis scale ≠ 0)
    {scale : Scale} (usable : ScaleFactor.usable scale = true) (canvas : Canvas) :
    (scaleEvenly canvas scale).Keeps (contract codec settings Wanted) Canvas.Filled := by
  refine keeps_ite (fun _ => ?_) fun _ => keeps_resize least usable fun scaled filled _ => filled
  have multiplies : (premultiply canvas : Stage Canvas Scale _).Keeps
      (contract codec settings Wanted) fun changed => changed.1.raster.colour = .rgba32f := by
    refine keeps_work ⟨trivial, nofun⟩ ?_
    rintro answer changed ⟨_, _, rfl, -, colourIs⟩ ⟨⟩
    exact colourIs
  refine keeps_bind multiplies fun multiplied floats => ?_
  have scales : (resize multiplied.1 scale).Keeps (contract codec settings Wanted)
      fun scaled => scaled.Filled ∧ scaled.raster.colour = .rgba32f :=
    keeps_resize least usable fun scaled filled same => ⟨filled, same.trans floats⟩
  refine keeps_bind scales fun scaled ⟨filled, floats⟩ => ?_
  exact keeps_gives floats nofun (fun _ tells => tells) fun _ => filled.of_size

theorem keeps_normalizeColour {canvas : Canvas} (filled : canvas.Filled) :
    (normalizeColour canvas : Stage Canvas Scale Canvas).Keeps (contract codec settings Wanted)
      Canvas.Filled :=
  keeps_ite (fun _ => keeps_pure filled) fun _ =>
    keeps_gives trivial nofun (fun _ tells => tells) fun _ => filled.of_size

theorem keeps_copy {canvas : Canvas} (filled : canvas.Filled) :
    (copy canvas : Stage Canvas Scale Canvas).Keeps (contract codec settings Wanted)
      fun copied => copied.Filled ∧ copied.raster.size = canvas.raster.size :=
  keeps_gives trivial nofun (fun _ tells => tells) fun _ same => ⟨filled.of_size same, same⟩

theorem keeps_orient {canvas : Canvas} (filled : canvas.Filled) (appearance : Appearance) :
    (orient canvas appearance : Stage Canvas Scale Canvas).Keeps (contract codec settings Wanted)
      Canvas.Filled := by
  have mirrors : ∀ turned : Canvas, turned.Filled → (if appearance.mirrored then flip turned
      else pure turned : Stage Canvas Scale Canvas).Keeps (contract codec settings Wanted)
        Canvas.Filled := fun turned filled =>
    keeps_ite (fun _ => keeps_gives trivial nofun (fun _ tells => tells) fun _ => filled.of_size)
      fun _ => keeps_pure filled
  refine keeps_bind (keeps_copy filled) fun owned ⟨filled, _⟩ => ?_
  refine keeps_ite (fun _ => keeps_bind (keeps_pure filled) mirrors) fun _ => ?_
  refine keeps_bind (keeps_gives trivial nofun (fun _ tells => tells) fun turned sizeIs => ?_)
    mirrors
  intro axis
  rw [sizeIs]
  exact along_apply_ne_zero filled _ axis

/-- What is cut lies in the image, wherever the window is placed. -/
theorem keeps_cut {canvas : Canvas} (filled : canvas.Filled) (owned : Bool) {target : Size}
    (given : ∀ axis, target.along axis ≠ 0) {gravity : Gravity}
    (offered : gravity = .smart → settings.smartCrop = true) :
    (cut canvas owned target gravity : Stage Canvas Scale Canvas).Keeps
      (contract codec settings Wanted) fun _ => True := by
  have copies : ∀ {cuts : Canvas → Stage Canvas Scale Canvas},
      (∀ exclusive : Canvas, exclusive.raster.size = canvas.raster.size → (cuts exclusive).Keeps
        (contract codec settings Wanted) fun _ => True) →
        (if owned then pure canvas >>= cuts else copy canvas >>= cuts).Keeps
          (contract codec settings Wanted) fun _ => True := by
    intro cuts keeps
    refine keeps_ite (fun _ => keeps canvas rfl) fun _ => ?_
    exact keeps_bind (keeps_copy filled) fun exclusive ⟨_, same⟩ => keeps exclusive same
  have pixels : ∀ axis, (target.meet canvas.raster.size).along axis ≠ 0 := fun axis =>
    along_meet_ne_zero (given axis) (filled axis)
  refine keeps_ite (fun smart => copies fun exclusive same => ?_) fun _ =>
    keeps_ite (fun _ => keeps_pure trivial) fun _ => copies fun exclusive same => ?_
  · have cuts : (Saliency.window exclusive.raster target).Cuts exclusive.raster.size := by
      refine Region.cuts_of_inside (Saliency.inside_window _ _) ?_
      rw [Saliency.size_window, same]
      exact pixels
    exact keeps_gives ⟨offered smart, cuts⟩ nofun (fun _ tells => tells) fun _ _ => trivial
  · have cuts : (gravityWindow canvas.raster.size target gravity).Cuts exclusive.raster.size := by
      rw [same]
      exact Region.cuts_of_inside (inside_gravityWindow _ _ _) pixels
    exact keeps_gives cuts nofun (fun _ tells => tells) fun _ _ => trivial

theorem keeps_orientAndCut {canvas : Canvas} (filled : canvas.Filled) (appearance : Appearance)
    {target : Size} {options : Options}
    (given : options.resize ≠ .fit → ∀ axis, target.along axis ≠ 0)
    (offered : options.gravity = .smart → settings.smartCrop = true) :
    (orientAndCut canvas appearance target options : Stage Canvas Scale Canvas).Keeps
      (contract codec settings Wanted) fun _ => True := by
  have cuts : ∀ oriented : Canvas, oriented.Filled → (if options.resize = .fit then pure oriented
      else cut oriented appearance.needsOrientation target options.gravity :
        Stage Canvas Scale Canvas).Keeps (contract codec settings Wanted) fun _ => True :=
    fun oriented filled => keeps_ite (fun _ => keeps_pure trivial) fun mode =>
      keeps_cut filled _ (given mode) offered
  exact keeps_ite (fun _ => keeps_bind (keeps_orient filled appearance) cuts)
    fun _ => keeps_bind (keeps_pure filled) cuts

theorem keeps_transform
    (least : ∀ (axis : UInt32) (scale : Scale), ScaleFactor.resize axis scale ≠ 0)
    {canvas : Canvas} (filled : canvas.Filled) {request : Request} (appearance : Appearance)
    {plan : Plan Scale} (usable : ScaleFactor.usable plan.scale = true)
    (given : request.options.resize ≠ .fit → ∀ axis, plan.target.along axis ≠ 0)
    (offered : request.options.gravity = .smart → settings.smartCrop = true)
    (wanted : Wanted ⟨request.data, request.format, plan.shrink⟩) :
    (transform canvas request appearance plan).Keeps
      (contract codec settings Wanted) fun _ => True := by
  have finishes : ∀ scaled : Canvas, scaled.Filled → (do
      let standard ← normalizeColour scaled
      checkpoint request.deadline
      let finished ← orientAndCut standard appearance plan.target request.options
      checkpoint request.deadline
      pure finished : Stage Canvas Scale Canvas).Keeps
        (contract codec settings Wanted) fun _ => True := by
    intro scaled filled
    refine keeps_bind (keeps_normalizeColour filled) fun standard filled => ?_
    refine keeps_bind (keeps_checkpoint ⟨trivial, nofun⟩) fun _ _ => ?_
    refine keeps_bind (keeps_orientAndCut filled appearance given offered) fun finished _ => ?_
    exact keeps_bind (keeps_checkpoint ⟨trivial, nofun⟩) fun _ _ => keeps_pure trivial
  have scales : ∀ source : Canvas, True → (scaleEvenly source plan.scale >>= _).Keeps
      (contract codec settings Wanted) fun _ => True :=
    fun source _ => keeps_bind (keeps_scaleEvenly least usable source) finishes
  refine keeps_ite (fun _ => keeps_bind (keeps_pure filled) finishes) fun _ => ?_
  refine keeps_ite (fun _ => keeps_bind (keeps_work ⟨trivial, ?_⟩ fun _ _ _ _ => trivial) scales)
    fun _ => keeps_bind (keeps_pure trivial) scales
  rintro data format shrink ⟨⟩
  exact wanted

/-- A request that is accepted keeps the contract once its source is decoded. -/
theorem keeps_serve
    (least : ∀ (axis : UInt32) (scale : Scale), ScaleFactor.resize axis scale ≠ 0)
    {request : Request} (accepted : request.refusal? settings.capabilities = none)
    (usable : ∀ size, ScaleFactor.usable
      (Plan.of size request.options request.format : Plan Scale).scale = true) :
    ∃ further : Canvas → Stage Canvas Scale Bytes,
      serve request = decode request.data request.format 1 >>= further ∧
        ∀ canvas, canvas.Filled →
          let plan : Plan Scale :=
            .of (appearanceOf canvas).size request.options request.format
          Wanted ⟨request.data, request.format, plan.shrink⟩ →
            (further canvas).Keeps (contract codec settings Wanted) fun _ => True := by
  obtain ⟨offered, writes⟩ := offered_of_accepted accepted
  refine ⟨_, rfl, fun canvas filled => ?_⟩
  intro plan wanted
  have given : request.options.resize ≠ .fit → ∀ axis, plan.target.along axis ≠ 0 := by
    intro mode
    rw [Plan.of_target]
    exact Options.clampedBox_given_of_cut mode (validate_of_accepted accepted)
      (along_apply_ne_zero filled _)
  have encodes : ∀ finished : Canvas, True → (do
      checkpoint request.deadline
      encode finished request.options.format request.quality :
        Stage Canvas Scale Bytes).Keeps
          (contract codec settings Wanted) fun _ => True :=
    fun finished _ => keeps_bind (keeps_checkpoint ⟨trivial, nofun⟩) fun _ _ =>
      keeps_work ⟨writes, nofun⟩ fun _ _ _ _ => trivial
  refine keeps_bind (keeps_checkpoint ⟨trivial, nofun⟩) fun _ _ => ?_
  refine keeps_ite (fun _ => keeps_bind (keeps_pure trivial) encodes) fun _ => ?_
  exact keeps_bind (keeps_transform least filled _ (usable _) given offered wanted) encodes

end Stages

end Stage

/-! ### Failures of a request -/

namespace Pixels

section Process

variable {Scale : Type} [ScaleFactor Scale] {codec : Codec} {settings : EngineSettings}
  {request : Request} {start : SharedState}

/-- In a run of a request every task meets its guard and nothing is decoded but what is wanted, if
that is so of the source at full size and at the reduction of the plan; and the shared state keeps
within any bounds that such tasks keep. -/
theorem welcome_process (exact : codec.Exact) (Wanted : Wish → Prop) (Within : SharedState → Prop)
    (least : ∀ (axis : UInt32) (scale : Scale), ScaleFactor.resize axis scale ≠ 0)
    (usable : ∀ size, ScaleFactor.usable
      (Plan.of size request.options request.format : Plan Scale).scale = true)
    (first : Wanted ⟨request.data, request.format, 1⟩)
    (second : ∀ canvas, (engine codec settings
      (.decode request.data request.format 1 : Task Canvas Scale) start).1 = .ok canvas →
        let plan : Plan Scale := .of (appearanceOf canvas).size request.options request.format
        canvas.Filled ∧ Wanted ⟨request.data, request.format, plan.shrink⟩)
    (remains : ∀ (task : Task Canvas Scale) state, Within state →
      (contract codec settings Wanted).welcome task →
        Within (engine codec settings task state).2)
    (within : Within start) :
    ∀ exchange ∈ transcript (engine codec settings)
      (process settings.capabilities request : Stage Canvas Scale Bytes) start,
        (contract codec settings Wanted).welcome exchange.1 ∧
          ∃ state, Within state ∧ exchange.2 = (engine codec settings exchange.1 state).1 := by
  cases decision : request.refusal? settings.capabilities with
  | some refusal =>
    rw [(refused_process (engine codec settings) start decision).1]
    exact List.forall_mem_nil _
  | none =>
    obtain ⟨further, begins, keeps⟩ := @keeps_serve Scale _ codec settings Wanted least request
      decision usable
    rw [process_of_accepted decision, begins, Stage.decode, transcript_work_bind]
    have welcome : (contract codec settings Wanted).welcome
        (.decode request.data request.format 1 : Task Canvas Scale) := by
      refine ⟨trivial, ?_⟩
      rintro data format shrink ⟨⟩
      exact first
    refine List.forall_mem_cons.2 ⟨⟨welcome, start, within, rfl⟩, ?_⟩
    have kept := remains _ start within welcome
    cases opened : (engine codec settings
        (.decode request.data request.format 1 : Task Canvas Scale) start).1 with
    | error failure => exact List.forall_mem_nil _
    | ok canvas =>
      obtain ⟨filled, wanted⟩ := second canvas opened
      exact (keeps canvas filled wanted).transcript Within (fun task state within welcome =>
        ⟨tells_engine exact welcome.1, remains task state within welcome⟩) kept

end Process

/-- Whatever is in the cache, if the source decodes to an image of at least one pixel, then every
task of the request meets the guard of the engine, and an error of the engine is one of the codec,
at the last task. So no primitive fails but reading and writing. -/
theorem admits_process (codec : Codec) (settings : EngineSettings) (request : Request)
    (start : SharedState) (exact : codec.Exact)
    (filled : ∀ canvas, (engine codec settings
      (.decode request.data request.format 1 : Task Canvas Float) start).1 = .ok canvas →
        canvas.Filled) :
    let engine : Handler (Work Canvas Float) SharedState := engine codec settings
    let process := process settings.capabilities request
    settings.capabilities.usable = .ok settings.capabilities ∧
      (∀ exchange ∈ transcript engine process start, Admits settings exchange.1) ∧
      (∀ failure, (run engine process start).1 = .error (.engine failure) →
        ∃ before task answer, transcript engine process start = before ++ [⟨task, answer⟩] ∧
          CodecFails codec task failure) ∧
      ∀ primitive detail,
        (run engine process start).1 ≠ .error (.engine (.operation primitive detail)) := by
  intro engine process
  have tells : ∀ exchange ∈ transcript engine process start,
      Admits settings exchange.1 ∧ Tells codec exchange.1 exchange.2 := by
    intro exchange member
    obtain ⟨welcome, state, -, answered⟩ := welcome_process exact (fun _ => True) (fun _ => True)
      (fun _ _ => max_one_ne_zero _) (fun size => usable_plan size _ _) trivial
      (fun canvas opened => ⟨filled canvas opened, trivial⟩) (fun _ _ _ _ => trivial) trivial
      exchange member
    refine ⟨welcome.1, ?_⟩
    rw [answered]
    exact tells_engine exact welcome.1
  have codecFails : ∀ failure, (run engine process start).1 = .error (.engine failure) →
      ∃ before task answer, transcript engine process start = before ++ [⟨task, answer⟩] ∧
        CodecFails codec task failure := by
    intro failure fails
    obtain ⟨before, task, answer, last, stops⟩ := stopped_process engine fails
    have member : ⟨task, answer⟩ ∈ transcript engine process start := by
      rw [last]
      exact List.mem_append_right _ (List.mem_singleton_self _)
    exact ⟨before, task, answer, last, (tells _ member).2.codecFails stops⟩
  refine ⟨rfl, fun exchange member => (tells exchange member).1, codecFails, ?_⟩
  intro primitive detail fails
  obtain ⟨before, task, answer, last, blamed⟩ := codecFails _ fails
  exact blamed.not_operation

/-- To cut the most salient pixel out of a translucent picture of four by two pixels that is stored
on its side. -/
def translucentRequest : Request where
  data := Container.pack .png
    { size := ⟨4, 2⟩, colour := .rgba8, pixels := some (Array.replicate 8 [10, 20, 30, 128]) } 6
  format := .png
  options := { resize := .fill, width := 1, height := 1, gravity := .smart, format := .jpeg }
  quality := .standard
  deadline := .never { nanoseconds := 0 }

theorem admits_process_translucent :
    let start := SharedState.initial 1024 1
    let engine : Handler (Work Canvas Float) SharedState := engine Container.codec {}
    let process := process ({} : EngineSettings).capabilities translucentRequest
    Container.codec.Exact ∧
      (∀ canvas, (engine (.decode translucentRequest.data .png 1) start).1 = .ok canvas →
        canvas.Filled) ∧
      (∀ exchange ∈ transcript engine process start, Admits {} exchange.1) ∧
      ∀ primitive detail,
        (run engine process start).1 ≠ .error (.engine (.operation primitive detail)) := by
  intro start engine process
  have filled : ∀ canvas, (engine (.decode translucentRequest.data .png 1) start).1 = .ok canvas →
      canvas.Filled := by
    intro canvas opened
    let wish : Wish := ⟨translucentRequest.data, .png, 1⟩
    have apart : Wish.KeysApart [wish] := fun first firstIs second secondIs _ =>
      (List.mem_singleton.1 firstIs).trans (List.mem_singleton.1 secondIs).symm
    have known : ∀ part ∈ wish.parts, part ∈ [wish] := by decide +kernel
    have fulfils : Fulfils Container.codec wish (engine (.decode wish.data .png 1) start).1 :=
      (fulfils_engine apart known (Truthful.initial _ _ _ _)).1
    rw [Fulfils, opened] at fulfils
    have reads : (wish.outcome Container.codec).map (fun decoded => decoded.raster.size) =
        .ok ⟨4, 2⟩ := by
      decide +kernel
    rw [← fulfils] at reads
    have sizeIs : canvas.raster.size = ⟨4, 2⟩ := Except.ok.inj reads
    intro axis
    rw [sizeIs]
    cases axis <;> decide
  have admits := admits_process Container.codec {} translucentRequest start Container.exact_codec
    filled
  exact ⟨Container.exact_codec, filled, admits.2.1, admits.2.2.2⟩

end Pixels

end Thumbnailer
