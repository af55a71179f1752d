/-
This file shows that rehearsals are faithful in what has to do with geometry. A rehearsal that
nothing goes wrong in does to the sizes of its sketches what each task is for, and so does the
engine that works on pixels to the sizes of its images, if what it has cached is what decoding
gives. So a request makes the same gestures of both, and each leaves an image of the same size,
although the images are of different kinds and the two do not check the same things. A smart crop is
an instance: a rehearsal clamps the target to the image, the engine looks for a window, and the
sizes are the same.

The two part where pictures are too large. A rehearsal does not search, so that it makes a smart
crop even of a picture whose pixels cannot be counted; and what it encodes is a few words, whatever
size a format can hold. The engine finds a window exactly where the picture can be searched, or all
of it is kept.

Alpha need not be the same. It has a say in colour only.
-/

import Thumbnailer.Proofs.Cache.Ledger
import Thumbnailer.Proofs.Gestures
import Thumbnailer.Proofs.Guards
import Thumbnailer.Proofs.Saliency.Search

namespace Thumbnailer

open Procedure Stage Gestures

variable {Scale : Type} [ScaleFactor Scale] {commission : Commission}

/-! ### Rehearsals -/

namespace Rehearsal

/-- A rehearsal of a picture that is stored like this, in which no primitive fails and none uses
time up, and no data is refused. -/
structure Rehearses (rehearsal : Rehearsal) (stored : Size) (tag : UInt8) : Prop where
  size : rehearsal.source.size = stored
  orientation : rehearsal.source.orientation = tag
  failing : rehearsal.failing = none
  stalling : rehearsal.stalling = none
  refusing : rehearsal.refusing = none

variable {rehearsal : Rehearsal}

omit [ScaleFactor Scale] in
/-- A primitive is written down, and nothing else happens. -/
theorem note_eq (failing : rehearsal.failing = none) (stalling : rehearsal.stalling = none)
    (entry : Entry Scale) (record : Record Scale) :
    rehearsal.note entry record =
      (.ok (), { record with entries := record.entries ++ [entry] }) := by
  unfold note
  rw [failing, stalling]
  rfl

/-- A rehearsal keeps to what the tasks are for. -/
theorem grants_engine (rehearses : rehearsal.Rehearses commission.stored commission.tag)
    (task : Task Sketch Scale) {record : Record Scale}
    (timely : commission.request.deadline.expired record.clock = commission.late)
    (welcome : (contract commission fun sketch => sketch.premultiplied = true).welcome task) :
    (contract commission fun sketch => sketch.premultiplied = true).grants task
        (rehearsal.engine task record).1 ∧
      commission.request.deadline.expired (rehearsal.engine task record).2.clock =
        commission.late := by
  have noted := @note_eq Scale rehearsal rehearses.failing rehearses.stalling
  cases task with
  | now => exact ⟨timely, timely⟩
  | decode data format shrink =>
    obtain ⟨rfl, -, -⟩ := welcome
    unfold engine decoded refuses
    dsimp only
    rw [noted, rehearses.refusing]
    refine ⟨⟨_, rfl, ?_, rehearses.orientation⟩, timely⟩
    rw [← rehearses.size]
    rfl
  | encode image format quality =>
    unfold engine
    dsimp only
    rw [noted]
    exact ⟨trivial, timely⟩
  | resize image scale =>
    unfold engine Rehearsal.noted
    dsimp only
    rw [noted]
    exact ⟨⟨_, rfl, rfl, id⟩, timely⟩
  | premultiply image =>
    unfold engine Rehearsal.noted
    dsimp only
    rw [noted]
    exact ⟨⟨_, _, rfl, rfl, rfl⟩, timely⟩
  | crop image region =>
    unfold engine Rehearsal.noted cropped
    dsimp only
    rw [noted, if_pos (show region.Inside image.size from welcome.1)]
    exact ⟨⟨_, rfl, rfl⟩, timely⟩
  | unpremultiply image band =>
    unfold engine Rehearsal.noted divided
    dsimp only
    rw [noted, if_pos (show image.premultiplied = true from welcome)]
    exact ⟨⟨_, rfl, rfl⟩, timely⟩
  | _ =>
    unfold engine Rehearsal.noted
    dsimp only
    rw [noted]
    exact ⟨⟨_, rfl, rfl⟩, timely⟩

end Rehearsal

/-! ### The engine that works on pixels -/

namespace Pixels

variable {codec : Codec} {settings : EngineSettings} {stored : Decoded}

/-- What has been multiplied by alpha. -/
def Floats (canvas : Canvas) : Prop :=
  canvas.raster.colour = .rgba32f

/-- The shared state is fit for a commission: its cache is truthful about some wishes, and its clock
shows whether the commission is late. -/
def Serves (codec : Codec) (commission : Commission) (wishes : List Wish) (state : SharedState) :
    Prop :=
  Truthful codec wishes state ∧
    commission.request.deadline.expired state.clock = commission.late

/-- The engine keeps to what the tasks are for. -/
theorem grants_engine (exact : codec.Exact)
    (reads : codec.decode commission.request.data commission.request.format = .ok stored)
    (sizeIs : stored.raster.size = commission.stored) (tagIs : stored.orientation = commission.tag)
    (accepted : commission.request.refusal? settings.capabilities = none) {wishes : List Wish}
    (apart : Wish.KeysApart wishes)
    (known : ∀ shrink, shrink = 1 ∨ shrink = (commission.plan : Plan Scale).shrink →
      ∀ part ∈ Wish.parts ⟨commission.request.data, commission.request.format, shrink⟩,
        part ∈ wishes)
    (task : Task Canvas Scale) {state : SharedState}
    (serves : Serves codec commission wishes state)
    (welcome : (Gestures.contract commission Floats).welcome task) :
    (Gestures.contract commission Floats).grants task (engine codec settings task state).1 ∧
      Serves codec commission wishes (engine codec settings task state).2 := by
  have tells : Admits settings task → Tells codec task (engine codec settings task state).1 :=
    tells_engine exact
  refine ⟨?_, truthful_engine apart ?_ serves.1, ?_⟩
  · -- What is asked for meets the guards of the engine, but for the format to write.
    cases task with
    | decode data format shrink =>
      obtain ⟨rfl, rfl, wanted⟩ := welcome
      obtain ⟨canvas, given, reduced, orientation⟩ := reduced_of_fulfils exact reads
        (@fulfils_engine Scale _ codec settings _ _ _ apart (known shrink wanted) serves.1).1
      exact ⟨canvas, given, reduced.trans (congrArg (Size.reduce · shrink) sizeIs),
        orientation.trans tagIs⟩
    | encode canvas format quality => trivial
    | now => exact serves.2
    | resize canvas scale =>
      obtain ⟨scaled, succeeds, scaledIs, colourIs⟩ := tells welcome
      exact ⟨scaled, succeeds, scaledIs, colourIs.trans⟩
    | crop canvas region => exact tells (Region.cuts_of_inside welcome.1 welcome.2)
    | smartCrop canvas target =>
      obtain ⟨smart, -, pixels⟩ := welcome
      have inside := Saliency.inside_window canvas.raster target
      refine tells ⟨(offered_of_accepted accepted).1 smart, Region.cuts_of_inside inside ?_⟩
      rw [Saliency.size_window]
      exact pixels
    | unpremultiply canvas band => exact tells welcome
    | _ => exact tells trivial
  · rintro data format shrink rfl
    obtain ⟨rfl, rfl, wanted⟩ := welcome
    exact known shrink wanted
  · rw [clock_engine]
    exact serves.2

/-- Of an accepted request the engine makes the gestures of its commission, and every task that it
is asked for is welcome. -/
theorem sights_engine {start : SharedState} (exact : codec.Exact)
    (reads : codec.decode commission.request.data commission.request.format = .ok stored)
    (sizeIs : stored.raster.size = commission.stored) (tagIs : stored.orientation = commission.tag)
    (timely : commission.request.deadline.expired start.clock = commission.late)
    (nonempty : ∀ axis, commission.stored.along axis ≠ 0)
    (accepted : commission.request.refusal? settings.capabilities = none)
    (apart : Wish.KeysApart (Wish.parts ⟨commission.request.data, commission.request.format,
      (commission.plan : Plan Float).shrink⟩))
    (truthful : Truthful codec (Wish.parts ⟨commission.request.data, commission.request.format,
      (commission.plan : Plan Float).shrink⟩) start) :
    let talk := transcript (engine codec settings)
      (process settings.capabilities commission.request : Stage Canvas Float Bytes) start
    sights talk = commission.sights (commission.plan : Plan Float) ∧
      ∀ exchange ∈ talk, (Gestures.contract commission Floats).welcome exchange.1 :=
  sights_process commission Floats (Serves codec commission _)
    (fun task _ within => grants_engine exact reads sizeIs tagIs accepted apart
      (fun _ => Wish.mem_parts_of_either) task within)
    ⟨truthful, timely⟩ (fun _ _ => max_one_ne_zero _) (usable_plan _ _ _) nonempty accepted

omit [ScaleFactor Scale] in
/-- Where an encode is seen, an image of that size was encoded, and the answer is what the codec
writes. -/
theorem exists_encode {procedure : Stage Canvas Float Bytes} {start : SharedState}
    {format : Format} {quality : Quality} {size : Size}
    (seen : ⟨.encode format quality, some size⟩ ∈
      sights (transcript (engine codec settings) procedure start)) :
    ∃ canvas, canvas.raster.size = size ∧
      ⟨.encode canvas format quality,
        (codec.encode canvas.raster format quality).mapError .encode⟩ ∈
          transcript (engine codec settings) procedure start := by
  obtain ⟨⟨task, answer⟩, member, sight⟩ := List.mem_filterMap.1 seen
  have answers : ∀ exchange ∈ transcript (engine codec settings) procedure start,
      ∃ state, exchange.2 = (engine codec settings exchange.1 state).1 :=
    forall_transcript (fun _ state => ⟨state, rfl⟩) _ _
  obtain ⟨state, answered⟩ := answers _ member
  have answered : answer = (engine codec settings task state).1 := answered
  subst answered
  cases task with
  | encode canvas _ _ =>
    cases sight
    exact ⟨canvas, rfl, member⟩
  | _ => cases sight

/-- A smart crop is made of the picture as it is scaled and turned. So its size tells whether a
window is found. -/
theorem window?_of_welcome {canvas : Canvas} {target : Size}
    (welcome : (Gestures.contract commission Floats : Contract Canvas Scale).welcome
      (.smartCrop canvas target)) :
    let upright := commission.upright (commission.plan : Plan Scale)
    Saliency.window? canvas.raster target =
      if target.meet upright = upright ∨ Saliency.Searchable upright then
        some (Saliency.window canvas.raster target)
      else none := by
  intro upright
  obtain ⟨-, stands, pixels⟩ := welcome
  have stands : canvas.raster.size = upright := stands
  have wide : ¬(target.meet canvas.raster.size).width = 0 := pixels .width
  have high : ¬(target.meet canvas.raster.size).height = 0 := pixels .height
  refine if_congr ?_ rfl rfl
  rw [or_iff_right wide, or_iff_right high, stands]

end Pixels

/-! ### The agreement -/

/-- A request makes the same gestures of a rehearsal of a picture and of the engine that works on
its pixels, and what each leaves is of the same size. If it is served in time, it ends with an
encode, and so both are asked to encode images of the same size. Where a smart crop is made of a
picture that it leaves smaller, the picture has to be one that can be searched; then the search
finds a window. -/
theorem sights_rehearsal_eq (codec : Codec) (exact : codec.Exact) (settings : EngineSettings)
    (rehearsal : Rehearsal) (request : Request) (start : SharedState)
    (record : Rehearsal.Record Float) (stored : Decoded)
    (reads : codec.decode request.data request.format = .ok stored)
    (nonempty : ∀ axis, stored.raster.size.along axis ≠ 0)
    (rehearses : rehearsal.Rehearses stored.raster.size stored.orientation)
    (able : rehearsal.capabilities = settings.capabilities)
    (timely : request.deadline.expired record.clock = request.deadline.expired start.clock) :
    let commission : Commission :=
      { stored := stored.raster.size
        tag := stored.orientation
        request := request
        late := request.deadline.expired start.clock }
    let plan : Plan Float := commission.plan
    let wish : Wish := ⟨request.data, request.format, plan.shrink⟩
    let rehearsed := sights (transcript rehearsal.engine
      (process rehearsal.capabilities request : Stage Sketch Float Bytes) record)
    let talk := transcript (Pixels.engine codec settings)
      (process settings.capabilities request : Stage Canvas Float Bytes) start
    Wish.KeysApart wish.parts → Truthful codec wish.parts start →
      (∀ target held, ⟨.smartCrop target, held⟩ ∈ commission.sights plan →
        target.meet (commission.upright plan) = commission.upright plan ∨
          Saliency.Searchable (commission.upright plan)) →
        rehearsed = sights talk ∧
          (∀ exchange ∈ talk, ∀ canvas target, exchange.1 = .smartCrop canvas target →
            Saliency.window? canvas.raster target = some (Saliency.window canvas.raster target)) ∧
          (request.refusal? settings.capabilities = none →
            request.deadline.expired start.clock = false →
              ∃ before, sights talk = before ++
                [⟨.encode request.options.format request.quality,
                  some (commission.finalSize plan)⟩]) := by
  intro commission plan wish rehearsed talk apart truthful findable
  cases decision : request.refusal? settings.capabilities with
  | some refusal =>
    have refused := decision
    rw [← able] at refused
    have silent : talk = [] := (Protocol.refused_process _ start decision).1
    refine ⟨?_, ?_, nofun⟩
    · rw [silent]
      exact congrArg sights (Protocol.refused_process _ record refused).1
    · rw [silent]
      exact List.forall_mem_nil _
  | none =>
    have shownByRehearsal : rehearsed = commission.sights plan := by
      have accepted := decision
      rw [← able] at accepted
      exact (sights_process commission _
        (fun record => request.deadline.expired record.clock = commission.late)
        (fun task _ within => Rehearsal.grants_engine rehearses task within) timely
        (fun _ _ => max_one_ne_zero _) (usable_plan _ _ _) nonempty accepted).1
    obtain ⟨shownByPixels, welcome⟩ : sights talk = commission.sights plan ∧
        ∀ exchange ∈ talk, (Gestures.contract commission Pixels.Floats).welcome exchange.1 :=
      Pixels.sights_engine exact reads rfl rfl rfl nonempty decision apart truthful
    refine ⟨shownByRehearsal.trans shownByPixels.symm, ?_, fun _ inTime => ?_⟩
    · rintro ⟨task, answer⟩ member canvas target rfl
      have seen : ⟨.smartCrop target, Task.held (.smartCrop canvas target) answer⟩ ∈ sights talk :=
        List.mem_filterMap.2 ⟨_, member, rfl⟩
      rw [shownByPixels] at seen
      rw [Pixels.window?_of_welcome (welcome _ member), if_pos (findable target _ seen)]
    · rw [shownByPixels]
      exact commission.sights_of_inTime inTime plan

/-- The rehearsal of a stored picture, by an engine that can do what another can do. -/
def Decoded.rehearsal (stored : Decoded) (settings : EngineSettings) : Rehearsal where
  source :=
    { size := stored.raster.size
      orientation := stored.orientation
      hasAlpha := stored.raster.colour.hasAlpha
      interpretation := stored.raster.colour.interpretation }
  capabilities := settings.capabilities
  band := stored.raster.colour.band
  failing := none
  stalling := none

theorem Decoded.rehearses_rehearsal (stored : Decoded) (settings : EngineSettings) :
    (stored.rehearsal settings).Rehearses stored.raster.size stored.orientation :=
  ⟨rfl, rfl, rfl, rfl, rfl⟩

/-- A translucent grey picture of three by two pixels that is stored on its side. -/
def translucent : Decoded where
  raster := { size := ⟨3, 2⟩, colour := .la8, pixels := some (Array.replicate 6 [10, 128]) }
  orientation := 6

/-- To fill a single pixel with what is most salient, which takes a reduction by two. -/
def pixelRequest : Request where
  data := Container.pack .webp translucent.raster 6
  format := .webp
  options := { resize := .fill, width := 1, height := 1, gravity := .smart, format := .jpeg }
  quality := .standard
  deadline := .never { nanoseconds := 0 }

theorem sights_rehearsal_eq_translucent :
    let rehearsal := translucent.rehearsal {}
    let start := SharedState.initial 1024 4
    let talk := transcript (Pixels.engine Container.codec {})
      (process ({} : EngineSettings).capabilities pixelRequest : Stage Canvas Float Bytes) start
    Container.codec.decode pixelRequest.data .webp = .ok translucent ∧
      rehearsal.Rehearses translucent.raster.size translucent.orientation ∧
      sights (transcript rehearsal.engine (process rehearsal.capabilities pixelRequest :
        Stage Sketch Float Bytes) (Rehearsal.blank { nanoseconds := 7 })) = sights talk ∧
      (sights talk).map Sight.held =
        [some ⟨3, 2⟩, some ⟨2, 1⟩, some ⟨2, 1⟩, some ⟨1, 2⟩, some ⟨1, 1⟩, some ⟨1, 1⟩] ∧
      ∀ exchange ∈ talk, ∀ canvas target, exchange.1 = .smartCrop canvas target →
        Saliency.window? canvas.raster target = some (Saliency.window canvas.raster target) := by
  intro rehearsal start talk
  have reads : Container.codec.decode pixelRequest.data pixelRequest.format = .ok translucent := by
    decide +kernel
  have rehearses := translucent.rehearses_rehearsal {}
  have nonempty : ∀ axis, translucent.raster.size.along axis ≠ 0 := by
    intro axis
    cases axis <;> decide
  let commission : Commission := ⟨⟨3, 2⟩, 6, pixelRequest, false⟩
  let plan : Plan Float := commission.plan
  have apart : Wish.KeysApart (Wish.parts ⟨pixelRequest.data, .webp, plan.shrink⟩) := by
    rw [show plan.shrink = 2 by decide +kernel]
    refine keysApart_of_collisionFree (collisionFree_of_two
      (Wish.material ⟨pixelRequest.data, .webp, 2⟩) (Wish.material ⟨pixelRequest.data, .webp, 1⟩)
      (fun string member => ?_) (by decide +kernel))
    simpa [Wish.parts, Wish.effective, Wish.full] using member
  have searchable : Saliency.Searchable (commission.upright plan) := by decide +kernel
  obtain ⟨same, found, -⟩ := sights_rehearsal_eq Container.codec Container.exact_codec {} rehearsal
    pixelRequest start (Rehearsal.blank { nanoseconds := 7 }) translucent reads nonempty rehearses
    rfl rfl apart (.initial _ _ _ _) fun _ _ _ => .inr searchable
  refine ⟨reads, rehearses, same, ?_, found⟩
  show List.map _ (sights _) = _
  rw [← same]
  decide +kernel

/-- A line of pixels. -/
def ribbon : Decoded where
  raster := .unknown ⟨16384, 1⟩ .l8
  orientation := 1

/-- To write it in a format that cannot hold an axis as long. -/
def ribbonRequest : Request where
  data := Container.pack .png ribbon.raster 1
  format := .png
  options := { resize := .fit, width := 16384, height := 1, format := .webp }
  quality := .standard
  deadline := .never { nanoseconds := 0 }

/-- A picture of more pixels than a word of 32 bits can count. -/
def vast : Decoded where
  raster := .unknown ⟨65536, 65536⟩ .l8
  orientation := 1

/-- To cut out its most salient pixel. -/
def vastRequest : Request where
  data := Container.pack .png vast.raster 1
  format := .png
  options := { resize := .crop, width := 1, height := 1, gravity := .smart, format := .jpeg }
  quality := .standard
  deadline := .never { nanoseconds := 0 }

/-- A rehearsal encodes what a codec refuses to write, and makes a smart crop where the engine finds
no window. -/
theorem rehearsal_unlike_engine :
    let capabilities := ({} : EngineSettings).capabilities
    let rehearse := fun (stored : Decoded) (request : Request) =>
      (run (stored.rehearsal {}).engine
        (process capabilities request : Stage Sketch Float Bytes)
        (Rehearsal.blank { nanoseconds := 0 })).1
    let engine : Handler (Work Canvas Float) SharedState := Pixels.engine Container.codec {}
    let start := SharedState.initial 1024 4
    (Container.codec.decode ribbonRequest.data .png = .ok ribbon ∧
      rehearse ribbon ribbonRequest = .ok (Rehearsal.encoded .webp ⟨16384, 1⟩) ∧
      (run engine (process capabilities ribbonRequest) start).1 =
        .error (.engine (.encode "webp: VP8_ENC_ERROR_BAD_DIMENSION"))) ∧
    Container.codec.decode vastRequest.data .png = .ok vast ∧
      rehearse vast vastRequest = .ok (Rehearsal.encoded .jpeg ⟨1, 1⟩) ∧
      ∃ exchange ∈ transcript engine (process capabilities vastRequest) start,
        ∃ canvas, exchange.1 = .smartCrop canvas ⟨1, 1⟩ ∧
          Saliency.window? canvas.raster ⟨1, 1⟩ = none := by
  intro capabilities rehearse engine start
  have reads : Container.codec.decode vastRequest.data .png = .ok vast := by decide +kernel
  refine ⟨⟨by decide +kernel, by decide +kernel, ?_⟩, reads, by decide +kernel, ?_⟩
  · rw [(Ledger.tells_initial 1024 4).engine]
    decide +kernel
  · let commission : Commission := ⟨⟨65536, 65536⟩, 1, vastRequest, false⟩
    let plan : Plan Float := commission.plan
    have nonempty : ∀ axis, commission.stored.along axis ≠ 0 := by
      intro axis
      cases axis <;> decide
    have apart : Wish.KeysApart (Wish.parts ⟨vastRequest.data, .png, plan.shrink⟩) := by
      rw [show plan.shrink = 1 by decide +kernel]
      exact Wish.keysApart_full ⟨vastRequest.data, .png, 1⟩
    obtain ⟨shown, welcome⟩ := @Pixels.sights_engine commission Container.codec {} vast start
      Container.exact_codec reads rfl rfl rfl nonempty rfl apart (.initial _ _ _ _)
    have seen := @Commission.smartCrop_mem_sights Float _ commission rfl plan (by decide +kernel)
      nofun rfl
    rw [← shown, show plan.target = ⟨1, 1⟩ by decide +kernel] at seen
    obtain ⟨⟨task, answer⟩, member, sight⟩ := List.mem_filterMap.1 seen
    cases task with
    | smartCrop canvas target =>
      obtain rfl : ⟨1, 1⟩ = target := by
        simp only [Task.sight?, Task.gesture?, Option.map_some, Option.some_inj, Sight.mk.injEq,
          Gesture.smartCrop.injEq] at sight
        exact sight.1.symm
      refine ⟨_, member, canvas, rfl, ?_⟩
      rw [Pixels.window?_of_welcome (welcome _ member)]
      exact if_neg (by decide +kernel)
    | _ => cases sight

end Thumbnailer
