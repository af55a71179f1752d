/-
This file shows that what a request gives depends on nothing but what it is given. The depiction of
a request is the same request on images that are their pixels and their tag and nothing else, where
every task is answered by what it is for. There is no cache in it, no buffer and no clock.

On the engine that works on pixels a request without a deadline gives what its depiction gives, its
steps mixed in any way with those of others. For that it is followed task by task beside its
depiction: the images show the same, so what is asked next is the same, and the answers show the
same again.
-/

import Thumbnailer.Proofs.Cache.Transparency
import Thumbnailer.Proofs.Conversation

namespace Thumbnailer

open Procedure

instance : Picture Decoded where
  size image := image.raster.size
  orientation := Decoded.orientation
  hasAlpha image := image.raster.colour.hasAlpha
  interpretation image := image.raster.colour.interpretation

/-! ### Tasks on other images -/

namespace Task

variable {Image Other Scale : Type}

/-- The same task on what the images show. -/
def map (shown : Image → Other) : Task Image Scale → Task Other Scale
  | .decode data format shrink => .decode data format shrink
  | .encode image format quality => .encode (shown image) format quality
  | .resize image scale => .resize (shown image) scale
  | .rotate image turn => .rotate (shown image) turn
  | .flip image => .flip (shown image)
  | .crop image region => .crop (shown image) region
  | .convert image target => .convert (shown image) target
  | .premultiply image => .premultiply (shown image)
  | .unpremultiply image band => .unpremultiply (shown image) band
  | .smartCrop image size => .smartCrop (shown image) size
  | .copy image => .copy (shown image)
  | .now => .now

/-- The same answer, with what the image shows. -/
def mapAnswer (shown : Image → Other) :
    (task : Task Image Scale) → task.Answer → (task.map shown).Answer
  | .encode .., answer => answer
  | .premultiply _, answer => answer.map fun given => (shown given.1, given.2)
  | .now, time => time
  | .decode .., answer | .resize .., answer | .rotate .., answer | .flip _, answer
  | .crop .., answer | .convert .., answer | .unpremultiply .., answer | .smartCrop .., answer
  | .copy _, answer => answer.map shown

/-- The answer does not depend on when the task is asked: it is not the time that is asked for, and
what is decoded is among these wishes. -/
def Settled (wishes : List Wish) : Task Image Scale → Prop
  | .decode data format shrink => ∀ part ∈ Wish.parts ⟨data, format, shrink⟩, part ∈ wishes
  | .now => False
  | .encode .. | .resize .. | .rotate .. | .flip _ | .crop .. | .convert .. | .premultiply _
  | .unpremultiply .. | .smartCrop .. | .copy _ => True

end Task

/-! ### What tasks are for -/

namespace Depiction

def crop (image : Decoded) (region : Region) : Except EngineError Decoded :=
  if region.width ≠ 0 ∧ region.height ≠ 0 ∧ region.Inside image.raster.size then
    .ok { image with raster := image.raster.window region }
  else
    .error (.operation .crop
      ("bad extract area " ++ region.text ++ " for " ++ image.raster.size.text))

def unpremultiply (image : Decoded) (band : Band) : Except EngineError Decoded :=
  if image.raster.colour = .rgba32f then
    .ok { image with raster := image.raster.unpremultiplied band }
  else
    .error (.operation .unpremultiply
      ("expected premultiplied float image, got " ++ image.raster.colour.title))

def smartCrop (settings : EngineSettings) (image : Decoded) (size : Size) :
    Except EngineError Decoded :=
  if settings.smartCrop then crop image (Saliency.window image.raster size)
  else .error (.operation .smartCrop "disabled")

variable {Scale : Type} [ScaleFactor Scale]

def resize (codec : Codec) (image : Decoded) (scale : Scale) : Except EngineError Decoded :=
  if ScaleFactor.usable scale then
    let size : Size :=
      { width := ScaleFactor.resize image.raster.size.width scale
        height := ScaleFactor.resize image.raster.size.height scale }
    if size = image.raster.size then .ok image
    else .ok { image with raster := codec.resample image.raster size }
  else
    .error (.operation .resize ("bad scale " ++ ScaleFactor.text scale))

/-- The answer that a task is for. Nobody is told the time. -/
def answer (codec : Codec) (settings : EngineSettings) :
    (task : Task Decoded Scale) → task.Answer
  | .decode data format shrink => Wish.outcome codec ⟨data, format, shrink⟩
  | .encode image format quality => (codec.encode image.raster format quality).mapError .encode
  | .resize image scale => resize codec image scale
  | .rotate image turn =>
    .ok (if turn = .none then image else { image with raster := image.raster.turned turn })
  | .flip image => .ok { image with raster := image.raster.mirrored }
  | .crop image region => crop image region
  | .convert image target =>
    .ok { image with
          raster := image.raster.convert (.forInterpretation image.raster.colour.hasAlpha target) }
  | .premultiply image =>
    .ok ({ image with raster := image.raster.premultiplied }, image.raster.colour.band)
  | .unpremultiply image band => unpremultiply image band
  | .smartCrop image size => smartCrop settings image size
  | .copy image => .ok image
  | .now => { nanoseconds := 0 }

end Depiction

section Perform

variable {codec : Codec} {settings : EngineSettings} {wishes : List Wish} {Scale : Type}
  [ScaleFactor Scale]

/-- New pixels show what they are. -/
theorem guarded_replace (canvas : Canvas) (raster : Raster) :
    Guarded (SharedState.step codec) (Truthful codec wishes)
      (fun answer => answer.map Canvas.content = .ok ⟨raster, canvas.orientation⟩)
      (Pixels.replace canvas raster) :=
  (guarded_own raster canvas.orientation).bind fun _ shows => congrArg Except.ok shows

theorem guarded_crop (canvas : Canvas) (region : Region) :
    Guarded (SharedState.step codec) (Truthful codec wishes)
      (fun answer => answer.map Canvas.content = Depiction.crop canvas.content region)
      (Pixels.crop canvas region) := by
  unfold Pixels.crop Depiction.crop Canvas.content
  dsimp only
  split
  · exact guarded_replace canvas _
  · rfl

theorem guarded_unpremultiply (canvas : Canvas) (band : Band) :
    Guarded (SharedState.step codec) (Truthful codec wishes)
      (fun answer => answer.map Canvas.content = Depiction.unpremultiply canvas.content band)
      (Pixels.unpremultiply canvas band) := by
  unfold Pixels.unpremultiply Depiction.unpremultiply Canvas.content
  dsimp only
  split
  · exact guarded_replace canvas _
  · rfl

theorem guarded_smartCrop (canvas : Canvas) (size : Size) :
    Guarded (SharedState.step codec) (Truthful codec wishes)
      (fun answer => answer.map Canvas.content =
        Depiction.smartCrop settings canvas.content size)
      (Pixels.smartCrop settings canvas size) := by
  unfold Pixels.smartCrop Depiction.smartCrop
  split
  · exact guarded_crop canvas _
  · rfl

theorem guarded_resize (canvas : Canvas) (scale : Scale) :
    Guarded (SharedState.step codec) (Truthful codec wishes)
      (fun answer => answer.map Canvas.content = Depiction.resize codec canvas.content scale)
      (Pixels.resize canvas scale) := by
  unfold Pixels.resize Depiction.resize Canvas.content
  dsimp only
  split
  · split
    · rfl
    · exact fun _ truthful => ⟨truthful, guarded_replace canvas _⟩
  · rfl

/-- The engine answers every settled task by what the task is for. -/
theorem guarded_perform (apart : Wish.KeysApart wishes) {task : Task Canvas Scale}
    (settled : task.Settled wishes) :
    Guarded (SharedState.step codec) (Truthful codec wishes)
      (fun answer => task.mapAnswer Canvas.content answer =
        Depiction.answer codec settings (task.map Canvas.content))
      (Pixels.perform settings task) := by
  cases task with
  | now => exact settled.elim
  | decode data format shrink =>
    let wish : Wish := ⟨data, format, shrink⟩
    exact guarded_decode apart (settled _ wish.effective_mem_parts) (settled _ wish.full_mem_parts)
  | encode canvas format quality => exact fun _ truthful => ⟨truthful, rfl⟩
  | resize canvas scale => exact guarded_resize canvas scale
  | rotate canvas turn =>
    show Guarded _ _ (fun answer => Except.map Canvas.content answer = .ok (if turn = .none then _
      else _)) (if turn = .none then _ else _)
    split
    · rfl
    · exact guarded_replace canvas _
  | flip canvas => exact guarded_replace canvas _
  | crop canvas region => exact guarded_crop canvas region
  | convert canvas target => exact guarded_replace canvas _
  | premultiply canvas =>
    exact (guarded_own _ canvas.orientation).bind fun fresh shows =>
      congrArg (fun image => Except.ok (image, canvas.raster.colour.band)) shows
  | unpremultiply canvas band => exact guarded_unpremultiply canvas band
  | smartCrop canvas size => exact guarded_smartCrop canvas size
  | copy canvas => exact guarded_replace canvas _

end Perform

/-! ### Requests beside their depictions -/

namespace Stage

variable {Scale Value Next : Type}

/-- Two outcomes that fail alike, or succeed with values that belong together. -/
inductive Agree {Other : Type} (meets : Value → Other → Prop) :
    Except PipelineError Value → Except PipelineError Other → Prop
  | ok {value : Value} {other : Other} (together : meets value other) :
    Agree meets (.ok value) (.ok other)
  | error (failure : PipelineError) : Agree meets (.error failure) (.error failure)

variable [ScaleFactor Scale]

/-- A stage goes beside its depiction: it asks for the same settled tasks, goes on alike once each
is answered by what it is for, whatever time it is, and comes to an outcome that agrees. -/
inductive Depicted (codec : Codec) (settings : EngineSettings) (wishes : List Wish) {Other : Type}
    (meets : Value → Other → Prop) :
    Stage Canvas Scale Value → Stage Decoded Scale Other → Prop
  | done {outcome : Except PipelineError Value} {other : Except PipelineError Other}
      (agree : Agree meets outcome other) :
      Depicted codec settings wishes meets (.done outcome) (.done other)
  | work {task : Task Canvas Scale} {next : task.Answer → Stage Canvas Scale Value}
      {otherNext : (task.map Canvas.content).Answer → Stage Decoded Scale Other}
      (settled : task.Settled wishes)
      (further : ∀ answer, task.mapAnswer Canvas.content answer =
          Depiction.answer codec settings (task.map Canvas.content) →
        Depicted codec settings wishes meets (next answer)
          (otherNext (task.mapAnswer Canvas.content answer))) :
      Depicted codec settings wishes meets (.ask task next)
        (.ask (task.map Canvas.content) otherNext)
  | time {next : Instant → Stage Canvas Scale Value}
      {otherNext : Instant → Stage Decoded Scale Other}
      (further : ∀ now other,
        Depicted codec settings wishes meets (next now) (otherNext other)) :
      Depicted codec settings wishes meets (.ask .now next) (.ask .now otherNext)

variable {codec : Codec} {settings : EngineSettings} {wishes : List Wish} {Other Last : Type}
  {meets : Value → Other → Prop}

theorem depicted_pure {value : Value} {other : Other} (together : meets value other) :
    Depicted codec settings wishes meets (pure value : Stage Canvas Scale Value)
      (pure other : Stage Decoded Scale Other) :=
  .done (.ok together)

theorem depicted_bind (reached : Next → Last → Prop) {first : Stage Canvas Scale Next}
    {otherFirst : Stage Decoded Scale Last}
    {second : Next → Stage Canvas Scale Value} {otherSecond : Last → Stage Decoded Scale Other}
    (begins : Depicted codec settings wishes reached first otherFirst)
    (ends : ∀ value other, reached value other →
      Depicted codec settings wishes meets (second value) (otherSecond other)) :
    Depicted codec settings wishes meets (first >>= second) (otherFirst >>= otherSecond) := by
  induction begins with
  | done agree =>
    cases agree with
    | ok together => exact ends _ _ together
    | error failure => exact .done (.error failure)
  | work settled _ inductionHypothesis => exact .work settled inductionHypothesis
  | time _ inductionHypothesis => exact .time inductionHypothesis

theorem Depicted.imp {stage : Stage Canvas Scale Value} {other : Stage Decoded Scale Other}
    {also : Value → Other → Prop} (depicted : Depicted codec settings wishes meets stage other)
    (weaker : ∀ value other, meets value other → also value other) :
    Depicted codec settings wishes also stage other := by
  induction depicted with
  | done agree =>
    cases agree with
    | ok together => exact .done (.ok (weaker _ _ together))
    | error failure => exact .done (.error failure)
  | work settled _ inductionHypothesis => exact .work settled inductionHypothesis
  | time _ inductionHypothesis => exact .time inductionHypothesis

theorem depicted_ite {condition : Prop} [Decidable condition] {one two : Stage Canvas Scale Value}
    {otherOne otherTwo : Stage Decoded Scale Other}
    (ifTrue : condition → Depicted codec settings wishes meets one otherOne)
    (ifFalse : ¬condition → Depicted codec settings wishes meets two otherTwo) :
    Depicted codec settings wishes meets (if condition then one else two)
      (if condition then otherOne else otherTwo) := by
  split
  case isTrue holds => exact ifTrue holds
  case isFalse fails => exact ifFalse fails

/-- The same where the first part is one of two. -/
theorem depicted_ite_bind (reached : Next → Last → Prop) {condition : Prop} [Decidable condition]
    {one two : Stage Canvas Scale Next} {otherOne otherTwo : Stage Decoded Scale Last}
    {second : Next → Stage Canvas Scale Value} {otherSecond : Last → Stage Decoded Scale Other}
    (ifTrue : condition → Depicted codec settings wishes reached one otherOne)
    (ifFalse : ¬condition → Depicted codec settings wishes reached two otherTwo)
    (ends : ∀ value other, reached value other →
      Depicted codec settings wishes meets (second value) (otherSecond other)) :
    Depicted codec settings wishes meets (if condition then one >>= second else two >>= second)
      (if condition then otherOne >>= otherSecond else otherTwo >>= otherSecond) :=
  depicted_ite (fun holds => depicted_bind reached (ifTrue holds) ends)
    fun fails => depicted_bind reached (ifFalse fails) ends

/-- A deadline that never passes stops nothing. -/
theorem depicted_checkpoint {deadline other : Deadline} (never : deadline.limit = none)
    (otherNever : other.limit = none) :
    Depicted codec settings wishes (fun _ _ => True)
      (checkpoint deadline : Stage Canvas Scale Unit) (checkpoint other) := by
  refine .time fun now otherNow => ?_
  unfold Deadline.check Deadline.expired
  rw [never, otherNever]
  exact .done (.ok trivial)

/-- An image beside what it shows. -/
def Displays (canvas : Canvas) (image : Decoded) : Prop :=
  canvas.content = image

/-- A settled task whose answer is an image or a failure. -/
theorem depicted_work (task : Task Canvas Scale) {read : task.Answer → Except EngineError Value}
    {otherRead : (task.map Canvas.content).Answer → Except EngineError Other}
    (settled : task.Settled wishes)
    (reads : ∀ answer, task.mapAnswer Canvas.content answer =
        Depiction.answer codec settings (task.map Canvas.content) →
      Agree meets ((read answer).mapError .engine)
        ((otherRead (task.mapAnswer Canvas.content answer)).mapError .engine)) :
    Depicted codec settings wishes meets (work (.ask task fun answer => .done (read answer)))
      (work (.ask (task.map Canvas.content) fun answer => .done (otherRead answer))) :=
  .work settled fun answer granted => .done (reads answer granted)

theorem agree_map (answer : Except EngineError Canvas) :
    Agree Displays (answer.mapError .engine) ((answer.map Canvas.content).mapError .engine) := by
  cases answer with
  | error failure => exact .error _
  | ok canvas => exact .ok rfl

theorem agree_rfl (answer : Except EngineError Value) :
    Agree Eq (answer.mapError .engine) (answer.mapError .engine) := by
  cases answer with
  | error failure => exact .error _
  | ok value => exact .ok rfl

/-! ### The stages -/

theorem depicted_decode {data : Bytes} {format : Format} {shrink : UInt32}
    (wished : ∀ part ∈ Wish.parts ⟨data, format, shrink⟩, part ∈ wishes) :
    Depicted codec settings wishes
      (fun canvas image =>
        Displays canvas image ∧ Wish.outcome codec ⟨data, format, shrink⟩ = .ok image)
      (decode data format shrink : Stage Canvas Scale Canvas) (decode data format shrink) := by
  refine depicted_work (.decode data format shrink) wished fun answer granted => ?_
  cases answer with
  | error failure => exact .error _
  | ok canvas => exact .ok ⟨rfl, granted.symm⟩

theorem depicted_copy {canvas : Canvas} {image : Decoded} (shows : Displays canvas image) :
    Depicted codec settings wishes Displays (copy canvas : Stage Canvas Scale Canvas)
      (copy image) := by
  subst shows
  exact depicted_work (.copy canvas) trivial fun answer _ => agree_map answer

theorem depicted_scaleEvenly {canvas : Canvas} {image : Decoded} (shows : Displays canvas image)
    (scale : Scale) :
    Depicted codec settings wishes Displays (scaleEvenly canvas scale)
      (scaleEvenly image scale) := by
  subst shows
  refine depicted_ite (fun _ => ?_) fun _ => ?_
  · refine depicted_bind (fun pair other => Displays pair.1 other.1 ∧ pair.2 = other.2)
      (depicted_work (.premultiply canvas) trivial fun answer _ => ?_) ?_
    · cases answer with
      | error failure => exact .error _
      | ok given => exact .ok ⟨rfl, rfl⟩
    · rintro ⟨multiplied, band⟩ ⟨_, _⟩ ⟨rfl, rfl⟩
      refine depicted_bind Displays (depicted_work (.resize multiplied scale) trivial
        fun answer _ => agree_map answer) ?_
      rintro scaled _ rfl
      exact depicted_work (.unpremultiply scaled band) trivial fun answer _ => agree_map answer
  · exact depicted_work (.resize canvas scale) trivial fun answer _ => agree_map answer

theorem depicted_normalizeColour {canvas : Canvas} {image : Decoded}
    (shows : Displays canvas image) :
    Depicted codec settings wishes Displays (normalizeColour canvas : Stage Canvas Scale Canvas)
      (normalizeColour image) := by
  subst shows
  refine depicted_ite (fun _ => depicted_pure rfl) fun _ => ?_
  exact depicted_work (.convert canvas .srgb) trivial fun answer _ => agree_map answer

theorem depicted_orient {canvas : Canvas} {image : Decoded} (shows : Displays canvas image)
    (appearance : Appearance) :
    Depicted codec settings wishes Displays (orient canvas appearance : Stage Canvas Scale Canvas)
      (orient image appearance) := by
  subst shows
  refine depicted_bind Displays (depicted_copy rfl) ?_
  rintro owned _ rfl
  refine depicted_ite_bind Displays (fun _ => depicted_pure rfl) (fun _ => ?_) ?_
  · exact depicted_work (.rotate owned appearance.turn) trivial
      fun answer _ => agree_map answer
  · rintro turned _ rfl
    refine depicted_ite (fun _ => ?_) fun _ => depicted_pure rfl
    exact depicted_work (.flip turned) trivial fun answer _ => agree_map answer

theorem depicted_cut {canvas : Canvas} {image : Decoded} (shows : Displays canvas image)
    (owned : Bool) (target : Size) (gravity : Gravity) :
    Depicted codec settings wishes Displays
      (cut canvas owned target gravity : Stage Canvas Scale Canvas)
      (cut image owned target gravity) := by
  subst shows
  refine depicted_ite (fun _ => ?_) fun _ => depicted_ite (fun _ => depicted_pure rfl) fun _ => ?_
  · refine depicted_ite_bind Displays (fun _ => depicted_pure rfl)
      (fun _ => depicted_copy rfl) ?_
    rintro exclusive _ rfl
    exact depicted_work (.smartCrop exclusive target) trivial
      fun answer _ => agree_map answer
  · refine depicted_ite_bind Displays (fun _ => depicted_pure rfl)
      (fun _ => depicted_copy rfl) ?_
    rintro exclusive _ rfl
    exact depicted_work (.crop exclusive _) trivial fun answer _ => agree_map answer

theorem depicted_orientAndCut {canvas : Canvas} {image : Decoded} (shows : Displays canvas image)
    (appearance : Appearance) (target : Size) (options : Options) :
    Depicted codec settings wishes Displays
      (orientAndCut canvas appearance target options : Stage Canvas Scale Canvas)
      (orientAndCut image appearance target options) := by
  refine depicted_ite_bind Displays (fun _ => depicted_orient shows appearance)
    (fun _ => depicted_pure shows) fun oriented turned shows => ?_
  exact depicted_ite (fun _ => depicted_pure shows) fun _ => depicted_cut shows _ _ _

theorem depicted_transform {canvas : Canvas} {image : Decoded} (shows : Displays canvas image)
    {request : Request} {deadline : Deadline} (never : request.deadline.limit = none)
    (otherNever : deadline.limit = none) (appearance : Appearance) (plan : Plan Scale)
    (wished : plan.redecodes → ∀ part ∈ Wish.parts ⟨request.data, request.format, plan.shrink⟩,
      part ∈ wishes) :
    Depicted codec settings wishes Displays (transform canvas request appearance plan)
      (transform image { request with deadline := deadline } appearance plan) := by
  have finish {scaled : Canvas} {other : Decoded} (showsScaled : Displays scaled other) :
      Depicted codec settings wishes Displays
        (do
          let standard ← normalizeColour scaled
          checkpoint request.deadline
          let finished ← orientAndCut standard appearance plan.target request.options
          checkpoint request.deadline
          pure finished : Stage Canvas Scale Canvas)
        (do
          let standard ← normalizeColour other
          checkpoint deadline
          let finished ← orientAndCut standard appearance plan.target request.options
          checkpoint deadline
          pure finished) := by
    refine depicted_bind _ (depicted_normalizeColour showsScaled) fun standard _ showsStandard => ?_
    refine depicted_bind _ (depicted_checkpoint never otherNever) fun _ _ _ => ?_
    refine depicted_bind _ (depicted_orientAndCut showsStandard _ _ _)
      fun finished _ showsLast => ?_
    refine depicted_bind _ (depicted_checkpoint never otherNever) fun _ _ _ => ?_
    exact depicted_pure showsLast
  refine depicted_ite (fun _ => depicted_bind _ (depicted_pure shows) fun _ _ => finish) fun _ => ?_
  refine depicted_ite_bind Displays
    (fun redecodes => (depicted_decode (wished redecodes)).imp fun _ _ both => both.1)
    (fun _ => depicted_pure shows) fun source _ showsSource => ?_
  exact depicted_bind _ (depicted_scaleEvenly showsSource _) fun _ _ => finish

end Stage

/-- The images that a request may ask to decode: its source at full size, and at the reduction that
its plan comes to. -/
def Request.wishes (Scale : Type) [ScaleFactor Scale] (codec : Codec) (request : Request) :
    List Wish :=
  ⟨request.data, request.format, 1⟩ ::
    match codec.decode request.data request.format with
    | .error _ => []
    | .ok image =>
      let plan : Plan Scale := Plan.of (appearanceOf image).size request.options request.format
      if plan.redecodes then [⟨request.data, request.format, plan.shrink⟩] else []

namespace Stage

variable {Scale : Type} [ScaleFactor Scale] {codec : Codec} {settings : EngineSettings}
  {wishes : List Wish}

/-- A source that is decoded is the picture that its codec reads. -/
theorem mem_wishes_of_redecodes {request : Request} {image : Decoded}
    (reads : Wish.outcome codec ⟨request.data, request.format, 1⟩ = .ok image) :
    let plan : Plan Scale := Plan.of (appearanceOf image).size request.options request.format
    plan.redecodes → ⟨request.data, request.format, plan.shrink⟩ ∈ request.wishes Scale codec := by
  intro plan redecodes
  have decodes : codec.decode request.data request.format = .ok image := by
    unfold Wish.outcome at reads
    dsimp only at reads
    cases decoded : codec.decode request.data request.format with
    | error detail =>
      rw [decoded] at reads
      cases reads
    | ok stored =>
      rw [decoded] at reads
      exact congrArg Except.ok (Except.ok.inj reads)
  unfold Request.wishes
  rw [decodes]
  dsimp only
  rw [if_pos redecodes]
  exact List.mem_cons_of_mem _ (List.mem_singleton_self _)

theorem depicted_serve {request : Request} {deadline : Deadline}
    (never : request.deadline.limit = none) (otherNever : deadline.limit = none)
    (wished : ∀ wish ∈ request.wishes Scale codec, ∀ part ∈ wish.parts, part ∈ wishes) :
    Depicted codec settings wishes Eq (serve request : Stage Canvas Scale Bytes)
      (serve { request with deadline := deadline }) := by
  refine depicted_bind _ (depicted_decode (wished _ List.mem_cons_self)) ?_
  rintro canvas _ ⟨rfl, reads⟩
  refine depicted_bind _ (depicted_checkpoint never otherNever) fun _ _ _ => ?_
  refine depicted_ite_bind Displays (fun _ => depicted_pure rfl) (fun _ => ?_)
    fun finished shown shows => ?_
  · exact depicted_transform rfl never otherNever _ _ fun redecodes =>
      wished _ (mem_wishes_of_redecodes reads redecodes)
  · subst shows
    refine depicted_bind _ (depicted_checkpoint never otherNever) fun _ _ _ => ?_
    exact depicted_work (.encode finished request.options.format request.quality) trivial
      fun answer _ => agree_rfl answer

/-- A request without a deadline goes beside its depiction. -/
theorem depicted_process (capabilities : Capabilities) {request : Request} {deadline : Deadline}
    (never : request.deadline.limit = none) (otherNever : deadline.limit = none)
    (wished : ∀ wish ∈ request.wishes Scale codec, ∀ part ∈ wish.parts, part ∈ wishes) :
    Depicted codec settings wishes Eq (process capabilities request : Stage Canvas Scale Bytes)
      (process capabilities { request with deadline := deadline }) := by
  unfold process
  have sameRefusal : Request.refusal? { request with deadline := deadline } capabilities =
      request.refusal? capabilities := rfl
  rw [sameRefusal]
  cases request.refusal? capabilities with
  | some refusal => exact .done (.error refusal)
  | none => exact depicted_serve never otherNever wished

end Stage

/-! ### What a request gives -/

namespace Depiction

variable {Scale : Type} [ScaleFactor Scale]

/-- What a stage comes to if every task is answered by what it is for. -/
def outcome {Value : Type} (codec : Codec) (settings : EngineSettings)
    (stage : Stage Decoded Scale Value) : Except PipelineError Value :=
  (Procedure.run (fun task (_ : Unit) => (answer codec settings task, ())) stage ()).1

/-- Among others a stage on the engine that works on pixels comes to what its depiction comes to. -/
theorem guarded_of_depicted {Value : Type} {codec : Codec} {settings : EngineSettings}
    {wishes : List Wish} (apart : Wish.KeysApart wishes) {stage : Stage Canvas Scale Value}
    {other : Stage Decoded Scale Value}
    (depicted : Stage.Depicted codec settings wishes Eq stage other) :
    Guarded (SharedState.step codec) (Truthful codec wishes)
      (fun result => result = outcome codec settings other)
      (stage.run.carryOut (Pixels.perform settings)) := by
  induction depicted with
  | done agree =>
    cases agree with
    | ok together => exact congrArg Except.ok together
    | error failure => rfl
  | work settled _ inductionHypothesis =>
    refine (guarded_perform apart settled).bind fun answer granted => ?_
    have further := inductionHypothesis answer granted
    rw [granted] at further
    exact further
  | time _ inductionHypothesis =>
    exact fun state truthful => ⟨truthful, inductionHypothesis _ _⟩

end Depiction

end Thumbnailer
