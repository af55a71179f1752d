/-
This file follows the colour type of the image that a request works on. Alpha comes out as it went
in, by whatever way, and what is encoded has colour in bytes, also where the source is grey or finer
than bytes.

Scaling takes an image with alpha through floating point and back to the number format that was
noted down on the way, and what was grey comes back as colour. So the colour step decides by an
image of another type than the source has, and what is to be shown is that it ends in the same type
by either way. The contract tells the colour type of what each task works on and of what it gives.

Of the codec it is assumed that resampling and reducing keep the colour type.
-/

import Thumbnailer.Proofs.Agreement

namespace Thumbnailer

open Procedure Stage Protocol Gestures

/-! ### Colour types -/

namespace Colour

@[simp]
theorem hasAlpha_chromatic (alpha : Bool) (band : Band) :
    (chromatic alpha band).hasAlpha = alpha := by
  cases alpha <;> cases band <;> rfl

/-- What is read as standard colour is colour in bytes. -/
theorem eq_chromatic_of_srgb {colour : Colour} (standard : colour.interpretation = .srgb) :
    colour = chromatic colour.hasAlpha .byte := by
  revert standard
  cases colour <;> decide

end Colour

/-! ### The colour types of a request -/

namespace Colours

/-- The task works on the image, or its answer gives it. -/
def Touches {Image Scale : Type} (task : Task Image Scale) (answer : task.Answer)
    (image : Image) : Prop :=
  task.subject? = some image ∨ task.product? answer = some image

variable {Scale : Type}

/-- The colour type of the image that a task is to give, for a source of some colour type. -/
def given (source : Colour) : Task Canvas Scale → Colour
  | .decode .. | .encode .. | .now => source
  | .premultiply _ => .rgba32f
  | .unpremultiply _ band => .chromatic true band
  | .convert canvas target => .forInterpretation canvas.raster.colour.hasAlpha target
  | .resize canvas _ | .rotate canvas _ | .flip canvas | .crop canvas _ | .smartCrop canvas _
  | .copy canvas => canvas.raster.colour

variable [ScaleFactor Scale]

/-- The tasks of a commission for a source of some colour type. What they work on has alpha if the
source has, only what has alpha is multiplied by it, and it is divided in the band of the source. -/
def contract (commission : Commission) (source : Colour) : Contract Canvas Scale where
  welcome
    | .decode data format shrink => data = commission.request.data ∧
      format = commission.request.format ∧
        (shrink = 1 ∨ shrink = (commission.plan : Plan Scale).shrink)
    | .encode canvas _ _ => canvas.raster.colour = .chromatic source.hasAlpha .byte
    | .premultiply canvas => source.hasAlpha = true ∧ canvas.raster.colour = source
    | .unpremultiply canvas band => source.hasAlpha = true ∧ canvas.raster.colour = .rgba32f ∧
      band = source.band
    | .convert canvas target => canvas.raster.colour.hasAlpha = source.hasAlpha ∧ target = .srgb
    | .resize canvas _ | .rotate canvas _ | .flip canvas | .crop canvas _ | .smartCrop canvas _
    | .copy canvas => canvas.raster.colour.hasAlpha = source.hasAlpha
    | .now => True
  grants task answer :=
    (∀ canvas, task.product? answer = some canvas → canvas.raster.colour = given source task) ∧
      match task, answer with
      | .decode _ _ shrink, answer => shrink = 1 → ∀ canvas, answer = .ok canvas →
        canvas.raster.size = commission.stored ∧ canvas.orientation = commission.tag
      | .premultiply canvas, answer => ∀ multiplied band, answer = .ok (multiplied, band) →
        band = canvas.raster.colour.band
      | _, _ => True

section Alpha

variable {commission : Commission} {source : Colour} {task : Task Canvas Scale} {canvas : Canvas}

theorem hasAlpha_subject (welcome : (contract commission source).welcome task)
    (takes : task.subject? = some canvas) :
    canvas.raster.colour.hasAlpha = source.hasAlpha := by
  cases task with
  | decode data format shrink => cases takes
  | encode image format quality => cases takes
  | now => cases takes
  | premultiply image =>
    cases takes
    rw [show canvas.raster.colour = source from welcome.2]
  | unpremultiply image band =>
    cases takes
    rw [show canvas.raster.colour = .rgba32f from welcome.2.1, welcome.1]
    rfl
  | convert image target =>
    cases takes
    exact welcome.1
  | _ =>
    cases takes
    exact welcome

theorem hasAlpha_given (welcome : (contract commission source).welcome task) :
    (given source task).hasAlpha = source.hasAlpha := by
  cases task with
  | decode data format shrink => rfl
  | encode image format quality => rfl
  | now => rfl
  | premultiply image => exact welcome.1.symm
  | unpremultiply image band => exact (Colour.hasAlpha_chromatic _ _).trans welcome.1.symm
  | convert image target =>
    obtain ⟨alpha, rfl⟩ := welcome
    exact (Colour.hasAlpha_chromatic _ .byte).trans alpha
  | _ => exact welcome

/-- A task of the commission neither loses alpha nor invents it. -/
theorem hasAlpha_of_touches {answer : task.Answer}
    (welcome : (contract commission source).welcome task)
    (granted : (contract commission source).grants task answer)
    (touches : Touches task answer canvas) :
    canvas.raster.colour.hasAlpha = source.hasAlpha := by
  rcases touches with takes | gives
  · exact hasAlpha_subject welcome takes
  · rw [granted.1 canvas gives]
    exact hasAlpha_given welcome

end Alpha

/-! ### The engine keeps to the colour types -/

section Engine

variable {codec : Codec} {settings : EngineSettings} {stored : Decoded} {state : SharedState}

/-- What is decoded has the colour type of what is stored, reduced or not. -/
theorem colour_of_fulfils
    (reduces : ∀ raster size, (codec.reduce raster size).colour = raster.colour) {wish : Wish}
    (reads : codec.decode wish.data wish.format = .ok stored) {canvas : Canvas}
    (fulfils : Fulfils codec wish (.ok canvas)) :
    canvas.raster.colour = stored.raster.colour := by
  have outcome : wish.outcome codec = .ok canvas.content := fulfils.symm
  unfold Wish.outcome at outcome
  rw [reads] at outcome
  dsimp only at outcome
  split at outcome
  · cases outcome
    rfl
  · have content := Except.ok.inj outcome
    exact (congrArg (fun decoded : Decoded => decoded.raster.colour) content).symm.trans
      (reduces _ _)

/-- The engine gives an image of the colour type that the task is to give. -/
theorem colour_product (exact : codec.Exact) {task : Task Canvas Scale} {canvas : Canvas}
    (works : ∀ data format shrink, task ≠ .decode data format shrink)
    (gives : task.product? (Pixels.engine codec settings task state).1 = some canvas) :
    canvas.raster.colour = given stored.raster.colour task := by
  cases task with
  | decode data format shrink => exact absurd rfl (works data format shrink)
  | encode image format quality => cases gives
  | now => cases gives
  | resize image scale =>
    change Task.product? (.resize image scale)
      ((Pixels.resize image scale).run (SharedState.step codec) state).1 = some canvas at gives
    unfold Pixels.resize at gives
    dsimp only at gives
    split at gives
    · split at gives
      · cases gives
        rfl
      · cases gives
        exact exact.colour_resample _ _
    · cases gives
  | rotate image turn =>
    change Task.product? (.rotate image turn)
      ((Pixels.rotate image turn).run (SharedState.step codec) state).1 = some canvas at gives
    unfold Pixels.rotate at gives
    split at gives
    · cases gives
      rfl
    · cases gives
      rfl
  | crop image region =>
    change Task.product? (.crop image region)
      ((Pixels.crop image region).run (SharedState.step codec) state).1 = some canvas at gives
    unfold Pixels.crop at gives
    split at gives
    · cases gives
      rfl
    · cases gives
  | smartCrop image size =>
    change Task.product? (.smartCrop image size)
      ((Pixels.smartCrop settings image size).run (SharedState.step codec) state).1 = some canvas
      at gives
    unfold Pixels.smartCrop at gives
    split at gives
    · unfold Pixels.crop at gives
      split at gives
      · cases gives
        rfl
      · cases gives
    · cases gives
  | unpremultiply image band =>
    change Task.product? (.unpremultiply image band)
      ((Pixels.unpremultiply image band).run (SharedState.step codec) state).1 = some canvas
        at gives
    unfold Pixels.unpremultiply at gives
    split at gives
    · cases gives
      rfl
    · cases gives
  | _ =>
    cases gives
    rfl

/-- The engine keeps to the colour types. -/
theorem engine_keeps (exact : codec.Exact)
    (reduces : ∀ raster size, (codec.reduce raster size).colour = raster.colour)
    {commission : Commission}
    (reads : codec.decode commission.request.data commission.request.format = .ok stored)
    (sizeIs : stored.raster.size = commission.stored) (tagIs : stored.orientation = commission.tag)
    {wishes : List Wish} (apart : Wish.KeysApart wishes)
    (known : ∀ shrink, shrink = 1 ∨ shrink = (commission.plan : Plan Scale).shrink →
      ∀ part ∈ Wish.parts ⟨commission.request.data, commission.request.format, shrink⟩,
        part ∈ wishes)
    (task : Task Canvas Scale) (truthful : Truthful codec wishes state)
    (welcome : (contract commission stored.raster.colour).welcome task) :
    (contract commission stored.raster.colour).grants task
        (Pixels.engine codec settings task state).1 ∧
      Truthful codec wishes (Pixels.engine codec settings task state).2 := by
  have remains : Truthful codec wishes (Pixels.engine codec settings task state).2 := by
    refine Pixels.truthful_engine apart (fun data format shrink same => ?_) truthful
    rw [same] at welcome
    obtain ⟨rfl, rfl, wanted⟩ := welcome
    exact known shrink wanted
  refine ⟨?_, remains⟩
  cases task with
  | decode data format shrink =>
    obtain ⟨rfl, rfl, wanted⟩ := welcome
    let wish : Wish := ⟨commission.request.data, commission.request.format, shrink⟩
    have fulfils : Fulfils codec wish (Pixels.engine codec settings
        (.decode wish.data wish.format wish.shrink : Task Canvas Scale) state).1 :=
      (Pixels.fulfils_engine apart (known shrink wanted) truthful).1
    obtain ⟨canvas, opened, sized, tagged⟩ := Pixels.reduced_of_fulfils exact reads fulfils
    dsimp only [wish] at fulfils opened sized
    rw [opened] at fulfils ⊢
    refine ⟨?_, ?_⟩
    · rintro _ ⟨⟩
      exact colour_of_fulfils reduces reads fulfils
    · rintro rfl _ ⟨⟩
      rw [stored.raster.size.reduce_of_le_one (UInt32.le_refl 1)] at sized
      exact ⟨sized.trans sizeIs, tagged.trans tagIs⟩
  | premultiply canvas =>
    refine ⟨fun _ gives => colour_product exact nofun gives, ?_⟩
    rintro multiplied band ⟨⟩
    rfl
  | _ => exact ⟨fun _ gives => colour_product exact nofun gives, trivial⟩

end Engine

/-! ### The stages keep to the colour types -/

section Stages

variable {commission : Commission} {source : Colour}

/-- The image has colour in bytes, and alpha if the source has. -/
def Standard (source : Colour) (canvas : Canvas) : Prop :=
  canvas.raster.colour = .chromatic source.hasAlpha .byte

/-- Work that gives an image gives it the colour type that is told. -/
theorem keeps_gives {task : Task Canvas Scale} {read : task.Answer → Except EngineError Canvas}
    {goal : Canvas → Prop} (welcome : (contract commission source).welcome task)
    (gives : ∀ answer canvas, read answer = .ok canvas → task.product? answer = some canvas)
    (meets : ∀ canvas, canvas.raster.colour = given source task → goal canvas) :
    (work (.ask task fun answer => .done (read answer))).Keeps (contract commission source)
      goal :=
  keeps_work welcome fun answer canvas granted succeeds =>
    meets canvas (granted.1 canvas (gives answer canvas succeeds))

/-- With or without alpha, an image that is scaled has alpha if the source has. -/
theorem keeps_scaleEvenly {canvas : Canvas} (decoded : canvas.raster.colour = source)
    (scale : Scale) :
    (scaleEvenly canvas scale).Keeps (contract commission source) fun scaled =>
      scaled.raster.colour.hasAlpha = source.hasAlpha := by
  refine keeps_ite (fun seen => ?_) fun _ =>
    keeps_gives (congrArg Colour.hasAlpha decoded) (by rintro _ _ ⟨⟩; rfl) fun scaled same =>
      congrArg Colour.hasAlpha (same.trans decoded)
  have alpha : source.hasAlpha = true := decoded ▸ seen
  have multiplies : (premultiply canvas : Stage Canvas Scale (Canvas × Band)).Keeps
      (contract commission source) fun changed =>
        changed.1.raster.colour = .rgba32f ∧ changed.2 = source.band := by
    refine keeps_work ⟨alpha, decoded⟩ ?_
    rintro _ ⟨multiplied, band⟩ granted ⟨⟩
    exact ⟨granted.1 multiplied rfl, (granted.2 multiplied band rfl).trans (by rw [decoded])⟩
  refine keeps_bind multiplies fun ⟨multiplied, band⟩ ⟨floats, noted⟩ => ?_
  have translucent : multiplied.raster.colour.hasAlpha = source.hasAlpha := by
    rw [show multiplied.raster.colour = .rgba32f from floats, alpha]
    rfl
  have scales : (resize multiplied scale).Keeps (contract commission source) fun scaled =>
      scaled.raster.colour = .rgba32f :=
    keeps_gives translucent (by rintro _ _ ⟨⟩; rfl) fun scaled same => same.trans floats
  refine keeps_bind scales fun scaled floats => ?_
  refine keeps_gives ⟨alpha, floats, noted⟩ (by rintro _ _ ⟨⟩; rfl) fun divided same => ?_
  rw [same, alpha]
  exact Colour.hasAlpha_chromatic _ _

/-- Whatever scaling has made of an image, it is brought to colour in bytes. -/
theorem keeps_normalizeColour {canvas : Canvas}
    (alpha : canvas.raster.colour.hasAlpha = source.hasAlpha) :
    (normalizeColour canvas : Stage Canvas Scale Canvas).Keeps (contract commission source)
      (Standard source) := by
  refine keeps_ite (fun standard => keeps_pure ?_) fun _ =>
    keeps_gives ⟨alpha, rfl⟩ (by rintro _ _ ⟨⟩; rfl) fun converted same => ?_
  · rw [Standard, ← alpha]
    exact Colour.eq_chromatic_of_srgb standard
  · rw [Standard, same, ← alpha]
    rfl

omit [ScaleFactor Scale] in
theorem Standard.hasAlpha {canvas : Canvas} (standard : Standard source canvas) :
    canvas.raster.colour.hasAlpha = source.hasAlpha := by
  rw [show canvas.raster.colour = _ from standard, Colour.hasAlpha_chromatic]

/-- Work that gives an image of the colour type that it is given. -/
theorem keeps_standard {task : Task Canvas Scale} {read : task.Answer → Except EngineError Canvas}
    {canvas : Canvas} (standard : Standard source canvas)
    (welcome : canvas.raster.colour.hasAlpha = source.hasAlpha →
      (contract commission source).welcome task)
    (gives : ∀ answer canvas, read answer = .ok canvas → task.product? answer = some canvas)
    (kept : given source task = canvas.raster.colour) :
    (work (.ask task fun answer => .done (read answer))).Keeps (contract commission source)
      (Standard source) :=
  keeps_gives (welcome standard.hasAlpha) gives fun _ same => (same.trans kept).trans standard

theorem keeps_copy {canvas : Canvas} (standard : Standard source canvas) :
    (copy canvas : Stage Canvas Scale Canvas).Keeps (contract commission source)
      (Standard source) :=
  keeps_standard standard id (by rintro _ _ ⟨⟩; rfl) rfl

theorem keeps_orient {canvas : Canvas} (standard : Standard source canvas)
    (appearance : Appearance) :
    (orient canvas appearance : Stage Canvas Scale Canvas).Keeps (contract commission source)
      (Standard source) := by
  refine keeps_bind (keeps_copy standard) fun owned standard => ?_
  refine keeps_ite_bind (fun _ => keeps_pure standard)
    (fun _ => keeps_standard standard id (by rintro _ _ ⟨⟩; rfl) rfl) fun turned standard => ?_
  exact keeps_ite (fun _ => keeps_standard standard id (by rintro _ _ ⟨⟩; rfl) rfl)
    fun _ => keeps_pure standard

theorem keeps_cut {canvas : Canvas} (standard : Standard source canvas) (owned : Bool)
    (target : Size) (gravity : Gravity) :
    (cut canvas owned target gravity : Stage Canvas Scale Canvas).Keeps
      (contract commission source) (Standard source) := by
  -- Both ways to cut start from an image that is owned alone.
  have owns : ∀ {cuts : Canvas → Stage Canvas Scale Canvas},
      (∀ exclusive : Canvas, Standard source exclusive →
        (cuts exclusive).Keeps (contract commission source) (Standard source)) →
        (if owned then pure canvas >>= cuts else copy canvas >>= cuts).Keeps
          (contract commission source) (Standard source) :=
    keeps_ite_bind (fun _ => keeps_pure standard) fun _ => keeps_copy standard
  refine keeps_ite (fun _ => owns fun exclusive standard => ?_) fun _ =>
    keeps_ite (fun _ => keeps_pure standard) fun _ => owns fun exclusive standard => ?_
  · exact keeps_standard standard id (by rintro _ _ ⟨⟩; rfl) rfl
  · exact keeps_standard standard id (by rintro _ _ ⟨⟩; rfl) rfl

/-- Turning, mirroring and cutting leave the colour type alone. -/
theorem keeps_orientAndCut {canvas : Canvas} (standard : Standard source canvas)
    (appearance : Appearance) (target : Size) (options : Options) :
    (orientAndCut canvas appearance target options : Stage Canvas Scale Canvas).Keeps
      (contract commission source) (Standard source) := by
  refine keeps_ite_bind (fun _ => keeps_orient standard appearance) (fun _ => keeps_pure standard)
    fun oriented standard => ?_
  exact keeps_ite (fun _ => keeps_pure standard) fun _ => keeps_cut standard _ _ _

theorem keeps_look : (checkpoint commission.request.deadline : Stage Canvas Scale Unit).Keeps
    (contract commission source) fun _ => True :=
  keeps_checkpoint trivial

/-- Decoding gives the colour type of the source. -/
theorem keeps_decode {shrink : UInt32}
    (wanted : shrink = 1 ∨ shrink = (commission.plan : Plan Scale).shrink) :
    (decode commission.request.data commission.request.format shrink :
      Stage Canvas Scale Canvas).Keeps (contract commission source)
        fun canvas => canvas.raster.colour = source :=
  keeps_gives ⟨rfl, rfl, wanted⟩ (by rintro _ _ ⟨⟩; rfl) fun _ same => same

/-- Scaled or not, decoded anew or not, the image has colour in bytes in the end. -/
theorem keeps_transform {canvas : Canvas} (decoded : canvas.raster.colour = source)
    (appearance : Appearance) :
    (transform canvas commission.request appearance (commission.plan : Plan Scale)).Keeps
      (contract commission source) (Standard source) := by
  have finishes : ∀ scaled : Canvas, scaled.raster.colour.hasAlpha = source.hasAlpha →
      (Protocol.afterScaling commission.request appearance (commission.plan : Plan Scale).target
        scaled : Stage Canvas Scale Canvas).Keeps (contract commission source)
          (Standard source) := by
    intro scaled alpha
    refine keeps_bind (keeps_normalizeColour alpha) fun standard standardIs => ?_
    refine keeps_bind keeps_look fun _ _ => ?_
    refine keeps_bind (keeps_orientAndCut standardIs _ _ _) fun finished standardIs => ?_
    exact keeps_bind keeps_look fun _ _ => keeps_pure standardIs
  refine keeps_ite (fun _ => keeps_bind (keeps_pure (congrArg Colour.hasAlpha decoded)) finishes)
    fun _ => ?_
  exact keeps_ite_bind (fun _ => keeps_decode (.inr rfl)) (fun _ => keeps_pure decoded)
    fun _ same => keeps_bind (keeps_scaleEvenly same _) finishes

/-- A request whose target is not the size of the picture keeps to the colour types. -/
theorem keeps_serve
    (other : commission.request.options.clampedBox commission.seen ≠ commission.seen) :
    (serve commission.request : Stage Canvas Scale Bytes).Keeps (contract commission source)
      fun _ => True := by
  have decodes : (decode commission.request.data commission.request.format 1 :
      Stage Canvas Scale Canvas).Keeps (contract commission source) fun canvas =>
        canvas.raster.colour = source ∧
          canvas.raster.size = commission.stored ∧ canvas.orientation = commission.tag := by
    refine keeps_work ⟨rfl, rfl, .inl rfl⟩ ?_
    rintro _ canvas granted ⟨⟩
    exact ⟨granted.1 canvas rfl, granted.2 rfl canvas rfl⟩
  have encodes : ∀ finished : Canvas, Standard source finished → (do
      checkpoint commission.request.deadline
      encode finished commission.request.options.format commission.request.quality :
        Stage Canvas Scale Bytes).Keeps (contract commission source) fun _ => True :=
    fun finished standard =>
      keeps_bind keeps_look fun _ _ => keeps_work standard fun _ _ _ _ => trivial
  refine keeps_bind decodes fun canvas ⟨decoded, sized, tagged⟩ => ?_
  refine keeps_bind keeps_look fun _ _ => ?_
  have seenIs : appearanceOf canvas = commission.appearance (Picture.hasAlpha canvas) := by
    rw [appearanceOf, show Picture.size canvas = commission.stored from sized,
      show Picture.orientation canvas = commission.tag from tagged]
    rfl
  rw [seenIs]
  refine keeps_ite (fun same => ?_) fun _ => keeps_bind (keeps_transform decoded _) encodes
  have same : (commission.plan : Plan Scale).target = commission.seen := same
  rw [Commission.plan, Plan.of_target] at same
  exact absurd same other

end Stages

/-! ### What is encoded -/

section Encoded

variable {codec : Codec} {settings : EngineSettings} {stored : Decoded} {commission : Commission}
  {start : SharedState}

/-- Every task of an accepted request keeps to the colour types, and so does what it gives. -/
theorem welcome_and_granted (exact : codec.Exact)
    (reduces : ∀ raster size, (codec.reduce raster size).colour = raster.colour)
    (reads : codec.decode commission.request.data commission.request.format = .ok stored)
    (sizeIs : stored.raster.size = commission.stored) (tagIs : stored.orientation = commission.tag)
    (accepted : commission.request.refusal? settings.capabilities = none)
    (other : commission.request.options.clampedBox commission.seen ≠ commission.seen)
    (apart : Wish.KeysApart (Wish.parts ⟨commission.request.data, commission.request.format,
      (commission.plan : Plan Scale).shrink⟩))
    (truthful : Truthful codec (Wish.parts ⟨commission.request.data, commission.request.format,
      (commission.plan : Plan Scale).shrink⟩) start) :
    ∀ exchange ∈ transcript (Pixels.engine codec settings)
      (process settings.capabilities commission.request : Stage Canvas Scale Bytes) start,
      (contract commission stored.raster.colour).welcome exchange.1 ∧
        (contract commission stored.raster.colour).grants exchange.1 exchange.2 := by
  have keeps : (serve commission.request : Stage Canvas Scale Bytes).Keeps
      (contract commission stored.raster.colour) fun _ => True := keeps_serve other
  have answers := fun (task : Task Canvas Scale) (state : SharedState) =>
    @engine_keeps Scale _ codec settings stored state exact reduces commission reads sizeIs tagIs _
      apart (fun _ => Wish.mem_parts_of_either) task
  rw [← process_of_accepted accepted] at keeps
  intro exchange member
  obtain ⟨welcome, state, within, answered⟩ := keeps.transcript _ answers truthful exchange member
  rw [answered]
  exact ⟨welcome, (answers exchange.1 state within welcome).1⟩

end Encoded

end Colours

/-- Whatever the colour type of a picture, if its target is not its size as seen, then no image that
its request handles has lost its alpha or has got one, colours are divided in the band of the
picture, and nothing is encoded but colour in bytes. If the picture has a pixel and the deadline is
not over, then it is encoded. -/
theorem colour_encoded (codec : Codec) (exact : codec.Exact)
    (reduces : ∀ raster size, (codec.reduce raster size).colour = raster.colour)
    (settings : EngineSettings) (request : Request) (start : SharedState) (stored : Decoded)
    (reads : codec.decode request.data request.format = .ok stored)
    (accepted : request.refusal? settings.capabilities = none) :
    let commission : Commission :=
      { stored := stored.raster.size
        tag := stored.orientation
        request := request
        late := request.deadline.expired start.clock }
    let plan : Plan Float := commission.plan
    let wish : Wish := ⟨request.data, request.format, plan.shrink⟩
    let talk := transcript (Pixels.engine codec settings)
      (process settings.capabilities request : Stage Canvas Float Bytes) start
    request.options.clampedBox commission.seen ≠ commission.seen →
      Wish.KeysApart wish.parts → Truthful codec wish.parts start →
        (∀ exchange ∈ talk, ∀ canvas, Colours.Touches exchange.1 exchange.2 canvas →
          canvas.raster.colour.hasAlpha = stored.raster.colour.hasAlpha) ∧
        (∀ exchange ∈ talk, ∀ canvas band, exchange.1 = .unpremultiply canvas band →
          band = stored.raster.colour.band) ∧
        (∀ exchange ∈ talk, ∀ canvas format quality, exchange.1 = .encode canvas format quality →
          canvas.raster.colour = if stored.raster.colour.hasAlpha then .rgba8 else .rgb8) ∧
        ((∀ axis, stored.raster.size.along axis ≠ 0) → commission.late = false →
          ∃ exchange ∈ talk, ∃ canvas, exchange.1 =
            .encode canvas request.options.format request.quality) := by
  intro commission plan wish talk other apart truthful
  have said := @Colours.welcome_and_granted Float _ codec settings stored commission start exact
    reduces reads rfl rfl accepted other apart truthful
  refine ⟨?_, ?_, ?_, fun nonempty inTime => ?_⟩
  · exact fun exchange member canvas =>
      Colours.hasAlpha_of_touches (said exchange member).1 (said exchange member).2
  · intro exchange member canvas band same
    have welcome := (said exchange member).1
    rw [same] at welcome
    exact welcome.2.2
  · intro exchange member canvas format quality same
    have welcome := (said exchange member).1
    rw [same] at welcome
    exact welcome
  · have shown : sights talk = commission.sights plan :=
      (Pixels.sights_engine exact reads rfl rfl rfl nonempty accepted apart truthful).1
    obtain ⟨before, last⟩ := commission.sights_of_inTime inTime plan
    have member := List.mem_append_right before (List.mem_singleton_self
      (⟨.encode request.options.format request.quality, some (commission.finalSize plan)⟩ :
        Sight Float))
    rw [← last, ← shown] at member
    obtain ⟨canvas, -, encoded⟩ := Pixels.exists_encode member
    exact ⟨_, encoded, canvas, rfl⟩

/-- A translucent grey picture in words, of three by two pixels, that is stored on its side. -/
def wordy : Decoded where
  raster := { size := ⟨3, 2⟩, colour := .la16, pixels := some (Array.replicate 6 [1000, 30000]) }
  orientation := 6

/-- To fill a single pixel with it. -/
def wordyRequest : Request where
  data := Container.pack .png wordy.raster 6
  format := .png
  options := { resize := .fill, width := 1, height := 1, format := .png }
  quality := .standard
  deadline := .never { nanoseconds := 0 }

theorem colour_encoded_wordy :
    let talk := transcript (Pixels.engine Container.codec {})
      (process ({} : EngineSettings).capabilities wordyRequest : Stage Canvas Float Bytes)
      (.initial 1024 4)
    Container.codec.decode wordyRequest.data .png = .ok wordy ∧
      wordyRequest.options.clampedBox ⟨2, 3⟩ ≠ ⟨2, 3⟩ ∧
      (∀ exchange ∈ talk, ∀ canvas band, exchange.1 = .unpremultiply canvas band →
        band = .word) ∧
      (∀ exchange ∈ talk, ∀ canvas format quality, exchange.1 = .encode canvas format quality →
        canvas.raster.colour = .rgba8) ∧
      ∃ exchange ∈ talk, ∃ canvas, exchange.1 = .encode canvas .png .standard := by
  intro talk
  have reads : Container.codec.decode wordyRequest.data wordyRequest.format = .ok wordy := by
    decide +kernel
  have other : wordyRequest.options.clampedBox ⟨2, 3⟩ ≠ ⟨2, 3⟩ := by decide
  have nonempty : ∀ axis, wordy.raster.size.along axis ≠ 0 := by
    intro axis
    cases axis <;> decide
  have apart : Wish.KeysApart (Wish.parts ⟨wordyRequest.data, .png, 1⟩) :=
    Wish.keysApart_full ⟨wordyRequest.data, .png, 1⟩
  obtain ⟨-, divided, encoded, reached⟩ := colour_encoded Container.codec Container.exact_codec
    (fun _ _ => rfl) {} wordyRequest (.initial 1024 4) wordy reads rfl other apart
    (.initial _ _ _ _)
  exact ⟨reads, other, divided, encoded, reached nonempty rfl⟩

end Thumbnailer
