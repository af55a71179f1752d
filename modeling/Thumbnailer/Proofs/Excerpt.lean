/-
This file shows that CROP is exact to the pixel. A CROP request of a picture whose pixels are all
known, in standard colour, and whose target is not its own size, encodes an excerpt: an image of the
size of the target, which shows in each place the stored pixel that is seen there once the picture
is held upright and the corner of the window is put where gravity puts it, or where the most salient
window lies.

Such a request asks for nothing but to decode, copy, turn, mirror and cut, all of which move pixels
only. The contract tells that, and of each answer which pixels it shows; so what is encoded shows
what is told. A picture of at least one pixel is cut without failure, and in time the request
reaches its encode.
-/

import Thumbnailer.Proofs.Contract
import Thumbnailer.Proofs.Guards
import Thumbnailer.Proofs.Rearrangement

namespace Thumbnailer

open Procedure Stage Protocol

/-! ### Excerpts -/

/-- The corner of the window of a target size in a picture that is held upright. -/
def excerptOrigin (seen : Raster) (target : Size) (gravity : Gravity) : UInt32 × UInt32 :=
  if gravity = .smart then ((Saliency.window seen target).left, (Saliency.window seen target).top)
  else windowOrigin seen.size target gravity

/-- The picture that is stored, as it is seen. -/
def Decoded.seen (stored : Decoded) : Raster :=
  stored.raster.upright stored.orientation

/-- The image has the target size and the colour type of the source, and each of its pixels is the
stored one that is seen as far from the corner of the window. -/
structure IsExcerpt (stored : Decoded) (target : Size) (gravity : Gravity) (image : Raster) :
    Prop where
  size_eq : image.size = target
  colour_eq : image.colour = stored.raster.colour
  shows : ∀ column row, Raster.Has target column row →
    let origin := excerptOrigin stored.seen target gravity
    let place := Orientation.preimage stored.raster.size stored.orientation
      (origin.1.toNat + column) (origin.2.toNat + row)
    Raster.Has stored.raster.size place.1 place.2 ∧
      image.pixel? column row = stored.raster.pixel? place.1 place.2

/-- A window of the target size that lies in the picture shows an excerpt if it is placed there. -/
theorem isExcerpt_window {stored : Decoded} {target : Size} {gravity : Gravity} {region : Region}
    (inside : region.Inside stored.seen.size) (sized : region.size = target)
    (placed : excerptOrigin stored.seen target gravity = (region.left, region.top)) :
    IsExcerpt stored target gravity (stored.seen.window region) where
  size_eq := sized
  colour_eq := rfl
  shows column row has := by
    subst sized
    rw [placed]
    have seen : Raster.Has stored.seen.size (region.left.toNat + column)
        (region.top.toNat + row) :=
      ⟨Nat.lt_of_lt_of_le (Nat.add_lt_add_left has.1 _) inside.1,
        Nat.lt_of_lt_of_le (Nat.add_lt_add_left has.2 _) inside.2⟩
    refine ⟨Orientation.has_preimage seen, ?_⟩
    rw [stored.seen.pixel?_window has]
    exact stored.raster.pixel?_upright seen

/-- The target of a CROP lies in the picture. -/
theorem meet_clampedBox_of_crop {options : Options} (mode : options.resize = .crop) (seen : Size) :
    (options.clampedBox seen).meet seen = options.clampedBox seen := by
  have clamped : options.clampedBox seen = options.box.meet seen := by
    rw [Options.clampedBox, if_pos]
    simp [mode]
  rw [clamped]
  exact Size.meet_eq_left fun axis => Size.along_meet_le_right _ _ axis

/-! ### What a CROP request may rely on -/

namespace Excerpt

/-- A source, the request for an excerpt of it, and the engine and the time it is served at. -/
structure Occasion where
  stored : Decoded
  request : Request
  settings : EngineSettings
  clock : Instant

namespace Occasion

variable (occasion : Occasion)

def target : Size :=
  occasion.request.options.clampedBox occasion.stored.seen.size

/-- The source has at least one pixel. -/
def Nonempty : Prop :=
  ∀ axis, occasion.stored.raster.size.along axis ≠ 0

end Occasion

/-- An image comes out that shows this. -/
def Yields (answer : Except EngineError Canvas) (raster : Raster) : Prop :=
  ∃ canvas, answer = .ok canvas ∧ canvas.raster = raster

/-- A region that lies in the image is cut out, and any other is refused. -/
structure Cuts (canvas : Canvas) (region : Region) (answer : Except EngineError Canvas) : Prop where
  yields : region.Cuts canvas.raster.size → Yields answer (canvas.raster.window region)
  refuses : ¬region.Cuts canvas.raster.size → ∃ failure, answer = .error failure

variable {Scale : Type}

/-- The source is decoded at full size, pixels are moved, and an excerpt is encoded. The answers
show the pixels that the task is for, and the time stays what it is. -/
def contract (occasion : Occasion) : Contract Canvas Scale where
  welcome
    | .decode data format shrink =>
      data = occasion.request.data ∧ format = occasion.request.format ∧ shrink = 1
    | .rotate _ turn => turn ≠ .none
    | .flip _ | .copy _ | .now => True
    | .crop canvas region => occasion.Nonempty → region.Cuts canvas.raster.size
    | .smartCrop canvas size => occasion.settings.smartCrop = true ∧
      (occasion.Nonempty → (Saliency.window canvas.raster size).Cuts canvas.raster.size)
    | .encode canvas _ _ => IsExcerpt occasion.stored occasion.target
      occasion.request.options.gravity canvas.raster
    | .resize .. | .convert .. | .premultiply _ | .unpremultiply .. => False
  grants
    | .decode .., answer => ∃ canvas, answer = .ok canvas ∧ canvas.content = occasion.stored
    | .rotate canvas turn, answer => Yields answer (canvas.raster.turned turn)
    | .flip canvas, answer => Yields answer canvas.raster.mirrored
    | .copy canvas, answer => Yields answer canvas.raster
    | .crop canvas region, answer => Cuts canvas region answer
    | .smartCrop canvas size, answer => Cuts canvas (Saliency.window canvas.raster size) answer
    | .now, now => now = occasion.clock
    | _, _ => True

/-! ### The engine keeps the contract -/

section Engine

open Pixels (engine)

variable [ScaleFactor Scale] {codec : Codec} {occasion : Occasion} {state : SharedState}

theorem yields_replace (canvas : Canvas) (raster : Raster) :
    Yields ((Pixels.replace canvas raster).run (SharedState.step codec) state).1 raster :=
  ⟨_, rfl, rfl⟩

theorem cuts_crop (canvas : Canvas) (region : Region) :
    Cuts canvas region ((Pixels.crop canvas region).run (SharedState.step codec) state).1 where
  yields := by
    rintro ⟨width, height, inside⟩
    rw [Pixels.crop, if_pos ⟨width, height, inside⟩]
    exact yields_replace canvas _
  refuses beyond := by
    unfold Region.Cuts at beyond
    rw [Pixels.crop, if_neg beyond]
    exact ⟨_, rfl⟩

/-- The cache holds nothing under the key of the source but the source, and the clock stands. -/
def Within (codec : Codec) (occasion : Occasion) (state : SharedState) : Prop :=
  Truthful codec [⟨occasion.request.data, occasion.request.format, 1⟩] state ∧
    state.clock = occasion.clock

theorem engine_keeps
    (reads : codec.decode occasion.request.data occasion.request.format = .ok occasion.stored)
    (task : Task Canvas Scale) (within : Within codec occasion state)
    (welcome : (contract occasion).welcome task) :
    (contract occasion).grants task (engine codec occasion.settings task state).1 ∧
      Within codec occasion (engine codec occasion.settings task state).2 := by
  obtain ⟨truthful, clock⟩ := within
  let wish : Wish := ⟨occasion.request.data, occasion.request.format, 1⟩
  have apart : Wish.KeysApart [wish] := fun first firstIs second secondIs _ =>
    (List.mem_singleton.1 firstIs).trans (List.mem_singleton.1 secondIs).symm
  have known : ∀ part ∈ wish.parts, part ∈ [wish] := by
    intro part member
    rcases List.mem_cons.1 member with effective | rest
    · rw [effective]
      exact List.mem_singleton_self wish
    · exact rest
  have remains : Within codec occasion (engine codec occasion.settings task state).2 := by
    refine ⟨Pixels.truthful_engine apart (fun data format shrink same => ?_) truthful,
      (Pixels.clock_engine task state).trans clock⟩
    rw [same] at welcome
    obtain ⟨rfl, rfl, rfl⟩ := welcome
    exact known
  refine ⟨?_, remains⟩
  cases task with
  | decode data format shrink =>
    obtain ⟨rfl, rfl, rfl⟩ := welcome
    have fulfils : Fulfils codec wish (engine codec occasion.settings
        (.decode wish.data wish.format wish.shrink : Task Canvas Scale) state).1 :=
      (Pixels.fulfils_engine apart known truthful).1
    have outcome : wish.outcome codec = .ok occasion.stored := by
      unfold Wish.outcome
      rw [reads]
      rfl
    exact fulfils.exists_canvas outcome
  | rotate canvas turn =>
    show Yields ((Pixels.rotate canvas turn).run (SharedState.step codec) state).1 _
    rw [Pixels.rotate, if_neg welcome]
    exact yields_replace canvas _
  | crop canvas region => exact cuts_crop canvas region
  | smartCrop canvas size =>
    show Cuts canvas _ ((Pixels.smartCrop occasion.settings canvas size).run
      (SharedState.step codec) state).1
    rw [Pixels.smartCrop, if_pos welcome.1]
    exact cuts_crop canvas _
  | flip canvas => exact yields_replace canvas _
  | copy canvas => exact yields_replace canvas _
  | now => exact clock
  | _ => trivial

end Engine

/-! ### The stages keep the contract -/

section Stages

variable {occasion : Occasion}

/-- Work that yields an image is followed by what the image shows. -/
theorem keeps_yields {task : Task Canvas Scale} {read : task.Answer → Except EngineError Canvas}
    {raster : Raster} {goal : Canvas → Prop} (welcome : (contract occasion).welcome task)
    (yields : ∀ answer, (contract occasion).grants task answer → Yields (read answer) raster)
    (meets : ∀ canvas, canvas.raster = raster → goal canvas) :
    (work (.ask task fun answer => .done (read answer))).Keeps (contract occasion) goal := by
  refine keeps_work welcome fun answer value granted succeeds => ?_
  obtain ⟨canvas, given, shows⟩ := yields answer granted
  cases given.symm.trans succeeds
  exact meets _ shows

/-- Work that cuts an image gives the window, if it gives anything. -/
theorem keeps_cuts {task : Task Canvas Scale} {read : task.Answer → Except EngineError Canvas}
    {canvas : Canvas} {region : Region} {goal : Canvas → Prop}
    (welcome : (contract occasion).welcome task)
    (cuts : ∀ answer, (contract occasion).grants task answer → Cuts canvas region (read answer))
    (meets : ∀ cut : Canvas, cut.raster = canvas.raster.window region → goal cut) :
    (work (.ask task fun answer => .done (read answer))).Keeps (contract occasion) goal := by
  refine keeps_work welcome fun answer value granted succeeds => ?_
  have cutting := cuts answer granted
  by_cases within : region.Cuts canvas.raster.size
  · obtain ⟨cut, given, shows⟩ := cutting.yields within
    cases given.symm.trans succeeds
    exact meets _ shows
  · obtain ⟨failure, refused⟩ := cutting.refuses within
    cases refused.symm.trans succeeds

theorem keeps_copy {canvas : Canvas} :
    (copy canvas : Stage Canvas Scale Canvas).Keeps (contract occasion)
      fun copied => copied.raster = canvas.raster :=
  keeps_yields trivial (fun _ granted => granted) fun _ shows => shows

/-- A picture in standard colour is left alone. -/
theorem keeps_normalizeColour {canvas : Canvas}
    (plain : canvas.raster.colour = .rgb8 ∨ canvas.raster.colour = .rgba8) {goal : Canvas → Prop}
    (meets : goal canvas) :
    (normalizeColour canvas : Stage Canvas Scale Canvas).Keeps (contract occasion) goal := by
  have standard : Picture.interpretation canvas = .srgb := by
    show canvas.raster.colour.interpretation = .srgb
    rcases plain with same | same <;> rw [same] <;> rfl
  rw [normalizeColour, if_pos standard]
  exact keeps_pure meets

/-- The appearance of the source, which has alpha or not. -/
def appearance (occasion : Occasion) (alpha : Bool) : Appearance :=
  Orientation.appearance occasion.stored.raster.size occasion.stored.orientation alpha

/-- Turned and mirrored, the source is seen upright. -/
theorem keeps_orient (full : occasion.stored.raster.Full) {canvas : Canvas}
    (decoded : canvas.raster = occasion.stored.raster) (alpha : Bool) :
    (orient canvas (appearance occasion alpha) : Stage Canvas Scale Canvas).Keeps
      (contract occasion) fun oriented => oriented.raster = occasion.stored.seen := by
  let turn := Orientation.turn occasion.stored.orientation
  have mirrors : ∀ turned : Canvas, turned.raster = occasion.stored.raster.turned turn →
      (if Orientation.mirrored occasion.stored.orientation then flip turned else pure turned :
        Stage Canvas Scale Canvas).Keeps (contract occasion)
          fun oriented => oriented.raster = occasion.stored.seen := by
    intro turned shows
    have upright := full.oriented_eq_upright occasion.stored.orientation
    refine keeps_ite (fun mirror => ?_) fun plain => ?_
    · rw [Raster.oriented, if_pos mirror] at upright
      refine keeps_yields trivial (fun _ granted => granted) fun flipped same => ?_
      rw [same, shows, upright]
      rfl
    · rw [Raster.oriented, if_neg plain] at upright
      refine keeps_pure ?_
      rw [shows, upright]
      rfl
  refine keeps_bind keeps_copy fun owned copied => ?_
  have shows : owned.raster = occasion.stored.raster := copied.trans decoded
  refine keeps_ite (fun none => keeps_bind (keeps_pure ?_) mirrors) fun pending =>
    keeps_bind (keeps_yields pending (fun _ granted => granted) fun turned same => ?_)
      mirrors
  · rw [shows, show turn = .none from none, full.turned_none]
  · rw [same, shows]
    rfl

/-- A region of the target size that lies in the picture cuts it, if it has a pixel. -/
theorem cuts_of_target (mode : occasion.request.options.resize = .crop)
    (accepted : occasion.request.refusal? occasion.settings.capabilities = none)
    {region : Region} (inside : region.Inside occasion.stored.seen.size)
    (sized : region.size = occasion.target) (nonempty : occasion.Nonempty) :
    region.Cuts occasion.stored.seen.size := by
  refine Region.cuts_of_inside inside ?_
  rw [sized]
  exact Options.clampedBox_given_of_cut (by rw [mode]; decide) (validate_of_accepted accepted)
    (along_apply_ne_zero nonempty _)

/-- What is cut out of the upright picture is an excerpt. -/
theorem keeps_cut (mode : occasion.request.options.resize = .crop)
    (accepted : occasion.request.refusal? occasion.settings.capabilities = none)
    (other : occasion.target ≠ occasion.stored.seen.size) {canvas : Canvas}
    (upright : canvas.raster = occasion.stored.seen) (owned : Bool) :
    (cut canvas owned occasion.target occasion.request.options.gravity :
      Stage Canvas Scale Canvas).Keeps (contract occasion) fun finished =>
        IsExcerpt occasion.stored occasion.target occasion.request.options.gravity
          finished.raster := by
  have within : occasion.target.meet occasion.stored.seen.size = occasion.target :=
    meet_clampedBox_of_crop mode _
  have measured : Picture.size canvas = occasion.stored.seen.size := congrArg Raster.size upright
  have copies : ∀ {goal : Canvas → Prop} {cuts : Canvas → Stage Canvas Scale Canvas},
      (∀ exclusive : Canvas, exclusive.raster = occasion.stored.seen →
        (cuts exclusive).Keeps (contract occasion) goal) →
        (if owned then pure canvas >>= cuts else copy canvas >>= cuts).Keeps (contract occasion)
          goal := by
    intro goal cuts keeps
    refine keeps_ite (fun _ => keeps canvas upright) fun _ => ?_
    exact keeps_bind keeps_copy fun exclusive same => keeps exclusive (same.trans upright)
  refine keeps_ite (fun smart => copies fun exclusive same => ?_) fun placed =>
    keeps_ite (fun covered => ?_) fun _ => copies fun exclusive same => ?_
  · have inside := Saliency.inside_window occasion.stored.seen occasion.target
    have sized : (Saliency.window occasion.stored.seen occasion.target).size = occasion.target := by
      rw [Saliency.size_window, within]
    refine keeps_cuts ⟨(offered_of_accepted accepted).1 smart, fun nonempty => ?_⟩
      (fun _ granted => granted) fun cut shows => ?_
    · rw [same]
      exact cuts_of_target mode accepted inside sized nonempty
    · rw [shows, same]
      exact isExcerpt_window inside sized (if_pos smart)
  · rw [size_gravityWindow, measured, within] at covered
    exact absurd covered other
  · have inside := inside_gravityWindow occasion.stored.seen.size occasion.target
      occasion.request.options.gravity
    have sized : (gravityWindow occasion.stored.seen.size occasion.target
        occasion.request.options.gravity).size = occasion.target := by
      rw [size_gravityWindow, within]
    rw [measured]
    refine keeps_cuts (fun nonempty => ?_) (fun _ granted => granted) fun cut shows => ?_
    · rw [same]
      exact cuts_of_target mode accepted inside sized nonempty
    · rw [shows, same]
      refine isExcerpt_window inside sized ?_
      rw [excerptOrigin, if_neg placed, gravityWindow, within]

theorem keeps_orientAndCut (full : occasion.stored.raster.Full)
    (mode : occasion.request.options.resize = .crop)
    (accepted : occasion.request.refusal? occasion.settings.capabilities = none)
    (other : occasion.target ≠ occasion.stored.seen.size) {canvas : Canvas}
    (decoded : canvas.raster = occasion.stored.raster) (alpha : Bool) :
    (orientAndCut canvas (appearance occasion alpha) occasion.target occasion.request.options :
      Stage Canvas Scale Canvas).Keeps (contract occasion) fun finished =>
        IsExcerpt occasion.stored occasion.target occasion.request.options.gravity
          finished.raster := by
  have cuts : ∀ oriented : Canvas, oriented.raster = occasion.stored.seen →
      (if occasion.request.options.resize = .fit then pure oriented
        else cut oriented (appearance occasion alpha).needsOrientation occasion.target
          occasion.request.options.gravity : Stage Canvas Scale Canvas).Keeps (contract occasion)
        fun finished => IsExcerpt occasion.stored occasion.target
          occasion.request.options.gravity finished.raster := fun oriented upright =>
    keeps_ite (fun fit => by rw [mode] at fit; cases fit) fun _ =>
      keeps_cut mode accepted other upright _
  refine keeps_ite (fun _ => keeps_bind (keeps_orient full decoded alpha) cuts)
    fun settled => keeps_bind (keeps_pure ?_) cuts
  have settled : ¬(appearance occasion alpha).needsOrientation = true := settled
  rw [Appearance.needsOrientation, Bool.or_eq_true, not_or, decide_eq_true_iff, not_not] at settled
  have upright : Orientation.turn occasion.stored.orientation = .none := settled.1
  have plain : ¬Orientation.mirrored occasion.stored.orientation = true := settled.2
  have seen := full.oriented_eq_upright occasion.stored.orientation
  rw [Raster.oriented, if_neg plain, upright, full.turned_none] at seen
  rw [decoded, seen]
  rfl

/-- What is encoded is an excerpt. -/
theorem keeps_serve [ScaleFactor Scale] (full : occasion.stored.raster.Full)
    (plain : occasion.stored.raster.colour = .rgb8 ∨ occasion.stored.raster.colour = .rgba8)
    (mode : occasion.request.options.resize = .crop)
    (accepted : occasion.request.refusal? occasion.settings.capabilities = none)
    (other : occasion.target ≠ occasion.stored.seen.size) :
    (serve occasion.request : Stage Canvas Scale Bytes).Keeps (contract occasion)
      fun _ => True := by
  have decodes : (decode occasion.request.data occasion.request.format 1 :
      Stage Canvas Scale Canvas).Keeps (contract occasion)
        fun canvas => canvas.content = occasion.stored := by
    refine keeps_work ⟨rfl, rfl, rfl⟩ fun answer value granted succeeds => ?_
    obtain ⟨canvas, given, shows⟩ := granted
    cases given.symm.trans succeeds
    exact shows
  have looks : (checkpoint occasion.request.deadline : Stage Canvas Scale Unit).Keeps
      (contract occasion) fun _ => True := keeps_checkpoint trivial
  refine keeps_bind decodes fun canvas shows => ?_
  have raster : canvas.raster = occasion.stored.raster := congrArg Decoded.raster shows
  have seen : appearanceOf canvas = appearance occasion canvas.raster.colour.hasAlpha := by
    rw [appearance, ← shows]
    rfl
  have encodes : ∀ finished : Canvas, IsExcerpt occasion.stored occasion.target
      occasion.request.options.gravity finished.raster → (do
        checkpoint occasion.request.deadline
        encode finished occasion.request.options.format occasion.request.quality :
          Stage Canvas Scale Bytes).Keeps (contract occasion) fun _ => True :=
    fun finished excerpt => keeps_bind looks fun _ _ => keeps_work excerpt fun _ _ _ _ => trivial
  have finishes : ∀ scaled : Canvas, scaled.raster = occasion.stored.raster → (do
      let standard ← normalizeColour scaled
      checkpoint occasion.request.deadline
      let finished ← orientAndCut standard
        (appearance occasion canvas.raster.colour.hasAlpha) occasion.target occasion.request.options
      checkpoint occasion.request.deadline
      pure finished : Stage Canvas Scale Canvas).Keeps (contract occasion)
        fun finished => IsExcerpt occasion.stored occasion.target
          occasion.request.options.gravity finished.raster := by
    intro scaled same
    have standardizes : (normalizeColour scaled : Stage Canvas Scale Canvas).Keeps
        (contract occasion) fun standard => standard.raster = occasion.stored.raster :=
      keeps_normalizeColour (same ▸ plain) same
    refine keeps_bind standardizes fun standard shows => keeps_bind looks fun _ _ => ?_
    refine keeps_bind (keeps_orientAndCut full mode accepted other shows _) fun finished cut => ?_
    exact keeps_bind looks fun _ _ => keeps_pure cut
  refine keeps_bind looks fun _ _ => ?_
  rw [seen]
  dsimp only
  rw [Plan.of_target]
  refine keeps_ite (fun same => absurd same other) fun _ => keeps_bind ?_ encodes
  rw [transform, Plan.of_target]
  exact keeps_ite (fun _ => keeps_bind (keeps_pure raster) finishes)
    fun scales => absurd mode scales

end Stages

/-! ### What is encoded -/

/-- Nothing stops a request for a part of a picture that has pixels, before the deadline, but an
encode that fails. -/
theorem obstacle?_eq_none {occasion : Occasion} {task : Task Canvas Scale} {answer : task.Answer}
    (welcome : (contract occasion).welcome task) (granted : (contract occasion).grants task answer)
    (nonempty : occasion.Nonempty)
    (inTime : occasion.request.deadline.expired occasion.clock = false)
    (further : task.stretch? ≠ some .encoding) :
    obstacle? occasion.request.deadline task answer = none := by
  have yielded : ∀ {answer : Except EngineError Canvas} {raster : Raster}, Yields answer raster →
      failure? .engine answer = none := by
    rintro _ _ ⟨canvas, rfl, -⟩
    rfl
  cases task with
  | decode data format shrink =>
    obtain ⟨canvas, rfl, -⟩ := granted
    rfl
  | rotate canvas turn => exact yielded granted
  | flip canvas => exact yielded granted
  | copy canvas => exact yielded granted
  | crop canvas region => exact yielded (Cuts.yields granted (welcome nonempty))
  | smartCrop canvas size => exact yielded (Cuts.yields granted (welcome.2 nonempty))
  | now =>
    rw [show answer = occasion.clock from granted]
    show failure? _ (occasion.request.deadline.check occasion.clock) = none
    rw [Deadline.check, inTime]
    rfl
  | encode canvas format quality => exact absurd rfl further
  | _ => exact absurd welcome id

/-- A request that succeeds has encoded an image. -/
theorem encode_mem_of_served [ScaleFactor Scale] {request : Request} {made : Talk Canvas Scale}
    {bytes : Bytes} (served : Served request made bytes) :
    ∃ exchange ∈ made, exchange.1.stretch? = some .encoding := by
  cases served with
  | unchanged same => exact ⟨_, List.mem_cons_of_mem _ (List.mem_singleton_self _), rfl⟩
  | changed other reduces standardizes finishes =>
    exact ⟨_, List.mem_cons_of_mem _ (List.mem_append_right _ (List.mem_singleton_self _)), rfl⟩

/-- A CROP request whose target is not the size of the picture encodes nothing but the excerpt, and
it comes to encode it if the picture has a pixel and the deadline is not over. -/
theorem isExcerpt_encoded [ScaleFactor Scale] (codec : Codec) (settings : EngineSettings)
    (request : Request) (start : SharedState) (stored : Decoded)
    (reads : codec.decode request.data request.format = .ok stored) (full : stored.raster.Full)
    (plain : stored.raster.colour = .rgb8 ∨ stored.raster.colour = .rgba8)
    (truthful : Truthful codec [⟨request.data, request.format, 1⟩] start)
    (mode : request.options.resize = .crop)
    (accepted : request.refusal? settings.capabilities = none)
    (other : request.options.clampedBox stored.seen.size ≠ stored.seen.size) :
    let engine : Handler (Work Canvas Scale) SharedState := Pixels.engine codec settings
    let talk := transcript engine (process settings.capabilities request) start
    (∀ exchange ∈ talk, ∀ canvas format quality, exchange.1 = .encode canvas format quality →
      IsExcerpt stored (request.options.clampedBox stored.seen.size) request.options.gravity
        canvas.raster) ∧
    ((∀ axis, stored.raster.size.along axis ≠ 0) →
      request.deadline.expired start.clock = false →
        ∃ exchange ∈ talk, ∃ canvas format quality,
          exchange.1 = .encode canvas format quality) := by
  intro engine talk
  let occasion : Occasion := ⟨stored, request, settings, start.clock⟩
  have said : ∀ exchange ∈ talk, (contract occasion).welcome exchange.1 ∧
      (contract occasion).grants exchange.1 exchange.2 := by
    have keeps : (serve request : Stage Canvas Scale Bytes).Keeps (contract occasion)
        fun _ => True :=
      @keeps_serve Scale occasion _ full plain mode accepted other
    rw [← process_of_accepted accepted] at keeps
    intro exchange member
    obtain ⟨welcome, state, within, answered⟩ := keeps.transcript (Within codec occasion)
      (fun task state within welcome => engine_keeps reads task within welcome) ⟨truthful, rfl⟩
      exchange member
    rw [answered]
    exact ⟨welcome, (engine_keeps reads exchange.1 within welcome).1⟩
  have encodes : ∀ {task : Task Canvas Scale}, task.stretch? = some .encoding →
      ∃ canvas format quality, task = .encode canvas format quality := by
    intro task encoding
    cases task with
    | encode canvas format quality => exact ⟨canvas, format, quality, rfl⟩
    | _ => cases encoding
  refine ⟨fun exchange member canvas format quality same => ?_, fun nonempty inTime => ?_⟩
  · have welcome := (said exchange member).1
    rw [same] at welcome
    exact welcome
  · suffices reached : ∃ exchange ∈ talk, exchange.1.stretch? = some .encoding by
      obtain ⟨exchange, member, encoding⟩ := reached
      exact ⟨exchange, member, encodes encoding⟩
    have conversation := conversation_run engine (process settings.capabilities request) start
    have orderly := @orderly_serve Canvas Scale _ _ request
    rw [← process_of_accepted accepted] at orderly
    rcases orderly.smooth_or_stopped conversation with ⟨-, bytes, succeeds⟩ |
      ⟨before, stopping, error, split, -, stops, -⟩
    · obtain ⟨exchange, member, encoding⟩ :=
        encode_mem_of_served (served_of_succeeds engine start succeeds)
      exact ⟨exchange, (List.mem_filter.1 member).1, encoding⟩
    · have last : stopping ∈ talk := by
        show stopping ∈ transcript engine _ start
        rw [split]
        exact List.mem_append_right _ (List.mem_singleton_self _)
      refine ⟨stopping, last, Decidable.byContradiction fun further => ?_⟩
      have free := obstacle?_eq_none (said stopping last).1 (said stopping last).2 nonempty inTime
        further
      cases free.symm.trans stops

/-- A picture of three by two pixels that is stored on its side. -/
def sideways : Decoded where
  raster :=
    { size := ⟨3, 2⟩, colour := .rgb8
      pixels := some #[[1, 0, 0], [2, 0, 0], [3, 0, 0], [4, 0, 0], [5, 0, 0], [6, 0, 0]] }
  orientation := 6

/-- To cut its right half as it is seen. -/
def sidewaysRequest : Request where
  data := Container.pack .png sideways.raster 6
  format := .png
  options := { resize := .crop, width := 1, height := 8, gravity := .east, format := .png }
  quality := .standard
  deadline := .never { nanoseconds := 0 }

theorem isExcerpt_encoded_sideways :
    let engine : Handler (Work Canvas Float) SharedState := Pixels.engine Container.codec {}
    let talk := transcript engine
      (process ({} : EngineSettings).capabilities sidewaysRequest) (.initial 1024 4)
    sideways.raster.Full ∧ sidewaysRequest.options.clampedBox sideways.seen.size = ⟨1, 3⟩ ∧
      (∀ exchange ∈ talk, ∀ canvas format quality, exchange.1 = .encode canvas format quality →
        IsExcerpt sideways ⟨1, 3⟩ .east canvas.raster) ∧
      ∃ exchange ∈ talk, ∃ canvas format quality,
        exchange.1 = .encode canvas format quality := by
  intro engine talk
  have full : sideways.raster.Full := ⟨_, rfl, rfl⟩
  have exact := @isExcerpt_encoded Float _ Container.codec {} sidewaysRequest (.initial 1024 4)
    sideways (by decide +kernel) full (.inl rfl) (.initial _ _ _ _) rfl rfl (by decide)
  exact ⟨full, rfl, exact.1, exact.2 (fun axis => by cases axis <;> decide) rfl⟩

end Excerpt

end Thumbnailer
