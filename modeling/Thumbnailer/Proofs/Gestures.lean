/-
This file works out the gestures of a request: the calls that have to do with geometry, each with
what it is asked to do and with the size that is held after it. Which gestures a request makes can
be read off the size and the orientation tag that its source is stored with, before any pixel is
touched; alpha and colour have no part in it.

A stage shows gestures if it makes them whatever an engine answers, as long as the answers keep to
what each task is for. The rules follow the ways in which stages are put together, and they are
applied to one stage after the other, up to the whole request. So any two engines that keep to what
the tasks are for are asked for the same gestures.
-/

import Thumbnailer.Proofs.Contract
import Thumbnailer.Proofs.Upright
import Thumbnailer.Proofs.Windows

namespace Thumbnailer

open Procedure Stage Protocol

variable {Image Scale Value Next State : Type}

/-! ### Gestures -/

/-- A call that has to do with geometry, and what it is asked to do. -/
inductive Gesture (Scale : Type) where
  | decode (data : Bytes) (format : Format) (shrink : UInt32)
  | resize (scale : Scale)
  | rotate (turn : Turn)
  | flip
  | crop (region : Region)
  | smartCrop (target : Size)
  | encode (format : Format) (quality : Quality)

/-- A gesture, and the size that is held after it: that of the image it gives, if it gives one, and
for an encode that of the image that is encoded. -/
structure Sight (Scale : Type) where
  gesture : Gesture Scale
  held : Option Size

namespace Task

def gesture? : Task Image Scale → Option (Gesture Scale)
  | .decode data format shrink => some (.decode data format shrink)
  | .resize _ scale => some (.resize scale)
  | .rotate _ turn => some (.rotate turn)
  | .flip _ => some .flip
  | .crop _ region => some (.crop region)
  | .smartCrop _ target => some (.smartCrop target)
  | .encode _ format quality => some (.encode format quality)
  | .convert .. | .premultiply _ | .unpremultiply .. | .copy _ | .now => none

variable [Picture Image]

def held : (task : Task Image Scale) → task.Answer → Option Size
  | .encode image _ _, _ => some (Picture.size image)
  | task, answer => (task.product? answer).map Picture.size

def sight? (task : Task Image Scale) (answer : task.Answer) : Option (Sight Scale) :=
  task.gesture?.map fun gesture => ⟨gesture, task.held answer⟩

end Task

namespace Stage

variable [Picture Image]

/-- The gestures in a conversation. -/
def sights (talk : Talk Image Scale) : List (Sight Scale) :=
  talk.filterMap fun exchange => exchange.1.sight? exchange.2

theorem sights_append (before after : Talk Image Scale) :
    sights (before ++ after) = sights before ++ sights after :=
  List.filterMap_append ..

/-! ### Stages that show gestures -/

/-- Only welcome tasks are asked for, and as long as the answers grant what the contract tells,
these gestures are made and the outcome meets the goal. -/
def Shows (contract : Contract Image Scale) (goal : Except PipelineError Value → Prop)
    (stage : Stage Image Scale Value) (shown : List (Sight Scale)) : Prop :=
  match stage with
  | .done outcome => shown = [] ∧ goal outcome
  | .ask task next =>
    contract.welcome task ∧ ∀ answer, contract.grants task answer →
      ∃ rest, shown = sights [⟨task, answer⟩] ++ rest ∧ Shows contract goal (next answer) rest

/-- The outcome is a success with a value like this. -/
def Reaches (reached : Value → Prop) (outcome : Except PipelineError Value) : Prop :=
  ∃ value, outcome = .ok value ∧ reached value

/-- The outcome is a failure. -/
def Stops (outcome : Except PipelineError Value) : Prop :=
  ∃ error, outcome = .error error

variable {contract : Contract Image Scale} {goal : Except PipelineError Value → Prop}
  {first second shown : List (Sight Scale)}

theorem shows_pure {value : Value} (meets : goal (.ok value)) :
    (pure value : Stage Image Scale Value).Shows contract goal [] :=
  ⟨rfl, meets⟩

/-- The gestures of a sequence are those of its parts. -/
theorem shows_bind {reached : Next → Prop} {begun : Stage Image Scale Next}
    {further : Next → Stage Image Scale Value}
    (begins : begun.Shows contract (Reaches reached) first)
    (ends : ∀ value, reached value → (further value).Shows contract goal second) :
    (begun >>= further).Shows contract goal (first ++ second) := by
  induction begun using Procedure.rec generalizing first with
  | done outcome =>
    obtain ⟨rfl, value, rfl, meets⟩ := begins
    exact ends value meets
  | ask task next inductionHypothesis =>
    obtain ⟨welcome, answers⟩ := begins
    refine ⟨welcome, fun answer granted => ?_⟩
    obtain ⟨rest, rfl, further⟩ := answers answer granted
    exact ⟨rest ++ second, List.append_assoc .., inductionHypothesis answer further⟩

/-- A first part that shows nothing leaves the gestures to the second. -/
theorem shows_silent_bind {reached : Next → Prop} {begun : Stage Image Scale Next}
    {further : Next → Stage Image Scale Value} (begins : begun.Shows contract (Reaches reached) [])
    (ends : ∀ value, reached value → (further value).Shows contract goal shown) :
    (begun >>= further).Shows contract goal shown :=
  shows_bind begins ends

/-- A second part that shows nothing adds nothing to the gestures of the first. -/
theorem shows_bind_silent {reached : Next → Prop} {begun : Stage Image Scale Next}
    {further : Next → Stage Image Scale Value}
    (begins : begun.Shows contract (Reaches reached) shown)
    (ends : ∀ value, reached value → (further value).Shows contract goal []) :
    (begun >>= further).Shows contract goal shown := by
  rw [← List.append_nil shown]
  exact shows_bind begins ends

/-- Where the first part stops, there is no second part. -/
theorem shows_bind_of_stops {begun : Stage Image Scale Next}
    {further : Next → Stage Image Scale Value} (stops : begun.Shows contract Stops shown)
    (meets : ∀ error, goal (.error error)) : (begun >>= further).Shows contract goal shown := by
  induction begun using Procedure.rec generalizing shown with
  | done outcome =>
    obtain ⟨rfl, error, rfl⟩ := stops
    exact ⟨rfl, meets error⟩
  | ask task next inductionHypothesis =>
    obtain ⟨welcome, answers⟩ := stops
    refine ⟨welcome, fun answer granted => ?_⟩
    obtain ⟨rest, rfl, further⟩ := answers answer granted
    exact ⟨rest, rfl, inductionHypothesis answer further⟩

theorem shows_ite {condition : Prop} [Decidable condition] {one other : Stage Image Scale Value}
    (oneShows : condition → one.Shows contract goal shown)
    (otherShows : ¬condition → other.Shows contract goal shown) :
    (if condition then one else other).Shows contract goal shown := by
  split
  case isTrue holds => exact oneShows holds
  case isFalse fails => exact otherShows fails

/-- A stage that shows gestures only asks for welcome tasks. -/
theorem Shows.keeps {stage : Stage Image Scale Value} (shows : stage.Shows contract goal shown) :
    stage.Keeps contract fun value => goal (.ok value) := by
  induction stage using Procedure.rec generalizing shown with
  | done outcome =>
    rintro value rfl
    exact shows.2
  | ask task next inductionHypothesis =>
    obtain ⟨welcome, answers⟩ := shows
    refine ⟨welcome, fun answer granted => ?_⟩
    obtain ⟨rest, -, goes⟩ := answers answer granted
    exact inductionHypothesis answer goes

theorem shows_work {task : Task Image Scale} {read : task.Answer → Except EngineError Value}
    (welcome : contract.welcome task)
    (shows : ∀ answer, contract.grants task answer →
      shown = sights [⟨task, answer⟩] ∧ goal ((read answer).mapError .engine)) :
    (work (.ask task fun answer => .done (read answer))).Shows contract goal shown := by
  refine ⟨welcome, fun answer granted => ⟨[], ?_, rfl, (shows answer granted).2⟩⟩
  rw [List.append_nil]
  exact (shows answer granted).1

/-- Under an engine whose answers grant what the contract tells, a stage makes the gestures that it
shows. -/
theorem Shows.sights_transcript {handler : Handler (Work Image Scale) State}
    {stage : Stage Image Scale Value} {start : State} (shows : stage.Shows contract goal shown)
    (Within : State → Prop)
    (answers : ∀ task state, Within state → contract.welcome task →
      contract.grants task (handler task state).1 ∧ Within (handler task state).2)
    (within : Within start) : sights (transcript handler stage start) = shown := by
  induction stage using Procedure.rec generalizing start shown with
  | done outcome => exact shows.1.symm
  | ask task next inductionHypothesis =>
    obtain ⟨welcome, further⟩ := shows
    obtain ⟨granted, remains⟩ := answers task start within welcome
    obtain ⟨rest, rfl, goes⟩ := further _ granted
    rw [← inductionHypothesis _ goes remains, ← sights_append]
    rfl

end Stage

/-! ### The gestures of a request -/

namespace Gestures

/-- A turn is shown if there is one to make. -/
def turning (turn : Turn) (size : Size) : List (Sight Scale) :=
  if turn = .none then [] else [⟨.rotate turn, some (turn.apply size)⟩]

def mirroring (mirrored : Bool) (size : Size) : List (Sight Scale) :=
  if mirrored then [⟨.flip, some size⟩] else []

/-- A cut is never shown for FIT, always under smart gravity, and else if the window is not the full
image. -/
def cutting (options : Options) (target size : Size) : List (Sight Scale) :=
  if options.resize = .fit then []
  else if options.gravity = .smart then [⟨.smartCrop target, some (target.meet size)⟩]
  else if target.meet size = size then []
  else [⟨.crop (gravityWindow size target options.gravity), some (target.meet size)⟩]

/-- The size after cutting. -/
def cutSize (options : Options) (target size : Size) : Size :=
  if options.resize = .fit then size else target.meet size

variable [ScaleFactor Scale]

/-- A source of some size, stored under an orientation tag, and a request for it that may be too
late. -/
structure Commission where
  stored : Size
  tag : UInt8
  request : Request
  late : Bool

namespace Commission

variable (commission : Commission)

/-- The size of the source as seen. -/
def seen : Size :=
  (Orientation.turn commission.tag).apply commission.stored

/-- The appearance of the source, with alpha or without. -/
def appearance (alpha : Bool) : Appearance :=
  Orientation.appearance commission.stored commission.tag alpha

def plan : Plan Scale :=
  .of commission.seen commission.request.options commission.request.format

/-- CROP does not scale. The other modes do, and decode anew before if the plan has a reduction. -/
def scaling (plan : Plan Scale) : List (Sight Scale) :=
  if commission.request.options.resize = .crop then [] else
    (if plan.redecodes then
        [⟨.decode commission.request.data commission.request.format plan.shrink,
          some (commission.stored.reduce plan.shrink)⟩]
      else []) ++
      [⟨.resize plan.scale,
        some (Rehearsal.scaled (commission.stored.reduce plan.shrink) plan.scale)⟩]

/-- The size after turning. -/
def turned (scaled : Size) : Size :=
  (Orientation.turn commission.tag).apply scaled

/-- The size of what is cut: the source, scaled and turned. -/
def upright (plan : Plan Scale) : Size :=
  commission.turned (plan.scaledSize commission.request.options.resize commission.stored)

/-- What brings an image of this size upright and cuts it to a target. -/
def finishing (target scaled : Size) : List (Sight Scale) :=
  turning (Orientation.turn commission.tag) scaled ++
    mirroring (Orientation.mirrored commission.tag) (commission.turned scaled) ++
    cutting commission.request.options target (commission.turned scaled)

/-- What is done to the source under a plan, whose target is not its size. -/
def changing (plan : Plan Scale) : List (Sight Scale) :=
  commission.scaling plan ++
    commission.finishing plan.target
      (plan.scaledSize commission.request.options.resize commission.stored)

/-- The size that is encoded. -/
def finalSize (plan : Plan Scale) : Size :=
  if plan.target = commission.seen then commission.stored
  else plan.finalSize commission.request.options.resize commission.seen

/-- The gestures of the request. Past the deadline nothing follows the first decode. -/
def sights (plan : Plan Scale) : List (Sight Scale) :=
  [⟨.decode commission.request.data commission.request.format 1, some commission.stored⟩] ++
    if commission.late then [] else
      (if plan.target = commission.seen then [] else commission.changing plan) ++
        [⟨.encode commission.request.options.format commission.request.quality,
          some (commission.finalSize plan)⟩]

/-- In time, the last gesture is to encode an image of the final size. -/
theorem sights_of_inTime (inTime : commission.late = false) (plan : Plan Scale) :
    ∃ before, commission.sights plan = before ++
      [⟨.encode commission.request.options.format commission.request.quality,
        some (commission.finalSize plan)⟩] := by
  rw [sights, inTime]
  exact ⟨_, (List.append_assoc ..).symm⟩

/-- In time, a smart crop is made where smart gravity is asked for, and the target has to be cut
out. -/
theorem smartCrop_mem_sights (inTime : commission.late = false) {plan : Plan Scale}
    (other : plan.target ≠ commission.seen) (mode : commission.request.options.resize ≠ .fit)
    (smart : commission.request.options.gravity = .smart) :
    ⟨.smartCrop plan.target, some (plan.target.meet (commission.upright plan))⟩ ∈
      commission.sights plan := by
  rw [sights, inTime, if_neg Bool.false_ne_true, if_neg other, changing, finishing, cutting,
    if_neg mode, if_pos smart]
  simp [upright]

end Commission

/-! ### What the tasks are for -/

variable [Picture Image]

/-- An image comes out, of this size. -/
def Gives (answer : Except EngineError Image) (size : Size) : Prop :=
  ∃ image, answer = .ok image ∧ Picture.size image = size

/-- The tasks of a commission, and what their answers owe to geometry. What was multiplied by alpha
is floating, and scaling keeps that; only such an image is divided. A smart crop is made of an image
that is scaled and turned. Nothing fails but an encode. -/
def contract (commission : Commission) (Floating : Image → Prop) : Contract Image Scale where
  welcome
    | .decode data format shrink => data = commission.request.data ∧
      format = commission.request.format ∧
        (shrink = 1 ∨ shrink = (commission.plan : Plan Scale).shrink)
    | .resize _ scale => ScaleFactor.usable scale = true
    | .unpremultiply image _ => Floating image
    | .crop image region => region.Inside (Picture.size image) ∧
      ∀ axis, region.size.along axis ≠ 0
    | .smartCrop image target => commission.request.options.gravity = .smart ∧
      Picture.size image = commission.upright (commission.plan : Plan Scale) ∧
        ∀ axis, (target.meet (Picture.size image)).along axis ≠ 0
    | .encode .. | .rotate .. | .flip _ | .convert .. | .premultiply _ | .copy _ | .now => True
  grants
    | .decode _ _ shrink, answer => ∃ image, answer = .ok image ∧
      Picture.size image = commission.stored.reduce shrink ∧
        Picture.orientation image = commission.tag
    | .resize image scale, answer => ∃ scaled, answer = .ok scaled ∧
      Picture.size scaled = Rehearsal.scaled (Picture.size image) scale ∧
        (Floating image → Floating scaled)
    | .premultiply image, answer => ∃ multiplied band, answer = .ok (multiplied, band) ∧
      Picture.size multiplied = Picture.size image ∧ Floating multiplied
    | .rotate image turn, answer => Gives answer (turn.apply (Picture.size image))
    | .crop _ region, answer => Gives answer region.size
    | .smartCrop image target, answer => Gives answer (target.meet (Picture.size image))
    | .flip image, answer | .convert image _, answer | .unpremultiply image _, answer
    | .copy image, answer => Gives answer (Picture.size image)
    | .encode .., _ => True
    | .now, now => commission.request.deadline.expired now = commission.late

/-! ### The stages of a request -/

section Stages

variable {commission : Commission} {Floating : Image → Prop} {image : Image}

/-- The outcome is an image of this size. -/
abbrev OfSize (size : Size) : Except PipelineError Image → Prop :=
  Reaches fun given => Picture.size given = size

/-- Work that gives an image of a known size. -/
theorem shows_gives {task : Task Image Scale} {read : task.Answer → Except EngineError Image}
    {size : Size} {shown : List (Sight Scale)}
    (welcome : (contract commission Floating).welcome task)
    (gives : ∀ answer, (contract commission Floating).grants task answer →
      Gives (read answer) size)
    (sees : ∀ answer image, read answer = .ok image → Picture.size image = size →
      shown = Stage.sights [⟨task, answer⟩]) :
    (work (.ask task fun answer => .done (read answer))).Shows (contract commission Floating)
      (OfSize size) shown := by
  refine shows_work welcome fun answer granted => ?_
  obtain ⟨given, succeeds, sizeIs⟩ := gives answer granted
  refine ⟨sees answer given succeeds sizeIs, given, ?_, sizeIs⟩
  rw [succeeds]
  rfl

theorem shows_resize {scale : Scale} (usable : ScaleFactor.usable scale = true)
    {goal : Image → Prop}
    (meets : ∀ scaled, Picture.size scaled = Rehearsal.scaled (Picture.size image) scale →
      (Floating image → Floating scaled) → goal scaled) :
    (resize image scale).Shows (contract commission Floating) (Reaches goal)
      [⟨.resize scale, some (Rehearsal.scaled (Picture.size image) scale)⟩] := by
  refine shows_work usable ?_
  rintro answer ⟨scaled, rfl, sizeIs, floats⟩
  refine ⟨?_, scaled, rfl, meets scaled sizeIs floats⟩
  rw [← sizeIs]
  rfl

/-- With or without alpha, one resize is all that is shown. -/
theorem shows_scaleEvenly {scale : Scale} (usable : ScaleFactor.usable scale = true) :
    (scaleEvenly image scale).Shows (contract commission Floating)
      (OfSize (Rehearsal.scaled (Picture.size image) scale))
      [⟨.resize scale, some (Rehearsal.scaled (Picture.size image) scale)⟩] := by
  refine shows_ite (fun _ => ?_) fun _ => shows_resize usable fun _ sizeIs _ => sizeIs
  -- What stands around the resize has to do with alpha, so that it shows nothing.
  have multiplies : (premultiply image : Stage Image Scale _).Shows (contract commission Floating)
      (Reaches fun changed => Picture.size changed.1 = Picture.size image ∧ Floating changed.1)
      [] := by
    refine shows_work trivial ?_
    rintro answer ⟨multiplied, band, rfl, sizeIs, floats⟩
    exact ⟨rfl, _, rfl, sizeIs, floats⟩
  refine shows_silent_bind multiplies fun multiplied ⟨same, floats⟩ => ?_
  rw [← same]
  have scales : (resize multiplied.1 scale).Shows (contract commission Floating)
      (Reaches fun scaled =>
        Picture.size scaled = Rehearsal.scaled (Picture.size multiplied.1) scale ∧ Floating scaled)
      [⟨.resize scale, some (Rehearsal.scaled (Picture.size multiplied.1) scale)⟩] :=
    shows_resize usable fun scaled sizeIs keeps => ⟨sizeIs, keeps floats⟩
  refine shows_bind_silent scales fun scaled ⟨sizeIs, floats⟩ => ?_
  rw [← sizeIs]
  exact shows_gives floats (fun _ granted => granted) fun _ _ _ _ => rfl

theorem shows_normalizeColour :
    (normalizeColour image : Stage Image Scale Image).Shows (contract commission Floating)
      (OfSize (Picture.size image)) [] :=
  shows_ite (fun _ => shows_pure ⟨image, rfl, rfl⟩) fun _ =>
    shows_gives trivial (fun _ granted => granted) fun _ _ _ _ => rfl

theorem shows_copy :
    (copy image : Stage Image Scale Image).Shows (contract commission Floating)
      (OfSize (Picture.size image)) [] :=
  shows_gives trivial (fun _ granted => granted) fun _ _ _ _ => rfl

theorem shows_checkpoint (inTime : commission.late = false) :
    (checkpoint commission.request.deadline : Stage Image Scale Unit).Shows
      (contract commission Floating) (Reaches fun _ => True) [] := by
  refine ⟨trivial, fun now seen => ⟨[], rfl, rfl, (), ?_, trivial⟩⟩
  rw [Deadline.check, show commission.request.deadline.expired now = _ from seen, inTime]
  rfl

theorem shows_checkpoint_late (late : commission.late = true) :
    (checkpoint commission.request.deadline : Stage Image Scale Unit).Shows
      (contract commission Floating) Stops [] := by
  refine ⟨trivial, fun now seen => ⟨[], rfl, rfl, ?_⟩⟩
  rw [Deadline.check, show commission.request.deadline.expired now = _ from seen, late]
  exact ⟨_, rfl⟩

theorem shows_orient (appearance : Appearance) :
    (orient image appearance : Stage Image Scale Image).Shows (contract commission Floating)
      (OfSize (appearance.turn.apply (Picture.size image)))
      (turning appearance.turn (Picture.size image) ++
        mirroring appearance.mirrored (appearance.turn.apply (Picture.size image))) := by
  refine shows_silent_bind shows_copy fun owned same => ?_
  rw [← same]
  have mirrors : ∀ turned : Image,
      Picture.size turned = appearance.turn.apply (Picture.size owned) →
        (if appearance.mirrored then flip turned else pure turned :
          Stage Image Scale Image).Shows (contract commission Floating)
            (OfSize (appearance.turn.apply (Picture.size owned)))
            (mirroring appearance.mirrored (appearance.turn.apply (Picture.size owned))) := by
    intro turned sizeIs
    rw [← sizeIs]
    refine shows_ite (fun mirrored => ?_) fun plain => ?_
    · rw [mirroring, if_pos mirrored]
      refine shows_gives trivial (fun _ granted => granted) ?_
      rintro answer flipped rfl sizeIs
      rw [← sizeIs]
      rfl
    · rw [mirroring, if_neg plain]
      exact shows_pure ⟨turned, rfl, rfl⟩
  refine shows_ite (fun none => ?_) fun turns => ?_
  · rw [turning, if_pos none]
    refine shows_bind (shows_pure ⟨owned, rfl, ?_⟩) mirrors
    rw [none]
    rfl
  · rw [turning, if_neg turns]
    refine shows_bind (shows_gives trivial (fun _ granted => granted) ?_) mirrors
    rintro answer turned rfl sizeIs
    rw [← sizeIs]
    rfl

/-- A cut stays within the image and has pixels, wherever its window is. -/
theorem shows_cut (mode : commission.request.options.resize ≠ .fit) {target : Size}
    (given : ∀ axis, target.along axis ≠ 0)
    (filled : ∀ axis, (Picture.size image).along axis ≠ 0)
    (stands : Picture.size image = commission.upright (commission.plan : Plan Scale))
    (owned : Bool) :
    (cut image owned target commission.request.options.gravity : Stage Image Scale Image).Shows
      (contract commission Floating) (OfSize (target.meet (Picture.size image)))
      (cutting commission.request.options target (Picture.size image)) := by
  have copies : ∀ {cuts : Image → Stage Image Scale Image} {shown : List (Sight Scale)}
      {goal : Except PipelineError Image → Prop},
      (∀ exclusive : Image, Picture.size exclusive = Picture.size image → (cuts exclusive).Shows
        (contract commission Floating) goal shown) →
        (if owned then pure image >>= cuts else copy image >>= cuts).Shows
          (contract commission Floating) goal shown := by
    intro cuts shown goal shows
    exact shows_ite (fun _ => shows image rfl) fun _ => shows_silent_bind shows_copy shows
  have pixels : ∀ axis, (target.meet (Picture.size image)).along axis ≠ 0 := fun axis =>
    along_meet_ne_zero (given axis) (filled axis)
  rw [cutting, if_neg mode]
  refine shows_ite (fun smart => ?_) fun placed => shows_ite (fun covered => ?_) fun partly => ?_
  · rw [if_pos smart]
    refine copies fun exclusive same => ?_
    rw [← same] at pixels ⊢
    refine shows_gives ⟨smart, same.trans stands, pixels⟩ (fun _ granted => granted) ?_
    rintro answer finished rfl sizeIs
    rw [← sizeIs]
    rfl
  · rw [size_gravityWindow] at covered
    rw [if_neg placed, if_pos covered, covered]
    exact shows_pure ⟨image, rfl, rfl⟩
  · rw [size_gravityWindow] at partly
    rw [if_neg placed, if_neg partly]
    refine copies fun exclusive same => ?_
    refine shows_gives ⟨?_, pixels⟩ (fun _ granted => granted) ?_
    · rw [same]
      exact inside_gravityWindow _ _ _
    · rintro answer finished rfl sizeIs
      rw [← sizeIs]
      rfl

theorem shows_orientAndCut (alpha : Bool) {target : Size}
    (given : commission.request.options.resize ≠ .fit → ∀ axis, target.along axis ≠ 0)
    (filled : ∀ axis, (Picture.size image).along axis ≠ 0)
    (scaled : Picture.size image = (commission.plan : Plan Scale).scaledSize
      commission.request.options.resize commission.stored) :
    (orientAndCut image (commission.appearance alpha) target commission.request.options :
      Stage Image Scale Image).Shows (contract commission Floating)
      (OfSize (cutSize commission.request.options target (commission.turned (Picture.size image))))
      (commission.finishing target (Picture.size image)) := by
  have cuts : ∀ oriented : Image, Picture.size oriented = commission.turned (Picture.size image) →
      (if commission.request.options.resize = .fit then pure oriented
        else cut oriented (commission.appearance alpha).needsOrientation target
          commission.request.options.gravity : Stage Image Scale Image).Shows
        (contract commission Floating)
        (OfSize (cutSize commission.request.options target
          (commission.turned (Picture.size image))))
        (cutting commission.request.options target (commission.turned (Picture.size image))) := by
    intro oriented sizeIs
    rw [← sizeIs]
    refine shows_ite (fun fit => ?_) fun mode => ?_
    · rw [cutting, cutSize, if_pos fit, if_pos fit]
      refine shows_pure ?_
      exact ⟨oriented, rfl, rfl⟩
    · rw [cutSize, if_neg mode]
      refine shows_cut mode (given mode) (fun axis => ?_) ?_ _
      · rw [sizeIs]
        exact along_apply_ne_zero filled _ axis
      · rw [sizeIs, scaled, Commission.upright]
  refine shows_ite (fun _ => shows_bind (shows_orient _) cuts) fun settled => ?_
  have nothing : (commission.appearance alpha).turn = .none ∧
      (commission.appearance alpha).mirrored = false := by
    simpa [Appearance.needsOrientation] using settled
  obtain ⟨upright, plain⟩ : Orientation.turn commission.tag = .none ∧
      Orientation.mirrored commission.tag = false := nothing
  rw [Commission.finishing, turning, mirroring, if_pos upright, plain]
  refine shows_bind (shows_pure ⟨image, rfl, ?_⟩) cuts
  rw [Commission.turned, upright]
  rfl

/-- What a transform does once the image is scaled. -/
theorem shows_afterScaling (inTime : commission.late = false) (alpha : Bool) {target : Size}
    (given : commission.request.options.resize ≠ .fit → ∀ axis, target.along axis ≠ 0)
    (filled : ∀ axis, (Picture.size image).along axis ≠ 0)
    (scaled : Picture.size image = (commission.plan : Plan Scale).scaledSize
      commission.request.options.resize commission.stored) :
    (Protocol.afterScaling commission.request (commission.appearance alpha) target image :
      Stage Image Scale Image).Shows (contract commission Floating)
      (OfSize (cutSize commission.request.options target (commission.turned (Picture.size image))))
      (commission.finishing target (Picture.size image)) := by
  refine shows_silent_bind shows_normalizeColour fun standard same => ?_
  refine shows_silent_bind (shows_checkpoint inTime) fun _ _ => ?_
  rw [← same] at filled scaled ⊢
  refine shows_bind_silent (shows_orientAndCut alpha given filled scaled) fun finished sizeIs => ?_
  exact shows_silent_bind (shows_checkpoint inTime) fun _ _ => shows_pure ⟨finished, rfl, sizeIs⟩

theorem shows_decode {shrink : UInt32}
    (wanted : shrink = 1 ∨ shrink = (commission.plan : Plan Scale).shrink) :
    (decode commission.request.data commission.request.format shrink :
      Stage Image Scale Image).Shows (contract commission Floating)
      (Reaches fun image => Picture.size image = commission.stored.reduce shrink ∧
        Picture.orientation image = commission.tag)
      [⟨.decode commission.request.data commission.request.format shrink,
        some (commission.stored.reduce shrink)⟩] := by
  refine shows_work ⟨rfl, rfl, wanted⟩ ?_
  rintro answer ⟨image, rfl, sizeIs, tagIs⟩
  refine ⟨?_, image, rfl, sizeIs, tagIs⟩
  rw [← sizeIs]
  rfl

/-- What can happen to a source leaves it with pixels. -/
theorem along_scaledSize_ne_zero
    (least : ∀ (axis : UInt32) (scale : Scale), ScaleFactor.resize axis scale ≠ 0)
    (plan : Plan Scale) (mode : ResizeMode) {stored : Size}
    (nonempty : ∀ axis, stored.along axis ≠ 0) (axis : Axis) :
    (plan.scaledSize mode stored).along axis ≠ 0 := by
  unfold Plan.scaledSize
  split
  case isTrue => exact nonempty axis
  case isFalse => exact Rehearsal.along_scaled_ne_zero least _ _ axis

theorem shows_transform
    (least : ∀ (axis : UInt32) (scale : Scale), ScaleFactor.resize axis scale ≠ 0)
    (usable : ScaleFactor.usable (commission.plan : Plan Scale).scale = true)
    (nonempty : ∀ axis, commission.stored.along axis ≠ 0) (inTime : commission.late = false)
    (given : commission.request.options.resize ≠ .fit →
      ∀ axis, (commission.plan : Plan Scale).target.along axis ≠ 0)
    (whole : Picture.size image = commission.stored) (alpha : Bool) :
    let plan : Plan Scale := commission.plan
    (transform image commission.request (commission.appearance alpha) plan).Shows
      (contract commission Floating)
      (OfSize (plan.finalSize commission.request.options.resize commission.seen))
      (commission.changing plan) := by
  intro plan
  have finishes : ∀ scaled : Image,
      Picture.size scaled = plan.scaledSize commission.request.options.resize commission.stored →
        (Protocol.afterScaling commission.request (commission.appearance alpha) plan.target scaled :
          Stage Image Scale Image).Shows (contract commission Floating)
          (OfSize (plan.finalSize commission.request.options.resize commission.seen))
          (commission.finishing plan.target
            (plan.scaledSize commission.request.options.resize commission.stored)) := by
    intro scaled sizeIs
    have filled : ∀ axis, (Picture.size scaled).along axis ≠ 0 := by
      rw [sizeIs]
      exact along_scaledSize_ne_zero least plan _ nonempty
    have finishes := @shows_afterScaling _ Scale _ _ commission Floating scaled inTime alpha
      plan.target given filled sizeIs
    rw [sizeIs, Commission.turned, Protocol.apply_scaledSize] at finishes
    exact finishes
  have scales : ∀ source : Image, Picture.size source = commission.stored.reduce plan.shrink →
      commission.request.options.resize ≠ .crop →
        (scaleEvenly source plan.scale >>= fun scaled => Protocol.afterScaling commission.request
          (commission.appearance alpha) plan.target scaled).Shows (contract commission Floating)
          (OfSize (plan.finalSize commission.request.options.resize commission.seen))
          ([⟨.resize plan.scale,
              some (Rehearsal.scaled (commission.stored.reduce plan.shrink) plan.scale)⟩] ++
            commission.finishing plan.target
              (plan.scaledSize commission.request.options.resize commission.stored)) := by
    intro source sizeIs mode
    rw [← sizeIs]
    refine shows_bind (shows_scaleEvenly usable) fun scaled scaledIs => finishes scaled ?_
    rw [scaledIs, sizeIs, Plan.scaledSize, if_neg mode]
  rw [Commission.changing, Commission.scaling]
  refine shows_ite (fun cropping => ?_) fun mode => ?_
  · rw [if_pos cropping]
    refine shows_bind (shows_pure ⟨image, rfl, ?_⟩) finishes
    rw [whole, Plan.scaledSize, if_pos cropping]
  · rw [if_neg mode, List.append_assoc]
    refine shows_ite (fun reduced => ?_) fun unreduced => ?_
    · rw [if_pos reduced]
      exact shows_bind (shows_decode (.inr rfl)) fun source decodes => scales source decodes.1 mode
    · rw [if_neg unreduced]
      refine shows_bind (shows_pure ⟨image, rfl, ?_⟩) fun source sizeIs => scales source sizeIs mode
      rw [whole, commission.stored.reduce_of_le_one]
      simpa [Plan.redecodes] using unreduced

/-- Every gesture of an accepted request is shown beforehand. -/
theorem shows_serve
    (least : ∀ (axis : UInt32) (scale : Scale), ScaleFactor.resize axis scale ≠ 0)
    (usable : ScaleFactor.usable (commission.plan : Plan Scale).scale = true)
    (nonempty : ∀ axis, commission.stored.along axis ≠ 0)
    (valid : commission.request.options.validate = .ok ()) :
    (serve commission.request : Stage Image Scale Bytes).Shows (contract commission Floating)
      (fun _ => True) (commission.sights (commission.plan : Plan Scale)) := by
  have given : commission.request.options.resize ≠ .fit →
      ∀ axis, (commission.plan : Plan Scale).target.along axis ≠ 0 := by
    intro mode
    rw [Commission.plan, Plan.of_target]
    exact Options.clampedBox_given_of_cut mode valid (along_apply_ne_zero nonempty _)
  have decodes := @shows_decode Image Scale _ _ commission Floating 1 (.inl rfl)
  rw [commission.stored.reduce_of_le_one (UInt32.le_refl 1)] at decodes
  rw [Commission.sights]
  refine shows_bind decodes fun image ⟨whole, tagIs⟩ => ?_
  cases isLate : commission.late with
  | true => exact shows_bind_of_stops (shows_checkpoint_late isLate) fun _ => trivial
  | false =>
    refine shows_silent_bind (shows_checkpoint isLate) fun _ _ => ?_
    have encodes : ∀ {size : Size} (finished : Image), Picture.size finished = size → (do
        checkpoint commission.request.deadline
        encode finished commission.request.options.format commission.request.quality :
          Stage Image Scale Bytes).Shows (contract commission Floating) (fun _ => True)
            [⟨.encode commission.request.options.format commission.request.quality,
              some size⟩] := by
      rintro size finished rfl
      refine shows_silent_bind (shows_checkpoint isLate) fun _ _ => ?_
      exact shows_work trivial fun _ _ => ⟨rfl, trivial⟩
    -- The tag is read off the first decode only. From here on everything is known.
    have seenIs : appearanceOf image = commission.appearance (Picture.hasAlpha image) := by
      rw [appearanceOf, whole, tagIs]
      rfl
    rw [seenIs, if_neg Bool.false_ne_true, Commission.finalSize]
    refine shows_ite (fun same => ?_) fun other => ?_
    · have same : (commission.plan : Plan Scale).target = commission.seen := same
      rw [if_pos same, if_pos same]
      exact shows_bind (shows_pure ⟨image, rfl, whole⟩) encodes
    · have other : (commission.plan : Plan Scale).target ≠ commission.seen := other
      rw [if_neg other, if_neg other]
      exact shows_bind (shows_transform least usable nonempty isLate given whole _) encodes

end Stages

/-- An engine that keeps to what the tasks are for is asked for the gestures of the commission, and
every task that it is asked for is welcome. -/
theorem sights_process {engine : Handler (Work Image Scale) State} {capabilities : Capabilities}
    {start : State} (commission : Commission) (Floating : Image → Prop) (Within : State → Prop)
    (answers : ∀ task state, Within state → (contract commission Floating).welcome task →
      (contract commission Floating).grants task (engine task state).1 ∧
        Within (engine task state).2)
    (within : Within start)
    (least : ∀ (axis : UInt32) (scale : Scale), ScaleFactor.resize axis scale ≠ 0)
    (usable : ScaleFactor.usable (commission.plan : Plan Scale).scale = true)
    (nonempty : ∀ axis, commission.stored.along axis ≠ 0)
    (accepted : commission.request.refusal? capabilities = none) :
    let talk := transcript engine (process capabilities commission.request) start
    Stage.sights talk = commission.sights (commission.plan : Plan Scale) ∧
      ∀ exchange ∈ talk, (contract commission Floating).welcome exchange.1 := by
  intro talk
  have shows : (process capabilities commission.request : Stage Image Scale Bytes).Shows
      (contract commission Floating) (fun _ => True)
      (commission.sights (commission.plan : Plan Scale)) := by
    rw [process_of_accepted accepted]
    exact shows_serve least usable nonempty (validate_of_accepted accepted)
  refine ⟨shows.sights_transcript Within answers within, fun exchange member => ?_⟩
  exact (shows.keeps.transcript Within answers within exchange member).1

end Gestures

end Thumbnailer
