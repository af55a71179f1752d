/-
This file follows which image a request owns alone. The pixels that a decode gives may be shared
with a cache, and so may those of a scaled image, as scaling to the same size gives the same image
back. An image is therefore copied before it is turned, mirrored or cropped for the first time, and
what each of these gives is owned alone again.

The pipeline keeps a flag by hand that tells whether the copy was made. Here what is owned alone is
followed from task to task instead, and a stage is careful if it rewrites nothing else. The flag is
right where it is used: it is set only after a copy, and only turns and mirrorings come between.
-/

import Thumbnailer.Proofs.Upright

namespace Thumbnailer

open Procedure

variable {Image Scale Value Next : Type}

namespace Task

/-- The image that a task rewrites. It has to be owned alone. -/
def rewritten? : Task Image Scale → Option Image
  | .rotate image _ | .flip image | .crop image _ | .smartCrop image _ => some image
  | _ => none

/-- The image that is owned alone after a task. What a task gives is, unless it is decoded or
scaled; encoding and looking at the clock change nothing. -/
def alone? (owned : Option Image) : (task : Task Image Scale) → task.Answer → Option Image
  | .decode .., _ | .resize .., _ => none
  | .encode .., _ | .now, _ => owned
  | task, answer => task.product? answer

end Task

namespace Stage

/-- Nothing is rewritten but what is owned alone, whatever is answered; and if the stage succeeds,
the goal is met by its value and by what is owned alone then. -/
def Careful (goal : Value → Option Image → Prop) (owned : Option Image)
    (stage : Stage Image Scale Value) : Prop :=
  match stage with
  | .done outcome => ∀ value, outcome = .ok value → goal value owned
  | .ask task next =>
    (∀ image, task.rewritten? = some image → owned = some image) ∧
      ∀ answer, Careful goal (task.alone? owned answer) (next answer)

variable {goal : Value → Option Image → Prop} {owned : Option Image}

theorem careful_pure {value : Value} (meets : goal value owned) :
    (pure value : Stage Image Scale Value).Careful goal owned := by
  rintro result ⟨⟩
  exact meets

/-- The second part starts with what the first owns alone at its end. -/
theorem careful_bind {reached : Next → Option Image → Prop} {begun : Stage Image Scale Next}
    {further : Next → Stage Image Scale Value} (begins : begun.Careful reached owned)
    (ends : ∀ value still, reached value still → (further value).Careful goal still) :
    (begun >>= further).Careful goal owned := by
  induction begun using Procedure.rec generalizing owned with
  | done outcome =>
    cases outcome with
    | ok value => exact ends value owned (begins value rfl)
    | error failure =>
      rintro value ⟨⟩
  | ask task next inductionHypothesis =>
    obtain ⟨rewrites, answers⟩ := begins
    exact ⟨rewrites, fun answer => inductionHypothesis answer (answers answer)⟩

theorem careful_ite {condition : Prop} [Decidable condition] {one other : Stage Image Scale Value}
    (oneCareful : condition → one.Careful goal owned)
    (otherCareful : ¬condition → other.Careful goal owned) :
    (if condition then one else other).Careful goal owned := by
  split
  case isTrue holds => exact oneCareful holds
  case isFalse fails => exact otherCareful fails

theorem careful_work {task : Task Image Scale} {read : task.Answer → Except EngineError Value}
    (rewrites : ∀ image, task.rewritten? = some image → owned = some image)
    (meets : ∀ answer value, read answer = .ok value → goal value (task.alone? owned answer)) :
    (work (.ask task fun answer => .done (read answer))).Careful goal owned := by
  refine ⟨rewrites, fun answer value succeeds => meets answer value ?_⟩
  cases outcome : read answer with
  | ok result =>
    rw [outcome] at succeeds
    cases succeeds
    rfl
  | error failure =>
    rw [outcome] at succeeds
    cases succeeds

/-- Work that rewrites nothing may be asked for at any time. -/
theorem careful_reading {task : Task Image Scale} {read : task.Answer → Except EngineError Value}
    (reads : task.rewritten? = none) :
    (work (.ask task fun answer => .done (read answer))).Careful (fun _ _ => True) owned := by
  refine careful_work (fun image rewrites => ?_) fun _ _ _ => trivial
  rw [reads] at rewrites
  cases rewrites

theorem careful_checkpoint (deadline : Deadline) :
    (checkpoint deadline : Stage Image Scale Unit).Careful (fun _ still => still = owned) owned :=
  ⟨nofun, fun _ _ _ => rfl⟩

/-! ### Rewriting -/

/-- A copy is owned alone. -/
theorem careful_copy (image : Image) :
    (copy image : Stage Image Scale Image).Careful (fun copied still => still = some copied)
      owned := by
  refine careful_work nofun ?_
  rintro answer copied rfl
  rfl

theorem careful_rotate {image : Image} (alone : owned = some image) (turn : Turn) :
    (rotate image turn : Stage Image Scale Image).Careful
      (fun turned still => still = some turned) owned := by
  refine careful_work ?_ ?_
  · rintro _ ⟨⟩
    exact alone
  · rintro answer turned rfl
    rfl

theorem careful_flip {image : Image} (alone : owned = some image) :
    (flip image : Stage Image Scale Image).Careful (fun mirrored still => still = some mirrored)
      owned := by
  refine careful_work ?_ ?_
  · rintro _ ⟨⟩
    exact alone
  · rintro answer mirrored rfl
    rfl

theorem careful_crop {image : Image} (alone : owned = some image) (region : Region) :
    (crop image region : Stage Image Scale Image).Careful (fun _ _ => True) owned := by
  refine careful_work ?_ fun _ _ _ => trivial
  rintro _ ⟨⟩
  exact alone

theorem careful_smartCrop {image : Image} (alone : owned = some image) (size : Size) :
    (smartCrop image size : Stage Image Scale Image).Careful (fun _ _ => True) owned := by
  refine careful_work ?_ fun _ _ _ => trivial
  rintro _ ⟨⟩
  exact alone

/-- An oriented image is owned alone. -/
theorem careful_orient (image : Image) (appearance : Appearance) :
    (orient image appearance : Stage Image Scale Image).Careful
      (fun oriented still => still = some oriented) owned := by
  have mirrors : ∀ (turned : Image) still, still = some turned → (if appearance.mirrored then
      flip turned else pure turned : Stage Image Scale Image).Careful
        (fun oriented still => still = some oriented) still := fun turned still alone =>
    careful_ite (fun _ => careful_flip alone) fun _ => careful_pure alone
  refine careful_bind (careful_copy image) fun copied still alone => ?_
  exact careful_ite (fun _ => careful_bind (careful_pure alone) mirrors)
    fun _ => careful_bind (careful_rotate alone _) mirrors

/-! ### The stages of a request -/

variable [Picture Image]

theorem careful_scaleEvenly (image : Image) (scale : Scale) :
    (scaleEvenly image scale).Careful (fun _ _ => True) owned :=
  careful_ite
    (fun _ => careful_bind (careful_reading rfl) fun _ _ _ =>
      careful_bind (careful_reading rfl) fun _ _ _ => careful_reading rfl)
    fun _ => careful_reading rfl

theorem careful_normalizeColour (image : Image) :
    (normalizeColour image : Stage Image Scale Image).Careful (fun _ _ => True) owned :=
  careful_ite (fun _ => careful_pure trivial) fun _ => careful_reading rfl

/-- A cut is careful if its flag is set only where the image is owned alone. -/
theorem careful_cut {image : Image} {flag : Bool} (alone : flag = true → owned = some image)
    (target : Size) (gravity : Gravity) :
    (cut image flag target gravity : Stage Image Scale Image).Careful (fun _ _ => True) owned := by
  have copies : ∀ {cuts : Image → Stage Image Scale Image},
      (∀ exclusive still, still = some exclusive →
        (cuts exclusive).Careful (fun _ _ => True) still) →
        (if flag then pure image >>= cuts else copy image >>= cuts).Careful
          (fun _ _ => True) owned :=
    fun careful => careful_ite (fun set => careful image owned (alone set))
      fun _ => careful_bind (careful_copy image) careful
  exact careful_ite (fun _ => copies fun _ _ alone => careful_smartCrop alone _) fun _ =>
    careful_ite (fun _ => careful_pure trivial) fun _ =>
      copies fun _ _ alone => careful_crop alone _

/-- The flag of the cut tells whether the image was oriented, and then it is owned alone. -/
theorem careful_orientAndCut (image : Image) (appearance : Appearance) (target : Size)
    (options : Options) :
    (orientAndCut image appearance target options : Stage Image Scale Image).Careful
      (fun _ _ => True) owned := by
  have cuts : ∀ (oriented : Image) still,
      (appearance.needsOrientation = true → still = some oriented) →
        (if options.resize = .fit then pure oriented else
          cut oriented appearance.needsOrientation target options.gravity :
            Stage Image Scale Image).Careful (fun _ _ => True) still :=
    fun oriented still alone => careful_ite (fun _ => careful_pure trivial)
      fun _ => careful_cut alone _ _
  refine careful_ite (fun _ => careful_bind (careful_orient image appearance)
    fun oriented still alone => cuts oriented still fun _ => alone) fun upright => ?_
  exact cuts image owned fun needs => absurd needs upright

theorem careful_transform (image : Image) (request : Request) (appearance : Appearance)
    (plan : Plan Scale) :
    (transform image request appearance plan).Careful (fun _ _ => True) owned := by
  have finishes : ∀ (scaled : Image) still, True → (do
      let standard ← normalizeColour scaled
      checkpoint request.deadline
      let finished ← orientAndCut standard appearance plan.target request.options
      checkpoint request.deadline
      pure finished : Stage Image Scale Image).Careful (fun _ _ => True) still := by
    intro scaled still _
    refine careful_bind (careful_normalizeColour scaled) fun standard _ _ => ?_
    refine careful_bind (careful_checkpoint _) fun _ _ _ => ?_
    refine careful_bind (careful_orientAndCut standard _ _ _) fun finished _ _ => ?_
    exact careful_bind (careful_checkpoint _) fun _ _ _ => careful_pure trivial
  have scales : ∀ (source : Image) still, True →
      (scaleEvenly source plan.scale >>= _).Careful (fun _ _ => True) still :=
    fun source _ _ => careful_bind (careful_scaleEvenly source _) finishes
  exact careful_ite (fun _ => careful_bind (careful_pure trivial) finishes) fun _ =>
    careful_ite (fun _ => careful_bind (careful_reading rfl) scales)
      fun _ => careful_bind (careful_pure trivial) scales

variable [ScaleFactor Scale]

theorem careful_serve (request : Request) :
    (serve request : Stage Image Scale Bytes).Careful (fun _ _ => True) owned := by
  have encodes : ∀ (finished : Image) still, True → (do
      checkpoint request.deadline
      encode finished request.options.format request.quality : Stage Image Scale Bytes).Careful
        (fun _ _ => True) still := fun finished _ _ =>
    careful_bind (careful_checkpoint _) fun _ _ _ => careful_reading rfl
  refine careful_bind (careful_reading rfl) fun image _ _ => ?_
  refine careful_bind (careful_checkpoint _) fun _ _ _ => ?_
  exact careful_ite (fun _ => careful_bind (careful_pure trivial) encodes)
    fun _ => careful_bind (careful_transform image request _ _) encodes

/-- A request rewrites nothing but what it owns alone. -/
theorem careful_process (capabilities : Capabilities) (request : Request) :
    (process capabilities request : Stage Image Scale Bytes).Careful (fun _ _ => True) owned := by
  unfold process
  split
  · rintro value ⟨⟩
  · exact careful_serve request

end Stage

end Thumbnailer
