/-
This file traces the image that a request encodes back to the decode it comes from, and reads off
that course how often it was turned and mirrored.

The main statement says when a picture comes out upright. One whose tag asks for a turn or a
mirroring gets each of them exactly once, unless the picture as seen has its target size already:
then nothing is done to it at all, and it is encoded as it is stored. An example shows a picture
that is encoded lying on its side for that reason.
-/

import Thumbnailer.Proofs.Dimensions

namespace Thumbnailer

open Procedure Stage Protocol

variable {Image Scale State : Type}

/-! ### The steps that set a picture upright -/

/-- Work that sets a picture upright. -/
inductive Righting where
  | rotate (turn : Turn)
  | flip
  deriving DecidableEq

/-- The steps that a turn and a mirroring ask for. -/
def Righting.steps (turn : Turn) (mirrored : Bool) : List Righting :=
  (if turn = .none then [] else [.rotate turn]) ++ (if mirrored then [.flip] else [])

/-- The steps that an orientation tag asks for. -/
def Orientation.steps (tag : UInt8) : List Righting :=
  Righting.steps (turn tag) (mirrored tag)

/-- Every tag from 2 to 8 asks for something. -/
theorem Orientation.steps_ne_nil {tag : UInt8} (least : 2 ≤ tag) (most : tag ≤ 8) :
    steps tag ≠ [] := by
  have tags : tag = 2 ∨ tag = 3 ∨ tag = 4 ∨ tag = 5 ∨ tag = 6 ∨ tag = 7 ∨ tag = 8 := by
    have least : 2 ≤ tag.toNat := UInt8.le_iff_toNat_le.1 least
    have most : tag.toNat ≤ 8 := UInt8.le_iff_toNat_le.1 most
    simp only [← UInt8.toNat_inj, UInt8.toNat_ofNat]
    omega
  obtain rfl | rfl | rfl | rfl | rfl | rfl | rfl := tags <;> decide

def Task.righting? : Task Image Scale → Option Righting
  | .rotate _ turn => some (.rotate turn)
  | .flip _ => some .flip
  | _ => none

namespace Stage

/-- The steps in a conversation that set a picture upright. -/
def rightings (talk : Talk Image Scale) : List Righting :=
  talk.filterMap fun exchange => exchange.1.righting?

theorem rightings_append (before after : Talk Image Scale) :
    rightings (before ++ after) = rightings before ++ rightings after :=
  List.filterMap_append ..

end Stage

/-! ### The course of an image -/

/-- The image that a task transforms, if it transforms one. -/
def Task.subject? : Task Image Scale → Option Image
  | .resize image _ | .rotate image _ | .flip image | .crop image _ | .convert image _
  | .premultiply image | .unpremultiply image _ | .smartCrop image _ | .copy image => some image
  | .decode .. | .encode .. | .now => none

/-- The image that an answer gives. -/
def Task.product? : (task : Task Image Scale) → task.Answer → Option Image
  | .premultiply _, .ok (image, _) => some image
  | .decode .., .ok image | .resize .., .ok image | .rotate .., .ok image | .flip _, .ok image
  | .crop .., .ok image | .convert .., .ok image | .unpremultiply .., .ok image
  | .smartCrop .., .ok image | .copy _, .ok image => some image
  | _, _ => none

/-- Transforms one after the other, each of the image that the one before has given. -/
inductive Course : Image → Talk Image Scale → Image → Prop
  | stay (image : Image) : Course image [] image
  | step {task : Task Image Scale} {answer : task.Answer} {image next finished : Image}
      {rest : Talk Image Scale} (takes : task.subject? = some image)
      (gives : task.product? answer = some next) (further : Course next rest finished) :
      Course image (⟨task, answer⟩ :: rest) finished

namespace Course

theorem one {task : Task Image Scale} {answer : task.Answer} {image next : Image}
    (takes : task.subject? = some image) (gives : task.product? answer = some next) :
    Course image [⟨task, answer⟩] next :=
  .step takes gives (.stay next)

theorem trans {image middle finished : Image} {before after : Talk Image Scale}
    (first : Course image before middle) (second : Course middle after finished) :
    Course image (before ++ after) finished := by
  induction first with
  | stay image => exact second
  | step takes gives further inductionHypothesis =>
    exact .step takes gives (inductionHypothesis second)

end Course

/-- A course on which an image is set upright by these steps. -/
structure Rights (steps : List Righting) (image : Image) (made : Talk Image Scale)
    (finished : Image) : Prop where
  course : Course image made finished
  rightings : rightings made = steps

namespace Rights

theorem stay (image : Image) : Rights [] image ([] : Talk Image Scale) image :=
  ⟨.stay image, rfl⟩

theorem copy (image owned : Image) :
    Rights [] image ([⟨.copy image, .ok owned⟩] : Talk Image Scale) owned :=
  ⟨.one rfl rfl, rfl⟩

theorem trans {first second : List Righting} {image middle finished : Image}
    {before after : Talk Image Scale} (begins : Rights first image before middle)
    (ends : Rights second middle after finished) :
    Rights (first ++ second) image (before ++ after) finished :=
  ⟨begins.course.trans ends.course, by rw [rightings_append, begins.rightings, ends.rightings]⟩

end Rights

section Parts

variable [Picture Image]

theorem rights_of_scaling {scale : Scale} {image scaled : Image} {made : Talk Image Scale}
    (scales : Scaling scale image made scaled) : Rights [] image made scaled := by
  cases scales with
  | alone solid => exact ⟨.one rfl rfl, rfl⟩
  | bracketed alpha => exact ⟨.step rfl rfl (.step rfl rfl (.one rfl rfl)), rfl⟩

theorem rights_of_standardizing {image standard : Image} {made : Talk Image Scale}
    (standardizes : Standardizing image made standard) : Rights [] image made standard := by
  cases standardizes with
  | already standard => exact .stay image
  | converted other => exact ⟨.one rfl rfl, rfl⟩

omit [Picture Image] in
theorem rights_of_turning {turn : Turn} {image turned : Image} {made : Talk Image Scale}
    (turns : Turning turn image made turned) :
    Rights (if turn = .none then [] else [.rotate turn]) image made turned := by
  cases turns with
  | upright none =>
    rw [if_pos none]
    exact .stay image
  | turned some =>
    rw [if_neg some]
    exact ⟨.one rfl rfl, rfl⟩

omit [Picture Image] in
theorem rights_of_mirroring {mirrored : Bool} {image oriented : Image} {made : Talk Image Scale}
    (mirrors : Mirroring mirrored image made oriented) :
    Rights (if mirrored then [.flip] else []) image made oriented := by
  cases mirrors with
  | kept plain =>
    rw [plain]
    exact .stay image
  | flipped mirror =>
    rw [if_pos mirror]
    exact ⟨.one rfl rfl, rfl⟩

theorem rights_of_cutting {options : Options} {target : Size} {measured image finished : Image}
    {made : Talk Image Scale} (cuts : Cutting options target measured image made finished) :
    Rights [] image made finished := by
  cases cuts with
  | full covered => exact .stay image
  | salient needed smart => exact ⟨.one rfl rfl, rfl⟩
  | window needed placed => exact ⟨.one rfl rfl, rfl⟩

theorem rights_of_finishing {options : Options} {appearance : Appearance} {target : Size}
    {image finished : Image} {made : Talk Image Scale}
    (finishes : Finishing options appearance target image made finished) :
    Rights (Righting.steps appearance.turn appearance.mirrored) image made finished := by
  cases finishes with
  | untouched upright plain covered =>
    rw [upright, plain]
    exact .stay image
  | cut upright plain needed cuts =>
    rw [upright, plain]
    exact (Rights.copy image _).trans (rights_of_cutting cuts)
  | oriented pending turns mirrors cuts =>
    have rights := (Rights.copy image _).trans
      (((rights_of_turning turns).trans (rights_of_mirroring mirrors)).trans
        (rights_of_cutting cuts))
    rwa [List.append_nil] at rights

end Parts

/-! ### Pictures that are set upright -/

/-- The image comes from a decode by a course that sets it upright by these steps, and nothing else
is turned or mirrored. -/
def Descends (steps : List Righting) (made : Talk Image Scale) (finished : Image) : Prop :=
  ∃ early data format shrink source course,
    made = early ++ ⟨.decode data format shrink, .ok source⟩ :: course ∧ rightings early = [] ∧
      Rights steps source course finished

namespace Descends

theorem decoded (early : Talk Image Scale) (none : rightings early = []) (data : Bytes)
    (format : Format) (shrink : UInt32) (source : Image) :
    Descends [] (early ++ [⟨.decode data format shrink, .ok source⟩]) source :=
  ⟨early, data, format, shrink, source, [], rfl, none, .stay source⟩

theorem extend {first second : List Righting} {made more : Talk Image Scale}
    {middle finished : Image} (descends : Descends first made middle)
    (rights : Rights second middle more finished) :
    Descends (first ++ second) (made ++ more) finished := by
  obtain ⟨early, data, format, shrink, source, course, rfl, none, begins⟩ := descends
  refine ⟨early, data, format, shrink, source, course ++ more, ?_, none, begins.trans rights⟩
  rw [List.append_assoc, List.cons_append]

/-- All turning and mirroring is on the course. -/
theorem rightings_eq {steps : List Righting} {made : Talk Image Scale} {finished : Image}
    (descends : Descends steps made finished) : rightings made = steps := by
  obtain ⟨early, data, format, shrink, source, course, rfl, none, rights⟩ := descends
  rw [rightings_append, none]
  exact rights.rightings

end Descends

/-- Work that ends with the encode of an image which was given, after its decode, the turn and the
mirroring that a tag asks for, each once and in this order. -/
def OrientedOnce (tag : UInt8) (made : Talk Image Scale) : Prop :=
  ∃ before finished format quality answer,
    made = before ++ [⟨.encode finished format quality, answer⟩] ∧
      Descends (Orientation.steps tag) before finished

theorem OrientedOnce.rightings_eq {tag : UInt8} {made : Talk Image Scale}
    (oriented : OrientedOnce tag made) : rightings made = Orientation.steps tag := by
  obtain ⟨before, finished, format, quality, answer, rfl, descends⟩ := oriented
  rw [rightings_append, descends.rightings_eq]
  exact List.append_nil _

variable [Picture Image]

/-- Scaling leaves an image that comes straight from a decode, be it the first or the second. -/
theorem descends_of_reducing {request : Request} {plan : Plan Scale} {image scaled : Image}
    {reducing : Talk Image Scale} (reduces : Reducing request plan image reducing scaled) :
    Descends [] (⟨.decode request.data request.format 1, .ok image⟩ :: reducing) scaled := by
  cases reduces with
  | cropping mode => exact .decoded [] rfl ..
  | whole mode same scales =>
    exact (Descends.decoded [] rfl request.data request.format 1 image).extend
      (rights_of_scaling scales)
  | @reduced smaller _ _ mode reduces scales =>
    exact (Descends.decoded [⟨.decode request.data request.format 1, .ok image⟩] rfl request.data
      request.format plan.shrink smaller).extend (rights_of_scaling scales)

variable [ScaleFactor Scale]

/-- The calls of a request that is served set the picture upright unless it has its target size. -/
theorem orientedOnce_of_served {request : Request} {made : Talk Image Scale} {bytes : Bytes}
    (served : Served request made bytes) :
    ∃ image finished, decoded? made = some image ∧ encoded? made = some finished ∧
      (request.options.clampedBox (appearanceOf image).size ≠ (appearanceOf image).size ∧
          OrientedOnce (Picture.orientation image) made ∨
        request.options.clampedBox (appearanceOf image).size = (appearanceOf image).size ∧
          rightings made = []) := by
  cases served with
  | @unchanged image _ same => exact ⟨image, image, rfl, rfl, .inr ⟨same, rfl⟩⟩
  | @changed image _ _ finished _ _ _ _ other reduces standardizes finishes =>
    have descends := ((descends_of_reducing reduces).extend
      (rights_of_standardizing standardizes)).extend (rights_of_finishing finishes)
    exact ⟨image, finished, rfl, encoded?_concat (_ :: _) ..,
      .inl ⟨other, _, finished, _, _, _, rfl, descends⟩⟩

/-- A request that succeeds, for a picture whose tag asks for a turn or a mirroring, encodes it
turned and mirrored exactly once if and only if its target differs from its size as seen. Under an
engine that is true to size it then has the axes of the picture as seen. Otherwise it has the axes
of the picture as stored. -/
theorem orientedOnce_iff (engine : Handler (Work Image Scale) State) (capabilities : Capabilities)
    (request : Request) (start : State) {bytes : Bytes}
    (succeeds : (run engine (process capabilities request) start).1 = .ok bytes) :
    let talk := transcript engine (process capabilities request) start
    ∃ image finished, decoded? (calls talk) = some image ∧ encoded? (calls talk) = some finished ∧
      let tag := Picture.orientation image
      let seen := (appearanceOf image).size
      let plan : Plan Scale := .of seen request.options request.format
      (2 ≤ tag → tag ≤ 8 → (OrientedOnce tag (calls talk) ↔ plan.target ≠ seen)) ∧
      ∀ stored, Proportionate stored talk → seen = (Orientation.turn tag).apply stored ∧
        Picture.size finished =
          if plan.target = seen then stored else plan.finalSize request.options.resize seen := by
  intro talk
  have served := served_of_succeeds engine start succeeds
  obtain ⟨image, finished, begins, ends, outcome⟩ := orientedOnce_of_served served
  refine ⟨image, finished, begins, ends, ?_⟩
  intro tag seen plan
  have target : plan.target = request.options.clampedBox seen := Plan.of_target _ _ _
  rw [target]
  constructor
  · intro least most
    obtain ⟨other, oriented⟩ | ⟨same, untouched⟩ := outcome
    · exact ⟨fun _ => other, fun _ => oriented⟩
    · -- No call turns or mirrors anything, but the tag asks for something.
      refine ⟨fun oriented => ?_, fun other => absurd same other⟩
      exact absurd (oriented.rightings_eq.symm.trans untouched)
        (Orientation.steps_ne_nil least most)
  · intro stored sized
    obtain ⟨source, last, beginsToo, endsToo, seenIs, sizeIs⟩ := size_of_served served sized.calls
    cases begins.symm.trans beginsToo
    cases ends.symm.trans endsToo
    exact ⟨seenIs, sizeIs⟩

/-- A picture that is stored on its side and scaled down comes out upright. -/
theorem orientedOnce_iff_scaled :
    let rehearsal := Rehearsal.plain { width := 8, height := 4 } 6
    let request := Request.fitting .png { width := 2, height := 4 }
    let process : Stage Sketch Rat Bytes := process rehearsal.capabilities request
    let start := Rehearsal.blank { nanoseconds := 0 }
    let made := calls (transcript rehearsal.engine process start)
    ∃ bytes, (run rehearsal.engine process start).1 = .ok bytes ∧ OrientedOnce 6 made ∧
      (encoded? made).map Sketch.size = some { width := 2, height := 4 } := by
  intro rehearsal request process start made
  have smooth : Smooth request.deadline (transcript rehearsal.engine process start) := by
    decide +kernel
  obtain ⟨bytes, succeeds, -⟩ := served_process rehearsal.engine start rfl smooth
  obtain ⟨image, finished, begins, -, oriented, -⟩ :=
    orientedOnce_iff rehearsal.engine rehearsal.capabilities request start succeeds
  have decodes : decoded? made = some rehearsal.source := by decide +kernel
  cases begins.symm.trans decodes
  exact ⟨bytes, succeeds, (oriented (by decide) (by decide)).2 (by decide +kernel),
    by decide +kernel⟩

/-- A picture that is stored on its side and seen in its target size is encoded on its side. -/
theorem not_orientedOnce_of_target :
    let rehearsal := Rehearsal.plain { width := 3, height := 4 } 6
    let request := Request.fitting .png { width := 4, height := 3 }
    let process : Stage Sketch Rat Bytes := process rehearsal.capabilities request
    let start := Rehearsal.blank { nanoseconds := 0 }
    let made := calls (transcript rehearsal.engine process start)
    (∃ bytes, (run rehearsal.engine process start).1 = .ok bytes) ∧
    decoded? made = some rehearsal.source ∧ rehearsal.source.orientation = 6 ∧
    ¬OrientedOnce 6 made ∧
    (encoded? made).map Sketch.size = some { width := 3, height := 4 } := by
  intro rehearsal request process start made
  have smooth : Smooth request.deadline (transcript rehearsal.engine process start) := by
    decide +kernel
  obtain ⟨bytes, succeeds, -⟩ := served_process rehearsal.engine start rfl smooth
  have untouched : rightings made = [] := by decide +kernel
  refine ⟨⟨bytes, succeeds⟩, by decide +kernel, rfl, fun oriented => ?_, by decide +kernel⟩
  exact absurd (oriented.rightings_eq.symm.trans untouched) (by decide)

end Thumbnailer
