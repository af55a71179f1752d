/-
This file states which work a served request asks for, and in which order, whatever engine does the
work. Each part of a request has a relation of its own between the image that goes in, the calls
that are made with their answers, and the image that comes out. The calls of a request are put
together from those of its parts.

The main statement covers every engine. A request that is refused asks for nothing. One that is not
refused, and whose calls all succeed in time, ends in encoded data, and its calls are exactly those
that the relations allow: they leave only the answers open, which are the engine's to give.
-/

import Thumbnailer.Engine.Rehearsal
import Thumbnailer.Proofs.Order
import Thumbnailer.Scale.Exact

namespace Thumbnailer

open Procedure Stage

variable {Image Scale Value State : Type}

/-! ### Calls -/

/-- Whether a task is work on pictures; telling the time is not. -/
def Task.isWork : Task Image Scale → Bool
  | .now => false
  | _ => true

namespace Stage

/-- The work in a conversation, without the looks at the clock. -/
def calls (talk : Talk Image Scale) : Talk Image Scale :=
  talk.filter fun exchange => exchange.1.isWork

/-- The image that work begins with, if it begins with a decode. -/
def decoded? : Talk Image Scale → Option Image
  | ⟨.decode .., .ok image⟩ :: _ => some image
  | _ => none

/-- The image that work ends with, if it ends with an encode. -/
def encoded? (talk : Talk Image Scale) : Option Image :=
  match talk.getLast? with
  | some ⟨.encode image _ _, _⟩ => some image
  | _ => none

theorem encoded?_concat (talk : Talk Image Scale) (image : Image) (format : Format)
    (quality : Quality) (answer : Except EngineError Bytes) :
    encoded? (talk ++ [⟨.encode image format quality, answer⟩]) = some image := by
  unfold encoded?
  rw [List.getLast?_concat]

theorem calls_cons_of_work {task : Task Image Scale} (works : task.isWork = true)
    (answer : task.Answer) (rest : Talk Image Scale) :
    calls (⟨task, answer⟩ :: rest) = ⟨task, answer⟩ :: calls rest :=
  List.filter_cons_of_pos works

theorem calls_cons_of_look {task : Task Image Scale} (look : task.isWork = false)
    (answer : task.Answer) (rest : Talk Image Scale) :
    calls (⟨task, answer⟩ :: rest) = calls rest :=
  List.filter_cons_of_neg (Bool.eq_false_iff.1 look)

theorem calls_append (before after : Talk Image Scale) :
    calls (before ++ after) = calls before ++ calls after :=
  List.filter_append before after

end Stage

namespace Protocol

variable [Picture Image]

/-! ### The parts of a request -/

/-- An image without alpha is scaled alone. One with alpha is scaled between being multiplied by it
and being divided by it, in the band that the multiplication reported. -/
inductive Scaling (scale : Scale) : Image → Talk Image Scale → Image → Prop
  | alone {image scaled : Image} (solid : Picture.hasAlpha image = false) :
      Scaling scale image [⟨.resize image scale, .ok scaled⟩] scaled
  | bracketed {image multiplied scaled divided : Image} {band : Band}
      (alpha : Picture.hasAlpha image = true) :
      Scaling scale image
        [⟨.premultiply image, .ok (multiplied, band)⟩, ⟨.resize multiplied scale, .ok scaled⟩,
          ⟨.unpremultiply scaled band, .ok divided⟩] divided

/-- FIT and FILL scale, and decode anew before if the plan has a reduction. -/
inductive Reducing (request : Request) (plan : Plan Scale) :
    Image → Talk Image Scale → Image → Prop
  | cropping {image : Image} (mode : request.options.resize = .crop) :
      Reducing request plan image [] image
  | whole {image scaled : Image} {scaling : Talk Image Scale}
      (mode : request.options.resize ≠ .crop) (same : plan.shrink ≤ 1)
      (scales : Scaling plan.scale image scaling scaled) :
      Reducing request plan image scaling scaled
  | reduced {image smaller scaled : Image} {scaling : Talk Image Scale}
      (mode : request.options.resize ≠ .crop) (reduces : 1 < plan.shrink)
      (scales : Scaling plan.scale smaller scaling scaled) :
      Reducing request plan image
        (⟨.decode request.data request.format plan.shrink, .ok smaller⟩ :: scaling) scaled

/-- An image is converted to standard colour exactly if it is not read so already. -/
inductive Standardizing : Image → Talk Image Scale → Image → Prop
  | already {image : Image} (standard : Picture.interpretation image = .srgb) :
      Standardizing image [] image
  | converted {image standard : Image} (other : Picture.interpretation image ≠ .srgb) :
      Standardizing image [⟨.convert image .srgb, .ok standard⟩] standard

/-- A turn is made exactly if there is one to make. -/
inductive Turning (turn : Turn) : Image → Talk Image Scale → Image → Prop
  | upright {image : Image} (none : turn = .none) : Turning turn image [] image
  | turned {image turned : Image} (some : turn ≠ .none) :
      Turning turn image [⟨.rotate image turn, .ok turned⟩] turned

/-- An image is mirrored exactly if it is to be. -/
inductive Mirroring (mirrored : Bool) : Image → Talk Image Scale → Image → Prop
  | kept {image : Image} (plain : mirrored = false) : Mirroring mirrored image [] image
  | flipped {image flipped : Image} (mirror : mirrored = true) :
      Mirroring mirrored image [⟨.flip image, .ok flipped⟩] flipped

/-- Whether an image is cut: never for FIT, always under smart gravity, and else if the window is
not the full image. -/
def NeedsCut (options : Options) (target : Size) (image : Image) : Prop :=
  options.resize ≠ .fit ∧ (options.gravity = .smart ∨
    (gravityWindow (Picture.size image) target options.gravity).size ≠ Picture.size image)

/-- Cutting an image if it needs to be cut. Whether it does, and where a window lies, is read off
the image that was measured. -/
inductive Cutting (options : Options) (target : Size) (measured : Image) :
    Image → Talk Image Scale → Image → Prop
  | full {image : Image} (covered : ¬NeedsCut options target measured) :
      Cutting options target measured image [] image
  | salient {image cut : Image} (needed : NeedsCut options target measured)
      (smart : options.gravity = .smart) :
      Cutting options target measured image [⟨.smartCrop image target, .ok cut⟩] cut
  | window {image cut : Image} (needed : NeedsCut options target measured)
      (placed : options.gravity ≠ .smart) :
      Cutting options target measured image
        [⟨.crop image (gravityWindow (Picture.size measured) target options.gravity), .ok cut⟩] cut

/-- Turning, mirroring and cutting. Exactly one copy is made, before the first of them, if there is
any of them to do. -/
inductive Finishing (options : Options) (appearance : Appearance) (target : Size) :
    Image → Talk Image Scale → Image → Prop
  | untouched {image : Image} (upright : appearance.turn = .none)
      (plain : appearance.mirrored = false) (covered : ¬NeedsCut options target image) :
      Finishing options appearance target image [] image
  | cut {image owned finished : Image} {cutting : Talk Image Scale}
      (upright : appearance.turn = .none) (plain : appearance.mirrored = false)
      (needed : NeedsCut options target image)
      (cuts : Cutting options target image owned cutting finished) :
      Finishing options appearance target image (⟨.copy image, .ok owned⟩ :: cutting) finished
  | oriented {image owned turned oriented finished : Image}
      {turning mirroring cutting : Talk Image Scale}
      (pending : appearance.turn ≠ .none ∨ appearance.mirrored = true)
      (turns : Turning appearance.turn owned turning turned)
      (mirrors : Mirroring appearance.mirrored turned mirroring oriented)
      (cuts : Cutting options target oriented oriented cutting finished) :
      Finishing options appearance target image
        (⟨.copy image, .ok owned⟩ :: (turning ++ mirroring ++ cutting)) finished

/-- The calls of a request that is served. A picture that has its target size already is encoded as
it was decoded. -/
inductive Served [ScaleFactor Scale] (request : Request) : Talk Image Scale → Bytes → Prop
  | unchanged {image : Image} {bytes : Bytes}
      (same : request.options.clampedBox (appearanceOf image).size = (appearanceOf image).size) :
      Served request
        [⟨.decode request.data request.format 1, .ok image⟩,
          ⟨.encode image request.options.format request.quality, .ok bytes⟩] bytes
  | changed {image scaled standard finished : Image} {bytes : Bytes}
      {reducing standardizing finishing : Talk Image Scale}
      (other : request.options.clampedBox (appearanceOf image).size ≠ (appearanceOf image).size)
      (reduces : Reducing request
        (Plan.of (appearanceOf image).size request.options request.format) image reducing scaled)
      (standardizes : Standardizing scaled standardizing standard)
      (finishes : Finishing request.options (appearanceOf image)
        (request.options.clampedBox (appearanceOf image).size) standard finishing finished) :
      Served request
        (⟨.decode request.data request.format 1, .ok image⟩ ::
          (reducing ++ standardizing ++ finishing ++
            [⟨.encode finished request.options.format request.quality, .ok bytes⟩])) bytes

/-! ### The stages keep to their relations -/

theorem scaling_of_achieves {image scaled : Image} {scale : Scale} {talk : Talk Image Scale}
    (achieves : (scaleEvenly image scale).Achieves talk scaled) :
    Scaling scale image (calls talk) scaled := by
  unfold scaleEvenly at achieves
  split at achieves
  case isTrue alpha =>
    obtain ⟨⟨multiplied, band⟩, first, rest, rfl, multiplies, further⟩ :=
      achieves_bind_iff.1 achieves
    obtain ⟨resized, second, third, rfl, resizes, divides⟩ := achieves_bind_iff.1 further
    obtain ⟨_, rfl, rfl⟩ := achieves_work_iff.1 multiplies
    obtain ⟨_, rfl, rfl⟩ := achieves_work_iff.1 resizes
    obtain ⟨_, rfl, rfl⟩ := achieves_work_iff.1 divides
    exact .bracketed alpha
  case isFalse solid =>
    obtain ⟨_, rfl, rfl⟩ := achieves_work_iff.1 achieves
    exact .alone (eq_false_of_ne_true solid)

theorem standardizing_of_achieves {image standard : Image} {talk : Talk Image Scale}
    (achieves : (normalizeColour image).Achieves talk standard) :
    Standardizing image (calls talk) standard := by
  unfold normalizeColour at achieves
  split at achieves
  case isTrue already =>
    obtain ⟨rfl, rfl⟩ := achieves_pure_iff.1 achieves
    exact .already already
  case isFalse other =>
    obtain ⟨_, rfl, rfl⟩ := achieves_work_iff.1 achieves
    exact .converted other

omit [Picture Image] in
/-- Orientation makes one copy, then the turn and the mirroring that the appearance asks for. -/
theorem turning_mirroring_of_achieves {image oriented : Image} {appearance : Appearance}
    {talk : Talk Image Scale} (achieves : (orient image appearance).Achieves talk oriented) :
    ∃ owned turned turning mirroring,
      calls talk = ⟨.copy image, .ok owned⟩ :: (turning ++ mirroring) ∧
        Turning appearance.turn owned turning turned ∧
        Mirroring appearance.mirrored turned mirroring oriented := by
  obtain ⟨owned, _, rest, rfl, copies, further⟩ := achieves_bind_iff.1 achieves
  obtain ⟨turned, turning, mirroring, rfl, turns, mirrors⟩ := achieves_ite_bind_iff.1 further
  obtain ⟨_, rfl, rfl⟩ := achieves_work_iff.1 copies
  refine ⟨owned, turned, calls turning, calls mirroring, ?_, ?_, ?_⟩
  · rw [calls_append, calls_append]
    rfl
  · split at turns
    case isTrue none =>
      obtain ⟨rfl, rfl⟩ := achieves_pure_iff.1 turns
      exact .upright none
    case isFalse some =>
      obtain ⟨_, rfl, rfl⟩ := achieves_work_iff.1 turns
      exact .turned some
  · split at mirrors
    case isTrue mirror =>
      obtain ⟨_, rfl, rfl⟩ := achieves_work_iff.1 mirrors
      exact .flipped mirror
    case isFalse plain =>
      obtain ⟨rfl, rfl⟩ := achieves_pure_iff.1 mirrors
      exact .kept (eq_false_of_ne_true plain)

omit [Picture Image] in
/-- An image is made exclusive by a copy, unless it is so already. -/
theorem exclusive_of_achieves {image exclusive : Image} {owned : Bool} {talk : Talk Image Scale}
    (achieves : (if owned then pure image else copy image : Stage Image Scale Image).Achieves talk
      exclusive) :
    calls talk = (if owned then [] else [⟨.copy image, .ok exclusive⟩]) ∧
      (owned = true → exclusive = image) := by
  cases owned with
  | true =>
    obtain ⟨rfl, rfl⟩ := achieves_pure_iff.1 achieves
    exact ⟨rfl, fun _ => rfl⟩
  | false =>
    obtain ⟨_, rfl, rfl⟩ := achieves_work_iff.1 achieves
    exact ⟨rfl, fun impossible => nomatch impossible⟩

/-- Cutting copies an image that is not owned alone, if it needs to be cut at all. -/
theorem cutting_of_achieves {options : Options} {target : Size} {image finished : Image}
    {owned : Bool} {talk : Talk Image Scale} (mode : options.resize ≠ .fit)
    (achieves : (cut image owned target options.gravity).Achieves talk finished) :
    ¬NeedsCut options target image ∧ calls talk = [] ∧ finished = image ∨
      NeedsCut options target image ∧ ∃ exclusive cutting,
        calls talk = (if owned then [] else [⟨.copy image, .ok exclusive⟩]) ++ cutting ∧
          (owned = true → exclusive = image) ∧
            Cutting options target image exclusive cutting finished := by
  unfold cut at achieves
  split at achieves
  case isTrue smart =>
    have needed : NeedsCut options target image := ⟨mode, .inl smart⟩
    obtain ⟨exclusive, copying, _, rfl, copies, cuts⟩ := achieves_ite_bind_iff.1 achieves
    obtain ⟨copied, kept⟩ := exclusive_of_achieves copies
    obtain ⟨_, rfl, rfl⟩ := achieves_work_iff.1 cuts
    refine .inr ⟨needed, exclusive, _, ?_, kept, .salient needed smart⟩
    rw [calls_append, copied]
    rfl
  case isFalse placed =>
    dsimp only at achieves
    split at achieves
    case isTrue covered =>
      obtain ⟨rfl, rfl⟩ := achieves_pure_iff.1 achieves
      exact .inl ⟨fun needed => needed.2.elim placed fun differs => differs covered, rfl, rfl⟩
    case isFalse differs =>
      have needed : NeedsCut options target image := ⟨mode, .inr differs⟩
      obtain ⟨exclusive, copying, _, rfl, copies, cuts⟩ := achieves_ite_bind_iff.1 achieves
      obtain ⟨copied, kept⟩ := exclusive_of_achieves copies
      obtain ⟨_, rfl, rfl⟩ := achieves_work_iff.1 cuts
      refine .inr ⟨needed, exclusive, _, ?_, kept, .window needed placed⟩
      rw [calls_append, copied]
      rfl

theorem finishing_of_achieves {options : Options} {appearance : Appearance} {target : Size}
    {image finished : Image} {talk : Talk Image Scale}
    (achieves : (orientAndCut image appearance target options).Achieves talk finished) :
    Finishing options appearance target image (calls talk) finished := by
  obtain ⟨oriented, orienting, rest, rfl, orients, further⟩ := achieves_ite_bind_iff.1 achieves
  rw [calls_append]
  have cuts : ¬NeedsCut options target oriented ∧ calls rest = [] ∧ finished = oriented ∨
      NeedsCut options target oriented ∧ ∃ exclusive cutting,
        calls rest = (if appearance.needsOrientation then []
          else [⟨.copy oriented, .ok exclusive⟩]) ++ cutting ∧
          (appearance.needsOrientation = true → exclusive = oriented) ∧
            Cutting options target oriented exclusive cutting finished := by
    split at further
    case isTrue fit =>
      obtain ⟨rfl, rfl⟩ := achieves_pure_iff.1 further
      exact .inl ⟨fun needed => needed.1 fit, rfl, rfl⟩
    case isFalse mode => exact cutting_of_achieves mode further
  cases pending : appearance.needsOrientation with
  | true =>
    rw [pending] at orients cuts
    obtain ⟨owned, turned, turning, mirroring, made, turns, mirrors⟩ :=
      turning_mirroring_of_achieves orients
    have pending : appearance.turn ≠ .none ∨ appearance.mirrored = true := by
      simpa [Appearance.needsOrientation] using pending
    rw [made]
    obtain ⟨covered, nothing, rfl⟩ | ⟨needed, exclusive, cutting, made, kept, cuts⟩ := cuts
    · rw [nothing]
      exact .oriented pending turns mirrors (.full covered)
    · cases kept rfl
      rw [made]
      exact .oriented pending turns mirrors cuts
  | false =>
    rw [pending] at orients cuts
    obtain ⟨rfl, rfl⟩ := achieves_pure_iff.1 orients
    have upright : appearance.turn = .none ∧ appearance.mirrored = false := by
      simpa [Appearance.needsOrientation] using pending
    obtain ⟨covered, nothing, rfl⟩ | ⟨needed, exclusive, cutting, made, -, cuts⟩ := cuts
    · rw [nothing]
      exact .untouched upright.1 upright.2 covered
    · rw [made]
      exact .cut upright.1 upright.2 needed cuts

omit [Picture Image] in
theorem calls_of_achieves_checkpoint {deadline : Deadline} {talk : Talk Image Scale} {passed : Unit}
    (achieves : (checkpoint deadline).Achieves talk passed) : calls talk = [] := by
  obtain ⟨now, rfl, _⟩ := achieves_checkpoint_iff.1 achieves
  rfl

/-- What a transform does once the image is scaled. -/
def afterScaling (request : Request) (appearance : Appearance) (target : Size) (scaled : Image) :
    Stage Image Scale Image := do
  let standard ← normalizeColour scaled
  checkpoint request.deadline
  let finished ← orientAndCut standard appearance target request.options
  checkpoint request.deadline
  pure finished

/-- The calls of a transform are those that scale, those that bring to standard colour and those
that orient and cut. -/
theorem parts_of_achieves_transform {image finished : Image} {request : Request}
    {appearance : Appearance} {plan : Plan Scale} {talk : Talk Image Scale}
    (achieves : (transform image request appearance plan).Achieves talk finished) :
    ∃ scaled standard reducing standardizing finishing,
      calls talk = reducing ++ standardizing ++ finishing ∧
        Reducing request plan image reducing scaled ∧
          Standardizing scaled standardizing standard ∧
            Finishing request.options appearance plan.target standard finishing finished := by
  obtain ⟨scaled, before, rest, rfl, reduces, further⟩ : ∃ scaled before after,
      talk = before ++ after ∧ Reducing request plan image (calls before) scaled ∧
        (afterScaling request appearance plan.target scaled).Achieves after finished := by
    unfold transform at achieves
    dsimp only at achieves
    split at achieves
    case isTrue cropping =>
      obtain ⟨scaled, before, after, rfl, kept, further⟩ := achieves_bind_iff.1 achieves
      obtain ⟨rfl, rfl⟩ := achieves_pure_iff.1 kept
      exact ⟨_, [], after, rfl, .cropping cropping, further⟩
    case isFalse mode =>
      obtain ⟨source, decoding, rest, rfl, decodes, further⟩ := achieves_ite_bind_iff.1 achieves
      obtain ⟨scaled, scaling, after, rfl, scales, further⟩ := achieves_bind_iff.1 further
      have scales := scaling_of_achieves scales
      refine ⟨scaled, decoding ++ scaling, after, (List.append_assoc ..).symm, ?_, further⟩
      rw [calls_append]
      split at decodes
      case isTrue reduced =>
        obtain ⟨_, rfl, rfl⟩ := achieves_work_iff.1 decodes
        exact .reduced mode (by simpa [Plan.redecodes] using reduced) scales
      case isFalse whole =>
        obtain ⟨rfl, rfl⟩ := achieves_pure_iff.1 decodes
        exact .whole mode (by simpa [Plan.redecodes] using whole) scales
  obtain ⟨standard, standardizing, rest, rfl, standardizes, further⟩ := achieves_bind_iff.1 further
  obtain ⟨_, checking, rest, rfl, checks, further⟩ := achieves_bind_iff.1 further
  obtain ⟨_, finishing, rest, rfl, finishes, further⟩ := achieves_bind_iff.1 further
  obtain ⟨_, rechecking, rest, rfl, rechecks, further⟩ := achieves_bind_iff.1 further
  obtain ⟨rfl, rfl⟩ := achieves_pure_iff.1 further
  refine ⟨scaled, standard, calls before, calls standardizing, calls finishing, ?_, reduces,
    standardizing_of_achieves standardizes, finishing_of_achieves finishes⟩
  simp only [calls_append, calls_of_achieves_checkpoint checks,
    calls_of_achieves_checkpoint rechecks, List.nil_append, List.append_nil, List.append_assoc]

/-- A request that ends in encoded data made the calls of the protocol. -/
theorem served_of_achieves [ScaleFactor Scale] {request : Request} {talk : Talk Image Scale}
    {bytes : Bytes} (achieves : (serve request).Achieves talk bytes) :
    Served request (calls talk) bytes := by
  obtain ⟨image, _, rest, rfl, decodes, further⟩ := achieves_bind_iff.1 achieves
  obtain ⟨_, rfl, rfl⟩ := achieves_work_iff.1 decodes
  obtain ⟨_, checking, rest, rfl, checks, further⟩ := achieves_bind_iff.1 further
  obtain ⟨finished, changing, rest, rfl, changes, further⟩ := achieves_ite_bind_iff.1 further
  obtain ⟨_, rechecking, rest, rfl, rechecks, encodes⟩ := achieves_bind_iff.1 further
  obtain ⟨_, rfl, rfl⟩ := achieves_work_iff.1 encodes
  simp only [calls_append, calls_of_achieves_checkpoint checks,
    calls_of_achieves_checkpoint rechecks, List.nil_append]
  split at changes
  case isTrue same =>
    obtain ⟨rfl, rfl⟩ := achieves_pure_iff.1 changes
    rw [Plan.of_target] at same
    exact .unchanged same
  case isFalse other =>
    obtain ⟨scaled, standard, reducing, standardizing, finishing, made, reduces, standardizes,
      finishes⟩ := parts_of_achieves_transform changes
    rw [Plan.of_target] at other finishes
    rw [made]
    exact .changed other reduces standardizes finishes

/-! ### The protocol -/

variable [ScaleFactor Scale]

theorem refused_process (engine : Handler (Work Image Scale) State) {capabilities : Capabilities}
    {request : Request} {refusal : PipelineError} (start : State)
    (refused : request.refusal? capabilities = some refusal) :
    transcript engine (process capabilities request) start = [] ∧
      (run engine (process capabilities request) start).1 = .error refusal := by
  unfold process
  rw [refused]
  exact ⟨rfl, rfl⟩

/-- A request that asks for any work is not refused. -/
theorem accepted_of_asked {engine : Handler (Work Image Scale) State} {capabilities : Capabilities}
    {request : Request} {start : State}
    (asked : 0 < (calls (transcript engine (process capabilities request) start)).length) :
    request.refusal? capabilities = none := by
  cases decision : request.refusal? capabilities with
  | none => rfl
  | some refusal =>
    rw [(refused_process engine start decision).1] at asked
    exact absurd asked (Nat.lt_irrefl 0)

/-- A request that is not refused has valid options. -/
theorem validate_of_accepted {capabilities : Capabilities} {request : Request}
    (accepted : request.refusal? capabilities = none) : request.options.validate = .ok () := by
  unfold Request.refusal? at accepted
  split at accepted
  · cases accepted
  · assumption

/-- A request that is not refused asks for nothing that the capabilities lack. -/
theorem lack?_of_accepted {capabilities : Capabilities} {request : Request}
    (accepted : request.refusal? capabilities = none) : capabilities.lack? request = none := by
  unfold Request.refusal? at accepted
  rw [validate_of_accepted accepted] at accepted
  exact Option.map_eq_none_iff.1 accepted

theorem process_of_accepted {capabilities : Capabilities} {request : Request}
    (accepted : request.refusal? capabilities = none) :
    (process capabilities request : Stage Image Scale Bytes) = serve request := by
  unfold process
  rw [accepted]

/-- A request that succeeds is served. -/
theorem served_of_succeeds (engine : Handler (Work Image Scale) State) {capabilities : Capabilities}
    {request : Request} {bytes : Bytes} (start : State)
    (succeeds : (run engine (process capabilities request) start).1 = .ok bytes) :
    Served request (calls (transcript engine (process capabilities request) start)) bytes := by
  cases decision : request.refusal? capabilities with
  | some refusal => cases (refused_process engine start decision).2.symm.trans succeeds
  | none =>
    rw [process_of_accepted decision] at succeeds ⊢
    have conversation := conversation_run engine (serve request) start
    rw [succeeds] at conversation
    exact served_of_achieves conversation

/-- A request that is not refused is served, if its work succeeds and its deadline does not pass. -/
theorem served_process (engine : Handler (Work Image Scale) State) {capabilities : Capabilities}
    {request : Request} (start : State) (accepted : request.refusal? capabilities = none)
    (smooth : Smooth request.deadline (transcript engine (process capabilities request) start)) :
    ∃ bytes, (run engine (process capabilities request) start).1 = .ok bytes ∧
      Served request (calls (transcript engine (process capabilities request) start)) bytes := by
  have conversation := conversation_run engine (process capabilities request) start
  have orderly := @orderly_serve Image Scale _ _ request
  rw [← process_of_accepted accepted] at orderly
  obtain ⟨bytes, succeeds⟩ := orderly.succeeds conversation smooth
  exact ⟨bytes, succeeds, served_of_succeeds engine start succeeds⟩

/-- Under every engine, a request whose options are invalid or that the engine cannot serve ends in
that error and asks for nothing, not even for the time. Any other request, if its work succeeds and
its deadline does not pass, ends in encoded data and makes exactly the calls of the protocol. -/
theorem calls_process (engine : Handler (Work Image Scale) State) (capabilities : Capabilities)
    (request : Request) (start : State) :
    let talk := transcript engine (process capabilities request) start
    let outcome := (run engine (process capabilities request) start).1
    (∀ failure, request.options.validate = .error failure →
      talk = [] ∧ outcome = .error (.options failure)) ∧
    (∀ lack, request.options.validate = .ok () → capabilities.lack? request = some lack →
      talk = [] ∧ outcome = .error (.unsupported lack)) ∧
    (request.options.validate = .ok () → capabilities.lack? request = none →
      Smooth request.deadline talk →
        ∃ bytes, outcome = .ok bytes ∧ Served request (calls talk) bytes) := by
  intro talk outcome
  refine ⟨fun failure invalid => ?_, fun lack valid lacks => ?_, fun valid able smooth => ?_⟩
  · have refusal : request.refusal? capabilities = some (.options failure) := by
      unfold Request.refusal?
      rw [invalid]
    exact refused_process engine start refusal
  · have refusal : request.refusal? capabilities = some (.unsupported lack) := by
      unfold Request.refusal?
      rw [valid, lacks]
      rfl
    exact refused_process engine start refusal
  · have accepted : request.refusal? capabilities = none := by
      unfold Request.refusal?
      rw [valid, able]
      rfl
    exact served_process engine start accepted smooth

/-- An engine at work on a picture that needs everything done that one picture can. -/
def thorough : Rehearsal where
  source :=
    { size := { width := 64, height := 48 }, orientation := 7, hasAlpha := true,
      interpretation := .rgb16 }
  capabilities := { decodes := fun _ => true, encodes := fun _ => true, smartCrop := false }
  band := .word
  failing := none
  stalling := none

/-- A request for all of it. -/
def thoroughRequest : Request where
  data := []
  format := .webp
  options := { resize := .fill, width := 10, height := 20, gravity := .south, format := .png }
  quality := .standard
  deadline := .passingAt { nanoseconds := 0 } { nanoseconds := 1 }

/-- The same request with other options, and with no time left. -/
def hopelessRequest (options : Options) : Request :=
  { thoroughRequest with
    options := options
    deadline := .passingAt { nanoseconds := 0 } { nanoseconds := 0 } }

theorem calls_process_thorough :
    let process : Request → Stage Sketch Rat Bytes := process thorough.capabilities
    let start := Rehearsal.blank { nanoseconds := 0 }
    let boxless := hopelessRequest { thoroughRequest.options with height := 0 }
    let salient := hopelessRequest { thoroughRequest.options with gravity := .smart }
    (boxless.options.validate = .error (.invalidBox 10 0 .bothAxes) ∧
      transcript thorough.engine (process boxless) start = [] ∧
      (run thorough.engine (process boxless) start).1 =
        .error (.options (.invalidBox 10 0 .bothAxes))) ∧
    (salient.options.validate = .ok () ∧
      thorough.capabilities.lack? salient = some .smartCrop ∧
      transcript thorough.engine (process salient) start = [] ∧
      (run thorough.engine (process salient) start).1 = .error (.unsupported .smartCrop)) ∧
    thoroughRequest.options.validate = .ok () ∧
    thorough.capabilities.lack? thoroughRequest = none ∧
    Smooth thoroughRequest.deadline (transcript thorough.engine (process thoroughRequest) start) ∧
    (run thorough.engine (process thoroughRequest) start).2.entries.map Entry.primitive =
      [.decode, .decode, .premultiply, .resize, .unpremultiply, .convert, .copy, .rotate, .flip,
        .crop, .encode] ∧
    ∃ bytes, (run thorough.engine (process thoroughRequest) start).1 = .ok bytes ∧
      Served thoroughRequest (calls (transcript thorough.engine (process thoroughRequest) start))
        bytes := by
  intro process start boxless salient
  have outcomes := fun request : Request =>
    calls_process (thorough.engine : Handler (Work Sketch Rat) _) thorough.capabilities request
      start
  have smooth : Smooth thoroughRequest.deadline
      (transcript thorough.engine (process thoroughRequest) start) := by
    decide +kernel
  refine ⟨⟨rfl, (outcomes boxless).1 _ rfl⟩, ⟨rfl, rfl, (outcomes salient).2.1 _ rfl rfl⟩, rfl, rfl,
    smooth, by decide +kernel, ?_⟩
  exact (outcomes thoroughRequest).2.2 rfl rfl smooth

end Protocol

end Thumbnailer
