/-
This file puts a request among all others that hold images of one engine. A scene tells what the
workers share, the image that the request holds and the images that the others hold; and it keeps
account of the buffers that decodes have put into the cache and of those that transforms have made.

What others do is cut into deeds, each no larger than one step of a worker: they look a key up and
hold what is found, they make an image with a buffer of its own, a decode of theirs puts its image
into the cache, they share and drop images, and somebody may drop the whole cache. They do any
number of deeds after each step of the request. Images that others hold are told by their place, so
nobody can name a buffer that was not handed over.

Three things last whatever is done. In a sound scene every image in sight has a buffer whose name
was given out, and the cache holds only what decodes have put there. A buffer that lies apart, as a
fresh one does, stays out of the reach of others. And a buffer that no transform has made is still
one that may be stored.
-/

import Thumbnailer.Engine.Pixels
import Thumbnailer.Proofs.Cache.Contents

namespace Thumbnailer

/-- What another holder of images does at once. -/
inductive Deed where
  /-- Look a key up and hold what is found. -/
  | find (key : String)
  /-- Make an image with a buffer of its own, by a decode or by a transform. -/
  | make (reading : Bool) (raster : Raster) (orientation : UInt8)
  /-- Put an image into the cache, as a decode does with what it has made. -/
  | keep (place : Nat) (key : String) (size : UInt64)
  | share (place : Nat)
  | drop (place : Nat)
  /-- Drop all cached images. -/
  | release
  /-- Time goes by. -/
  | pass (instant : Instant)

/-- A request and all others that hold images. -/
structure Scene where
  shared : SharedState
  /-- The image that the request holds, if it has one. It never has two. -/
  held : Option Canvas
  /-- The images that others hold. -/
  others : List Canvas
  /-- The buffers that decodes have put into the cache so far. -/
  inserted : List Nat
  /-- The buffers that transforms have made so far. -/
  made : List Nat
  /-- What others do after each of the next steps of the request. -/
  agenda : List (List Deed)

/-- The image that a step puts into the cache, if it puts one there. -/
def WorkerStep.stored? : WorkerStep → Option Canvas
  | .store _ canvas _ => some canvas
  | _ => none

/-- How the image is read off an answer: a success is the image, and off a failure none is read. -/
structure ReadsImage (gives : Except EngineError Canvas → Option Canvas) : Prop where
  failure : ∀ failure, gives (.error failure) = none
  success : ∀ canvas, gives (.ok canvas) = some canvas

namespace Scene

/-- An engine that was just started, with what others will do. -/
def opening (shared : SharedState) (agenda : List (List Deed)) : Scene :=
  { shared := shared, held := none, others := [], inserted := [], made := [], agenda := agenda }

/-- Keep account of a step of a decode or of other work. -/
def note (scene : Scene) (reading : Bool) (request : WorkerStep) : Scene :=
  match request, reading with
  | .store _ canvas _, true => { scene with inserted := canvas.buffer :: scene.inserted }
  | .fresh, false => { scene with made := scene.shared.next :: scene.made }
  | _, _ => scene

/-- The scene after somebody's step, which is one of a decode or of other work. -/
def act (codec : Codec) (scene : Scene) (reading : Bool) (request : WorkerStep) : Scene :=
  { scene.note reading request with shared := (SharedState.step codec request scene.shared).2 }

/-- Others get hold of images. -/
def adopt (scene : Scene) (canvases : List Canvas) : Scene :=
  { scene with others := canvases ++ scene.others }

def deed (codec : Codec) (scene : Scene) : Deed → Scene
  | .find key =>
    (scene.act codec true (.lookup key)).adopt (scene.shared.cache.lookup key).1.toList
  | .make reading raster orientation =>
    (scene.act codec reading .fresh).adopt
      [{ buffer := scene.shared.next, raster := raster, orientation := orientation }]
  | .keep place key size =>
    match scene.others[place]? with
    | some canvas =>
      if canvas.buffer ∈ scene.made then scene else scene.act codec true (.store key canvas size)
    | none => scene
  | .share place => scene.adopt scene.others[place]?.toList
  | .drop place => { scene with others := scene.others.eraseIdx place }
  | .release => scene.act codec true .release
  | .pass instant => { scene with shared := { scene.shared with clock := instant } }

/-- Deeds one after the other. -/
def after (codec : Codec) (scene : Scene) (deeds : List Deed) : Scene :=
  deeds.foldl (deed codec) scene

/-- The others do what is next on the agenda. -/
def interlude (codec : Codec) (scene : Scene) : Scene :=
  { scene with agenda := scene.agenda.tail }.after codec (scene.agenda.headD [])

/-- A step of the request, and what the others do then. -/
def step (codec : Codec) (reading : Bool) : Procedure.Handler WorkerAccess Scene :=
  fun request scene =>
    ((SharedState.step codec request scene.shared).1,
      (scene.act codec reading request).interlude codec)

variable {codec : Codec} {scene : Scene} {reading : Bool} {request : WorkerStep} {buffer : Nat}

theorem others_act : (scene.act codec reading request).others = scene.others := by
  cases request <;> cases reading <;> rfl

theorem next_le_act : scene.shared.next ≤ (scene.act codec reading request).shared.next := by
  cases request
  case fresh => exact Nat.le_succ _
  all_goals exact Nat.le_refl _

theorem deed_keep {place : Nat} {canvas : Canvas} (found : scene.others[place]? = some canvas)
    (unmade : canvas.buffer ∉ scene.made) (key : String) (size : UInt64) :
    scene.deed codec (.keep place key size) = scene.act codec true (.store key canvas size) := by
  unfold deed
  simp only [found]
  exact if_neg unmade

/-- What a decode of others puts into the cache is theirs, and no transform has made it. -/
theorem keep_cases (codec : Codec) (scene : Scene) (place : Nat) (key : String) (size : UInt64) :
    scene.deed codec (.keep place key size) = scene ∨
      ∃ canvas ∈ scene.others, canvas.buffer ∉ scene.made ∧
        scene.deed codec (.keep place key size) =
          scene.act codec true (.store key canvas size) := by
  unfold deed
  dsimp only
  split
  case h_1 canvas found =>
    split
    · exact .inl rfl
    case isFalse unmade => exact .inr ⟨canvas, List.mem_of_getElem? found, unmade, rfl⟩
  case h_2 => exact .inl rfl

theorem next_le_deed (deed : Deed) :
    scene.shared.next ≤ (scene.deed codec deed).shared.next := by
  cases deed with
  | keep place key size =>
    obtain still | ⟨canvas, -, -, stored⟩ := keep_cases codec scene place key size
    · exact Nat.le_of_eq (congrArg (·.shared.next) still.symm)
    · rw [stored]
      exact next_le_act
  | make reading raster orientation => exact Nat.le_succ _
  | find key | release | share place | drop place | pass instant => exact Nat.le_refl _

/-! ### Images in sight -/

/-- The others and the cache have images with buffers of this kind only. -/
structure Only (kind : Nat → Prop) (scene : Scene) : Prop where
  others : ∀ canvas ∈ scene.others, kind canvas.buffer
  cached : scene.shared.cache.Holds fun _ canvas => kind canvas.buffer

variable {kind : Nat → Prop}

theorem Only.imp {wider : Nat → Prop} (only : scene.Only kind)
    (also : ∀ buffer, kind buffer → wider buffer) : scene.Only wider :=
  ⟨fun canvas member => also _ (only.others canvas member),
    fun key stored held => also _ (only.cached key stored held)⟩

theorem Only.act (only : scene.Only kind)
    (stores : ∀ canvas, request.stored? = some canvas → kind canvas.buffer) :
    (scene.act codec reading request).Only kind := by
  refine ⟨by simpa only [others_act] using only.others, ?_⟩
  cases request
  case lookup key => exact only.cached.lookup key
  case store key canvas size => exact only.cached.insert (stores canvas rfl) size
  case release => exact Cache.holds_clear _ _
  all_goals exact only.cached

theorem Only.adopt (only : scene.Only kind) {canvases : List Canvas}
    (more : ∀ canvas ∈ canvases, kind canvas.buffer) : (scene.adopt canvases).Only kind :=
  ⟨fun canvas member => (List.mem_append.1 member).elim (more canvas) (only.others canvas),
    only.cached⟩

/-- Others come by no buffer but those in sight and fresh ones. -/
theorem Only.deed (only : scene.Only kind) {deed : Deed}
    (fresh : ∀ reading raster orientation, deed = .make reading raster orientation →
      kind scene.shared.next) :
    (scene.deed codec deed).Only kind := by
  cases deed with
  | find key =>
    have looked : (scene.act codec true (.lookup key)).Only kind := only.act nofun
    exact looked.adopt fun canvas member => only.cached.found (Option.mem_toList.1 member)
  | make reading raster orientation =>
    have named : (scene.act codec reading .fresh).Only kind := only.act nofun
    refine named.adopt fun canvas member => ?_
    rw [List.mem_singleton.1 member]
    exact fresh reading raster orientation rfl
  | keep place key size =>
    obtain still | ⟨canvas, member, -, stored⟩ := keep_cases codec scene place key size
    · rwa [still]
    · rw [stored]
      refine only.act ?_
      rintro _ ⟨⟩
      exact only.others canvas member
  | share place =>
    refine only.adopt fun canvas member => ?_
    exact only.others canvas (List.mem_of_getElem? (Option.mem_toList.1 member))
  | drop place =>
    exact ⟨fun canvas member => only.others canvas (List.mem_of_mem_eraseIdx member), only.cached⟩
  | release => exact only.act nofun
  | pass instant => exact ⟨only.others, only.cached⟩

/-! ### Accounts -/

/-- No transform has made the buffer of this name, and none will. -/
structure Storable (scene : Scene) (buffer : Nat) : Prop where
  named : buffer < scene.shared.next
  unmade : buffer ∉ scene.made

theorem Storable.act (storable : scene.Storable buffer) :
    (scene.act codec reading request).Storable buffer := by
  refine ⟨Nat.lt_of_lt_of_le storable.named next_le_act, ?_⟩
  cases request <;> cases reading
  case fresh.false =>
    exact fun member => (List.mem_cons.1 member).elim (Nat.ne_of_lt storable.named) storable.unmade
  all_goals exact storable.unmade

theorem Storable.deed (storable : scene.Storable buffer) (deed : Deed) :
    (scene.deed codec deed).Storable buffer := by
  have acts (reading : Bool) (request : WorkerStep) :
      (scene.act codec reading request).Storable buffer := storable.act
  cases deed with
  | find key => exact ⟨(acts true (.lookup key)).named, (acts true (.lookup key)).unmade⟩
  | make reading raster orientation =>
    exact ⟨(acts reading .fresh).named, (acts reading .fresh).unmade⟩
  | keep place key size =>
    obtain still | ⟨canvas, -, -, stored⟩ := keep_cases codec scene place key size
    · rwa [still]
    · rw [stored]
      exact acts true _
  | release => exact acts true .release
  | share place | drop place | pass instant => exact ⟨storable.named, storable.unmade⟩

/-- Every image in sight has a buffer whose name was given out, and the cache holds only what
decodes have put there. -/
structure Sound (scene : Scene) : Prop where
  named : scene.Only (· < scene.shared.next)
  stored : scene.shared.cache.Holds fun _ canvas =>
    canvas.buffer ∈ scene.inserted ∧ canvas.buffer ∉ scene.made
  made : ∀ buffer ∈ scene.made, buffer < scene.shared.next

/-- A step stores only what a decode may store. -/
def Admits (scene : Scene) (reading : Bool) (request : WorkerStep) : Prop :=
  ∀ canvas, request.stored? = some canvas → reading = true ∧ scene.Storable canvas.buffer

theorem Sound.act (sound : scene.Sound) (admits : scene.Admits reading request) :
    (scene.act codec reading request).Sound := by
  refine ⟨?_, ?_, ?_⟩
  · refine (sound.named.imp fun _ below => Nat.lt_of_lt_of_le below next_le_act).act ?_
    exact fun canvas stored => Nat.lt_of_lt_of_le (admits canvas stored).2.named next_le_act
  · cases request <;> cases reading
    case lookup.false key | lookup.true key => exact sound.stored.lookup key
    case store.false key canvas size => exact absurd (admits canvas rfl).1 nofun
    case store.true key canvas size =>
      have still : scene.shared.cache.Holds fun _ cached =>
          cached.buffer ∈ canvas.buffer :: scene.inserted ∧ cached.buffer ∉ scene.made :=
        fun key stored held => (sound.stored key stored held).imp_left (List.mem_cons_of_mem _)
      exact still.insert ⟨List.mem_cons_self, (admits canvas rfl).2.unmade⟩ size
    case release.false | release.true => exact Cache.holds_clear _ _
    case fresh.false =>
      -- A name that is given out now is not yet the name of anything in the cache.
      intro key stored held
      obtain ⟨inserted, unmade⟩ := sound.stored key stored held
      refine ⟨inserted, fun member => (List.mem_cons.1 member).elim ?_ unmade⟩
      exact Nat.ne_of_lt (sound.named.cached key stored held)
    all_goals exact sound.stored
  · cases request <;> cases reading
    case fresh.false =>
      refine List.forall_mem_cons.2 ⟨Nat.lt_succ_self _, fun buffer member => ?_⟩
      exact Nat.lt_succ_of_lt (sound.made buffer member)
    case fresh.true => exact fun buffer member => Nat.lt_succ_of_lt (sound.made buffer member)
    all_goals exact sound.made

theorem Sound.deed (sound : scene.Sound) (deed : Deed) : (scene.deed codec deed).Sound := by
  have named : (scene.deed codec deed).Only (· < (scene.deed codec deed).shared.next) := by
    refine (sound.named.imp fun _ below => Nat.lt_of_lt_of_le below (next_le_deed deed)).deed ?_
    rintro reading raster orientation rfl
    exact Nat.lt_succ_self _
  cases deed with
  | find key =>
    have looked : (scene.act codec true (.lookup key)).Sound := sound.act nofun
    exact ⟨named, looked.stored, looked.made⟩
  | make reading raster orientation =>
    have fresh : (scene.act codec reading .fresh).Sound := sound.act nofun
    exact ⟨named, fresh.stored, fresh.made⟩
  | keep place key size =>
    obtain still | ⟨canvas, member, unmade, stored⟩ := keep_cases codec scene place key size
    · rwa [still]
    · rw [stored]
      refine sound.act ?_
      rintro _ ⟨⟩
      exact ⟨rfl, sound.named.others canvas member, unmade⟩
  | release => exact sound.act nofun
  | share place | drop place | pass instant => exact ⟨named, sound.stored, sound.made⟩

/-! ### Buffers out of reach -/

/-- Nobody else has an image with this buffer, nor has the cache. -/
structure Apart (scene : Scene) (buffer : Nat) : Prop where
  named : buffer < scene.shared.next
  only : scene.Only (· ≠ buffer)

theorem Apart.act (apart : scene.Apart buffer) (storesNothing : request.stored? = none) :
    (scene.act codec reading request).Apart buffer := by
  refine ⟨Nat.lt_of_lt_of_le apart.named next_le_act, apart.only.act fun canvas stored => ?_⟩
  rw [storesNothing] at stored
  cases stored

/-- What is out of reach stays out of reach. -/
theorem Apart.deed (apart : scene.Apart buffer) (deed : Deed) :
    (scene.deed codec deed).Apart buffer :=
  ⟨Nat.lt_of_lt_of_le apart.named (next_le_deed deed),
    apart.only.deed fun _ _ _ _ => Nat.ne_of_gt apart.named⟩

/-- A fresh name is the name of nothing in sight. -/
theorem Sound.apart_fresh (sound : scene.Sound) :
    (scene.act codec reading .fresh).Apart scene.shared.next :=
  ⟨Nat.lt_succ_self _, Only.act (sound.named.imp fun _ => Nat.ne_of_lt) nofun⟩

theorem Sound.storable_fresh (sound : scene.Sound) :
    (scene.act codec true .fresh).Storable scene.shared.next :=
  ⟨Nat.lt_succ_self _, fun member => Nat.lt_irrefl _ (sound.made _ member)⟩

/-! ### What others do in between -/

/-- What every deed preserves is preserved by what the others do after a step. -/
theorem interlude_induction (property : Scene → Prop)
    (deeds : ∀ scene deed, property scene → property (scene.deed codec deed))
    (begins : property { scene with agenda := scene.agenda.tail }) :
    property (scene.interlude codec) :=
  List.foldlRecOn _ _ begins fun scene holds deed _ => deeds scene deed holds

theorem Sound.interlude (sound : scene.Sound) : (scene.interlude codec).Sound :=
  interlude_induction Sound (fun _ deed sound => sound.deed deed)
    ⟨⟨sound.named.others, sound.named.cached⟩, sound.stored, sound.made⟩

theorem Storable.interlude (storable : scene.Storable buffer) :
    (scene.interlude codec).Storable buffer :=
  interlude_induction (·.Storable buffer) (fun _ deed storable => storable.deed deed)
    ⟨storable.named, storable.unmade⟩

theorem Apart.interlude (apart : scene.Apart buffer) : (scene.interlude codec).Apart buffer :=
  interlude_induction (·.Apart buffer) (fun _ deed apart => apart.deed deed)
    ⟨apart.named, ⟨apart.only.others, apart.only.cached⟩⟩

theorem Sound.step (sound : scene.Sound) (admits : scene.Admits reading request) :
    (step codec reading request scene).2.Sound :=
  (sound.act admits).interlude

/-- A step that stores nothing is always admitted. -/
theorem Sound.step_of_none (sound : scene.Sound) (storesNothing : request.stored? = none) :
    (Scene.step codec reading request scene).2.Sound := by
  refine sound.step fun canvas stored => ?_
  rw [storesNothing] at stored
  cases stored

theorem Apart.step (apart : scene.Apart buffer) (storesNothing : request.stored? = none) :
    (Scene.step codec reading request scene).2.Apart buffer :=
  (apart.act storesNothing).interlude

theorem sound_opening (memoryBudget : UInt64) (entryBudget : Nat) (agenda : List (List Deed)) :
    (opening (.initial memoryBudget entryBudget) agenda).Sound :=
  ⟨⟨nofun, Cache.holds_empty _ _ _⟩, Cache.holds_empty _ _ _, nofun⟩

theorem Sound.after (sound : scene.Sound) (deeds : List Deed) : (scene.after codec deeds).Sound :=
  List.foldlRecOn deeds _ sound fun _ sound deed _ => sound.deed deed

end Scene

end Thumbnailer
