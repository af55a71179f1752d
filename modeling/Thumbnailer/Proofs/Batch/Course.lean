/-
This file follows one job of a batch to its end, however its requests are answered. The engine may
work in steps of its own, so that the steps of several jobs can be mixed. A job first produces its
result, which asks to read the source and asks the engine for work, and only if that succeeds it
stores the result, which makes the directory and writes the output.

So a job tells one event about itself, it writes nothing but its own output, and it does that only
if its result was produced and the directory could be made.
-/

import Thumbnailer.Batch.Run
import Thumbnailer.Proofs.Schedules

namespace Thumbnailer.Batch

open Procedure

/-- What a batch needs where its engine works in steps. -/
abbrev Station (Inner : Interface) : Interface :=
  FileAccess.beside (Inner.beside Progress)

/-- What is said by a job or about it. -/
abbrev Talk (Inner : Interface) := List (Exchange (Station Inner))

variable {Image Scale : Type} {Inner : Interface}

/-- How the requests of a batch are carried out where the engine has means to do its tasks in
steps. -/
def steps (means : (task : Task Image Scale) → Procedure Inner task.Answer) :
    (request : (Service Image Scale).Request) →
      Procedure (Station Inner) ((Service Image Scale).Answer request)
  | .inl task => .ask (.inl task) .done
  | .inr (.inl task) => ((means task).onLeft Progress).onRight FileAccess
  | .inr (.inr event) => .ask (.inr (.inr event)) .done

/-! ### What is seen of a talk -/

/-- The event that is told. -/
def told? : Exchange (Station Inner) → Option Event
  | ⟨.inr (.inr event), _⟩ => some event
  | ⟨.inr (.inl _), _⟩ | ⟨.inl _, _⟩ => none

/-- The output that is written, with its data. -/
def written? : Exchange (Station Inner) → Option (Path × Bytes)
  | ⟨.inl (.write path data), .ok ()⟩ => some (path, data)
  | ⟨.inl (.write _ _), .error _⟩ => none
  | ⟨.inl (.read _), _⟩ | ⟨.inl (.makeDirectory _), _⟩ | ⟨.inl (.examine _ _), _⟩
  | ⟨.inl (.list _), _⟩ | ⟨.inr _, _⟩ => none

def told (talk : Talk Inner) : List Event := talk.filterMap told?

def written (talk : Talk Inner) : List (Path × Bytes) := talk.filterMap written?

/-- A request that writes no file and tells nothing. -/
def Silent : (Station Inner).Request → Prop
  | .inl (.write _ _) | .inr (.inr _) => False
  | .inl (.read _) | .inl (.makeDirectory _) | .inl (.examine _ _) | .inl (.list _)
  | .inr (.inl _) => True

theorem told_append (before after : Talk Inner) :
    told (before ++ after) = told before ++ told after :=
  List.filterMap_append

theorem written_append (before after : Talk Inner) :
    written (before ++ after) = written before ++ written after :=
  List.filterMap_append

theorem told_of_silent {talk : Talk Inner} (silent : ∀ exchange ∈ talk, Silent exchange.1) :
    told talk = [] := by
  refine List.filterMap_eq_nil_iff.2 fun exchange member => ?_
  have quiet := silent exchange member
  obtain ⟨task | step | event, answer⟩ := exchange
  · rfl
  · rfl
  · exact quiet.elim

theorem written_of_silent {talk : Talk Inner} (silent : ∀ exchange ∈ talk, Silent exchange.1) :
    written talk = [] := by
  refine List.filterMap_eq_nil_iff.2 fun exchange member => ?_
  have quiet := silent exchange member
  obtain ⟨task | step, answer⟩ := exchange
  · cases task with
    | write path data => exact quiet.elim
    | read path => rfl
    | makeDirectory path => rfl
    | examine path follow => rfl
    | list path => rfl
  · rfl

/-! ### Requests in steps -/

theorem carryOut_onLeft {first second other : Interface} {Result : Type}
    (means : (request : (first.beside second).Request) →
      Procedure (first.beside other) ((first.beside second).Answer request))
    (direct : ∀ request : first.Request, means (.inl request) = .ask (.inl request) .done)
    (procedure : Procedure first Result) :
    (procedure.onLeft second).carryOut means = procedure.onLeft other := by
  induction procedure with
  | done result => rfl
  | ask request next inductionHypothesis =>
    show (means (.inl request)).bind _ = _
    rw [direct]
    exact congrArg (Procedure.ask _) (funext fun answer => inductionHypothesis answer)

/-- Requests to the file system are asked as they are. -/
theorem carryOut_files {Result : Type}
    (means : (task : Task Image Scale) → Procedure Inner task.Answer)
    (procedure : Procedure FileAccess Result) :
    (files procedure : Procedure (Service Image Scale) Result).carryOut (steps means) =
      procedure.onLeft _ :=
  carryOut_onLeft _ (fun _ => rfl) procedure

theorem files_bind {Result Next : Type} (procedure : Procedure FileAccess Result)
    (continuation : Result → Procedure FileAccess Next) :
    (files (procedure.bind continuation) : Procedure (Service Image Scale) Next) =
      (files procedure).bind fun result => files (continuation result) :=
  carryOut_bind _ procedure continuation

/-- Work of the engine is carried out by its means. -/
theorem carryOut_engine {Result : Type}
    (means : (task : Task Image Scale) → Procedure Inner task.Answer)
    (procedure : Procedure (Work Image Scale) Result) :
    (engine procedure).carryOut (steps means) =
      ((procedure.carryOut means).onLeft Progress).onRight FileAccess := by
  induction procedure with
  | done result => rfl
  | ask task next inductionHypothesis =>
    show (((means task).onLeft Progress).onRight FileAccess).bind _ = _
    unfold onLeft onRight at inductionHypothesis ⊢
    rw [carryOut, carryOut_bind, carryOut_bind]
    exact congrArg (Procedure.bind _) (funext fun answer => inductionHypothesis answer)

theorem asks_onLeft {first second : Interface} {Result : Type}
    {kind : (first.beside second).Request → Prop} {procedure : Procedure first Result}
    (asks : procedure.Asks fun request => kind (.inl request)) :
    (procedure.onLeft second).Asks kind := by
  induction procedure with
  | done result => trivial
  | ask request next inductionHypothesis =>
    exact ⟨asks.1, fun answer => inductionHypothesis answer (asks.2 answer)⟩

theorem asks_onRight {first second : Interface} {Result : Type}
    {kind : (first.beside second).Request → Prop} {procedure : Procedure second Result}
    (asks : procedure.Asks fun request => kind (.inr request)) :
    (procedure.onRight first).Asks kind := by
  induction procedure with
  | done result => trivial
  | ask request next inductionHypothesis =>
    exact ⟨asks.1, fun answer => inductionHypothesis answer (asks.2 answer)⟩

theorem asks_any {interface : Interface} {Result : Type} {kind : interface.Request → Prop}
    (all : ∀ request, kind request) (procedure : Procedure interface Result) :
    procedure.Asks kind := by
  induction procedure with
  | done result => trivial
  | ask request next inductionHypothesis => exact ⟨all request, inductionHypothesis⟩

/-- What is said to a procedure of the first interface. -/
theorem conversation_onLeft_iff {first second : Interface} {Result : Type}
    {procedure : Procedure first Result} {talk : List (Exchange (first.beside second))}
    {result : Result} :
    Conversation (procedure.onLeft second) talk result ↔
      ∃ own : List (Exchange first),
        talk = own.map (fun exchange => ⟨.inl exchange.1, exchange.2⟩) ∧
          Conversation procedure own result := by
  induction procedure generalizing talk with
  | done ended =>
    constructor
    · intro conversation
      obtain ⟨rfl, rfl⟩ := conversation_done_iff.1 conversation
      exact ⟨[], rfl, .done _⟩
    · rintro ⟨own, rfl, conversation⟩
      obtain ⟨rfl, rfl⟩ := conversation_done_iff.1 conversation
      exact .done _
  | ask request next inductionHypothesis =>
    constructor
    · intro conversation
      obtain ⟨answer, rest, rfl, further⟩ := conversation_ask_iff.1 conversation
      obtain ⟨own, rfl, said⟩ := (inductionHypothesis answer).1 further
      exact ⟨⟨request, answer⟩ :: own, rfl, .ask said⟩
    · rintro ⟨own, rfl, conversation⟩
      obtain ⟨answer, rest, rfl, further⟩ := conversation_ask_iff.1 conversation
      exact .ask ((inductionHypothesis answer).2 ⟨rest, rfl, further⟩)

/-! ### Producing and storing -/

namespace Job

variable [Picture Image] [ScaleFactor Scale]

/-- Read the file and serve its request. -/
def produce (job : Job) (capabilities : Capabilities) (settings : Settings) :
    Part Image Scale Bytes := do
  let data ← accessed (.ask (.read job.source) .done)
  encoded job capabilities settings data

/-- Make the directory of the output. -/
def makeRoom (job : Job) : Procedure FileAccess (Except FileError Unit) :=
  match job.output.parent? with
  | some directory => Files.makeDirectories directory
  | none => .done (.ok ())

/-- Write the output, in its directory. -/
def store (job : Job) (data : Bytes) : Procedure FileAccess (Except FileError Unit) :=
  job.makeRoom.bind fun
    | .error refusal => .done (.error refusal)
    | .ok () => .ask (.write job.output data) .done

/-- How a job ends whose result was made so and stored so. -/
def ended (made : Except JobError Bytes) (stored : Except FileError Unit) : Except JobError Nat :=
  made.bind fun data => (stored.map fun () => data.length).mapError .refused

/-- A job produces its result and then stores it. -/
theorem serve_eq (job : Job) (capabilities : Capabilities) (settings : Settings) :
    (serve job capabilities settings : Part Image Scale Nat).run =
      (produce job capabilities settings : Part Image Scale Bytes).run.bind fun
        | .error failure => .done (.error failure)
        | .ok data => (files (job.store data)).bind fun stored =>
            .done (ended (.ok data) stored) := by
  unfold serve produce
  simp only [ExceptT.run_bind, bind_eq, bind_assoc]
  refine congrArg (Procedure.bind _) (funext fun read => ?_)
  cases read with
  | error refusal => rfl
  | ok data =>
    refine congrArg (Procedure.bind _) (funext fun made => ?_)
    cases made with
    | error failure => rfl
    | ok result =>
      have written : (do
            accessed (.ask (.write job.output result) .done)
            pure result.length : Part Image Scale Nat).run =
          (files (.ask (.write job.output result) .done)).bind fun stored =>
            .done (ended (.ok result) stored) :=
        congrArg (Procedure.ask _) (funext fun stored => by cases stored <;> rfl)
      dsimp only [store, makeRoom]
      cases job.output.parent? with
      | none => exact written
      | some directory =>
        dsimp only
        rw [files_bind, bind_assoc, ExceptT.run_bind, bind_eq]
        refine (bind_assoc _ _ _).trans (congrArg (Procedure.bind _) (funext fun room => ?_))
        cases room with
        | error refusal => rfl
        | ok made => exact written

/-! ### What a job asks for -/

/-- The directories that a job may make: the one that its output goes to, and those above it. -/
def above (job : Job) : List Path :=
  match job.output.parent? with
  | some directory => directory.upward
  | none => []

/-- What making some directories may ask of the file system. -/
inductive Makes (paths : List Path) : FileTask → Prop
  | make {path : Path} (member : path ∈ paths) : Makes paths (.makeDirectory path)
  | examine {path : Path} (member : path ∈ paths) : Makes paths (.examine path true)

/-- What a job may ask for to produce its result: its source, and anything of the engine. -/
def Gathers (job : Job) : (Station Inner).Request → Prop
  | .inl task => task = .read job.source
  | .inr (.inl _) => True
  | .inr (.inr _) => False

/-- What a job may ask of the file system. -/
inductive Touches (job : Job) : FileTask → Prop
  | read : Touches job (.read job.source)
  | makes {task : FileTask} (makes : Makes job.above task) : Touches job task
  | write (data : Bytes) : Touches job (.write job.output data)

theorem Makes.tail {path : Path} {paths : List Path} {task : FileTask} (makes : Makes paths task) :
    Makes (path :: paths) task := by
  cases makes with
  | make member => exact .make (List.mem_cons_of_mem _ member)
  | examine member => exact .examine (List.mem_cons_of_mem _ member)

theorem asks_makeUpward (paths : List Path) : (Files.makeUpward paths).Asks (Makes paths) := by
  induction paths with
  | nil => trivial
  | cons path above inductionHypothesis =>
    have here : path ∈ path :: above := List.mem_cons_self
    have settle (error : FileError) :
        ((Files.isDirectory path).bind fun found =>
          .done (if found then Except.ok () else .error error)).Asks (Makes (path :: above)) := by
      refine ⟨.examine here, fun status => ?_⟩
      cases status <;> trivial
    refine ⟨.make here, fun made => ?_⟩
    rcases made with (_ | _ | _ | _ | _ | _ | _ | _ | _) | _
    case error.missing =>
      refine (inductionHypothesis.mono fun _ makes => makes.tail).bind fun rest => ?_
      cases rest with
      | error refusal => trivial
      | ok done =>
        refine ⟨.make here, fun again => ?_⟩
        cases again with
        | error refusal => exact settle refusal
        | ok done => trivial
    case ok => trivial
    all_goals exact settle _

theorem asks_makeRoom (job : Job) : job.makeRoom.Asks (Makes job.above) := by
  unfold makeRoom above
  cases job.output.parent? with
  | none => trivial
  | some directory => exact asks_makeUpward _

theorem asks_store (job : Job) (data : Bytes) : (job.store data).Asks job.Touches := by
  refine (job.asks_makeRoom.mono fun _ makes => .makes makes).bind fun room => ?_
  cases room with
  | error refusal => trivial
  | ok made => exact ⟨.write data, fun _ => trivial⟩

section Steps

variable (means : (task : Task Image Scale) → Procedure Inner task.Answer)
  (capabilities : Capabilities) (settings : Settings)

omit [Picture Image] [ScaleFactor Scale] in
theorem asks_now (job : Job) :
    ((now : Procedure (Service Image Scale) Instant).carryOut (steps means)).Asks job.Gathers :=
  (asks_onRight (asks_onLeft (asks_any (fun _ => trivial) _))).bind fun _ => trivial

theorem asks_produce (job : Job) :
    ((job.produce capabilities settings).run.carryOut (steps means)).Asks job.Gathers := by
  refine ⟨rfl, fun read => ?_⟩
  cases read with
  | error refusal => trivial
  | ok data =>
    show ((now.bind _).carryOut (steps means)).Asks _
    rw [carryOut_bind]
    refine (asks_now means job).bind fun started => ?_
    rw [carryOut_bind, carryOut_engine]
    refine (asks_onRight (asks_onLeft (asks_any (fun _ => trivial) _))).bind fun answer => ?_
    trivial

/-- What is said while a job is served whose result is made so and stored so. What could not be
made is not stored. -/
inductive Serving (job : Job) : Talk Inner → Except JobError Bytes → Except FileError Unit → Prop
  | lost {talk : Talk Inner} {failure : JobError} {stored : Except FileError Unit}
      (produced : Conversation ((job.produce capabilities settings).run.carryOut (steps means))
        talk (.error failure)) :
      Serving job talk (.error failure) stored
  | kept {before after : Talk Inner} {data : Bytes} {stored : Except FileError Unit}
      (produced : Conversation ((job.produce capabilities settings).run.carryOut (steps means))
        before (.ok data))
      (storing : Conversation ((job.store data).onLeft (Inner.beside Progress)) after stored) :
      Serving job (before ++ after) (.ok data) stored

/-- The talk of a job from its start to its end: it looks at the clock, is served, looks at the
clock again and tells how it ended. -/
inductive Course (job : Job) : Talk Inner → Except JobError Bytes → Except FileError Unit → Prop
  | intro {opening serving closing : Talk Inner} {started stopped : Instant}
      {made : Except JobError Bytes} {stored : Except FileError Unit}
      (opened : Conversation
        ((now : Procedure (Service Image Scale) Instant).carryOut (steps means)) opening started)
      (served : Serving means capabilities settings job serving made stored)
      (closed : Conversation
        ((now : Procedure (Service Image Scale) Instant).carryOut (steps means)) closing stopped) :
      Course job
        (opening ++ (serving ++ (closing ++
          [⟨.inr (.inr (job.event (stopped.since started) (ended made stored))), ()⟩])))
        made stored

variable {means capabilities settings}

theorem serving_of_conversation {job : Job} {talk : Talk Inner} {result : Except JobError Nat}
    (conversation : Conversation ((job.serve capabilities settings).run.carryOut (steps means))
      talk result) :
    ∃ made stored, Serving means capabilities settings job talk made stored ∧
      result = ended made stored := by
  rw [serve_eq, carryOut_bind] at conversation
  obtain ⟨made, before, after, rfl, produced, further⟩ := conversation_bind_iff.1 conversation
  cases made with
  | error failure =>
    obtain ⟨rfl, rfl⟩ := conversation_done_iff.1 further
    rw [List.append_nil]
    exact ⟨.error failure, .ok (), .lost produced, rfl⟩
  | ok data =>
    rw [carryOut_bind, carryOut_files] at further
    obtain ⟨stored, storing, rest, rfl, stores, finished⟩ := conversation_bind_iff.1 further
    obtain ⟨rfl, rfl⟩ := conversation_done_iff.1 finished
    rw [List.append_nil]
    exact ⟨.ok data, stored, .kept produced stores, rfl⟩

/-- Every conversation of a job is such a course. -/
theorem exists_course {job : Job} {talk : Talk Inner} {succeeded : Bool}
    (conversation : Conversation ((job.perform capabilities settings).carryOut (steps means))
      talk succeeded) :
    ∃ made stored, Course means capabilities settings job talk made stored ∧
      succeeded = (ended made stored).isOk := by
  unfold perform at conversation
  simp only [carryOut_bind, conversation_bind_iff] at conversation
  obtain ⟨started, opening, _, rfl, opened, result, talk, _, rfl, served, stopped, closing, _, rfl,
    closed, _, telling, _, rfl, tells, finished⟩ := conversation
  obtain ⟨made, stored, serving, rfl⟩ := serving_of_conversation served
  obtain ⟨rfl, rfl⟩ := conversation_done_iff.1 finished
  obtain ⟨answer, _, rfl, further⟩ := conversation_ask_iff.1 tells
  obtain ⟨rfl, -⟩ := conversation_done_iff.1 further
  exact ⟨made, stored, .intro opened serving closed, rfl⟩

/-! ### What a course asks for -/

/-- A request that a job may make, to the file system or to others. -/
def Follows (job : Job) : (Station Inner).Request → Prop
  | .inl task => job.Touches task
  | .inr _ => True

theorem Gathers.follows {job : Job} {request : (Station Inner).Request}
    (gathers : job.Gathers request) : job.Follows request := by
  obtain task | others := request
  · cases gathers
    exact .read
  · trivial

theorem Course.follows {job : Job} {talk : Talk Inner} {made : Except JobError Bytes}
    {stored : Except FileError Unit}
    (course : Course means capabilities settings job talk made stored) :
    ∀ exchange ∈ talk, job.Follows exchange.1 := by
  obtain ⟨opened, served, closed⟩ := course
  have produces := asks_produce means capabilities settings job
  refine List.forall_mem_append.2 ⟨fun exchange member =>
      (opened.asks (asks_now means job) exchange member).follows,
    List.forall_mem_append.2 ⟨?_, List.forall_mem_append.2 ⟨fun exchange member =>
      (closed.asks (asks_now means job) exchange member).follows, ?_⟩⟩⟩
  · cases served with
    | lost produced => exact fun exchange member => (produced.asks produces exchange member).follows
    | kept produced storing =>
      exact List.forall_mem_append.2
        ⟨fun exchange member => (produced.asks produces exchange member).follows,
          storing.asks (asks_onLeft (job.asks_store _))⟩
  · exact List.forall_mem_singleton.2 trivial

/-! ### What a course tells and writes -/

theorem Gathers.silent {job : Job} {request : (Station Inner).Request}
    (gathers : job.Gathers request) : Silent request := by
  obtain task | step | event := request
  · cases gathers
    trivial
  · trivial
  · exact gathers.elim

/-- The one attempt of a job to write: it is made if the result was produced and there is room for
it, and a job that made none has failed. -/
inductive Attempt (job : Job) :
    Talk Inner → Except JobError Bytes → Except FileError Unit → Prop
  | none {made : Except JobError Bytes} {stored : Except FileError Unit}
      (failed : (ended made stored).isOk = false) : Attempt job [] made stored
  | once (data : Bytes) (stored : Except FileError Unit) :
      Attempt job [⟨.inl (.write job.output data), stored⟩] (.ok data) stored

/-- Storing makes room without writing anything, and then makes its attempt. -/
theorem exists_attempt_of_storing {job : Job} {data : Bytes} {talk : Talk Inner}
    {stored : Except FileError Unit}
    (storing : Conversation ((job.store data).onLeft (Inner.beside Progress)) talk stored) :
    ∃ room attempt, talk = room ++ attempt ∧ (∀ exchange ∈ room, Silent exchange.1) ∧
      Attempt job attempt (.ok data) stored := by
  obtain ⟨own, rfl, conversation⟩ := conversation_onLeft_iff.1 storing
  obtain ⟨made, before, after, rfl, makes, further⟩ := conversation_bind_iff.1 conversation
  rw [List.map_append]
  refine ⟨_, _, rfl, List.forall_mem_map.2 fun exchange member => ?_, ?_⟩
  · cases exchange with
    | mk task answer => cases makes.asks job.asks_makeRoom ⟨task, answer⟩ member <;> trivial
  · cases made with
    | error refusal =>
      obtain ⟨rfl, rfl⟩ := conversation_done_iff.1 further
      exact .none rfl
    | ok made =>
      obtain ⟨answer, rest, rfl, ended⟩ := conversation_ask_iff.1 further
      obtain ⟨rfl, rfl⟩ := conversation_done_iff.1 ended
      exact .once data _

/-- Apart from its one attempt to write, and from telling how it ended as its last word, a job
writes nothing and tells nothing. -/
theorem Course.exists_attempt {job : Job} {talk : Talk Inner} {made : Except JobError Bytes}
    {stored : Except FileError Unit}
    (course : Course means capabilities settings job talk made stored) :
    ∃ before attempt after elapsed,
      talk = before ++ (attempt ++ (after ++
        [⟨.inr (.inr (job.event elapsed (ended made stored))), ()⟩])) ∧
      (∀ exchange ∈ before, Silent exchange.1) ∧ (∀ exchange ∈ after, Silent exchange.1) ∧
      Attempt job attempt made stored := by
  obtain @⟨opening, serving, closing, started, stopped, _, _, opened, served, closed⟩ := course
  have openingSilent : ∀ exchange ∈ opening, Silent exchange.1 := fun exchange member =>
    (opened.asks (asks_now means job) exchange member).silent
  have closingSilent : ∀ exchange ∈ closing, Silent exchange.1 := fun exchange member =>
    (closed.asks (asks_now means job) exchange member).silent
  cases served with
  | lost produced =>
    have silent : ∀ exchange ∈ serving, Silent exchange.1 := fun exchange member =>
      (produced.asks (asks_produce means capabilities settings job) exchange member).silent
    exact ⟨opening ++ serving, [], closing, stopped.since started, (List.append_assoc _ _ _).symm,
      List.forall_mem_append.2 ⟨openingSilent, silent⟩, closingSilent, .none rfl⟩
  | @kept producing _ data _ produced storing =>
    have silent : ∀ exchange ∈ producing, Silent exchange.1 := fun exchange member =>
      (produced.asks (asks_produce means capabilities settings job) exchange member).silent
    obtain ⟨room, attempt, rfl, quiet, attempted⟩ := exists_attempt_of_storing storing
    refine ⟨opening ++ (producing ++ room), attempt, closing, stopped.since started, ?_, ?_,
      closingSilent, attempted⟩
    · simp only [List.append_assoc]
    · exact List.forall_mem_append.2
        ⟨openingSilent, List.forall_mem_append.2 ⟨silent, quiet⟩⟩

/-- A file is written by the one attempt only. -/
theorem Course.eq_attempt_of_mem {job : Job} {talk : Talk Inner} {made : Except JobError Bytes}
    {stored : Except FileError Unit}
    (course : Course means capabilities settings job talk made stored) {path : Path} {data : Bytes}
    {answer : Except FileError Unit} (member : ⟨.inl (.write path data), answer⟩ ∈ talk) :
    path = job.output ∧ made = .ok data ∧ answer = stored := by
  obtain ⟨before, attempt, after, elapsed, rfl, quietBefore, quietAfter, attempted⟩ :=
    course.exists_attempt
  simp only [List.mem_append, List.mem_singleton] at member
  obtain inBefore | inAttempt | inAfter | last := member
  · exact (quietBefore _ inBefore).elim
  · cases attempted with
    | none failed => cases inAttempt
    | once data stored =>
      obtain same := List.mem_singleton.1 inAttempt
      cases same
      exact ⟨rfl, rfl, rfl⟩
  · exact (quietAfter _ inAfter).elim
  · cases last

/-- What a job leaves that made its result so and stored it so. -/
def yield? (job : Job) : Except JobError Bytes → Except FileError Unit → Option (Path × Bytes)
  | .ok data, .ok () => some (job.output, data)
  | .ok _, .error _ | .error _, _ => none

theorem yield?_eq_some_iff {job : Job} {made : Except JobError Bytes}
    {stored : Except FileError Unit} {file : Path × Bytes} :
    job.yield? made stored = some file ↔
      file.1 = job.output ∧ made = .ok file.2 ∧ stored = .ok () := by
  obtain ⟨path, data⟩ := file
  constructor
  · intro leaves
    rcases made with failure | made <;> rcases stored with refusal | stored <;> cases leaves
    exact ⟨rfl, rfl, rfl⟩
  · rintro ⟨rfl, rfl, rfl⟩
    rfl

theorem Attempt.written_eq {job : Job} {talk : Talk Inner} {made : Except JobError Bytes}
    {stored : Except FileError Unit} (attempt : Attempt job talk made stored) :
    written talk = (job.yield? made stored).toList := by
  cases attempt with
  | none failed =>
    obtain _ | data := made
    · rfl
    · obtain _ | stored := stored
      · rfl
      · cases failed
  | once data stored => cases stored <;> rfl

/-- What a job leaves, it wrote in its course. -/
theorem Course.mem_of_yield {job : Job} {talk : Talk Inner} {data : Bytes}
    (course : Course means capabilities settings job talk (.ok data) (.ok ())) :
    ⟨.inl (.write job.output data), .ok ()⟩ ∈ talk := by
  obtain ⟨before, attempt, after, elapsed, rfl, -, -, attempted⟩ := course.exists_attempt
  refine List.mem_append_right _ (List.mem_append_left _ ?_)
  cases attempted with
  | none failed => cases failed
  | once => exact List.mem_singleton_self _

theorem Course.told_eq {job : Job} {talk : Talk Inner} {made : Except JobError Bytes}
    {stored : Except FileError Unit}
    (course : Course means capabilities settings job talk made stored) :
    ∃ elapsed, told talk = [job.event elapsed (ended made stored)] := by
  obtain ⟨before, attempt, after, elapsed, rfl, quietBefore, quietAfter, attempted⟩ :=
    course.exists_attempt
  have nothing : told attempt = [] := by cases attempted <;> rfl
  refine ⟨elapsed, ?_⟩
  rw [told_append, told_append, told_append, told_of_silent quietBefore, told_of_silent quietAfter,
    nothing]
  rfl

theorem Course.written_eq {job : Job} {talk : Talk Inner} {made : Except JobError Bytes}
    {stored : Except FileError Unit}
    (course : Course means capabilities settings job talk made stored) :
    written talk = (job.yield? made stored).toList := by
  obtain ⟨before, attempt, after, elapsed, rfl, quietBefore, quietAfter, attempted⟩ :=
    course.exists_attempt
  rw [written_append, written_append, written_append, written_of_silent quietBefore,
    written_of_silent quietAfter, attempted.written_eq]
  exact List.append_nil _

end Steps

end Job

end Thumbnailer.Batch
