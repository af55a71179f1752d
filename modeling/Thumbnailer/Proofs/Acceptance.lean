/-
This file says which documents are accepted as configurations, and what follows from acceptance. A
document is laid over the stock configuration, read, and held against the rules. It is accepted
exactly if each of its keys is known, each value is of the kind of its key, and no number that it
gives breaks a rule: what it does not give is stock, and stock keeps the rules. A document that does
not fit is reported as such whether or not it also breaks a rule. An accepted configuration has what
the document gives and is stock in everything else; an engine starts with it, its quality is taken
as it is, and on any number of cores it has at least one worker and no more workers than cores.
-/

import Thumbnailer.Config
import Thumbnailer.Engine.Pixels
import Thumbnailer.Proofs.Toml.Reading

namespace Thumbnailer.Config

open Toml

/-! ### Documents -/

/-- What the section on the engine may have. -/
def engineKinds : List (String × (Value → Prop)) :=
  [("cache_max_mem", Value.IsNumber UInt64.size),
    ("cache_max_entries", Value.IsNumber UInt64.size),
    ("smart_crop", Value.IsTruth)]

/-- What the section on processing may have. -/
def workerKinds : List (String × (Value → Prop)) :=
  [("max_processes", Value.IsNumber UInt64.size)]

/-- A table whose keys and values are of given kinds. -/
def IsSection (kinds : List (String × (Value → Prop))) (value : Value) : Prop :=
  ∃ entries, value = .table entries ∧ Fits kinds entries

theorem isSection_table {kinds : List (String × (Value → Prop))}
    {entries : List (String × Value)} : IsSection kinds (.table entries) ↔ Fits kinds entries :=
  ⟨fun ⟨_, same, fits⟩ => Value.table.inj same ▸ fits, fun fits => ⟨entries, rfl, fits⟩⟩

/-- What a document may have. -/
def kinds : List (String × (Value → Prop)) :=
  [("quality", Value.IsNumber UInt32.size),
    ("timeout_secs", Value.IsNumber UInt64.size),
    ("engine", IsSection engineKinds),
    ("processing", IsSection workerKinds)]

/-- What a document has under the keys of its sections is a table. -/
def Sectioned (entries : List (String × Value)) : Prop :=
  ∀ entry ∈ entries, entry.1 = "engine" ∨ entry.1 = "processing" →
    ∃ inner, entry.2 = .table inner

/-- No number of a document breaks a rule. -/
structure Keeps (document : Value) : Prop where
  quality : ∀ number, document.at? ["quality"] = some (.whole number) → 1 ≤ number ∧ number ≤ 100
  cacheMemory : document.at? ["engine", "cache_max_mem"] ≠ some (.whole 0)
  cacheEntries : document.at? ["engine", "cache_max_entries"] ≠ some (.whole 0)
  workers : document.at? ["processing", "max_processes"] ≠ some (.whole 0)

/-- A configuration has what a document gives, and what the document does not give is stock. -/
structure Follows (document : Value) (config : Config) : Prop where
  quality : (document.at? ["quality"]).getD (.whole 80) = .whole config.quality.toNat
  timeout : (document.at? ["timeout_secs"]).getD (.whole 10) = .whole config.timeoutSeconds.toNat
  cacheMemory : (document.at? ["engine", "cache_max_mem"]).getD (.whole 104857600) =
    .whole config.engine.cacheMemory.toNat
  cacheEntries : (document.at? ["engine", "cache_max_entries"]).getD (.whole 500) =
    .whole config.engine.cacheEntries.toNat
  smartCrop : (document.at? ["engine", "smart_crop"]).getD (.truth true) =
    .truth config.engine.smartCrop
  limit : document.at? ["processing", "max_processes"] =
    config.workers.limit.map fun limit => .whole limit.toNat

/-! ### Fields

Every field of a table is one case below: it has the key in question, and what it puts is the part;
or it has another key, and it leaves the part as it is. -/

theorem reads_cacheMemory : Field.Reads engineFields "cache_max_mem"
    (fun value number => value = .whole number.toNat) EngineSettings.cacheMemory := by
  constructor <;> simp only [engineFields, List.forall_mem_cons] <;> grind

theorem reads_cacheEntries : Field.Reads engineFields "cache_max_entries"
    (fun value number => value = .whole number.toNat) EngineSettings.cacheEntries := by
  constructor <;> simp only [engineFields, List.forall_mem_cons] <;> grind

theorem reads_smartCrop : Field.Reads engineFields "smart_crop"
    (fun value offered => value = .truth offered) EngineSettings.smartCrop := by
  constructor <;> simp only [engineFields, List.forall_mem_cons] <;> grind

theorem reads_limit : Field.Reads workerFields "max_processes"
    (fun value limit => some value = limit.map fun limit => .whole limit.toNat)
    WorkerSettings.limit := by
  constructor <;> simp only [workerFields, List.forall_mem_cons] <;> grind

theorem reads_quality : Field.Reads fields "quality"
    (fun value number => value = .whole number.toNat) Config.quality := by
  constructor <;> simp only [fields, List.forall_mem_cons] <;> grind

theorem reads_timeout : Field.Reads fields "timeout_secs"
    (fun value number => value = .whole number.toNat) Config.timeoutSeconds := by
  constructor <;> simp only [fields, List.forall_mem_cons] <;> grind

/-- The section on the engine as settings, stock where it gives nothing. -/
abbrev readEngine : Value → Fit EngineSettings :=
  Field.readRecord "struct EngineConfig" engineFields {}

/-- The section on processing as settings, stock where it gives nothing. -/
abbrev readWorkers : Value → Fit WorkerSettings :=
  Field.readRecord "struct ProcessingConfig" workerFields {}

theorem reads_engine : Field.Reads fields "engine"
    (fun value settings => readEngine value = .ok settings) Config.engine := by
  constructor <;> simp only [fields, List.forall_mem_cons] <;> grind

theorem reads_workers : Field.Reads fields "processing"
    (fun value settings => readWorkers value = .ok settings) Config.workers := by
  constructor <;> simp only [fields, List.forall_mem_cons] <;> grind

theorem exists_readEngine_iff {entries : List (String × Value)} :
    (∃ settings, readEngine (.table entries) = .ok settings) ↔ Fits engineKinds entries := by
  refine Field.exists_readRecord_iff (by decide) (fun entry _ settings => ?_) _
  simp only [engineFields, engineKinds, List.exists_mem_cons_iff, allows_cons, not_allows_nil,
    exists_bind_pure_iff, Value.exists_count_iff, Value.exists_bool_iff, List.not_mem_nil,
    false_and, exists_false]

theorem exists_readWorkers_iff {entries : List (String × Value)} :
    (∃ settings, readWorkers (.table entries) = .ok settings) ↔ Fits workerKinds entries := by
  refine Field.exists_readRecord_iff (by decide) (fun entry _ settings => ?_) _
  simp only [workerFields, workerKinds, List.exists_mem_cons_iff, allows_cons, not_allows_nil,
    exists_bind_pure_iff, Value.exists_count_iff, List.not_mem_nil, false_and, exists_false]

theorem exists_ofValue_iff {entries : List (String × Value)} (sectioned : Sectioned entries) :
    (∃ config, ofValue (.table entries) = .ok config) ↔ Fits kinds entries := by
  refine Field.exists_readRecord_iff (by decide) (fun entry member config => ?_) _
  have engine : "engine" = entry.1 →
      ((∃ settings, readEngine entry.2 = .ok settings) ↔ IsSection engineKinds entry.2) := by
    intro same
    obtain ⟨inner, is⟩ := sectioned entry member (.inl same.symm)
    rw [is, exists_readEngine_iff, isSection_table]
  have workers : "processing" = entry.1 →
      ((∃ settings, readWorkers entry.2 = .ok settings) ↔ IsSection workerKinds entry.2) := by
    intro same
    obtain ⟨inner, is⟩ := sectioned entry member (.inr same.symm)
    rw [is, exists_readWorkers_iff, isSection_table]
  simp only [fields, kinds, List.exists_mem_cons_iff, allows_cons, not_allows_nil,
    exists_bind_pure_iff, Value.exists_word32_iff, Value.exists_word64_iff, List.not_mem_nil,
    false_and, exists_false, ← and_congr_right engine, ← and_congr_right workers]

/-! ### Sections -/

/-- The section of a document under a key, which is empty if there is none. -/
def sectionOf (document : List (String × Value)) (key : String) : List (String × Value) :=
  ((Value.find? key document).bind Value.entries?).getD []

section Overlay

variable {overlay : List (String × Value)} {key : String}

theorem at?_sectionOf (overlay : List (String × Value)) (key inner : String) :
    (Value.table overlay).at? [key, inner] = Value.find? inner (sectionOf overlay key) := by
  rw [Value.at?_table_cons]
  unfold sectionOf
  cases Value.find? key overlay with
  | none => rfl
  | some value =>
    show (value.entries?.bind (Value.find? inner)).bind some =
      Value.find? inner (value.entries?.getD [])
    rw [Option.bind_fun_some]
    cases value.entries? <;> rfl

theorem ordered_sectionOf (orderly : (Value.table overlay).Orderly) (key : String) :
    Value.Ordered (sectionOf overlay key) := by
  obtain ⟨-, each⟩ := Value.orderly_table_iff.1 orderly
  unfold sectionOf
  cases found : Value.find? key overlay with
  | none => exact List.Pairwise.nil
  | some value =>
    cases Value.orderly_of_find? each found with
    | plain plain =>
      rw [Option.bind_some, plain]
      exact List.Pairwise.nil
    | table ordered => exact ordered

/-- A section is laid over the one below it. -/
theorem find?_mergeEntries_sectionOf (ordered : Value.Ordered overlay)
    {base lower : List (String × Value)} (below : Value.find? key base = some (.table lower))
    (tables : ∀ value, Value.find? key overlay = some value → ∃ inner, value = .table inner) :
    Value.find? key (Value.mergeEntries base overlay) =
      some (.table (Value.mergeEntries lower (sectionOf overlay key))) := by
  rw [Value.find?_mergeEntries ordered, below]
  unfold sectionOf
  cases found : Value.find? key overlay with
  | none => rfl
  | some value =>
    obtain ⟨inner, rfl⟩ := tables value found
    exact congrArg some (Value.merge_table lower inner)

end Overlay

/-! ### The stock configuration -/

/-- The section on the engine of the stock configuration. -/
def stockEngine : List (String × Value) :=
  [("cache_max_entries", .whole 500), ("cache_max_mem", .whole 104857600),
    ("smart_crop", .truth true)]

/-- The stock configuration as entries; its section on processing is empty. -/
def stockEntries : List (String × Value) :=
  [("engine", .table stockEngine), ("processing", .table []), ("quality", .whole 80),
    ("timeout_secs", .whole 10)]

theorem toValue_stock : stock.toValue = .table stockEntries := rfl

theorem ordered_stockEngine : Value.Ordered stockEngine := by
  decide

theorem ordered_stockEntries : Value.Ordered stockEntries := by
  decide

theorem sectioned_stockEntries : Sectioned stockEntries := by
  unfold Sectioned stockEntries
  simp

theorem fits_stockEngine : Fits engineKinds stockEngine :=
  exists_readEngine_iff.1 ⟨{}, rfl⟩

theorem fits_stockEntries : Fits kinds stockEntries :=
  (exists_ofValue_iff sectioned_stockEntries).1 ⟨stock, rfl⟩

/-- Only sections of the stock configuration are tables. -/
theorem plain_stock {key : String} {value : Value} (engine : key ≠ "engine")
    (processing : key ≠ "processing") (found : Value.find? key stockEntries = some value) :
    value.entries? = none := by
  have member := Value.mem_of_find? found
  simp only [stockEntries, List.mem_cons, Prod.mk.injEq, List.not_mem_nil, or_false] at member
  obtain ⟨same, -⟩ | ⟨same, -⟩ | ⟨-, rfl⟩ | ⟨-, rfl⟩ := member
  · exact absurd same engine
  · exact absurd same processing
  · rfl
  · rfl

/-! ### Reading over the stock configuration -/

section Overlay

variable {overlay : List (String × Value)}

theorem Sectioned.find? (sectioned : Sectioned overlay) {key : String}
    (known : key = "engine" ∨ key = "processing") (value : Value)
    (found : Value.find? key overlay = some value) : ∃ inner, value = .table inner :=
  sectioned _ (Value.mem_of_find? found) known

theorem sectioned_mergeEntries (ordered : Value.Ordered overlay)
    (sectioned : Sectioned overlay) : Sectioned (Value.mergeEntries stockEntries overlay) := by
  intro entry member known
  have found := Value.find?_of_mem (Value.ordered_mergeEntries ordered_stockEntries overlay) member
  obtain ⟨lower, below⟩ : ∃ lower, Value.find? entry.1 stockEntries = some (.table lower) := by
    rcases known with engine | processing
    · exact ⟨stockEngine, by rw [engine]; rfl⟩
    · exact ⟨[], by rw [processing]; rfl⟩
  rw [find?_mergeEntries_sectionOf ordered below (sectioned.find? known)] at found
  exact ⟨_, (Option.some.inj found).symm⟩

theorem allows_engine {entries : List (String × Value)} :
    Allows kinds "engine" (.table entries) ↔ Fits engineKinds entries := by
  rw [← isSection_table]
  simp only [kinds, allows_cons, not_allows_nil]
  simp

/-- Only what the document gives is left to be checked. -/
theorem fits_mergeEntries_stock (orderly : (Value.table overlay).Orderly)
    (sectioned : Sectioned overlay) :
    Fits kinds (Value.mergeEntries stockEntries overlay) ↔ Fits kinds overlay := by
  obtain ⟨ordered, each⟩ := Value.orderly_table_iff.1 orderly
  refine fits_mergeEntries ordered_stockEntries ordered fits_stockEntries fun key value found => ?_
  have orderly := Value.orderly_of_find? each found
  by_cases engine : key = "engine"
  · obtain ⟨entries, is⟩ := sectioned.find? (.inl engine) value found
    rw [is, engine]
    show Allows kinds "engine" ((Value.table stockEngine).merge (.table entries)) ↔ _
    rw [Value.merge_table, allows_engine, allows_engine]
    have inner := (Value.orderly_table_iff.1 (is ▸ orderly)).1
    refine fits_mergeEntries_of_plain ordered_stockEngine inner fits_stockEngine ?_
    simp [stockEngine, Value.entries?]
  · by_cases processing : key = "processing"
    · obtain ⟨entries, is⟩ := sectioned.find? (.inr processing) value found
      rw [is, processing]
      show Allows kinds "processing" ((Value.table []).merge (.table entries)) ↔ _
      rw [Value.empty_merge (is ▸ orderly)]
    · rw [Value.cover_of_plain fun covered below => plain_stock engine processing below]

theorem readEngine_of_ofValue (ordered : Value.Ordered overlay) (sectioned : Sectioned overlay)
    {config : Config}
    (read : ofValue (.table (Value.mergeEntries stockEntries overlay)) = .ok config) :
    readEngine (.table (Value.mergeEntries stockEngine (sectionOf overlay "engine"))) =
      .ok config.engine := by
  have given := reads_engine.ofTable (by decide)
    (Value.ordered_mergeEntries ordered_stockEntries overlay) read
  rwa [find?_mergeEntries_sectionOf ordered rfl (sectioned.find? (.inl rfl))] at given

theorem readWorkers_of_ofValue (orderly : (Value.table overlay).Orderly)
    (sectioned : Sectioned overlay) {config : Config}
    (read : ofValue (.table (Value.mergeEntries stockEntries overlay)) = .ok config) :
    readWorkers (.table (sectionOf overlay "processing")) = .ok config.workers := by
  have ordered := (Value.orderly_table_iff.1 orderly).1
  have given := reads_workers.ofTable (by decide)
    (Value.ordered_mergeEntries ordered_stockEntries overlay) read
  rwa [find?_mergeEntries_sectionOf ordered rfl (sectioned.find? (.inr rfl)),
    Value.mergeEntries_nil (ordered_sectionOf orderly _)] at given

/-- There is a limit exactly if the section gives one. -/
theorem limit_of_readWorkers {entries : List (String × Value)} (ordered : Value.Ordered entries)
    {settings : WorkerSettings} (read : readWorkers (.table entries) = .ok settings) :
    Value.find? "max_processes" entries = settings.limit.map fun limit => .whole limit.toNat := by
  have given := reads_limit.ofTable (by decide) ordered read
  cases found : Value.find? "max_processes" entries with
  | none =>
    rw [found] at given
    rw [given]
    rfl
  | some value =>
    rw [found] at given
    exact given

/-- What is read over the stock configuration has what the document gives. -/
theorem follows_of_ofValue (orderly : (Value.table overlay).Orderly)
    (sectioned : Sectioned overlay) {config : Config}
    (read : ofValue (.table (Value.mergeEntries stockEntries overlay)) = .ok config) :
    Follows (.table overlay) config := by
  have ordered := (Value.orderly_table_iff.1 orderly).1
  have engineOrdered := ordered_sectionOf orderly "engine"
  have engine := readEngine_of_ofValue ordered sectioned read
  have workers := readWorkers_of_ofValue orderly sectioned read
  have top {Part : Type} {key : String} {gives : Value → Part → Prop} {part : Config → Part}
      (reads : Field.Reads fields key gives part) {covered : Value}
      (below : Value.find? key stockEntries = some covered) (plain : covered.entries? = none) :
      gives (((Value.table overlay).at? [key]).getD covered) (part config) := by
    rw [Value.at?_table_singleton]
    exact reads.ofMerged (by decide) ordered_stockEntries ordered below plain read
  have inner {Part : Type} {key : String} {gives : Value → Part → Prop}
      {part : EngineSettings → Part} (reads : Field.Reads engineFields key gives part)
      {covered : Value} (below : Value.find? key stockEngine = some covered)
      (plain : covered.entries? = none) :
      gives (((Value.table overlay).at? ["engine", key]).getD covered) (part config.engine) := by
    rw [at?_sectionOf]
    exact reads.ofMerged (by decide) ordered_stockEngine engineOrdered below plain engine
  exact
    { quality := top reads_quality rfl rfl
      timeout := top reads_timeout rfl rfl
      cacheMemory := inner reads_cacheMemory rfl rfl
      cacheEntries := inner reads_cacheEntries rfl rfl
      smartCrop := inner reads_smartCrop rfl rfl
      limit := by
        rw [at?_sectionOf]
        exact limit_of_readWorkers (ordered_sectionOf orderly _) workers }

end Overlay

/-! ### Rules -/

theorem brokenRule?_eq_none_iff {config : Config} :
    config.brokenRule? = none ↔
      (1 ≤ config.quality ∧ config.quality ≤ 100) ∧ config.engine.cacheMemory ≠ 0 ∧
        config.engine.cacheEntries ≠ 0 ∧ config.workers.limit ≠ some 0 := by
  unfold brokenRule?
  rw [← UInt32.not_lt, ← UInt32.not_lt, ← not_or]
  split_ifs with quality memory entries workers
  · exact iff_of_false nofun fun keeps => keeps.1 quality
  · exact iff_of_false nofun fun keeps => keeps.2.1 memory
  · exact iff_of_false nofun fun keeps => keeps.2.2.1 entries
  · exact iff_of_false nofun fun keeps => keeps.2.2.2 workers
  · exact iff_of_true rfl ⟨quality, memory, entries, workers⟩

/-- A number that stands in for one that is not given is zero only if zero is given. -/
theorem ne_zero_iff {given : Option Value} {fallback : Int} (nonzero : fallback ≠ 0)
    {word : UInt64} (is : given.getD (.whole fallback) = .whole word.toNat) :
    given ≠ some (.whole 0) ↔ word ≠ 0 := by
  have zero : word = 0 ↔ (word.toNat : Int) = 0 := by
    rw [← UInt64.toNat_inj]
    exact Int.natCast_eq_zero.symm
  rw [not_iff_not, zero]
  cases given with
  | none =>
    have same := Value.whole.inj is
    exact iff_of_false nofun (same ▸ nonzero)
  | some value =>
    obtain rfl : value = .whole word.toNat := is
    rw [Option.some.injEq, Value.whole.injEq]

theorem quality_inRange_iff {document : Value} {config : Config}
    (follows : Follows document config) :
    (∀ number, document.at? ["quality"] = some (.whole number) → 1 ≤ number ∧ number ≤ 100) ↔
      1 ≤ config.quality ∧ config.quality ≤ 100 := by
  have given := follows.quality
  rw [UInt32.le_iff_toNat_le, UInt32.le_iff_toNat_le]
  change _ ↔ 1 ≤ config.quality.toNat ∧ config.quality.toNat ≤ 100
  cases found : document.at? ["quality"] with
  | none =>
    rw [found] at given
    have same : (80 : Int) = config.quality.toNat := Value.whole.inj given
    refine iff_of_true nofun ?_
    omega
  | some value =>
    rw [found] at given
    obtain rfl : value = .whole config.quality.toNat := given
    constructor
    · intro each
      have bounds := each _ rfl
      omega
    · rintro bounds number ⟨⟩
      omega

theorem limit_ne_zero_iff {document : Value} {config : Config}
    (follows : Follows document config) :
    document.at? ["processing", "max_processes"] ≠ some (.whole 0) ↔
      config.workers.limit ≠ some 0 := by
  rw [follows.limit]
  cases config.workers.limit with
  | none => exact iff_of_true nofun nofun
  | some limit =>
    have given : (some (Value.whole limit.toNat)).getD (.whole 1) = .whole limit.toNat := rfl
    rw [Option.map_some, ne_zero_iff (by decide) given, ne_eq, ne_eq, Option.some.injEq]

/-- A document breaks no rule exactly if what is read from it breaks none. -/
theorem keeps_iff {document : Value} {config : Config} (follows : Follows document config) :
    Keeps document ↔ config.brokenRule? = none := by
  rw [brokenRule?_eq_none_iff, ← quality_inRange_iff follows, ← limit_ne_zero_iff follows,
    ← ne_zero_iff (by decide) follows.cacheMemory, ← ne_zero_iff (by decide) follows.cacheEntries]
  exact ⟨fun keeps => ⟨keeps.quality, keeps.cacheMemory, keeps.cacheEntries, keeps.workers⟩,
    fun ⟨quality, memory, entries, workers⟩ => ⟨quality, memory, entries, workers⟩⟩

/-- A configuration that keeps the rules can be used as it is. -/
structure Usable (config : Config) : Prop where
  starts : ∃ shared, config.engine.start = .ok shared
  quality : (Quality.ofNumber config.quality).value = config.quality
  workers : ∀ cores, 1 ≤ cores → 1 ≤ config.workers.count cores ∧ config.workers.count cores ≤ cores

theorem usable_of_brokenRule? {config : Config} (keeps : config.brokenRule? = none) :
    config.Usable := by
  obtain ⟨⟨low, high⟩, memory, entries, workers⟩ := brokenRule?_eq_none_iff.1 keeps
  refine { starts := ?_, quality := ?_, workers := ?_ }
  · unfold EngineSettings.start
    rw [if_neg (not_or.2 ⟨memory, entries⟩)]
    exact ⟨_, rfl⟩
  · unfold Quality.ofNumber
    rw [dif_neg (UInt32.not_lt.2 low), dif_neg (UInt32.not_lt.2 high)]
  · intro cores core
    unfold WorkerSettings.count
    cases limited : config.workers.limit with
    | none => exact ⟨core, Nat.le_refl cores⟩
    | some limit =>
      have nonzero : limit.toNat ≠ 0 := fun zero =>
        workers (limited.trans (congrArg some (UInt64.toNat_inj.1 zero)))
      exact ⟨Nat.le_min.2 ⟨Nat.one_le_iff_ne_zero.2 nonzero, core⟩, Nat.min_le_right _ _⟩

/-! ### Resolving -/

/-- A document laid over the stock configuration does not fit, or it breaks a rule, or it is
accepted. -/
theorem resolve_cases (overlay : List (String × Value)) :
    let read := ofValue (.table (Value.mergeEntries stockEntries overlay))
    let answer := resolve stock.toValue (some (.table overlay))
    (∃ misfit, read = .error misfit ∧ answer = .error (.misfit misfit)) ∨
      (∃ config rule, read = .ok config ∧ config.brokenRule? = some rule ∧
        answer = .error (.broken rule)) ∨
      ∃ config, read = .ok config ∧ config.brokenRule? = none ∧ answer = .ok config := by
  intro read answer
  have resolved : answer = (do
      let config ← read.mapError ConfigError.misfit
      config.validate
      pure config) := by
    show resolve stock.toValue (some (.table overlay)) = _
    rw [toValue_stock, resolve, Value.merge_table]
  rw [resolved]
  cases read with
  | error misfit => exact .inl ⟨misfit, rfl, rfl⟩
  | ok config =>
    refine .inr ?_
    cases broken : config.brokenRule? with
    | some rule =>
      refine .inl ⟨config, rule, rfl, broken, ?_⟩
      have refused : config.validate = .error (.broken rule) := by rw [validate, broken]
      show (config.validate >>= fun _ => pure config) = _
      rw [refused]
      rfl
    | none =>
      refine .inr ⟨config, rfl, broken, ?_⟩
      have passed : config.validate = .ok () := by rw [validate, broken]
      show (config.validate >>= fun _ => pure config) = _
      rw [passed]
      rfl

/-- Which documents are accepted over the stock configuration, and what follows. -/
theorem judges_resolve {overlay : List (String × Value)} (orderly : (Value.table overlay).Orderly)
    (sectioned : Sectioned overlay) :
    let answer := resolve stock.toValue (some (.table overlay))
    ((∃ config, answer = .ok config) ↔ Fits kinds overlay ∧ Keeps (.table overlay)) ∧
      ((∃ misfit, answer = .error (.misfit misfit)) ↔ ¬Fits kinds overlay) ∧
      ((∃ rule, answer = .error (.broken rule)) ↔
        Fits kinds overlay ∧ ¬Keeps (.table overlay)) ∧
      ∀ config, answer = .ok config → Follows (.table overlay) config ∧ config.Usable := by
  have ordered := (Value.orderly_table_iff.1 orderly).1
  have fits_iff :
      (∃ config, ofValue (.table (Value.mergeEntries stockEntries overlay)) = .ok config) ↔
        Fits kinds overlay := by
    rw [exists_ofValue_iff (sectioned_mergeEntries ordered sectioned),
      fits_mergeEntries_stock orderly sectioned]
  intro answer
  obtain ⟨misfit, read, is⟩ | ⟨config, rule, read, broken, is⟩ | ⟨config, read, unbroken, is⟩ :=
    resolve_cases overlay
  · have unfit : ¬Fits kinds overlay := by
      rw [← fits_iff, read]
      nofun
    rw [show answer = _ from is]
    exact ⟨iff_of_false nofun fun both => unfit both.1, iff_of_true ⟨misfit, rfl⟩ unfit,
      iff_of_false nofun fun both => unfit both.1, nofun⟩
  · have fits := fits_iff.1 ⟨config, read⟩
    have unkept : ¬Keeps (.table overlay) := by
      rw [keeps_iff (follows_of_ofValue orderly sectioned read), broken]
      nofun
    rw [show answer = _ from is]
    exact ⟨iff_of_false nofun fun both => unkept both.2, iff_of_false nofun (not_not_intro fits),
      iff_of_true ⟨rule, rfl⟩ ⟨fits, unkept⟩, nofun⟩
  · have fits := fits_iff.1 ⟨config, read⟩
    have follows := follows_of_ofValue orderly sectioned read
    have kept := (keeps_iff follows).2 unbroken
    rw [show answer = _ from is]
    refine ⟨iff_of_true ⟨config, rfl⟩ ⟨fits, kept⟩, iff_of_false nofun (not_not_intro fits),
      iff_of_false nofun fun both => both.2 kept, ?_⟩
    rintro _ ⟨⟩
    exact ⟨follows, usable_of_brokenRule? unbroken⟩

/-- A number out of bounds and an unknown key beside it: only the key is reported. Without the two,
the document is accepted. -/
theorem judges_resolve_unknown :
    let engine := ("engine", Value.table [("smart_crop", .truth false)])
    (∃ misfit, resolve stock.toValue
        (some (.table [engine, ("quality", .whole 0), ("speed", .whole 3)])) =
          .error (.misfit misfit)) ∧
      ∃ config, resolve stock.toValue (some (.table [engine])) = .ok config ∧
        config.engine.smartCrop = false := by
  intro engine
  have inner : engine.2.Orderly :=
    .table (List.pairwise_singleton _ _) (List.forall_mem_singleton.2 (.plain rfl))
  constructor
  · refine (judges_resolve (.table (by decide) ?_) ?_).2.1.2 fun fits => ?_
    · refine List.forall_mem_cons.2 ⟨inner, List.forall_mem_cons.2 ⟨.plain rfl, ?_⟩⟩
      exact List.forall_mem_singleton.2 (.plain rfl)
    · simp [Sectioned, engine]
    · have known : Allows kinds "speed" (.whole 3) := fits ("speed", .whole 3) (by simp)
      simp [kinds, allows_cons, not_allows_nil] at known
  · obtain ⟨accepted, -, -, follows⟩ :=
      judges_resolve (.table (List.pairwise_singleton _ engine)
        (List.forall_mem_singleton.2 inner)) (by simp [Sectioned, engine])
    have fits : Fits engineKinds [("smart_crop", .truth false)] :=
      exists_readEngine_iff.1 ⟨{ smartCrop := false }, rfl⟩
    obtain ⟨config, is⟩ := accepted.2
      ⟨List.forall_mem_singleton.2 (allows_engine.2 fits), nofun, nofun, nofun, nofun⟩
    refine ⟨config, is, ?_⟩
    exact (Value.truth.inj (follows config is).1.smartCrop).symm

end Thumbnailer.Config
