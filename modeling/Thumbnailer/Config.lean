/-
This file holds the configuration: the quality of lossy encoding, the time a request may take, the
settings of the engine, and how many workers a batch may have. A configuration is laid over the
stock one, so that a document needs only the keys it changes. It is read before it is checked
against the rules, and the first rule that it breaks is reported.
-/

import Thumbnailer.Deadline
import Thumbnailer.Engine.Settings
import Thumbnailer.Options
import Thumbnailer.Toml.Record

namespace Thumbnailer

/-- How many workers a batch may have. -/
structure WorkerSettings where
  /-- The most workers, if there is a limit. -/
  limit : Option UInt64 := none
  deriving DecidableEq, Repr

/-- The number of workers on this many cores: a limit lowers it but does not raise it. -/
def WorkerSettings.count (settings : WorkerSettings) (cores : Nat) : Nat :=
  match settings.limit with
  | none => cores
  | some limit => min limit.toNat cores

structure Config where
  quality : UInt32 := 80
  /-- Seconds that a request may take; with zero it may take any time. -/
  timeoutSeconds : UInt64 := 10
  engine : EngineSettings := {}
  workers : WorkerSettings := {}
  deriving DecidableEq, Repr

/-- The rules that a configuration keeps. -/
inductive ConfigRule where
  | qualityInRange
  | someCacheMemory
  | someCacheEntries
  | someWorker
  deriving DecidableEq, Repr

def ConfigRule.text : ConfigRule → String
  | .qualityInRange => "quality must be 1-100"
  | .someCacheMemory => "engine.cache_max_mem must be non-zero"
  | .someCacheEntries => "engine.cache_max_entries must be non-zero"
  | .someWorker => "processing.max_processes must be non-zero"

/-- Why there is no configuration. -/
inductive ConfigError where
  | misfit (misfit : Toml.Misfit)
  | broken (rule : ConfigRule)
  deriving DecidableEq

def ConfigError.message : ConfigError → String
  | .misfit found => "TOML parse error: " ++ found.text
  | .broken rule => "Config validation error: " ++ rule.text

namespace Config

/-- What every key has unless a document changes it. -/
def stock : Config := {}

/-- The time that a request may take, if it is limited. -/
def timeout (config : Config) : Option Duration :=
  if 0 < config.timeoutSeconds then some (.ofSeconds config.timeoutSeconds.toNat) else none

/-- The rule that a configuration breaks, if it breaks one. -/
def brokenRule? (config : Config) : Option ConfigRule :=
  if config.quality < 1 ∨ 100 < config.quality then some .qualityInRange
  else if config.engine.cacheMemory = 0 then some .someCacheMemory
  else if config.engine.cacheEntries = 0 then some .someCacheEntries
  else if config.workers.limit = some 0 then some .someWorker
  else none

def validate (config : Config) : Except ConfigError Unit :=
  match config.brokenRule? with
  | none => .ok ()
  | some rule => .error (.broken rule)

/-! ### Fields -/

def engineFields : List (Toml.Field EngineSettings) :=
  [{ key := "cache_max_mem"
     put := fun value settings => do
       let number ← value.count
       pure { settings with cacheMemory := number } },
   { key := "cache_max_entries"
     put := fun value settings => do
       let number ← value.count
       pure { settings with cacheEntries := number } },
   { key := "smart_crop"
     put := fun value settings => do
       let offered ← value.bool
       pure { settings with smartCrop := offered } }]

def workerFields : List (Toml.Field WorkerSettings) :=
  [{ key := "max_processes"
     put := fun value settings => do
       let number ← value.count
       pure { settings with limit := some number } }]

def fields : List (Toml.Field Config) :=
  [{ key := "quality"
     put := fun value config => do
       let number ← value.word32
       pure { config with quality := number } },
   { key := "timeout_secs"
     put := fun value config => do
       let number ← value.word64
       pure { config with timeoutSeconds := number } },
   { key := "engine"
     put := fun value config => do
       let settings ← Toml.Field.readRecord "struct EngineConfig" engineFields {} value
       pure { config with engine := settings } },
   { key := "processing"
     put := fun value config => do
       let settings ← Toml.Field.readRecord "struct ProcessingConfig" workerFields {} value
       pure { config with workers := settings } }]

/-! ### Documents -/

def engineValue (settings : EngineSettings) : Toml.Value :=
  Toml.Value.tableOf
    [("cache_max_mem", .whole settings.cacheMemory.toNat),
      ("cache_max_entries", .whole settings.cacheEntries.toNat),
      ("smart_crop", .truth settings.smartCrop)]

def workerValue (settings : WorkerSettings) : Toml.Value :=
  Toml.Value.tableOf
    (settings.limit.toList.map fun limit => ("max_processes", .whole limit.toNat))

/-- The configuration as a value; a limit that is not set has no key. -/
def toValue (config : Config) : Toml.Value :=
  Toml.Value.tableOf
    [("quality", .whole config.quality.toNat),
      ("timeout_secs", .whole config.timeoutSeconds.toNat),
      ("engine", engineValue config.engine),
      ("processing", workerValue config.workers)]

/-- The configuration that a value gives; what it does not give is as in the stock one. -/
def ofValue (value : Toml.Value) : Toml.Fit Config :=
  Toml.Field.readRecord "struct ServiceConfig" fields stock value

/-- The configuration of a value with another laid over it, if it keeps the rules. -/
def resolve (base : Toml.Value) (overlay : Option Toml.Value) : Except ConfigError Config := do
  let merged := match overlay with
    | some overlay => base.merge overlay
    | none => base
  let config ← (ofValue merged).mapError .misfit
  config.validate
  pure config

/-- The stock configuration as the lines of a document that explains every key. -/
def stockLines : List String :=
  ["# imgpipe configuration",
    "# =====================",
    "# All settings are optional. Remove or comment out any you don't need.",
    "# Values shown below are the defaults.",
    "# Unknown keys will cause an error.",
    "",
    "# Output quality for JPEG and WEBP (1 = worst, 100 = best). Ignored for PNG.",
    "quality = 80",
    "",
    "# Per-image processing deadline in seconds. 0 disables the deadline.",
    "timeout_secs = 10",
    "",
    "# ---------------------------------------------------------------------------",
    "# Engine",
    "# ---------------------------------------------------------------------------",
    "[engine]",
    "# Memory budget of the decoded-image cache, in bytes (100 MiB).",
    "cache_max_mem = 104857600",
    "",
    "# Maximum number of decoded images kept in the cache.",
    "cache_max_entries = 500",
    "",
    "# Offer salient-region cropping (gravity \"sm\").",
    "smart_crop = true",
    "",
    "# ---------------------------------------------------------------------------",
    "# Processing",
    "# ---------------------------------------------------------------------------",
    "[processing]",
    "# Maximum parallel image-processing workers for batch mode.",
    "# Omit or comment out to auto-detect (= number of CPU cores).",
    "# max_processes = 4"]

/-- The stock configuration as a document. -/
def stockDocument : String :=
  String.join (stockLines.map fun line => line ++ "\n")

end Config

end Thumbnailer
