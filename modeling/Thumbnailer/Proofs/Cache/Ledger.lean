/-
This file keeps the cache of an engine as a queue. A ledger holds what the workers of an engine
share, as its shared state does, but for the table that the cache spreads its queue over. A ledger
that tells what is shared goes on to tell it, and is answered as the engine is; so any procedure of
the engine may be carried out on the ledger instead. A ledger can be computed with where a table of
digests cannot.
-/

import Thumbnailer.Engine.Pixels
import Thumbnailer.Pipeline
import Thumbnailer.Proofs.Cache.Queue
import Thumbnailer.Proofs.Schedules

namespace Thumbnailer

open Procedure

/-- What the workers of an engine share, its cache kept as a queue. -/
structure Ledger where
  queue : Cache.Queue String Canvas := []
  next : Nat := 0
  clock : Instant := { nanoseconds := 0 }

namespace Ledger

/-- How the steps of workers are answered, under the budgets of the cache. -/
def step (codec : Codec) (memoryBudget : UInt64) (entryBudget : Nat) : Handler WorkerAccess Ledger
  | .lookup key, ledger => ((ledger.queue.find key).map Stored.value, ledger)
  | .store key canvas size, ledger =>
    ((), { ledger with
           queue := ledger.queue.store memoryBudget entryBudget key canvas size })
  | .release, ledger => ((), { ledger with queue := [] })
  | .fresh, ledger => (ledger.next, { ledger with next := ledger.next + 1 })
  | .now, ledger => (ledger.clock, ledger)
  | .read data format, ledger => (codec.decode data format, ledger)
  | .write raster format quality, ledger => (codec.encode raster format quality, ledger)
  | .reduce raster size, ledger => (codec.reduce raster size, ledger)
  | .resample raster size, ledger => (codec.resample raster size, ledger)

/-- A ledger tells what is shared under some budgets. -/
structure Tells (memoryBudget : UInt64) (entryBudget : Nat) (state : SharedState)
    (ledger : Ledger) : Prop where
  cache : Cache.Represents memoryBudget entryBudget ledger.queue state.cache
  next : state.next = ledger.next
  clock : state.clock = ledger.clock

variable {memoryBudget : UInt64} {entryBudget : Nat} {state : SharedState} {ledger : Ledger}

theorem tells_initial (memoryBudget : UInt64) (entryBudget : Nat) :
    Tells memoryBudget entryBudget (.initial memoryBudget entryBudget) {} where
  cache := Cache.represents_empty memoryBudget entryBudget
  next := rfl
  clock := rfl

/-- Each step is answered from the ledger as from what is shared. -/
theorem Tells.step (tells : Tells memoryBudget entryBudget state ledger) (codec : Codec)
    (request : WorkerStep) :
    (SharedState.step codec request state).1 =
        (Ledger.step codec memoryBudget entryBudget request ledger).1 ∧
      Tells memoryBudget entryBudget (SharedState.step codec request state).2
        (Ledger.step codec memoryBudget entryBudget request ledger).2 := by
  cases request with
  | lookup key => exact ⟨tells.cache.lookup_eq key, { tells with cache := tells.cache.lookup key }⟩
  | store key canvas size =>
    exact ⟨rfl, { tells with cache := tells.cache.insert key canvas size }⟩
  | release => exact ⟨rfl, { tells with cache := tells.cache.clear }⟩
  | fresh => exact ⟨tells.next, { tells with next := congrArg (· + 1) tells.next }⟩
  | now => exact ⟨tells.clock, tells⟩
  | read | write | reduce | resample => exact ⟨rfl, tells⟩

/-- So is every procedure of steps. -/
theorem Tells.run {Result : Type} (tells : Tells memoryBudget entryBudget state ledger)
    (codec : Codec) (procedure : Procedure WorkerAccess Result) :
    (procedure.run (SharedState.step codec) state).1 =
        (procedure.run (Ledger.step codec memoryBudget entryBudget) ledger).1 ∧
      Tells memoryBudget entryBudget (procedure.run (SharedState.step codec) state).2
        (procedure.run (Ledger.step codec memoryBudget entryBudget) ledger).2 :=
  run_alike (Tells memoryBudget entryBudget) (fun request _ _ tells => tells.step codec request)
    procedure tells

/-- Work that is asked of the engine comes to the same if its steps are taken on the ledger. -/
theorem Tells.engine {Scale Value : Type} [ScaleFactor Scale]
    (tells : Tells memoryBudget entryBudget state ledger) (codec : Codec)
    (settings : EngineSettings) (stage : Stage Canvas Scale Value) :
    (Procedure.run (Pixels.engine codec settings) stage state).1 =
      (Procedure.run (Ledger.step codec memoryBudget entryBudget)
        (carryOut (Pixels.perform settings) stage) ledger).1 := by
  rw [← (tells.run codec _).1, run_carryOut]
  rfl

end Ledger

end Thumbnailer
