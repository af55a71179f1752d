/-
This file holds a bounded cache. Two budgets bound it, one on the sizes of the values together and
one on their number. A value that is stored anew pushes out the oldest ones until both budgets hold
with it; looking a value up does not make it younger. A value larger than the whole memory budget
is not stored, and what is stored under its key stays.

Values are found through a table, their ages are kept in a queue of keys, and their sizes are
summed up as they come and go, so that no operation walks through the values. The sum is a word of
64 bits. Whether there is room for a value is asked of the sum with that value, which must be a
word as well: where it is none, the checked way to store a value gives no cache.
-/

import Std.Data.HashMap

namespace Thumbnailer

/-- Counts of what happened to a cache. They are words of 64 bits. -/
structure CacheStatistics where
  hits : UInt64 := 0
  misses : UInt64 := 0
  evictions : UInt64 := 0
  deriving DecidableEq, Repr

namespace CacheStatistics

def lookups (statistics : CacheStatistics) : UInt64 :=
  statistics.hits + statistics.misses

/-- One line of text; evictions are told only if there were any. -/
def text (statistics : CacheStatistics) : String :=
  let evicted :=
    if 0 < statistics.evictions then ", " ++ toString statistics.evictions ++ " evicted" else ""
  toString statistics.hits ++ " hits, " ++ toString statistics.misses ++ " misses" ++ evicted ++
    " (" ++ toString statistics.lookups ++ " lookups)"

end CacheStatistics

/-- A stored value and the size it counts for. -/
structure Stored (Value : Type) where
  value : Value
  size : UInt64

structure Cache (Key Value : Type) [BEq Key] [Hashable Key] where
  memoryBudget : UInt64
  entryBudget : Nat
  entries : Std.HashMap Key (Stored Value)
  /-- Keys by age, the oldest first. -/
  order : List Key
  /-- Sum of the sizes of the entries. -/
  memory : UInt64
  statistics : CacheStatistics

namespace Cache

variable {Key Value : Type} [BEq Key] [Hashable Key]

def empty (memoryBudget : UInt64) (entryBudget : Nat) : Cache Key Value :=
  { memoryBudget := memoryBudget, entryBudget := entryBudget, entries := {}, order := []
    memory := 0, statistics := {} }

def size (cache : Cache Key Value) : Nat :=
  cache.entries.size

/-- Look a key up, counting a hit or a miss. -/
def lookup (cache : Cache Key Value) (key : Key) : Option Value × Cache Key Value :=
  let statistics := cache.statistics
  match cache.entries[key]? with
  | some stored =>
    (some stored.value,
      { cache with statistics := { statistics with hits := statistics.hits + 1 } })
  | none =>
    (none, { cache with statistics := { statistics with misses := statistics.misses + 1 } })

def remove (cache : Cache Key Value) (key : Key) : Cache Key Value :=
  match cache.entries[key]? with
  | some stored =>
    { cache with
      entries := cache.entries.erase key
      order := cache.order.filter fun other => !(other == key)
      memory := cache.memory - stored.size }
  | none => cache

/-- Whether a further value of this size would break a budget. -/
def overflows (cache : Cache Key Value) (size : UInt64) : Bool :=
  cache.memoryBudget.toNat < cache.memory.toNat + size.toNat ||
    cache.entryBudget ≤ cache.entries.size

/-- Drop the oldest value, whose key is given along with the younger keys. -/
def dropOldest (cache : Cache Key Value) (oldest : Key) (younger : List Key) : Cache Key Value :=
  match cache.entries[oldest]? with
  | some stored =>
    { cache with
      entries := cache.entries.erase oldest
      order := younger
      memory := cache.memory - stored.size
      statistics :=
        { cache.statistics with evictions := cache.statistics.evictions + 1 } }
  | none => { cache with order := younger }

/-- Drop values along the queue, the oldest first, until a value of this size has room. -/
def makeRoom (size : UInt64) : List Key → Cache Key Value → Cache Key Value
  | [], cache => cache
  | oldest :: younger, cache =>
    if cache.overflows size then makeRoom size younger (cache.dropOldest oldest younger) else cache

/-- Put a value at the young end. -/
def push (cache : Cache Key Value) (key : Key) (value : Value) (size : UInt64) :
    Cache Key Value :=
  { cache with
    entries := cache.entries.insert key { value := value, size := size }
    order := cache.order ++ [key]
    memory := cache.memory + size }

/-- Whether a value of this size is stored at all. -/
def accepts (cache : Cache Key Value) (size : UInt64) : Bool :=
  size ≤ cache.memoryBudget && cache.entryBudget ≠ 0

/-- Store a value under a key. -/
def insert (cache : Cache Key Value) (key : Key) (value : Value) (size : UInt64) :
    Cache Key Value :=
  if cache.accepts size then
    let without := cache.remove key
    (makeRoom size without.order without).push key value size
  else
    cache

/-- Whether the sums that storing a value asks for are words. The first of them is the largest: it
is the sum of all sizes but that under the key, with the size of the value. -/
def countable (cache : Cache Key Value) (key : Key) (size : UInt64) : Bool :=
  !cache.accepts size || (cache.remove key).memory.toNat + size.toNat < UInt64.size

/-- Store a value under a key, if every sum of sizes on the way is a word. -/
def insert? (cache : Cache Key Value) (key : Key) (value : Value) (size : UInt64) :
    Option (Cache Key Value) :=
  if cache.countable key size then some (cache.insert key value size) else none

/-- Drop every value; the counts stay. -/
def clear (cache : Cache Key Value) : Cache Key Value :=
  { cache with entries := {}, order := [], memory := 0 }

end Cache

end Thumbnailer
