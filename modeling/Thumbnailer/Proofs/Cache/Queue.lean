/-
This file reads a cache as a queue: one list of what is stored, with its keys, the oldest first. The
cache spreads that list over a table, a queue of keys and a sum of sizes, and changes each of the
three in its own way when a value is stored, replaced, pushed out or dropped. Here the three are
shown to stay those of one list, and each operation is shown to be an operation on that list.

The sum of the sizes is kept in a word of 64 bits, so of any queue it is the sum only up to whole
turns of the word. A value is stored where the word, along with the size of the value, comes to no
more than the memory budget; so a cache that starts out empty stays within its budgets, and there
the word is the sum. What a value asks for before room is made may still be more than a word holds:
then the checked way to store it gives no cache, and neither does a run that comes by it.
-/

import Mathlib.Algebra.BigOperators.Group.List.Basic
import Mathlib.Algebra.GroupWithZero.Nat
import Mathlib.Algebra.Order.BigOperators.Group.List
import Mathlib.Algebra.Order.Group.Nat
import Mathlib.Data.List.Induction
import Mathlib.Data.List.Nodup
import Thumbnailer.Cache.Basic

namespace Thumbnailer

/-! ### The longest end of a list that passes a test -/

section LongestEnd

variable {Element : Type}

/-- The longest end of a list that passes a test, and the empty list if none does. -/
def longestEnd (passes : List Element → Bool) : List Element → List Element
  | [] => []
  | first :: rest =>
    if passes (first :: rest) then first :: rest else longestEnd passes rest

variable {passes : List Element → Bool}

theorem longestEnd_suffix (list : List Element) : longestEnd passes list <:+ list := by
  induction list with
  | nil => exact List.suffix_refl []
  | cons first rest inductionHypothesis =>
    rw [longestEnd]
    split
    · exact List.suffix_refl _
    · exact inductionHypothesis.trans (List.suffix_cons first rest)

theorem passes_longestEnd (nothing : passes []) (list : List Element) :
    passes (longestEnd passes list) := by
  induction list with
  | nil => exact nothing
  | cons first rest inductionHypothesis =>
    rw [longestEnd]
    split
    · assumption
    · exact inductionHypothesis

theorem length_le_longestEnd {other list : List Element} (ending : other <:+ list)
    (passed : passes other) : other.length ≤ (longestEnd passes list).length := by
  induction list with
  | nil => rw [List.suffix_nil.mp ending, longestEnd]
  | cons first rest inductionHypothesis =>
    rw [longestEnd]
    split
    · exact ending.length_le
    · rename_i fails
      rcases List.suffix_cons_iff.mp ending with whole | within
      · exact absurd (whole ▸ passed) fails
      · exact inductionHypothesis within

/-- Only the ends of the list are tested. -/
theorem longestEnd_congr {others : List Element → Bool} {list : List Element}
    (agree : ∀ ending, ending <:+ list → passes ending = others ending) :
    longestEnd passes list = longestEnd others list := by
  induction list with
  | nil => rfl
  | cons first rest inductionHypothesis =>
    rw [longestEnd, longestEnd, agree _ (List.suffix_refl _),
      inductionHypothesis fun ending within => agree ending (within.trans (List.suffix_cons _ _))]

end LongestEnd

namespace Cache

/-! ### Queues -/

/-- What is stored, with its keys, the oldest first. -/
abbrev Queue (Key Value : Type) := List (Key × Stored Value)

namespace Queue

variable {Key Value : Type}

def keys (queue : Queue Key Value) : List Key :=
  queue.map Prod.fst

/-- The sum of the sizes. -/
def weight (queue : Queue Key Value) : Nat :=
  (queue.map fun entry => entry.2.size.toNat).sum

/-- A queue that keeps both budgets. -/
def Fits (memoryBudget : UInt64) (entryBudget : Nat) (queue : Queue Key Value) : Prop :=
  queue.weight ≤ memoryBudget.toNat ∧ queue.length ≤ entryBudget

instance (memoryBudget : UInt64) (entryBudget : Nat) (queue : Queue Key Value) :
    Decidable (queue.Fits memoryBudget entryBudget) :=
  inferInstanceAs (Decidable (_ ∧ _))

/-- What the cache asks before it stores one more value: whether the word that sums the sizes up
and the size of the value stay within the memory budget, and the number below the other. -/
def roomy (memoryBudget : UInt64) (entryBudget : Nat) (size : UInt64)
    (queue : Queue Key Value) : Bool :=
  (UInt64.ofNat queue.weight).toNat + size.toNat ≤ memoryBudget.toNat &&
    queue.length < entryBudget

/-- The queue less what is stored under one key. -/
def without [BEq Key] (queue : Queue Key Value) (key : Key) : Queue Key Value :=
  queue.filter fun entry => !(entry.1 == key)

/-- What is stored under a key. -/
def find [BEq Key] (queue : Queue Key Value) (key : Key) : Option (Stored Value) :=
  (queue.find? fun entry => entry.1 == key).map Prod.snd

/-- What storing a value makes of the queue of a cache. -/
def store [BEq Key] (memoryBudget : UInt64) (entryBudget : Nat) (queue : Queue Key Value)
    (key : Key) (value : Value) (size : UInt64) : Queue Key Value :=
  if size ≤ memoryBudget ∧ 1 ≤ entryBudget then
    longestEnd (roomy memoryBudget entryBudget size) (queue.without key) ++ [(key, ⟨value, size⟩)]
  else queue

variable {queue : Queue Key Value}

@[simp]
theorem weight_nil : weight ([] : Queue Key Value) = 0 := rfl

@[simp]
theorem weight_cons (entry : Key × Stored Value) (younger : Queue Key Value) :
    weight (entry :: younger) = entry.2.size.toNat + weight younger := by
  rw [weight, List.map_cons, List.sum_cons, weight]

@[simp]
theorem weight_append (older younger : Queue Key Value) :
    weight (older ++ younger) = older.weight + younger.weight := by
  rw [weight, List.map_append, List.sum_append, weight, weight]

theorem weight_singleton (key : Key) (value : Value) (size : UInt64) :
    weight [(key, Stored.mk value size)] = size.toNat := by
  rw [weight_cons, weight_nil, Nat.add_zero]

theorem weight_perm {other : Queue Key Value} (same : queue.Perm other) :
    queue.weight = other.weight :=
  (same.map _).sum_eq

theorem weight_le_of_sublist {other : Queue Key Value} (within : List.Sublist queue other) :
    queue.weight ≤ other.weight :=
  (within.map _).sum_le_sum fun _ _ => Nat.zero_le _

theorem Fits.sublist {memoryBudget : UInt64} {entryBudget : Nat} {other : Queue Key Value}
    (fits : other.Fits memoryBudget entryBudget) (within : List.Sublist queue other) :
    queue.Fits memoryBudget entryBudget :=
  ⟨(weight_le_of_sublist within).trans fits.1, within.length_le.trans fits.2⟩

/-- Of a queue within the memory budget the word is the sum. -/
theorem toNat_ofNat_weight {memoryBudget : UInt64} (light : queue.weight ≤ memoryBudget.toNat) :
    (UInt64.ofNat queue.weight).toNat = queue.weight := by
  rw [UInt64.toNat_ofNat']
  exact Nat.mod_eq_of_lt (light.trans_lt memoryBudget.toNat_lt)

/-- Of a queue within the budgets, the word and the sum agree about room. -/
theorem roomy_iff_fits {memoryBudget : UInt64} {entryBudget : Nat}
    (fits : queue.Fits memoryBudget entryBudget) (key : Key) (value : Value) (size : UInt64) :
    queue.roomy memoryBudget entryBudget size ↔
      Fits memoryBudget entryBudget (queue ++ [(key, ⟨value, size⟩)]) := by
  rw [roomy, Fits, Bool.and_eq_true, decide_eq_true_iff, decide_eq_true_iff, weight_append,
    weight_singleton, List.length_append, List.length_singleton, toNat_ofNat_weight fits.1,
    Nat.lt_iff_add_one_le]

/-- The longest end of a queue that keeps both budgets along with a newcomer. -/
def keptBeside (memoryBudget : UInt64) (entryBudget : Nat) (newcomer : Key × Stored Value)
    (queue : Queue Key Value) : Queue Key Value :=
  longestEnd (fun kept => Fits memoryBudget entryBudget (kept ++ [newcomer])) queue

/-- The newcomer alone fits, so it fits with what is kept. -/
theorem fits_keptBeside {memoryBudget : UInt64} {entryBudget : Nat} (queue : Queue Key Value)
    (key : Key) (value : Value) {size : UInt64} (small : size ≤ memoryBudget)
    (counted : 1 ≤ entryBudget) :
    Fits memoryBudget entryBudget
      (queue.keptBeside memoryBudget entryBudget (key, ⟨value, size⟩) ++
        [(key, ⟨value, size⟩)]) := by
  have alone : Fits memoryBudget entryBudget [(key, Stored.mk value size)] := by
    refine ⟨?_, counted⟩
    rw [weight_singleton]
    exact UInt64.le_iff_toNat_le.mp small
  exact of_decide_eq_true
    (@passes_longestEnd _ (fun kept => Fits memoryBudget entryBudget (kept ++ [(key, _)]))
      (decide_eq_true alone) queue)

/-! ### Taking out what is stored under a key -/

variable [BEq Key]

theorem keys_without (queue : Queue Key Value) (key : Key) :
    (queue.without key).keys = queue.keys.filter fun other => !(other == key) := by
  rw [without, keys, keys, List.filter_map, Function.comp_def]

variable [LawfulBEq Key]

theorem mem_without_iff {entry : Key × Stored Value} {key : Key} :
    entry ∈ queue.without key ↔ entry ∈ queue ∧ entry.1 ≠ key := by
  rw [without, List.mem_filter, Bool.not_eq_true', beq_eq_false_iff_ne]

theorem without_of_notMem {key : Key} (absent : key ∉ queue.keys) : queue.without key = queue := by
  refine List.filter_eq_self.mpr fun entry member => ?_
  rw [Bool.not_eq_true', beq_eq_false_iff_ne]
  exact fun same => absent (same ▸ List.mem_map_of_mem member)

theorem notMem_keys_without (queue : Queue Key Value) (key : Key) :
    key ∉ (queue.without key).keys := by
  intro member
  obtain ⟨entry, kept, same⟩ := List.mem_map.mp member
  exact (mem_without_iff.mp kept).2 same

/-- What is stored under a key comes apart from the rest. -/
theorem perm_cons_without {key : Key} {stored : Stored Value} (distinct : queue.keys.Nodup)
    (member : (key, stored) ∈ queue) : queue.Perm ((key, stored) :: queue.without key) := by
  induction queue with
  | nil => cases member
  | cons first rest inductionHypothesis =>
    rw [keys, List.map_cons, List.nodup_cons] at distinct
    rcases List.mem_cons.mp member with here | later
    · have restKept : without rest key = rest := by
        refine without_of_notMem ?_
        rw [show key = first.1 from congrArg Prod.fst here]
        exact distinct.1
      have firstDropped : without (first :: rest) key = without rest key := by
        rw [← here, without, List.filter_cons_of_neg (by simp), without]
      rw [firstDropped, restKept, here]
    · have differs : first.1 ≠ key := fun same =>
        distinct.1 (same ▸ List.mem_map_of_mem later)
      have firstKept : without (first :: rest) key = first :: without rest key :=
        List.filter_cons_of_pos (by rw [Bool.not_eq_true', beq_eq_false_iff_ne]; exact differs)
      rw [firstKept]
      exact ((inductionHypothesis distinct.2 later).cons first).trans (List.Perm.swap _ _ _)

/-- The first value under a key is the only one. -/
theorem find_eq_some_iff {key : Key} {stored : Stored Value} (distinct : queue.keys.Nodup) :
    queue.find key = some stored ↔ (key, stored) ∈ queue := by
  induction queue with
  | nil => simp [find]
  | cons first rest inductionHypothesis =>
    rw [keys, List.map_cons, List.nodup_cons] at distinct
    rw [find, List.find?_cons, List.mem_cons]
    split
    · rename_i same
      have sameKey : first.1 = key := eq_of_beq same
      constructor
      · intro found
        exact Or.inl (Prod.ext sameKey.symm (Option.some.inj found).symm)
      · rintro (here | later)
        · rw [← here]; rfl
        · exact absurd (sameKey ▸ List.mem_map_of_mem later) distinct.1
    · rename_i differs
      rw [← find, inductionHypothesis distinct.2]
      constructor
      · exact Or.inr
      · rintro (here | later)
        · rw [← here] at differs; simp at differs
        · exact later

end Queue

/-! ### The queue of a cache -/

section Represents

variable {Key Value : Type} [BEq Key] [Hashable Key]

/-- The queue that a cache spreads over its parts. -/
def contents (cache : Cache Key Value) : Queue Key Value :=
  cache.order.filterMap fun key => cache.entries[key]?.map fun stored => (key, stored)

/-- A cache of these budgets whose parts are all those of one queue. -/
structure Represents (memoryBudget : UInt64) (entryBudget : Nat) (queue : Queue Key Value)
    (cache : Cache Key Value) : Prop where
  memoryBudget_eq : cache.memoryBudget = memoryBudget
  entryBudget_eq : cache.entryBudget = entryBudget
  distinct : queue.keys.Nodup
  order_eq : cache.order = queue.keys
  held_iff : ∀ key stored, cache.entries[key]? = some stored ↔ (key, stored) ∈ queue
  memory_eq : cache.memory = UInt64.ofNat queue.weight

variable {memoryBudget : UInt64} {entryBudget : Nat} {queue : Queue Key Value}
  {cache : Cache Key Value}

theorem Represents.contents_eq (represents : Represents memoryBudget entryBudget queue cache) :
    cache.contents = queue := by
  have each : ∀ entry ∈ queue,
      (cache.entries[entry.1]?.map fun stored => (entry.1, stored)) = some entry := by
    intro entry member
    rw [(represents.held_iff entry.1 entry.2).mpr member, Option.map_some]
  rw [contents, represents.order_eq, Queue.keys, List.filterMap_map, Function.comp_def,
    List.filterMap_congr each, List.filterMap_some]

theorem represents_empty (memoryBudget : UInt64) (entryBudget : Nat) :
    Represents memoryBudget entryBudget [] (empty memoryBudget entryBudget : Cache Key Value) where
  memoryBudget_eq := rfl
  entryBudget_eq := rfl
  distinct := List.nodup_nil
  order_eq := rfl
  held_iff := by simp [empty]
  memory_eq := rfl

namespace Represents

theorem lookup (represents : Represents memoryBudget entryBudget queue cache) (key : Key) :
    Represents memoryBudget entryBudget queue (cache.lookup key).2 := by
  unfold Cache.lookup
  split <;> exact { represents with }

theorem clear (represents : Represents memoryBudget entryBudget queue cache) :
    Represents memoryBudget entryBudget [] cache.clear where
  memoryBudget_eq := represents.memoryBudget_eq
  entryBudget_eq := represents.entryBudget_eq
  distinct := List.nodup_nil
  order_eq := rfl
  held_iff := by simp [Cache.clear]
  memory_eq := rfl

theorem accepts_iff (represents : Represents memoryBudget entryBudget queue cache)
    (size : UInt64) : cache.accepts size ↔ size ≤ memoryBudget ∧ 1 ≤ entryBudget := by
  rw [accepts, represents.memoryBudget_eq, represents.entryBudget_eq, Bool.and_eq_true,
    decide_eq_true_iff, decide_eq_true_iff, Nat.one_le_iff_ne_zero]

/-- A queue within a budget weighs what the cache says, without a turn of the word. -/
theorem memory_toNat (represents : Represents memoryBudget entryBudget queue cache)
    (light : queue.weight ≤ memoryBudget.toNat) : cache.memory.toNat = queue.weight := by
  rw [represents.memory_eq, Queue.toNat_ofNat_weight light]

/-- The table and the queue have the same keys. -/
theorem mem_entries_iff [LawfulBEq Key] [LawfulHashable Key]
    (represents : Represents memoryBudget entryBudget queue cache) (key : Key) :
    key ∈ cache.entries ↔ key ∈ queue.keys := by
  rw [Std.HashMap.mem_iff_isSome_getElem?, Option.isSome_iff_exists]
  constructor
  · rintro ⟨stored, held⟩
    exact List.mem_map_of_mem ((represents.held_iff key stored).mp held)
  · intro member
    obtain ⟨⟨other, stored⟩, entry, same⟩ := List.mem_map.mp member
    exact ⟨stored, (represents.held_iff key stored).mpr (same ▸ entry)⟩

variable [LawfulBEq Key]

theorem found_eq (represents : Represents memoryBudget entryBudget queue cache) (key : Key) :
    cache.entries[key]? = queue.find key := by
  refine Option.ext fun stored => ?_
  rw [represents.held_iff, Queue.find_eq_some_iff represents.distinct]

/-- A lookup finds the value that stands in the queue under the key. -/
theorem lookup_eq (represents : Represents memoryBudget entryBudget queue cache) (key : Key) :
    (cache.lookup key).1 = (queue.find key).map Stored.value := by
  rw [← represents.found_eq key, Cache.lookup]
  split
  · rename_i stored held
    rw [held, Option.map_some]
  · rename_i missing
    rw [missing, Option.map_none]

variable [LawfulHashable Key]

/-- The table holds what the queue holds, each of it once. -/
theorem perm (represents : Represents memoryBudget entryBudget queue cache) :
    cache.entries.toList.Perm queue := by
  have distinctEntries : cache.entries.toList.Nodup :=
    Std.HashMap.distinct_keys_toList.imp fun differs same => by simp [same] at differs
  refine (List.perm_ext_iff_of_nodup distinctEntries
    (List.Nodup.of_map _ represents.distinct)).mpr fun entry => ?_
  rw [← represents.held_iff entry.1 entry.2]
  exact Std.HashMap.mem_toList_iff_getElem?_eq_some

theorem size_eq (represents : Represents memoryBudget entryBudget queue cache) :
    cache.entries.size = queue.length := by
  rw [← Std.HashMap.length_toList]
  exact represents.perm.length_eq

theorem overflows_eq (represents : Represents memoryBudget entryBudget queue cache)
    (size : UInt64) :
    cache.overflows size = !queue.roomy memoryBudget entryBudget size := by
  rw [overflows, Queue.roomy, represents.size_eq, represents.memory_eq,
    represents.memoryBudget_eq, represents.entryBudget_eq, Bool.not_and, ← decide_not,
    ← decide_not]
  simp only [Nat.not_le, Nat.not_lt]

/-- Once a key is out of the table, the rest of the queue and of the sum remain. -/
theorem erase (represents : Represents memoryBudget entryBudget queue cache) {key : Key}
    {stored : Stored Value} {rest : Queue Key Value} {statistics : CacheStatistics}
    (apart : queue.Perm ((key, stored) :: rest)) (sublist : List.Sublist rest queue) :
    Represents memoryBudget entryBudget rest
      { cache with
        entries := cache.entries.erase key
        order := rest.keys
        memory := cache.memory - stored.size
        statistics := statistics } where
  memoryBudget_eq := represents.memoryBudget_eq
  entryBudget_eq := represents.entryBudget_eq
  distinct := represents.distinct.sublist (sublist.map _)
  order_eq := rfl
  held_iff := by
    intro other found
    have distinct : (key :: rest.keys).Nodup :=
      (List.Perm.nodup_iff (apart.map Prod.fst)).mp represents.distinct
    rw [Std.HashMap.getElem?_erase]
    split
    · rename_i same
      rw [← eq_of_beq same]
      refine ⟨fun impossible => (nomatch impossible), fun member => ?_⟩
      exact absurd (List.mem_map_of_mem member) (List.nodup_cons.mp distinct).1
    · rename_i differs
      rw [represents.held_iff, apart.mem_iff, List.mem_cons]
      refine ⟨fun member => member.resolve_left fun same => differs ?_, Or.inr⟩
      rw [(Prod.mk.inj same).1]
      exact beq_self_eq_true key
  memory_eq := by
    rw [represents.memory_eq, Queue.weight_perm apart, Queue.weight_cons, UInt64.ofNat_add,
      UInt64.ofNat_toNat, UInt64.add_comm, UInt64.add_sub_cancel]

theorem remove (represents : Represents memoryBudget entryBudget queue cache) (key : Key) :
    Represents memoryBudget entryBudget (queue.without key) (cache.remove key) := by
  unfold Cache.remove
  split
  · rename_i stored held
    rw [represents.order_eq, ← Queue.keys_without]
    exact represents.erase
      (Queue.perm_cons_without represents.distinct ((represents.held_iff key stored).mp held))
      List.filter_sublist
  · rename_i missing
    have absent : key ∉ queue.keys := fun member =>
      (getElem?_eq_none_iff _ _).mp missing ((represents.mem_entries_iff key).mpr member)
    rw [Queue.without_of_notMem absent]
    exact represents

theorem dropOldest {oldest : Key × Stored Value} {younger : Queue Key Value}
    (represents : Represents memoryBudget entryBudget (oldest :: younger) cache) :
    Represents memoryBudget entryBudget younger (cache.dropOldest oldest.1 younger.keys) := by
  have held : cache.entries[oldest.1]? = some oldest.2 :=
    (represents.held_iff _ _).mpr List.mem_cons_self
  rw [Cache.dropOldest, held]
  exact represents.erase (List.Perm.refl _) (List.sublist_cons_self _ _)

/-- Making room leaves the longest end of the queue that the cache finds to have room. -/
theorem makeRoom (represents : Represents memoryBudget entryBudget queue cache) (size : UInt64) :
    Represents memoryBudget entryBudget
      (longestEnd (Queue.roomy memoryBudget entryBudget size) queue)
      (makeRoom size queue.keys cache) := by
  induction queue generalizing cache with
  | nil => exact represents
  | cons oldest younger inductionHypothesis =>
    rw [Queue.keys, List.map_cons, Cache.makeRoom, longestEnd, represents.overflows_eq]
    cases Queue.roomy memoryBudget entryBudget size (oldest :: younger) with
    | true => exact represents
    | false => exact inductionHypothesis represents.dropOldest

theorem push (represents : Represents memoryBudget entryBudget queue cache) {key : Key}
    (absent : key ∉ queue.keys) (value : Value) (size : UInt64) :
    Represents memoryBudget entryBudget (queue ++ [(key, ⟨value, size⟩)])
      (cache.push key value size) where
  memoryBudget_eq := represents.memoryBudget_eq
  entryBudget_eq := represents.entryBudget_eq
  distinct := by
    rw [Queue.keys, List.map_append]
    refine List.nodup_append.mpr ⟨represents.distinct, List.nodup_singleton key, ?_⟩
    intro other member new alone same
    rw [List.map_singleton, List.mem_singleton] at alone
    rw [same, alone] at member
    exact absent member
  order_eq := by rw [Cache.push, represents.order_eq, Queue.keys, Queue.keys, List.map_append]; rfl
  held_iff := by
    intro other stored
    rw [Cache.push, Std.HashMap.getElem?_insert, List.mem_append, List.mem_singleton]
    split
    · rename_i same
      rw [← eq_of_beq same, Prod.mk.injEq, Option.some_inj]
      refine ⟨fun new => Or.inr ⟨rfl, new.symm⟩, fun member => ?_⟩
      rcases member with old | new
      · exact absurd (List.mem_map_of_mem old) absent
      · exact new.2.symm
    · rename_i differs
      rw [represents.held_iff]
      refine ⟨Or.inl, fun member => member.resolve_right fun same => differs ?_⟩
      rw [(Prod.mk.inj same).1]
      exact beq_self_eq_true key
  memory_eq := by
    rw [Cache.push, represents.memory_eq, Queue.weight_append, Queue.weight_cons,
      Queue.weight_nil, Nat.add_zero, UInt64.ofNat_add, UInt64.ofNat_toNat]

/-- What is stored anew stands at the young end, behind what had room beside it. -/
theorem insert_of_accepted (represents : Represents memoryBudget entryBudget queue cache)
    (key : Key) (value : Value) {size : UInt64} (accepted : cache.accepts size) :
    Represents memoryBudget entryBudget
      (longestEnd (Queue.roomy memoryBudget entryBudget size) (queue.without key) ++
        [(key, ⟨value, size⟩)])
      (cache.insert key value size) := by
  have removed := represents.remove key
  have absent : key ∉ Queue.keys
      (longestEnd (Queue.roomy memoryBudget entryBudget size) (queue.without key)) :=
    fun member => Queue.notMem_keys_without queue key
      (((longestEnd_suffix _).sublist.map _).subset member)
  rw [Cache.insert, if_pos accepted]
  simp only [removed.order_eq]
  exact (removed.makeRoom size).push absent value size

theorem insert (represents : Represents memoryBudget entryBudget queue cache) (key : Key)
    (value : Value) (size : UInt64) :
    Represents memoryBudget entryBudget (queue.store memoryBudget entryBudget key value size)
      (cache.insert key value size) := by
  rw [Queue.store]
  split
  case isTrue small =>
    exact represents.insert_of_accepted key value ((represents.accepts_iff size).mpr small)
  case isFalse large =>
    rw [Cache.insert, if_neg fun accepted => large ((represents.accepts_iff size).mp accepted)]
    exact represents

/-! ### Sums that are words -/

/-- A value that is not stored asks for no sum; one that is asks for the weight of the queue, less
what is under its key, and its own size. -/
theorem countable_iff (represents : Represents memoryBudget entryBudget queue cache)
    (light : queue.weight ≤ memoryBudget.toNat) (key : Key) (size : UInt64) :
    cache.countable key size ↔
      (size ≤ memoryBudget → 1 ≤ entryBudget →
        (queue.without key).weight + size.toNat < 2 ^ 64) := by
  change cache.countable key size ↔
    (size ≤ memoryBudget → 1 ≤ entryBudget →
      (queue.without key).weight + size.toNat < UInt64.size)
  have lighter : (queue.without key).weight ≤ memoryBudget.toNat :=
    (Queue.weight_le_of_sublist List.filter_sublist).trans light
  rw [countable, (represents.remove key).memory_toNat lighter, Bool.or_eq_true, Bool.not_eq_true',
    decide_eq_true_iff, ← and_imp, ← represents.accepts_iff, ← Bool.not_eq_true, imp_iff_not_or]

/-- Two sizes within a budget below `2^63` come to a word, and a cache that stores nothing asks for
no sum. -/
theorem countable_of_bounded (represents : Represents memoryBudget entryBudget queue cache)
    (bounded : memoryBudget.toNat < 2 ^ 63 ∨ entryBudget = 0)
    (light : queue.weight ≤ memoryBudget.toNat) (key : Key) (size : UInt64) :
    cache.countable key size := by
  refine (represents.countable_iff light key size).mpr fun small counted => ?_
  have lighter : (queue.without key).weight ≤ memoryBudget.toNat :=
    (Queue.weight_le_of_sublist List.filter_sublist).trans light
  have sizeBound : size.toNat ≤ memoryBudget.toNat := UInt64.le_iff_toNat_le.mp small
  omega

end Represents

end Represents

/-! ### Runs -/

/-- What can be asked of a cache. -/
inductive Operation (Key Value : Type) where
  | lookup (key : Key)
  | insert (key : Key) (value : Value) (size : UInt64)
  | clear

section Runs

variable {Key Value : Type} [BEq Key] [Hashable Key]

def Operation.perform (operation : Operation Key Value) (cache : Cache Key Value) :
    Cache Key Value :=
  match operation with
  | .lookup key => (cache.lookup key).2
  | .insert key value size => cache.insert key value size
  | .clear => cache.clear

/-- The cache that the operations leave of an empty one. -/
def after (memoryBudget : UInt64) (entryBudget : Nat) (operations : List (Operation Key Value)) :
    Cache Key Value :=
  operations.foldl (fun cache operation => operation.perform cache) (empty memoryBudget entryBudget)

/-- What an operation leaves, if every sum of sizes on the way is a word. -/
def Operation.perform? (operation : Operation Key Value) (cache : Cache Key Value) :
    Option (Cache Key Value) :=
  match operation with
  | .insert key value size => cache.insert? key value size
  | .lookup _ | .clear => some (operation.perform cache)

/-- The cache that the operations leave of an empty one, if every sum of sizes on the way is a
word. -/
def after? (memoryBudget : UInt64) (entryBudget : Nat) (operations : List (Operation Key Value)) :
    Option (Cache Key Value) :=
  operations.foldlM (fun cache operation => operation.perform? cache)
    (empty memoryBudget entryBudget)

theorem after_concat (memoryBudget : UInt64) (entryBudget : Nat)
    (operations : List (Operation Key Value)) (operation : Operation Key Value) :
    after memoryBudget entryBudget (operations ++ [operation]) =
      operation.perform (after memoryBudget entryBudget operations) := by
  rw [after, List.foldl_append]
  rfl

theorem after?_concat (memoryBudget : UInt64) (entryBudget : Nat)
    (operations : List (Operation Key Value)) (operation : Operation Key Value) :
    after? memoryBudget entryBudget (operations ++ [operation]) =
      (after? memoryBudget entryBudget operations).bind operation.perform? := by
  rw [after?, List.foldlM_append]
  simp only [List.foldlM_cons, List.foldlM_nil, bind_pure]
  rfl

/-- An operation of which something is left leaves what it leaves unchecked. -/
theorem Operation.eq_perform_of_perform? {operation : Operation Key Value}
    {cache later : Cache Key Value} (left : operation.perform? cache = some later) :
    later = operation.perform cache := by
  cases operation with
  | lookup key => exact (Option.some.inj left).symm
  | clear => exact (Option.some.inj left).symm
  | insert key value size =>
    rw [Operation.perform?, insert?] at left
    split at left
    · exact (Option.some.inj left).symm
    · cases left

/-- A run that goes through leaves what it leaves unchecked. -/
theorem eq_after_of_after? {memoryBudget : UInt64} {entryBudget : Nat}
    {operations : List (Operation Key Value)} {cache : Cache Key Value}
    (left : after? memoryBudget entryBudget operations = some cache) :
    cache = after memoryBudget entryBudget operations := by
  induction operations using List.reverseRecOn generalizing cache with
  | nil => exact (Option.some.inj left).symm
  | append_singleton operations operation inductionHypothesis =>
    rw [after?_concat] at left
    obtain ⟨before, goes, last⟩ := Option.bind_eq_some_iff.mp left
    rw [after_concat, ← inductionHypothesis goes]
    exact Operation.eq_perform_of_perform? last

variable [LawfulBEq Key] [LawfulHashable Key] {memoryBudget : UInt64} {entryBudget : Nat}
  {queue : Queue Key Value} {cache : Cache Key Value}

/-- No operation brings the parts of a cache apart. -/
theorem Represents.perform (represents : Represents memoryBudget entryBudget queue cache)
    (operation : Operation Key Value) :
    ∃ next, Represents memoryBudget entryBudget next (operation.perform cache) := by
  cases operation with
  | lookup key => exact ⟨queue, represents.lookup key⟩
  | insert key value size => exact ⟨_, represents.insert key value size⟩
  | clear => exact ⟨[], represents.clear⟩

/-- After every run the parts of the cache are those of one queue. -/
theorem represents_after (memoryBudget : UInt64) (entryBudget : Nat)
    (operations : List (Operation Key Value)) :
    Represents memoryBudget entryBudget (after memoryBudget entryBudget operations).contents
      (after memoryBudget entryBudget operations) := by
  induction operations using List.reverseRecOn with
  | nil => exact represents_empty memoryBudget entryBudget
  | append_singleton operations operation inductionHypothesis =>
    rw [after_concat]
    obtain ⟨next, represents⟩ := inductionHypothesis.perform operation
    rw [represents.contents_eq]
    exact represents

/-! ### Keeping the budgets -/

/-- A cache within its budgets keeps the longest end of the queue that fits the budgets along with
the new value. -/
theorem Represents.insert_fits (represents : Represents memoryBudget entryBudget queue cache)
    (fits : queue.Fits memoryBudget entryBudget) (key : Key) (value : Value) {size : UInt64}
    (small : size ≤ memoryBudget) (counted : 1 ≤ entryBudget) :
    Represents memoryBudget entryBudget
      ((queue.without key).keptBeside memoryBudget entryBudget (key, ⟨value, size⟩) ++
        [(key, ⟨value, size⟩)])
      (cache.insert key value size) := by
  have agree : longestEnd (Queue.roomy memoryBudget entryBudget size) (queue.without key) =
      (queue.without key).keptBeside memoryBudget entryBudget (key, ⟨value, size⟩) := by
    refine longestEnd_congr fun ending within => ?_
    rw [Bool.eq_iff_iff, decide_eq_true_iff]
    exact Queue.roomy_iff_fits (fits.sublist (within.sublist.trans List.filter_sublist)) key value
      size
  rw [← agree]
  exact represents.insert_of_accepted key value ((represents.accepts_iff size).mpr ⟨small, counted⟩)

theorem Represents.fits_perform (represents : Represents memoryBudget entryBudget queue cache)
    (fits : queue.Fits memoryBudget entryBudget) (operation : Operation Key Value) :
    (operation.perform cache).contents.Fits memoryBudget entryBudget := by
  cases operation with
  | lookup key =>
    rw [Operation.perform, (represents.lookup key).contents_eq]
    exact fits
  | insert key value size =>
    rw [Operation.perform]
    by_cases accepted : size ≤ memoryBudget ∧ 1 ≤ entryBudget
    · rw [(represents.insert_fits fits key value accepted.1 accepted.2).contents_eq]
      exact Queue.fits_keptBeside _ key value accepted.1 accepted.2
    · rw [Cache.insert, if_neg fun accepts => accepted ((represents.accepts_iff size).mp accepts),
        represents.contents_eq]
      exact fits
  | clear =>
    rw [Operation.perform, represents.clear.contents_eq]
    exact ⟨Nat.zero_le _, Nat.zero_le _⟩

/-- Every run stays within the budgets. -/
theorem fits_after (memoryBudget : UInt64) (entryBudget : Nat)
    (operations : List (Operation Key Value)) :
    (after memoryBudget entryBudget operations).contents.Fits memoryBudget entryBudget := by
  induction operations using List.reverseRecOn with
  | nil => exact ⟨Nat.zero_le _, Nat.zero_le _⟩
  | append_singleton operations operation inductionHypothesis =>
    rw [after_concat]
    exact (represents_after memoryBudget entryBudget operations).fits_perform
      inductionHypothesis operation

/-! ### Going through -/

theorem Represents.perform?_eq (represents : Represents memoryBudget entryBudget queue cache)
    (bounded : memoryBudget.toNat < 2 ^ 63 ∨ entryBudget = 0)
    (light : queue.weight ≤ memoryBudget.toNat) (operation : Operation Key Value) :
    operation.perform? cache = some (operation.perform cache) := by
  cases operation with
  | lookup key => rfl
  | clear => rfl
  | insert key value size => exact if_pos (represents.countable_of_bounded bounded light key size)

/-- With a memory budget below `2^63`, and where nothing is stored at all, a run goes through. -/
theorem after?_of_bounded (bounded : memoryBudget.toNat < 2 ^ 63 ∨ entryBudget = 0)
    (operations : List (Operation Key Value)) :
    after? memoryBudget entryBudget operations =
      some (after memoryBudget entryBudget operations) := by
  induction operations using List.reverseRecOn with
  | nil => rfl
  | append_singleton operations operation inductionHypothesis =>
    rw [after?_concat, inductionHypothesis, after_concat]
    exact (represents_after memoryBudget entryBudget operations).perform?_eq bounded
      (fits_after memoryBudget entryBudget operations).1 operation

end Runs

end Cache

end Thumbnailer
