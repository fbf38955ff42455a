import SorobanGate.Basic
import SorobanGate.Library.Machine
import Mathlib.Data.Nat.Digits.Lemmas

/-!
# In-memory cache

The cache keeps its entries under a 64-bit slot computed from the key.  The
store behind it is an exact map that may lose any entry at any time; expiry is
only noticed by a lookup.
-/

namespace SorobanGate

structure CachedValue where
  data : Bytes
  expiresAt : Instant
  deriving DecidableEq, Repr

structure MemoryCache where
  cache : HashMap UInt64 CachedValue
  maxCapacity : UInt64
  hitCount : UInt64
  missCount : UInt64
  evictionCount : UInt64

structure CacheStats where
  hitCount : UInt64
  missCount : UInt64
  size : UInt64
  evictionCount : UInt64
  deriving DecidableEq, Repr

namespace MemoryCache

def new (maxMemoryMb : UInt64) : MemoryCache where
  cache := ∅
  maxCapacity := maxMemoryMb * 1024 * 1024 / 1024
  hitCount := 0
  missCount := 0
  evictionCount := 0

/-- The start of the key, copied into eight zero bytes. -/
def buf (key : Bytes) : Bytes :=
  let len := min key.length 8
  key.take len ++ List.replicate (8 - len) 0

/-- The slot of a key: its buffer read as a little-endian number. -/
def hashToU64 (key : Bytes) : UInt64 := .ofNat (Nat.ofDigits 256 ((buf key).map UInt8.toNat))

def get (cache : MemoryCache) (key : Bytes) (now : Instant) : MemoryCache × Option Bytes :=
  let slot := hashToU64 key
  match cache.cache.lookup slot with
  | some entry =>
      if now < entry.expiresAt then
        ({ cache with hitCount := cache.hitCount + 1 }, some entry.data)
      else
        ({ cache with
            missCount := cache.missCount + 1
            cache := cache.cache.erase slot }, none)
  | none => ({ cache with missCount := cache.missCount + 1 }, none)

/-- Storing a value panics when its expiry is not representable. -/
def set (cache : MemoryCache) (key value : Bytes) (ttl : Duration) (now : Instant) :
    Option MemoryCache := do
  let expiresAt ← Instant.add? now ttl
  pure { cache with cache := cache.cache.insert (hashToU64 key) ⟨value, expiresAt⟩ }

def delete (cache : MemoryCache) (key : Bytes) : MemoryCache × Bool :=
  let slot := hashToU64 key
  ({ cache with cache := cache.cache.erase slot }, (cache.cache.lookup slot).isSome)

def flush (cache : MemoryCache) : MemoryCache :=
  { cache with cache := ∅, hitCount := 0, missCount := 0, evictionCount := 0 }

/-- `moka` answers `entry_count()` from an estimate that may lag behind the entries. -/
def stats (cache : MemoryCache) (entryCount : UInt64) : CacheStats where
  hitCount := cache.hitCount
  missCount := cache.missCount
  size := entryCount
  evictionCount := cache.evictionCount

/-- The store behind the cache drops an entry on its own. -/
def evict (cache : MemoryCache) (slot : UInt64) : MemoryCache :=
  { cache with cache := cache.cache.erase slot }

end MemoryCache

/-- Everything that happens to a cache, with the clock readings it depends on. -/
inductive CacheOp where
  | get (key : Bytes) (now : Instant)
  | set (key value : Bytes) (ttl : Duration) (now : Instant)
  | delete (key : Bytes)
  | flush
  | evict (slot : UInt64)
  deriving DecidableEq, Repr

namespace CacheOp

def step (cache : MemoryCache) : CacheOp → Option MemoryCache
  | .get key now => some (cache.get key now).1
  | .set key value ttl now => cache.set key value ttl now
  | .delete key => some (cache.delete key).1
  | .flush => some cache.flush
  | .evict slot => some (cache.evict slot)

/-- The key that an operation is called with. -/
def key? : CacheOp → Option Bytes
  | .get key _ | .set key _ _ _ | .delete key => some key
  | .flush | .evict _ => none

/-- Whether an operation is a set or a delete on a key. -/
def writes (key : Bytes) : CacheOp → Bool
  | .set target _ _ _ | .delete target => target = key
  | _ => false

end CacheOp

/-! ## Slots -/

namespace MemoryCache

/-- Keys that share their first eight bytes, a missing byte counting as zero. -/
def SamePrefix (left right : Bytes) : Prop := ∀ i < 8, left.getD i 0 = right.getD i 0

instance (left right : Bytes) : Decidable (SamePrefix left right) :=
  inferInstanceAs (Decidable (∀ i < 8, _))

@[simp] theorem buf_length (key : Bytes) : (buf key).length = 8 := by
  simp only [buf, List.length_append, List.length_take, List.length_replicate]
  omega

theorem buf_getD (key : Bytes) {i : Nat} (inside : i < 8) :
    (buf key).getD i 0 = key.getD i 0 := by
  simp only [buf, List.getD_eq_getElem?_getD]
  by_cases copied : i < key.length
  · rw [List.getElem?_append_left (by simp; omega), List.getElem?_take_of_lt (by omega)]
  · rw [List.getElem?_append_right (by simp; omega), List.getElem?_eq_none (not_lt.mp copied),
      List.getElem?_replicate]
    split <;> rfl

theorem buf_eq_iff (left right : Bytes) : buf left = buf right ↔ SamePrefix left right := by
  constructor
  · intro equal i inside
    rw [← buf_getD left inside, ← buf_getD right inside, equal]
  · intro same
    refine List.ext_getElem (by simp) fun i inLeft inRight => ?_
    have inside : i < 8 := by simpa using inLeft
    have agree := same i inside
    rw [← buf_getD left inside, ← buf_getD right inside] at agree
    simpa only [List.getD_eq_getElem?_getD, List.getElem?_eq_getElem, inLeft, inRight,
      Option.getD_some] using agree

theorem toNat_lt_of_mem {bytes : Bytes} {digit : Nat}
    (member : digit ∈ bytes.map UInt8.toNat) : digit < 256 := by
  obtain ⟨byte, -, rfl⟩ := List.mem_map.mp member
  exact byte.toNat_lt

/-- Two keys share a slot exactly when they share their zero-padded prefix. -/
theorem hashToU64_eq_iff (left right : Bytes) :
    hashToU64 left = hashToU64 right ↔ SamePrefix left right := by
  rw [← buf_eq_iff]
  constructor
  · intro equal
    have bound : ∀ key, Nat.ofDigits 256 ((buf key).map UInt8.toNat) < 2 ^ 64 := by
      intro key
      have short := Nat.ofDigits_lt_base_pow_length (b := 256) (by norm_num)
        fun digit (member : digit ∈ (buf key).map UInt8.toNat) => toNat_lt_of_mem member
      simpa using short
    have numbers := congrArg UInt64.toNat equal
    rw [hashToU64, hashToU64, UInt64.toNat_ofNat_of_lt' (bound left),
      UInt64.toNat_ofNat_of_lt' (bound right)] at numbers
    have digits := Nat.ofDigits_inj_of_len_eq (by norm_num) (by simp)
      (fun _ => toNat_lt_of_mem) (fun _ => toNat_lt_of_mem) numbers
    exact (List.map_injective_iff.mpr fun _ _ => UInt8.toNat_inj.mp) digits
  · intro equal
    rw [hashToU64, hashToU64, equal]

end MemoryCache

/-! ## What an operation does to a slot -/

namespace MemoryCache

/-- A lookup keeps every entry but an expired one in its own slot. -/
theorem lookup_get (cache : MemoryCache) (key : Bytes) (now : Instant) (slot : UInt64) :
    (cache.get key now).1.cache.lookup slot = cache.cache.lookup slot ∨
      (cache.get key now).1.cache.lookup slot = none ∧ slot = hashToU64 key ∧
        ∃ entry, cache.cache.lookup slot = some entry ∧ entry.expiresAt ≤ now := by
  unfold get
  dsimp only
  split
  next entry found =>
    split
    · exact Or.inl rfl
    next expired =>
      by_cases same : slot = hashToU64 key
      · subst same
        exact Or.inr ⟨AList.lookup_erase .., rfl, entry, found, not_lt.mp expired⟩
      · exact Or.inl (AList.lookup_erase_ne same)
  · exact Or.inl rfl

theorem lookup_of_erase {table : HashMap UInt64 CachedValue} {target slot : UInt64}
    {entry : CachedValue} (kept : (table.erase target).lookup slot = some entry) :
    target ≠ slot ∧ table.lookup slot = some entry := by
  by_cases hit : slot = target
  · rw [hit, AList.lookup_erase] at kept
    cases kept
  · exact ⟨Ne.symm hit, by rwa [AList.lookup_erase_ne hit] at kept⟩

end MemoryCache

namespace CacheOp

variable {cache next : MemoryCache} {op : CacheOp} {slot : UInt64} {entry : CachedValue}

theorem step_set_iff {key value : Bytes} {ttl : Duration} {now : Instant} :
    step cache (.set key value ttl now) = some next ↔
      Instant.add? now ttl = some (now + ttl) ∧
        next = { cache with
          cache := cache.cache.insert (MemoryCache.hashToU64 key) ⟨value, now + ttl⟩ } := by
  simp only [step, MemoryCache.set, Option.bind_eq_bind, Option.bind_eq_some_iff,
    Option.pure_def, Option.some.injEq]
  constructor
  · rintro ⟨expiresAt, added, rfl⟩
    rw [← Instant.add?_eq_some added]
    exact ⟨added, rfl⟩
  · rintro ⟨added, rfl⟩
    exact ⟨now + ttl, added, rfl⟩

/-- An operation leaves the slots of other keys alone, apart from a flush or an
eviction. -/
theorem lookup_step_of_ne {key : Bytes} (stepped : step cache op = some next)
    (onKey : op.key? = some key) (elsewhere : slot ≠ MemoryCache.hashToU64 key) :
    next.cache.lookup slot = cache.cache.lookup slot := by
  cases op with
  | get target now =>
      cases onKey
      cases stepped
      rcases cache.lookup_get key now slot with same | ⟨-, here, -⟩
      · exact same
      · exact absurd here elsewhere
  | set target value ttl now =>
      cases onKey
      obtain ⟨-, rfl⟩ := step_set_iff.mp stepped
      exact AList.lookup_insert_ne elsewhere
  | delete target =>
      cases onKey
      cases stepped
      exact AList.lookup_erase_ne elsewhere
  | flush => cases onKey
  | evict target => cases onKey

/-- Inversion: what a slot holds after an operation was put there by it, or was
there before and neither a flush nor a set or delete hit the slot. -/
theorem lookup_of_step (stepped : step cache op = some next)
    (found : next.cache.lookup slot = some entry) :
    (∃ key value ttl now, op = .set key value ttl now ∧
        MemoryCache.hashToU64 key = slot ∧ entry = ⟨value, now + ttl⟩) ∨
      (cache.cache.lookup slot = some entry ∧ op ≠ .flush ∧
        ∀ key, op.writes key = true → MemoryCache.hashToU64 key ≠ slot) := by
  cases op with
  | get target now =>
      cases stepped
      rcases cache.lookup_get target now slot with same | ⟨removed, -⟩
      · exact Or.inr ⟨same.symm.trans found, by simp, by simp [writes]⟩
      · cases removed.symm.trans found
  | set target value ttl now =>
      obtain ⟨-, rfl⟩ := step_set_iff.mp stepped
      by_cases hit : slot = MemoryCache.hashToU64 target
      · subst hit
        simp only [AList.lookup_insert, Option.some.injEq] at found
        exact Or.inl ⟨target, value, ttl, now, rfl, rfl, found.symm⟩
      · rw [AList.lookup_insert_ne hit] at found
        refine Or.inr ⟨found, by simp, ?_⟩
        intro key isTarget
        simp only [writes, decide_eq_true_eq] at isTarget
        exact isTarget ▸ Ne.symm hit
  | delete target =>
      cases stepped
      obtain ⟨missed, held⟩ := MemoryCache.lookup_of_erase found
      refine Or.inr ⟨held, by simp, ?_⟩
      intro key isTarget
      simp only [writes, decide_eq_true_eq] at isTarget
      exact isTarget ▸ missed
  | flush =>
      cases stepped
      simp [MemoryCache.flush] at found
  | evict target =>
      cases stepped
      exact Or.inr ⟨(MemoryCache.lookup_of_erase found).2, by simp, by simp [writes]⟩

/-- The origin of an entry: the last set on its slot stored it, and since then
there was no flush and no set or delete on that slot. -/
theorem entry_origin {ops : List CacheOp} {maxMemoryMb : UInt64}
    (run : Machine.exec step (.new maxMemoryMb) ops = some cache)
    (found : cache.cache.lookup slot = some entry) :
    ∃ before key value ttl now after,
      ops = before ++ .set key value ttl now :: after ∧
      MemoryCache.hashToU64 key = slot ∧ entry = ⟨value, now + ttl⟩ ∧
      ∀ op ∈ after, op ≠ .flush ∧
        ∀ key, op.writes key = true → MemoryCache.hashToU64 key ≠ slot := by
  refine Machine.exec_history
    (fun ops cache => ∀ entry, cache.cache.lookup slot = some entry →
      ∃ before key value ttl now after,
        ops = before ++ .set key value ttl now :: after ∧
        MemoryCache.hashToU64 key = slot ∧ entry = ⟨value, now + ttl⟩ ∧
        ∀ op ∈ after, op ≠ .flush ∧
          ∀ key, op.writes key = true → MemoryCache.hashToU64 key ≠ slot)
    ?_ ?_ run entry found
  · intro entry found
    simp [MemoryCache.new] at found
  · intro ops cache op next _ ih stepped entry found
    rcases lookup_of_step stepped found with
      ⟨key, value, ttl, now, rfl, inSlot, stored⟩ | ⟨held, noFlush, noWrite⟩
    · exact ⟨ops, key, value, ttl, now, [], rfl, inSlot, stored, by simp⟩
    · obtain ⟨before, key, value, ttl, now, after, rfl, inSlot, stored, quiet⟩ :=
        ih entry held
      refine ⟨before, key, value, ttl, now, after ++ [op], by simp, inSlot, stored, ?_⟩
      intro other member
      rcases List.mem_append.mp member with earlier | last
      · exact quiet other earlier
      · rw [List.mem_singleton.mp last]
        exact ⟨noFlush, noWrite⟩

end CacheOp

theorem MemoryCache.get_eq_some_iff {cache : MemoryCache} {key value : Bytes}
    {now : Instant} :
    (cache.get key now).2 = some value ↔
      ∃ entry, cache.cache.lookup (hashToU64 key) = some entry ∧
        now < entry.expiresAt ∧ entry.data = value := by
  unfold get
  dsimp only
  split
  next entry found =>
    rw [found]
    split
    next live => simp [live]
    next expired => simp [expired]
  next absent => simp [absent]

/-! ## When the cache behaves as a map from keys -/

namespace MemoryCache

variable (used : Set Bytes)

/-- Histories whose operations only use keys of a given set. -/
def Over (ops : List CacheOp) : Prop := ∀ op ∈ ops, ∀ key, op.key? = some key → key ∈ used

/-- The last set or delete on a key. -/
def lastWrite (key : Bytes) (ops : List CacheOp) : Option CacheOp :=
  ops.reverse.find? (CacheOp.writes key)

/-- A lookup only ever returns what the last write on the same key has set. -/
def Faithful : Prop :=
  ∀ maxMemoryMb ops cache, Over used ops →
    Machine.exec CacheOp.step (.new maxMemoryMb) ops = some cache →
    ∀ key ∈ used, ∀ now value, (cache.get key now).2 = some value →
      ∃ ttl stored, lastWrite key ops = some (.set key value ttl stored)

/-- An operation on one key never changes what lookups and deletes of another
key report. -/
def Isolated : Prop :=
  ∀ maxMemoryMb ops cache, Over used ops →
    Machine.exec CacheOp.step (.new maxMemoryMb) ops = some cache →
    ∀ first ∈ used, ∀ second ∈ used, first ≠ second →
      ∀ op next, op.key? = some first → CacheOp.step cache op = some next →
        (∀ now, (next.get second now).2 = (cache.get second now).2) ∧
          (next.delete second).2 = (cache.delete second).2

/-- No two keys of the set share their first eight bytes, missing bytes counting
as zeros. -/
def Separated : Prop :=
  ∀ first ∈ used, ∀ second ∈ used, SamePrefix first second → first = second

variable {used}

theorem faithful_of_separated (separated : Separated used) : Faithful used := by
  intro maxMemoryMb ops cache within run key isUsed now value got
  obtain ⟨entry, found, -, rfl⟩ := get_eq_some_iff.mp got
  obtain ⟨before, other, stored, ttl, time, after, rfl, sameSlot, rfl, quiet⟩ :=
    CacheOp.entry_origin run found
  have otherUsed : other ∈ used :=
    within (.set other stored ttl time) (by simp) other rfl
  obtain rfl := separated other otherUsed key isUsed ((hashToU64_eq_iff _ _).mp sameSlot)
  refine ⟨ttl, time, ?_⟩
  have noLater : after.reverse.find? (CacheOp.writes other) = none := by
    rw [List.find?_eq_none]
    intro op member wrote
    exact (quiet op (List.mem_reverse.mp member)).2 other wrote rfl
  simp [lastWrite, noLater, CacheOp.writes]

theorem isolated_of_separated (separated : Separated used) : Isolated used := by
  intro maxMemoryMb ops cache _ _ first firstUsed second secondUsed different op next
    onFirst stepped
  have otherSlot : hashToU64 second ≠ hashToU64 first := by
    intro equal
    exact different (separated first firstUsed second secondUsed
      ((hashToU64_eq_iff _ _).mp equal.symm))
  have unchanged := CacheOp.lookup_step_of_ne stepped onFirst otherSlot
  constructor
  · intro now
    refine Option.ext fun value => ?_
    rw [get_eq_some_iff, get_eq_some_iff, unchanged]
  · simp only [delete, unchanged]

/-- The history that shows two keys of one slot apart: set one of them. -/
theorem get_of_samePrefix {first second : Bytes} (same : SamePrefix first second)
    (value : Bytes) :
    ∃ cache, CacheOp.step (.new 1) (.set first value 1 0) = some cache ∧
      (cache.get second 0).2 = some value := by
  refine ⟨_, CacheOp.step_set_iff.mpr ⟨by decide, rfl⟩, ?_⟩
  rw [get_eq_some_iff, ← (hashToU64_eq_iff first second).mpr same]
  exact ⟨⟨value, 1⟩, AList.lookup_insert _, Nat.one_pos, rfl⟩

theorem separated_of_faithful (faithful : Faithful used) : Separated used := by
  intro first firstUsed second secondUsed same
  by_contra different
  obtain ⟨cache, stepped, got⟩ := get_of_samePrefix same []
  have run : Machine.exec CacheOp.step (.new 1) [.set first [] 1 0] = some cache := by
    simpa [Machine.exec_cons_iff] using stepped
  obtain ⟨ttl, time, last⟩ := faithful 1 _ cache
    (by simpa [Over, CacheOp.key?] using firstUsed) run second secondUsed 0 [] got
  simp [lastWrite, CacheOp.writes, different] at last

theorem separated_of_isolated (isolated : Isolated used) : Separated used := by
  intro first firstUsed second secondUsed same
  by_contra different
  obtain ⟨cache, stepped, got⟩ := get_of_samePrefix same []
  have unchanged := (isolated 1 [] _ (by simp [Over]) rfl first firstUsed second secondUsed
    different (.set first [] 1 0) cache rfl stepped).1 0
  rw [got, eq_comm, get_eq_some_iff] at unchanged
  simp [new] at unchanged

/-- Over a set of keys the cache behaves as a map from keys, in either reading,
exactly when no two of its keys share their zero-padded eight-byte prefix. -/
theorem faithful_iff_separated (used : Set Bytes) :
    (Faithful used ↔ Separated used) ∧ (Isolated used ↔ Separated used) :=
  ⟨⟨separated_of_faithful, faithful_of_separated⟩,
    ⟨separated_of_isolated, isolated_of_separated⟩⟩

/-- Two keys that differ in their ninth byte: a value set under one is returned
for the other, which was never set, and deleting the other reports success. -/
theorem aliasing_request_ids :
    let first := asBytes "request-1"
    let second := asBytes "request-2"
    first ≠ second ∧ ¬ Faithful Set.univ ∧ ¬ Isolated Set.univ ∧
      ∃ cache, Machine.exec CacheOp.step (.new 64) [.set first [1] (.fromSecs 60) 0] =
        some cache ∧
        (cache.get second 1).2 = some [1] ∧ (cache.delete second).2 = true := by
  have different : asBytes "request-1" ≠ asBytes "request-2" := by decide
  have same : SamePrefix (asBytes "request-1") (asBytes "request-2") := by decide
  have notSeparated : ¬ Separated Set.univ := fun separated =>
    different (separated _ (Set.mem_univ _) _ (Set.mem_univ _) same)
  refine ⟨different, fun faithful => notSeparated (separated_of_faithful faithful),
    fun isolated => notSeparated (separated_of_isolated isolated), _, rfl, ?_, ?_⟩
  · decide
  · decide

end MemoryCache

end SorobanGate
