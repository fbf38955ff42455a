import SorobanGate.Cache.Memory
import Mathlib.Algebra.Order.BigOperators.Group.List
import Mathlib.Algebra.Group.Action.Defs

/-!
# The memory budget

A budget in bytes is turned into a number of entries at one KiB each, and nothing weighs
the entries.  The budget therefore holds as long as no value is longer than that.
-/

namespace SorobanGate

/-- The value that an operation stores. -/
def CacheOp.value? : CacheOp → Option Bytes
  | .set _ value _ _ => some value
  | _ => none

namespace MemoryCache

/-- The number of value bytes that the cache holds. -/
def valueBytes (cache : MemoryCache) : Nat :=
  (cache.cache.entries.map fun entry => entry.2.data.length).sum

/-- An operation, with what the store behind the cache evicts in its course. -/
structure Round where
  op : CacheOp
  evicted : List UInt64
  deriving DecidableEq, Repr

def Round.ops (round : Round) : List CacheOp := round.op :: round.evicted.map .evict

/-- Without a weigher the store never holds more entries than its capacity. -/
def Round.step (cache : MemoryCache) (round : Round) : Option MemoryCache :=
  (Machine.exec CacheOp.step cache round.ops).filter fun next =>
    next.cache.entries.length ≤ next.maxCapacity.toNat

/-- All values that are stored belong to a set. -/
def Within (values : Set Bytes) (rounds : List Round) : Prop :=
  ∀ round ∈ rounds, ∀ value, round.op.value? = some value → value ∈ values

/-- No history that stores these values only makes the cache exceed its budget. -/
def Respects (maxMemoryMb : UInt64) (values : Set Bytes) : Prop :=
  ∀ rounds cache, Within values rounds →
    Machine.exec Round.step (.new maxMemoryMb) rounds = some cache →
    cache.valueBytes ≤ maxMemoryMb.toNat * 2 ^ 20

theorem Round.step_iff {cache next : MemoryCache} {round : Round} :
    round.step cache = some next ↔
      Machine.exec CacheOp.step cache round.ops = some next ∧
        next.cache.entries.length ≤ next.maxCapacity.toNat := by
  simp [Round.step, Option.filter_eq_some_iff]

/-! ## Small values fit -/

/-- Every entry holds one of the values. -/
def Holds (values : Set Bytes) (cache : MemoryCache) : Prop :=
  ∀ slot entry, cache.cache.lookup slot = some entry → entry.data ∈ values

variable {values : Set Bytes} {cache next : MemoryCache} {maxMemoryMb : UInt64}

theorem Holds.step {op : CacheOp} (holds : Holds values cache)
    (stored : ∀ value, op.value? = some value → value ∈ values)
    (stepped : op.step cache = some next) : Holds values next := by
  intro slot entry found
  rcases CacheOp.lookup_of_step stepped found with
    ⟨key, value, ttl, now, rfl, -, rfl⟩ | ⟨before, -⟩
  · exact stored value rfl
  · exact holds slot entry before

theorem maxCapacity_step {op : CacheOp} (stepped : op.step cache = some next) :
    next.maxCapacity = cache.maxCapacity := by
  cases op with
  | get key now =>
      cases stepped
      simp only [get]
      split
      · split <;> rfl
      · rfl
  | set key value ttl now =>
      obtain ⟨-, rfl⟩ := CacheOp.step_set_iff.mp stepped
      rfl
  | delete key =>
      cases stepped
      rfl
  | flush =>
      cases stepped
      rfl
  | evict slot =>
      cases stepped
      rfl

/-- What is known of a cache between two rounds. -/
structure Bounded (maxCapacity : UInt64) (values : Set Bytes) (cache : MemoryCache) : Prop where
  capacity : cache.maxCapacity = maxCapacity
  holds : Holds values cache
  count : cache.cache.entries.length ≤ maxCapacity.toNat

theorem Bounded.step {maxCapacity : UInt64} {round : Round}
    (bounded : Bounded maxCapacity values cache)
    (stored : ∀ value, round.op.value? = some value → value ∈ values)
    (stepped : round.step cache = some next) : Bounded maxCapacity values next := by
  obtain ⟨run, count⟩ := Round.step_iff.mp stepped
  have allowed : ∀ op ∈ round.ops, ∀ value, op.value? = some value → value ∈ values := by
    intro op member
    rcases List.mem_cons.mp member with rfl | isEviction
    · exact stored
    · obtain ⟨slot, -, rfl⟩ := List.mem_map.mp isEviction
      intro value isValue
      cases isValue
  obtain ⟨capacity, holds⟩ : next.maxCapacity = maxCapacity ∧ Holds values next := by
    refine Machine.exec_invariant_within
      (fun reached => reached.maxCapacity = maxCapacity ∧ Holds values reached) ?_ allowed
      ⟨bounded.capacity, bounded.holds⟩ run
    rintro state op after permitted ⟨sameCapacity, held⟩ opStepped
    exact ⟨(maxCapacity_step opStepped).trans sameCapacity, held.step permitted opStepped⟩
  exact ⟨capacity, holds, capacity ▸ count⟩

theorem bounded_of_run {rounds : List Round} (within : Within values rounds)
    (run : Machine.exec Round.step (.new maxMemoryMb) rounds = some cache) :
    Bounded (new maxMemoryMb).maxCapacity values cache := by
  refine Machine.exec_invariant_within (Bounded (new maxMemoryMb).maxCapacity values)
    (fun state round after allowed bounded stepped => bounded.step allowed stepped) within ?_ run
  refine ⟨rfl, ?_, Nat.zero_le _⟩
  intro slot entry found
  cases found

theorem Bounded.valueBytes_le {maxCapacity : UInt64} {size : Nat}
    (bounded : Bounded maxCapacity values cache)
    (small : ∀ value ∈ values, value.length ≤ size) :
    cache.valueBytes ≤ maxCapacity.toNat * size := by
  have each : ∀ length ∈ cache.cache.entries.map fun entry => entry.2.data.length,
      length ≤ size := by
    intro length member
    obtain ⟨⟨slot, entry⟩, isEntry, rfl⟩ := List.mem_map.mp member
    exact small _ (bounded.holds slot entry (AList.mem_lookup_iff.mpr isEntry))
  have total := List.sum_le_card_nsmul _ size each
  rw [List.length_map, smul_eq_mul] at total
  exact total.trans (Nat.mul_le_mul_right size bounded.count)

theorem maxCapacity_new (noOverflow : maxMemoryMb.toNat * 2 ^ 20 < 2 ^ 64) :
    (new maxMemoryMb).maxCapacity.toNat = maxMemoryMb.toNat * 1024 := by
  simp only [new, UInt64.toNat_div, UInt64.toNat_mul, UInt64.reduceToNat]
  omega

/-! ## Long values do not -/

theorem hashToU64_surjective : Function.Surjective hashToU64 := by
  intro slot
  have short : (Nat.digits 256 slot.toNat).length ≤ 8 :=
    (Nat.digits_length_le_iff (by norm_num) _).mpr slot.toNat_lt
  have bytes : ((Nat.digits 256 slot.toNat).map UInt8.ofNat).map UInt8.toNat =
      Nat.digits 256 slot.toNat := by
    rw [List.map_map]
    refine (List.map_congr_left fun digit member => ?_).trans (List.map_id _)
    exact UInt8.toNat_ofNat_of_lt' (Nat.digits_lt_base (by norm_num) member)
  refine ⟨(Nat.digits 256 slot.toNat).map UInt8.ofNat, ?_⟩
  simp only [hashToU64, buf, List.length_map, Nat.min_eq_left short, List.map_append,
    List.map_take, bytes, List.take_length, List.map_replicate, UInt8.toNat_zero,
    Nat.ofDigits_append_replicate_zero, Nat.ofDigits_digits, UInt64.ofNat_toNat]

/-- Store a value under one key of each of the first slots. -/
def fill (key : UInt64 → Bytes) (value : Bytes) (count : Nat) : List Round :=
  (List.range count).map fun slot => ⟨.set (key (.ofNat slot)) value 1 0, []⟩

/-- A cache that holds a value in each of the first slots. -/
structure Filled (value : Bytes) (count : Nat) (cache : MemoryCache) : Prop where
  slots : ∀ slot ∈ cache.cache, slot.toNat < count
  length : cache.cache.entries.length = count
  bytes : cache.valueBytes = count * value.length

/-- As long as there is room, filling the slots succeeds. -/
theorem exists_filled {key : UInt64 → Bytes} (isKey : ∀ slot, hashToU64 (key slot) = slot)
    (value : Bytes) {count : Nat} (room : count ≤ (new maxMemoryMb).maxCapacity.toNat) :
    ∃ cache, Machine.exec Round.step (new maxMemoryMb) (fill key value count) = some cache ∧
      cache.maxCapacity = (new maxMemoryMb).maxCapacity ∧ Filled value count cache := by
  induction count with
  | zero =>
      refine ⟨_, rfl, rfl, ?_, rfl, ?_⟩
      · intro slot member
        exact absurd member (AList.notMem_empty slot)
      · simp [valueBytes, new]
  | succ count ih =>
      obtain ⟨cache, run, capacity, filled⟩ := ih (Nat.le_of_succ_le room)
      have inRange : (UInt64.ofNat count).toNat = count :=
        UInt64.toNat_ofNat_of_lt'
          ((Nat.lt_of_succ_le room).trans (new maxMemoryMb).maxCapacity.toNat_lt)
      have isFree : UInt64.ofNat count ∉ cache.cache := by
        intro member
        have inside := filled.slots _ member
        omega
      have grown := AList.entries_insert_of_notMem (b := (⟨value, 1⟩ : CachedValue)) isFree
      refine ⟨{ cache with cache := cache.cache.insert (.ofNat count) ⟨value, 1⟩ }, ?_,
        capacity, ?_, ?_, ?_⟩
      · rw [fill, List.range_succ, List.map_append, List.map_singleton]
        refine Machine.exec_concat_iff.mpr ⟨cache, run, Round.step_iff.mpr ⟨?_, ?_⟩⟩
        · refine Machine.exec_cons_iff.mpr ⟨_, CacheOp.step_set_iff.mpr ⟨by decide, ?_⟩, rfl⟩
          rw [isKey]
        · rw [grown, List.length_cons, filled.length, capacity]
          exact room
      · intro slot member
        rcases (AList.mem_insert _).mp member with rfl | before
        · omega
        · exact (filled.slots slot before).trans (Nat.lt_succ_self count)
      · rw [grown, List.length_cons, filled.length]
      · have before := filled.bytes
        rw [valueBytes] at before
        rw [valueBytes, grown, List.map_cons, List.sum_cons, before]
        ring

theorem within_fill {value : Bytes} (isValue : value ∈ values) (key : UInt64 → Bytes)
    (count : Nat) : Within values (fill key value count) := by
  intro round member stored isStored
  obtain ⟨slot, -, rfl⟩ := List.mem_map.mp member
  cases isStored
  exact isValue

/-- The budget is respected exactly when it is zero or no value is longer than one KiB. -/
theorem respects_iff (noOverflow : maxMemoryMb.toNat * 2 ^ 20 < 2 ^ 64) :
    Respects maxMemoryMb values ↔
      maxMemoryMb = 0 ∨ ∀ value ∈ values, value.length ≤ 1024 := by
  have capacity := maxCapacity_new noOverflow
  constructor
  · intro respects
    by_contra neither
    push Not at neither
    obtain ⟨positive, value, isValue, long⟩ := neither
    -- Fill the cache with copies of the long value.
    obtain ⟨key, isKey⟩ := hashToU64_surjective.hasRightInverse
    obtain ⟨cache, run, -, filled⟩ :=
      exists_filled isKey value (le_refl (new maxMemoryMb).maxCapacity.toNat)
    have fits := respects _ cache (within_fill isValue key _) run
    rw [filled.bytes, capacity] at fits
    have some : 0 < maxMemoryMb.toNat :=
      Nat.pos_of_ne_zero fun zero => positive (UInt64.toNat_inj.mp zero)
    have exceeds : maxMemoryMb.toNat * 1024 * 1024 < maxMemoryMb.toNat * 1024 * value.length :=
      Nat.mul_lt_mul_of_pos_left long (by omega)
    omega
  · rintro holds rounds cache within run
    have bounded := bounded_of_run within run
    rcases holds with rfl | small
    · have empty : cache.cache.entries = [] := by
        have none := bounded.count
        rw [capacity] at none
        exact List.length_eq_zero_iff.mp (Nat.le_zero.mp none)
      simp [valueBytes, empty]
    · have total := bounded.valueBytes_le small
      rw [capacity] at total
      exact total.trans_eq (Nat.mul_assoc _ 1024 1024)

/-- Values of at most one KiB keep the default budget. -/
theorem respects_small : Respects 512 {value | value.length ≤ 1024} :=
  (respects_iff (by decide)).mpr (Or.inr fun _ small => small)

theorem exists_single (key value : Bytes) {ttl : Duration} {now : Instant}
    (added : Instant.add? now ttl = some (now + ttl))
    (room : 0 < (new maxMemoryMb).maxCapacity.toNat) :
    ∃ cache,
      Machine.exec Round.step (new maxMemoryMb) [⟨.set key value ttl now, []⟩] = some cache ∧
      cache.valueBytes = value.length := by
  obtain ⟨cache, stepped⟩ : ∃ cache,
      CacheOp.step (new maxMemoryMb) (.set key value ttl now) = some cache :=
    ⟨_, CacheOp.step_set_iff.mpr ⟨added, rfl⟩⟩
  refine ⟨cache, ?_, ?_⟩
  · refine Machine.exec_cons_iff.mpr ⟨cache, Round.step_iff.mpr ⟨?_, ?_⟩, rfl⟩
    · exact Machine.exec_cons_iff.mpr ⟨cache, stepped, rfl⟩
    · rw [maxCapacity_step stepped]
      obtain ⟨-, rfl⟩ := CacheOp.step_set_iff.mp stepped
      exact room
  · obtain ⟨-, rfl⟩ := CacheOp.step_set_iff.mp stepped
    exact Nat.add_zero _

/-- One value of more than one MiB exceeds a budget of one MiB. -/
theorem long_value_exceeds :
    ∃ cache,
      Machine.exec Round.step (.new 1)
        [⟨.set (asBytes "request") (List.replicate 1048577 0) (.fromSecs 60) 0, []⟩] =
          some cache ∧
      1 * 2 ^ 20 < cache.valueBytes := by
  have added : Instant.add? 0 (.fromSecs 60) = some (0 + Duration.fromSecs 60) := by
    decide
  have room : 0 < (new 1).maxCapacity.toNat := by decide
  obtain ⟨cache, run, held⟩ := exists_single (asBytes "request") (List.replicate 1048577 0)
    added room
  refine ⟨cache, run, ?_⟩
  rw [held, List.length_replicate]
  decide

end MemoryCache

end SorobanGate
