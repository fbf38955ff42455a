import SorobanGate.Basic
import SorobanGate.Library.Machine
import SorobanGate.Library.Refill
import Mathlib.Data.Rat.Cast.Order

/-!
# Token bucket rate limiter

`check_rate` over the arithmetic it computes with.  The source uses binary
floating point; the model takes the few operations it needs as a parameter, so
that results which do not depend on rounding hold for any of them, and results
about exact amounts are stated over the rationals.
-/

namespace SorobanGate

/-- The numeric operations of `check_rate`. -/
structure TokenArith where
  Token : Type
  ofU32 : UInt32 → Token
  one : Token
  asSecs : Duration → Token
  add : Token → Token → Token
  sub : Token → Token → Token
  mul : Token → Token → Token
  min : Token → Token → Token
  ge : Token → Token → Bool

/-- Exact rational arithmetic. -/
@[reducible] def TokenArith.rat : TokenArith where
  Token := ℚ
  ofU32 value := value.toNat
  one := 1
  asSecs duration := duration / 1000000000
  add := (· + ·)
  sub := (· - ·)
  mul := (· * ·)
  min := Min.min
  ge left right := decide (right ≤ left)

structure Bucket (arith : TokenArith) where
  tokens : arith.Token
  lastRefill : Instant

/-- The limiter: one bucket for each rate key seen so far. -/
abbrev TokenBucketRateLimiter (arith : TokenArith) := HashMap String (Bucket arith)

/-- The rejection of a call. -/
structure RateLimited where
  deriving DecidableEq, Repr

namespace TokenBucketRateLimiter

variable {arith : TokenArith}

def new (arith : TokenArith) : TokenBucketRateLimiter arith := ∅

/-- Refill the bucket of a key, creating it full, and take a token if there is one. -/
def checkRate (limiter : TokenBucketRateLimiter arith) (key : String)
    (requestsPerSecond burst : UInt32) (now : Instant) :
    TokenBucketRateLimiter arith × Except RateLimited Unit :=
  let bucket := (limiter.lookup key).getD ⟨arith.ofU32 burst, now⟩
  let elapsed := arith.asSecs (now - bucket.lastRefill)
  let tokens :=
    arith.min (arith.add bucket.tokens (arith.mul elapsed (arith.ofU32 requestsPerSecond)))
      (arith.ofU32 burst)
  if arith.ge tokens arith.one then
    (limiter.insert key ⟨arith.sub tokens arith.one, now⟩, .ok ())
  else (limiter.insert key ⟨tokens, now⟩, .error ⟨⟩)

/-- What a call finds in its bucket: what is left there, refilled since the last call. -/
def level (limiter : TokenBucketRateLimiter arith) (key : String)
    (requestsPerSecond burst : UInt32) (now : Instant) : arith.Token :=
  let bucket := (limiter.lookup key).getD ⟨arith.ofU32 burst, now⟩
  arith.min
    (arith.add bucket.tokens
      (arith.mul (arith.asSecs (now - bucket.lastRefill)) (arith.ofU32 requestsPerSecond)))
    (arith.ofU32 burst)

theorem isOk_checkRate (limiter : TokenBucketRateLimiter arith) (key : String)
    (requestsPerSecond burst : UInt32) (now : Instant) :
    (limiter.checkRate key requestsPerSecond burst now).2.isOk =
      arith.ge (limiter.level key requestsPerSecond burst now) arith.one := by
  unfold checkRate level
  dsimp only
  split
  next enough =>
    rw [enough]
    rfl
  next short =>
    rw [Bool.not_eq_true] at short
    rw [short]
    rfl

theorem lookup_checkRate_of_ne (limiter : TokenBucketRateLimiter arith)
    {key other : String} (different : other ≠ key)
    (requestsPerSecond burst : UInt32) (now : Instant) :
    (limiter.checkRate key requestsPerSecond burst now).1.lookup other =
      limiter.lookup other := by
  unfold checkRate
  dsimp only
  split <;> exact AList.lookup_insert_ne different

/-- What a call does to its own bucket, and its verdict, depend on that bucket only. -/
theorem checkRate_congr {left right : TokenBucketRateLimiter arith} {key : String}
    (same : left.lookup key = right.lookup key)
    (requestsPerSecond burst : UInt32) (now : Instant) :
    (left.checkRate key requestsPerSecond burst now).1.lookup key =
        (right.checkRate key requestsPerSecond burst now).1.lookup key ∧
      (left.checkRate key requestsPerSecond burst now).2 =
        (right.checkRate key requestsPerSecond burst now).2 := by
  unfold checkRate
  rw [same]
  dsimp only
  split <;> simp

end TokenBucketRateLimiter

/-! ## Draining a bucket

What an arithmetic must compute exactly for a bucket to be drained at one
instant: the whole numbers of tokens up to the burst.  Binary floating point
with 53 bits does, and so do the rationals. -/

/-- Whole numbers of tokens are handled exactly. -/
structure TokenArith.IntegerExact (arith : TokenArith) (nat : Nat → arith.Token) : Prop where
  ofU32 : ∀ value, arith.ofU32 value = nat value.toNat
  /-- No time has passed, so nothing is refilled. -/
  refill : ∀ count (rate burst : UInt32), count ≤ burst.toNat →
    arith.min (arith.add (nat count) (arith.mul (arith.asSecs 0) (arith.ofU32 rate)))
      (arith.ofU32 burst) = nat count
  geOne : ∀ count < 2 ^ 32, arith.ge (nat count) arith.one = decide (1 ≤ count)
  subOne : ∀ count < 2 ^ 32, 1 ≤ count → arith.sub (nat count) arith.one = nat (count - 1)

theorem TokenArith.rat_integerExact :
    TokenArith.rat.IntegerExact (fun count => ((count : Nat) : ℚ)) where
  ofU32 _ := rfl
  refill count rate burst bounded := by
    simp only [TokenArith.rat, Nat.cast_zero, zero_div, zero_mul, add_zero]
    exact min_eq_left (Nat.cast_le.mpr bounded)
  geOne count _ := by
    simp [Nat.one_le_cast]
  subOne count _ positive := by
    simp [TokenArith.rat, Nat.cast_sub positive]

/-- The bucket of a key holds a whole number of tokens at the instant of its last
call; a bucket that was never used is full. -/
def TokenBucketRateLimiter.Holds {arith : TokenArith} (nat : Nat → arith.Token)
    (limiter : TokenBucketRateLimiter arith) (key : String) (burst : UInt32) (now : Instant)
    (count : Nat) : Prop :=
  (limiter.lookup key).getD ⟨arith.ofU32 burst, now⟩ = ⟨nat count, now⟩

/-- A call at the same instant takes one token, and is rejected when none is left. -/
theorem TokenBucketRateLimiter.Holds.checkRate {arith : TokenArith}
    {nat : Nat → arith.Token} (exact : arith.IntegerExact nat)
    {limiter : TokenBucketRateLimiter arith} {key : String} {burst : UInt32} {now : Instant}
    {count : Nat} (holds : limiter.Holds nat key burst now count)
    (bounded : count ≤ burst.toNat) (requestsPerSecond : UInt32) :
    (limiter.checkRate key requestsPerSecond burst now).2 =
        (if 1 ≤ count then .ok () else .error ⟨⟩) ∧
      (limiter.checkRate key requestsPerSecond burst now).1.Holds nat key burst now
        (count - 1) := by
  have small : count < 2 ^ 32 := bounded.trans_lt burst.toNat_lt
  unfold Holds at holds
  unfold TokenBucketRateLimiter.checkRate
  rw [holds]
  simp only [Nat.sub_self, exact.refill count requestsPerSecond burst bounded,
    exact.geOne count small, decide_eq_true_eq]
  by_cases positive : 1 ≤ count
  · simp [positive, Holds, exact.subOne count small positive]
  · obtain rfl : count = 0 := by omega
    simp [Holds]

/-! ## Histories of calls -/

/-- A call of `check_rate`. -/
structure RateCall where
  key : String
  requestsPerSecond : UInt32
  burst : UInt32
  now : Instant
  deriving DecidableEq, Repr

namespace RateCall

variable {arith : TokenArith}

/-- The limiter as a machine driven by calls. -/
def step (limiter : TokenBucketRateLimiter arith) (call : RateCall) :
    Option (TokenBucketRateLimiter arith) :=
  some (limiter.checkRate call.key call.requestsPerSecond call.burst call.now).1

/-- Whether a call is admitted. -/
def admitted (limiter : TokenBucketRateLimiter arith) (call : RateCall) : Bool :=
  (limiter.checkRate call.key call.requestsPerSecond call.burst call.now).2.isOk

/-- Seconds since the clock's origin. -/
def secs (instant : Instant) : ℚ := instant / 1000000000

/-- What the calls on one key show: when they are made and whether they are
admitted. -/
def shown (key : String) (limiter : TokenBucketRateLimiter arith) (call : RateCall) :
    List (ℚ × Bool) :=
  if call.key = key then [(secs call.now, admitted limiter call)] else []

/-- The verdicts on the calls of one key in a history of calls on any keys. -/
def history (arith : TokenArith) (key : String) (calls : List RateCall) : List (ℚ × Bool) :=
  Machine.trace step (shown key) (.new arith) calls

end RateCall

/-! ## Exactness over the rationals -/

open RateCall (secs)

/-- A bucket as a capped store. -/
def Bucket.toStore (bucket : Bucket .rat) : Refill.Store ℚ :=
  ⟨bucket.tokens, secs bucket.lastRefill⟩

theorem RateCall.secs_sub {earlier later : Instant} (ordered : earlier ≤ later) :
    ((later - earlier : Nat) : ℚ) / 1000000000 = secs later - secs earlier := by
  simp only [secs]
  rw [Nat.cast_sub ordered]
  ring

namespace TokenBucketRateLimiter

/-- The refilled tokens of a call are what the capped store makes available. -/
theorem tokens_eq_available {limiter : TokenBucketRateLimiter .rat} {key : String}
    (requestsPerSecond burst : UInt32) {now : Instant}
    (ordered : ∀ bucket, limiter.lookup key = some bucket → bucket.lastRefill ≤ now) :
    let bucket := (limiter.lookup key).getD ⟨TokenArith.rat.ofU32 burst, now⟩
    min (bucket.tokens + TokenArith.rat.asSecs (now - bucket.lastRefill) *
        requestsPerSecond.toNat) (burst.toNat : ℚ) =
      Refill.available (burst.toNat : ℚ) requestsPerSecond.toNat
        ((limiter.lookup key).map Bucket.toStore) (secs now) := by
  cases found : limiter.lookup key with
  | none => simp [Refill.available]
  | some bucket =>
      have elapsed := RateCall.secs_sub (ordered bucket found)
      simp only [Option.getD_some, Option.map_some, Refill.available, Bucket.toStore,
        elapsed]

/-- Over the rationals `check_rate` is a call on a capped store. -/
theorem checkRate_rat {limiter : TokenBucketRateLimiter .rat} {key : String}
    (requestsPerSecond burst : UInt32) {now : Instant}
    (ordered : ∀ bucket, limiter.lookup key = some bucket → bucket.lastRefill ≤ now) :
    let result := Refill.call (burst.toNat : ℚ) requestsPerSecond.toNat
      ((limiter.lookup key).map Bucket.toStore) (secs now)
    (limiter.checkRate key requestsPerSecond burst now).2.isOk = result.2 ∧
      ∃ bucket, (limiter.checkRate key requestsPerSecond burst now).1.lookup key = some bucket ∧
        bucket.lastRefill = now ∧ bucket.toStore = result.1 := by
  have tokens := tokens_eq_available requestsPerSecond burst ordered
  dsimp only at tokens ⊢
  unfold checkRate
  dsimp only
  rw [tokens]
  by_cases enough : 1 ≤ Refill.available (burst.toNat : ℚ) requestsPerSecond.toNat
      ((limiter.lookup key).map Bucket.toStore) (secs now)
  · rw [Refill.call_of_le enough, if_pos (by simpa using enough)]
    exact ⟨rfl, _, AList.lookup_insert _, rfl, rfl⟩
  · rw [Refill.call_of_lt enough, if_neg (by simpa using enough)]
    exact ⟨rfl, _, AList.lookup_insert _, rfl, rfl⟩

end TokenBucketRateLimiter

namespace RateCall

/-- What a history of calls on any keys says about the bucket of one of them. -/
structure Tracks (key : String) (requestsPerSecond burst : UInt32)
    (calls : List RateCall) (limiter : TokenBucketRateLimiter .rat) : Prop where
  agrees : Refill.Agrees (burst.toNat : ℚ) requestsPerSecond.toNat
    (history .rat key calls) ((limiter.lookup key).map Bucket.toStore)
  exact : Refill.Exact (burst.toNat : ℚ) requestsPerSecond.toNat (history .rat key calls)
  recent : ∀ bucket, limiter.lookup key = some bucket →
    ∃ call ∈ calls, call.now = bucket.lastRefill

theorem history_concat {arith : TokenArith} {key : String} {calls : List RateCall}
    {limiter : TokenBucketRateLimiter arith} (call : RateCall)
    (run : Machine.exec step (.new arith) calls = some limiter) :
    history arith key (calls ++ [call]) =
      history arith key calls ++ shown key limiter call :=
  Machine.trace_concat run

theorem Tracks.other {key : String} {requestsPerSecond burst : UInt32}
    {calls : List RateCall} {limiter : TokenBucketRateLimiter .rat} {call : RateCall}
    (tracks : Tracks key requestsPerSecond burst calls limiter)
    (run : Machine.exec step (.new .rat) calls = some limiter) (offKey : call.key ≠ key) :
    Tracks key requestsPerSecond burst (calls ++ [call])
      (limiter.checkRate call.key call.requestsPerSecond call.burst call.now).1 := by
  have unchanged := limiter.lookup_checkRate_of_ne (Ne.symm offKey)
    call.requestsPerSecond call.burst call.now
  have sameHistory : history .rat key (calls ++ [call]) = history .rat key calls := by
    rw [history_concat call run]
    simp [shown, offKey]
  refine ⟨?_, ?_, ?_⟩
  · rw [sameHistory, unchanged]
    exact tracks.agrees
  · rw [sameHistory]
    exact tracks.exact
  · rw [unchanged]
    intro bucket found
    obtain ⟨earlier, member, equal⟩ := tracks.recent bucket found
    exact ⟨earlier, List.mem_append_left _ member, equal⟩

theorem Tracks.own {calls : List RateCall} {limiter : TokenBucketRateLimiter .rat}
    {call : RateCall}
    (tracks : Tracks call.key call.requestsPerSecond call.burst calls limiter)
    (run : Machine.exec step (.new .rat) calls = some limiter)
    (ordered : ∀ earlier ∈ calls, earlier.now ≤ call.now) :
    Tracks call.key call.requestsPerSecond call.burst (calls ++ [call])
      (limiter.checkRate call.key call.requestsPerSecond call.burst call.now).1 := by
  have notLater : ∀ bucket, limiter.lookup call.key = some bucket →
      bucket.lastRefill ≤ call.now := by
    intro bucket found
    obtain ⟨earlier, member, equal⟩ := tracks.recent bucket found
    exact equal ▸ ordered earlier member
  obtain ⟨verdict, bucket, found, refilled, stored⟩ :=
    TokenBucketRateLimiter.checkRate_rat call.requestsPerSecond call.burst notLater
  have extended : history .rat call.key (calls ++ [call]) =
      history .rat call.key calls ++ [(secs call.now,
        (Refill.call (call.burst.toNat : ℚ) call.requestsPerSecond.toNat
          ((limiter.lookup call.key).map Bucket.toStore) (secs call.now)).2)] := by
    rw [history_concat call run]
    simp only [shown, if_true, admitted, verdict]
  refine ⟨?_, ?_, ?_⟩
  · rw [extended, found, Option.map_some, stored]
    exact Refill.agrees_call tracks.agrees (secs call.now)
  · rw [extended]
    exact Refill.exact_concat tracks.exact (Refill.call_snd_iff tracks.agrees _)
  · intro other isOther
    rw [found] at isOther
    cases isOther
    exact ⟨call, by simp, refilled.symm⟩

/-- One more call, not earlier than the ones before it, keeps a key's bucket
exact when calls on that key use one rate and one burst. -/
theorem Tracks.concat {key : String} {requestsPerSecond burst : UInt32}
    {calls : List RateCall} {limiter : TokenBucketRateLimiter .rat} {call : RateCall}
    (tracks : Tracks key requestsPerSecond burst calls limiter)
    (run : Machine.exec step (.new .rat) calls = some limiter)
    (ordered : ∀ earlier ∈ calls, earlier.now ≤ call.now)
    (uniform : call.key = key →
      call.requestsPerSecond = requestsPerSecond ∧ call.burst = burst) :
    Tracks key requestsPerSecond burst (calls ++ [call])
      (limiter.checkRate call.key call.requestsPerSecond call.burst call.now).1 := by
  by_cases onKey : call.key = key
  · obtain ⟨rfl, rfl⟩ := uniform onKey
    subst onKey
    exact tracks.own run ordered
  · exact tracks.other run onKey

/-- Along every history at non-decreasing times the bucket of a key that is always
called with one rate and one burst stays exact. -/
theorem tracks_of_run {key : String} {requestsPerSecond burst : UInt32}
    {calls : List RateCall} {limiter : TokenBucketRateLimiter .rat}
    (ordered : calls.Pairwise fun earlier later => earlier.now ≤ later.now)
    (uniform : ∀ call ∈ calls, call.key = key →
      call.requestsPerSecond = requestsPerSecond ∧ call.burst = burst)
    (run : Machine.exec step (.new .rat) calls = some limiter) :
    Tracks key requestsPerSecond burst calls limiter := by
  refine Machine.exec_history
    (fun calls limiter =>
      (calls.Pairwise fun earlier later => earlier.now ≤ later.now) →
      (∀ call ∈ calls, call.key = key →
        call.requestsPerSecond = requestsPerSecond ∧ call.burst = burst) →
      Tracks key requestsPerSecond burst calls limiter)
    ?_ ?_ run ordered uniform
  · intro _ _
    exact ⟨Refill.agrees_nil _ _, Refill.exact_nil _ _, by simp [TokenBucketRateLimiter.new]⟩
  · intro calls limiter call next prior ih stepped ordered uniform
    cases stepped
    rw [List.pairwise_append] at ordered
    have tracks := ih ordered.1 fun earlier member =>
      uniform earlier (List.mem_append_left _ member)
    exact tracks.concat prior (fun earlier member => ordered.2.2 earlier member call (by simp))
      (uniform call (by simp))

/-- Token bucket exactness.  In every history of calls at non-decreasing times, a
call on a key that is always used with one rate and one burst is admitted if and
only if no window that starts at an earlier call on that key is overdrawn by it;
hence no window of time is ever overdrawn, and a rejected call would have
overdrawn one. -/
theorem history_exact {key : String} {requestsPerSecond burst : UInt32}
    {calls : List RateCall}
    (ordered : calls.Pairwise fun earlier later => earlier.now ≤ later.now)
    (uniform : ∀ call ∈ calls, call.key = key →
      call.requestsPerSecond = requestsPerSecond ∧ call.burst = burst) :
    let verdicts := history .rat key calls
    let rate : ℚ := requestsPerSecond.toNat
    let cap : ℚ := burst.toNat
    (∀ j last, verdicts[j]? = some last →
      (last.2 = true ↔ ∀ i first, i ≤ j → verdicts[i]? = some first →
        (Refill.taken ((verdicts.take j).drop i) : ℚ) + 1 ≤
          cap + rate * (last.1 - first.1))) ∧
    (∀ lo hi : ℚ, lo ≤ hi →
      (Refill.takenBetween lo hi verdicts : ℚ) ≤ cap + rate * (hi - lo)) ∧
    (∀ j last, verdicts[j]? = some last → last.2 = false →
      ∃ i first, i ≤ j ∧ verdicts[i]? = some first ∧
        cap + rate * (last.1 - first.1) <
          (Refill.taken ((verdicts.take j).drop i) : ℚ) + 1) := by
  intro verdicts rate cap
  obtain ⟨limiter, run⟩ : ∃ limiter, Machine.exec step (.new .rat) calls = some limiter :=
    Machine.exec_total (fun _ _ _ => ⟨_, rfl⟩) _
  have exact := (tracks_of_run ordered uniform run).exact
  have decided : ∀ j last, verdicts[j]? = some last →
      (last.2 = true ↔ ∀ i first, i ≤ j → verdicts[i]? = some first →
        (Refill.taken ((verdicts.take j).drop i) : ℚ) + 1 ≤
          cap + rate * (last.1 - first.1)) :=
    fun j last isLast => Refill.Exact.index_iff exact isLast
  refine ⟨decided, ?_, ?_⟩
  · intro lo hi window
    exact Refill.takenBetween_bound (Nat.cast_nonneg _) (Nat.cast_nonneg _) exact window
  · intro j last isLast rejected
    by_contra fits
    push Not at fits
    have admitted := (decided j last isLast).mpr fits
    rw [rejected] at admitted
    cases admitted

/-- Two calls of a burst of one, half a second apart at one call a second: the
second would overdraw the window that the first one opens. -/
theorem history_exact_burst_of_one :
    let calls : List RateCall := [⟨"k", 1, 1, 0⟩, ⟨"k", 1, 1, 500000000⟩]
    (history .rat "k" calls).map Prod.snd = [true, false] ∧
      (Refill.takenBetween 0 (1 / 2) (history .rat "k" calls) : ℚ) ≤ 1 + 1 * (1 / 2 - 0) := by
  refine ⟨by decide +kernel, ?_⟩
  have ordered : List.Pairwise (fun earlier later : RateCall => earlier.now ≤ later.now)
      [⟨"k", 1, 1, 0⟩, ⟨"k", 1, 1, 500000000⟩] := by decide
  have uniform : ∀ call ∈ [(⟨"k", 1, 1, 0⟩ : RateCall), ⟨"k", 1, 1, 500000000⟩],
      call.key = "k" → call.requestsPerSecond = 1 ∧ call.burst = 1 := by decide
  have bound := (history_exact ordered uniform).2.1 0 (1 / 2) (by norm_num)
  simpa using bound

end RateCall

end SorobanGate
