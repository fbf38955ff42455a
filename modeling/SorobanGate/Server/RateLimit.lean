import SorobanGate.Metrics
import SorobanGate.RateLimit.TokenBucket
import SorobanGate.Server.Auth

/-!
# Rate limit middleware

The bucket of an authenticated request is named after the tier of its key, and
the bucket of any other request after the address that its headers give.  Keys
of one tier therefore draw on one bucket, and two keys are independent exactly
when their tiers are different.
-/

namespace SorobanGate

/-- The tiers of the configuration by name; a later one replaces an earlier one. -/
def authTiers (config : AuthConfig) : HashMap String KeyTier :=
  methodTable (fun tier => [tier.name]) id config.tiers

/-- `str::trim`, on the characters of a header value. -/
def trim (text : List Char) : List Char :=
  ((text.dropWhile Char.isWhitespace).reverse.dropWhile Char.isWhitespace).reverse

def extractClientIp (headers : HeaderMap) : String :=
  let forwarded := (headers.lookup "x-forwarded-for").bind fun value =>
    (toStr value).bind fun text =>
      let ip := String.ofList (trim (text.toList.takeWhile (· ≠ ',')))
      if ip = "" then none else some ip
  let realIp := (headers.lookup "x-real-ip").bind fun value =>
    (toStr value).bind fun text => if text = "" then none else some text
  (forwarded <|> realIp).getD "unknown"

/-- The shared parts that the middleware changes. -/
structure LimitState (arith : TokenArith) where
  rateLimiter : Option (TokenBucketRateLimiter arith)
  metrics : Option Metrics

def LimitState.new (arith : TokenArith) (config : Config) : LimitState arith where
  rateLimiter := if config.rateLimit.enabled then some (.new arith) else none
  metrics := if config.telemetry.metricsEnabled then some .new else none

/-- The call of `check_rate` for a request: which bucket, at which rate and burst. -/
def rateCall (config : Config) (request : AuthedRequest) (now : Instant) : RateCall :=
  match request.authTier.bind (authTiers config.auth).lookup with
  | some tier =>
      { key := "tier:" ++ tier.name
        requestsPerSecond := tier.requestsPerSecond
        burst := tier.burst
        now := now }
  | none =>
      { key := "ip:" ++ extractClientIp request.request.headers
        requestsPerSecond := config.rateLimit.ipFallbackRps
        burst := config.rateLimit.ipFallbackBurst
        now := now }

section Middleware

variable {arith : TokenArith}

def rateLimitMiddleware (config : Config) (state : LimitState arith) (request : AuthedRequest)
    (now : Instant) : LimitState arith × Outcome AuthedRequest :=
  match config.rateLimit.enabled, state.rateLimiter with
  | true, some limiter =>
      let call := rateCall config request now
      match limiter.checkRate call.key call.requestsPerSecond call.burst call.now with
      | (limiter, .ok ()) => ({ state with rateLimiter := some limiter }, .next request)
      | (limiter, .error _) =>
          let labels : TierReasonLabels :=
            { tier := request.authTier.getD "unauthenticated"
              reason := "rate_exceeded" }
          ({ rateLimiter := some limiter
             metrics := state.metrics.map (·.countRejection labels) },
            .respond rateLimitResponse)
  | _, _ => (state, .next request)

end Middleware

/-! ## The two middlewares in a row -/

/-- What is fixed while requests pass through the two middlewares. -/
structure Front where
  backend : AuthBackend
  config : Config
  keyStore : Option SqliteKeyStore

/-- A request and the instant at which it reaches the rate limiter. -/
structure Arrival where
  request : HttpRequest
  now : Instant
  deriving DecidableEq, Repr

/-- The status of a refusal, if the request was refused. -/
def Outcome.status? {Request : Type} : Outcome Request → Option StatusCode
  | .next _ => none
  | .respond response => some response.status

namespace Front

variable {arith : TokenArith} (front : Front)

/-- The key that a request presents. -/
def presented (request : HttpRequest) : Option String :=
  extractApiKey front.backend.parseQuery request

/-- `auth_middleware` followed by `rate_limit_middleware`. -/
def process (state : LimitState arith) (arrival : Arrival) :
    LimitState arith × Outcome AuthedRequest :=
  match authMiddleware front.backend front.config.auth front.keyStore arrival.request with
  | .respond response => (state, .respond response)
  | .next passed => rateLimitMiddleware front.config state passed arrival.now

def step (state : LimitState arith) (arrival : Arrival) : Option (LimitState arith) :=
  some (front.process state arrival).1

/-- What the requests with one key get. -/
def shown (key : String) (state : LimitState arith) (arrival : Arrival) :
    List (Option StatusCode) :=
  if front.presented arrival.request = some key then
    [(front.process state arrival).2.status?]
  else []

/-- The verdicts on the requests with one key, in a run from the start. -/
def verdicts (arith : TokenArith) (key : String) (arrivals : List Arrival) :
    List (Option StatusCode) :=
  Machine.trace front.step (front.shown key) (.new arith front.config) arrivals

/-- The requests of a run that do not present a key. -/
def without (key : String) (arrivals : List Arrival) : List Arrival :=
  arrivals.filter fun arrival => front.presented arrival.request ≠ some key

/-- Requests with one key never change the verdicts on requests with another. -/
def Isolated (arith : TokenArith) (key other : String) : Prop :=
  ∀ arrivals : List Arrival,
    (arrivals.Pairwise fun earlier later => earlier.now ≤ later.now) →
    front.verdicts arith key arrivals = front.verdicts arith key (front.without other arrivals)

/-- A key that is valid, not revoked, and of a configured tier. -/
structure Serves (key : String) (tier : KeyTier) : Prop where
  found : ∃ store entry, front.keyStore = some store ∧
    store.lookup front.backend.crypto key = .ok (some entry) ∧
    entry.isRevoked = false ∧ entry.tier = tier.name
  configured : (authTiers front.config.auth).lookup tier.name = some tier

/-- The call of `check_rate` that a request leads to, if it passes authentication. -/
def calls (arrival : Arrival) : Option RateCall :=
  match authMiddleware front.backend front.config.auth front.keyStore arrival.request with
  | .respond _ => none
  | .next passed => some (rateCall front.config passed arrival.now)

end Front

/-- What the limiter keeps for a rate key. -/
def LimitState.bucket? {arith : TokenArith} (state : LimitState arith) (rateKey : String) :
    Option (Option (Bucket arith)) :=
  state.rateLimiter.map fun limiter => limiter.lookup rateKey

namespace Front

variable {arith : TokenArith} {front : Front} {state left right : LimitState arith}
  {limiter : TokenBucketRateLimiter arith} {arrival : Arrival} {call : RateCall}

/-- The limiter decides a request that passes authentication. -/
theorem process_of_calls (enabled : front.config.rateLimit.enabled = true)
    (isCall : front.calls arrival = some call) (limits : state.rateLimiter = some limiter) :
    (front.process state arrival).1.rateLimiter = some
        (limiter.checkRate call.key call.requestsPerSecond call.burst call.now).1 ∧
      (front.process state arrival).2.status? =
        if (limiter.checkRate call.key call.requestsPerSecond call.burst call.now).2.isOk
        then none else some 429 := by
  unfold calls at isCall
  cases passes : authMiddleware front.backend front.config.auth front.keyStore
      arrival.request with
  | respond response => simp [passes] at isCall
  | next passed =>
      simp only [passes, Option.some.injEq] at isCall
      subst isCall
      simp only [process, passes, rateLimitMiddleware, enabled, limits]
      split
      next inserted decided =>
        rw [decided]
        exact ⟨rfl, rfl⟩
      next inserted reason decided =>
        rw [decided]
        exact ⟨rfl, rfl⟩

theorem process_of_no_limiter (isCall : front.calls arrival = some call)
    (limits : state.rateLimiter = none) :
    (front.process state arrival).1 = state ∧ (front.process state arrival).2.status? = none := by
  unfold calls at isCall
  unfold process
  cases passes : authMiddleware front.backend front.config.auth front.keyStore
      arrival.request with
  | respond response => simp [passes] at isCall
  | next passed => simp [rateLimitMiddleware, limits, Outcome.status?]

theorem process_of_no_call (isCall : front.calls arrival = none) :
    (front.process state arrival).1 = state := by
  unfold calls at isCall
  unfold process
  cases passes : authMiddleware front.backend front.config.auth front.keyStore
      arrival.request with
  | respond response => rfl
  | next passed => simp [passes] at isCall

theorem process_of_disabled (disabled : front.config.rateLimit.enabled = false) :
    (front.process state arrival).1 = state := by
  unfold process
  split
  · rfl
  · simp [rateLimitMiddleware, disabled]

theorem isSome_rateLimiter_process (front : Front) (state : LimitState arith)
    (arrival : Arrival) :
    (front.process state arrival).1.rateLimiter.isSome = state.rateLimiter.isSome := by
  unfold process
  split
  · rfl
  · unfold rateLimitMiddleware
    split
    next limits =>
      dsimp only
      split <;> simp [limits]
    · rfl

theorem bucket?_process_of_ne (enabled : front.config.rateLimit.enabled = true)
    {rateKey : String}
    (different : ∀ call, front.calls arrival = some call → rateKey ≠ call.key) :
    (front.process state arrival).1.bucket? rateKey = state.bucket? rateKey := by
  cases isCall : front.calls arrival with
  | none => rw [process_of_no_call isCall]
  | some call =>
      cases limits : state.rateLimiter with
      | none => rw [(process_of_no_limiter isCall limits).1]
      | some limiter =>
          simp only [LimitState.bucket?, (process_of_calls enabled isCall limits).1, limits,
            Option.map_some]
          rw [limiter.lookup_checkRate_of_ne (different call isCall)]

/-- What a request does to its own bucket, and its verdict, depend on that
bucket only. -/
theorem process_congr (enabled : front.config.rateLimit.enabled = true)
    (isCall : front.calls arrival = some call)
    (same : left.bucket? call.key = right.bucket? call.key) :
    (front.process left arrival).1.bucket? call.key =
        (front.process right arrival).1.bucket? call.key ∧
      (front.process left arrival).2.status? = (front.process right arrival).2.status? := by
  cases leftLimits : left.rateLimiter with
  | none =>
      have rightLimits : right.rateLimiter = none := by
        simpa [LimitState.bucket?, leftLimits] using same.symm
      obtain ⟨leftSame, leftShown⟩ := process_of_no_limiter isCall leftLimits
      obtain ⟨rightSame, rightShown⟩ := process_of_no_limiter isCall rightLimits
      rw [leftSame, rightSame, leftShown, rightShown]
      exact ⟨same, rfl⟩
  | some leftLimiter =>
      cases rightLimits : right.rateLimiter with
      | none => simp [LimitState.bucket?, leftLimits, rightLimits] at same
      | some rightLimiter =>
          simp only [LimitState.bucket?, leftLimits, rightLimits, Option.map_some,
            Option.some.injEq] at same
          obtain ⟨leftAfter, leftShown⟩ := process_of_calls enabled isCall leftLimits
          obtain ⟨rightAfter, rightShown⟩ := process_of_calls enabled isCall rightLimits
          obtain ⟨sameBucket, sameVerdict⟩ := TokenBucketRateLimiter.checkRate_congr same
            call.requestsPerSecond call.burst call.now
          rw [leftShown, rightShown, sameVerdict]
          simp only [LimitState.bucket?, leftAfter, rightAfter, Option.map_some, sameBucket,
            and_self]

/-- A request at the instant of its bucket takes a token, and is refused when none is
left. -/
theorem process_of_holds {nat : Nat → arith.Token} (exact : arith.IntegerExact nat)
    (enabled : front.config.rateLimit.enabled = true)
    (isCall : front.calls arrival = some call) (limits : state.rateLimiter = some limiter)
    {count : Nat} (holds : limiter.Holds nat call.key call.burst call.now count)
    (bounded : count ≤ call.burst.toNat) :
    (front.process state arrival).2.status? = (if 1 ≤ count then none else some 429) ∧
      ∃ after, (front.process state arrival).1.rateLimiter = some after ∧
        after.Holds nat call.key call.burst call.now (count - 1) ∧
        ∀ other, other ≠ call.key → after.lookup other = limiter.lookup other := by
  obtain ⟨after, verdict⟩ := process_of_calls enabled isCall limits
  obtain ⟨decided, taken⟩ := holds.checkRate exact bounded call.requestsPerSecond
  refine ⟨?_, _, after, taken, fun other different => ?_⟩
  · rw [verdict, decided]
    by_cases positive : 1 ≤ count <;> simp [positive, Except.isOk, Except.toBool]
  · exact limiter.lookup_checkRate_of_ne different _ _ _

theorem now_of_calls (isCall : front.calls arrival = some call) : call.now = arrival.now := by
  unfold calls at isCall
  split at isCall
  · cases isCall
  · cases isCall
    unfold rateCall
    split <;> rfl

theorem limits_of_address {address : String} (isCall : front.calls arrival = some call)
    (onAddress : call.key = "ip:" ++ address) :
    call.requestsPerSecond = front.config.rateLimit.ipFallbackRps ∧
      call.burst = front.config.rateLimit.ipFallbackBurst := by
  unfold calls at isCall
  split at isCall
  · cases isCall
  · cases isCall
    unfold rateCall at onAddress ⊢
    split
    next tier isTier =>
      simp only [isTier] at onAddress
      have characters := congrArg String.toList onAddress
      simp at characters
    · exact ⟨rfl, rfl⟩

/-- Requests without a key are refused by the authentication middleware. -/
def refusesKeyless (front : Front) : Bool :=
  front.config.auth.enabled && front.keyStore.isSome && !front.config.auth.allowUnauthenticated

theorem authMiddleware_of_keyless {request : HttpRequest}
    (keyless : front.presented request = none) :
    authMiddleware front.backend front.config.auth front.keyStore request =
      if front.refusesKeyless then
        .respond (authErrorResponse 401 (-32001) "Authentication required")
      else .next { request := request } := by
  unfold presented at keyless
  unfold authMiddleware refusesKeyless
  split
  next store enabled isStore =>
    simp only [keyless, enabled, isStore]
    cases front.config.auth.allowUnauthenticated <;> rfl
  next absent =>
    cases enabled : front.config.auth.enabled with
    | false => rfl
    | true =>
        cases isStore : front.keyStore with
        | none => rfl
        | some store => exact absurd isStore (absent store enabled)

theorem calls_of_keyless {request : HttpRequest} (keyless : front.presented request = none)
    (passes : front.refusesKeyless = false) (now : Instant) :
    front.calls ⟨request, now⟩ = some
      { key := "ip:" ++ extractClientIp request.headers
        requestsPerSecond := front.config.rateLimit.ipFallbackRps
        burst := front.config.rateLimit.ipFallbackBurst
        now := now } := by
  simp [calls, authMiddleware_of_keyless keyless, passes, rateCall]

theorem process_of_refused {request : HttpRequest} (keyless : front.presented request = none)
    (refused : front.refusesKeyless = true) (now : Instant) :
    front.calls ⟨request, now⟩ = none ∧
      (front.process state ⟨request, now⟩).2.status? = some 401 := by
  simp [calls, process, authMiddleware_of_keyless keyless, refused, Outcome.status?,
    authErrorResponse, rpcErrorResponse, Response.json]

theorem calls_of_serves (enabled : front.config.auth.enabled = true) {key : String}
    {tier : KeyTier} (serves : front.Serves key tier) {request : HttpRequest}
    (isKey : front.presented request = some key) (now : Instant) :
    front.calls ⟨request, now⟩ = some
      { key := "tier:" ++ tier.name
        requestsPerSecond := tier.requestsPerSecond
        burst := tier.burst
        now := now } := by
  obtain ⟨store, entry, isStore, found, valid, sameTier⟩ := serves.found
  unfold presented at isKey
  simp [calls, authMiddleware, enabled, isStore, isKey, found, valid, rateCall, sameTier,
    serves.configured]

theorem Serves.mem {key : String} {tier : KeyTier} (serves : front.Serves key tier) :
    tier ∈ front.config.auth.tiers := by
  have configured := serves.configured
  rw [authTiers, lookup_methodTable, Option.map_id, id] at configured
  exact List.mem_reverse.mp (List.mem_of_find?_eq_some configured)

theorem Serves.tier_unique {key : String} {tier otherTier : KeyTier}
    (serves : front.Serves key tier) (otherServes : front.Serves key otherTier) :
    tier.name = otherTier.name := by
  obtain ⟨store, entry, isStore, found, -, isTier⟩ := serves.found
  obtain ⟨otherStore, otherEntry, isOtherStore, otherFound, -, isOtherTier⟩ := otherServes.found
  rw [isStore] at isOtherStore
  cases isOtherStore
  rw [found] at otherFound
  cases otherFound
  exact isTier.symm.trans isOtherTier

/-- As many requests as the burst of a tier, and one more, all at one instant. -/
def flood (tier : KeyTier) (otherRequest request : HttpRequest) : List Arrival :=
  List.replicate tier.burst.toNat ⟨otherRequest, 0⟩ ++ [⟨request, 0⟩]

theorem flood_pairwise (tier : KeyTier) (otherRequest request : HttpRequest) :
    (flood tier otherRequest request).Pairwise fun earlier later => earlier.now ≤ later.now := by
  have atOnce : ∀ arrival ∈ flood tier otherRequest request, arrival.now = 0 := by
    intro arrival member
    rcases List.mem_append.mp member with early | last
    · rw [List.eq_of_mem_replicate early]
    · rw [List.mem_singleton.mp last]
  refine List.pairwise_of_forall_mem_list fun earlier isEarlier later isLater => ?_
  rw [atOnce earlier isEarlier, atOnce later isLater]

section Enabled

variable (authEnabled : front.config.auth.enabled = true)
  (limitEnabled : front.config.rateLimit.enabled = true)
include authEnabled limitEnabled

/-- Requests of another tier may be removed from a run. -/
theorem isolated_of_tiers_differ {key other : String} {tier otherTier : KeyTier}
    (serves : front.Serves key tier) (otherServes : front.Serves other otherTier)
    (different : tier.name ≠ otherTier.name) (arith : TokenArith) :
    front.Isolated arith key other := by
  have differentBuckets : "tier:" ++ tier.name ≠ "tier:" ++ otherTier.name := by
    intro same
    exact different ((String.append_right_inj _).mp same)
  have differentKeys : key ≠ other := by
    rintro rfl
    exact different (serves.tier_unique otherServes)
  intro arrivals _
  refine Machine.trace_filter
    (fun state : LimitState arith => state.bucket? ("tier:" ++ tier.name)) _
    (fun _ _ => ⟨_, rfl⟩) ?_ ?_ rfl arrivals
  · rintro state ⟨request, now⟩ next removed stepped
    cases stepped
    have isOther : front.presented request = some other := by simpa using removed
    refine ⟨bucket?_process_of_ne limitEnabled ?_, ?_⟩
    · intro call isCall
      rw [calls_of_serves authEnabled otherServes isOther now] at isCall
      cases isCall
      exact differentBuckets
    · simp [shown, isOther, Ne.symm differentKeys]
  · rintro left right ⟨request, now⟩ leftNext rightNext _ same leftStep rightStep
    cases leftStep
    cases rightStep
    by_cases onBucket : ∃ call, front.calls ⟨request, now⟩ = some call ∧
        call.key = "tier:" ++ tier.name
    · obtain ⟨call, isCall, isBucket⟩ := onBucket
      rw [← isBucket] at same ⊢
      obtain ⟨sameBucket, sameVerdict⟩ := process_congr limitEnabled isCall same
      exact ⟨sameBucket, by simp only [shown, sameVerdict]⟩
    · have elsewhere : ∀ call, front.calls ⟨request, now⟩ = some call →
          "tier:" ++ tier.name ≠ call.key :=
        fun call isCall isBucket => onBucket ⟨call, isCall, isBucket.symm⟩
      have notKey : front.presented request ≠ some key := fun isKey =>
        onBucket ⟨_, calls_of_serves authEnabled serves isKey now, rfl⟩
      rw [bucket?_process_of_ne limitEnabled elsewhere,
        bucket?_process_of_ne limitEnabled elsewhere]
      exact ⟨same, by simp [shown, notKey]⟩

/-- Requests with one key at one instant drain the bucket of its tier. -/
theorem drain {nat : Nat → arith.Token} (exact : arith.IntegerExact nat) {key : String}
    {tier : KeyTier} (serves : front.Serves key tier) {request : HttpRequest}
    (isKey : front.presented request = some key) {now : Instant} (times : Nat) {count : Nat}
    (limits : state.rateLimiter = some limiter)
    (holds : limiter.Holds nat ("tier:" ++ tier.name) tier.burst now count)
    (bounded : count ≤ tier.burst.toNat) :
    ∃ final finalLimiter,
      Machine.exec front.step state (List.replicate times ⟨request, now⟩) = some final ∧
      final.rateLimiter = some finalLimiter ∧
      finalLimiter.Holds nat ("tier:" ++ tier.name) tier.burst now (count - times) := by
  induction times generalizing state limiter count with
  | zero => exact ⟨state, limiter, rfl, limits, holds⟩
  | succ times ih =>
      have isCall := calls_of_serves authEnabled serves isKey now
      obtain ⟨-, after, isAfter, taken, -⟩ :=
        process_of_holds exact limitEnabled isCall limits holds bounded
      obtain ⟨final, finalLimiter, run, finalLimits, finalHolds⟩ :=
        ih isAfter taken (le_trans (Nat.sub_le count 1) bounded)
      refine ⟨final, finalLimiter, ?_, finalLimits, ?_⟩
      · exact Machine.exec_cons_iff.mpr ⟨_, rfl, run⟩
      · rwa [Nat.sub_sub, Nat.add_comm] at finalHolds

theorem status_of_holds {nat : Nat → arith.Token} (exact : arith.IntegerExact nat)
    {key : String} {tier : KeyTier} (serves : front.Serves key tier) {request : HttpRequest}
    (isKey : front.presented request = some key) {now : Instant} {count : Nat}
    (limits : state.rateLimiter = some limiter)
    (holds : limiter.Holds nat ("tier:" ++ tier.name) tier.burst now count)
    (bounded : count ≤ tier.burst.toNat) :
    (front.process state ⟨request, now⟩).2.status? = if 1 ≤ count then none else some 429 :=
  (process_of_holds exact limitEnabled (calls_of_serves authEnabled serves isKey now) limits holds
    bounded).1

/-- Requests with another key of the same tier, as many as the burst and all at
once, turn an acceptance into a rejection. -/
theorem not_isolated_of_same_tier {nat : Nat → arith.Token} (exact : arith.IntegerExact nat)
    {key other : String} {tier : KeyTier} (serves : front.Serves key tier)
    (otherServes : front.Serves other tier) (burstPositive : 1 ≤ tier.burst)
    (different : key ≠ other) {request otherRequest : HttpRequest}
    (isKey : front.presented request = some key)
    (isOther : front.presented otherRequest = some other) :
    ¬ front.Isolated arith key other := by
  intro isolated
  have limits : (LimitState.new arith front.config).rateLimiter = some (.new arith) := by
    simp [LimitState.new, limitEnabled]
  have full : (TokenBucketRateLimiter.new arith).Holds nat ("tier:" ++ tier.name) tier.burst 0
      tier.burst.toNat := by
    simp [TokenBucketRateLimiter.Holds, TokenBucketRateLimiter.new, exact.ofU32]
  obtain ⟨drained, limiter, run, drainedLimits, empty⟩ := drain authEnabled limitEnabled exact
    otherServes isOther tier.burst.toNat limits full le_rfl
  rw [Nat.sub_self] at empty
  have rejected := status_of_holds authEnabled limitEnabled exact serves isKey drainedLimits
    empty (Nat.zero_le _)
  have accepted := status_of_holds authEnabled limitEnabled exact serves isKey limits full le_rfl
  have oneToken : 1 ≤ tier.burst.toNat := UInt32.le_iff_toNat_le.mp burstPositive
  rw [if_pos oneToken] at accepted
  have remaining : front.without other (flood tier otherRequest request) = [⟨request, 0⟩] := by
    simp [flood, without, List.filter_append, isKey, isOther, different]
  have equal := isolated (flood tier otherRequest request) (flood_pairwise _ _ _)
  rw [remaining, verdicts, verdicts, flood, Machine.trace_concat run, Machine.trace_singleton,
    shown, shown, if_pos isKey, if_pos isKey, rejected, accepted] at equal
  have last := congrArg List.getLast? equal
  simp at last

end Enabled

/-- Rate limit isolation: two valid keys of configured tiers never influence each
other if and only if their tiers are different. -/
theorem isolated_iff_tiers_differ {nat : Nat → arith.Token} (exact : arith.IntegerExact nat)
    (authEnabled : front.config.auth.enabled = true)
    (limitEnabled : front.config.rateLimit.enabled = true)
    (positive : ∀ tier ∈ front.config.auth.tiers, 1 ≤ tier.requestsPerSecond ∧ 1 ≤ tier.burst)
    {key other : String} (different : key ≠ other) {tier otherTier : KeyTier}
    (serves : front.Serves key tier) (otherServes : front.Serves other otherTier)
    {request otherRequest : HttpRequest} (isKey : front.presented request = some key)
    (isOther : front.presented otherRequest = some other) :
    front.Isolated arith key other ↔ tier.name ≠ otherTier.name := by
  constructor
  · intro isolated sameName
    have sameTier : tier = otherTier := by
      have configured := serves.configured
      rw [sameName, otherServes.configured] at configured
      exact (Option.some.inj configured).symm
    subst sameTier
    exact not_isolated_of_same_tier authEnabled limitEnabled exact serves otherServes
      (positive tier serves.mem).2 different isKey isOther isolated
  · intro differentTiers
    exact isolated_of_tiers_differ authEnabled limitEnabled serves otherServes differentTiers
      arith

/-- The two keys of the small store: the first one is of the first tier, and both
tiers allow one request a second. -/
def twoKeys (otherTier : String) : Front where
  backend := smallBackend
  config := { auth := { tiers := [⟨"tier1", 1, 1⟩, ⟨"tier2", 1, 1⟩] } }
  keyStore := Machine.exec (KeyOp.step smallBackend.crypto) .new
    [.create "sk_test_list_1" "tier1" "key 1" 0 0,
      .create "sk_test_list_2" otherTier "key 2" 0 0]

theorem serves_of_lookup {key : String} {tier : KeyTier}
    (evaluated : ((front.keyStore.bind fun store =>
      (store.lookup front.backend.crypto key).toOption.join).map fun entry =>
        (entry.isRevoked, entry.tier)) = some (false, tier.name))
    (configured : (authTiers front.config.auth).lookup tier.name = some tier) :
    front.Serves key tier := by
  obtain ⟨entry, isEntry, fields⟩ := Option.map_eq_some_iff.mp evaluated
  obtain ⟨store, isStore, joined⟩ := Option.bind_eq_some_iff.mp isEntry
  obtain ⟨valid, sameTier⟩ := Prod.mk.inj fields
  refine ⟨⟨store, entry, isStore, ?_, valid, sameTier⟩, configured⟩
  cases found : store.lookup front.backend.crypto key with
  | error reason => simp [found, Except.toOption] at joined
  | ok result =>
      simp only [found, Except.toOption, Option.join_some] at joined
      rw [joined]

/-- Two keys of one tier: alone the first one is accepted, and after a request
with the second one it is rejected. -/
theorem same_tier_interferes :
    let front := twoKeys "tier1"
    let arrivals : List Arrival := [⟨bearer "sk_test_list_2", 0⟩, ⟨bearer "sk_test_list_1", 0⟩]
    front.config.auth.enabled = true ∧ front.config.rateLimit.enabled = true ∧
    (∀ tier ∈ front.config.auth.tiers, 1 ≤ tier.requestsPerSecond ∧ 1 ≤ tier.burst) ∧
    front.Serves "sk_test_list_1" ⟨"tier1", 1, 1⟩ ∧
    front.Serves "sk_test_list_2" ⟨"tier1", 1, 1⟩ ∧
    (arrivals.Pairwise fun earlier later => earlier.now ≤ later.now) ∧
    front.verdicts .rat "sk_test_list_1" arrivals = [some 429] ∧
    front.verdicts .rat "sk_test_list_1" (front.without "sk_test_list_2" arrivals) = [none] ∧
    ¬ front.Isolated .rat "sk_test_list_1" "sk_test_list_2" := by
  intro front arrivals
  have ordered : arrivals.Pairwise fun earlier later => earlier.now ≤ later.now := by decide
  have together : front.verdicts .rat "sk_test_list_1" arrivals = [some 429] := by
    decide +kernel
  have alone : front.verdicts .rat "sk_test_list_1"
      (front.without "sk_test_list_2" arrivals) = [none] := by
    decide +kernel
  refine ⟨rfl, rfl, by decide, serves_of_lookup (by decide +kernel) (by decide +kernel),
    serves_of_lookup (by decide +kernel) (by decide +kernel), ordered, together, alone, ?_⟩
  intro isolated
  have equal := isolated arrivals ordered
  rw [together, alone] at equal
  cases equal

/-- Two keys of different tiers are isolated. -/
theorem isolated_two_tiers :
    (twoKeys "tier2").Isolated .rat "sk_test_list_1" "sk_test_list_2" := by
  have serves : (twoKeys "tier2").Serves "sk_test_list_1" ⟨"tier1", 1, 1⟩ :=
    serves_of_lookup (by decide +kernel) (by decide +kernel)
  have otherServes : (twoKeys "tier2").Serves "sk_test_list_2" ⟨"tier2", 1, 1⟩ :=
    serves_of_lookup (by decide +kernel) (by decide +kernel)
  have presents : (twoKeys "tier2").presented (bearer "sk_test_list_1") =
      some "sk_test_list_1" := by
    decide +kernel
  have otherPresents : (twoKeys "tier2").presented (bearer "sk_test_list_2") =
      some "sk_test_list_2" := by
    decide +kernel
  exact (isolated_iff_tiers_differ TokenArith.rat_integerExact rfl rfl (by decide) (by decide)
    serves otherServes presents otherPresents).mpr (by decide)

end Front

end SorobanGate
