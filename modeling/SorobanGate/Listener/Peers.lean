import SorobanGate.Config.Validate
import SorobanGate.Listener.Limits

/-!
# Peers and the fallback limit

The fallback limit is to bind each peer that has no key.  But the bucket of such a
request is named after the address that its own headers give, so that a peer gets as
many buckets as it makes up addresses.
-/

namespace SorobanGate

namespace Listener

section Definitions

variable {arith : TokenArith} (backend : AuthBackend) (settings : Settings) (peer : String)

/-- Whether the middlewares pass a request on. -/
def passes (listener : Listener arith) (web : WebRequest) (now : Instant) : Bool :=
  (listener.layers backend settings web now).2.status?.isNone

/-- When a step passes on a request of a peer. -/
def passedAt (listener : Listener arith) (moment : Moment) : List ℚ :=
  match moment.occurrence with
  | .request web =>
      if web.peer = peer ∧ listener.passes backend settings web moment.time then
        [RateCall.secs moment.time]
      else []
  | _ => []

/-- How many requests of a peer a run passes on between two times. -/
def passedBetween (store : SqliteKeyStore) (start : Instant) (moments : List Moment)
    (lo hi : ℚ) : Nat :=
  (Machine.trace (step backend settings) (passedAt backend settings peer)
    (init settings .rat store start) moments).countP fun time =>
      decide (lo ≤ time) && decide (time ≤ hi)

/-- The fallback limit binds a peer in a run: no window of time sees more of its
requests passed on than the burst and what is refilled meanwhile. -/
def Binds (store : SqliteKeyStore) (start : Instant) (moments : List Moment) : Prop :=
  ∀ lo hi : ℚ, lo ≤ hi →
    (passedBetween backend settings peer store start moments lo hi : ℚ) ≤
      settings.config.rateLimit.ipFallbackBurst.toNat +
        settings.config.rateLimit.ipFallbackRps.toNat * (hi - lo)

/-- All requests of a peer are among some choices. -/
def Sends (choices : HttpRequest → Prop) (moments : List Moment) : Prop :=
  ∀ moment ∈ moments, ∀ web, moment.occurrence = .request web → web.peer = peer →
    choices web.http

end Definitions

variable {backend : AuthBackend} {settings : Settings} {peer : String}
variable {listener : Listener .rat} {web : WebRequest} {now : Instant}

/-- The call for a request without a key. -/
def fallbackCall (settings : Settings) (http : HttpRequest) (now : Instant) : RateCall where
  key := "ip:" ++ extractClientIp http.headers
  requestsPerSecond := settings.config.rateLimit.ipFallbackRps
  burst := settings.config.rateLimit.ipFallbackBurst
  now := now

theorem passes_iff (enabled : settings.config.rateLimit.enabled = true)
    {limiter : TokenBucketRateLimiter .rat} (isLimiter : listener.rateLimiter = some limiter)
    (keyless : extractApiKey backend.parseQuery web.http = none) :
    listener.passes backend settings web now = true ↔
      (listener.front backend settings).refusesKeyless = false ∧
        RateCall.admitted limiter (fallbackCall settings web.http now) = true := by
  have limits : listener.limits.rateLimiter = some limiter := isLimiter
  have isKeyless : (listener.front backend settings).presented web.http = none := keyless
  unfold passes
  rw [layers_eq]
  cases refused : (listener.front backend settings).refusesKeyless with
  | true =>
      rw [(Front.process_of_refused isKeyless refused now).2]
      simp
  | false =>
      have isCall := Front.calls_of_keyless isKeyless refused now
      rw [(Front.process_of_calls enabled isCall limits).2]
      unfold RateCall.admitted fallbackCall
      split
      next admitted => exact iff_of_true rfl ⟨rfl, admitted⟩
      next rejected => exact iff_of_false Bool.false_ne_true fun both => rejected both.2

theorem calls_eq_fallbackCall (enabled : settings.config.rateLimit.enabled = true)
    {limiter : TokenBucketRateLimiter .rat} (isLimiter : listener.rateLimiter = some limiter)
    (keyless : extractApiKey backend.parseQuery web.http = none)
    (letIn : (listener.front backend settings).refusesKeyless = false) {moment : Moment}
    (isRequest : moment.occurrence = .request web) :
    calls backend settings listener moment = [fallbackCall settings web.http moment.time] := by
  have isKeyless : (listener.front backend settings).presented web.http = none := keyless
  simp only [calls, enabled, isLimiter, isRequest,
    Front.calls_of_keyless isKeyless letIn moment.time]
  rfl

theorem passedAt_of_passes (isPeer : web.peer = peer)
    (passed : listener.passes backend settings web now = true) :
    passedAt backend settings peer listener ⟨now, .request web⟩ = [RateCall.secs now] :=
  if_pos ⟨isPeer, passed⟩

theorem passedAt_cases (backend : AuthBackend) (settings : Settings) (peer : String)
    (listener : Listener .rat) (moment : Moment) :
    passedAt backend settings peer listener moment = [] ∨
      ∃ web, moment.occurrence = .request web ∧ web.peer = peer ∧
        listener.passes backend settings web moment.time = true ∧
        passedAt backend settings peer listener moment = [RateCall.secs moment.time] := by
  unfold passedAt
  split
  next web isRequest =>
    split
    next passed => exact Or.inr ⟨web, isRequest, passed.1, passed.2, rfl⟩
    · exact Or.inl rfl
  · exact Or.inl rfl

theorem not_admitted_of_empty (limiter : TokenBucketRateLimiter .rat) {call : RateCall}
    (empty : call.burst = 0) : RateCall.admitted limiter call = false := by
  rw [RateCall.admitted, TokenBucketRateLimiter.isOk_checkRate]
  simp only [TokenBucketRateLimiter.level, empty, TokenArith.rat]
  simp

theorem passedAt_eq_nil (enabled : settings.config.rateLimit.enabled = true)
    (ready : Ready settings listener)
    (shut : (settings.config.auth.enabled = true ∧
        settings.config.auth.allowUnauthenticated = false) ∨
      settings.config.rateLimit.ipFallbackBurst = 0) {moment : Moment}
    (keyless : ∀ web, moment.occurrence = .request web → web.peer = peer →
      extractApiKey backend.parseQuery web.http = none) :
    passedAt backend settings peer listener moment = [] := by
  rcases passedAt_cases backend settings peer listener moment with
    nothing | ⟨web, isRequest, isPeer, passed, -⟩
  · exact nothing
  · obtain ⟨limiter, isLimiter⟩ := ready.exists_limiter enabled
    obtain ⟨letIn, admitted⟩ :=
      (passes_iff enabled isLimiter (keyless web isRequest isPeer)).mp passed
    rcases shut with refused | empty
    · rw [ready.refusesKeyless_iff.mpr refused] at letIn
      cases letIn
    · rw [not_admitted_of_empty limiter empty] at admitted
      cases admitted

section Bound

variable {store : SqliteKeyStore} {start : Instant} {moments : List Moment}

theorem binds_of_none (run : Run backend settings store start moments listener)
    (none : ∀ moment ∈ moments, ∀ state : Listener .rat, Ready settings state →
      passedAt backend settings peer state moment = []) :
    Binds backend settings peer store start moments := by
  have nothing : Machine.trace (step backend settings) (passedAt backend settings peer)
      (init settings .rat store start) moments = [] := by
    refine Machine.exec_history
      (fun moments (_ : Listener .rat) =>
        (∀ moment ∈ moments, ∀ state : Listener .rat, Ready settings state →
          passedAt backend settings peer state moment = []) →
        Machine.trace (step backend settings) (passedAt backend settings peer)
          (init settings .rat store start) moments = [])
      (fun _ => rfl) ?_ run none
    intro moments state moment next prior ih stepped none
    rw [Machine.trace_concat prior, ih fun earlier member =>
      none earlier (List.mem_append_left _ member)]
    exact none moment (by simp) state (ready_of_run prior)
  intro lo hi window
  rw [passedBetween, nothing]
  have refilled : 0 ≤ (settings.config.rateLimit.ipFallbackRps.toNat : ℚ) * (hi - lo) :=
    mul_nonneg (Nat.cast_nonneg _) (sub_nonneg.mpr window)
  simpa using add_nonneg (Nat.cast_nonneg _) refilled

/-- The requests of a peer with one address are passed on by calls on its bucket. -/
theorem passedBetween_le_takenBetween (enabled : settings.config.rateLimit.enabled = true)
    (run : Run backend settings store start moments listener) {address : String}
    (sends : Sends peer
      (fun http => extractApiKey backend.parseQuery http = none ∧
        extractClientIp http.headers = address) moments) (lo hi : ℚ) :
    passedBetween backend settings peer store start moments lo hi ≤
      Refill.takenBetween lo hi (RateCall.history .rat ("ip:" ++ address)
        (allCalls backend settings .rat store start moments)) := by
  refine Machine.exec_history
    (fun moments (_ : Listener .rat) =>
      Sends peer (fun http => extractApiKey backend.parseQuery http = none ∧
        extractClientIp http.headers = address) moments →
      passedBetween backend settings peer store start moments lo hi ≤
        Refill.takenBetween lo hi (RateCall.history .rat ("ip:" ++ address)
          (allCalls backend settings .rat store start moments)))
    (fun _ => Nat.zero_le _) ?_ run sends
  intro moments state moment next prior ih stepped sends
  have earlier := ih fun other member => sends other (List.mem_append_left _ member)
  rw [passedBetween, Refill.takenBetween] at earlier ⊢
  rw [Machine.trace_concat prior, history_concat prior, List.countP_append, List.countP_append]
  refine Nat.add_le_add earlier ?_
  rcases passedAt_cases backend settings peer state moment with
    none | ⟨web, isRequest, isPeer, passed, isTime⟩
  · simp [none]
  · obtain ⟨keyless, isAddress⟩ := sends moment (by simp) web isRequest isPeer
    obtain ⟨limiter, isLimiter⟩ := (ready_of_run prior).exists_limiter enabled
    obtain ⟨letIn, admitted⟩ := (passes_iff enabled isLimiter keyless).mp passed
    rw [isTime, calls_eq_fallbackCall enabled isLimiter keyless letIn isRequest,
      Machine.trace_singleton, limiterView, isLimiter, Option.getD_some]
    have isShown : RateCall.shown ("ip:" ++ address) limiter
        (fallbackCall settings web.http moment.time) = [(RateCall.secs moment.time, true)] := by
      rw [RateCall.shown, if_pos (by rw [fallbackCall, isAddress]), admitted]
      rfl
    rw [isShown]
    simp

theorem binds_of_one_address (enabled : settings.config.rateLimit.enabled = true)
    (run : Run backend settings store start moments listener) {address : String}
    (sends : Sends peer
      (fun http => extractApiKey backend.parseQuery http = none ∧
        extractClientIp http.headers = address) moments) :
    Binds backend settings peer store start moments := by
  intro lo hi window
  have bound := Refill.takenBetween_bound (Nat.cast_nonneg _) (Nat.cast_nonneg _)
    (tracks_of_run run address).exact window
  have fewer : (passedBetween backend settings peer store start moments lo hi : ℚ) ≤ _ :=
    Nat.cast_le.mpr (passedBetween_le_takenBetween enabled run sends lo hi)
  exact fewer.trans bound

end Bound

section Spoofing

theorem accept_of_holds (web : WebRequest)
    (enabled : settings.config.rateLimit.enabled = true)
    (letIn : (listener.front backend settings).refusesKeyless = false)
    (keyless : extractApiKey backend.parseQuery web.http = none)
    {limiter : TokenBucketRateLimiter .rat} (isLimiter : listener.rateLimiter = some limiter)
    {count : Nat}
    (holds : limiter.Holds (fun count => (count : ℚ)) (fallbackCall settings web.http now).key
      settings.config.rateLimit.ipFallbackBurst now count)
    (positive : 1 ≤ count)
    (bounded : count ≤ settings.config.rateLimit.ipFallbackBurst.toNat) :
    listener.passes backend settings web now = true ∧
      ∃ after, (listener.accept backend settings web now).rateLimiter = some after ∧
        after.Holds (fun count => (count : ℚ)) (fallbackCall settings web.http now).key
          settings.config.rateLimit.ipFallbackBurst now (count - 1) ∧
        ∀ other, other ≠ (fallbackCall settings web.http now).key →
          after.lookup other = limiter.lookup other := by
  have limits : listener.limits.rateLimiter = some limiter := isLimiter
  have isKeyless : (listener.front backend settings).presented web.http = none := keyless
  have isCall := Front.calls_of_keyless isKeyless letIn now
  obtain ⟨verdict, after, isAfter, taken, others⟩ := Front.process_of_holds
    TokenArith.rat_integerExact enabled isCall limits holds bounded
  rw [if_pos positive] at verdict
  refine ⟨?_, after, ?_, taken, others⟩
  · rw [passes, layers_eq, verdict]
    rfl
  · rw [rateLimiter_accept, isAfter]

/-- As many requests at one instant as there are tokens are all passed on, and leave the
other buckets alone. -/
theorem exists_drained (web : WebRequest)
    (enabled : settings.config.rateLimit.enabled = true)
    (letIn : (listener.front backend settings).refusesKeyless = false)
    (keyless : extractApiKey backend.parseQuery web.http = none) (isPeer : web.peer = peer)
    {limiter : TokenBucketRateLimiter .rat} (isLimiter : listener.rateLimiter = some limiter)
    (inOrder : listener.gateway.clock ≤ now) {count : Nat}
    (holds : limiter.Holds (fun count => (count : ℚ)) (fallbackCall settings web.http now).key
      settings.config.rateLimit.ipFallbackBurst now count)
    (bounded : count ≤ settings.config.rateLimit.ipFallbackBurst.toNat) {times : Nat}
    (enough : times ≤ count) :
    ∃ final after,
      Machine.exec (step backend settings) listener
        (List.replicate times ⟨now, .request web⟩) = some final ∧
      Machine.trace (step backend settings) (passedAt backend settings peer) listener
        (List.replicate times ⟨now, .request web⟩) =
          List.replicate times (RateCall.secs now) ∧
      final.rateLimiter = some after ∧ final.keyStore = listener.keyStore ∧
      final.gateway.clock ≤ now ∧
      after.Holds (fun count => (count : ℚ)) (fallbackCall settings web.http now).key
        settings.config.rateLimit.ipFallbackBurst now (count - times) ∧
      ∀ other, other ≠ (fallbackCall settings web.http now).key →
        after.lookup other = limiter.lookup other := by
  induction times with
  | zero =>
      exact ⟨listener, limiter, rfl, rfl, isLimiter, rfl, inOrder, holds, fun _ _ => rfl⟩
  | succ times ih =>
      obtain ⟨final, after, run, passed, isAfter, sameStore, clock, left, others⟩ :=
        ih (Nat.le_of_succ_le enough)
      have stillLetIn : (final.front backend settings).refusesKeyless = false := by
        rw [front, sameStore]
        exact letIn
      obtain ⟨passes, last, isLast, remaining, unchanged⟩ := accept_of_holds web enabled
        stillLetIn keyless isAfter left (by omega) (by omega)
      refine ⟨final.accept backend settings web now, last, ?_, ?_, isLast, sameStore, le_rfl,
        ?_, fun other different => (unchanged other different).trans (others other different)⟩
      · rw [List.replicate_succ']
        exact Machine.exec_concat_iff.mpr ⟨final, run, if_neg (not_lt.mpr clock)⟩
      · rw [List.replicate_succ', List.replicate_succ', Machine.trace_concat run, passed,
          passedAt_of_passes isPeer passes]
      · rwa [Nat.sub_sub] at remaining

/-- A `GET` of a peer with some headers. -/
def requestOf (peer : String) (http : HttpRequest) : WebRequest where
  peer := peer
  method := .get
  path := "/"
  http := http
  body := []

/-- A peer drains the bucket of one address and then uses another. -/
def spoof (settings : Settings) (peer : String) (left right : HttpRequest) : List Moment :=
  List.replicate settings.config.rateLimit.ipFallbackBurst.toNat
      ⟨0, .request (requestOf peer left)⟩ ++
    [⟨0, .request (requestOf peer right)⟩]

theorem mem_spoof {left right : HttpRequest} {moment : Moment}
    (member : moment ∈ spoof settings peer left right) :
    moment = ⟨0, .request (requestOf peer left)⟩ ∨
      moment = ⟨0, .request (requestOf peer right)⟩ := by
  rcases List.mem_append.mp member with early | last
  · exact Or.inl (List.eq_of_mem_replicate early)
  · exact Or.inr (List.mem_singleton.mp last)

/-- With two addresses a peer exceeds a burst that is not empty. -/
theorem not_binds_of_two_addresses (peer : String)
    (enabled : settings.config.rateLimit.enabled = true)
    (isOpen : ¬ (settings.config.auth.enabled = true ∧
      settings.config.auth.allowUnauthenticated = false))
    (nonempty : settings.config.rateLimit.ipFallbackBurst ≠ 0) {left right : HttpRequest}
    (leftKeyless : extractApiKey backend.parseQuery left = none)
    (rightKeyless : extractApiKey backend.parseQuery right = none)
    (different : extractClientIp left.headers ≠ extractClientIp right.headers) :
    (∃ final : Listener .rat,
      Run backend settings .new 0 (spoof settings peer left right) final) ∧
      ¬ Binds backend settings peer .new 0 (spoof settings peer left right) := by
  have started : Run backend settings .new 0 [] (init settings .rat .new 0) := rfl
  have letIn : ((init settings .rat .new 0).front backend settings).refusesKeyless = false := by
    rw [← Bool.not_eq_true, (ready_of_run started).refusesKeyless_iff]
    exact isOpen
  have isLimiter : (init settings .rat .new 0).rateLimiter = some (.new .rat) := if_pos enabled
  have full : ∀ http, (TokenBucketRateLimiter.new .rat).Holds (fun count => (count : ℚ))
      (fallbackCall settings http 0).key settings.config.rateLimit.ipFallbackBurst 0
      settings.config.rateLimit.ipFallbackBurst.toNat := fun http => rfl
  have atStart : (init settings .rat .new 0).gateway.clock ≤ 0 := le_rfl
  have isPeer : ∀ http, (requestOf peer http).peer = peer := fun _ => rfl
  obtain ⟨drained, after, run, passed, isAfter, sameStore, clock, -, others⟩ :=
    exists_drained (requestOf peer left) enabled letIn leftKeyless (isPeer left) isLimiter
      atStart (full left) le_rfl le_rfl
  -- The other address has a full bucket of its own.
  have otherKey : (fallbackCall settings right 0).key ≠ (fallbackCall settings left 0).key :=
    fun same => different ((String.append_right_inj _).mp same).symm
  have stillFull : after.Holds (fun count => (count : ℚ)) (fallbackCall settings right 0).key
      settings.config.rateLimit.ipFallbackBurst 0
      settings.config.rateLimit.ipFallbackBurst.toNat := by
    rw [TokenBucketRateLimiter.Holds, others _ otherKey]
    exact full right
  have stillLetIn : (drained.front backend settings).refusesKeyless = false := by
    rw [front, sameStore]
    exact letIn
  have positive : 1 ≤ settings.config.rateLimit.ipFallbackBurst.toNat :=
    Nat.one_le_iff_ne_zero.mpr fun zero => nonempty (UInt32.toNat_inj.mp zero)
  obtain ⟨passes, -⟩ := accept_of_holds (requestOf peer right) enabled stillLetIn rightKeyless
    isAfter stillFull positive le_rfl
  refine ⟨⟨_, Machine.exec_concat_iff.mpr ⟨drained, run, if_neg (not_lt.mpr clock)⟩⟩, ?_⟩
  intro binds
  have bound := binds 0 0 le_rfl
  rw [passedBetween, spoof, Machine.trace_concat run, passed,
    passedAt_of_passes (isPeer right) passes] at bound
  have oneMore : (List.replicate settings.config.rateLimit.ipFallbackBurst.toNat
      (RateCall.secs 0) ++ [RateCall.secs 0]).countP
        (fun time => decide (0 ≤ time) && decide (time ≤ 0)) =
      settings.config.rateLimit.ipFallbackBurst.toNat + 1 := by
    simp [RateCall.secs, List.countP_append, List.countP_replicate]
  rw [oneMore, sub_self, mul_zero, add_zero] at bound
  exact absurd (Nat.cast_le.mp bound) (Nat.not_succ_le_self _)

end Spoofing

/-- The fallback limit and what a peer chooses to send.  Over the rationals the limit
binds a peer without a key in every run if and only if such requests are refused, the
burst is empty, or the headers that the peer may send all give one address. -/
theorem binds_iff_one_address (enabled : settings.config.rateLimit.enabled = true)
    {choices : HttpRequest → Prop}
    (keyless : ∀ http, choices http → extractApiKey backend.parseQuery http = none) :
    (∀ store start moments (final : Listener .rat),
      Run backend settings store start moments final → Sends peer choices moments →
      Binds backend settings peer store start moments) ↔
    (settings.config.auth.enabled = true ∧
        settings.config.auth.allowUnauthenticated = false) ∨
      settings.config.rateLimit.ipFallbackBurst = 0 ∨
      ∀ left right, choices left → choices right →
        extractClientIp left.headers = extractClientIp right.headers := by
  constructor
  · intro binds
    by_contra otherwise
    rw [not_or, not_or] at otherwise
    obtain ⟨isOpen, nonempty, several⟩ := otherwise
    push Not at several
    obtain ⟨left, right, isLeft, isRight, different⟩ := several
    obtain ⟨⟨final, run⟩, exceeds⟩ := not_binds_of_two_addresses peer enabled isOpen nonempty
      (keyless left isLeft) (keyless right isRight) different
    refine exceeds (binds .new 0 _ final run ?_)
    intro moment member web isRequest _
    rcases mem_spoof member with rfl | rfl
    · cases isRequest
      exact isLeft
    · cases isRequest
      exact isRight
  · rintro shut store start moments final run sends
    rw [← or_assoc] at shut
    rcases shut with shut | same
    · refine binds_of_none run fun moment member state ready => ?_
      refine passedAt_eq_nil enabled ready shut fun web isRequest isPeer => ?_
      exact keyless web.http (sends moment member web isRequest isPeer)
    · obtain ⟨address, isAddress⟩ : ∃ address, ∀ http, choices http →
          extractClientIp http.headers = address := by
        by_cases nonempty : ∃ http, choices http
        · obtain ⟨http, isChoice⟩ := nonempty
          exact ⟨_, fun other isOther => same other http isOther isChoice⟩
        · exact ⟨"", fun http isChoice => absurd ⟨http, isChoice⟩ nonempty⟩
      have sendsAddress : Sends peer (fun http => extractApiKey backend.parseQuery http = none ∧
          extractClientIp http.headers = address) moments := by
        intro moment member web isRequest isPeer
        have isChoice := sends moment member web isRequest isPeer
        exact ⟨keyless web.http isChoice, isAddress web.http isChoice⟩
      exact binds_of_one_address enabled run sendsAddress

/-- A request that names its own address. -/
def forwardedFor (address : String) : HttpRequest where
  headers := [("x-forwarded-for", asBytes address)]
  query := none

/-- The small gateway with a fallback limit of one request a second. -/
def limitedSettings : Settings :=
  { smallSettings [] with
    config :=
      { (smallSettings []).config with
        rateLimit := { ipFallbackRps := 1, ipFallbackBurst := 1 } } }

/-- A peer that names the same address twice is bound. -/
theorem binds_honest_peer :
    let moments : List Moment :=
      [⟨0, .request (requestOf "203.0.113.9:50000" (forwardedFor "203.0.113.9"))⟩,
        ⟨0, .request (requestOf "203.0.113.9:50000" (forwardedFor "203.0.113.9"))⟩]
    (∃ final : Listener .rat, Run smallBackend limitedSettings .new 0 moments final) ∧
      Binds smallBackend limitedSettings "203.0.113.9:50000" .new 0 moments := by
  intro moments
  have run : ∃ final : Listener .rat, Run smallBackend limitedSettings .new 0 moments final :=
    ⟨_, rfl⟩
  obtain ⟨final, isRun⟩ := run
  have keyless : ∀ http, http = forwardedFor "203.0.113.9" →
      extractApiKey smallBackend.parseQuery http = none := by
    rintro http rfl
    decide
  have sends : Sends "203.0.113.9:50000" (· = forwardedFor "203.0.113.9") moments := by
    intro moment member web isRequest _
    rcases List.mem_pair.mp member with rfl | rfl
    · cases isRequest
      rfl
    · cases isRequest
      rfl
  refine ⟨⟨final, isRun⟩, (binds_iff_one_address rfl keyless).mpr (Or.inr (Or.inr ?_))
    .new 0 moments final isRun sends⟩
  rintro left right rfl rfl
  rfl

/-- Two requests at one instant with two addresses are both passed on, though the
fallback limit allows one. -/
theorem spoofed_peer_exceeds :
    let moments : List Moment :=
      [⟨0, .request (requestOf "203.0.113.9:50000" (forwardedFor "198.51.100.1"))⟩,
        ⟨0, .request (requestOf "203.0.113.9:50000" (forwardedFor "198.51.100.2"))⟩]
    limitedSettings.config.rateLimit.enabled = true ∧
    validate limitedSettings.config = .ok () ∧
    (∃ final : Listener .rat, Run smallBackend limitedSettings .new 0 moments final) ∧
    (Sends "203.0.113.9:50000"
      (fun http => extractApiKey smallBackend.parseQuery http = none) moments) ∧
    ¬ Binds smallBackend limitedSettings "203.0.113.9:50000" .new 0 moments := by
  intro moments
  refine ⟨rfl, by decide +kernel, ⟨_, rfl⟩, ?_, ?_⟩
  · intro moment member web isRequest _
    rcases List.mem_pair.mp member with rfl | rfl
    · cases isRequest
      decide
    · cases isRequest
      decide
  · intro binds
    have both : passedBetween smallBackend limitedSettings "203.0.113.9:50000" .new 0 moments
        0 0 = 2 := by
      decide +kernel
    have bound := binds 0 0 le_rfl
    rw [both, sub_self, mul_zero, add_zero] at bound
    exact absurd (Nat.cast_le.mp bound) (by decide)

end Listener

end SorobanGate
