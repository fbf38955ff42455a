import SorobanGate.Config.Validate
import SorobanGate.Listener.Step

/-!
# Tiers without a limit

A tier whose rate and burst are zero is documented to have no limit.  To the limiter
they are limits like any others: the bucket of such a tier is created empty and never
refilled, so every request that draws on it is rejected.
-/

namespace SorobanGate

/-- What is capped at zero tokens is less than one: true of `f64::min` whatever the
amount is. -/
def TokenArith.Capped (arith : TokenArith) : Prop :=
  ∀ amount, arith.ge (arith.min amount (arith.ofU32 0)) arith.one = false

theorem TokenArith.rat_capped : TokenArith.rat.Capped := by
  intro amount
  rw [decide_eq_false_iff_not, not_le]
  exact (min_le_right amount 0).trans_lt one_pos

theorem TokenBucketRateLimiter.isOk_checkRate_zero {arith : TokenArith} (capped : arith.Capped)
    (limiter : TokenBucketRateLimiter arith) (key : String) (requestsPerSecond : UInt32)
    (now : Instant) : (limiter.checkRate key requestsPerSecond 0 now).2.isOk = false := by
  rw [isOk_checkRate]
  exact capped _

namespace Listener

variable {arith : TokenArith} (backend : AuthBackend) (settings : Settings)

/-- A request with a valid key of a configured tier whose rate and burst are zero. -/
def IsUnlimited (listener : Listener arith) (web : WebRequest) : Prop :=
  ∃ key tier, (listener.front backend settings).presented web.http = some key ∧
    (listener.front backend settings).Serves key tier ∧
    tier.requestsPerSecond = 0 ∧ tier.burst = 0

/-- Whether the rate limit middleware rejects a request that authentication passes on. -/
def rejects (listener : Listener arith) (web : WebRequest) (now : Instant) : Bool :=
  match authMiddleware backend settings.config.auth listener.keyStore web.http with
  | .respond _ => false
  | .next passed =>
      (rateLimitMiddleware settings.config listener.limits passed now).2.status?.isSome

/-- None of the requests of a run that have such a key is rejected. -/
def NoneRejected (arith : TokenArith) (store : SqliteKeyStore) (start : Instant)
    (moments : List Moment) : Prop :=
  Machine.Always (step backend settings)
    (fun listener moment => ∀ web, moment.occurrence = .request web →
      listener.IsUnlimited backend settings web →
      listener.rejects backend settings web moment.time = false)
    (init settings arith store start) moments

/-- No request of a run has such a key. -/
def NoneUnlimited (arith : TokenArith) (store : SqliteKeyStore) (start : Instant)
    (moments : List Moment) : Prop :=
  Machine.Always (step backend settings)
    (fun listener moment => ∀ web, moment.occurrence = .request web →
      ¬ listener.IsUnlimited backend settings web)
    (init settings arith store start) moments

variable {backend settings} {listener : Listener arith} {web : WebRequest} {now : Instant}

theorem rejects_eq {call : RateCall}
    (isCall : (listener.front backend settings).calls ⟨web.http, now⟩ = some call) :
    listener.rejects backend settings web now =
      ((listener.front backend settings).process listener.limits
        ⟨web.http, now⟩).2.status?.isSome := by
  unfold Front.calls at isCall
  unfold rejects Front.process
  split at isCall
  · cases isCall
  next passed passes =>
    simp only [front] at passes ⊢
    rw [passes]

/-- Where requests are limited, one with a limit of zero is rejected in every state. -/
theorem rejects_of_isUnlimited (capped : arith.Capped) (ready : Ready settings listener)
    (unlimited : listener.IsUnlimited backend settings web) :
    listener.rejects backend settings web now = settings.config.rateLimit.enabled := by
  obtain ⟨key, tier, isKey, serves, -, noBurst⟩ := unlimited
  have authEnabled : settings.config.auth.enabled = true := by
    obtain ⟨store, -, isStore, -⟩ := serves.found
    rw [← ready.keyStore, show listener.keyStore = some store from isStore]
    rfl
  have isCall := Front.calls_of_serves authEnabled serves isKey now
  rw [rejects_eq isCall]
  cases enabled : settings.config.rateLimit.enabled with
  | false =>
      have noLimiter : listener.limits.rateLimiter = none := by
        rw [← Option.not_isSome_iff_eq_none, show listener.limits.rateLimiter.isSome =
          listener.rateLimiter.isSome from rfl, ready.limiter, enabled]
        decide
      rw [(Front.process_of_no_limiter isCall noLimiter).2]
      rfl
  | true =>
      obtain ⟨limiter, isLimiter⟩ := ready.exists_limiter enabled
      have limits : listener.limits.rateLimiter = some limiter := isLimiter
      rw [(Front.process_of_calls enabled isCall limits).2, noBurst,
        TokenBucketRateLimiter.isOk_checkRate_zero capped]
      rfl

/-- Zero means unlimited only where nothing is limited.  In every run of the listener the
requests with a valid key of a tier whose rate and burst are zero are all let through if
and only if rate limiting is disabled or there are none. -/
theorem noneRejected_iff (capped : arith.Capped) (store : SqliteKeyStore) (start : Instant)
    (moments : List Moment) :
    NoneRejected backend settings arith store start moments ↔
      settings.config.rateLimit.enabled = false ∨
        NoneUnlimited backend settings arith store start moments := by
  have verdict : ∀ {before web now} {state : Listener arith},
      Run backend settings store start before state →
      state.IsUnlimited backend settings web →
      state.rejects backend settings web now = settings.config.rateLimit.enabled :=
    fun prior unlimited => rejects_of_isUnlimited capped (ready_of_run prior) unlimited
  constructor
  · intro none
    cases enabled : settings.config.rateLimit.enabled with
    | false => exact Or.inl rfl
    | true =>
        refine Or.inr fun before moment after state split prior web isRequest unlimited => ?_
        have passed := none before moment after state split prior web isRequest unlimited
        rw [verdict prior unlimited, enabled] at passed
        cases passed
  · rintro (disabled | absent) before moment after state split prior web isRequest unlimited
    · rw [verdict prior unlimited, disabled]
    · exact absurd unlimited (absent before moment after state split prior web isRequest)

/-- The small gateway with the tier that the documentation calls unlimited. -/
def unlimitedSettings (limited : Bool) : Settings :=
  { smallSettings [] with
    config :=
      { (smallSettings []).config with
        auth := { tiers := [⟨"unlimited", 0, 0⟩] }
        rateLimit := { enabled := limited } } }

/-- A request with a bearer token. -/
def bearerRequest (key : String) : WebRequest where
  peer := "203.0.113.9:50000"
  method := .other "POST"
  path := "/"
  http := bearer key
  body := []

/-- A key of that tier is created and used. -/
def unlimitedUse : List Moment :=
  [⟨0, .keys (.create "sk_test_list_1" "unlimited" "key 1" 0 0)⟩,
    ⟨0, .request (bearerRequest "sk_test_list_1")⟩]

theorem isUnlimited_created (limited : Bool) :
    ∃ listener : Listener .rat,
      Run smallBackend (unlimitedSettings limited) .new 0 (unlimitedUse.take 1) listener ∧
      listener.IsUnlimited smallBackend (unlimitedSettings limited)
        (bearerRequest "sk_test_list_1") := by
  have isKey : extractApiKey smallBackend.parseQuery (bearer "sk_test_list_1") =
      some "sk_test_list_1" := by
    decide +kernel
  refine ⟨_, rfl, "sk_test_list_1", ⟨"unlimited", 0, 0⟩, isKey, Front.serves_of_lookup ?_ ?_,
    rfl, rfl⟩
  · cases limited <;> decide +kernel
  · cases limited <;> decide +kernel

/-- Where nothing is limited the key is let through. -/
theorem noneRejected_disabled :
    (∃ listener : Listener .rat,
      Run smallBackend (unlimitedSettings false) .new 0 (unlimitedUse.take 1) listener ∧
      listener.IsUnlimited smallBackend (unlimitedSettings false)
        (bearerRequest "sk_test_list_1")) ∧
    NoneRejected smallBackend (unlimitedSettings false) .rat .new 0 unlimitedUse :=
  ⟨isUnlimited_created false,
    (noneRejected_iff TokenArith.rat_capped .new 0 unlimitedUse).mpr (Or.inl rfl)⟩

/-- With the default limits its first request is rejected. -/
theorem unlimited_rejected :
    validate (unlimitedSettings true).config = .ok () ∧
    ¬ NoneRejected smallBackend (unlimitedSettings true) .rat .new 0 unlimitedUse := by
  refine ⟨by decide +kernel, fun none => ?_⟩
  obtain ⟨listener, run, unlimited⟩ := isUnlimited_created true
  have passed := none _ _ [] listener rfl run _ rfl unlimited
  rw [rejects_of_isUnlimited TokenArith.rat_capped (ready_of_run run) unlimited] at passed
  cases passed

end Listener

end SorobanGate
