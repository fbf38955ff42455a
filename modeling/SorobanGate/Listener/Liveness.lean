import SorobanGate.Config.Validate
import SorobanGate.Listener.Limits

/-!
# Liveness

`GET /health` is what load balancers and orchestrators probe.  The route lies behind
the same middlewares as all others, so a probe is refused when requests without a key
are, and it draws on the bucket of all clients whose address is not known.
-/

namespace SorobanGate

namespace Listener

variable {arith : TokenArith} {backend : AuthBackend} {settings : Settings}
variable {listener : Listener arith} {web : WebRequest} {now : Instant}

/-- A `GET /health` without a key and without forwarding headers. -/
structure IsProbe (backend : AuthBackend) (web : WebRequest) : Prop where
  isGet : web.method = .get
  isHealth : web.path = "/health"
  keyless : extractApiKey backend.parseQuery web.http = none
  noForwardedFor : web.http.headers.lookup "x-forwarded-for" = none
  noRealIp : web.http.headers.lookup "x-real-ip" = none

/-- The bucket of the clients whose address is not known has a token. -/
def HasToken (settings : Settings) (listener : Listener arith) (now : Instant) : Prop :=
  ∀ limiter, listener.rateLimiter = some limiter →
    arith.ge
      (limiter.level "ip:unknown" settings.config.rateLimit.ipFallbackRps
        settings.config.rateLimit.ipFallbackBurst now)
      arith.one = true

theorem IsProbe.extractClientIp (probe : IsProbe backend web) :
    extractClientIp web.http.headers = "unknown" := by
  simp [SorobanGate.extractClientIp, probe.noForwardedFor, probe.noRealIp]

/-- Over the rationals the bucket has a token when one more call would not overdraw any
window of the calls that the run has made on it. -/
theorem hasToken_iff_within {listener : Listener .rat} {store : SqliteKeyStore}
    {start : Instant} {moments : List Moment}
    (run : Run backend settings store start moments listener)
    (inOrder : listener.gateway.clock ≤ now)
    (enabled : settings.config.rateLimit.enabled = true) :
    listener.HasToken settings now ↔
      Refill.Within (settings.config.rateLimit.ipFallbackBurst.toNat : ℚ)
        settings.config.rateLimit.ipFallbackRps.toNat
        (RateCall.history .rat "ip:unknown" (allCalls backend settings .rat store start moments))
        (RateCall.secs now) 1 := by
  have tracks := tracks_of_run run "unknown"
  obtain ⟨limiter, isLimiter⟩ := (ready_of_run run).exists_limiter enabled
  have isView : listener.limiterView = limiter := by
    rw [limiterView, isLimiter, Option.getD_some]
  rw [isView] at tracks
  have past : ∀ bucket, limiter.lookup "ip:unknown" = some bucket →
      bucket.lastRefill ≤ now := by
    intro bucket found
    obtain ⟨call, member, isNow⟩ := tracks.recent bucket found
    exact isNow ▸ ((allCalls_ordered run).2 call member).trans inOrder
  have level := TokenBucketRateLimiter.tokens_eq_available
    settings.config.rateLimit.ipFallbackRps settings.config.rateLimit.ipFallbackBurst past
  have agrees : Refill.Agrees (settings.config.rateLimit.ipFallbackBurst.toNat : ℚ)
      settings.config.rateLimit.ipFallbackRps.toNat
      (RateCall.history .rat "ip:unknown" (allCalls backend settings .rat store start moments))
      ((limiter.lookup "ip:unknown").map Bucket.toStore) := tracks.agrees
  rw [← agrees (RateCall.secs now) 1, ← level]
  simp [HasToken, isLimiter, TokenBucketRateLimiter.level]

theorem status_of_hasToken (ready : Ready settings listener) (probe : IsProbe backend web)
    (letIn : (listener.front backend settings).refusesKeyless = false)
    (hasToken : settings.config.rateLimit.enabled = true → listener.HasToken settings now) :
    ((listener.front backend settings).process listener.limits
      ⟨web.http, now⟩).2.status? = none := by
  have keyless : (listener.front backend settings).presented web.http = none := probe.keyless
  have isCall := Front.calls_of_keyless keyless letIn now
  rw [probe.extractClientIp] at isCall
  cases isLimiter : listener.rateLimiter with
  | none => exact (Front.process_of_no_limiter isCall isLimiter).2
  | some limiter =>
      have enabled : settings.config.rateLimit.enabled = true := by
        rw [← ready.limiter, isLimiter]
        rfl
      have limits : listener.limits.rateLimiter = some limiter := isLimiter
      rw [(Front.process_of_calls enabled isCall limits).2,
        TokenBucketRateLimiter.isOk_checkRate]
      exact if_pos (hasToken enabled limiter isLimiter)

theorem status_of_not_hasToken (enabled : settings.config.rateLimit.enabled = true)
    (probe : IsProbe backend web)
    (letIn : (listener.front backend settings).refusesKeyless = false)
    (short : ¬ listener.HasToken settings now) :
    ((listener.front backend settings).process listener.limits
      ⟨web.http, now⟩).2.status? = some 429 := by
  have keyless : (listener.front backend settings).presented web.http = none := probe.keyless
  have isCall := Front.calls_of_keyless keyless letIn now
  rw [probe.extractClientIp] at isCall
  unfold HasToken at short
  push Not at short
  obtain ⟨limiter, isLimiter, empty⟩ := short
  have limits : listener.limits.rateLimiter = some limiter := isLimiter
  rw [(Front.process_of_calls enabled isCall limits).2, TokenBucketRateLimiter.isOk_checkRate]
  exact if_neg empty

theorem serve_of_passed (probe : IsProbe backend web)
    (passed : ((listener.front backend settings).process listener.limits
      ⟨web.http, now⟩).2.status? = none) :
    (listener.serve backend settings web now).2 =
      .respond (healthHandler listener.startTime listener.gateway.app now) := by
  unfold serve
  rw [layers_eq]
  generalize (listener.front backend settings).process listener.limits ⟨web.http, now⟩ =
    processed at passed ⊢
  obtain ⟨limits, authed | response⟩ := processed
  · simp [routes, probe.isGet, probe.isHealth]
  · cases passed

theorem serve_of_refused {status : StatusCode} (failure : status ≠ 200)
    (refused : ((listener.front backend settings).process listener.limits
      ⟨web.http, now⟩).2.status? = some status) :
    (listener.serve backend settings web now).2 ≠
      .respond (healthHandler listener.startTime listener.gateway.app now) := by
  unfold serve
  rw [layers_eq]
  generalize (listener.front backend settings).process listener.limits ⟨web.http, now⟩ =
    processed at refused ⊢
  obtain ⟨limits, authed | response⟩ := processed
  · cases refused
  · cases refused
    intro answered
    cases answered
    exact failure rfl

/-- Liveness.  In every reachable state a probe is answered by the health handler if and
only if requests without a key are let in and, where requests are limited at all, the
bucket that it shares with every other client of unknown address has a token. -/
theorem health_answered_iff {store : SqliteKeyStore} {start : Instant} {moments : List Moment}
    (run : Run backend settings store start moments listener) (probe : IsProbe backend web) :
    (listener.serve backend settings web now).2 =
        .respond (healthHandler listener.startTime listener.gateway.app now) ↔
      (settings.config.auth.enabled = true → settings.config.auth.allowUnauthenticated = true) ∧
        (settings.config.rateLimit.enabled = true → listener.HasToken settings now) := by
  have ready := ready_of_run run
  have letsIn : (listener.front backend settings).refusesKeyless = false ↔
      (settings.config.auth.enabled = true →
        settings.config.auth.allowUnauthenticated = true) := by
    rw [← Bool.not_eq_true, ready.refusesKeyless_iff]
    simp
  rw [← letsIn]
  constructor
  · intro answered
    have letIn : (listener.front backend settings).refusesKeyless = false := by
      by_contra refused
      have keyless : (listener.front backend settings).presented web.http = none :=
        probe.keyless
      exact serve_of_refused (by decide)
        (Front.process_of_refused keyless (Bool.eq_true_of_not_eq_false refused) now).2 answered
    refine ⟨letIn, fun enabled => ?_⟩
    by_contra short
    exact serve_of_refused (by decide) (status_of_not_hasToken enabled probe letIn short)
      answered
  · rintro ⟨letIn, hasToken⟩
    exact serve_of_passed probe (status_of_hasToken ready probe letIn hasToken)

/-- A probe of an orchestrator. -/
def livenessProbe : WebRequest where
  peer := "10.0.0.7:40112"
  method := .get
  path := "/health"
  http := ⟨[], none⟩
  body := []

theorem isProbe_livenessProbe : IsProbe smallBackend livenessProbe :=
  ⟨rfl, rfl, rfl, rfl, rfl⟩

/-- A gateway that has just started answers its first probe. -/
theorem health_answered_first :
    ∃ listener : Listener .rat, Run smallBackend (smallSettings []) .new 0 [] listener ∧
      (listener.serve smallBackend (smallSettings []) livenessProbe 1).2 =
        .respond (healthHandler listener.startTime listener.gateway.app 1) := by
  have run : Run smallBackend (smallSettings []) .new 0 []
      (init (smallSettings []) .rat .new 0) := rfl
  refine ⟨_, run, (health_answered_iff run isProbe_livenessProbe).mpr ⟨fun _ => rfl, ?_⟩⟩
  intro _ limiter isLimiter
  cases isLimiter
  decide +kernel

/-- The small gateway, closed to requests without a key. -/
def closedSettings : Settings :=
  { smallSettings [] with
    config := { (smallSettings []).config with auth := { allowUnauthenticated := false } } }

/-- A probe after ten requests of unknown address finds the default limits used up, and
a probe of a gateway that is closed to requests without a key is refused at once. -/
theorem health_refused :
    IsProbe smallBackend livenessProbe ∧
    (validate (smallSettings []).config = .ok () ∧
      ∃ listener : Listener .rat,
        Run smallBackend (smallSettings []) .new 0
          (List.replicate 10 ⟨0, .request livenessProbe⟩) listener ∧
        (listener.serve smallBackend (smallSettings []) livenessProbe 0).2.status? =
          some 429) ∧
    (validate closedSettings.config = .ok () ∧
      ∃ listener : Listener .rat, Run smallBackend closedSettings .new 0 [] listener ∧
        (listener.serve smallBackend closedSettings livenessProbe 0).2.status? = some 401) := by
  refine ⟨isProbe_livenessProbe, ⟨by decide +kernel, ?_⟩, by decide +kernel, _, rfl,
    by decide +kernel⟩
  have computed : ((Machine.exec (step smallBackend (smallSettings []))
      (init (smallSettings []) .rat .new 0)
      (List.replicate 10 ⟨0, .request livenessProbe⟩)).map fun listener =>
        (listener.serve smallBackend (smallSettings []) livenessProbe 0).2.status?) =
      some (some 429) := by
    decide +kernel
  obtain ⟨listener, run, refused⟩ := Option.map_eq_some_iff.mp computed
  exact ⟨listener, run, refused⟩

end Listener

end SorobanGate
