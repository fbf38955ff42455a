import SorobanGate.Gateway.Counting
import SorobanGate.Listener.Peers

/-!
# What limiting leaves behind

A rejection is counted under the tier of the request that it is about, and a call of
`check_rate` leaves a bucket.  The counters are exact over whole runs.  The table of
buckets only grows, and a peer without a key can make it grow as far as it likes.
-/

namespace SorobanGate

/-! ## Rejections -/

theorem Count.weighs_rejections (labels : TierReasonLabels) :
    Weighs (fun metrics => metrics.rateLimitRejectionsTotal.count labels) fun _ => 0 := by
  intro metrics count
  cases count <;> rfl

theorem authMiddleware_ne_limited {backend : AuthBackend} {config : AuthConfig}
    {keyStore : Option SqliteKeyStore} {request : HttpRequest} {response : Response}
    (refused : authMiddleware backend config keyStore request = .respond response) :
    response.status ≠ 429 := by
  have differs : ∀ status code message, status ≠ 429 →
      (.respond (authErrorResponse status code message) : Outcome AuthedRequest) =
        .respond response → response.status ≠ 429 := by
    intro status code message other same
    cases same
    exact other
  unfold authMiddleware at refused
  split at refused
  · split at refused
    · split at refused
      · split at refused
        · exact differs 403 _ _ (by decide) refused
        · cases refused
      · split at refused
        · cases refused
        · exact differs 401 _ _ (by decide) refused
      · exact differs 500 _ _ (by decide) refused
    · split at refused
      · cases refused
      · exact differs 401 _ _ (by decide) refused
  · cases refused

namespace Listener

variable {arith : TokenArith} (backend : AuthBackend) (settings : Settings)

/-- The tier that a request is rejected under. -/
def tierLabel (listener : Listener arith) (web : WebRequest) : String :=
  match authMiddleware backend settings.config.auth listener.keyStore web.http with
  | .next passed => passed.authTier.getD "unauthenticated"
  | .respond _ => "unauthenticated"

/-- The labels of the request of a step, if it is answered that a limit is exceeded. -/
def rejections (listener : Listener arith) (moment : Moment) : List TierReasonLabels :=
  match moment.occurrence with
  | .request web =>
      if (listener.serve backend settings web moment.time).2.status? = some 429 then
        [{ tier := listener.tierLabel backend settings web
           reason := "rate_exceeded" }]
      else []
  | _ => []

def allRejections (arith : TokenArith) (store : SqliteKeyStore) (start : Instant)
    (moments : List Moment) : List TierReasonLabels :=
  Machine.trace (step backend settings) (rejections backend settings)
    (init settings arith store start) moments

variable {backend settings} {listener next : Listener arith} {moment : Moment}
variable {store : SqliteKeyStore} {start : Instant} {moments : List Moment}

theorem routes_ne_limited (listener : Listener arith) (web : WebRequest) (now : Instant) :
    (listener.routes web now).status? ≠ some 429 := by
  unfold routes
  split
  · cases web.method <;> simp [Outcome.status?, healthHandler, Response.json]
  · simp [Outcome.status?]

/-- What a request does to the metrics: it is counted if the limiter rejects it. -/
theorem metrics_accept (listener : Listener arith) (web : WebRequest) (now : Instant) :
    (listener.accept backend settings web now).gateway.app.metrics =
      listener.gateway.app.metrics.map fun metrics =>
        (rejections backend settings listener ⟨now, .request web⟩).foldl
          (fun metrics labels => metrics.countRejection labels) metrics := by
  have quiet : ∀ {limits : LimitState arith} {outcome : Outcome WebRequest},
      listener.serve backend settings web now = (limits, outcome) →
      outcome.status? ≠ some 429 →
      rejections backend settings listener ⟨now, .request web⟩ = [] := by
    intro limits outcome served other
    exact if_neg (by rw [served]; exact other)
  cases passes : authMiddleware backend settings.config.auth listener.keyStore web.http with
  | respond response =>
      have served : listener.serve backend settings web now =
          (listener.limits, .respond response) := by
        simp only [serve, layers_eq, Front.process, front, passes]
      have other := quiet served (by
        simpa [Outcome.status?] using authMiddleware_ne_limited passes)
      simp [accept, served, other, limits]
  | next passed =>
      cases limited : rateLimitMiddleware settings.config listener.limits passed now with
      | mk limits outcome =>
          cases outcome with
          | next authed =>
              have served : listener.serve backend settings web now =
                  (limits, listener.routes web now) := by
                simp only [serve, layers_eq, Front.process, front, passes, limited]
              have other := quiet served (listener.routes_ne_limited web now)
              have sameMetrics : limits.metrics = listener.limits.metrics := by
                unfold rateLimitMiddleware at limited
                split at limited
                · dsimp only at limited
                  split at limited <;> cases limited
                  rfl
                · cases limited
                  rfl
              simp [accept, served, other, sameMetrics, Listener.limits]
          | respond response =>
              have served : listener.serve backend settings web now =
                  (limits, .respond response) := by
                simp only [serve, layers_eq, Front.process, front, passes, limited]
              have rejected : response = rateLimitResponse ∧
                  limits.metrics = listener.limits.metrics.map fun metrics =>
                    metrics.countRejection
                      { tier := passed.authTier.getD "unauthenticated"
                        reason := "rate_exceeded" } := by
                unfold rateLimitMiddleware at limited
                split at limited
                · dsimp only at limited
                  split at limited <;> cases limited
                  exact ⟨rfl, rfl⟩
                · cases limited
              have counted : rejections backend settings listener ⟨now, .request web⟩ =
                  [{ tier := passed.authTier.getD "unauthenticated"
                     reason := "rate_exceeded" }] := by
                have isLimited :
                    (listener.serve backend settings web now).2.status? = some 429 := by
                  rw [served, rejected.1]
                  rfl
                simp only [rejections, if_pos isLimited, tierLabel, passes]
              simp only [accept, served, counted, rejected.2, List.foldl_cons, List.foldl_nil,
                Listener.limits]

theorem reading_of_other (metered : listener.gateway.app.metrics.isSome = true)
    (stepped : step backend settings listener moment = some next)
    (noRequest : ∀ web, moment.occurrence ≠ .request web) (labels : TierReasonLabels) :
    (next.gateway.app.metrics.isSome = true ∧
      next.gateway.app.reading (fun metrics => metrics.rateLimitRejectionsTotal.count labels) =
        listener.gateway.app.reading fun metrics =>
          metrics.rateLimitRejectionsTotal.count labels) := by
  have passed : ∀ {event reached}, listener.pass settings moment.time event = some reached →
      reached.gateway.app.metrics.isSome = true ∧
        reached.gateway.app.reading (fun metrics =>
            metrics.rateLimitRejectionsTotal.count labels) =
          listener.gateway.app.reading fun metrics =>
            metrics.rateLimitRejectionsTotal.count labels := by
    intro event reached isPass
    obtain ⟨gateway, isStep, rfl⟩ := Option.map_eq_some_iff.mp isPass
    refine ⟨Gateway.isSome_metrics_of_step metered isStep, ?_⟩
    have kept := Gateway.reading_of_step (Count.weighs_rejections labels) metered isStep
    simpa using kept
  obtain ⟨time, occurrence⟩ := moment
  unfold step at stepped
  split at stepped
  · cases stepped
  · cases occurrence with
    | request web => exact absurd rfl (noRequest web)
    | read index complete =>
        obtain ⟨web, -, remaining⟩ := Option.bind_eq_some_iff.mp stepped
        obtain ⟨reached, isPass, isNext⟩ := Option.bind_eq_some_iff.mp remaining
        cases isNext
        have kept := passed isPass
        exact kept
    | resume request action => exact passed stepped
    | background event => exact passed stepped
    | keys op =>
        cases stepped
        exact ⟨metered, rfl⟩

theorem count_rejections (metrics : Metrics) (rejected : List TierReasonLabels)
    (labels : TierReasonLabels) :
    (rejected.foldl (fun metrics labels => metrics.countRejection labels) metrics
      ).rateLimitRejectionsTotal.count labels =
      metrics.rateLimitRejectionsTotal.count labels + rejected.count labels := by
  induction rejected generalizing metrics with
  | nil => rfl
  | cons first rejected ih =>
      have counted : (metrics.countRejection first).rateLimitRejectionsTotal.count labels =
          metrics.rateLimitRejectionsTotal.count labels + if first = labels then 1 else 0 :=
        Family.count_inc _ first labels
      rw [List.foldl_cons, ih, counted, List.count_cons]
      simp only [beq_iff_eq]
      omega

/-- Rejections are counted exactly.  When metrics are kept, in every run and for every set
of labels the counter reads how many requests were answered that their limit is exceeded
and had the tier of the labels. -/
theorem rejections_counted (metered : settings.config.telemetry.metricsEnabled = true)
    (run : Run backend settings store start moments listener) (labels : TierReasonLabels) :
    listener.gateway.app.reading (fun metrics =>
        metrics.rateLimitRejectionsTotal.count labels) =
      (allRejections backend settings arith store start moments).count labels := by
  have counted : listener.gateway.app.metrics.isSome = true ∧
      listener.gateway.app.reading (fun metrics =>
          metrics.rateLimitRejectionsTotal.count labels) =
        (allRejections backend settings arith store start moments).count labels := by
    refine Machine.exec_history
      (fun moments (reached : Listener arith) => reached.gateway.app.metrics.isSome = true ∧
        reached.gateway.app.reading (fun metrics =>
            metrics.rateLimitRejectionsTotal.count labels) =
          (allRejections backend settings arith store start moments).count labels) ?_ ?_ run
    · simp [init, Gateway.init, buildState, metered, AppState.reading, allRejections,
        Metrics.new, Family.count]
    · rintro moments state moment next prior ⟨isMetered, ih⟩ stepped
      have extended : allRejections backend settings arith store start (moments ++ [moment]) =
          allRejections backend settings arith store start moments ++
            rejections backend settings state moment :=
        Machine.trace_concat prior
      rw [extended, List.count_append, ← ih]
      obtain ⟨-, -, ⟨web, isRequest, rfl⟩ | ⟨noRequest, -, -⟩⟩ := step_cases stepped
      · obtain ⟨time, occurrence⟩ := moment
        obtain rfl := isRequest
        obtain ⟨metrics, isMetrics⟩ := Option.isSome_iff_exists.mp isMetered
        rw [metrics_accept, Option.isSome_map]
        refine ⟨isMetered, ?_⟩
        simp only [AppState.reading, metrics_accept, isMetrics, Option.map_some,
          Option.getD_some]
        exact count_rejections metrics _ labels
      · obtain ⟨still, kept⟩ := reading_of_other isMetered stepped noRequest labels
        have nothing : rejections backend settings state moment = [] := by
          unfold rejections
          split
          next web isRequest => exact absurd isRequest (noRequest web)
          · rfl
        exact ⟨still, by rw [kept, nothing, List.count_nil, Nat.add_zero]⟩
  exact counted.2

/-- The second of two requests with one address is rejected and counted. -/
theorem rejections_counted_second :
    let moments : List Moment :=
      [⟨0, .request (requestOf "203.0.113.9:50000" (forwardedFor "203.0.113.9"))⟩,
        ⟨0, .request (requestOf "203.0.113.9:50000" (forwardedFor "203.0.113.9"))⟩]
    ∃ final : Listener .rat, Run smallBackend limitedSettings .new 0 moments final ∧
      final.gateway.app.reading (fun metrics =>
        metrics.rateLimitRejectionsTotal.count ⟨"unauthenticated", "rate_exceeded"⟩) = 1 := by
  intro moments
  have rejected : allRejections smallBackend limitedSettings .rat .new 0 moments =
      [⟨"unauthenticated", "rate_exceeded"⟩] := by
    decide +kernel
  have run : ∃ final : Listener .rat, Run smallBackend limitedSettings .new 0 moments final :=
    ⟨_, rfl⟩
  obtain ⟨final, run⟩ := run
  refine ⟨final, run, ?_⟩
  rw [rejections_counted rfl run, rejected]
  rfl

/-! ## Buckets -/

theorem keys_checkRate (limiter : TokenBucketRateLimiter arith) (call : RateCall) :
    (limiter.checkRate call.key call.requestsPerSecond call.burst call.now).1.keys =
      call.key :: limiter.keys.erase call.key := by
  unfold TokenBucketRateLimiter.checkRate
  dsimp only
  split <;> exact AList.keys_insert limiter

/-- One bucket for each rate key: in every run the limiter keeps a bucket under a key
exactly if a request was ever limited under it. -/
theorem mem_limiterView_iff (run : Run backend settings store start moments listener)
    (key : String) :
    key ∈ listener.limiterView ↔
      ∃ call ∈ allCalls backend settings arith store start moments, call.key = key := by
  refine Machine.exec_history
    (fun calls (limiter : TokenBucketRateLimiter arith) =>
      key ∈ limiter ↔ ∃ call ∈ calls, call.key = key) ?_ ?_ (limiterView_of_run run)
  · simp [TokenBucketRateLimiter.new]
  · intro calls limiter call next _ ih stepped
    obtain rfl := Option.some.inj stepped
    rw [AList.mem_keys, keys_checkRate, List.mem_cons]
    simp only [List.mem_append, List.mem_singleton, or_and_right, exists_or, exists_eq_left]
    by_cases same : key = call.key
    · simp [same]
    · rw [List.mem_erase_of_ne same, ← AList.mem_keys, ih]
      simp [same, Ne.symm same]

/-- A request that names an address of its own choice, as long as it likes. -/
def claiming (peer : String) (length : Nat) : WebRequest where
  peer := peer
  method := .get
  path := "/"
  http :=
    { headers := [("x-forwarded-for", List.replicate (length + 1) 97)]
      query := none }
  body := []

theorem extractClientIp_claiming (peer : String) (length : Nat) :
    extractClientIp (claiming peer length).http.headers =
      String.ofList (List.replicate (length + 1) 'a') := by
  have readable : toStr (List.replicate (length + 1) 97) =
      some (String.ofList (List.replicate (length + 1) 'a')) := by
    simp [toStr, List.all_replicate]
  have reads : (claiming peer length).http.headers.lookup "x-forwarded-for" =
      some (List.replicate (length + 1) 97) := rfl
  have trimmed : trim ((String.ofList (List.replicate (length + 1) 'a')).toList.takeWhile
      (· ≠ ',')) = List.replicate (length + 1) 'a' := by
    have noSpace : Char.isWhitespace 'a' = false := rfl
    simp [trim, noSpace]
  have nonempty : String.ofList (List.replicate (length + 1) 'a') ≠ "" := by
    simp [List.replicate_succ]
  simp only [extractClientIp, reads, readable, Option.bind_some, trimmed, if_neg nonempty]
  rfl

theorem exists_fresh (limiter : TokenBucketRateLimiter arith) :
    ∃ length, "ip:" ++ String.ofList (List.replicate (length + 1) 'a') ∉ limiter := by
  have distinct : Function.Injective fun length : Nat =>
      "ip:" ++ String.ofList (List.replicate (length + 1) 'a') := by
    intro left right same
    have sameLength := congrArg String.length ((String.append_right_inj _).mp same)
    simpa using sameLength
  obtain ⟨key, ⟨length, rfl⟩, fresh⟩ :=
    (Set.infinite_range_of_injective distinct).exists_notMem_finset limiter.keys.toFinset
  exact ⟨length, fun member => fresh (List.mem_toFinset.mpr (AList.mem_keys.mp member))⟩

theorem bucket_of_fresh {peer : String} {length : Nat}
    (enabled : settings.config.rateLimit.enabled = true)
    (isOpen : ¬ (settings.config.auth.enabled = true ∧
      settings.config.auth.allowUnauthenticated = false))
    (run : Run backend settings store start moments listener)
    (fresh : "ip:" ++ String.ofList (List.replicate (length + 1) 'a') ∉ listener.limiterView) :
    ∃ next, step backend settings listener
        ⟨listener.gateway.clock, .request (claiming peer length)⟩ = some next ∧
      next.gateway.clock = listener.gateway.clock ∧
      next.limiterView.keys.length = listener.limiterView.keys.length + 1 := by
  obtain ⟨next, stepped⟩ : ∃ next, step backend settings listener
      ⟨listener.gateway.clock, .request (claiming peer length)⟩ = some next :=
    ⟨_, if_neg (lt_irrefl _)⟩
  refine ⟨next, stepped, (step_cases stepped).2.1, ?_⟩
  have ready := ready_of_run run
  obtain ⟨limiter, isLimiter⟩ := ready.exists_limiter enabled
  have letIn : (listener.front backend settings).refusesKeyless = false := by
    rw [← Bool.not_eq_true, ready.refusesKeyless_iff]
    exact isOpen
  have keyless : (listener.front backend settings).presented (claiming peer length).http = none :=
    rfl
  have oneCall := Front.calls_of_keyless keyless letIn listener.gateway.clock
  have acted := limiterView_of_step stepped
  simp only [calls, enabled, isLimiter, oneCall, Option.toList_some, Machine.exec_cons,
    RateCall.step, Option.bind_some, Machine.exec_nil, Option.some.injEq] at acted
  rw [← acted, keys_checkRate listener.limiterView
      { key := _, requestsPerSecond := _, burst := _, now := _ },
    extractClientIp_claiming, List.length_cons,
    List.erase_of_not_mem fun member => fresh (AList.mem_keys.mpr member)]

/-- From every state that a run leads to, and without any time passing, a single peer
without a key can have the limiter keep as many more buckets as it sends requests. -/
theorem exists_grown (enabled : settings.config.rateLimit.enabled = true)
    (isOpen : ¬ (settings.config.auth.enabled = true ∧
      settings.config.auth.allowUnauthenticated = false))
    (run : Run backend settings store start moments listener) (peer : String) (count : Nat) :
    ∃ (rest : List Moment) (final : Listener arith), rest.length = count ∧
      (∀ moment ∈ rest, ∃ length,
        moment = ⟨listener.gateway.clock, .request (claiming peer length)⟩) ∧
      Run backend settings store start (moments ++ rest) final ∧
      final.gateway.clock = listener.gateway.clock ∧
      final.limiterView.keys.length = listener.limiterView.keys.length + count := by
  induction count with
  | zero => exact ⟨[], listener, rfl, by simp, by rwa [List.append_nil], rfl, rfl⟩
  | succ count ih =>
      obtain ⟨rest, final, isLength, sent, ran, clock, many⟩ := ih
      obtain ⟨length, fresh⟩ := exists_fresh final.limiterView
      obtain ⟨next, stepped, sameClock, oneMore⟩ :=
        @bucket_of_fresh _ _ _ _ _ _ _ peer length enabled isOpen ran fresh
      refine ⟨rest ++ [⟨final.gateway.clock, .request (claiming peer length)⟩], next,
        by rw [List.length_append, isLength]; rfl, ?_, ?_, sameClock.trans clock,
        by rw [oneMore, many, Nat.add_assoc]⟩
      · intro moment member
        rcases List.mem_append.mp member with earlier | last
        · exact sent moment earlier
        · exact ⟨length, by rw [List.mem_singleton.mp last, clock]⟩
      · rw [← List.append_assoc]
        exact Machine.exec_concat_iff.mpr ⟨final, ran, stepped⟩

/-- Buckets are never given back.  In every run the limiter keeps a bucket under a key
exactly if a request was ever limited under it, and where requests without a key are let
in, a single peer can add any number of buckets at any moment. -/
theorem buckets_of_run (enabled : settings.config.rateLimit.enabled = true)
    (run : Run backend settings store start moments listener) :
    (∀ key, key ∈ listener.limiterView ↔
      ∃ call ∈ allCalls backend settings arith store start moments, call.key = key) ∧
    (¬ (settings.config.auth.enabled = true ∧
        settings.config.auth.allowUnauthenticated = false) → ∀ peer count,
      ∃ (rest : List Moment) (final : Listener arith), rest.length = count ∧
        (∀ moment ∈ rest, ∃ length,
          moment = ⟨listener.gateway.clock, .request (claiming peer length)⟩) ∧
        Run backend settings store start (moments ++ rest) final ∧
        final.limiterView.keys.length = listener.limiterView.keys.length + count) := by
  refine ⟨mem_limiterView_iff run, fun isOpen peer count => ?_⟩
  obtain ⟨rest, final, isLength, sent, ran, -, many⟩ := exists_grown enabled isOpen run peer count
  exact ⟨rest, final, isLength, sent, ran, many⟩

/-- A thousand requests of one peer leave a thousand buckets. -/
theorem buckets_of_run_thousand :
    ∃ (moments : List Moment) (final : Listener .rat), moments.length = 1000 ∧
      Run smallBackend limitedSettings .new 0 moments final ∧
      final.limiterView.keys.length = 1000 := by
  have started : Run smallBackend limitedSettings .new 0 []
      (init limitedSettings .rat .new 0) := rfl
  obtain ⟨rest, final, isLength, -, run, many⟩ :=
    (buckets_of_run rfl started).2 (by decide) "203.0.113.9:50000" 1000
  exact ⟨rest, final, isLength, run, many⟩

end Listener

end SorobanGate
