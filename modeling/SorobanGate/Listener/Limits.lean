import SorobanGate.Listener.Step

/-!
# The limiter behind the listener

Seen from the limiter a run is a history of calls, one for each request that passes
authentication.  Every call on the bucket of an address is made with the fallback
limits, so what is known of such a bucket over whole histories is known of runs.
-/

namespace SorobanGate

namespace Listener

variable {arith : TokenArith} (backend : AuthBackend) (settings : Settings)

/-- The calls of `check_rate` that a step makes. -/
def calls (listener : Listener arith) (moment : Moment) : List RateCall :=
  match settings.config.rateLimit.enabled, listener.rateLimiter, moment.occurrence with
  | true, some _, .request web =>
      ((listener.front backend settings).calls ⟨web.http, moment.time⟩).toList
  | _, _, _ => []

/-- All calls of a run. -/
def allCalls (arith : TokenArith) (store : SqliteKeyStore) (start : Instant)
    (moments : List Moment) : List RateCall :=
  Machine.trace (step backend settings) (calls backend settings)
    (init settings arith store start) moments

/-- The limiter, an empty one standing in for none. -/
def limiterView (listener : Listener arith) : TokenBucketRateLimiter arith :=
  listener.rateLimiter.getD (.new arith)

variable {backend settings} {listener next : Listener arith} {moment : Moment}
variable {store : SqliteKeyStore} {start : Instant} {moments : List Moment}

theorem mem_calls {call : RateCall} (member : call ∈ calls backend settings listener moment) :
    ∃ web, moment.occurrence = .request web ∧
      (listener.front backend settings).calls ⟨web.http, moment.time⟩ = some call := by
  unfold calls at member
  split at member
  next web _ _ isRequest => exact ⟨web, isRequest, Option.mem_toList.mp member⟩
  · cases member

/-- Seen from the limiter, a step of the listener is the calls that it makes. -/
theorem limiterView_of_step (stepped : step backend settings listener moment = some next) :
    Machine.exec RateCall.step listener.limiterView (calls backend settings listener moment) =
      some next.limiterView := by
  obtain ⟨-, -, ⟨web, isRequest, rfl⟩ | ⟨noRequest, sameLimiter, -⟩⟩ := step_cases stepped
  · unfold limiterView
    rw [rateLimiter_accept]
    cases isLimiter : listener.rateLimiter with
    | none =>
        have stillNone := Front.isSome_rateLimiter_process (listener.front backend settings)
          listener.limits ⟨web.http, moment.time⟩
        rw [show listener.limits.rateLimiter = none from isLimiter, Option.isSome_none,
          Option.isSome_eq_false_iff, Option.isNone_iff_eq_none] at stillNone
        simp [calls, isLimiter, stillNone]
    | some limiter =>
        have limits : listener.limits.rateLimiter = some limiter := isLimiter
        cases enabled : settings.config.rateLimit.enabled with
        | false =>
            rw [Front.process_of_disabled enabled, limits]
            simp [calls, enabled]
        | true =>
            simp only [calls, enabled, isLimiter, isRequest]
            cases isCall : (listener.front backend settings).calls
                ⟨web.http, moment.time⟩ with
            | none =>
                rw [Front.process_of_no_call isCall, limits]
                rfl
            | some call =>
                rw [(Front.process_of_calls enabled isCall limits).1]
                rfl
  · have noCalls : calls backend settings listener moment = [] := by
      unfold calls
      split
      next web _ _ isRequest => exact absurd isRequest (noRequest web)
      · rfl
    rw [noCalls, limiterView, limiterView, sameLimiter]
    rfl

theorem limiterView_of_run (run : Run backend settings store start moments listener) :
    Machine.exec RateCall.step (.new arith)
        (allCalls backend settings arith store start moments) = some listener.limiterView := by
  have fresh : (init settings arith store start).limiterView = .new arith := by
    simp only [limiterView, init]
    split <;> rfl
  rw [← fresh]
  exact Machine.exec_component (fun _ _ _ stepped => limiterView_of_step stepped) run

theorem allCalls_ordered (run : Run backend settings store start moments listener) :
    ((allCalls backend settings arith store start moments).Pairwise
        fun earlier later => earlier.now ≤ later.now) ∧
      ∀ call ∈ allCalls backend settings arith store start moments,
        call.now ≤ listener.gateway.clock := by
  refine Machine.exec_history
    (fun moments (reached : Listener arith) =>
      ((allCalls backend settings arith store start moments).Pairwise
          fun earlier later => earlier.now ≤ later.now) ∧
        ∀ call ∈ allCalls backend settings arith store start moments,
          call.now ≤ reached.gateway.clock)
    (by simp [allCalls]) ?_ run
  rintro moments state moment next prior ⟨ordered, past⟩ stepped
  obtain ⟨inOrder, clock, -⟩ := step_cases stepped
  have madeNow : ∀ call ∈ calls backend settings state moment, call.now = moment.time := by
    intro call member
    obtain ⟨web, -, isCall⟩ := mem_calls member
    exact Front.now_of_calls isCall
  rw [allCalls, Machine.trace_concat prior]
  refine ⟨List.pairwise_append.mpr ⟨ordered, ?_, ?_⟩, ?_⟩
  · refine List.pairwise_of_forall_mem_list fun earlier isEarlier later isLater => ?_
    rw [madeNow earlier isEarlier, madeNow later isLater]
  · intro earlier isEarlier later isLater
    rw [madeNow later isLater]
    exact (past earlier isEarlier).trans inOrder
  · intro call member
    rw [clock]
    rcases List.mem_append.mp member with earlier | last
    · exact (past call earlier).trans inOrder
    · exact (madeNow call last).le

/-- The calls of a run on the bucket of an address are made with the fallback limits. -/
theorem allCalls_uniform (run : Run backend settings store start moments listener)
    (address : String) :
    ∀ call ∈ allCalls backend settings arith store start moments,
      call.key = "ip:" ++ address →
      call.requestsPerSecond = settings.config.rateLimit.ipFallbackRps ∧
        call.burst = settings.config.rateLimit.ipFallbackBurst := by
  intro call member
  obtain ⟨earlier, later, split⟩ := List.append_of_mem member
  obtain ⟨before, moment, after, state, next, left, right, -, -, -, -, shown, -⟩ :=
    Machine.trace_split run split
  have isShown : call ∈ calls backend settings state moment := by
    rw [shown]
    exact List.mem_append_right _ List.mem_cons_self
  obtain ⟨web, -, isCall⟩ := mem_calls isShown
  exact Front.limits_of_address isCall

theorem history_concat (run : Run backend settings store start moments listener)
    (key : String) (moment : Moment) :
    RateCall.history arith key
        (allCalls backend settings arith store start (moments ++ [moment])) =
      RateCall.history arith key (allCalls backend settings arith store start moments) ++
        Machine.trace RateCall.step (RateCall.shown key) listener.limiterView
          (calls backend settings listener moment) := by
  have extended : allCalls backend settings arith store start (moments ++ [moment]) =
      allCalls backend settings arith store start moments ++
        calls backend settings listener moment :=
    Machine.trace_concat run
  rw [extended]
  exact Machine.trace_append (limiterView_of_run run)

/-- Over the rationals the bucket of an address is exact in every run. -/
theorem tracks_of_run {listener : Listener .rat}
    (run : Run backend settings store start moments listener) (address : String) :
    RateCall.Tracks ("ip:" ++ address) settings.config.rateLimit.ipFallbackRps
      settings.config.rateLimit.ipFallbackBurst
      (allCalls backend settings .rat store start moments) listener.limiterView :=
  RateCall.tracks_of_run (allCalls_ordered run).1 (allCalls_uniform run address)
    (limiterView_of_run run)

end Listener

end SorobanGate
