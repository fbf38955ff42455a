import SorobanGate.Gateway.Breaker

/-!
# Passive failure detection

The breaker of an upstream counts the forwards that end in an error.  A response
with a server error status is a failed forward as well, but it is not counted.
-/

namespace SorobanGate

/-- `StatusCode::is_server_error`. -/
def StatusCode.isServerError (status : StatusCode) : Bool := 500 ≤ status && status < 600

/-- A transport error or a timeout. -/
def isError : ForwardResult → Bool
  | .ok _ => false
  | .error _ => true

/-- A forward that failed: a transport error, a timeout or a server error. -/
def isFailed : ForwardResult → Bool
  | .ok reply => reply.status.isServerError
  | .error _ => true

/-- The result of a completed forward. -/
def Notice.result? : Notice → Option ForwardResult
  | .completed _ result => some result
  | _ => none

namespace Gateway

variable {settings : Settings} {target : UpstreamRef} {gateway next : Gateway} {timed : Timed}

/-- The results of the forwards to an upstream that a step completes. -/
def results (target : UpstreamRef) (gateway : Gateway) (timed : Timed) : List ForwardResult :=
  (gateway.notices target timed).filterMap Notice.result?

theorem countP_isError_results (target : UpstreamRef) (gateway : Gateway) (timed : Timed) :
    (gateway.results target timed).countP isError =
      (gateway.outcomes target timed).count false := by
  rw [results, outcomes, List.countP_filterMap, List.count_filterMap]
  apply List.countP_congr
  intro notice _
  cases notice with
  | completed now result =>
      cases result with
      | ok reply =>
          simp only [Notice.result?, Notice.outcome?]
          split <;> simp [isError]
      | error message => simp [Notice.result?, Notice.outcome?, isError]
  | _ => simp [Notice.result?, Notice.outcome?]

/-- What the errors since some moment say about a breaker that was closed then: it is
closed and counts them as long as they stay below the threshold. -/
structure Passive (errors : Nat) (breaker : CircuitBreaker) : Prop where
  threshold : breaker.failureThreshold = 5
  counted : breaker.state = .closed → breaker.failureCount.toNat = errors
  closed : breaker.state = .closed ↔ errors < 5

theorem Passive.recordFailure {errors : Nat} {breaker : CircuitBreaker}
    (passive : Passive errors breaker) (now : Instant) :
    Passive (errors + 1) (breaker.recordFailure now) := by
  have succ : breaker.state = .closed →
      (breaker.failureCount + 1).toNat = errors + 1 := by
    intro isClosed
    have below : breaker.failureCount < 5 := by
      rw [UInt32.lt_iff_toNat_lt, passive.counted isClosed]
      exact passive.closed.mp isClosed
    rw [CircuitBreaker.failureCount_succ below, passive.counted isClosed]
  have threshold : (breaker.recordFailure now).failureThreshold = 5 := by
    rw [CircuitBreaker.recordFailure_failureThreshold]
    exact passive.threshold
  rcases CircuitBreaker.recordFailure_cases breaker now with
    ⟨wasClosed, short, counted⟩ | ⟨reached, isOpen, -⟩
  · rw [passive.threshold, UInt32.lt_iff_toNat_lt, succ wasClosed] at short
    rw [counted] at threshold ⊢
    exact ⟨threshold, fun _ => succ wasClosed, fun _ => short, fun _ => wasClosed⟩
  · refine ⟨threshold, by simp [isOpen], by simp [isOpen], ?_⟩
    intro short
    have wasClosed := passive.closed.mpr (Nat.lt_of_succ_lt short)
    have full := reached wasClosed
    rw [passive.threshold, UInt32.le_iff_toNat_le, succ wasClosed] at full
    exact absurd short (not_lt.mpr full)

theorem Passive.tryHalfOpen {errors : Nat} {breaker : CircuitBreaker}
    (passive : Passive errors breaker) (now : Instant) :
    Passive errors (breaker.tryHalfOpen now) := by
  refine ⟨by simpa using passive.threshold, ?_, ?_⟩
  · intro isClosed
    simpa using passive.counted ((CircuitBreaker.tryHalfOpen_closed_iff breaker now).mp isClosed)
  · rw [CircuitBreaker.tryHalfOpen_closed_iff, passive.closed]

theorem Passive.step {errors : Nat} {before after : UpstreamState}
    (passive : Passive errors before.mutable.circuitBreaker)
    (stepped : Gateway.step settings gateway timed = some next)
    (found : gateway.app.upstream? target = some before)
    (found' : next.app.upstream? target = some after)
    (notEnabled : ¬ Enables target gateway timed) :
    Passive (errors + (gateway.results target timed).countP isError)
      after.mutable.circuitBreaker := by
  rw [countP_isError_results]
  rcases breaker_of_step stepped found found' with
    ⟨same, none | success⟩ | ⟨probed, none⟩ | ⟨failed, failure⟩ | ⟨-, enabled⟩
  · rw [same, none]
    exact passive
  · rw [same, success]
    exact passive
  · rw [probed, none]
    exact passive.tryHalfOpen timed.time
  · rw [failed, failure]
    exact passive.recordFailure timed.time
  · exact absurd enabled notEnabled

/-- Along a run that does not enable the upstream its breaker counts the errors. -/
theorem passive_of_run {errors : Nat} {first : Gateway} {upstream : UpstreamState}
    {events : List Timed} (found : first.app.upstream? target = some upstream)
    (passive : Passive errors upstream.mutable.circuitBreaker)
    (notEnabled : Machine.Always (step settings)
      (fun state timed => ¬ Enables target state timed) first events)
    (run : Machine.exec (step settings) first events = some gateway) :
    ∃ reached, gateway.app.upstream? target = some reached ∧
      Passive (errors +
          (Machine.trace (step settings) (results target) first events).countP isError)
        reached.mutable.circuitBreaker := by
  refine Machine.exec_history
    (fun events state =>
      Machine.Always (step settings) (fun state timed => ¬ Enables target state timed)
        first events →
      ∃ reached : UpstreamState, state.app.upstream? target = some reached ∧
        Passive (errors +
            (Machine.trace (step settings) (results target) first events).countP isError)
          reached.mutable.circuitBreaker)
    (fun _ => ⟨upstream, found, passive⟩) ?_ run notEnabled
  intro events state timed next prior ih stepped notEnabled
  obtain ⟨before, foundBefore, stillPassive⟩ := ih notEnabled.init
  obtain ⟨after, foundAfter⟩ := exists_upstream_of_step stepped foundBefore
  refine ⟨after, foundAfter, ?_⟩
  rw [Machine.trace_concat prior, List.countP_append, ← Nat.add_assoc]
  exact stillPassive.step stepped foundBefore foundAfter (notEnabled.last prior)

/-- In every state of a run a closed breaker has counted fewer failures than its
threshold. -/
theorem failureCount_of_run {start : Instant} {events : List Timed} {upstream : UpstreamState}
    (run : Run settings start events gateway)
    (found : gateway.app.upstream? target = some upstream) :
    upstream.mutable.circuitBreaker.failureThreshold = 5 ∧
      (upstream.mutable.circuitBreaker.state = .closed →
        upstream.mutable.circuitBreaker.failureCount.toNat < 5) := by
  refine Machine.exec_invariant
    (fun state => ∀ upstream, state.app.upstream? target = some upstream →
      upstream.mutable.circuitBreaker.failureThreshold = 5 ∧
        (upstream.mutable.circuitBreaker.state = .closed →
          upstream.mutable.circuitBreaker.failureCount.toNat < 5)) ?_ ?_ run upstream found
  · intro state timed next sound stepped after foundAfter
    have isAfter := upstream?_step stepped target
    rw [foundAfter, eq_comm, Option.map_eq_some_iff] at isAfter
    obtain ⟨before, foundBefore, -⟩ := isAfter
    obtain ⟨threshold, below⟩ := sound before foundBefore
    rcases breaker_of_step stepped foundBefore foundAfter with
      ⟨same, -⟩ | ⟨probed, -⟩ | ⟨failed, -⟩ | ⟨fresh, -⟩
    · rw [same]
      exact ⟨threshold, below⟩
    · rw [probed, CircuitBreaker.tryHalfOpen_failureThreshold,
        CircuitBreaker.tryHalfOpen_failureCount, CircuitBreaker.tryHalfOpen_closed_iff]
      exact ⟨threshold, below⟩
    · rw [failed, CircuitBreaker.recordFailure_failureThreshold]
      refine ⟨threshold, fun isClosed => ?_⟩
      rcases CircuitBreaker.recordFailure_cases before.mutable.circuitBreaker timed.time with
        ⟨-, short, counted⟩ | ⟨-, isOpen, -⟩
      · rw [threshold, UInt32.lt_iff_toNat_lt] at short
        rw [counted]
        exact short
      · rw [isOpen] at isClosed
        cases isClosed
    · rw [fresh]
      exact ⟨rfl, fun _ => by simp [CircuitBreaker.default, CircuitBreaker.new]⟩
  · intro upstream found
    rw [(AppState.upstream?_buildState found).1]
    exact ⟨rfl, fun _ => by simp [CircuitBreaker.default, CircuitBreaker.new]⟩

/-! ## Detection -/

/-- The last five forwards all failed. -/
def FiveFailed (completed : List ForwardResult) : Prop :=
  ∃ earlier last, completed = earlier ++ last ∧ last.length = 5 ∧
    ∀ result ∈ last, isFailed result = true

/-- The breaker of the upstream has tripped: it is not closed, and no selection returns
the upstream until the breaker is half open, unless it is enabled. -/
def Detected (settings : Settings) (target : UpstreamRef) (gateway : Gateway) : Prop :=
  (∀ upstream, gateway.app.upstream? target = some upstream →
    upstream.mutable.circuitBreaker.state ≠ .closed) ∧
  ∀ rest final upstream, Machine.exec (step settings) gateway rest = some final →
    Machine.Always (step settings) (fun state timed => ¬ Enables target state timed)
      gateway rest →
    final.app.upstream? target = some upstream →
    upstream.mutable.circuitBreaker.state ≠ .halfOpen →
    ∀ request draw request',
      (final.app.selectUpstream request draw).2 ≠ .selected request' target

/-- A breaker that counts the errors has tripped exactly when there were five of them. -/
theorem detected_iff {errors : Nat} {upstream : UpstreamState}
    (found : gateway.app.upstream? target = some upstream)
    (passive : Passive errors upstream.mutable.circuitBreaker) :
    Detected settings target gateway ↔ 5 ≤ errors := by
  constructor
  · intro detected
    by_contra few
    exact detected.1 upstream found (passive.closed.mpr (not_le.mp few))
  · intro enough
    constructor
    · intro other isOther isClosed
      obtain rfl := Option.some.inj (found.symm.trans isOther)
      exact absurd (passive.closed.mp isClosed) (not_lt.mpr enough)
    · intro rest final reached run notEnabled isReached notHalfOpen request draw request' selected
      obtain ⟨other, isOther, stillPassive⟩ := passive_of_run found passive notEnabled run
      obtain rfl := Option.some.inj (isReached.symm.trans isOther)
      have notClosed : reached.mutable.circuitBreaker.state ≠ .closed := by
        rw [ne_eq, stillPassive.closed]
        omega
      have isOpen : reached.mutable.circuitBreaker.state = .«open» := by
        cases isState : reached.mutable.circuitBreaker.state with
        | closed => exact absurd isState notClosed
        | «open» => rfl
        | halfOpen => exact absurd isState notHalfOpen
      obtain ⟨chosen, isChosen, available⟩ := AppState.isAvailable_of_selectUpstream selected
      obtain rfl := Option.some.inj (isReached.symm.trans isChosen)
      rw [UpstreamState.not_isAvailable_of_open isOpen] at available
      cases available

/-- Passive failure detection.  In every run from a reachable state with a closed
breaker, without an admin enable, five failed forwards in a row trip the breaker
exactly when the failures counted before the run and the errors during it are at least
five: a forward that brings back a server error is not counted. -/
theorem detects_iff_errors {start : Instant} {events rest : List Timed} {first : Gateway}
    {upstream : UpstreamState} (run : Run settings start events first)
    (found : first.app.upstream? target = some upstream)
    (wasClosed : upstream.mutable.circuitBreaker.state = .closed)
    (notEnabled : Machine.Always (step settings)
      (fun state timed => ¬ Enables target state timed) first rest)
    (later : Machine.exec (step settings) first rest = some gateway) :
    let completed := Machine.trace (step settings) (results target) first rest
    (FiveFailed completed → Detected settings target gateway) ↔
      (FiveFailed completed →
        5 ≤ upstream.mutable.circuitBreaker.failureCount.toNat + completed.countP isError) := by
  intro completed
  obtain ⟨threshold, below⟩ := failureCount_of_run run found
  have passive : Passive upstream.mutable.circuitBreaker.failureCount.toNat
      upstream.mutable.circuitBreaker :=
    ⟨threshold, fun _ => rfl, fun _ => below wasClosed, fun _ => wasClosed⟩
  obtain ⟨reached, isReached, counted⟩ := passive_of_run found passive notEnabled later
  rw [detected_iff isReached counted]

/-- Five refused exchanges in a row are detected. -/
theorem detects_five_refused :
    ∃ gateway, Run (smallSettings []) 0 (exchanges (List.replicate 5 refused)) gateway ∧
      Detected (smallSettings []) firstUpstream gateway := by
  have computed : (Machine.exec (step (smallSettings [])) (init (smallSettings []) 0)
      (exchanges (List.replicate 5 refused))).isSome = true := by
    decide +kernel
  have completed : Machine.trace (step (smallSettings [])) (results firstUpstream)
      (init (smallSettings []) 0) (exchanges (List.replicate 5 refused)) =
        List.replicate 5 refused := by
    decide +kernel
  have started : Run (smallSettings []) 0 [] (init (smallSettings []) 0) := rfl
  obtain ⟨gateway, run⟩ := Option.isSome_iff_exists.mp computed
  refine ⟨gateway, run, ?_⟩
  refine (detects_iff_errors started rfl rfl
    (not_enables_of_all (by decide +kernel)) run).mpr ?_ ?_
  · intro _
    rw [completed]
    decide
  · exact ⟨[], List.replicate 5 refused, completed, rfl, by simp [refused, isFailed]⟩

/-- A response of an upstream that is up but out of service. -/
def unavailable : ForwardResult := .ok ⟨503, asBytes "Service Unavailable", []⟩

/-- Five of them in a row leave the breaker closed. -/
theorem server_errors_undetected :
    ∃ gateway, Run (smallSettings []) 0 (exchanges (List.replicate 5 unavailable)) gateway ∧
      (∀ timed ∈ exchanges (List.replicate 5 unavailable), isEnable timed = false) ∧
      FiveFailed (Machine.trace (step (smallSettings [])) (results firstUpstream)
        (init (smallSettings []) 0) (exchanges (List.replicate 5 unavailable))) ∧
      ¬ Detected (smallSettings []) firstUpstream gateway := by
  obtain ⟨gateway, upstream, run, found, isClosed⟩ :=
    exists_run_of_breakerAfter (exchanges (List.replicate 5 unavailable))
      ⟨.closed, 0, 5, .fromSecs 30, 0⟩ (by decide +kernel)
  have completed : Machine.trace (step (smallSettings [])) (results firstUpstream)
      (init (smallSettings []) 0) (exchanges (List.replicate 5 unavailable)) =
        List.replicate 5 unavailable := by
    decide +kernel
  refine ⟨gateway, run, by decide +kernel, ?_, ?_⟩
  · exact ⟨[], List.replicate 5 unavailable, completed, rfl, by decide⟩
  · intro detected
    exact detected.1 upstream found (by rw [isClosed])

end Gateway

end SorobanGate
