import SorobanGate.Library.Runs
import SorobanGate.Pool.Upstream

/-!
# Health checks

What `check_upstream` does with the outcome of one probe.  The counters are
32-bit and wrap; the status they drive is nevertheless a function of the maximal
runs of equal outcomes, whatever their lengths.
-/

namespace SorobanGate

/-- What came back from a probe. -/
inductive ProbeResult where
  | timedOut
  | failed
  | response (status : StatusCode)
  deriving DecidableEq, Repr

/-- Only a response with a success status counts as a success. -/
def ProbeResult.isSuccess : ProbeResult → Bool
  | .response status => status.isSuccess
  | _ => false

/-- A finished probe: when its outcome is processed and how long it took. -/
structure Probe where
  now : Instant
  elapsed : Duration
  result : ProbeResult
  deriving DecidableEq, Repr

/-- The critical section of `check_upstream`. -/
def UpstreamMutableState.probed (config : HealthCheckConfig) (now : Instant)
    (success : Bool) (state : UpstreamMutableState) : UpstreamMutableState :=
  let state := { state with circuitBreaker := state.circuitBreaker.tryHalfOpen now }
  if success then
    let counted :=
      { state with
        consecutiveSuccesses := state.consecutiveSuccesses + 1
        consecutiveFailures := 0 }
    if config.healthyThreshold ≤ counted.consecutiveSuccesses then
      { counted with health := .healthy }
    else counted
  else
    let counted :=
      { state with
        consecutiveFailures := state.consecutiveFailures + 1
        consecutiveSuccesses := 0 }
    if config.unhealthyThreshold ≤ counted.consecutiveFailures then
      { counted with health := .unhealthy }
    else counted

/-- `check_upstream`: a probe is only sent, and its outcome only processed, when
the upstream's URL parses. -/
def checkUpstream (uriValid : String → Bool) (config : HealthCheckConfig) (probe : Probe)
    (upstream : UpstreamState) : UpstreamState :=
  if uriValid upstream.url then
    let success := probe.result.isSuccess
    let upstream := upstream.modifyMutable (.probed config probe.now success)
    if success then { upstream with latencyNs := UInt64.ofNat probe.elapsed } else upstream
  else upstream

/-- `run_health_checks` with `skip_initial`: serve traffic before any probe. -/
def UpstreamState.markHealthy (upstream : UpstreamState) : UpstreamState :=
  upstream.modifyMutable fun state => { state with health := .healthy }

/-- A timer that ticks once in a period.  Of `tokio` no more is modelled than its
documentation says. -/
structure Interval where
  period : Duration
  deriving DecidableEq, Repr

/-- `tokio::time::interval`: a period of zero panics. -/
def interval (period : Duration) : Option Interval :=
  if period = 0 then none else some ⟨period⟩

/-- What the health check task does to all upstreams at once. -/
inductive HealthPass where
  | markHealthy
  | cycle
  deriving DecidableEq, Repr

/-- `run_health_checks`: the passes that the task has made when its timer has ticked
a number of times, unless it has panicked.  The first tick completes at once, and
every later one starts a cycle. -/
def runHealthChecks (config : HealthCheckConfig) (skipInitial : Bool) (ticks : Nat) :
    Option (List HealthPass) := do
  let initial := if skipInitial then .markHealthy else .cycle
  let _ ← interval (.fromMillis config.intervalMs.toNat)
  pure (initial :: List.replicate (ticks - 1) .cycle)

/-- The task survives the start of its timer exactly with a period that is not zero. -/
theorem isSome_runHealthChecks (config : HealthCheckConfig) (skipInitial : Bool)
    (ticks : Nat) :
    (runHealthChecks config skipInitial ticks).isSome = true ↔ config.intervalMs ≠ 0 := by
  have period : Duration.fromMillis config.intervalMs.toNat = 0 ↔ config.intervalMs = 0 := by
    rw [← UInt64.toNat_inj]
    show config.intervalMs.toNat * 1000000 = 0 ↔ config.intervalMs.toNat = 0
    omega
  unfold runHealthChecks interval
  rw [ne_eq, ← period]
  by_cases zero : Duration.fromMillis config.intervalMs.toNat = 0
  · simp [zero]
  · simp [zero]

/-- The threshold that the outcomes of one kind have to reach. -/
def HealthCheckConfig.threshold (config : HealthCheckConfig) : Bool → UInt32
  | true => config.healthyThreshold
  | false => config.unhealthyThreshold

/-- The status that the outcomes of one kind lead to. -/
def HealthStatus.ofOutcome : Bool → HealthStatus
  | true => .healthy
  | false => .unhealthy

namespace UpstreamMutableState

/-- The counter of consecutive outcomes of one kind. -/
def counter (state : UpstreamMutableState) : Bool → UInt32
  | true => state.consecutiveSuccesses
  | false => state.consecutiveFailures

variable (config : HealthCheckConfig) (now : Instant) (state : UpstreamMutableState)

@[simp] theorem probed_circuitBreaker (success : Bool) :
    (state.probed config now success).circuitBreaker =
      state.circuitBreaker.tryHalfOpen now := by
  cases success <;> simp only [probed, Bool.false_eq_true, if_true, if_false] <;>
    split <;> rfl

theorem probed_counter (success kind : Bool) :
    (state.probed config now success).counter kind =
      if kind = success then state.counter kind + 1 else 0 := by
  cases success <;> cases kind <;>
    simp only [probed, Bool.false_eq_true, if_true, if_false] <;> split <;> rfl

theorem probed_health_of_reached {success : Bool}
    (reached : config.threshold success ≤ state.counter success + 1) :
    (state.probed config now success).health = .ofOutcome success := by
  cases success <;>
    simp only [HealthCheckConfig.threshold, counter] at reached <;>
    simp only [probed, Bool.false_eq_true, if_true, if_false, if_pos reached] <;> rfl

theorem probed_health_of_short {success : Bool}
    (short : ¬ config.threshold success ≤ state.counter success + 1) :
    (state.probed config now success).health = state.health := by
  cases success <;>
    simp only [HealthCheckConfig.threshold, counter] at short <;>
    simp only [probed, Bool.false_eq_true, if_true, if_false, if_neg short]

end UpstreamMutableState

@[simp] theorem checkUpstream_url (uriValid : String → Bool) (config : HealthCheckConfig)
    (probe : Probe) (upstream : UpstreamState) :
    (checkUpstream uriValid config probe upstream).url = upstream.url := by
  unfold checkUpstream
  split
  · dsimp only
    split <;> rfl
  · rfl

theorem checkUpstream_mutable {uriValid : String → Bool} (config : HealthCheckConfig)
    (probe : Probe) {upstream : UpstreamState} (parses : uriValid upstream.url = true) :
    (checkUpstream uriValid config probe upstream).mutable =
      upstream.mutable.probed config probe.now probe.result.isSuccess := by
  unfold checkUpstream
  rw [if_pos parses]
  dsimp only
  split <;> rfl

/-! ## Hysteresis over whole probe histories -/

/-- Process a history of probes. -/
def checkHistory (uriValid : String → Bool) (config : HealthCheckConfig)
    (upstream : UpstreamState) (probes : List Probe) : UpstreamState :=
  probes.foldl (fun upstream probe => checkUpstream uriValid config probe upstream) upstream

/-- Outcomes of a history of probes. -/
def probeOutcomes (probes : List Probe) : List Bool :=
  probes.map fun probe => probe.result.isSuccess

/-- The status that a history decides: the one of its last decisive run, or the
initial one when no run is decisive. -/
def decidedHealth (config : HealthCheckConfig) (initial : HealthStatus)
    (history : List Bool) : HealthStatus :=
  match Runs.lastDecisive (fun kind => (config.threshold kind).toNat) history with
  | none => initial
  | some kind => .ofOutcome kind

/-- What a history of outcomes determines of the state it leads to. -/
structure Tracks (config : HealthCheckConfig) (initial : HealthStatus)
    (history : List Bool) (state : UpstreamMutableState) : Prop where
  counters : ∀ kind, (state.counter kind).toNat =
    if history.getLast? = some kind then Runs.trailing history % 2 ^ 32 else 0
  health : state.health = decidedHealth config initial history

/-- One more outcome changes the decided status only by completing a threshold. -/
theorem decidedHealth_concat (config : HealthCheckConfig) (initial : HealthStatus)
    (history : List Bool) (success : Bool) :
    decidedHealth config initial (history ++ [success]) =
      if (config.threshold success).toNat ≤ Runs.trailing (history ++ [success]) then
        .ofOutcome success
      else decidedHealth config initial history := by
  unfold decidedHealth
  rw [Runs.lastDecisive_concat]
  by_cases reached :
      (config.threshold success).toNat ≤ Runs.trailing (history ++ [success])
  · rw [if_pos reached, if_pos reached]
  · rw [if_neg reached, if_neg reached]

theorem decidedHealth_of_trailing {config : HealthCheckConfig} {initial : HealthStatus}
    {history : List Bool} {success : Bool} (last : history.getLast? = some success)
    (reached : (config.threshold success).toNat ≤ Runs.trailing history) :
    decidedHealth config initial history = .ofOutcome success := by
  unfold decidedHealth
  rw [Runs.lastDecisive_of_trailing (fun kind => (config.threshold kind).toNat) last reached]

/-- The decided status changes exactly where a run completes its threshold. -/
theorem trailing_of_decidedHealth_ne {config : HealthCheckConfig}
    (healthyPos : 1 ≤ config.healthyThreshold)
    (unhealthyPos : 1 ≤ config.unhealthyThreshold) {initial : HealthStatus}
    {history : List Bool} {success : Bool}
    (changed : decidedHealth config initial (history ++ [success]) ≠
      decidedHealth config initial history) :
    Runs.trailing (history ++ [success]) = (config.threshold success).toNat := by
  have positive : 1 ≤ (config.threshold success).toNat := by
    cases success
    · exact UInt32.le_iff_toNat_le.mp unhealthyPos
    · exact UInt32.le_iff_toNat_le.mp healthyPos
  rw [decidedHealth_concat] at changed
  split at changed
  next reached =>
    rw [Runs.trailing_concat] at reached ⊢
    split at reached
    next repeated =>
      rw [if_pos repeated]
      have short : Runs.trailing history < (config.threshold success).toNat := by
        by_contra before
        exact changed (decidedHealth_of_trailing repeated (not_lt.mp before)).symm
      omega
    next fresh =>
      rw [if_neg fresh]
      omega
  · exact absurd rfl changed

theorem Tracks.counter_succ {config : HealthCheckConfig} {initial : HealthStatus}
    {history : List Bool} {state : UpstreamMutableState}
    (tracks : Tracks config initial history state) (success : Bool) :
    (state.counter success + 1).toNat =
      Runs.trailing (history ++ [success]) % 2 ^ 32 := by
  rw [Runs.trailing_concat, UInt32.toNat_add, tracks.counters]
  split <;> simp

theorem Tracks.probed {config : HealthCheckConfig} {initial : HealthStatus}
    {history : List Bool} {state : UpstreamMutableState}
    (tracks : Tracks config initial history state) (now : Instant) (success : Bool) :
    Tracks config initial (history ++ [success]) (state.probed config now success) where
  counters kind := by
    rw [UpstreamMutableState.probed_counter, List.getLast?_concat]
    by_cases same : kind = success
    · subst same
      rw [if_pos rfl, if_pos rfl, tracks.counter_succ]
    · rw [if_neg same, if_neg (by simpa using Ne.symm same)]
      rfl
  health := by
    have reached_iff : config.threshold success ≤ state.counter success + 1 ↔
        (config.threshold success).toNat ≤
          Runs.trailing (history ++ [success]) % 2 ^ 32 := by
      rw [UInt32.le_iff_toNat_le, tracks.counter_succ]
    rw [decidedHealth_concat]
    by_cases reached : config.threshold success ≤ state.counter success + 1
    · rw [state.probed_health_of_reached config now reached,
        if_pos ((reached_iff.mp reached).trans (Nat.mod_le _ _))]
    · rw [state.probed_health_of_short config now reached, tracks.health]
      rw [reached_iff] at reached
      split
      next longRun =>
        -- The counter has wrapped: the run reached the threshold before this probe.
        have bound := (config.threshold success).toNat_lt
        rw [Runs.trailing_concat] at reached longRun
        split at reached
        next repeated =>
          rw [if_pos repeated] at longRun
          have before : (config.threshold success).toNat ≤ Runs.trailing history := by
            by_contra short
            rw [Nat.mod_eq_of_lt (by omega)] at reached
            omega
          exact decidedHealth_of_trailing repeated before
        next fresh =>
          rw [if_neg fresh] at longRun
          exact absurd longRun (by simpa using reached)
      · rfl

theorem checkHistory_tracks {uriValid : String → Bool} (config : HealthCheckConfig)
    {upstream : UpstreamState} (parses : uriValid upstream.url = true)
    (noSuccesses : upstream.mutable.consecutiveSuccesses = 0)
    (noFailures : upstream.mutable.consecutiveFailures = 0) (probes : List Probe) :
    (checkHistory uriValid config upstream probes).url = upstream.url ∧
      Tracks config upstream.mutable.health (probeOutcomes probes)
        (checkHistory uriValid config upstream probes).mutable := by
  induction probes using List.reverseRecOn with
  | nil =>
      refine ⟨rfl, ?_, rfl⟩
      intro kind
      cases kind <;> simp [probeOutcomes, checkHistory, UpstreamMutableState.counter,
        noSuccesses, noFailures]
  | append_singleton probes probe ih =>
      obtain ⟨sameUrl, tracks⟩ := ih
      simp only [checkHistory, List.foldl_append, List.foldl_cons, List.foldl_nil,
        checkUpstream_url] at sameUrl tracks ⊢
      refine ⟨sameUrl, ?_⟩
      rw [checkUpstream_mutable config probe (by rw [sameUrl]; exact parses)]
      simpa [probeOutcomes] using tracks.probed probe.now probe.result.isSuccess

/-- Health status hysteresis: after any history of processed probes the status is
the one decided by the latest decisive run, and it changes only at the probe that
completes the threshold of its run. -/
theorem checkHistory_hysteresis {uriValid : String → Bool} {config : HealthCheckConfig}
    (healthyPos : 1 ≤ config.healthyThreshold)
    (unhealthyPos : 1 ≤ config.unhealthyThreshold)
    {upstream : UpstreamState} (parses : uriValid upstream.url = true)
    (noSuccesses : upstream.mutable.consecutiveSuccesses = 0)
    (noFailures : upstream.mutable.consecutiveFailures = 0) (probes : List Probe) :
    (checkHistory uriValid config upstream probes).mutable.health =
        decidedHealth config upstream.mutable.health (probeOutcomes probes) ∧
      ∀ before probe after, probes = before ++ probe :: after →
        (checkHistory uriValid config upstream (before ++ [probe])).mutable.health ≠
          (checkHistory uriValid config upstream before).mutable.health →
        Runs.trailing (probeOutcomes (before ++ [probe])) =
          (config.threshold probe.result.isSuccess).toNat := by
  have tracks := fun history =>
    (checkHistory_tracks config parses noSuccesses noFailures history).2
  refine ⟨(tracks probes).health, ?_⟩
  intro before probe after _ changed
  rw [(tracks _).health, (tracks before).health] at changed
  simp only [probeOutcomes, List.map_append, List.map_cons, List.map_nil] at changed ⊢
  exact trailing_of_decidedHealth_ne healthyPos unhealthyPos changed

/-- A fresh upstream under the default thresholds: one failure between successes
is not decisive, two successes in a row are. -/
theorem checkHistory_hysteresis_fresh :
    (checkHistory (fun _ => true) {} (.new "main" "http://node-a:8000" 1 none 0)
      [⟨1, 1, .response 200⟩, ⟨2, 1, .timedOut⟩, ⟨3, 1, .response 200⟩,
        ⟨4, 1, .response 204⟩]).mutable.health = .healthy := by
  rw [(checkHistory_hysteresis (by decide) (by decide) rfl rfl rfl _).1]
  rfl

end SorobanGate
