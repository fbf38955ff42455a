import Mathlib.Data.List.DropRight
import SorobanGate.Gateway.Health
import SorobanGate.Gateway.Passive

/-!
# Availability as a function of the past

What an upstream was told decides whether it is available.  Its status follows from
the outcomes of its probes, and its breaker from the errors of its forwards: the fifth
error takes it out of service, and from then on every error does so again, until a
probe is processed when the cooldown after it is over.  The forwards that succeed in
between play no part, so an upstream that has failed five times never gets back to the
five failures that it was allowed at first.
-/

namespace SorobanGate

namespace Notice

/-- When a forward to the upstream ended in an error. -/
def errorAt? : Notice → Option Instant
  | .completed now (.error _) => some now
  | _ => none

def probe? : Notice → Option Probe
  | .probed probe => some probe
  | _ => none

def isMarked : Notice → Bool
  | .marked => true
  | _ => false

def isForced : Notice → Bool
  | .forced _ _ => true
  | _ => false

/-- The notices that an upstream reacts to: without a URL that parses it is not probed. -/
def heard (parses : Bool) (history : List Notice) : List Notice :=
  history.filter fun notice => parses || notice.probe?.isNone

/-- The outcomes of the probes in a history. -/
def verdicts (history : List Notice) : List Bool := probeOutcomes (history.filterMap probe?)

/-- The times of the errors in a history. -/
def errors (history : List Notice) : List Instant := history.filterMap errorAt?

/-- What happened since the latest error. -/
def sinceError (history : List Notice) : List Notice :=
  history.rtakeWhile fun notice => notice.errorAt?.isNone

/-- A probe was processed after the latest error, when the cooldown was over. -/
def Recovered (cooldown : Duration) (history : List Notice) : Prop :=
  ∃ failed ∈ (errors history).getLast?, ∃ probe ∈ (sinceError history).filterMap probe?,
    failed + cooldown ≤ probe.now

/-- The status that an upstream starts with: unhealthy, unless it is marked. -/
def initialHealth (history : List Notice) : HealthStatus :=
  .ofOutcome (history.any isMarked)

/-- Upstreams are marked before they are probed. -/
def MarkedFirst (history : List Notice) : Prop :=
  ∀ before after, history = before ++ .marked :: after → before.filterMap probe? = []

/-- What a history makes of an upstream that nothing but probes and forwards acts on. -/
structure Explains (config : HealthCheckConfig) (history : List Notice)
    (state : UpstreamMutableState) : Prop where
  status : Tracks config (initialHealth history) (verdicts history) state
  passive : Gateway.Passive (errors history).length state.circuitBreaker
  cooldown : state.circuitBreaker.cooldown = .fromSecs 30
  timer : state.circuitBreaker.state = .«open» →
    (errors history).getLast? = some state.circuitBreaker.lastStateChange
  isOpen : state.circuitBreaker.state = .«open» ↔
    5 ≤ (errors history).length ∧ ¬ Recovered (.fromSecs 30) history

/-! ## One more notice -/

variable {cooldown : Duration} {history : List Notice} {notice : Notice}

theorem errors_concat (history : List Notice) (notice : Notice) :
    errors (history ++ [notice]) = errors history ++ notice.errorAt?.toList := by
  cases isError : notice.errorAt? <;> simp [errors, List.filterMap_append, isError]

theorem verdicts_concat (history : List Notice) (notice : Notice) :
    verdicts (history ++ [notice]) = verdicts history ++ probeOutcomes notice.probe?.toList := by
  cases isProbe : notice.probe? <;>
    simp [verdicts, probeOutcomes, List.filterMap_append, isProbe]

theorem sinceError_concat (isOther : notice.errorAt? = none) :
    sinceError (history ++ [notice]) = sinceError history ++ [notice] := by
  unfold sinceError
  rw [List.rtakeWhile_concat_pos _ _ _ (by simp [isOther])]

theorem not_recovered_of_error {failed : Instant} (isError : notice.errorAt? = some failed) :
    ¬ Recovered cooldown (history ++ [notice]) := by
  rintro ⟨-, -, probe, inSince, -⟩
  unfold sinceError at inSince
  rw [List.rtakeWhile_concat_neg _ _ _ (by simp [isError])] at inSince
  cases inSince

theorem recovered_concat_other (noError : notice.errorAt? = none)
    (noProbe : notice.probe? = none) :
    Recovered cooldown (history ++ [notice]) ↔ Recovered cooldown history := by
  simp [Recovered, errors_concat, noError, sinceError_concat noError, noProbe]

theorem recovered_concat_probe (probe : Probe) :
    Recovered cooldown (history ++ [.probed probe]) ↔
      Recovered cooldown history ∨
        ∃ failed ∈ (errors history).getLast?, failed + cooldown ≤ probe.now := by
  have noError : (Notice.probed probe).errorAt? = none := rfl
  have isProbe : (Notice.probed probe).probe? = some probe := rfl
  simp only [Recovered, errors_concat, noError, sinceError_concat noError, Option.toList_none,
    List.append_nil, List.filterMap_append, List.filterMap_cons, isProbe, List.filterMap_nil,
    List.mem_append, List.mem_singleton]
  constructor
  · rintro ⟨failed, isLast, other, before | rfl, later⟩
    · exact Or.inl ⟨failed, isLast, other, before, later⟩
    · exact Or.inr ⟨failed, isLast, later⟩
  · rintro (⟨failed, isLast, other, before, later⟩ | ⟨failed, isLast, later⟩)
    · exact ⟨failed, isLast, other, Or.inl before, later⟩
    · exact ⟨failed, isLast, probe, Or.inr rfl, later⟩

theorem initialHealth_concat (unmarked : notice.isMarked = false) :
    initialHealth (history ++ [notice]) = initialHealth history := by
  simp [initialHealth, unmarked]

namespace Explains

variable {config : HealthCheckConfig} {state next : UpstreamMutableState}

theorem new (config : HealthCheckConfig) (now : Instant) :
    Explains config [] ⟨.unhealthy, .default now, 0, 0⟩ where
  status := ⟨fun kind => by cases kind <;> rfl, rfl⟩
  passive := ⟨rfl, fun _ => rfl, fun _ => by decide, fun _ => rfl⟩
  cooldown := rfl
  timer := nofun
  isOpen := ⟨nofun, fun enough => absurd enough.1 (by decide)⟩

theorem idle (explains : Explains config history state) (noError : notice.errorAt? = none)
    (noProbe : notice.probe? = none) (sameBreaker : next.circuitBreaker = state.circuitBreaker)
    (status : Tracks config (initialHealth (history ++ [notice])) (verdicts history) next) :
    Explains config (history ++ [notice]) next := by
  have sameErrors : errors (history ++ [notice]) = errors history := by
    simp [errors_concat, noError]
  constructor
  · simpa [verdicts_concat, noProbe, probeOutcomes] using status
  · rw [sameErrors, sameBreaker]
    exact explains.passive
  · rw [sameBreaker]
    exact explains.cooldown
  · rw [sameErrors, sameBreaker]
    exact explains.timer
  · rw [sameErrors, sameBreaker, recovered_concat_other noError noProbe]
    exact explains.isOpen

theorem failed (explains : Explains config history state) {now : Instant}
    (isError : notice.errorAt? = some now) (noProbe : notice.probe? = none)
    (unmarked : notice.isMarked = false) :
    Explains config (history ++ [notice])
      { state with circuitBreaker := state.circuitBreaker.recordFailure now } := by
  have moreErrors : errors (history ++ [notice]) = errors history ++ [now] := by
    simp [errors_concat, isError]
  have passive := explains.passive.recordFailure now
  constructor
  · rw [initialHealth_concat unmarked, verdicts_concat, noProbe]
    simp only [Option.toList_none, probeOutcomes, List.map_nil, List.append_nil]
    exact ⟨explains.status.counters, explains.status.health⟩
  · simpa [moreErrors] using passive
  · simpa using explains.cooldown
  · intro isOpen
    rw [moreErrors, List.getLast?_concat]
    exact congrArg some (CircuitBreaker.recordFailure_lastStateChange isOpen).symm
  · rw [moreErrors, List.length_append, List.length_singleton]
    simp only [not_recovered_of_error isError, not_false_iff, and_true]
    constructor
    · intro isOpen
      by_contra few
      have isClosed := passive.closed.mpr (not_le.mp few)
      rw [isOpen] at isClosed
      cases isClosed
    · intro enough
      rcases CircuitBreaker.recordFailure_cases state.circuitBreaker now with
        ⟨wasClosed, -, counted⟩ | ⟨-, isOpen, -⟩
      · have isClosed : (state.circuitBreaker.recordFailure now).state = .closed := by
          rw [counted]
          exact wasClosed
        exact absurd (passive.closed.mp isClosed) (not_lt.mpr enough)
      · exact isOpen

theorem probed (explains : Explains config history state) (probe : Probe) :
    Explains config (history ++ [.probed probe])
      (state.probed config probe.now probe.result.isSuccess) := by
  have sameErrors : errors (history ++ [.probed probe]) = errors history := by
    simp [errors_concat, errorAt?]
  have isTimed : state.circuitBreaker.state = .«open» →
      (state.circuitBreaker.cooldown ≤ probe.now - state.circuitBreaker.lastStateChange ↔
        ∃ failed ∈ (errors history).getLast?, failed + Duration.fromSecs 30 ≤ probe.now) := by
    intro isOpen
    have elapsed : ∀ last now : Nat,
        30 * 1000000000 ≤ now - last ↔ last + 30 * 1000000000 ≤ now := by
      intros
      omega
    simp only [explains.timer isOpen, explains.cooldown, Option.mem_def, Option.some.injEq,
      exists_eq_left']
    exact elapsed _ _
  constructor
  · rw [initialHealth_concat rfl, verdicts_concat]
    exact explains.status.probed probe.now probe.result.isSuccess
  · rw [sameErrors, UpstreamMutableState.probed_circuitBreaker]
    exact explains.passive.tryHalfOpen probe.now
  · rw [UpstreamMutableState.probed_circuitBreaker, ← explains.cooldown]
    unfold CircuitBreaker.tryHalfOpen
    split <;> rfl
  · rw [sameErrors, UpstreamMutableState.probed_circuitBreaker]
    intro isOpen
    rcases CircuitBreaker.tryHalfOpen_cases state.circuitBreaker probe.now with
      same | ⟨-, -, isHalfOpen⟩
    · rw [same] at isOpen ⊢
      exact explains.timer isOpen
    · rw [isHalfOpen] at isOpen
      cases isOpen
  · rw [sameErrors, UpstreamMutableState.probed_circuitBreaker, recovered_concat_probe]
    constructor
    · intro isOpen
      rcases CircuitBreaker.tryHalfOpen_cases state.circuitBreaker probe.now with
        same | ⟨-, -, isHalfOpen⟩
      · have wasOpen := same ▸ isOpen
        obtain ⟨enough, notRecovered⟩ := explains.isOpen.mp wasOpen
        refine ⟨enough, fun recovered => recovered.elim notRecovered fun elapsed => ?_⟩
        have halfOpened : (state.circuitBreaker.tryHalfOpen probe.now).state = .halfOpen := by
          unfold CircuitBreaker.tryHalfOpen
          rw [if_pos ⟨wasOpen, (isTimed wasOpen).mpr elapsed⟩]
        rw [halfOpened] at isOpen
        cases isOpen
      · rw [isHalfOpen] at isOpen
        cases isOpen
    · rintro ⟨enough, notRecovered⟩
      rw [not_or] at notRecovered
      have wasOpen := explains.isOpen.mpr ⟨enough, notRecovered.1⟩
      rcases CircuitBreaker.tryHalfOpen_cases state.circuitBreaker probe.now with
        same | ⟨-, elapsed, -⟩
      · rw [same]
        exact wasOpen
      · exact absurd ((isTimed wasOpen).mp elapsed) notRecovered.2

theorem marked (explains : Explains config history state)
    (first : history.filterMap probe? = []) :
    Explains config (history ++ [.marked]) { state with health := .healthy } := by
  refine explains.idle rfl rfl rfl ⟨explains.status.counters, ?_⟩
  simp [initialHealth, isMarked, verdicts, first, probeOutcomes, decidedHealth,
    HealthStatus.ofOutcome]

/-- A notice that does not force the status extends the history, if it is heard. -/
theorem receive {settings : Settings} {upstream : UpstreamState}
    (explains : Explains settings.config.healthCheck
      (heard (settings.uriValid upstream.url) history) upstream.mutable)
    (unforced : notice.isForced = false)
    (first : notice.isMarked = true → history.filterMap probe? = []) :
    Explains settings.config.healthCheck
      (heard (settings.uriValid upstream.url) (history ++ [notice]))
      (notice.receive settings upstream).mutable := by
  have isHeard : notice.probe? = none →
      heard (settings.uriValid upstream.url) (history ++ [notice]) =
        heard (settings.uriValid upstream.url) history ++ [notice] := by
    intro noProbe
    simp [heard, List.filter_append, noProbe]
  cases notice with
  | started =>
      rw [isHeard rfl]
      exact explains.idle rfl rfl rfl (by rw [initialHealth_concat rfl]; exact explains.status)
  | returned =>
      rw [isHeard rfl]
      exact explains.idle rfl rfl rfl (by rw [initialHealth_concat rfl]; exact explains.status)
  | completed now result =>
      rw [isHeard rfl]
      cases result with
      | ok reply =>
          exact explains.idle rfl rfl rfl
            (by rw [initialHealth_concat rfl]; exact explains.status)
      | error message => exact explains.failed rfl rfl rfl
  | probed probe =>
      by_cases parses : settings.uriValid upstream.url = true
      · rw [Notice.receive, checkUpstream_mutable _ probe parses]
        simp only [heard, parses, Bool.true_or, List.filter_true] at explains ⊢
        exact explains.probed probe
      · have ignored : checkUpstream settings.uriValid settings.config.healthCheck probe
            upstream = upstream := if_neg parses
        rw [Notice.receive, ignored]
        simp only [heard, parses, List.filter_append] at explains ⊢
        simpa [probe?] using explains
  | marked =>
      rw [isHeard rfl]
      refine explains.marked (List.eq_nil_iff_forall_not_mem.mpr fun probe inHeard => ?_)
      obtain ⟨told, isTold, isProbe⟩ := List.mem_filterMap.mp inHeard
      have inHistory : probe ∈ history.filterMap probe? :=
        List.mem_filterMap.mpr ⟨told, List.mem_of_mem_filter isTold, isProbe⟩
      rw [first rfl] at inHistory
      cases inHistory
  | forced now enable => cases unforced

theorem isAvailable_iff {upstream : UpstreamState}
    (explains : Explains config history upstream.mutable) :
    upstream.isAvailable = true ↔
      decidedHealth config (initialHealth history) (verdicts history) = .healthy ∧
        ((errors history).length < 5 ∨ Recovered (.fromSecs 30) history) := by
  have notOpen : upstream.mutable.circuitBreaker.isAvailable = true ↔
      ¬ upstream.mutable.circuitBreaker.state = .«open» := by
    unfold CircuitBreaker.isAvailable
    cases upstream.mutable.circuitBreaker.state <;> simp
  rw [UpstreamState.isAvailable, Bool.and_eq_true, notOpen, explains.isOpen, not_and_or, not_le,
    not_not, beq_iff_eq, explains.status.health]

end Explains

end Notice

namespace Gateway

variable {settings : Settings} {target : UpstreamRef} {start : Instant} {events : List Timed}
  {gateway : Gateway} {upstream : UpstreamState}

/-- Everything that an upstream is told in a run. -/
def past (settings : Settings) (target : UpstreamRef) (start : Instant)
    (events : List Timed) : List Notice :=
  Machine.trace (step settings) (notices target) (init settings start) events

theorem past_concat {timed : Timed} (run : Run settings start events gateway) :
    past settings target start (events ++ [timed]) =
      past settings target start events ++ gateway.notices target timed :=
  Machine.trace_concat run

theorem mutable_buildState
    (found : (buildState settings start).upstream? target = some upstream) :
    upstream.mutable = ⟨.unhealthy, .default start, 0, 0⟩ := by
  simp only [AppState.upstream?, buildState, createPools, Option.bind_eq_some_iff] at found
  obtain ⟨pool, isPool, found⟩ := found
  obtain ⟨poolConfig, -, rfl⟩ := List.mem_map.mp (List.mem_of_getElem? isPool)
  obtain ⟨upstreamConfig, -, rfl⟩ := List.mem_map.mp (List.mem_of_getElem? found)
  rfl

/-- In every state of a run the past explains an upstream that was not forced. -/
theorem explains_of_run (run : Run settings start events gateway)
    (found : gateway.app.upstream? target = some upstream)
    (unforced : ∀ notice ∈ past settings target start events, notice.isForced = false)
    (first : Notice.MarkedFirst (past settings target start events)) :
    Notice.Explains settings.config.healthCheck
      (Notice.heard (settings.uriValid upstream.url) (past settings target start events))
      upstream.mutable := by
  refine Machine.exec_history
    (fun events state => ∀ upstream, state.app.upstream? target = some upstream →
      (∀ notice ∈ past settings target start events, notice.isForced = false) →
      Notice.MarkedFirst (past settings target start events) →
      Notice.Explains settings.config.healthCheck
        (Notice.heard (settings.uriValid upstream.url) (past settings target start events))
        upstream.mutable) ?_ ?_ run upstream found unforced first
  · intro upstream found _ _
    rw [mutable_buildState found]
    exact .new settings.config.healthCheck start
  · intro events state timed next prior ih stepped after foundAfter unforced first
    have isAfter := upstream?_step stepped target
    rw [foundAfter, eq_comm, Option.map_eq_some_iff] at isAfter
    obtain ⟨before, foundBefore, rfl⟩ := isAfter
    rw [past_concat prior] at unforced first ⊢
    have earlier := ih before foundBefore
      (fun notice member => unforced notice (List.mem_append_left _ member))
      (fun left right split =>
        first left (right ++ state.notices target timed)
          (by rw [split, List.append_assoc, List.cons_append]))
    rcases notices_cases target state timed with silent | ⟨notice, told, -⟩
    · rw [silent, List.append_nil]
      exact earlier
    · rw [told] at unforced first ⊢
      rw [List.foldl_cons, List.foldl_nil, Notice.receive_url]
      refine earlier.receive (unforced notice (by simp)) fun isMarked => ?_
      cases notice with
      | marked => exact first _ [] rfl
      | _ => cases isMarked

end Gateway

end SorobanGate
