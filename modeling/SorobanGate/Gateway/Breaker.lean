import SorobanGate.Gateway.Upstream

/-!
# Circuit breakers over whole runs

A breaker is driven by failed forwards and by probes only.  It therefore keeps a
tripped upstream out of service for its whole cooldown, and it follows the
outcomes of the traffic exactly as long as no successful forward completes in a
state that a recorded success would have changed.
-/

namespace SorobanGate

/-- The outcome of a completed forward: a success is a response with a success
status, a failure is an error, and any other response is neither. -/
def Notice.outcome? : Notice → Option Bool
  | .completed _ (.ok reply) => if reply.status.isSuccess then some true else none
  | .completed _ (.error _) => some false
  | _ => none

namespace Gateway

variable {settings : Settings} {target : UpstreamRef} {gateway next : Gateway} {timed : Timed}

/-- The outcomes of the forwards to an upstream that a step completes. -/
def outcomes (target : UpstreamRef) (gateway : Gateway) (timed : Timed) : List Bool :=
  (gateway.notices target timed).filterMap Notice.outcome?

/-- An admin operation enables the upstream in this step. -/
def Enables (target : UpstreamRef) (gateway : Gateway) (timed : Timed) : Prop :=
  .forced timed.time true ∈ gateway.notices target timed

/-- Inversion: what a step can do to the breaker of an upstream. -/
theorem breaker_of_step {before after : UpstreamState}
    (stepped : step settings gateway timed = some next)
    (found : gateway.app.upstream? target = some before)
    (found' : next.app.upstream? target = some after) :
    (after.mutable.circuitBreaker = before.mutable.circuitBreaker ∧
        (gateway.outcomes target timed = [] ∨ gateway.outcomes target timed = [true])) ∨
      (after.mutable.circuitBreaker = before.mutable.circuitBreaker.tryHalfOpen timed.time ∧
        gateway.outcomes target timed = []) ∨
      (after.mutable.circuitBreaker = before.mutable.circuitBreaker.recordFailure timed.time ∧
        gateway.outcomes target timed = [false]) ∨
      (after.mutable.circuitBreaker = .default timed.time ∧ Enables target gateway timed) := by
  rw [upstream?_step stepped, found, Option.map_some, Option.some.injEq] at found'
  subst found'
  rcases notices_cases target gateway timed with silent | ⟨notice, told, dated⟩
  · exact Or.inl (by simp [outcomes, silent])
  · simp only [outcomes, Enables, told, List.foldl_cons, List.foldl_nil]
    cases notice with
    | started => exact Or.inl ⟨rfl, Or.inl rfl⟩
    | returned => exact Or.inl ⟨rfl, Or.inl rfl⟩
    | completed time result =>
        obtain rfl : time = timed.time := dated
        cases result with
        | ok reply =>
            refine Or.inl ⟨rfl, ?_⟩
            simp only [List.filterMap_cons, List.filterMap_nil, Notice.outcome?]
            split <;> simp_all
        | error message => exact Or.inr (Or.inr (Or.inl ⟨rfl, rfl⟩))
    | probed probe =>
        have atNow : probe.now = timed.time := dated
        simp only [Notice.receive]
        by_cases parses : settings.uriValid before.url = true
        · rw [checkUpstream_mutable _ probe parses, ← atNow]
          exact Or.inr (Or.inl ⟨by simp, rfl⟩)
        · exact Or.inl ⟨by simp [checkUpstream, parses], Or.inl rfl⟩
    | marked => exact Or.inl ⟨rfl, Or.inl rfl⟩
    | forced time enable =>
        obtain rfl : time = timed.time := dated
        cases enable with
        | true => exact Or.inr (Or.inr (Or.inr ⟨rfl, by simp⟩))
        | false => exact Or.inl ⟨rfl, Or.inl rfl⟩

/-- The admin operation that enables an upstream. -/
def isEnable (timed : Timed) : Bool :=
  match timed.event with
  | .background (.setHealth _ enable) => enable
  | _ => false

theorem not_enables_of_all {start : Gateway} {events : List Timed}
    (noEnable : ∀ timed ∈ events, isEnable timed = false) :
    Machine.Always (step settings) (fun state timed => ¬ Enables target state timed)
      start events := by
  rintro before timed after state rfl - enabled
  have isOther := noEnable timed (by simp)
  obtain ⟨now, event⟩ := timed
  cases event with
  | receive body => simp [Enables, notices] at enabled
  | resume request action =>
      simp only [Enables, notices] at enabled
      split at enabled
      · unfold Phase.notices at enabled
        split at enabled <;> simp at enabled
      · simp at enabled
  | background event =>
      cases event with
      | setHealth encodedUrl enable =>
          obtain rfl : enable = false := isOther
          simp only [Enables, notices, Background.notices] at enabled
          split at enabled <;> simp at enabled
      | _ => simp [Enables, notices, Background.notices] at enabled

/-! ## Five refused exchanges -/

/-- The breaker of the small gateway's first upstream after some events. -/
def breakerAfter (events : List Timed) : Option CircuitBreaker :=
  (Machine.exec (step (smallSettings [])) (init (smallSettings []) 0) events).bind fun gateway =>
    (gateway.app.upstream? firstUpstream).map fun upstream => upstream.mutable.circuitBreaker

theorem exists_run_of_breakerAfter (events : List Timed) (breaker : CircuitBreaker)
    (computed : breakerAfter events = some breaker) :
    ∃ gateway upstream, Run (smallSettings []) 0 events gateway ∧
      gateway.app.upstream? firstUpstream = some upstream ∧
      upstream.mutable.circuitBreaker = breaker := by
  obtain ⟨gateway, run, isBreaker⟩ := Option.bind_eq_some_iff.mp computed
  obtain ⟨upstream, found, rfl⟩ := Option.map_eq_some_iff.mp isBreaker
  exact ⟨gateway, upstream, run, found, rfl⟩

/-- Exchanges of the small gateway with given results, one after the other, with
only its first upstream in service. -/
def exchanges (results : List ForwardResult) : List Timed :=
  ⟨0, .background (.markHealthy firstUpstream)⟩ ::
    (results.mapIdx fun i result => exchange i (i + 1) 1 result).flatten

def refused : ForwardResult := .error "connection refused"

/-- Five refused exchanges in a row, up to the handling of the last one. -/
def fiveRefused : List Timed :=
  (exchanges [refused, refused, refused, refused, refused]).dropLast

theorem fiveRefused_trips :
    ∃ gateway tripped before after,
      Run (smallSettings []) 0 fiveRefused gateway ∧
      step (smallSettings []) gateway ⟨5, .resume 4 .handle⟩ = some tripped ∧
      gateway.app.upstream? firstUpstream = some before ∧
      tripped.app.upstream? firstUpstream = some after ∧
      gateway.outcomes firstUpstream ⟨5, .resume 4 .handle⟩ = [false] ∧
      before.mutable.circuitBreaker = ⟨.closed, 4, 5, .fromSecs 30, 0⟩ ∧
      after.mutable.circuitBreaker = ⟨.«open», 5, 5, .fromSecs 30, 5⟩ := by
  obtain ⟨gateway, before, run, found, wasClosed⟩ :=
    exists_run_of_breakerAfter fiveRefused ⟨.closed, 4, 5, .fromSecs 30, 0⟩ (by decide +kernel)
  obtain ⟨tripped, after, run', found', isOpen⟩ :=
    exists_run_of_breakerAfter (fiveRefused ++ [⟨5, .resume 4 .handle⟩])
      ⟨.«open», 5, 5, .fromSecs 30, 5⟩ (by decide +kernel)
  obtain ⟨middle, prior, stepped⟩ := Machine.exec_concat_iff.mp run'
  obtain rfl : middle = gateway := Option.some.inj (prior.symm.trans run)
  have failed : (Machine.exec (step (smallSettings [])) (init (smallSettings []) 0)
      fiveRefused).map (outcomes firstUpstream · ⟨5, .resume 4 .handle⟩) = some [false] := by
    decide +kernel
  rw [prior] at failed
  exact ⟨middle, tripped, before, after, run, stepped, found, found', Option.some.inj failed,
    wasClosed, isOpen⟩

/-! ## The cooldown -/

/-- An open breaker whose timer was last restarted at this time or later. -/
structure OpenSince (since : Instant) (cooldown : Duration) (breaker : CircuitBreaker) :
    Prop where
  isOpen : breaker.state = .«open»
  sameCooldown : breaker.cooldown = cooldown
  restarted : since ≤ breaker.lastStateChange

/-- Before its cooldown is over an open breaker stays open, whatever happens to it
except an admin enable. -/
theorem OpenSince.step {since : Instant} {cooldown : Duration} {before after : UpstreamState}
    (openSince : OpenSince since cooldown before.mutable.circuitBreaker)
    (stepped : Gateway.step settings gateway timed = some next)
    (found : gateway.app.upstream? target = some before)
    (found' : next.app.upstream? target = some after)
    (notEnabled : ¬ Enables target gateway timed) (later : since ≤ timed.time)
    (early : timed.time < since + cooldown) :
    OpenSince since cooldown after.mutable.circuitBreaker := by
  obtain ⟨isOpen, sameCooldown, restarted⟩ := openSince
  rcases breaker_of_step stepped found found' with
    ⟨same, -⟩ | ⟨probed, -⟩ | ⟨failed, -⟩ | ⟨-, enabled⟩
  · rw [same]
    exact ⟨isOpen, sameCooldown, restarted⟩
  · rw [probed, CircuitBreaker.tryHalfOpen_of_early restarted later (sameCooldown ▸ early)]
    exact ⟨isOpen, sameCooldown, restarted⟩
  · rw [failed]
    rcases CircuitBreaker.recordFailure_cases before.mutable.circuitBreaker timed.time with
      ⟨wasClosed, -, -⟩ | ⟨-, stillOpen, atNow⟩
    · rw [isOpen] at wasClosed
      cases wasClosed
    · exact ⟨stillOpen, by simpa using sameCooldown, later.trans_eq atNow.symm⟩
  · exact absurd enabled notEnabled

theorem openSince_of_failure {before after : UpstreamState}
    (stepped : step settings gateway timed = some next)
    (found : gateway.app.upstream? target = some before)
    (found' : next.app.upstream? target = some after)
    (failed : false ∈ gateway.outcomes target timed)
    (isOpen : after.mutable.circuitBreaker.state = .«open») :
    OpenSince timed.time after.mutable.circuitBreaker.cooldown after.mutable.circuitBreaker := by
  rcases breaker_of_step stepped found found' with
    ⟨-, noFailure⟩ | ⟨-, noOutcome⟩ | ⟨recorded, -⟩ | ⟨fresh, -⟩
  · rcases noFailure with none | success <;> simp_all
  · rw [noOutcome] at failed
    cases failed
  · rw [recorded] at isOpen ⊢
    exact ⟨isOpen, rfl, (CircuitBreaker.recordFailure_lastStateChange isOpen).ge⟩
  · rw [fresh] at isOpen
    cases isOpen

/-- Along a run that does not enable the upstream, an open breaker stays open until
its cooldown is over. -/
theorem openSince_of_run {since : Instant} {cooldown : Duration} {start : Gateway}
    {events : List Timed} {upstream : UpstreamState}
    (found : start.app.upstream? target = some upstream)
    (openSince : OpenSince since cooldown upstream.mutable.circuitBreaker)
    (later : since ≤ start.clock)
    (notEnabled : Machine.Always (step settings)
      (fun state timed => ¬ Enables target state timed) start events)
    (run : Machine.exec (step settings) start events = some gateway)
    (early : gateway.clock < since + cooldown) :
    ∃ reached, gateway.app.upstream? target = some reached ∧
      OpenSince since cooldown reached.mutable.circuitBreaker := by
  refine Machine.exec_history
    (fun events state =>
      Machine.Always (step settings) (fun state timed => ¬ Enables target state timed)
        start events →
      state.clock < since + cooldown →
      ∃ reached, state.app.upstream? target = some reached ∧
        OpenSince since cooldown reached.mutable.circuitBreaker)
    (fun _ _ => ⟨upstream, found, openSince⟩) ?_ run notEnabled early
  intro events state timed next prior ih stepped notEnabled early
  obtain ⟨inOrder, moved⟩ := clock_of_step stepped
  rw [moved] at early
  obtain ⟨before, foundBefore, stillOpen⟩ := ih notEnabled.init (inOrder.trans_lt early)
  obtain ⟨after, foundAfter⟩ := exists_upstream_of_step stepped foundBefore
  exact ⟨after, foundAfter, stillOpen.step stepped foundBefore foundAfter
    (notEnabled.last prior) ((later.trans (clock_le_of_exec prior)).trans inOrder) early⟩

/-- A tripped upstream gets no traffic during its cooldown: after a failure recorded
at some time leaves the breaker of an upstream open, no selection made less than
the cooldown later returns that upstream, whatever happens in between except an
admin enable.  The failure may be any one, also one that finds the breaker open. -/
theorem not_selected_during_cooldown {tripped : Gateway} {before after : UpstreamState}
    {rest : List Timed}
    (stepped : step settings gateway timed = some tripped)
    (found : gateway.app.upstream? target = some before)
    (found' : tripped.app.upstream? target = some after)
    (failed : false ∈ gateway.outcomes target timed)
    (isOpen : after.mutable.circuitBreaker.state = .«open»)
    (run : Machine.exec (step settings) tripped rest = some next)
    (notEnabled : Machine.Always (step settings)
      (fun state timed => ¬ Enables target state timed) tripped rest)
    (now : Instant) (current : next.clock ≤ now)
    (during : now < timed.time + after.mutable.circuitBreaker.cooldown)
    {pool : UpstreamPool} (isPool : next.app.pools[target.pool]? = some pool)
    (draw : Nat) {handle : Handle} (selected : (pool.selectUpstream draw).2 = some handle) :
    handle.2 ≠ target.index := by
  intro isTarget
  obtain ⟨reached, foundReached, stillOpen⟩ := openSince_of_run found'
    (openSince_of_failure stepped found found' failed isOpen) (clock_of_step stepped).2.ge
    notEnabled run (current.trans_lt during)
  obtain ⟨isUpstream, available⟩ := UpstreamPool.isAvailable_of_selectUpstream selected
  have sameUpstream : reached = handle.1 := by
    simp only [AppState.upstream?, isPool, Option.bind_some] at foundReached
    rw [← isTarget, isUpstream] at foundReached
    exact (Option.some.inj foundReached).symm
  rw [← sameUpstream, UpstreamState.not_isAvailable_of_open stillOpen.isOpen] at available
  cases available

/-- Twenty seconds after the breaker has tripped the second upstream, in service
since then, is selected. -/
theorem not_selected_after_five_refused :
    ∃ (tripped next : Gateway) (pool : UpstreamPool) (handle : Handle),
      Run (smallSettings []) 0 (fiveRefused ++ [⟨5, .resume 4 .handle⟩]) tripped ∧
      Machine.exec (step (smallSettings [])) tripped [⟨6, .background (.markHealthy ⟨0, 1⟩)⟩] =
        some next ∧
      (pool.selectUpstream 0).2 = some handle ∧ handle.2 ≠ firstUpstream.index := by
  obtain ⟨gateway, tripped, before, after, run, stepped, found, found', failed, -, isOpen⟩ :=
    fiveRefused_trips
  have wholeRun := Machine.exec_concat_iff.mpr ⟨gateway, run, stepped⟩
  have selects : ((Machine.exec (step (smallSettings [])) (init (smallSettings []) 0)
      ((fiveRefused ++ [⟨5, .resume 4 .handle⟩]) ++
        [⟨6, .background (.markHealthy ⟨0, 1⟩)⟩])).bind fun next =>
      next.app.pools[0]?.bind fun pool => (pool.selectUpstream 0).2).isSome = true := by
    decide +kernel
  rw [Machine.exec_append, wholeRun, Option.bind_some, Option.isSome_iff_exists] at selects
  obtain ⟨handle, selects⟩ := selects
  obtain ⟨next, rest, selects⟩ := Option.bind_eq_some_iff.mp selects
  obtain ⟨pool, isPool, selected⟩ := Option.bind_eq_some_iff.mp selects
  have atSix : next.clock = 6 := by
    obtain ⟨state, stepped, done⟩ := Machine.exec_cons_iff.mp rest
    cases done
    exact (clock_of_step stepped).2
  refine ⟨tripped, next, pool, handle, wholeRun, rest, selected, ?_⟩
  exact not_selected_during_cooldown stepped found found' (by simp [failed]) (by rw [isOpen])
    rest (not_enables_of_all (by decide)) (Duration.fromSecs 20) (by rw [atSix]; decide)
    (by rw [isOpen]; decide) isPool 0 selected

/-! ## Following the outcomes of the traffic -/

/-- The outcomes of the forwards to an upstream that a run completes, in order. -/
def history (settings : Settings) (start : Instant) (target : UpstreamRef)
    (events : List Timed) : List Bool :=
  Machine.trace (step settings) (outcomes target) (init settings start) events

/-- A forward to the upstream succeeds in this step while its breaker is half open,
or closed with failures on its count. -/
def LosesSuccess (target : UpstreamRef) (gateway : Gateway) (timed : Timed) : Prop :=
  true ∈ gateway.outcomes target timed ∧
    ∃ upstream, gateway.app.upstream? target = some upstream ∧
      (upstream.mutable.circuitBreaker.state = .halfOpen ∨
        upstream.mutable.circuitBreaker.state = .closed ∧
          upstream.mutable.circuitBreaker.failureCount ≠ 0)

/-- What a step does to a breaker follows the outcomes of the traffic: it trips only
on five failures in a row, and a success closes it when it is half open. -/
structure FollowsTraffic (history outcomes : List Bool) (before after : CircuitBreaker) :
    Prop where
  trips : before.state = .closed → after.state = .«open» →
    List.replicate 5 false <:+ history
  closes : true ∈ outcomes → before.state = .halfOpen →
    after.state = .closed ∧ after.failureCount = 0

/-- What the outcomes so far say about a breaker: its failures, while it is closed,
are the most recent outcomes. -/
structure Counts (history : List Bool) (breaker : CircuitBreaker) : Prop where
  threshold : breaker.failureThreshold = 5
  below : breaker.state = .closed → breaker.failureCount.toNat < 5
  recent : breaker.state = .closed →
    List.replicate breaker.failureCount.toNat false <:+ history

theorem suffix_concat {count : Nat} {history : List Bool}
    (recent : List.replicate count false <:+ history) :
    List.replicate (count + 1) false <:+ history ++ [false] := by
  obtain ⟨earlier, rfl⟩ := recent
  exact ⟨earlier, by simp [List.replicate_succ']⟩

theorem Counts.succ_toNat {history : List Bool} {breaker : CircuitBreaker}
    (counts : Counts history breaker) (isClosed : breaker.state = .closed) :
    (breaker.failureCount + 1).toNat = breaker.failureCount.toNat + 1 := by
  have below : breaker.failureCount < 5 := UInt32.lt_iff_toNat_lt.mpr (counts.below isClosed)
  exact CircuitBreaker.failureCount_succ below

theorem Counts.recordFailure {history : List Bool} {breaker : CircuitBreaker}
    (counts : Counts history breaker) (now : Instant) :
    Counts (history ++ [false]) (breaker.recordFailure now) := by
  have threshold : (breaker.recordFailure now).failureThreshold = 5 := by
    simpa using counts.threshold
  rcases CircuitBreaker.recordFailure_cases breaker now with
    ⟨wasClosed, short, counted⟩ | ⟨-, isOpen, -⟩
  · rw [counted] at threshold ⊢
    refine ⟨threshold, fun _ => ?_, fun _ => ?_⟩
    · rw [counts.threshold, UInt32.lt_iff_toNat_lt] at short
      exact short
    · rw [counts.succ_toNat wasClosed]
      exact suffix_concat (counts.recent wasClosed)
  · refine ⟨threshold, ?_, ?_⟩ <;> simp [isOpen]

theorem Counts.tryHalfOpen {history : List Bool} {breaker : CircuitBreaker}
    (counts : Counts history breaker) (now : Instant) :
    Counts history (breaker.tryHalfOpen now) := by
  refine ⟨by simpa using counts.threshold, ?_, ?_⟩
  · intro isClosed
    simpa using counts.below ((CircuitBreaker.tryHalfOpen_closed_iff breaker now).mp isClosed)
  · intro isClosed
    simpa using counts.recent ((CircuitBreaker.tryHalfOpen_closed_iff breaker now).mp isClosed)

/-- A step that neither enables the upstream nor loses a success keeps the count. -/
theorem Counts.step {history : List Bool} {before after : UpstreamState}
    (counts : Counts history before.mutable.circuitBreaker)
    (stepped : Gateway.step settings gateway timed = some next)
    (found : gateway.app.upstream? target = some before)
    (found' : next.app.upstream? target = some after)
    (notEnabled : ¬ Enables target gateway timed)
    (kept : ¬ LosesSuccess target gateway timed) :
    Counts (history ++ gateway.outcomes target timed) after.mutable.circuitBreaker := by
  rcases breaker_of_step stepped found found' with
    ⟨same, none | success⟩ | ⟨probed, none⟩ | ⟨failed, failure⟩ | ⟨-, enabled⟩
  · rw [same, none, List.append_nil]
    exact counts
  · rw [same, success]
    refine ⟨counts.threshold, counts.below, fun isClosed => ?_⟩
    -- The success was not lost, so there was no failure on the count.
    have zero : before.mutable.circuitBreaker.failureCount = 0 := by
      by_contra nonzero
      exact kept ⟨by simp [success], before, found, Or.inr ⟨isClosed, nonzero⟩⟩
    simp [zero]
  · rw [probed, none, List.append_nil]
    exact counts.tryHalfOpen timed.time
  · rw [failed, failure]
    exact counts.recordFailure timed.time
  · exact absurd enabled notEnabled

theorem counts_of_run {start : Instant} {events : List Timed} {upstream : UpstreamState}
    (run : Run settings start events gateway)
    (notEnabled : Machine.Always (step settings)
      (fun state timed => ¬ Enables target state timed) (init settings start) events)
    (kept : Machine.Always (step settings)
      (fun state timed => ¬ LosesSuccess target state timed) (init settings start) events)
    (found : gateway.app.upstream? target = some upstream) :
    Counts (history settings start target events) upstream.mutable.circuitBreaker := by
  refine Machine.exec_history
    (fun events state =>
      Machine.Always (step settings) (fun state timed => ¬ Enables target state timed)
        (init settings start) events →
      Machine.Always (step settings) (fun state timed => ¬ LosesSuccess target state timed)
        (init settings start) events →
      ∀ upstream, state.app.upstream? target = some upstream →
        Counts (history settings start target events) upstream.mutable.circuitBreaker)
    ?_ ?_ run notEnabled kept upstream found
  · intro _ _ upstream found
    rw [(AppState.upstream?_buildState found).1]
    exact ⟨rfl, fun _ => by simp [CircuitBreaker.default, CircuitBreaker.new],
      fun _ => List.nil_suffix⟩
  · intro events state timed next prior ih stepped notEnabled kept after foundAfter
    obtain ⟨before, foundBefore⟩ : ∃ before, state.app.upstream? target = some before := by
      rw [upstream?_step stepped] at foundAfter
      obtain ⟨before, foundBefore, -⟩ := Option.map_eq_some_iff.mp foundAfter
      exact ⟨before, foundBefore⟩
    rw [history, Machine.trace_concat prior]
    exact (ih notEnabled.init kept.init before foundBefore).step stepped foundBefore foundAfter
      (notEnabled.last prior) (kept.last prior)

theorem Counts.trips {history : List Bool} {before after : UpstreamState}
    (counts : Counts history before.mutable.circuitBreaker)
    (stepped : Gateway.step settings gateway timed = some next)
    (found : gateway.app.upstream? target = some before)
    (found' : next.app.upstream? target = some after)
    (wasClosed : before.mutable.circuitBreaker.state = .closed)
    (isOpen : after.mutable.circuitBreaker.state = .«open») :
    List.replicate 5 false <:+ history ++ gateway.outcomes target timed := by
  rcases breaker_of_step stepped found found' with
    ⟨same, -⟩ | ⟨probed, -⟩ | ⟨failed, failure⟩ | ⟨fresh, -⟩
  · rw [same, wasClosed] at isOpen
    cases isOpen
  · rw [probed] at isOpen
    rw [← CircuitBreaker.tryHalfOpen_closed_iff _ timed.time, isOpen] at wasClosed
    cases wasClosed
  · rw [failure]
    rw [failed] at isOpen
    rcases CircuitBreaker.recordFailure_cases before.mutable.circuitBreaker timed.time with
      ⟨-, -, counted⟩ | ⟨reached, -, -⟩
    · rw [counted, wasClosed] at isOpen
      cases isOpen
    · have fifth := reached wasClosed
      rw [counts.threshold, UInt32.le_iff_toNat_le, counts.succ_toNat wasClosed] at fifth
      have exactly : before.mutable.circuitBreaker.failureCount.toNat + 1 = 5 :=
        le_antisymm (counts.below wasClosed) fifth
      exact exactly ▸ suffix_concat (counts.recent wasClosed)
  · rw [fresh] at isOpen
    cases isOpen

/-- In every run without an admin enable in which no success is lost, each step
follows the outcomes of the traffic.  A success that finds the breaker half open is
always lost: it leaves the breaker half open. -/
theorem follows_traffic_of_kept {start : Instant} {events : List Timed}
    {before after : UpstreamState} (run : Run settings start events gateway)
    (stepped : step settings gateway timed = some next)
    (found : gateway.app.upstream? target = some before)
    (found' : next.app.upstream? target = some after)
    (notEnabled : Machine.Always (step settings)
      (fun state timed => ¬ Enables target state timed) (init settings start)
      (events ++ [timed])) :
    (Machine.Always (step settings) (fun state timed => ¬ LosesSuccess target state timed)
        (init settings start) (events ++ [timed]) →
      FollowsTraffic (history settings start target (events ++ [timed]))
        (gateway.outcomes target timed) before.mutable.circuitBreaker
        after.mutable.circuitBreaker) ∧
    (true ∈ gateway.outcomes target timed →
      before.mutable.circuitBreaker.state = .halfOpen →
      after.mutable.circuitBreaker.state = .halfOpen) := by
  constructor
  · intro kept
    have counts := counts_of_run run notEnabled.init kept.init found
    refine ⟨?_, ?_⟩
    · intro wasClosed isOpen
      rw [history, Machine.trace_concat run]
      exact counts.trips stepped found found' wasClosed isOpen
    · intro success isHalfOpen
      exact absurd ⟨success, before, found, Or.inl isHalfOpen⟩ (kept.last run)
  · intro success isHalfOpen
    rcases breaker_of_step stepped found found' with
      ⟨same, -⟩ | ⟨-, none⟩ | ⟨-, failure⟩ | ⟨-, enabled⟩
    · rw [same, isHalfOpen]
    · simp [none] at success
    · simp [failure] at success
    · exact absurd enabled (notEnabled.last run)

theorem not_losesSuccess_of_history (settings : Settings) (start : Instant)
    (target : UpstreamRef) (events : List Timed)
    (noSuccess : true ∉ history settings start target events) :
    Machine.Always (step settings) (fun state timed => ¬ LosesSuccess target state timed)
      (init settings start) events := by
  rintro before timed after state rfl prior ⟨success, -⟩
  exact noSuccess (Machine.mem_trace prior success)

/-- The breaker that five refused exchanges in a row trip follows the traffic. -/
theorem follows_traffic_of_five_refused :
    List.replicate 5 false <:+
      history (smallSettings []) 0 firstUpstream (fiveRefused ++ [⟨5, .resume 4 .handle⟩]) := by
  obtain ⟨gateway, tripped, before, after, run, stepped, found, found', -, wasClosed, isOpen⟩ :=
    fiveRefused_trips
  have kept := not_losesSuccess_of_history (smallSettings []) 0 firstUpstream
    (fiveRefused ++ [⟨5, .resume 4 .handle⟩]) (by decide +kernel)
  exact ((follows_traffic_of_kept run stepped found found'
    (not_enables_of_all (by decide +kernel))).1 kept).trips (by rw [wasClosed]) (by rw [isOpen])

/-- A success between failures is ignored: the breaker trips on the fifth failure
although a success completed before it.  Once a probe has half opened it, a success
leaves it half open. -/
theorem success_ignored_by_breaker :
    let tripping := exchanges [refused, refused, refused, refused, ledgerReply 1, refused]
    let recovering := tripping ++
      [⟨7 + Duration.fromSecs 30, .background (.probe firstUpstream 1 (.response 200))⟩] ++
      exchange 6 (8 + Duration.fromSecs 30) 1 (ledgerReply 1)
    (∀ timed ∈ recovering, isEnable timed = false) ∧
      (breakerAfter tripping.dropLast).map (·.state) = some .closed ∧
      (breakerAfter tripping).map (·.state) = some .«open» ∧
      ¬ List.replicate 5 false <:+ history (smallSettings []) 0 firstUpstream tripping ∧
      (breakerAfter recovering.dropLast).map (·.state) = some .halfOpen ∧
      (breakerAfter recovering).map (·.state) = some .halfOpen ∧
      (history (smallSettings []) 0 firstUpstream recovering).getLast? = some true := by
  decide +kernel

end Gateway

end SorobanGate
