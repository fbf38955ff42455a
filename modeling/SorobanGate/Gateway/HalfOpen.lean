import SorobanGate.Gateway.Breaker
import SorobanGate.Pool.Selection

/-!
# Probing a half-open upstream

A half-open breaker is to let one request through and wait for its outcome.  But it
lets every request through: how many are selected onto its upstream before the first
of them has an outcome depends on how many are made.
-/

namespace SorobanGate

/-- Inversion: a selection that returns an upstream. -/
theorem AppState.selectUpstream_eq_selected_iff {app : AppState}
    {request request' : ProxyRequest} {draw : Nat} {target : UpstreamRef} :
    (app.selectUpstream request draw).2 = .selected request' target ↔
      request' = request ∧ ∃ pool handle,
        (app.pools.zipIdx.find? fun pool => pool.1.name == request.poolName) =
          some (pool, target.pool) ∧
        (pool.selectUpstream draw).2 = some handle ∧ handle.2 = target.index := by
  constructor
  · intro selected
    unfold selectUpstream at selected
    split at selected
    · cases selected
    next pool index found =>
      dsimp only at selected
      split at selected
      · cases selected
      next handle chosen =>
        cases selected
        exact ⟨rfl, pool, handle, found, chosen, rfl⟩
  · rintro ⟨rfl, pool, handle, found, chosen, isTarget⟩
    unfold selectUpstream
    simp only [found, chosen, isTarget]

/-- The invocation has yet to select an upstream. -/
def Phase.isRouted : Phase → Bool
  | .routed _ => true
  | _ => false

theorem Phase.isRouted_advance {settings : Settings} {app : AppState} {now : Instant}
    {phase : Phase} {action : Action} {reached : AppState × Phase}
    (advanced : phase.advance settings now app action = some reached) :
    reached.2.isRouted = false := by
  obtain ⟨app', phase'⟩ := reached
  cases follows_of_advance advanced <;> rfl

namespace Gateway

variable (settings : Settings) (target : UpstreamRef)

/-- The requests that a step selects onto an upstream. -/
def selections (gateway : Gateway) (timed : Timed) : List Nat :=
  match timed.event with
  | .resume index (.select draw) =>
      match gateway.requests[index]? with
      | some (.routed request) =>
          match (gateway.app.selectUpstream request draw).2 with
          | .selected _ place => if place = target then [index] else []
          | _ => []
      | _ => []
  | _ => []

/-- The requests whose outcome a step brings back from an upstream. -/
def answers (gateway : Gateway) (timed : Timed) : List Nat :=
  match timed.event with
  | .resume index (.«return» _) =>
      match gateway.requests[index]? with
      | some (.forwarding _ place) => if place = target then [index] else []
      | _ => []
  | _ => []

/-- A request is about to select from the pool of an upstream that is available. -/
def Contends (gateway : Gateway) (timed : Timed) : Prop :=
  ∃ (index : Nat) (draw : Nat) (request : ProxyRequest) (pool : UpstreamPool)
      (upstream : UpstreamState),
    timed.event = .resume index (.select draw) ∧
    gateway.requests[index]? = some (.routed request) ∧
    (gateway.app.pools.zipIdx.find? fun pool => pool.1.name == request.poolName) =
      some (pool, target.pool) ∧
    gateway.app.upstream? target = some upstream ∧ upstream.isAvailable = true

/-- The requests that are selected onto the upstream in a window of a run. -/
def probes (entered : Gateway) (window : List Timed) : List Nat :=
  Machine.trace (step settings) (selections target) entered window

/-- None of them has an outcome yet. -/
def Unanswered (entered : Gateway) (window : List Timed) : Prop :=
  ∀ index ∈ probes settings target entered window,
    index ∉ Machine.trace (step settings) (answers target) entered window

/-- After some events of a run a step makes the breaker of the upstream half open. -/
structure Enters (start : Instant) (earlier : List Timed) (timed : Timed)
    (gateway entered : Gateway) (before after : UpstreamState) : Prop where
  prior : Run settings start earlier gateway
  stepped : step settings gateway timed = some entered
  found : gateway.app.upstream? target = some before
  found' : entered.app.upstream? target = some after
  notHalfOpen : before.mutable.circuitBreaker.state ≠ .halfOpen
  halfOpen : after.mutable.circuitBreaker.state = .halfOpen

/-- Half open admits a single probe: whenever the breaker has become half open, at most
one request is selected onto the upstream while none of those selected since then has
an outcome. -/
def SingleProbe (start : Instant) (events : List Timed) : Prop :=
  ∀ earlier timed window rest gateway entered before after,
    events = earlier ++ timed :: (window ++ rest) →
    Enters settings target start earlier timed gateway entered before after →
    Unanswered settings target entered window →
    (probes settings target entered window).length ≤ 1

/-- Whenever the breaker has become half open, a request that selects from the pool of
the available upstream finds no request selected onto it since then without outcome. -/
def OneAtATime (start : Instant) (events : List Timed) : Prop :=
  ∀ earlier timed window contender rest gateway entered before after state,
    events = earlier ++ timed :: (window ++ contender :: rest) →
    Enters settings target start earlier timed gateway entered before after →
    Machine.exec (step settings) entered window = some state →
    Contends target state contender →
    Unanswered settings target entered window →
    probes settings target entered window = []

/-- The upstream is the only available one of its pool whenever a request selects from
there. -/
def Sole (start : Instant) (events : List Timed) : Prop :=
  ∀ before contender after state pool, events = before ++ contender :: after →
    Run settings start before state → Contends target state contender →
    state.app.pools[target.pool]? = some pool →
    ∀ handle ∈ pool.healthyUpstreams, handle.2 = target.index

variable {settings target} {gateway next : Gateway} {timed : Timed}

/-- A step selects at most one request onto an upstream, one that contends for it. -/
theorem selections_cases (target : UpstreamRef) (gateway : Gateway) (timed : Timed) :
    selections target gateway timed = [] ∨
      ∃ index, selections target gateway timed = [index] ∧ Contends target gateway timed := by
  obtain ⟨now, event⟩ := timed
  unfold selections
  split
  next index draw isSelect =>
    split
    next request isRouted =>
      split
      next chosen place selected =>
        split
        next isTarget =>
          subst isTarget
          obtain ⟨-, pool, handle, isPool, -, -⟩ :=
            AppState.selectUpstream_eq_selected_iff.mp selected
          obtain ⟨upstream, found, available⟩ := AppState.isAvailable_of_selectUpstream selected
          exact Or.inr ⟨index, rfl, index, draw, request, pool, upstream, isSelect, isRouted,
            isPool, found, available⟩
        · exact Or.inl rfl
      · exact Or.inl rfl
    · exact Or.inl rfl
  · exact Or.inl rfl

theorem selections_of_sole {pool : UpstreamPool} (contends : Contends target gateway timed)
    (isPool : gateway.app.pools[target.pool]? = some pool)
    (sole : ∀ handle ∈ pool.healthyUpstreams, handle.2 = target.index) :
    ∃ (index : Nat) (request : ProxyRequest), selections target gateway timed = [index] ∧
      gateway.requests[index]? = some (.routed request) := by
  obtain ⟨index, draw, request, found, upstream, isSelect, isRouted, isFound, isUpstream,
    available⟩ := contends
  obtain rfl : found = pool := by
    have atPool := List.mem_zipIdx_iff_getElem?.mp (List.mem_of_find?_eq_some isFound)
    exact Option.some.inj (atPool.symm.trans isPool)
  have nonempty : found.healthyUpstreams ≠ [] := by
    have inPool : found.upstreams[target.index]? = some upstream := by
      simpa [AppState.upstream?, isPool] using isUpstream
    have member : (upstream, target.index) ∈ found.healthyUpstreams :=
      List.mem_filter.mpr ⟨List.mem_zipIdx_iff_getElem?.mpr inPool, available⟩
    exact List.ne_nil_of_mem member
  obtain ⟨handle, chosen, member⟩ := found.exists_selected draw nonempty
  have selected : (gateway.app.selectUpstream request draw).2 = .selected request target :=
    AppState.selectUpstream_eq_selected_iff.mpr
      ⟨rfl, found, handle, isFound, chosen, sole handle member⟩
  refine ⟨index, request, ?_, isRouted⟩
  simp only [selections, isSelect, isRouted, selected, if_true]

theorem answers_of_contends (contends : Contends target gateway timed) :
    answers target gateway timed = [] := by
  obtain ⟨index, draw, request, pool, upstream, isSelect, -⟩ := contends
  simp only [answers, isSelect]

theorem isRouted_of_step {index : Nat} {phase : Phase}
    (stepped : step settings gateway timed = some next)
    (atIndex : gateway.requests[index]? = some phase) (past : phase.isRouted = false) :
    ∃ phase', next.requests[index]? = some phase' ∧ phase'.isRouted = false := by
  rcases phase_of_step stepped atIndex with same | ⟨action, reached, -, advanced, goesOn⟩
  · exact ⟨phase, same, past⟩
  · exact ⟨reached.2, goesOn, Phase.isRouted_advance advanced⟩

theorem isRouted_of_answered {entered state : Gateway} {window : List Timed}
    (run : Machine.exec (step settings) entered window = some state) :
    ∀ index ∈ Machine.trace (step settings) (answers target) entered window,
      ∃ phase, state.requests[index]? = some phase ∧ phase.isRouted = false := by
  refine Machine.exec_history
    (fun window state =>
      ∀ index ∈ Machine.trace (step settings) (answers target) entered window,
        ∃ phase, state.requests[index]? = some phase ∧ phase.isRouted = false)
    (by simp) ?_ run
  intro window state timed next prior ih stepped index member
  rw [Machine.trace_concat prior, List.mem_append] at member
  rcases member with earlier | last
  · obtain ⟨phase, atIndex, past⟩ := ih index earlier
    exact isRouted_of_step stepped atIndex past
  · obtain ⟨phase, atIndex, past⟩ : ∃ phase, state.requests[index]? = some phase ∧
        phase.isRouted = false := by
      unfold answers at last
      split at last
      · split at last
        next request place atIndex =>
          split at last
          · rw [List.mem_singleton] at last
            exact ⟨_, last ▸ atIndex, rfl⟩
          · cases last
        · cases last
      · cases last
    exact isRouted_of_step stepped atIndex past

theorem Unanswered.init {entered state : Gateway} {window : List Timed} {last : Timed}
    (unanswered : Unanswered settings target entered (window ++ [last]))
    (run : Machine.exec (step settings) entered window = some state) :
    Unanswered settings target entered window := by
  intro index probe answered
  apply unanswered index
  · rw [probes, Machine.trace_concat run]
    exact List.mem_append_left _ probe
  · rw [Machine.trace_concat run]
    exact List.mem_append_left _ answered

theorem Enters.run {start : Instant} {earlier window : List Timed} {entered state : Gateway}
    {before after : UpstreamState}
    (enters : Enters settings target start earlier timed gateway entered before after)
    (follows : Machine.exec (step settings) entered window = some state) :
    Run settings start (earlier ++ timed :: window) state :=
  Machine.exec_append_iff.mpr
    ⟨gateway, enters.prior, Machine.exec_cons_iff.mpr ⟨entered, enters.stepped, follows⟩⟩

theorem Enters.exists_window {start : Instant} {events earlier window rest : List Timed}
    {entered final : Gateway} {before after : UpstreamState}
    (enters : Enters settings target start earlier timed gateway entered before after)
    (run : Run settings start events final)
    (split : events = earlier ++ timed :: (window ++ rest)) :
    ∃ state, Machine.exec (step settings) entered window = some state := by
  rw [Run, split] at run
  obtain ⟨reached, prior, following⟩ := Machine.exec_append_iff.mp run
  obtain rfl := Option.some.inj (prior.symm.trans enters.prior)
  obtain ⟨next, stepped, remaining⟩ := Machine.exec_cons_iff.mp following
  obtain rfl := Option.some.inj (stepped.symm.trans enters.stepped)
  obtain ⟨state, window, -⟩ := Machine.exec_append_iff.mp remaining
  exact ⟨state, window⟩

/-- In a window in which every contender comes alone there is at most one probe. -/
theorem singleProbe_of_alone {start : Instant} {events : List Timed} {final : Gateway}
    (run : Run settings start events final)
    (oneAtATime : OneAtATime settings target start events) :
    SingleProbe settings target start events := by
  intro earlier timed window rest gateway entered before after split enters
  induction window using List.reverseRecOn generalizing rest with
  | nil => simp [probes]
  | append_singleton window last ih =>
      intro unanswered
      rw [List.append_assoc, List.singleton_append] at split
      obtain ⟨state, prior⟩ := enters.exists_window run split
      have earlierUnanswered := unanswered.init prior
      rw [probes, Machine.trace_concat prior]
      rcases selections_cases target state last with none | ⟨index, one, contends⟩
      · rw [none, List.append_nil]
        exact ih (last :: rest) split earlierUnanswered
      · have first := oneAtATime earlier timed window last rest gateway entered before after
          state split enters prior contends earlierUnanswered
        rw [probes] at first
        rw [first, one]
        exact le_rfl

theorem Unanswered.concat {entered state : Gateway} {window : List Timed} {contender : Timed}
    {index : Nat} {request : ProxyRequest}
    (unanswered : Unanswered settings target entered window)
    (prior : Machine.exec (step settings) entered window = some state)
    (contends : Contends target state contender)
    (selected : selections target state contender = [index])
    (isRouted : state.requests[index]? = some (.routed request)) :
    Unanswered settings target entered (window ++ [contender]) := by
  intro other probe answered
  rw [probes, Machine.trace_concat prior, selected, List.mem_append,
    List.mem_singleton] at probe
  rw [Machine.trace_concat prior, answers_of_contends contends, List.append_nil] at answered
  rcases probe with earlierProbe | rfl
  · exact unanswered other earlierProbe answered
  · -- The request has yet to select, so it has no outcome.
    obtain ⟨phase, atIndex, past⟩ := isRouted_of_answered prior other answered
    rw [isRouted] at atIndex
    cases atIndex
    cases past

/-- Where the upstream is the only available one, a second contender would be a second
probe. -/
theorem oneAtATime_of_sole {start : Instant} {events : List Timed}
    (sole : Sole settings target start events)
    (single : SingleProbe settings target start events) :
    OneAtATime settings target start events := by
  intro earlier timed window contender rest gateway entered before after state split enters
    prior contends unanswered
  obtain ⟨pool, isPool⟩ : ∃ pool, state.app.pools[target.pool]? = some pool := by
    obtain ⟨_, _, _, pool, _, _, _, isFound, _⟩ := contends
    exact ⟨pool, List.mem_zipIdx_iff_getElem?.mp (List.mem_of_find?_eq_some isFound)⟩
  obtain ⟨index, request, selected, isRouted⟩ := selections_of_sole contends isPool
    (sole (earlier ++ timed :: window) contender rest state pool (by simp [split])
      (enters.run prior) contends isPool)
  have atMostOne := single earlier timed (window ++ [contender]) rest gateway entered before
    after (by simp [split]) enters (unanswered.concat prior contends selected isRouted)
  rw [probes, Machine.trace_concat prior, selected, List.length_append,
    List.length_singleton] at atMostOne
  exact List.length_eq_zero_iff.mp (Nat.le_zero.mp (Nat.le_of_succ_le_succ atMostOne))

/-- A half-open upstream and its probes.  In every run in which requests select from
the pool of the upstream one at a time while it is half open, it gets a single probe.
Where no other upstream of the pool is available, nothing less will do. -/
theorem singleProbe_of_oneAtATime {start : Instant} {events : List Timed} {final : Gateway}
    (run : Run settings start events final) :
    (OneAtATime settings target start events → SingleProbe settings target start events) ∧
      (Sole settings target start events → SingleProbe settings target start events →
        OneAtATime settings target start events) :=
  ⟨singleProbe_of_alone run, oneAtATime_of_sole⟩

/-! ## Two requests at a half-open upstream -/

/-- Half a minute after five refused exchanges a probe succeeds. -/
def halfOpened : List Timed :=
  exchanges (List.replicate 5 refused) ++
    [⟨6 + Duration.fromSecs 30, .background (.probe firstUpstream 1 (.response 200))⟩]

/-- A request arrives and selects an upstream. -/
def selectsAfter (request : Nat) : List Timed :=
  [⟨7 + Duration.fromSecs 30, .receive (some (ledgerRequest 1).toBytes)⟩,
    ⟨7 + Duration.fromSecs 30, .resume request (.select 0)⟩]

theorem breakerAfter_of_enters {earlier : List Timed} {before after : UpstreamState}
    {entered : Gateway}
    (enters : Enters (smallSettings []) firstUpstream 0 earlier timed gateway entered before
      after) :
    breakerAfter earlier = some before.mutable.circuitBreaker ∧
      breakerAfter (earlier ++ [timed]) = some after.mutable.circuitBreaker := by
  have prior : Machine.exec (step (smallSettings [])) (init (smallSettings []) 0) earlier =
      some gateway := enters.prior
  have whole := Machine.exec_concat_iff.mpr ⟨gateway, prior, enters.stepped⟩
  constructor
  · simp only [breakerAfter, prior, Option.bind_some, enters.found, Option.map_some]
  · simp only [breakerAfter, whole, Option.bind_some, enters.found', Option.map_some]

/-- The first request after the breaker has become half open is its single probe. -/
theorem singleProbe_first_request :
    ∃ final, Run (smallSettings []) 0 (halfOpened ++ selectsAfter 5) final ∧
      SingleProbe (smallSettings []) firstUpstream 0 (halfOpened ++ selectsAfter 5) := by
  have computed : (Machine.exec (step (smallSettings [])) (init (smallSettings []) 0)
      (halfOpened ++ selectsAfter 5)).isSome = true := by
    decide +kernel
  obtain ⟨final, run⟩ := Option.isSome_iff_exists.mp computed
  refine ⟨final, run, (singleProbe_of_oneAtATime run).1 ?_⟩
  intro earlier timed window contender rest gateway entered before after state split enters
    prior contends _
  -- The breaker becomes half open at the probe and nowhere else.
  have position : ∀ n < 29, n ≠ 26 →
      (breakerAfter ((halfOpened ++ selectsAfter 5).take (n + 1))).map (·.state) =
        some .halfOpen →
      (breakerAfter ((halfOpened ++ selectsAfter 5).take n)).map (·.state) =
        some .halfOpen := by
    decide +kernel
  obtain ⟨wasBefore, isAfter⟩ := breakerAfter_of_enters enters
  have length := congrArg List.length split
  simp only [show (halfOpened ++ selectsAfter 5).length = 29 from rfl, List.length_append,
    List.length_cons] at length
  have shorter : (halfOpened ++ selectsAfter 5).take (earlier.length + 1) =
      earlier ++ [timed] := by
    rw [split, List.take_length_add_append]
    rfl
  have atProbe : earlier.length = 26 := by
    by_contra elsewhere
    have already := position earlier.length (by omega) elsewhere
    rw [shorter, split, List.take_left, wasBefore, isAfter] at already
    exact enters.notHalfOpen (by simpa [enters.halfOpen] using already)
  have following : selectsAfter 5 = window ++ contender :: rest := by
    have dropped := congrArg (List.drop 27) split
    rw [show 27 = earlier.length + 1 by rw [atProbe], List.drop_length_add_append,
      List.drop_succ_cons, List.drop_zero, atProbe] at dropped
    exact dropped
  -- No request is selected before the one that this window ends with.
  cases window with
  | nil => rfl
  | cons first others =>
      obtain ⟨rfl, -⟩ := List.cons.inj following
      obtain rfl : others = [] := List.length_eq_zero_iff.mp (by
        rw [List.length_cons] at length
        omega)
      exact Machine.trace_singleton ..

/-- Two requests that arrive while the breaker is half open are both selected onto its
upstream. -/
theorem two_probes_when_half_open :
    ∃ final, Run (smallSettings []) 0 (halfOpened ++ (selectsAfter 5 ++ selectsAfter 6)) final ∧
      (∀ timed ∈ halfOpened ++ (selectsAfter 5 ++ selectsAfter 6), isEnable timed = false) ∧
      ¬ SingleProbe (smallSettings []) firstUpstream 0
        (halfOpened ++ (selectsAfter 5 ++ selectsAfter 6)) := by
  have computed : (Machine.exec (step (smallSettings [])) (init (smallSettings []) 0)
      (halfOpened ++ (selectsAfter 5 ++ selectsAfter 6))).isSome = true := by
    decide +kernel
  obtain ⟨final, run⟩ := Option.isSome_iff_exists.mp computed
  refine ⟨final, run, by decide +kernel, ?_⟩
  obtain ⟨entered, after, entry, found', halfOpen⟩ := exists_run_of_breakerAfter halfOpened
    ⟨.halfOpen, 5, 5, .fromSecs 30, 6 + Duration.fromSecs 30⟩ (by decide +kernel)
  obtain ⟨gateway, before, prior, found, isOpen⟩ :=
    exists_run_of_breakerAfter (exchanges (List.replicate 5 refused))
      ⟨.«open», 5, 5, .fromSecs 30, 5⟩ (by decide +kernel)
  obtain ⟨middle, reached, stepped⟩ := Machine.exec_concat_iff.mp entry
  obtain rfl := Option.some.inj (reached.symm.trans prior)
  have shown : (Machine.exec (step (smallSettings [])) (init (smallSettings []) 0)
      halfOpened).map (fun entered =>
        (probes (smallSettings []) firstUpstream entered (selectsAfter 5 ++ selectsAfter 6),
          Machine.trace (step (smallSettings [])) (answers firstUpstream) entered
            (selectsAfter 5 ++ selectsAfter 6))) = some ([5, 6], []) := by
    decide +kernel
  rw [entry, Option.map_some, Option.some.injEq, Prod.mk.injEq] at shown
  intro single
  have atMostOne := single (exchanges (List.replicate 5 refused)) _
    (selectsAfter 5 ++ selectsAfter 6) [] middle entered before after (by simp [halfOpened])
    ⟨prior, stepped, found, found', by simp [isOpen], by rw [halfOpen]⟩
    (by intro index _; simp [shown.2])
  rw [shown.1] at atMostOne
  exact absurd atMostOne (by decide)

end Gateway

end SorobanGate
