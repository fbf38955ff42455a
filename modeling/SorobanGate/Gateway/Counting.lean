import SorobanGate.Gateway.Routing

/-!
# What a request is counted as

The handler counts a lookup in the cache as a hit or a miss, and a request when it
answers from the cache or when a forward has come back.  Its three refusals come before
that: a body that names no method, a pool that is not configured and a pool without an
available upstream are answered without being counted.
-/

namespace SorobanGate

/-! ## What a step counts -/

/-- One increment of the metrics. -/
inductive Count where
  | request (labels : RequestLabels)
  | hit (method : String)
  | miss (method : String)
  deriving DecidableEq, Repr

def Count.apply (metrics : Metrics) : Count → Metrics
  | .request labels => metrics.countRequest labels
  | .hit method => metrics.countHit method
  | .miss method => metrics.countMiss method

/-- What the handler counts when it has looked a request up in the cache. -/
def ProxyRequest.lookupCounts (request : ProxyRequest) : Option (Option Bytes) → List Count
  | none => []
  | some none => [.miss request.method]
  | some (some _) => [.hit request.method, .request (request.labels 200 true)]

/-- The status that a request is counted under when its forward has come back. -/
def ForwardResult.status : ForwardResult → StatusCode
  | .ok reply => reply.status
  | .error message => AppState.failureStatus message

variable (settings : Settings)

namespace AppState

/-- What looking a request up in the cache brings, if the cache is consulted. -/
def lookedUp (request : ProxyRequest) (now : Instant) (app : AppState) :
    Option (Option Bytes) :=
  (app.consult settings request now).map Prod.snd

/-- The cache is consulted for a body. -/
def consults (body : Option Bytes) (now : Instant) (app : AppState) : Bool :=
  (body.bind (ProxyRequest.ofBody settings)).any fun request =>
    (app.consult settings request now).isSome

def receiveCounts (body : Option Bytes) (now : Instant) (app : AppState) : List Count :=
  match body.bind (ProxyRequest.ofBody settings) with
  | none => []
  | some request => request.lookupCounts (app.lookedUp settings request now)

end AppState

def Phase.counts : Phase → Action → List Count
  | .returned request _ result, .handle => [.request (request.labels result.status false)]
  | _, _ => []

/-- What a step of the gateway counts. -/
def Gateway.counts (gateway : Gateway) (timed : Timed) : List Count :=
  match timed.event with
  | .receive body => gateway.app.receiveCounts settings body timed.time
  | .resume request action =>
      match gateway.requests[request]? with
      | some phase => phase.counts action
      | none => []
  | .background _ => []

variable {settings} {app : AppState} {now : Instant}

namespace AppState

theorem consults_eq {body : Option Bytes} {request : ProxyRequest}
    {looked : Option (Option Bytes)}
    (isRequest : body.bind (ProxyRequest.ofBody settings) = some request)
    (isLooked : app.lookedUp settings request now = looked) :
    app.consults settings body now = looked.isSome := by
  rw [consults, isRequest, ← isLooked, lookedUp, Option.isSome_map]
  rfl

theorem metrics_receive (body : Option Bytes) :
    (app.receive settings body now).1.metrics =
      app.metrics.map ((app.receiveCounts settings body now).foldl Count.apply) := by
  cases isRequest : body.bind (ProxyRequest.ofBody settings) with
  | none => simp [receive, receiveCounts, isRequest]
  | some request =>
      rcases looked : app.consult settings request now with _ | ⟨cache, _ | cachedBody⟩
      · simp [receive, receiveCounts, lookedUp, isRequest, looked, ProxyRequest.lookupCounts]
      · simp only [receive, receiveCounts, lookedUp, isRequest, looked]
        rfl
      · simp only [receive, receiveCounts, lookedUp, isRequest, looked, mapMetrics,
          Option.map_map]
        rfl

theorem metrics_selectUpstream (request : ProxyRequest) (draw : Nat) :
    (app.selectUpstream request draw).1.metrics = app.metrics := by
  rcases app.selectUpstream_inv request draw with
    ⟨response, -, refused⟩ | ⟨pool, index, handle, -, -, -, turned⟩
  · rw [refused]
  · rw [turned]

theorem metrics_handle (request : ProxyRequest) (target : UpstreamRef)
    (result : ForwardResult) :
    (app.handle settings request target result now).1.metrics =
      app.metrics.map (Metrics.countRequest (request.labels result.status false)) := by
  cases result with
  | ok reply =>
      simp only [handle]
      split
      · rfl
      next stored done =>
        have kept := congrArg AppState.metrics (eq_of_store done)
        exact kept
  | error message => rfl

end AppState

theorem Phase.metrics_advance {phase : Phase} {action : Action} {reached : AppState × Phase}
    (advanced : phase.advance settings now app action = some reached) :
    reached.1.metrics = app.metrics.map ((phase.counts action).foldl Count.apply) := by
  rcases Phase.advance_cases advanced with
    ⟨request, draw, rfl, rfl, rfl⟩ | ⟨request, target, rfl, rfl, rfl⟩ |
    ⟨request, target, result, rfl, rfl, rfl⟩ | ⟨request, target, rfl, rfl, rfl⟩ |
    ⟨request, target, result, rfl, rfl, rfl⟩
  · rw [AppState.metrics_selectUpstream]
    simp [Phase.counts]
  · simp [Phase.counts, AppState.modifyUpstream]
  · simp [Phase.counts, AppState.modifyUpstream]
  · simp [Phase.counts]
  · exact AppState.metrics_handle request target result

theorem Background.metrics_apply (event : Background) :
    (event.apply settings now app).metrics = app.metrics := by
  cases event with
  | probe target elapsed result => rfl
  | markHealthy target => rfl
  | setHealth encodedUrl enable =>
      simp only [Background.apply, AppState.setUpstreamHealth]
      split <;> rfl
  | flush =>
      simp only [Background.apply, AppState.flushCache]
      split <;> rfl
  | evict slot => rfl

theorem Gateway.metrics_of_step {gateway next : Gateway} {timed : Timed}
    (stepped : step settings gateway timed = some next) :
    next.app.metrics =
      gateway.app.metrics.map ((gateway.counts settings timed).foldl Count.apply) := by
  obtain ⟨now, event⟩ := timed
  cases event with
  | receive body =>
      obtain ⟨-, rfl⟩ := step_receive_iff.mp stepped
      exact AppState.metrics_receive body
  | resume request action =>
      obtain ⟨-, phase, reached, found, advanced, rfl⟩ := step_resume_iff.mp stepped
      simp only [counts, found]
      exact Phase.metrics_advance advanced
  | background event =>
      obtain ⟨-, rfl⟩ := step_background_iff.mp stepped
      simp [counts, event.metrics_apply]

/-! ## What an invocation adds to a counter -/

/-- What a counter reads. -/
def AppState.reading (counter : Metrics → Nat) (app : AppState) : Nat :=
  (app.metrics.map counter).getD 0

/-- A counter that every increment raises by its weight. -/
def Count.Weighs (counter : Metrics → Nat) (weight : Count → Nat) : Prop :=
  ∀ metrics count, counter (Count.apply metrics count) = counter metrics + weight count

namespace Count

/-- How much an increment adds to all requests. -/
def inRequests : Count → Nat
  | .request _ => 1
  | .hit _ | .miss _ => 0

/-- How much an increment adds to the requests with a set of labels. -/
def inLabels (labels : RequestLabels) : Count → Nat
  | .request found => if found = labels then 1 else 0
  | .hit _ | .miss _ => 0

/-- How much an increment adds to the lookups. -/
def inLookups : Count → Nat
  | .request _ => 0
  | .hit _ | .miss _ => 1

theorem weighs_requests : Weighs Metrics.requests inRequests := by
  intro metrics count
  cases count with
  | request labels => exact Family.total_inc _ labels
  | hit method => rfl
  | miss method => rfl

theorem weighs_labels (labels : RequestLabels) :
    Weighs (fun metrics => metrics.requestsTotal.count labels) (inLabels labels) := by
  intro metrics count
  cases count with
  | request found => exact Family.count_inc _ found labels
  | hit method => rfl
  | miss method => rfl

theorem weighs_lookups : Weighs Metrics.lookups inLookups := by
  intro metrics count
  cases count with
  | request labels => rfl
  | hit method =>
      have grown := Family.total_inc metrics.cacheHitsTotal ⟨method⟩
      simp only [Metrics.lookups, apply, Metrics.countHit, inLookups, grown]
      omega
  | miss method =>
      have grown := Family.total_inc metrics.cacheMissesTotal ⟨method⟩
      simp only [Metrics.lookups, apply, Metrics.countMiss, inLookups, grown]
      omega

/-- The increments of a request that is counted once, under the status that it was
answered with. -/
structure Once (consulted : Bool) (response : Response) (cached : Bool)
    (counts : List Count) : Prop where
  requests : (counts.map inRequests).sum = 1
  labels : ∃ labels, (counts.map (inLabels labels)).sum = 1 ∧
    labels.status = toString response.status ∧ (labels.cached = "true" ↔ cached = true)
  lookups : (counts.map inLookups).sum = if consulted then 1 else 0

variable {counter : Metrics → Nat} {weight : Count → Nat}

theorem Weighs.foldl (weighs : Weighs counter weight) (counts : List Count)
    (metrics : Metrics) :
    counter (counts.foldl apply metrics) = counter metrics + (counts.map weight).sum := by
  induction counts generalizing metrics with
  | nil => rfl
  | cons count counts ih =>
      rw [List.foldl_cons, ih, weighs, List.map_cons, List.sum_cons, Nat.add_assoc]

end Count

namespace Gateway

/-- An event belongs to an invocation: it is its arrival, or lets it go on. -/
def isOf (index : Nat) (gateway : Gateway) (timed : Timed) : Bool :=
  match timed.event with
  | .receive _ => gateway.requests.length == index
  | .resume request _ => request == index
  | .background _ => false

variable (settings)

/-- By how much a step of an invocation raises a counter. -/
def raises (counter : Metrics → Nat) (index : Nat) (gateway : Gateway) (timed : Timed) :
    List Int :=
  if gateway.isOf index timed then
    match step settings gateway timed with
    | some next => [(next.app.reading counter : Int) - gateway.app.reading counter]
    | none => []
  else []

/-- By how much an invocation raises a counter in a run, whatever else happens between
its steps. -/
def growth (counter : Metrics → Nat) (index : Nat) (gateway : Gateway)
    (events : List Timed) : Int :=
  (Machine.trace (step settings) (raises settings counter index) gateway events).sum

/-- What a step of an invocation counts. -/
def ownCounts (index : Nat) (gateway : Gateway) (timed : Timed) : List Count :=
  if gateway.isOf index timed then gateway.counts settings timed else []

variable {settings} {gateway next final : Gateway} {timed : Timed} {events : List Timed}
  {counter : Metrics → Nat} {weight : Count → Nat} {index : Nat}

theorem isSome_metrics_of_step (enabled : gateway.app.metrics.isSome = true)
    (stepped : step settings gateway timed = some next) :
    next.app.metrics.isSome = true := by
  rw [metrics_of_step stepped, Option.isSome_map, enabled]

theorem reading_of_step (weighs : Count.Weighs counter weight)
    (enabled : gateway.app.metrics.isSome = true)
    (stepped : step settings gateway timed = some next) :
    next.app.reading counter =
      gateway.app.reading counter + ((gateway.counts settings timed).map weight).sum := by
  obtain ⟨metrics, isMetrics⟩ := Option.isSome_iff_exists.mp enabled
  simp [AppState.reading, metrics_of_step stepped, isMetrics, weighs.foldl]

theorem sum_raises (weighs : Count.Weighs counter weight)
    (enabled : gateway.app.metrics.isSome = true)
    (stepped : step settings gateway timed = some next) :
    (gateway.raises settings counter index timed).sum =
      ((gateway.ownCounts settings index timed).map weight).sum := by
  unfold raises ownCounts
  split
  · simp [stepped, reading_of_step weighs enabled stepped]
  · rfl

theorem growth_eq (weighs : Count.Weighs counter weight)
    (enabled : gateway.app.metrics.isSome = true)
    (run : Machine.exec (step settings) gateway events = some final) :
    growth settings counter index gateway events =
      ((Machine.trace (step settings) (ownCounts settings index) gateway events).map
        weight).sum := by
  refine (Machine.exec_history
    (fun events (reached : Gateway) => reached.app.metrics.isSome = true ∧
      growth settings counter index gateway events =
        ((Machine.trace (step settings) (ownCounts settings index) gateway events).map
          weight).sum) ⟨enabled, rfl⟩ ?_ run).2
  rintro events state timed next prior ⟨enabled, same⟩ stepped
  refine ⟨isSome_metrics_of_step enabled stepped, ?_⟩
  unfold growth at same ⊢
  rw [Machine.trace_concat prior, Machine.trace_concat prior, List.sum_append, same,
    sum_raises weighs enabled stepped, List.map_append, List.sum_append, Nat.cast_add]

end Gateway

/-! ## The account of an invocation -/

namespace AppState

/-- The pool that a request is routed to is configured, and has an available upstream. -/
def serves (request : ProxyRequest) (app : AppState) : Bool :=
  (app.pools.find? fun pool => pool.name == request.poolName).any fun pool =>
    pool.upstreams.any UpstreamState.isAvailable

theorem serves_iff {request : ProxyRequest} {pool : UpstreamPool}
    (found : (app.pools.find? fun pool => pool.name == request.poolName) = some pool) :
    app.serves request = true ↔ pool.healthyUpstreams ≠ [] := by
  simp [serves, found, Ne, UpstreamPool.healthyUpstreams_eq_nil_iff]

theorem selectUpstream_serves (request : ProxyRequest) (draw : Nat) (app : AppState) :
    (app.serves request = true ∧
        ∃ target, (app.selectUpstream request draw).2 = .selected request target) ∨
      (app.serves request = false ∧
        ∃ response, (app.selectUpstream request draw).2 = .answered response false) := by
  have isPool := app.find_pool_position request.poolName
  unfold selectUpstream
  split
  next absent =>
    rw [absent, Option.map_none] at isPool
    exact Or.inr ⟨by simp [serves, ← isPool], _, rfl⟩
  next pool index found =>
    rw [found, Option.map_some] at isPool
    have isServed : app.serves request = true ↔ (pool.selectUpstream draw).2 ≠ none :=
      (serves_iff isPool.symm).trans (not_congr UpstreamPool.selectUpstream_eq_none_iff.symm)
    dsimp only
    split
    next absent =>
      exact Or.inr ⟨by rw [← Bool.not_eq_true, isServed, not_not, absent], _, rfl⟩
    next handle chosen =>
      exact Or.inl ⟨isServed.mpr (by simp [chosen]), ⟨index, handle.2⟩, rfl⟩

end AppState

/-- What an invocation has counted when it has come to a phase, and whether it has found
an upstream if it has selected one. -/
inductive Account (settings : Settings) (initial : AppState) (body : Option Bytes)
    (arrival : Instant) : Bool → List Count → Phase → Prop where
  | unread {response : Response}
      (isNone : body.bind (ProxyRequest.ofBody settings) = none) :
      Account settings initial body arrival true [] (.answered response false)
  | hit {request : ProxyRequest} {cachedBody : Bytes} {response : Response}
      (isRequest : body.bind (ProxyRequest.ofBody settings) = some request)
      (looked : initial.lookedUp settings request arrival = some (some cachedBody))
      (isStatus : response.status = 200) :
      Account settings initial body arrival true
        [.hit request.method, .request (request.labels 200 true)] (.answered response true)
  | active {request : ProxyRequest} {looked : Option (Option Bytes)} {phase : Phase}
      (isRequest : body.bind (ProxyRequest.ofBody settings) = some request)
      (isLooked : initial.lookedUp settings request arrival = looked)
      (notHit : looked.join = none) (working : phase.request? = some request) :
      Account settings initial body arrival true (request.lookupCounts looked) phase
  | refused {request : ProxyRequest} {looked : Option (Option Bytes)} {response : Response}
      (isRequest : body.bind (ProxyRequest.ofBody settings) = some request)
      (isLooked : initial.lookedUp settings request arrival = looked)
      (notHit : looked.join = none) :
      Account settings initial body arrival false (request.lookupCounts looked)
        (.answered response false)
  | completed {request : ProxyRequest} {looked : Option (Option Bytes)}
      {response : Response} {status : StatusCode}
      (isRequest : body.bind (ProxyRequest.ofBody settings) = some request)
      (isLooked : initial.lookedUp settings request arrival = looked)
      (notHit : looked.join = none) (isStatus : response.status = status) :
      Account settings initial body arrival true
        (request.lookupCounts looked ++ [.request (request.labels status false)])
        (.answered response false)
  | aborted {counts : List Count} {request : ProxyRequest} :
      Account settings initial body arrival true counts (.aborted request)

namespace ProxyRequest

variable (request : ProxyRequest)

theorem sum_lookupCounts_of_notHit {looked : Option (Option Bytes)} {weight : Count → Nat}
    (light : weight (.miss request.method) = 0) (notHit : looked.join = none) :
    ((request.lookupCounts looked).map weight).sum = 0 := by
  rcases looked with _ | _ | cachedBody
  · rfl
  · simp [lookupCounts, light]
  · cases notHit

theorem sum_lookupCounts_inLookups (looked : Option (Option Bytes)) :
    ((request.lookupCounts looked).map Count.inLookups).sum =
      if looked.isSome then 1 else 0 := by
  rcases looked with _ | _ | cachedBody <;> rfl

@[simp] theorem labels_status (status : StatusCode) (cached : Bool) :
    (request.labels status cached).status = toString status := rfl

@[simp] theorem labels_cached_eq_true_iff (status : StatusCode) (cached : Bool) :
    (request.labels status cached).cached = "true" ↔ cached = true := by
  change toString cached = "true" ↔ cached = true
  cases cached <;> decide

end ProxyRequest

namespace Account

variable {initial : AppState} {body : Option Bytes} {arrival : Instant} {served : Bool}
  {counts : List Count} {phase : Phase}

theorem receive :
    Account settings initial body arrival true (initial.receiveCounts settings body arrival)
      (initial.receive settings body arrival).2 := by
  cases isRequest : body.bind (ProxyRequest.ofBody settings) with
  | none =>
      simp only [AppState.receive, AppState.receiveCounts, isRequest]
      exact .unread isRequest
  | some request =>
      rcases consulted : initial.consult settings request arrival with
        _ | ⟨cache, _ | cachedBody⟩
      all_goals
        have looked : initial.lookedUp settings request arrival = _ :=
          congrArg (Option.map Prod.snd) consulted
        simp only [AppState.receive, AppState.receiveCounts, isRequest, consulted, looked]
      · exact .active isRequest looked rfl rfl
      · exact .active isRequest looked rfl rfl
      · exact .hit isRequest looked rfl

theorem select {request : ProxyRequest}
    (account : Account settings initial body arrival served counts (.routed request))
    (app : AppState) (draw : Nat) :
    ∃ served', Account settings initial body arrival served' counts
        (app.selectUpstream request draw).2 ∧
      (served' = true ↔ served = true ∧ app.serves request = true) := by
  cases account with
  | active isRequest isLooked notHit working =>
      obtain rfl := Option.some.inj working
      rcases app.selectUpstream_serves request draw with
        ⟨serves, target, selected⟩ | ⟨refuses, response, answered⟩
      · rw [selected]
        exact ⟨true, .active isRequest isLooked notHit rfl, by simp [serves]⟩
      · rw [answered]
        exact ⟨false, .refused isRequest isLooked notHit, by simp [refuses]⟩

theorem handle {request : ProxyRequest} {target : UpstreamRef} {result : ForwardResult}
    (account : Account settings initial body arrival served counts
      (.returned request target result)) :
    Account settings initial body arrival served
      (counts ++ [.request (request.labels result.status false)])
      (app.handle settings request target result now).2 := by
  cases account with
  | active isRequest isLooked notHit working =>
      obtain rfl := Option.some.inj working
      cases result with
      | ok reply =>
          simp only [AppState.handle]
          split
          · exact .aborted
          · exact .completed isRequest isLooked notHit rfl
      | error message => exact .completed isRequest isLooked notHit rfl

/-- The step: whatever the invocation does next, its account goes with it. -/
theorem advance {action : Action} {reached : AppState × Phase}
    (account : Account settings initial body arrival served counts phase)
    (advanced : phase.advance settings now app action = some reached) :
    ∃ served', Account settings initial body arrival served'
        (counts ++ phase.counts action) reached.2 ∧
      (served' = true ↔ served = true ∧ ∀ draw request, action = .select draw →
        phase = .routed request → app.serves request = true) := by
  cases account with
  | active isRequest isLooked notHit working =>
      have account := Account.active isRequest isLooked notHit working
      rcases Phase.advance_cases advanced with
        ⟨request, draw, rfl, rfl, rfl⟩ | ⟨request, target, rfl, rfl, rfl⟩ |
        ⟨request, target, result, rfl, rfl, rfl⟩ | ⟨request, target, rfl, rfl, rfl⟩ |
        ⟨request, target, result, rfl, rfl, rfl⟩
      · obtain ⟨served', accountNext, isServed⟩ := account.select app draw
        refine ⟨served', by simpa [Phase.counts] using accountNext, isServed.trans ?_⟩
        simp
      · exact ⟨true, by simpa [Phase.counts] using .active isRequest isLooked notHit working,
          by simp⟩
      · exact ⟨true, by simpa [Phase.counts] using .active isRequest isLooked notHit working,
          by simp⟩
      · exact ⟨true, by simpa [Phase.counts] using .active isRequest isLooked notHit working,
          by simp⟩
      · exact ⟨true, account.handle, by simp⟩
  | _ => cases advanced

/-- An answered request was counted once exactly when it could be read and was not
refused. -/
theorem once_iff {response : Response} {cached : Bool}
    (account : Account settings initial body arrival served counts
      (.answered response cached)) :
    Count.Once (initial.consults settings body arrival) response cached counts ↔
      (body.bind (ProxyRequest.ofBody settings)).isSome = true ∧ served = true := by
  cases account with
  | active isRequest isLooked notHit working => cases working
  | unread isNone =>
      constructor
      · intro once
        cases once.requests
      · rintro ⟨isRequest, -⟩
        rw [isNone] at isRequest
        cases isRequest
  | @hit request cachedBody _ isRequest looked isStatus =>
      simp only [isRequest, Option.isSome_some, and_self, iff_true]
      refine ⟨rfl, ⟨request.labels 200 true, ?_, ?_, ?_⟩, ?_⟩
      · simp [Count.inLabels]
      · simp [isStatus]
      · simp
      · rw [AppState.consults_eq isRequest looked]
        rfl
  | @refused request looked _ isRequest isLooked notHit =>
      simp only [Bool.false_eq_true, and_false, iff_false]
      intro once
      have uncounted : ((request.lookupCounts looked).map Count.inRequests).sum = 0 :=
        request.sum_lookupCounts_of_notHit rfl notHit
      cases uncounted.symm.trans once.requests
  | @completed request looked _ status isRequest isLooked notHit isStatus =>
      simp only [isRequest, Option.isSome_some, and_self, iff_true]
      refine ⟨?_, ⟨request.labels status false, ?_, ?_, ?_⟩, ?_⟩
      · rw [List.map_append, List.sum_append,
          request.sum_lookupCounts_of_notHit rfl notHit]
        rfl
      · rw [List.map_append, List.sum_append,
          request.sum_lookupCounts_of_notHit rfl notHit]
        simp [Count.inLabels]
      · simp [isStatus]
      · simp
      · rw [List.map_append, List.sum_append, request.sum_lookupCounts_inLookups,
          AppState.consults_eq isRequest isLooked]
        rfl

end Account

namespace Gateway

/-- If an invocation selects an upstream in this step, there is one for it. -/
def findsUpstream (index : Nat) (gateway : Gateway) (timed : Timed) : Bool :=
  match timed.event, gateway.requests[index]? with
  | .resume request (.select _), some (.routed routed) =>
      request != index || gateway.app.serves routed
  | _, _ => true

variable {gateway next final : Gateway} {timed : Timed} {events : List Timed} {index : Nat}
  {initial : AppState} {body : Option Bytes} {arrival : Instant} {served : Bool}
  {counts : List Count} {phase : Phase}

theorem findsUpstream_iff :
    gateway.findsUpstream index timed = true ↔ ∀ draw request,
      timed.event = .resume index (.select draw) →
      gateway.requests[index]? = some (.routed request) →
      gateway.app.serves request = true := by
  unfold findsUpstream
  split
  next request draw routed isSelect isRouted =>
    simp [isSelect, isRouted, or_iff_not_imp_left]
  next other =>
    simp only [true_iff]
    intro draw request isSelect isRouted
    exact (other index draw request isSelect isRouted).elim

/-- A step adds to the account of an invocation what it counts for it. -/
theorem account_of_step (atIndex : gateway.requests[index]? = some phase)
    (account : Account settings initial body arrival served counts phase)
    (stepped : step settings gateway timed = some next) :
    ∃ served' phase', next.requests[index]? = some phase' ∧
      Account settings initial body arrival served'
        (counts ++ gateway.ownCounts settings index timed) phase' ∧
      (served' = true ↔ served = true ∧ gateway.findsUpstream index timed = true) := by
  have inside := (List.getElem?_eq_some_iff.mp atIndex).1
  obtain ⟨now, event⟩ := timed
  cases event with
  | receive later =>
      obtain ⟨-, rfl⟩ := step_receive_iff.mp stepped
      refine ⟨served, phase, by rw [List.getElem?_append_left inside, atIndex], ?_, ?_⟩
      · simpa [ownCounts, isOf, (Nat.ne_of_lt inside).symm] using account
      · simp [findsUpstream_iff]
  | resume other action =>
      obtain ⟨-, old, reached, found, advanced, rfl⟩ := step_resume_iff.mp stepped
      by_cases same : other = index
      · subst same
        obtain rfl := Option.some.inj (atIndex.symm.trans found)
        obtain ⟨served', accountNext, isServed⟩ := account.advance advanced
        refine ⟨served', reached.2, by simp [inside], ?_, isServed.trans ?_⟩
        · simpa [ownCounts, isOf, Gateway.counts, atIndex] using accountNext
        · simp [findsUpstream_iff, atIndex]
      · refine ⟨served, phase, by rw [List.getElem?_set_ne same, atIndex], ?_, ?_⟩
        · simpa [ownCounts, isOf, same] using account
        · simp [findsUpstream_iff, same]
  | background event =>
      obtain ⟨-, rfl⟩ := step_background_iff.mp stepped
      refine ⟨served, phase, atIndex, ?_, ?_⟩
      · simpa [ownCounts, isOf] using account
      · simp [findsUpstream_iff]

/-- The run: the account of an invocation goes on with it, whatever happens in between. -/
theorem account_of_run (atIndex : gateway.requests[index]? = some phase)
    (account : Account settings initial body arrival served counts phase)
    (run : Machine.exec (step settings) gateway events = some final) :
    ∃ served' phase', final.requests[index]? = some phase' ∧
      Account settings initial body arrival served'
        (counts ++ Machine.trace (step settings) (ownCounts settings index) gateway events)
        phase' ∧
      (served' = true ↔ served = true ∧
        Machine.Always (step settings) (fun state timed => state.findsUpstream index timed)
          gateway events) := by
  refine Machine.exec_history
    (fun events (reached : Gateway) => ∃ served' phase',
      reached.requests[index]? = some phase' ∧
      Account settings initial body arrival served'
        (counts ++ Machine.trace (step settings) (ownCounts settings index) gateway events)
        phase' ∧
      (served' = true ↔ served = true ∧
        Machine.Always (step settings) (fun state timed => state.findsUpstream index timed)
          gateway events)) ?_ ?_ run
  · refine ⟨served, phase, atIndex, by simpa using account, ?_⟩
    simp [Machine.Always]
  · rintro events state timed next prior ⟨before, phase', isBefore, accountBefore, isServed⟩
      stepped
    obtain ⟨after, phase'', isAfter, accountAfter, isServedAfter⟩ :=
      account_of_step isBefore accountBefore stepped
    refine ⟨after, phase'', isAfter, ?_, ?_⟩
    · rw [Machine.trace_concat prior, ← List.append_assoc]
      exact accountAfter
    · rw [isServedAfter, isServed, Machine.always_concat_iff prior, and_assoc]

variable (settings)

/-- In a run an invocation is counted once: it raises the requests by one in all, under
the status that it was answered with and as cached if it was answered from the cache,
and the lookups by one if the cache was consulted. -/
structure CountedOnce (index : Nat) (consulted : Bool) (response : Response) (cached : Bool)
    (gateway : Gateway) (events : List Timed) : Prop where
  requests : growth settings Metrics.requests index gateway events = 1
  labels : ∃ labels : RequestLabels,
    growth settings (fun metrics => metrics.requestsTotal.count labels) index gateway
      events = 1 ∧
    labels.status = toString response.status ∧ (labels.cached = "true" ↔ cached = true)
  lookups : growth settings Metrics.lookups index gateway events =
    if consulted then 1 else 0

variable {settings}

theorem countedOnce_iff {consulted : Bool} {response : Response} {cached : Bool}
    (enabled : gateway.app.metrics.isSome = true)
    (run : Machine.exec (step settings) gateway events = some final) :
    CountedOnce settings index consulted response cached gateway events ↔
      Count.Once consulted response cached
        (Machine.trace (step settings) (ownCounts settings index) gateway events) := by
  have requests : growth settings Metrics.requests index gateway events = _ :=
    growth_eq Count.weighs_requests enabled run
  have labelled : ∀ labels, growth settings
      (fun metrics => metrics.requestsTotal.count labels) index gateway events = _ :=
    fun labels => growth_eq (Count.weighs_labels labels) enabled run
  have lookups : growth settings Metrics.lookups index gateway events = _ :=
    growth_eq Count.weighs_lookups enabled run
  constructor
  · rintro ⟨one, ⟨labels, oneLabelled, isStatus, isCached⟩, looked⟩
    rw [requests] at one
    rw [labelled] at oneLabelled
    rw [lookups] at looked
    exact ⟨by exact_mod_cast one, ⟨labels, by exact_mod_cast oneLabelled, isStatus, isCached⟩,
      by exact_mod_cast looked⟩
  · rintro ⟨one, ⟨labels, oneLabelled, isStatus, isCached⟩, looked⟩
    refine ⟨?_, ⟨labels, ?_, isStatus, isCached⟩, ?_⟩
    · rw [requests, one]
      rfl
    · rw [labelled, oneLabelled]
      rfl
    · rw [lookups, looked]
      exact_mod_cast rfl

/-- When a request is counted.  With metrics enabled, in every state and whatever else
happens meanwhile, an answered request has been counted once exactly when its body could
be read and named a method, and its pool was configured and had an available upstream if
the request came to select one. -/
theorem request_counted_iff {now : Instant} {response : Response} {cached : Bool}
    (enabled : gateway.app.metrics.isSome = true)
    (run : Machine.exec (step settings) gateway (⟨now, .receive body⟩ :: events) = some final)
    (answered : final.requests[gateway.requests.length]? = some (.answered response cached)) :
    CountedOnce settings gateway.requests.length (gateway.app.consults settings body now)
        response cached gateway (⟨now, .receive body⟩ :: events) ↔
      (body.bind (ProxyRequest.ofBody settings)).isSome = true ∧
        Machine.Always (step settings)
          (fun state timed => state.findsUpstream gateway.requests.length timed) gateway
          (⟨now, .receive body⟩ :: events) := by
  rw [countedOnce_iff enabled run]
  obtain ⟨next, stepped, rest⟩ := Machine.exec_cons_iff.mp run
  have arrives : gateway.findsUpstream gateway.requests.length ⟨now, .receive body⟩ = true :=
    rfl
  have shown : Machine.trace (step settings) (ownCounts settings gateway.requests.length)
      gateway (⟨now, .receive body⟩ :: events) =
        gateway.app.receiveCounts settings body now ++
          Machine.trace (step settings) (ownCounts settings gateway.requests.length)
            next events := by
    simp [Machine.trace, stepped, ownCounts, isOf, Gateway.counts]
  rw [shown, Machine.always_cons_iff stepped]
  obtain ⟨-, rfl⟩ := step_receive_iff.mp stepped
  have isLast : (gateway.requests ++ [(gateway.app.receive settings body now).2])[
      gateway.requests.length]? = some (gateway.app.receive settings body now).2 := by
    simp
  obtain ⟨served, phase, isPhase, account, isServed⟩ :=
    account_of_run isLast Account.receive rest
  obtain rfl : phase = .answered response cached :=
    Option.some.inj (isPhase.symm.trans answered)
  rw [account.once_iff, isServed]
  simp [arrives]

/-- The status of an answer, and whether it came from the cache. -/
def outcome? : Phase → Option (StatusCode × Bool)
  | .answered response cached => some (response.status, cached)
  | _ => none

theorem outcome?_eq_some_iff {phase : Phase} {status : StatusCode} {cached : Bool} :
    outcome? phase = some (status, cached) ↔
      ∃ response, phase = .answered response cached ∧ response.status = status := by
  cases phase <;> simp [outcome?, and_comm]

/-- The small gateway with a cache, when its first upstream is up. -/
def upAndCaching : Gateway where
  clock := 0
  app := (buildState (smallSettings ledgerRules) 0).modifyUpstream firstUpstream .markHealthy
  requests := []

/-- A request that misses the cache and is forwarded is counted once. -/
theorem request_counted_exchange :
    ∃ final response,
      Machine.exec (step (smallSettings ledgerRules)) upAndCaching
        (exchange 0 1 1 (ledgerReply 1)) = some final ∧
      final.requests[0]? = some (.answered response false) ∧ response.status = 200 ∧
      CountedOnce (smallSettings ledgerRules) 0 true response false upAndCaching
        (exchange 0 1 1 (ledgerReply 1)) := by
  have computed : (Machine.exec (step (smallSettings ledgerRules)) upAndCaching
      (exchange 0 1 1 (ledgerReply 1))).map (fun final => final.requests[0]?.bind outcome?) =
        some (some (200, false)) := by
    decide +kernel
  have consulted : upAndCaching.app.consults (smallSettings ledgerRules)
      (some (ledgerRequest 1).toBytes) 1 = true := by
    decide +kernel
  have finds : (Machine.trace (step (smallSettings ledgerRules))
      (fun state timed => if state.findsUpstream 0 timed then [] else [timed]) upAndCaching
      (exchange 0 1 1 (ledgerReply 1))).isEmpty = true := by
    decide +kernel
  obtain ⟨final, run, isAnswered⟩ := Option.map_eq_some_iff.mp computed
  obtain ⟨phase, isPhase, isOutcome⟩ := Option.bind_eq_some_iff.mp isAnswered
  obtain ⟨response, rfl, isStatus⟩ := outcome?_eq_some_iff.mp isOutcome
  refine ⟨final, response, run, isPhase, isStatus, ?_⟩
  have counted := (request_counted_iff rfl run isPhase).mpr
    ⟨rfl, Machine.always_of_trace (List.isEmpty_iff.mp finds)⟩
  exact consulted ▸ counted

/-- A request that finds no healthy upstream. -/
def outage : List Timed :=
  [⟨0, .receive (some (ledgerRequest 1).toBytes)⟩, ⟨0, .resume 0 (.select 0)⟩]

/-- It is answered with 503, and the metrics stay as they were. -/
theorem outage_not_counted :
    ∃ final response,
      (init (smallSettings []) 0).app.metrics.isSome = true ∧
      Machine.exec (step (smallSettings [])) (init (smallSettings []) 0) outage = some final ∧
      final.requests[0]? = some (.answered response false) ∧ response.status = 503 ∧
      ¬ CountedOnce (smallSettings []) 0
        ((init (smallSettings []) 0).app.consults (smallSettings [])
          (some (ledgerRequest 1).toBytes) 0)
        response false (init (smallSettings []) 0) outage := by
  have computed : (Machine.exec (step (smallSettings [])) (init (smallSettings []) 0)
      outage).map (fun final => final.requests[0]?.bind outcome?) = some (some (503, false)) := by
    decide +kernel
  have uncounted : growth (smallSettings []) Metrics.requests 0 (init (smallSettings []) 0)
      outage = 0 := by
    decide +kernel
  obtain ⟨final, run, isAnswered⟩ := Option.map_eq_some_iff.mp computed
  obtain ⟨phase, isPhase, isOutcome⟩ := Option.bind_eq_some_iff.mp isAnswered
  obtain ⟨response, rfl, isStatus⟩ := outcome?_eq_some_iff.mp isOutcome
  refine ⟨final, response, rfl, run, isPhase, isStatus, ?_⟩
  intro counted
  cases uncounted.symm.trans counted.requests

end Gateway

end SorobanGate
