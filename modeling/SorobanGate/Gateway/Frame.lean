import SorobanGate.Gateway.Routing

/-!
# What a request touches

An invocation that runs from its arrival to its answer with nothing in between changes
the one upstream it is forwarded to, the counter of the pool that this upstream is in,
and the cache slot of the request.  An invocation that is not forwarded changes at most
that slot, and only by noticing that its entry has expired.
-/

namespace SorobanGate

/-! ## Frames -/

namespace AppState

/-- The entry in a slot of the cache, if there is one. -/
def held? (app : AppState) (slot : UInt64) : Option CachedValue :=
  app.cache.bind fun cache => cache.cache.lookup slot

variable (settings : Settings)

/-- No cache entry has changed, but that the lookup of a request at some time may have
removed an expired one. -/
def CacheKept (body : Option Bytes) (now : Instant) (before after : AppState) : Prop :=
  ∀ slot, after.held? slot = before.held? slot ∨
    after.held? slot = none ∧ ∃ request entry,
      body.bind (ProxyRequest.ofBody settings) = some request ∧
      slot = MemoryCache.hashToU64 (request.cacheKey settings) ∧
      before.held? slot = some entry ∧ entry.expiresAt ≤ now

/-- One upstream has changed, and perhaps the counter of its pool. -/
structure Differs (target : UpstreamRef) (change : UpstreamState → UpstreamState)
    (before after : AppState) : Prop where
  otherPools : ∀ index, index ≠ target.pool → after.pools[index]? = before.pools[index]?
  upstreams : ∀ other, after.upstream? other =
    if target = other then (before.upstream? other).map change else before.upstream? other

/-- The target is available, and is in the pool that a request is routed to: the first one
of the name. -/
structure Routes (request : ProxyRequest) (target : UpstreamRef) (app : AppState) : Prop where
  pool : ∃ pool, app.pools[target.pool]? = some pool ∧ pool.name = request.poolName
  first : ∀ earlier < target.pool, ∀ other, app.pools[earlier]? = some other →
    other.name ≠ request.poolName
  upstream : ∃ upstream, app.upstream? target = some upstream ∧ upstream.isAvailable = true

variable {settings} {app before after : AppState} {request : ProxyRequest}
  {target : UpstreamRef} {now : Instant} {body : Option Bytes}

theorem CacheKept.of_cache_eq {later : AppState} (kept : CacheKept settings body now before after)
    (same : later.cache = after.cache) : CacheKept settings body now before later := by
  have sameHeld : later.held? = after.held? := by
    funext slot
    rw [held?, same, held?]
  intro slot
  rw [sameHeld]
  exact kept slot

theorem Differs.modifyUpstream {change : UpstreamState → UpstreamState}
    (differs : Differs target change before after) (next : UpstreamState → UpstreamState) :
    Differs target (next ∘ change) before (after.modifyUpstream target next) where
  otherPools index other := by
    rw [← differs.otherPools index other, AppState.modifyUpstream,
      List.getElem?_modify_ne _ _ (Ne.symm other)]
  upstreams other := by
    rw [upstream?_modifyUpstream, differs.upstreams]
    split
    · rw [Option.map_map]
    · rfl

theorem Differs.of_pools_eq {change : UpstreamState → UpstreamState} {later : AppState}
    (differs : Differs target change before after) (same : later.pools = after.pools) :
    Differs target change before later where
  otherPools index other := by rw [same, differs.otherPools index other]
  upstreams other := by
    rw [← differs.upstreams other, upstream?, upstream?, same]

/-! ## The parts of the handler -/

theorem pools_receive : (app.receive settings body now).1.pools = app.pools := by
  unfold receive
  split
  · rfl
  · split <;> rfl

theorem cacheKept_receive :
    CacheKept settings body now app (app.receive settings body now).1 := by
  intro slot
  rw [held?, cache_receive, lookups]
  cases isCache : app.cache with
  | none => exact Or.inl (by simp [held?, isCache])
  | some cache =>
      have held : app.held? slot = cache.cache.lookup slot := by simp [held?, isCache]
      cases isRequest : body.bind (ProxyRequest.ofBody settings) with
      | none => exact Or.inl held.symm
      | some request =>
          by_cases uncached : request.ttl settings = 0
          · exact Or.inl (by simp [uncached, held])
          · rw [held]
            simp only [if_neg uncached]
            rcases cache.lookup_get (request.cacheKey settings) now slot with
              same | ⟨removed, ownSlot, entry, found, expired⟩
            · exact Or.inl same
            · exact Or.inr ⟨removed, request, entry, rfl, ownSlot, found, expired⟩

theorem receive_answered {response : Response} {cached : Bool}
    (answered : (app.receive settings body now).2 = .answered response cached) :
    cached = true ∨ response ∈ refusals := by
  unfold receive at answered
  split at answered
  · cases answered
    exact Or.inr (by simp [refusals])
  · split at answered
    · cases answered
    · cases answered
      exact Or.inl rfl
    · cases answered

/-- The pool that is found for a name is the first one of it. -/
theorem name_ne_of_found {name : String} {pool : UpstreamPool} {index : Nat}
    (found : (app.pools.zipIdx.find? fun pool => pool.1.name == name) = some (pool, index)) :
    ∀ earlier < index, ∀ other, app.pools[earlier]? = some other → other.name ≠ name := by
  have isIndex : app.pools.findIdx? (fun pool => pool.name == name) = some index :=
    List.findIdx?_eq_fst_find?_zipIdx.trans (congrArg (Option.map Prod.snd) found)
  obtain ⟨inRange, -, noneEarlier⟩ := List.findIdx?_eq_some_iff_getElem.mp isIndex
  intro earlier before other isOther
  obtain ⟨inside, rfl⟩ := List.getElem?_eq_some_iff.mp isOther
  simpa using noneEarlier earlier before

/-- A selected upstream is in the pool that the request is routed to, and available. -/
theorem selectUpstream_selected {draw index : Nat} {pool : UpstreamPool} {handle : Handle}
    (found : (app.pools.zipIdx.find? fun pool => pool.1.name == request.poolName) =
      some (pool, index))
    (chosen : (pool.selectUpstream draw).2 = some handle) :
    Routes request ⟨index, handle.2⟩ app ∧
      Differs ⟨index, handle.2⟩ id app
        { app with pools := app.pools.set index (pool.selectUpstream draw).1 } := by
  have isPool : app.pools[index]? = some pool :=
    List.mem_zipIdx_iff_getElem?.mp (List.mem_of_find?_eq_some found)
  have isName : pool.name = request.poolName := by simpa using List.find?_some found
  obtain ⟨isUpstream, available⟩ := UpstreamPool.isAvailable_of_selectUpstream chosen
  refine ⟨⟨⟨pool, isPool, isName⟩, name_ne_of_found found, handle.1,
    by simp [upstream?, isPool, isUpstream], available⟩, ?_, ?_⟩
  · intro other different
    exact List.getElem?_set_ne (Ne.symm different)
  · intro other
    rw [upstream?_set app isPool UpstreamPool.selectUpstream_upstreams, Option.map_id]
    split <;> rfl

end AppState

/-! ## One invocation on its own -/

/-- What an invocation exchanges with upstreams. -/
inductive Traffic where
  | sent (target : UpstreamRef)
  | back (target : UpstreamRef) (result : ForwardResult)
  deriving DecidableEq, Repr

def Phase.traffic : Phase → Action → List Traffic
  | .selected _ target, .forward => [.sent target]
  | .forwarding _ target, .«return» result => [.back target result]
  | _, _ => []

/-- What completing a forward does to its upstream. -/
def ForwardResult.change (now : Instant) : ForwardResult → UpstreamState → UpstreamState
  | .ok _ => id
  | .error _ => AppState.recordFailure now

open AppState

/-- How far an invocation that runs alone has come, with what it has changed since it
found the state at its arrival. -/
inductive Solo (settings : Settings) (initial : AppState) (body : Option Bytes)
    (arrival : Instant) : List Traffic → Instant → AppState → Phase → Prop where
  | refused {app : AppState} {clock : Instant} {response : Response} {cached : Bool}
      (kind : cached = true ∨ response ∈ refusals) (pools : app.pools = initial.pools)
      (cache : CacheKept settings body arrival initial app) :
      Solo settings initial body arrival [] clock app (.answered response cached)
  | routed {app : AppState} {clock : Instant} {request : ProxyRequest}
      (isRequest : body.bind (ProxyRequest.ofBody settings) = some request)
      (pools : app.pools = initial.pools)
      (cache : CacheKept settings body arrival initial app) :
      Solo settings initial body arrival [] clock app (.routed request)
  | selected {app : AppState} {clock : Instant} {request : ProxyRequest}
      {target : UpstreamRef}
      (isRequest : body.bind (ProxyRequest.ofBody settings) = some request)
      (routes : Routes request target initial) (differs : Differs target id initial app)
      (cache : CacheKept settings body arrival initial app) :
      Solo settings initial body arrival [] clock app (.selected request target)
  | forwarding {app : AppState} {clock : Instant} {request : ProxyRequest}
      {target : UpstreamRef}
      (isRequest : body.bind (ProxyRequest.ofBody settings) = some request)
      (routes : Routes request target initial)
      (differs : Differs target .incrementConnectionCount initial app)
      (cache : CacheKept settings body arrival initial app) :
      Solo settings initial body arrival [.sent target] clock app (.forwarding request target)
  | returned {app : AppState} {clock : Instant} {request : ProxyRequest}
      {target : UpstreamRef} {result : ForwardResult}
      (isRequest : body.bind (ProxyRequest.ofBody settings) = some request)
      (routes : Routes request target initial) (differs : Differs target id initial app)
      (cache : CacheKept settings body arrival initial app) :
      Solo settings initial body arrival [.sent target, .back target result] clock app
        (.returned request target result)
  | completed {app : AppState} {clock : Instant} {request : ProxyRequest}
      {target : UpstreamRef} {result : ForwardResult} {response : Response}
      (isRequest : body.bind (ProxyRequest.ofBody settings) = some request)
      (routes : Routes request target initial)
      (differs : Differs target (result.change clock) initial app)
      (cache : result.isOk = false → CacheKept settings body arrival initial app) :
      Solo settings initial body arrival [.sent target, .back target result] clock app
        (.answered response false)
  | dropped {traffic : List Traffic} {app : AppState} {clock : Instant}
      {request : ProxyRequest} {target : UpstreamRef} :
      Solo settings initial body arrival traffic clock app (.dropped request target)
  | aborted {traffic : List Traffic} {app : AppState} {clock : Instant}
      {request : ProxyRequest} :
      Solo settings initial body arrival traffic clock app (.aborted request)

namespace Solo

variable {settings : Settings} {initial app : AppState} {body : Option Bytes}
  {arrival clock now : Instant} {traffic : List Traffic} {phase : Phase}

theorem receive :
    Solo settings initial body arrival [] arrival (initial.receive settings body arrival).1
      (initial.receive settings body arrival).2 := by
  rcases initial.receive_cases settings body arrival with
    ⟨response, cached, answered⟩ | ⟨request, routed, isRequest⟩
  · rw [answered]
    exact .refused (receive_answered answered) pools_receive cacheKept_receive
  · rw [routed]
    exact .routed isRequest pools_receive cacheKept_receive

theorem select {request : ProxyRequest}
    (solo : Solo settings initial body arrival traffic clock app (.routed request))
    (draw : Nat) :
    Solo settings initial body arrival traffic now (app.selectUpstream request draw).1
      (app.selectUpstream request draw).2 := by
  cases solo with
  | routed isRequest pools cache =>
      rcases app.selectUpstream_inv request draw with
        ⟨response, kind, unchanged⟩ | ⟨pool, index, handle, -, found, chosen, turned⟩
      · rw [unchanged]
        exact .refused (Or.inr kind) pools cache
      · rw [turned]
        rw [pools] at found
        obtain ⟨routes, differs⟩ := selectUpstream_selected found chosen
        refine .selected isRequest routes (differs.of_pools_eq ?_) (cache.of_cache_eq rfl)
        simp only [pools]

theorem handle {request : ProxyRequest} {target : UpstreamRef} {result : ForwardResult}
    (solo : Solo settings initial body arrival traffic clock app
      (.returned request target result)) :
    Solo settings initial body arrival traffic now
      (app.handle settings request target result now).1
      (app.handle settings request target result now).2 := by
  cases solo with
  | returned isRequest routes differs cache =>
      cases result with
      | ok reply =>
          rcases app.handle_cases settings request target (.ok reply) now with
            ⟨response, answered⟩ | aborted
          · rw [answered]
            refine .completed isRequest routes ?_ (fun failed => by cases failed)
            exact differs.of_pools_eq (pools_handle_ok request target reply)
          · rw [aborted]
            exact .aborted
      | error message =>
          refine .completed isRequest routes ?_ fun _ => cache.of_cache_eq rfl
          exact (differs.modifyUpstream (recordFailure now)).of_pools_eq rfl

/-- The step: whatever the invocation does next, it has changed no more than its phase
says. -/
theorem advance {action : Action} {reached : AppState × Phase}
    (solo : Solo settings initial body arrival traffic clock app phase)
    (advanced : phase.advance settings now app action = some reached) :
    Solo settings initial body arrival (traffic ++ phase.traffic action) now reached.1
      reached.2 := by
  rcases Phase.advance_cases advanced with
    ⟨request, draw, rfl, rfl, rfl⟩ | ⟨request, target, rfl, rfl, rfl⟩ |
    ⟨request, target, result, rfl, rfl, rfl⟩ | ⟨request, target, rfl, rfl, rfl⟩ |
    ⟨request, target, result, rfl, rfl, rfl⟩
  · simp only [Phase.traffic, List.append_nil]
    exact solo.select draw
  · cases solo with
    | selected isRequest routes differs cache =>
        exact .forwarding isRequest routes (differs.modifyUpstream .incrementConnectionCount)
          (cache.of_cache_eq rfl)
  · cases solo with
    | forwarding isRequest routes differs cache =>
        refine .returned isRequest routes ?_ (cache.of_cache_eq rfl)
        have restored : UpstreamState.decrementConnectionCount ∘
            UpstreamState.incrementConnectionCount = id := by
          funext upstream
          simp [UpstreamState.decrementConnectionCount, UpstreamState.incrementConnectionCount]
        exact restored ▸ differs.modifyUpstream .decrementConnectionCount
  · exact .dropped
  · simp only [Phase.traffic, List.append_nil]
    exact solo.handle

end Solo

namespace Gateway

/-- What an invocation exchanges with upstreams in a step. -/
def traffic (index : Nat) (gateway : Gateway) (timed : Timed) : List Traffic :=
  match timed.event with
  | .resume request action =>
      if request = index then
        match gateway.requests[index]? with
        | some phase => phase.traffic action
        | none => []
      else []
  | _ => []

/-- Only one invocation goes on. -/
def Alone (index : Nat) (events : List Timed) : Prop :=
  ∀ timed ∈ events, ∃ action, timed.event = .resume index action

variable {settings : Settings} {gateway final : Gateway} {events : List Timed}
  {body : Option Bytes} {now : Instant}

/-- The run: an invocation that runs alone has changed no more than its phase says. -/
theorem solo_of_run {initial : AppState} {arrival : Instant} {index : Nat} {phase : Phase}
    {traffic : List Traffic} (atIndex : gateway.requests[index]? = some phase)
    (solo : Solo settings initial body arrival traffic gateway.clock gateway.app phase)
    (alone : Alone index events)
    (run : Machine.exec (step settings) gateway events = some final) :
    ∃ phase, final.requests[index]? = some phase ∧
      Solo settings initial body arrival
        (traffic ++ Machine.trace (step settings) (Gateway.traffic index) gateway events)
        final.clock final.app phase := by
  refine Machine.exec_history
    (fun events (reached : Gateway) => Alone index events →
      ∃ phase, reached.requests[index]? = some phase ∧
        Solo settings initial body arrival
          (traffic ++ Machine.trace (step settings) (Gateway.traffic index) gateway events)
          reached.clock reached.app phase) ?_ ?_ run alone
  · intro _
    exact ⟨phase, atIndex, by simpa using solo⟩
  · intro events state timed next prior ih stepped alone
    obtain ⟨before, isBefore, soloBefore⟩ :=
      ih fun earlier member => alone earlier (List.mem_append_left _ member)
    obtain ⟨action, isResume⟩ := alone timed (by simp)
    obtain ⟨time, event⟩ := timed
    obtain rfl : event = .resume index action := isResume
    obtain ⟨-, found, reached, isFound, advanced, rfl⟩ := step_resume_iff.mp stepped
    obtain rfl : before = found := Option.some.inj (isBefore.symm.trans isFound)
    have inside := (List.getElem?_eq_some_iff.mp isBefore).1
    refine ⟨reached.2, by simp [inside], ?_⟩
    rw [Machine.trace_concat prior, ← List.append_assoc]
    simpa [Gateway.traffic, isBefore] using soloBefore.advance advanced

/-- Requests touch only what they use.  In every state, a request that runs alone from
its arrival to its answer either exchanges nothing with any upstream, changes no pool
and stores nothing; or it is sent to one available upstream of the pool it is routed to,
once, and changes this upstream only, by one recorded failure if the forward returned an
error and not at all otherwise. -/
theorem request_frame {response : Response} {cached : Bool}
    (run : Machine.exec (step settings) gateway (⟨now, .receive body⟩ :: events) = some final)
    (alone : Alone gateway.requests.length events)
    (answered : final.requests[gateway.requests.length]? = some (.answered response cached)) :
    let traffic := Machine.trace (step settings) (Gateway.traffic gateway.requests.length)
      gateway (⟨now, .receive body⟩ :: events)
    (traffic = [] ∧ (cached = true ∨ response ∈ refusals) ∧
      final.app.pools = gateway.app.pools ∧
      CacheKept settings body now gateway.app final.app) ∨
    ∃ request target result, traffic = [.sent target, .back target result] ∧
      cached = false ∧ body.bind (ProxyRequest.ofBody settings) = some request ∧
      Routes request target gateway.app ∧
      Differs target (result.change final.clock) gateway.app final.app ∧
      (result.isOk = false → CacheKept settings body now gateway.app final.app) := by
  obtain ⟨next, stepped, rest⟩ := Machine.exec_cons_iff.mp run
  have shown : Machine.trace (step settings) (Gateway.traffic gateway.requests.length)
      gateway (⟨now, .receive body⟩ :: events) =
        [] ++ Machine.trace (step settings) (Gateway.traffic gateway.requests.length)
          next events := by
    rw [Machine.trace, stepped]
    rfl
  obtain ⟨-, rfl⟩ := step_receive_iff.mp stepped
  obtain ⟨phase, isPhase, solo⟩ := solo_of_run (by simp) Solo.receive alone rest
  obtain rfl : phase = .answered response cached :=
    Option.some.inj (isPhase.symm.trans answered)
  dsimp only
  rw [shown]
  generalize [] ++ Machine.trace (step settings) (Gateway.traffic gateway.requests.length)
    _ events = traffic at solo
  cases solo with
  | refused kind pools cache => exact Or.inl ⟨rfl, kind, pools, cache⟩
  | completed isRequest routes differs cache =>
      exact Or.inr ⟨_, _, _, rfl, rfl, isRequest, routes, differs, cache⟩

/-- Whether an answer came from the cache. -/
def cached? : Phase → Option Bool
  | .answered _ cached => some cached
  | _ => none

/-- A forward that fails is recorded at the upstream, and nothing else happens. -/
theorem request_frame_refused :
    ∃ gateway final,
      Run (smallSettings []) 0 [⟨0, .background (.markHealthy firstUpstream)⟩] gateway ∧
      Machine.exec (step (smallSettings [])) gateway
        (exchange 0 1 1 (.error "connection refused")) = some final ∧
      Differs firstUpstream (recordFailure final.clock) gateway.app final.app := by
  have computed : (Machine.exec (step (smallSettings [])) (init (smallSettings []) 0)
      [⟨0, .background (.markHealthy firstUpstream)⟩]).bind (fun gateway =>
        (Machine.exec (step (smallSettings [])) gateway
          (exchange 0 1 1 (.error "connection refused"))).map fun final =>
            (gateway.requests.length, final.requests[0]?.bind cached?,
              Machine.trace (step (smallSettings [])) (Gateway.traffic 0) gateway
                (exchange 0 1 1 (.error "connection refused")))) =
      some (0, some false,
        [.sent firstUpstream, .back firstUpstream (.error "connection refused")]) := by
    decide +kernel
  obtain ⟨gateway, run, isFinal⟩ := Option.bind_eq_some_iff.mp computed
  obtain ⟨final, served, shown⟩ := Option.map_eq_some_iff.mp isFinal
  simp only [Prod.mk.injEq] at shown
  obtain ⟨first, isAnswered, isTraffic⟩ := shown
  obtain ⟨phase, answered, isCached⟩ := Option.bind_eq_some_iff.mp isAnswered
  refine ⟨gateway, final, run, served, ?_⟩
  cases phase with
  | answered response cached =>
      rw [← first] at answered
      rcases request_frame served (by simp [Alone, first]) answered with
        ⟨silent, -⟩ | ⟨request, target, result, sent, -, -, -, differs, -⟩
      · rw [first] at silent
        cases silent.symm.trans isTraffic
      · rw [first] at sent
        cases sent.symm.trans isTraffic
        exact differs
  | _ => cases isCached

end Gateway

end SorobanGate
