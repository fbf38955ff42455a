import SorobanGate.Gateway.Step

/-!
# The cache over whole runs

Seen from the cache a run is a sequence of cache operations.  What the cache
returns was therefore stored earlier in the run, by an invocation whose forward
brought it back, and neither a flush nor another store has hit its slot since.
-/

namespace SorobanGate

/-- A response that an invocation stores. -/
structure Stored where
  request : ProxyRequest
  reply : Reply

def Stored.op (settings : Settings) (now : Instant) (stored : Stored) : CacheOp :=
  .set (stored.request.cacheKey settings) stored.reply.body (stored.request.ttl settings) now

/-- What an invocation stores when it goes on: a successful response to a request
whose method is cached, if its expiry is representable. -/
def Phase.stores (settings : Settings) (now : Instant) : Phase → Action → List Stored
  | .returned request _ (.ok reply), .handle =>
      if request.ttl settings ≠ 0 ∧ reply.status.isSuccess ∧
          (Instant.add? now (request.ttl settings)).isSome then
        [⟨request, reply⟩]
      else []
  | _, _ => []

/-- What reading a request looks up. -/
def AppState.lookups (settings : Settings) (body : Option Bytes) (now : Instant) :
    List CacheOp :=
  match body.bind (ProxyRequest.ofBody settings) with
  | some request =>
      if request.ttl settings = 0 then [] else [.get (request.cacheKey settings) now]
  | none => []

def Background.cacheOps : Background → List CacheOp
  | .flush => [.flush]
  | .evict slot => [.evict slot]
  | _ => []

namespace Gateway

variable (settings : Settings)

/-- What a step stores in the cache, if there is one. -/
def stores (gateway : Gateway) (timed : Timed) : List Stored :=
  match gateway.app.cache, timed.event with
  | some _, .resume request action =>
      match gateway.requests[request]? with
      | some phase => phase.stores settings timed.time action
      | none => []
  | _, _ => []

/-- What a step does to the cache, if there is one. -/
def cacheOps (gateway : Gateway) (timed : Timed) : List CacheOp :=
  match gateway.app.cache, timed.event with
  | some _, .receive body => AppState.lookups settings body timed.time
  | some _, .resume _ _ => (gateway.stores settings timed).map (Stored.op settings timed.time)
  | some _, .background event => event.cacheOps
  | none, _ => []

/-- The cache, an empty one standing in for none. -/
def cacheView (gateway : Gateway) : MemoryCache :=
  gateway.app.cache.getD (.new settings.config.cache.maxMemoryMb)

end Gateway

/-! ## The handlers, seen from the cache -/

section Handlers

variable {settings : Settings} {app : AppState} {now : Instant}

namespace AppState

theorem cache_receive (body : Option Bytes) :
    (app.receive settings body now).1.cache =
      app.cache.bind fun cache =>
        Machine.exec CacheOp.step cache (lookups settings body now) := by
  unfold receive lookups
  cases body.bind (ProxyRequest.ofBody settings) with
  | none => simp
  | some request =>
      simp only [consult]
      cases isCache : app.cache with
      | none => simp [isCache]
      | some cache =>
          by_cases uncached : request.ttl settings = 0
          · simp [uncached, isCache]
          · simp only [Option.bind_some, if_neg uncached]
            have found : Machine.exec CacheOp.step cache [.get (request.cacheKey settings) now] =
                some (cache.get (request.cacheKey settings) now).1 := rfl
            rw [found]
            rcases cache.get (request.cacheKey settings) now with ⟨reached, _ | cachedBody⟩ <;>
              rfl

theorem cache_store {request : ProxyRequest} {target : UpstreamRef} {reply : Reply}
    {cache : MemoryCache} (isCache : app.cache = some cache) :
    (app.handle settings request target (.ok reply) now).1.cache =
      Machine.exec CacheOp.step cache
        (((Phase.returned request target (.ok reply)).stores settings now .handle).map
          (Stored.op settings now)) := by
  have same : (app.mapMetrics (.countRequest (request.labels reply.status false))).cache =
      some cache := isCache
  simp only [handle, store, Phase.stores, same]
  by_cases cached : request.ttl settings ≠ 0 ∧ reply.status.isSuccess = true
  · rw [if_pos cached]
    cases added : Instant.add? now (request.ttl settings) with
    | none => simp [MemoryCache.set, added, same]
    | some expiresAt =>
        simp [MemoryCache.set, added, cached, Stored.op, Machine.exec_cons, CacheOp.step]
  · rw [if_neg cached, if_neg fun stored => cached ⟨stored.1, stored.2.1⟩]
    simp [same]

theorem cache_handle {request : ProxyRequest} {target : UpstreamRef} {result : ForwardResult} :
    (app.handle settings request target result now).1.cache =
      app.cache.bind fun cache =>
        Machine.exec CacheOp.step cache
          (((Phase.returned request target result).stores settings now .handle).map
            (Stored.op settings now)) := by
  cases isCache : app.cache with
  | none =>
      cases result with
      | ok reply => simp [handle, store, mapMetrics, isCache]
      | error message => simpa [handle, mapMetrics, modifyUpstream] using isCache
  | some cache =>
      cases result with
      | ok reply => exact cache_store isCache
      | error message => simpa [handle, mapMetrics, modifyUpstream, Phase.stores] using isCache

theorem cache_selectUpstream (request : ProxyRequest) (draw : Nat) :
    (app.selectUpstream request draw).1.cache = app.cache := by
  rcases app.selectUpstream_inv request draw with
    ⟨response, -, refused⟩ | ⟨pool, index, handle, -, -, -, turned⟩
  · rw [refused]
  · rw [turned]

end AppState

theorem Phase.cache_advance {phase : Phase} {action : Action} {reached : AppState × Phase}
    (advanced : phase.advance settings now app action = some reached) :
    reached.1.cache =
      app.cache.bind fun cache =>
        Machine.exec CacheOp.step cache
          ((phase.stores settings now action).map (Stored.op settings now)) := by
  rcases advance_cases advanced with
    ⟨request, draw, rfl, rfl, rfl⟩ | ⟨request, target, rfl, rfl, rfl⟩ |
    ⟨request, target, result, rfl, rfl, rfl⟩ | ⟨request, target, rfl, rfl, rfl⟩ |
    ⟨request, target, result, rfl, rfl, rfl⟩
  · simp [AppState.cache_selectUpstream, stores]
  · simp [stores]
  · simp [stores]
  · simp [stores]
  · exact AppState.cache_handle

theorem Phase.mem_stores {phase : Phase} {action : Action} {stored : Stored}
    (member : stored ∈ phase.stores settings now action) :
    action = .handle ∧ (∃ target, phase = .returned stored.request target (.ok stored.reply)) ∧
      stored.request.ttl settings ≠ 0 ∧ stored.reply.status.isSuccess = true ∧
      (Instant.add? now (stored.request.ttl settings)).isSome := by
  unfold stores at member
  split at member
  next request target reply =>
    split at member
    next cached =>
      rw [List.mem_singleton] at member
      subst member
      exact ⟨rfl, ⟨target, rfl⟩, cached⟩
    · cases member
  · cases member

theorem Background.cache_apply (event : Background) :
    (event.apply settings now app).cache =
      app.cache.bind fun cache => Machine.exec CacheOp.step cache event.cacheOps := by
  cases event with
  | probe target elapsed result => simp [apply, cacheOps]
  | markHealthy target => simp [apply, cacheOps]
  | setHealth encodedUrl enable =>
      simp only [apply, AppState.setUpstreamHealth, cacheOps]
      split <;> simp
  | flush =>
      simp only [apply, AppState.flushCache, cacheOps]
      cases isCache : app.cache <;> simp [isCache, Machine.exec_cons, CacheOp.step]
  | evict slot =>
      cases isCache : app.cache <;> simp [apply, cacheOps, isCache, Machine.exec_cons, CacheOp.step]

end Handlers

/-! ## Runs -/

namespace Gateway

variable {settings : Settings} {start : Instant} {events : List Timed}
variable {gateway next : Gateway} {timed : Timed}

/-- Seen from the cache, a step of the gateway is what it does to it. -/
theorem cache_of_step (stepped : step settings gateway timed = some next) :
    next.app.cache =
      gateway.app.cache.bind fun cache =>
        Machine.exec CacheOp.step cache (gateway.cacheOps settings timed) := by
  obtain ⟨now, event⟩ := timed
  unfold cacheOps
  cases event with
  | receive body =>
      obtain ⟨-, rfl⟩ := step_receive_iff.mp stepped
      cases isCache : gateway.app.cache <;> simp [AppState.cache_receive, isCache]
  | resume request action =>
      obtain ⟨-, phase, reached, found, advanced, rfl⟩ := step_resume_iff.mp stepped
      have acts := Phase.cache_advance advanced
      cases isCache : gateway.app.cache <;> simp_all [stores]
  | background event =>
      obtain ⟨-, rfl⟩ := step_background_iff.mp stepped
      cases isCache : gateway.app.cache <;> simp [Background.cache_apply, isCache]

theorem mem_stores {stored : Stored} (member : stored ∈ gateway.stores settings timed) :
    gateway.app.cache.isSome ∧ ∃ request target,
      timed.event = .resume request .handle ∧
      gateway.requests[request]? = some (.returned stored.request target (.ok stored.reply)) ∧
      stored.request.ttl settings ≠ 0 ∧ stored.reply.status.isSuccess = true ∧
      (Instant.add? timed.time (stored.request.ttl settings)).isSome := by
  unfold stores at member
  split at member
  next cache request action isCache isResume =>
    split at member
    next phase found =>
      obtain ⟨rfl, ⟨target, rfl⟩, facts⟩ := Phase.mem_stores member
      exact ⟨by simp [isCache], request, target, isResume, found, facts⟩
    · cases member
  · cases member

theorem stores_eq_singleton {stored : Stored} (member : stored ∈ gateway.stores settings timed) :
    gateway.stores settings timed = [stored] := by
  have atMostOne : gateway.stores settings timed = [] ∨
      ∃ only, gateway.stores settings timed = [only] := by
    unfold stores
    split
    · split
      · unfold Phase.stores
        split
        · split
          · exact Or.inr ⟨_, rfl⟩
          · exact Or.inl rfl
        · exact Or.inl rfl
      · exact Or.inl rfl
    · exact Or.inl rfl
  rcases atMostOne with none | ⟨only, one⟩
  · rw [none] at member
    cases member
  · rw [one, List.mem_singleton] at member
    rw [one, member]

theorem op_mem_cacheOps {stored : Stored} (member : stored ∈ gateway.stores settings timed) :
    stored.op settings timed.time ∈ gateway.cacheOps settings timed := by
  obtain ⟨hasCache, request, target, isHandle, -⟩ := mem_stores member
  obtain ⟨cache, isCache⟩ := Option.isSome_iff_exists.mp hasCache
  simp only [cacheOps, isCache, isHandle]
  exact List.mem_map_of_mem member

theorem stored_of_set {key value : Bytes} {ttl : Duration} {now : Instant}
    (member : .set key value ttl now ∈ gateway.cacheOps settings timed) :
    ∃ stored ∈ gateway.stores settings timed,
      stored.op settings timed.time = .set key value ttl now := by
  unfold cacheOps at member
  split at member
  · unfold AppState.lookups at member
    split at member
    · split at member <;> simp at member
    · cases member
  · exact List.mem_map.mp member
  next event _ _ => cases event <;> simp [Background.cacheOps] at member
  · cases member

theorem exec_cacheOps (settings : Settings) (gateway : Gateway) (timed : Timed)
    (cache : MemoryCache) :
    ∃ reached,
      Machine.exec CacheOp.step cache (gateway.cacheOps settings timed) = some reached := by
  refine Machine.exec_total ?_ cache
  intro op member state
  cases op with
  | set key value ttl now =>
      obtain ⟨stored, isStored, isSet⟩ := stored_of_set member
      cases isSet
      obtain ⟨-, request, target, -, -, -, -, representable⟩ := mem_stores isStored
      obtain ⟨sum, added⟩ := Option.isSome_iff_exists.mp representable
      obtain rfl := Instant.add?_eq_some added
      exact ⟨_, CacheOp.step_set_iff.mpr ⟨added, rfl⟩⟩
  | _ => exact ⟨_, rfl⟩

/-- Along a run the cache goes through everything that the steps do to it. -/
theorem cacheView_of_step (stepped : step settings gateway timed = some next) :
    Machine.exec CacheOp.step (gateway.cacheView settings) (gateway.cacheOps settings timed) =
      some (next.cacheView settings) := by
  have acts := cache_of_step stepped
  unfold cacheView
  cases isCache : gateway.app.cache with
  | none =>
      rw [isCache, Option.bind_none] at acts
      rw [acts]
      simp [cacheOps, isCache]
  | some cache =>
      obtain ⟨reached, accepted⟩ := exec_cacheOps settings gateway timed cache
      rw [isCache, Option.bind_some, accepted] at acts
      rw [acts]
      exact accepted

theorem cacheView_of_run (run : Run settings start events gateway) :
    Machine.exec CacheOp.step (.new settings.config.cache.maxMemoryMb)
        (Machine.trace (step settings) (cacheOps settings) (init settings start) events) =
      some (gateway.cacheView settings) := by
  have fresh : (init settings start).cacheView settings =
      .new settings.config.cache.maxMemoryMb := by
    simp only [cacheView, init, buildState]
    split <;> rfl
  rw [← fresh]
  exact Machine.exec_component (fun _ _ _ stepped => cacheView_of_step stepped) run

theorem isSome_cache_of_step (stepped : step settings gateway timed = some next) :
    next.app.cache.isSome = gateway.app.cache.isSome := by
  rw [cache_of_step stepped]
  cases gateway.app.cache with
  | none => rfl
  | some cache =>
      obtain ⟨reached, accepted⟩ := exec_cacheOps settings gateway timed cache
      simp [accepted]

theorem isSome_cache_of_exec
    (run : Machine.exec (step settings) gateway events = some next) :
    next.app.cache.isSome = gateway.app.cache.isSome := by
  refine Machine.exec_invariant
    (fun reached => reached.app.cache.isSome = gateway.app.cache.isSome) ?_ rfl run
  intro state timed reached same stepped
  rw [isSome_cache_of_step stepped, same]

/-- Where an entry comes from: the step that stored it, the last one to do anything to
its slot. -/
structure Origin (settings : Settings) (start : Instant) (events : List Timed)
    (gateway : Gateway) (slot : UInt64) (entry : CachedValue) (before : List Timed)
    (timed : Timed) (after : List Timed) (state next : Gateway) (stored : Stored) : Prop where
  split : events = before ++ timed :: after
  prior : Run settings start before state
  stepped : step settings state timed = some next
  rest : Machine.exec (step settings) next after = some gateway
  stores : stored ∈ state.stores settings timed
  inSlot : MemoryCache.hashToU64 (stored.request.cacheKey settings) = slot
  entry : entry = ⟨stored.reply.body, timed.time + stored.request.ttl settings⟩
  quiet : ∀ op ∈ Machine.trace (step settings) (cacheOps settings) next after,
    op ≠ .flush ∧ ∀ key, op.writes key = true → MemoryCache.hashToU64 key ≠ slot

theorem exists_origin {cache : MemoryCache} {slot : UInt64} {entry : CachedValue}
    (run : Run settings start events gateway) (isCache : gateway.app.cache = some cache)
    (found : cache.cache.lookup slot = some entry) :
    ∃ before timed after state next stored,
      Origin settings start events gateway slot entry before timed after state next stored := by
  have replay := cacheView_of_run run
  simp only [cacheView, isCache, Option.getD_some] at replay
  obtain ⟨earlier, key, value, ttl, now, later, split, inSlot, isEntry, quiet⟩ :=
    CacheOp.entry_origin replay found
  obtain ⟨before, timed, after, state, next, left, right, eventsSplit, prior, stepped, rest,
    shown, -, rfl⟩ := Machine.trace_split run split
  have isOp : .set key value ttl now ∈ state.cacheOps settings timed := by simp [shown]
  obtain ⟨stored, isStored, isSet⟩ := stored_of_set isOp
  cases isSet
  exact ⟨before, timed, after, state, next, stored, eventsSplit, prior, stepped, rest, isStored,
    inSlot, isEntry, fun op member => quiet op (List.mem_append_right _ member)⟩

variable {slot : UInt64} {entry : CachedValue} {before after : List Timed} {state : Gateway}
variable {stored : Stored}

theorem Origin.no_flush
    (origin : Origin settings start events gateway slot entry before timed after state next
      stored) :
    ∀ later ∈ after, later.event ≠ .background .flush := by
  intro later member isFlush
  have quiet := origin.quiet
  have rest := origin.rest
  obtain ⟨earlier, remaining, rfl⟩ := List.append_of_mem member
  obtain ⟨reached, prior, -⟩ := Machine.exec_append_iff.mp rest
  -- There is a cache, so the flush reaches it.
  have hasCache : reached.app.cache.isSome = true := by
    rw [isSome_cache_of_exec prior, isSome_cache_of_step origin.stepped,
      (mem_stores origin.stores).1]
  obtain ⟨cache, isCache⟩ := Option.isSome_iff_exists.mp hasCache
  have flushes : CacheOp.flush ∈ reached.cacheOps settings later := by
    simp [cacheOps, isCache, isFlush, Background.cacheOps]
  exact (quiet _ (Machine.mem_trace prior flushes)).1 rfl

theorem Origin.time_le
    (origin : Origin settings start events gateway slot entry before timed after state next
      stored) :
    timed.time ≤ gateway.clock :=
  (clock_of_step origin.stepped).2 ▸ clock_le_of_exec origin.rest

/-! ## Requests of a run -/

/-- The bodies that a run reads. -/
def bodies (events : List Timed) : List Bytes :=
  events.filterMap fun timed =>
    match timed.event with
    | .receive body => body
    | _ => none

theorem bodies_append (first second : List Timed) :
    bodies (first ++ second) = bodies first ++ bodies second :=
  List.filterMap_append

end Gateway

/-- The request that an invocation works on. -/
def Phase.request? : Phase → Option ProxyRequest
  | .routed request | .selected request _ | .forwarding request _ | .returned request _ _
  | .dropped request _ | .aborted request => some request
  | .answered _ _ => none

theorem ProxyRequest.body_ofBody {settings : Settings} {body : Bytes} {request : ProxyRequest}
    (read : ofBody settings body = some request) :
    request.body = body ∧ extractJsonRpcMethod settings.codec body = some request.method := by
  obtain ⟨method, extracted, rfl⟩ := Option.map_eq_some_iff.mp read
  exact ⟨rfl, extracted⟩

namespace AppState

variable {settings : Settings} {app : AppState} {now : Instant}

theorem request?_receive {body : Option Bytes} {request : ProxyRequest}
    (arrives : (app.receive settings body now).2.request? = some request) :
    body.bind (ProxyRequest.ofBody settings) = some request := by
  rcases app.receive_cases settings body now with
    ⟨response, cached, isPhase⟩ | ⟨found, isPhase, isRequest⟩
  · rw [isPhase] at arrives
    cases arrives
  · rw [isPhase] at arrives
    exact isRequest.trans arrives

theorem get_of_cached {body : Bytes} {response : Response}
    (cached : (app.receive settings (some body) now).2 = .answered response true) :
    ∃ request cache, ProxyRequest.ofBody settings body = some request ∧
      app.cache = some cache ∧ request.ttl settings ≠ 0 ∧
      (cache.get (request.cacheKey settings) now).2 = some response.body := by
  unfold receive at cached
  split at cached
  · cases cached
  next request isRequest =>
    split at cached
    · cases cached
    next reached cachedBody consulted =>
      cases cached
      obtain ⟨cache, isCache, got⟩ := Option.bind_eq_some_iff.mp consulted
      split at got
      · cases got
      next isCached =>
        exact ⟨request, cache, isRequest, isCache, isCached, by rw [Option.some.inj got]⟩
    · cases cached

end AppState

theorem Phase.request?_advance {settings : Settings} {app : AppState} {now : Instant}
    {phase : Phase} {action : Action} {reached : AppState × Phase} {request : ProxyRequest}
    (advanced : phase.advance settings now app action = some reached)
    (isRequest : reached.2.request? = some request) : phase.request? = some request := by
  obtain ⟨app', phase'⟩ := reached
  cases follows_of_advance advanced with
  | refused => cases isRequest
  | answered => cases isRequest
  | _ => exact isRequest

namespace Gateway

variable {settings : Settings} {start : Instant} {events : List Timed} {gateway : Gateway}

/-- Every request of a run was read off a body that the run received. -/
theorem read_of_run (run : Run settings start events gateway) :
    ∀ phase ∈ gateway.requests, ∀ request, phase.request? = some request →
      request.body ∈ bodies events ∧ ProxyRequest.ofBody settings request.body = some request := by
  refine phase_invariant
    (fun events phase => ∀ request, phase.request? = some request →
      request.body ∈ bodies events ∧ ProxyRequest.ofBody settings request.body = some request)
    ?_ ?_ ?_ run
  · intro events timed phase known request isRequest
    obtain ⟨received, read⟩ := known request isRequest
    rw [bodies_append]
    exact ⟨List.mem_append_left _ received, read⟩
  · intro events state now body _ request isRequest
    obtain ⟨text, rfl, read⟩ := Option.bind_eq_some_iff.mp (AppState.request?_receive isRequest)
    rw [(ProxyRequest.body_ofBody read).1]
    exact ⟨by simp [bodies], read⟩
  · intro events state now request action phase reached _ _ known advanced found isRequest
    obtain ⟨received, read⟩ := known found (Phase.request?_advance advanced isRequest)
    rw [bodies_append]
    exact ⟨List.mem_append_left _ received, read⟩

/-! ## Soundness -/

/-- No two of the bodies have different canonical forms whose digests share their
first eight bytes. -/
def Distinct (settings : Settings) (bodies : List Bytes) : Prop :=
  ∀ left ∈ bodies, ∀ right ∈ bodies,
    MemoryCache.SamePrefix (settings.codec.computeCacheKey left)
        (settings.codec.computeCacheKey right) →
      (settings.codec.canonical left).toBytes = (settings.codec.canonical right).toBytes

/-- The last rule that names a method, if there is one, sets no lifetime. -/
def Uncached (settings : Settings) (method : String) : Prop :=
  ∀ rule, settings.config.cache.rules.reverse.find? (fun rule => method ∈ rule.methods) =
    some rule → rule.ttlSecs = 0

theorem ttlFor_of_uncached {method : String} (uncached : Uncached settings method) :
    settings.cacheTtlTable.ttlFor method = 0 := by
  rw [Settings.cacheTtlTable, TtlTable.ttlFor_new]
  split
  · rfl
  next rule isLast => simp [uncached rule isLast, Duration.fromSecs]

/-- An answer from the cache at some time, and the earlier invocation that it was
stored by. -/
theorem origin_of_cached {now : Instant} {body : Bytes} {response : Response}
    (run : Run settings start events gateway)
    (distinct : Distinct settings (body :: bodies events))
    (cached : (gateway.app.receive settings (some body) now).2 = .answered response true) :
    ∃ request slot expiresAt before timed after state next stored,
      ProxyRequest.ofBody settings body = some request ∧
      Origin settings start events gateway slot ⟨response.body, expiresAt⟩ before timed after
        state next stored ∧
      now < expiresAt ∧ slot = MemoryCache.hashToU64 (request.cacheKey settings) ∧
      settings.codec.canonical stored.request.body = settings.codec.canonical body := by
  obtain ⟨request, cache, read, isCache, -, got⟩ := AppState.get_of_cached cached
  obtain ⟨entry, found, live, isBody⟩ := MemoryCache.get_eq_some_iff.mp got
  obtain ⟨before, timed, after, state, next, stored, origin⟩ := exists_origin run isCache found
  obtain ⟨data, expiresAt⟩ := entry
  subst isBody
  refine ⟨request, _, expiresAt, before, timed, after, state, next, stored, read, origin, live,
    rfl, ?_⟩
  obtain ⟨-, index, target, -, atIndex, -⟩ := mem_stores origin.stores
  have received := (read_of_run origin.prior _ (List.mem_of_getElem? atIndex) _ rfl).1
  have sameSlot := (MemoryCache.hashToU64_eq_iff _ _).mp origin.inSlot
  rw [ProxyRequest.cacheKey, ProxyRequest.cacheKey, (ProxyRequest.body_ofBody read).1] at sameSlot
  refine Json.toBytes_injective (distinct _ ?_ _ List.mem_cons_self sameSlot)
  rw [origin.split, bodies_append]
  exact List.mem_cons_of_mem _ (List.mem_append_left _ received)

/-- Cache soundness.  A request that is answered from the cache gets the response of
an earlier request with the same canonical form, hence of the same method, whose
forward brought back that very body with a success status; it was stored less than
its lifetime ago, and the cache was not flushed since.  A request whose method is
not cached is neither answered from the cache nor stored. -/
theorem cache_sound (run : Run settings start events gateway) :
    (∀ now body response, gateway.clock ≤ now → Distinct settings (body :: bodies events) →
      (gateway.app.receive settings (some body) now).2 = .answered response true →
      ∃ before timed after state, ∃ index : Nat, ∃ request target reply,
        events = before ++ timed :: after ∧ Run settings start before state ∧
        timed.event = .resume index .handle ∧
        state.requests[index]? = some (.returned request target (.ok reply)) ∧
        settings.codec.canonical request.body = settings.codec.canonical body ∧
        extractJsonRpcMethod settings.codec body = some request.method ∧
        reply.status.isSuccess = true ∧ reply.body = response.body ∧
        timed.time ≤ now ∧
        now < timed.time + settings.cacheTtlTable.ttlFor request.method ∧
        ∀ later ∈ after, later.event ≠ .background .flush) ∧
    ∀ method, Uncached settings method →
      (∀ now body response, extractJsonRpcMethod settings.codec body = some method →
        (gateway.app.receive settings (some body) now).2 ≠ .answered response true) ∧
      ∀ now (index : Nat) request target result,
        gateway.requests[index]? = some (.returned request target result) →
        request.method = method →
        (gateway.app.handle settings request target result now).1.cache = gateway.app.cache := by
  refine ⟨?_, ?_⟩
  · intro now body response inOrder distinct cached
    obtain ⟨request, slot, expiresAt, before, timed, after, state, next, stored, read, origin,
      live, -, same⟩ := origin_of_cached run distinct cached
    obtain ⟨-, index, target, isHandle, atIndex, -, success, -⟩ := mem_stores origin.stores
    have isEntry := origin.entry
    simp only [CachedValue.mk.injEq] at isEntry
    obtain ⟨isBody, isExpiry⟩ := isEntry
    have storedMethod := (ProxyRequest.body_ofBody
      (read_of_run origin.prior _ (List.mem_of_getElem? atIndex) _ rfl).2).2
    rw [Codec.extractJsonRpcMethod_congr same] at storedMethod
    exact ⟨before, timed, after, state, index, stored.request, target, stored.reply,
      origin.split, origin.prior, isHandle, atIndex, same, storedMethod, success, isBody.symm,
      origin.time_le.trans inOrder, isExpiry ▸ live, origin.no_flush⟩
  · intro method uncached
    have noTtl := ttlFor_of_uncached uncached
    refine ⟨?_, ?_⟩
    · intro now body response extracted cached
      obtain ⟨request, cache, read, -, hasTtl, -⟩ := AppState.get_of_cached cached
      have isMethod := (ProxyRequest.body_ofBody read).2
      rw [extracted] at isMethod
      exact hasTtl (by rw [ProxyRequest.ttl, ← Option.some.inj isMethod, noTtl])
    · rintro now index request target result - rfl
      rw [AppState.cache_handle]
      have nothing : (Phase.returned request target result).stores settings now .handle = [] := by
        rw [List.eq_nil_iff_forall_not_mem]
        intro stored member
        obtain ⟨-, ⟨other, isPhase⟩, hasTtl, -⟩ := Phase.mem_stores member
        cases isPhase
        exact hasTtl noTtl
      simp [nothing]

/-- The response of an invocation that was answered from the cache. -/
def cachedResponse? : Phase → Option Response
  | .answered response true => some response
  | _ => none

theorem answered_of_cachedResponse? {phase : Phase} {response : Response}
    (isCached : cachedResponse? phase = some response) : phase = .answered response true := by
  unfold cachedResponse? at isCached
  split at isCached <;> cases isCached
  rfl

/-- Keep the latest ledger for a minute. -/
def ledgerRules : List CacheRule := [{ methods := ["getLatestLedger"], ttlSecs := 60 }]

/-- An exchange whose response is stored. -/
def filled : List Timed :=
  ⟨0, .background (.markHealthy firstUpstream)⟩ :: exchange 0 1 1 (ledgerReply 1)

theorem filled_answers (id : Int) (known : id = 1 ∨ id = 2) :
    ∃ gateway response, Run (smallSettings ledgerRules) 0 filled gateway ∧
      (gateway.app.receive (smallSettings ledgerRules) (some (ledgerRequest id).toBytes) 2).2 =
        .answered response true ∧
      response.body = (ledgerResponse 1).toBytes := by
  have computed : ((Machine.exec (step (smallSettings ledgerRules))
      (init (smallSettings ledgerRules) 0) filled).bind fun gateway =>
        (cachedResponse? (gateway.app.receive (smallSettings ledgerRules)
          (some (ledgerRequest id).toBytes) 2).2).map Response.body) =
      some (ledgerResponse 1).toBytes := by
    rcases known with rfl | rfl <;> decide +kernel
  obtain ⟨gateway, run, isCached⟩ := Option.bind_eq_some_iff.mp computed
  obtain ⟨response, isCached, isBody⟩ := Option.map_eq_some_iff.mp isCached
  exact ⟨gateway, response, run, answered_of_cachedResponse? isCached, isBody⟩

theorem filled_distinct (id : Int) (known : id = 1 ∨ id = 2) :
    Distinct (smallSettings ledgerRules) ((ledgerRequest id).toBytes :: bodies filled) := by
  rcases known with rfl | rfl <;> (unfold Distinct; decide +kernel)

/-- The second of two requests for the latest ledger is answered from the cache, with
the response to the first. -/
theorem cache_sound_ledger :
    ∃ (gateway : Gateway) (timed : Timed) (response : Response) (reply : Reply),
      Run (smallSettings ledgerRules) 0 filled gateway ∧ timed ∈ filled ∧
      (gateway.app.receive (smallSettings ledgerRules) (some (ledgerRequest 2).toBytes) 2).2 =
        .answered response true ∧
      reply.body = response.body ∧ reply.status.isSuccess = true ∧ timed.time ≤ 2 := by
  obtain ⟨gateway, response, run, cached, -⟩ := filled_answers 2 (Or.inr rfl)
  have clock : (Machine.exec (step (smallSettings ledgerRules))
      (init (smallSettings ledgerRules) 0) filled).map Gateway.clock = some 1 := by
    decide +kernel
  rw [show Machine.exec _ _ _ = some gateway from run, Option.map_some, Option.some.injEq] at clock
  obtain ⟨before, timed, after, state, index, request, target, reply, split, -, -, -, -, -,
    success, isBody, inTime, -⟩ :=
    (cache_sound run).1 2 (ledgerRequest 2).toBytes response (clock.trans_le (by decide))
      (filled_distinct 2 (Or.inr rfl)) cached
  exact ⟨gateway, timed, response, reply, run, by simp [split], cached, isBody, success, inTime⟩

end Gateway

end SorobanGate
