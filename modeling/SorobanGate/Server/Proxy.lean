import SorobanGate.Pool.Selection
import SorobanGate.Server.Response
import SorobanGate.Server.State

/-!
# The proxy handler

`proxy_handler` cut at the points where other tasks can run in between: reading
the request and consulting the cache, selecting an upstream, starting the
forward, its return, and handling its result.
-/

namespace SorobanGate

/-- What a forward brings back: a response, or the text of an error. -/
structure Reply where
  status : StatusCode
  body : Bytes
  headers : HeaderMap
  deriving DecidableEq, Repr

abbrev ForwardResult := Except String Reply

/-- What the handler knows of a request once it is routed. -/
structure ProxyRequest where
  body : Bytes
  method : String
  poolName : String
  deriving DecidableEq, Repr

/-- How far an invocation of the handler has come. -/
inductive Phase where
  | routed (request : ProxyRequest)
  | selected (request : ProxyRequest) (target : UpstreamRef)
  | forwarding (request : ProxyRequest) (target : UpstreamRef)
  | returned (request : ProxyRequest) (target : UpstreamRef) (result : ForwardResult)
  | answered (response : Response) (cached : Bool)
  /-- The runtime dropped the handler while it awaited the forward. -/
  | dropped (request : ProxyRequest) (target : UpstreamRef)
  /-- The handler panicked while storing a response. -/
  | aborted (request : ProxyRequest)

namespace ProxyRequest

variable (settings : Settings) (request : ProxyRequest)

def cacheKey : Bytes := settings.codec.computeCacheKey request.body

/-- How long the response to a request is kept; zero when it is not cached. -/
def ttl : Duration := settings.cacheTtlTable.ttlFor request.method

def labels (status : StatusCode) (cached : Bool) : RequestLabels where
  method := request.method
  pool := request.poolName
  status := toString status
  cached := toString cached

/-- What reading a body makes of it: nothing if it names no method. -/
def ofBody (body : Bytes) : Option ProxyRequest :=
  (extractJsonRpcMethod settings.codec body).map fun method =>
    { body := body
      method := method
      poolName := settings.router.route method }

end ProxyRequest

namespace AppState

variable (settings : Settings)

def mapMetrics (change : Metrics → Metrics) (app : AppState) : AppState :=
  { app with metrics := app.metrics.map change }

/-- Consult the cache, if there is one and the method is cached. -/
def consult (request : ProxyRequest) (now : Instant) (app : AppState) :
    Option (MemoryCache × Option Bytes) :=
  app.cache.bind fun cache =>
    if request.ttl settings = 0 then none else some (cache.get (request.cacheKey settings) now)

/-- The handler up to the selection of an upstream. -/
def receive (body : Option Bytes) (now : Instant) (app : AppState) : AppState × Phase :=
  match body.bind (ProxyRequest.ofBody settings) with
  | none => (app, .answered (jsonErrorResponse 400 (-32700) "Parse error") false)
  | some request =>
      match app.consult settings request now with
      | none => (app, .routed request)
      | some (cache, some cachedBody) =>
          let counted := { app with cache := some cache }
            |>.mapMetrics (.countHit request.method)
            |>.mapMetrics (.countRequest (request.labels 200 true))
          (counted,
            .answered ⟨200, [("content-type", asBytes "application/json")], cachedBody⟩ true)
      | some (cache, none) =>
          ({ app with cache := some cache }.mapMetrics (.countMiss request.method),
            .routed request)

/-- Find the pool of a request and select one of its upstreams. -/
def selectUpstream (request : ProxyRequest) (draw : Nat) (app : AppState) :
    AppState × Phase :=
  match app.pools.zipIdx.find? fun pool => pool.1.name == request.poolName with
  | none => (app, .answered (jsonErrorResponse 500 (-32000) "Pool not configured") false)
  | some (pool, index) =>
      let (pool, selected) := pool.selectUpstream draw
      let app := { app with pools := app.pools.set index pool }
      match selected with
      | none =>
          (app, .answered (jsonErrorResponse 503 (-32004) "No healthy upstreams available") false)
      | some handle => (app, .selected request ⟨index, handle.2⟩)

/-- The status that stands for a failed forward. -/
def failureStatus (message : String) : StatusCode :=
  if "timed out".toList <:+: message.toList ∨ "timeout".toList <:+: message.toList then 504
  else 502

/-- `circuit_breaker.record_failure()` under the lock of the upstream. -/
def recordFailure (now : Instant) : UpstreamState → UpstreamState :=
  .modifyMutable fun state =>
    { state with circuitBreaker := state.circuitBreaker.recordFailure now }

/-- Store a successful response, if there is a cache and the method is cached. -/
def store (request : ProxyRequest) (reply : Reply) (now : Instant) (app : AppState) :
    Option AppState :=
  match app.cache with
  | none => some app
  | some cache =>
      if request.ttl settings ≠ 0 ∧ reply.status.isSuccess then
        (cache.set (request.cacheKey settings) reply.body (request.ttl settings) now).map
          fun cache => { app with cache := some cache }
      else some app

/-- The handler after the forward has returned. -/
def handle (request : ProxyRequest) (target : UpstreamRef) (result : ForwardResult)
    (now : Instant) (app : AppState) : AppState × Phase :=
  match result with
  | .ok reply =>
      let app := app.mapMetrics (.countRequest (request.labels reply.status false))
      match app.store settings request reply now with
      | none => (app, .aborted request)
      | some app => (app, .answered ⟨reply.status, reply.headers, reply.body⟩ false)
  | .error message =>
      let app := app.modifyUpstream target (recordFailure now)
      let status := failureStatus message
      (app.mapMetrics (.countRequest (request.labels status false)),
        .answered (jsonErrorResponse status (-32000) message) false)

/-! Where each part of the handler leads. -/

theorem receive_cases (body : Option Bytes) (now : Instant) (app : AppState) :
    (∃ response cached, (app.receive settings body now).2 = .answered response cached) ∨
      ∃ request, (app.receive settings body now).2 = .routed request ∧
        body.bind (ProxyRequest.ofBody settings) = some request := by
  unfold receive
  split
  · exact Or.inl ⟨_, _, rfl⟩
  next request isRequest =>
    split
    · exact Or.inr ⟨request, rfl, isRequest⟩
    · exact Or.inl ⟨_, _, rfl⟩
    · exact Or.inr ⟨request, rfl, isRequest⟩

/-- The responses of the handler that are not made of what an upstream said. -/
def refusals : List Response :=
  [jsonErrorResponse 400 (-32700) "Parse error",
    jsonErrorResponse 500 (-32000) "Pool not configured",
    jsonErrorResponse 503 (-32004) "No healthy upstreams available"]

/-- A selection leaves the state as it is when it finds no upstream, and otherwise only
turns the counter of the pool. -/
theorem selectUpstream_inv (request : ProxyRequest) (draw : Nat) (app : AppState) :
    (∃ response ∈ refusals, app.selectUpstream request draw = (app, .answered response false)) ∨
      ∃ pool index handle, app.pools[index]? = some pool ∧
        (app.pools.zipIdx.find? fun pool => pool.1.name == request.poolName) =
          some (pool, index) ∧
        (pool.selectUpstream draw).2 = some handle ∧
        app.selectUpstream request draw =
          ({ app with pools := app.pools.set index (pool.selectUpstream draw).1 },
            .selected request ⟨index, handle.2⟩) := by
  unfold selectUpstream
  split
  · exact Or.inl ⟨_, by simp [refusals], rfl⟩
  next pool index found =>
    have isPool : app.pools[index]? = some pool :=
      List.mem_zipIdx_iff_getElem?.mp (List.mem_of_find?_eq_some found)
    dsimp only
    split
    next nothing =>
      have unchanged := UpstreamPool.selectUpstream_of_empty draw
        (UpstreamPool.selectUpstream_eq_none_iff.mp nothing)
      obtain ⟨inside, rfl⟩ := List.getElem?_eq_some_iff.mp isPool
      refine Or.inl ⟨jsonErrorResponse 503 (-32004) "No healthy upstreams available", ?_, ?_⟩
      · simp [refusals]
      · rw [unchanged, List.set_getElem_self]
    next handle chosen => exact Or.inr ⟨pool, index, handle, isPool, found, chosen, rfl⟩

theorem selectUpstream_cases (request : ProxyRequest) (draw : Nat) (app : AppState) :
    (∃ response, (app.selectUpstream request draw).2 = .answered response false) ∨
      ∃ target, (app.selectUpstream request draw).2 = .selected request target := by
  rcases app.selectUpstream_inv request draw with
    ⟨response, -, refused⟩ | ⟨pool, index, handle, -, -, -, turned⟩
  · exact Or.inl ⟨response, by rw [refused]⟩
  · exact Or.inr ⟨⟨index, handle.2⟩, by rw [turned]⟩

theorem eq_of_store {settings : Settings} {request : ProxyRequest} {reply : Reply}
    {now : Instant} {app stored : AppState}
    (done : app.store settings request reply now = some stored) :
    stored = { app with cache := stored.cache } := by
  unfold store at done
  split at done
  · cases done
    rfl
  · split at done
    · obtain ⟨cache, -, rfl⟩ := Option.map_eq_some_iff.mp done
      rfl
    · cases done
      rfl

theorem handle_cases (request : ProxyRequest) (target : UpstreamRef) (result : ForwardResult)
    (now : Instant) (app : AppState) :
    (∃ response, (app.handle settings request target result now).2 = .answered response false) ∨
      (app.handle settings request target result now).2 = .aborted request := by
  cases result with
  | ok reply =>
      simp only [handle]
      split
      · exact Or.inr rfl
      · exact Or.inl ⟨_, rfl⟩
  | error message => exact Or.inl ⟨_, rfl⟩

end AppState

end SorobanGate
