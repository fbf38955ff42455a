import SorobanGate.Config.Validate
import SorobanGate.Gateway.Cache
import SorobanGate.Gateway.Upstream

/-!
# Routing under a validated configuration

A run changes the health, the breakers and the counters of the upstreams, never
the pools themselves: what was configured is what requests are routed to.
-/

namespace SorobanGate

/-- The configured part of an upstream. -/
def UpstreamState.config (upstream : UpstreamState) : UpstreamConfig where
  url := upstream.url
  weight := upstream.weight
  maxConnections := upstream.maxConnections

/-- The configured part of a pool. -/
def UpstreamPool.config (pool : UpstreamPool) : PoolConfig where
  name := pool.name
  algorithm := pool.algorithm
  upstreams := pool.upstreams.map UpstreamState.config

/-- The configured part of all pools. -/
def AppState.poolConfigs (app : AppState) : List PoolConfig :=
  app.pools.map UpstreamPool.config

/-- A view of the elements of a list that a change keeps does not see it. -/
theorem map_modify_of_kept {α β : Type} {view : α → β} {change : α → α}
    (kept : ∀ item, view (change item) = view item) (items : List α) (index : Nat) :
    (items.modify index change).map view = items.map view := by
  apply List.ext_getElem?
  intro i
  rw [List.getElem?_map, List.getElem?_map, List.getElem?_modify]
  by_cases here : index = i
  · cases items[i]? <;> simp [here, kept]
  · simp [here]

theorem map_set_of_kept {α β : Type} {view : α → β} {items : List α} {index : Nat}
    {old new : α} (isOld : items[index]? = some old) (kept : view new = view old) :
    (items.set index new).map view = items.map view := by
  apply List.ext_getElem?
  intro i
  rw [List.getElem?_map, List.getElem?_map, List.getElem?_set]
  by_cases here : index = i
  · subst here
    obtain ⟨inside, isItem⟩ := List.getElem?_eq_some_iff.mp isOld
    simp [inside, isItem, kept]
  · simp [here]

@[simp] theorem checkUpstream_config (uriValid : String → Bool) (config : HealthCheckConfig)
    (probe : Probe) (upstream : UpstreamState) :
    (checkUpstream uriValid config probe upstream).config = upstream.config := by
  unfold checkUpstream
  split
  · dsimp only
    split <;> rfl
  · rfl

@[simp] theorem poolConfigs_buildState (settings : Settings) (now : Instant) :
    (buildState settings now).poolConfigs = settings.config.pools := by
  simp only [AppState.poolConfigs, buildState, createPools, List.map_map]
  apply (List.map_congr_left _).trans (List.map_id _)
  intro pool _
  simp only [Function.comp, UpstreamPool.config, List.map_map]
  congr
  exact (List.map_congr_left fun _ _ => rfl).trans (List.map_id _)

@[simp] theorem UpstreamPool.selectUpstream_config (pool : UpstreamPool) (draw : Nat) :
    (pool.selectUpstream draw).1.config = pool.config := by
  unfold selectUpstream
  dsimp only
  split <;> rfl

namespace AppState

variable {settings : Settings} {app : AppState} {now : Instant}

theorem poolConfigs_modifyUpstream (target : UpstreamRef)
    (change : UpstreamState → UpstreamState)
    (kept : ∀ upstream, (change upstream).config = upstream.config) :
    (app.modifyUpstream target change).poolConfigs = app.poolConfigs := by
  apply map_modify_of_kept
  intro pool
  simp only [UpstreamPool.config, map_modify_of_kept kept]

theorem poolConfigs_receive (body : Option Bytes) :
    (app.receive settings body now).1.poolConfigs = app.poolConfigs := by
  unfold receive
  split
  · rfl
  · split <;> rfl

theorem poolConfigs_selectUpstream (request : ProxyRequest) (draw : Nat) :
    (app.selectUpstream request draw).1.poolConfigs = app.poolConfigs := by
  rcases app.selectUpstream_inv request draw with
    ⟨response, -, refused⟩ | ⟨pool, index, handle, isPool, -, -, turned⟩
  · rw [refused]
  · rw [turned]
    exact map_set_of_kept isPool (pool.selectUpstream_config draw)

theorem poolConfigs_handle (request : ProxyRequest) (target : UpstreamRef)
    (result : ForwardResult) :
    (app.handle settings request target result now).1.poolConfigs = app.poolConfigs := by
  cases result with
  | ok reply => simp only [poolConfigs, pools_handle_ok]
  | error message =>
      apply poolConfigs_modifyUpstream target (recordFailure now)
      intro upstream
      rfl

end AppState

namespace Gateway

variable {settings : Settings} {start : Instant} {events : List Timed} {gateway : Gateway}

theorem poolConfigs_of_step {next : Gateway} {timed : Timed}
    (stepped : step settings gateway timed = some next) :
    next.app.poolConfigs = gateway.app.poolConfigs := by
  obtain ⟨now, event⟩ := timed
  cases event with
  | receive body =>
      obtain ⟨-, rfl⟩ := step_receive_iff.mp stepped
      exact AppState.poolConfigs_receive body
  | resume index action =>
      obtain ⟨-, phase, reached, -, advanced, rfl⟩ := step_resume_iff.mp stepped
      rcases Phase.advance_cases advanced with
        ⟨request, draw, -, -, rfl⟩ | ⟨request, target, -, -, rfl⟩ |
        ⟨request, target, result, -, -, rfl⟩ | ⟨request, target, -, -, rfl⟩ |
        ⟨request, target, result, -, -, rfl⟩
      · exact AppState.poolConfigs_selectUpstream request draw
      · exact AppState.poolConfigs_modifyUpstream target .incrementConnectionCount fun _ => rfl
      · exact AppState.poolConfigs_modifyUpstream target .decrementConnectionCount fun _ => rfl
      · rfl
      · exact AppState.poolConfigs_handle request target result
  | background event =>
      obtain ⟨-, rfl⟩ := step_background_iff.mp stepped
      cases event with
      | probe target elapsed result =>
          exact AppState.poolConfigs_modifyUpstream target _ (checkUpstream_config _ _ _)
      | markHealthy target =>
          exact AppState.poolConfigs_modifyUpstream target .markHealthy fun _ => rfl
      | setHealth encodedUrl enable =>
          simp only [Background.apply, AppState.setUpstreamHealth]
          split
          · apply AppState.poolConfigs_modifyUpstream
            intro upstream
            rfl
          · rfl
      | flush =>
          simp only [Background.apply, AppState.flushCache]
          split <;> rfl
      | evict slot => rfl

/-- Along every run the pools are the configured ones. -/
theorem poolConfigs_of_run (run : Run settings start events gateway) :
    gateway.app.poolConfigs = settings.config.pools := by
  apply Machine.exec_invariant (fun state => state.app.poolConfigs = settings.config.pools)
    _ (poolConfigs_buildState settings start) run
  intro state timed next same stepped
  rw [poolConfigs_of_step stepped, same]

end Gateway

/-- The pool that a name stands for is the first configured one of that name. -/
theorem AppState.find_pool {app : AppState} {configs : List PoolConfig}
    (same : app.poolConfigs = configs) (name : String) :
    (app.pools.find? fun pool => pool.name == name).map UpstreamPool.config =
      configs.find? fun pool => pool.name == name := by
  rw [← same, poolConfigs, List.find?_map]
  rfl

theorem AppState.find_pool_position (app : AppState) (name : String) :
    (app.pools.zipIdx.find? fun pool => pool.1.name == name).map Prod.fst =
      app.pools.find? fun pool => pool.name == name := by
  conv_rhs => rw [← List.zipIdx_map_fst 0 app.pools, List.find?_map]
  rfl

theorem Router.route_new (config : RoutingConfig) (method : String) :
    (∃ before rule after, config.rules = before ++ rule :: after ∧ method ∈ rule.methods ∧
        (∀ later ∈ after, method ∉ later.methods) ∧
        (Router.new config).route method = rule.pool) ∨
      ((∀ rule ∈ config.rules, method ∉ rule.methods) ∧
        (Router.new config).route method = config.defaultPool) := by
  unfold route new
  rw [lookup_methodTable]
  cases found : config.rules.reverse.find? fun rule => method ∈ rule.methods with
  | none =>
      refine Or.inr ⟨?_, rfl⟩
      simpa using found
  | some rule =>
      obtain ⟨lists, after, before, split, later⟩ := List.find?_eq_some_iff_append.mp found
      refine Or.inl ⟨before.reverse, rule, after.reverse, ?_, by simpa using lists, ?_, rfl⟩
      · rw [← List.reverse_reverse config.rules, split]
        simp
      · simpa using later

/-- A pool as validation leaves it: it has upstreams, and all of them have a weight. -/
def PoolConfig.Served (pool : PoolConfig) : Prop :=
  pool.upstreams ≠ [] ∧ ∀ upstream ∈ pool.upstreams, 1 ≤ upstream.weight

/-- A validated configuration routes every method to a pool that it defines. -/
theorem Config.Valid.find_route {config : Config} (valid : config.Valid) (method : String) :
    ∃ pool, (config.pools.find? fun pool =>
        pool.name == (Router.new config.routing).route method) = some pool ∧ pool.Served := by
  have known : ∃ pool ∈ config.pools,
      pool.name = (Router.new config.routing).route method := by
    rcases Router.route_new config.routing method with
      ⟨before, rule, after, split, -, -, isPool⟩ | ⟨-, isPool⟩
    · rw [isPool]
      exact valid.knownPool rule (by simp [split])
    · rw [isPool]
      exact valid.defaultPool
  obtain ⟨named, member, isNamed⟩ := known
  have found : (config.pools.find? fun pool =>
      pool.name == (Router.new config.routing).route method).isSome = true := by
    rw [List.find?_isSome]
    exact ⟨named, member, by simp [isNamed]⟩
  obtain ⟨pool, found⟩ := Option.isSome_iff_exists.mp found
  have inConfig := List.mem_of_find?_eq_some found
  exact ⟨pool, found, valid.hasUpstreams pool inConfig, fun upstream isUpstream =>
    UInt32.le_iff_toNat_le.mpr (UInt32.lt_iff_toNat_lt.mp (valid.weights pool inConfig upstream
      isUpstream))⟩

theorem AppState.exists_pool {app : AppState} {configs : List PoolConfig} {name : String}
    {configured : PoolConfig} (same : app.poolConfigs = configs)
    (found : (configs.find? fun pool => pool.name == name) = some configured) :
    ∃ pool position,
      (app.pools.find? fun pool => pool.name == name) = some pool ∧
      (app.pools.zipIdx.find? fun pool => pool.1.name == name) = some (pool, position) ∧
      pool.config = configured := by
  rw [← AppState.find_pool same, Option.map_eq_some_iff] at found
  obtain ⟨pool, found, isConfigured⟩ := found
  have positioned := app.find_pool_position name
  rw [found, Option.map_eq_some_iff] at positioned
  obtain ⟨⟨located, position⟩, positioned, rfl⟩ := positioned
  exact ⟨located, position, found, positioned, isConfigured⟩

theorem ProxyRequest.poolName_ofBody {settings : Settings} {body : Bytes}
    {request : ProxyRequest} (read : ofBody settings body = some request) :
    request.poolName = settings.router.route request.method := by
  obtain ⟨method, -, rfl⟩ := Option.map_eq_some_iff.mp read
  rfl

theorem UpstreamPool.upstreams_of_served {pool : UpstreamPool} {configured : PoolConfig}
    (isConfigured : pool.config = configured) (isServed : configured.Served) :
    pool.upstreams ≠ [] ∧ ∀ upstream ∈ pool.upstreams, 1 ≤ upstream.weight := by
  subst isConfigured
  obtain ⟨hasUpstreams, weights⟩ := isServed
  constructor
  · simpa [UpstreamPool.config] using hasUpstreams
  · intro upstream member
    exact weights upstream.config (List.mem_map_of_mem member)

theorem AppState.selectUpstream_ne_unknown {app : AppState} {request : ProxyRequest}
    {positioned : UpstreamPool × Nat}
    (isPool : (app.pools.zipIdx.find? fun pool => pool.1.name == request.poolName) =
      some positioned) (draw : Nat) :
    (app.selectUpstream request draw).2 ≠
      .answered (jsonErrorResponse 500 (-32000) "Pool not configured") false := by
  intro unknown
  unfold selectUpstream at unknown
  split at unknown
  next missing =>
    rw [isPool] at missing
    cases missing
  · dsimp only at unknown
    split at unknown
    · simp [jsonErrorResponse, rpcErrorResponse, Response.json] at unknown
    · cases unknown

/-- A validated configuration always routes.  A method goes to the pool of the last
rule that lists it, or to the default pool; among the pools that the gateway starts
with there is one of that name, and the first such pool has exactly the upstreams of
the first configured one, at least one and all of weight at least one.  In every run
each request that is about to select an upstream finds this pool, so it is never
answered that its pool is not configured. -/
theorem validated_routes {settings : Settings} (accepted : validate settings.config = .ok ()) :
    (∀ method,
      (∃ before rule after, settings.config.routing.rules = before ++ rule :: after ∧
          method ∈ rule.methods ∧ (∀ later ∈ after, method ∉ later.methods) ∧
          settings.router.route method = rule.pool) ∨
        ((∀ rule ∈ settings.config.routing.rules, method ∉ rule.methods) ∧
          settings.router.route method = settings.config.routing.defaultPool)) ∧
    (∀ method now, ∃ configured pool,
      (settings.config.pools.find? fun pool => pool.name == settings.router.route method) =
        some configured ∧
      ((createPools settings.config now).find? fun pool =>
        pool.name == settings.router.route method) = some pool ∧
      pool.config = configured ∧ pool.upstreams ≠ [] ∧
      ∀ upstream ∈ pool.upstreams, 1 ≤ upstream.weight) ∧
    ∀ start events gateway, Gateway.Run settings start events gateway →
      ∀ (index : Nat) request, gateway.requests[index]? = some (.routed request) →
      request.poolName = settings.router.route request.method ∧
      (∃ configured pool position,
        (settings.config.pools.find? fun pool => pool.name == request.poolName) =
          some configured ∧
        (gateway.app.pools.zipIdx.find? fun pool => pool.1.name == request.poolName) =
          some (pool, position) ∧
        pool.config = configured ∧ pool.upstreams ≠ [] ∧
        ∀ upstream ∈ pool.upstreams, 1 ≤ upstream.weight) ∧
      ∀ draw, (gateway.app.selectUpstream request draw).2 ≠
        .answered (jsonErrorResponse 500 (-32000) "Pool not configured") false := by
  have valid := (validate_iff settings.config).mp accepted
  refine ⟨fun method => Router.route_new settings.config.routing method, ?_, ?_⟩
  · intro method now
    obtain ⟨configured, found, isServed⟩ := valid.find_route method
    obtain ⟨pool, -, isPool, -, isConfigured⟩ :=
      AppState.exists_pool (poolConfigs_buildState settings now) found
    exact ⟨configured, pool, found, isPool, isConfigured,
      UpstreamPool.upstreams_of_served isConfigured isServed⟩
  · intro start events gateway run index request atIndex
    have read := (Gateway.read_of_run run _ (List.mem_of_getElem? atIndex) request rfl).2
    have routed := ProxyRequest.poolName_ofBody read
    obtain ⟨configured, found, isServed⟩ := valid.find_route request.method
    rw [← show request.poolName = (Router.new settings.config.routing).route request.method
      from routed] at found
    obtain ⟨pool, position, -, isPool, isConfigured⟩ :=
      AppState.exists_pool (Gateway.poolConfigs_of_run run) found
    refine ⟨routed, ⟨configured, pool, position, found, isPool, isConfigured,
      UpstreamPool.upstreams_of_served isConfigured isServed⟩, ?_⟩
    exact AppState.selectUpstream_ne_unknown isPool

/-- A method that two rules list, and a pool that is configured twice. -/
def repeatedSettings : Settings where
  codec := ledgerCodec
  uriValid _ := true
  config :=
    { pools :=
        [{ name := "main", upstreams := [{ url := "http://node-a:8000" }] },
          { name := "fast", upstreams := [{ url := "http://node-b:8000", weight := 3 }] },
          { name := "fast", upstreams := [{ url := "http://node-c:8000" }] }]
      routing :=
        { defaultPool := "main"
          rules :=
            [{ methods := ["getLedgers"], pool := "main" },
              { methods := ["getEvents", "getLedgers"], pool := "fast" }] } }

/-- The later rule wins, and the earlier pool. -/
theorem validated_routes_repeated :
    validate repeatedSettings.config = .ok () ∧
      repeatedSettings.router.route "getLedgers" = "fast" ∧
      ∃ pool, ((createPools repeatedSettings.config 0).find? fun pool => pool.name == "fast") =
          some pool ∧
        pool.config.upstreams = [{ url := "http://node-b:8000", weight := 3 }] ∧
        ∀ upstream ∈ pool.upstreams, 1 ≤ upstream.weight := by
  have accepted : validate repeatedSettings.config = .ok () := rfl
  have isFast : repeatedSettings.router.route "getLedgers" = "fast" := by decide
  obtain ⟨configured, pool, found, isPool, isConfigured, -, weights⟩ :=
    (validated_routes accepted).2.1 "getLedgers" 0
  rw [isFast] at found isPool
  refine ⟨accepted, isFast, pool, isPool, ?_, weights⟩
  rw [isConfigured]
  cases found
  rfl

end SorobanGate
