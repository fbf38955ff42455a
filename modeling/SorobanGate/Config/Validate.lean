import SorobanGate.Config

/-!
# Validation

The checks that a configuration passes before the gateway starts, in the order in
which they are made.  The first one that fails decides the error.
-/

namespace SorobanGate

/-- `anyhow::ensure!`. -/
def ensure (condition : Bool) (message : String) : Except String Unit :=
  if condition then .ok () else .error message

@[simp] theorem ensure_eq_ok {condition : Bool} {message : String} :
    ensure condition message = .ok () ↔ condition = true := by
  cases condition <;> simp [ensure]

@[simp] theorem bind_eq_ok {first : Except String Unit} {second : Unit → Except String Unit} :
    (first >>= second) = .ok () ↔ first = .ok () ∧ second () = .ok () := by
  cases first with
  | error message => simp [bind, Except.bind]
  | ok value => simp [bind, Except.bind]

@[simp] theorem forM_eq_ok {α : Type} {check : α → Except String Unit} {items : List α} :
    forM items check = .ok () ↔ ∀ item ∈ items, check item = .ok () := by
  induction items with
  | nil => simp [pure, Except.pure]
  | cons item items ih =>
      rw [List.forM_cons, bind_eq_ok, ih]
      simp

/-- The URL of the Redis server is required by everything that is kept there. -/
def ensureRedisUrl (config : Config) (used : Bool) (user : String) : Except String Unit :=
  if used then
    ensure config.cache.redisUrl.isSome
      ("cache.redis_url is required when " ++ user ++ " is 'redis'")
  else .ok ()

@[simp] theorem ensureRedisUrl_eq_ok {config : Config} {used : Bool} {user : String} :
    ensureRedisUrl config used user = .ok () ↔
      (config.cache.redisUrl = none → used = false) := by
  cases used with
  | false => simp [ensureRedisUrl]
  | true => simp [ensureRedisUrl, Option.isSome_iff_ne_none]

def validate (config : Config) : Except String Unit := do
  ensure (!config.pools.isEmpty) "At least one upstream pool is required"
  forM config.pools fun pool => do
    ensure (!pool.upstreams.isEmpty) ("Pool '" ++ pool.name ++ "' has no upstreams defined")
    forM pool.upstreams fun upstream =>
      ensure (0 < upstream.weight)
        ("Upstream '" ++ upstream.url ++ "' in pool '" ++ pool.name ++ "' must have weight > 0")
  ensure (0 < config.healthCheck.healthyThreshold) "health_check.healthy_threshold must be > 0"
  ensure (0 < config.healthCheck.unhealthyThreshold)
    "health_check.unhealthy_threshold must be > 0"
  ensure (!config.healthCheck.method.isEmpty) "health_check.method must not be empty"
  let poolNames := config.pools.map PoolConfig.name
  ensure (poolNames.contains config.routing.defaultPool)
    ("routing.default_pool '" ++ config.routing.defaultPool ++
      "' does not match any defined pool")
  forM config.routing.rules fun rule => do
    ensure (!rule.methods.isEmpty)
      ("Routing rule for pool '" ++ rule.pool ++ "' has no methods defined")
    ensure (poolNames.contains rule.pool)
      ("Routing rule references unknown pool '" ++ rule.pool ++ "'")
  ensureRedisUrl config (config.cache.enabled && config.cache.backend == .redis) "cache backend"
  ensureRedisUrl config (config.rateLimit.enabled && config.rateLimit.store == .redis)
    "rate_limit store"
  ensureRedisUrl config (config.auth.enabled && config.auth.keyStore == .redis) "auth key_store"

/-- What the checks establish. -/
structure Config.Valid (config : Config) : Prop where
  hasPool : config.pools ≠ []
  hasUpstreams : ∀ pool ∈ config.pools, pool.upstreams ≠ []
  weights : ∀ pool ∈ config.pools, ∀ upstream ∈ pool.upstreams, 0 < upstream.weight
  healthyThreshold : 0 < config.healthCheck.healthyThreshold
  unhealthyThreshold : 0 < config.healthCheck.unhealthyThreshold
  healthMethod : config.healthCheck.method ≠ ""
  defaultPool : ∃ pool ∈ config.pools, pool.name = config.routing.defaultPool
  hasMethods : ∀ rule ∈ config.routing.rules, rule.methods ≠ []
  knownPool : ∀ rule ∈ config.routing.rules, ∃ pool ∈ config.pools, pool.name = rule.pool
  cacheUrl : config.cache.redisUrl = none → config.cache.enabled = true →
    config.cache.backend ≠ .redis
  rateLimitUrl : config.cache.redisUrl = none → config.rateLimit.enabled = true →
    config.rateLimit.store ≠ .redis
  authUrl : config.cache.redisUrl = none → config.auth.enabled = true →
    config.auth.keyStore ≠ .redis

/-- Validation accepts exactly the configurations that meet all the checks. -/
theorem validate_iff (config : Config) : validate config = .ok () ↔ config.Valid := by
  simp only [validate, bind_eq_ok, forM_eq_ok, ensure_eq_ok, ensureRedisUrl_eq_ok,
    Bool.not_eq_true', List.isEmpty_eq_false_iff, String.isEmpty_eq_false_iff, decide_eq_true_eq,
    List.contains_iff_mem, List.mem_map, Bool.and_eq_false_imp, beq_eq_false_iff_ne]
  constructor
  · intro checks
    obtain ⟨hasPool, pools, healthy, unhealthy, method, defaultPool, rules, cacheUrl,
      rateLimitUrl, authUrl⟩ := checks
    exact ⟨hasPool, fun pool member => (pools pool member).1,
      fun pool member => (pools pool member).2, healthy, unhealthy, method, defaultPool,
      fun rule member => (rules rule member).1, fun rule member => (rules rule member).2,
      cacheUrl, rateLimitUrl, authUrl⟩
  · intro valid
    exact ⟨valid.hasPool,
      fun pool member => ⟨valid.hasUpstreams pool member, valid.weights pool member⟩,
      valid.healthyThreshold, valid.unhealthyThreshold, valid.healthMethod, valid.defaultPool,
      fun rule member => ⟨valid.hasMethods rule member, valid.knownPool rule member⟩,
      valid.cacheUrl, valid.rateLimitUrl, valid.authUrl⟩

end SorobanGate
