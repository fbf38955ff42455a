import SorobanGate.Cache.Key
import SorobanGate.Cache.Memory
import SorobanGate.Metrics
import SorobanGate.Pool.Balancer

/-!
# Application state

What is fixed when the gateway starts, and what its handlers share and change
while it runs.
-/

namespace SorobanGate

/-- The configuration, and the functions of other crates that handlers call. -/
structure Settings where
  codec : Codec
  /-- Whether the text of a URL parses. -/
  uriValid : String → Bool
  config : Config

namespace Settings

variable (settings : Settings)

def router : Router := .new settings.config.routing

def cacheTtlTable : TtlTable := .new settings.config.cache.rules

end Settings

/-- The shared parts that change. -/
structure AppState where
  pools : List UpstreamPool
  cache : Option MemoryCache
  metrics : Option Metrics

def buildState (settings : Settings) (now : Instant) : AppState where
  pools := createPools settings.config now
  cache :=
    if settings.config.cache.enabled then some (.new settings.config.cache.maxMemoryMb)
    else none
  metrics := if settings.config.telemetry.metricsEnabled then some .new else none

/-- Where an upstream is: its pool, and its position in that pool. -/
structure UpstreamRef where
  pool : Nat
  index : Nat
  deriving DecidableEq, Repr

namespace AppState

def upstream? (app : AppState) (target : UpstreamRef) : Option UpstreamState :=
  app.pools[target.pool]?.bind fun pool => pool.upstreams[target.index]?

/-- Act on the upstream that a reference stands for. -/
def modifyUpstream (target : UpstreamRef) (change : UpstreamState → UpstreamState)
    (app : AppState) : AppState :=
  { app with
    pools := app.pools.modify target.pool fun pool =>
      { pool with upstreams := pool.upstreams.modify target.index change } }

@[simp] theorem modifyUpstream_cache (target : UpstreamRef)
    (change : UpstreamState → UpstreamState) (app : AppState) :
    (app.modifyUpstream target change).cache = app.cache := rfl

theorem upstream?_modifyUpstream (target other : UpstreamRef)
    (change : UpstreamState → UpstreamState) (app : AppState) :
    (app.modifyUpstream target change).upstream? other =
      if target = other then (app.upstream? other).map change else app.upstream? other := by
  obtain ⟨pool, index⟩ := target
  obtain ⟨otherPool, otherIndex⟩ := other
  simp only [upstream?, modifyUpstream, List.getElem?_modify, UpstreamRef.mk.injEq]
  cases app.pools[otherPool]? with
  | none => by_cases same : pool = otherPool ∧ index = otherIndex <;> simp
  | some found =>
      by_cases samePool : pool = otherPool
      · by_cases sameIndex : index = otherIndex <;>
          simp [samePool, sameIndex]
      · simp [samePool]

theorem upstream?_set (app : AppState) {index : Nat} {before after : UpstreamPool}
    (found : app.pools[index]? = some before) (same : after.upstreams = before.upstreams)
    (target : UpstreamRef) :
    ({ app with pools := app.pools.set index after } : AppState).upstream? target =
      app.upstream? target := by
  simp only [upstream?, List.getElem?_set]
  by_cases here : index = target.pool
  · have inside : index < app.pools.length := (List.getElem?_eq_some_iff.mp found).1
    subst here
    rw [if_pos rfl, if_pos inside, found, Option.bind_some, Option.bind_some, same]
  · simp [here]

/-- Every upstream starts with a closed breaker and no connections. -/
theorem upstream?_buildState {settings : Settings} {now : Instant} {target : UpstreamRef}
    {upstream : UpstreamState}
    (found : (buildState settings now).upstream? target = some upstream) :
    upstream.mutable.circuitBreaker = .default now ∧ upstream.connectionCount = 0 := by
  simp only [upstream?, buildState, createPools, Option.bind_eq_some_iff] at found
  obtain ⟨pool, isPool, found⟩ := found
  obtain ⟨poolConfig, -, rfl⟩ := List.mem_map.mp (List.mem_of_getElem? isPool)
  obtain ⟨upstreamConfig, -, rfl⟩ := List.mem_map.mp (List.mem_of_getElem? found)
  exact ⟨rfl, rfl⟩

end AppState

end SorobanGate
