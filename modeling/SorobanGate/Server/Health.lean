import SorobanGate.Server.Response
import SorobanGate.Server.State

/-!
# Health handler

The answer to `GET /health`: how long the gateway has been up, and what it knows of
each upstream.  The handler only reads, and it answers in every state.
-/

namespace SorobanGate

/-! The names of the variants, as `{:?}` prints them. -/

def LoadBalancingAlgorithm.debug : LoadBalancingAlgorithm → String
  | .wrr => "Wrr"
  | .lc => "Lc"
  | .random => "Random"

def HealthStatus.debug : HealthStatus → String
  | .healthy => "Healthy"
  | .unhealthy => "Unhealthy"

def CircuitBreakerState.debug : CircuitBreakerState → String
  | .closed => "Closed"
  | .«open» => "Open"
  | .halfOpen => "HalfOpen"

/-- What the handler says about an upstream. -/
def UpstreamState.toJson (upstream : UpstreamState) : Json :=
  .object
    [("active_connections", .ofInt upstream.activeConnections),
      ("circuit_breaker", .string upstream.mutable.circuitBreaker.state.debug),
      ("health", .string upstream.mutable.health.debug),
      ("latency_us", .ofInt upstream.latencyUs.toNat),
      ("url", .string upstream.url),
      ("weight", .ofInt upstream.weight.toNat)]

/-- What it says about a pool. -/
def UpstreamPool.toJson (pool : UpstreamPool) : Json :=
  .object
    [("algorithm", .string pool.algorithm.debug),
      ("healthy_upstreams", .ofInt pool.healthyUpstreams.length),
      ("name", .string pool.name),
      ("total_upstreams", .ofInt pool.upstreams.length),
      ("upstreams", .array (pool.upstreams.map UpstreamState.toJson))]

def healthHandler (startTime : Instant) (app : AppState) (now : Instant) : Response :=
  .json 200 <| .object
    [("pools", .array (app.pools.map UpstreamPool.toJson)),
      ("status", .string "ok"),
      ("uptime_secs", .ofInt ((now - startTime) / 1000000000 : Nat)),
      ("version", .string "0.1.0")]

end SorobanGate
