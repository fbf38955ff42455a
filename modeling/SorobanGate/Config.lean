import SorobanGate.Basic

/-!
# Configuration

The sections of the configuration file that the gateway's logic reads.  Field
defaults are the ones used when the file leaves a field out.
-/

namespace SorobanGate

inductive LoadBalancingAlgorithm where
  | wrr
  | lc
  | random
  deriving DecidableEq, Repr

inductive RateLimitStore where
  | memory
  | redis
  deriving DecidableEq, Repr

/-- The `KeyStore` of the configuration. -/
inductive KeyStoreKind where
  | sqlite
  | redis
  deriving DecidableEq, Repr

inductive CacheBackend where
  | memory
  | redis
  deriving DecidableEq, Repr

structure UpstreamConfig where
  url : String
  weight : UInt32 := 1
  maxConnections : Option UInt32 := none
  deriving DecidableEq, Repr

structure PoolConfig where
  name : String
  algorithm : LoadBalancingAlgorithm := .wrr
  upstreams : List UpstreamConfig := []
  deriving DecidableEq, Repr

structure HealthCheckConfig where
  intervalMs : UInt64 := 5000
  healthyThreshold : UInt32 := 2
  unhealthyThreshold : UInt32 := 3
  method : String := "getHealth"
  deriving DecidableEq, Repr

structure RoutingRule where
  methods : List String
  pool : String
  deriving DecidableEq, Repr

structure RoutingConfig where
  defaultPool : String := "default"
  rules : List RoutingRule := []
  deriving DecidableEq, Repr

structure RateLimitConfig where
  enabled : Bool := true
  store : RateLimitStore := .memory
  ipFallbackRps : UInt32 := 5
  ipFallbackBurst : UInt32 := 10
  deriving DecidableEq, Repr

structure KeyTier where
  name : String
  requestsPerSecond : UInt32
  burst : UInt32
  deriving DecidableEq, Repr

structure AuthConfig where
  enabled : Bool := true
  allowUnauthenticated : Bool := true
  keyStore : KeyStoreKind := .sqlite
  tiers : List KeyTier := []
  deriving DecidableEq, Repr

structure CacheRule where
  methods : List String
  ttlSecs : UInt64 := 0
  deriving DecidableEq, Repr

structure CacheConfig where
  enabled : Bool := true
  backend : CacheBackend := .memory
  redisUrl : Option String := none
  maxMemoryMb : UInt64 := 512
  rules : List CacheRule := []
  deriving DecidableEq, Repr

structure TelemetryConfig where
  metricsEnabled : Bool := true
  deriving DecidableEq, Repr

structure Config where
  pools : List PoolConfig := []
  healthCheck : HealthCheckConfig := {}
  routing : RoutingConfig := {}
  rateLimit : RateLimitConfig := {}
  auth : AuthConfig := {}
  cache : CacheConfig := {}
  telemetry : TelemetryConfig := {}
  deriving DecidableEq, Repr

end SorobanGate
