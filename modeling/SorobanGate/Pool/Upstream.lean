import SorobanGate.Config
import SorobanGate.Pool.CircuitBreaker

/-!
# Upstream state

What the gateway keeps for one upstream node: the fields behind its mutex, its
connection counter and its last measured latency.
-/

namespace SorobanGate

inductive HealthStatus where
  | healthy
  | unhealthy
  deriving DecidableEq, Repr

/-- The fields behind the mutex of an upstream. -/
structure UpstreamMutableState where
  health : HealthStatus
  circuitBreaker : CircuitBreaker
  consecutiveSuccesses : UInt32
  consecutiveFailures : UInt32
  deriving DecidableEq, Repr

structure UpstreamState where
  poolName : String
  url : String
  weight : UInt32
  maxConnections : Option UInt32
  mutable : UpstreamMutableState
  /-- An `AtomicI64` wraps at 2^63.  This counter stays between zero and the number of forwards
  so far, which cannot get there. -/
  connectionCount : Int
  latencyNs : UInt64
  deriving DecidableEq, Repr

/-- The breaker every upstream starts with: five failures, thirty seconds. -/
def CircuitBreaker.default (now : Instant) : CircuitBreaker :=
  .new 5 (.fromSecs 30) now

namespace UpstreamState

def new (poolName url : String) (weight : UInt32) (maxConnections : Option UInt32)
    (now : Instant) : UpstreamState where
  poolName := poolName
  url := url
  weight := weight
  maxConnections := maxConnections
  mutable :=
    { health := .unhealthy
      circuitBreaker := .default now
      consecutiveSuccesses := 0
      consecutiveFailures := 0 }
  connectionCount := 0
  latencyNs := 0

def isAvailable (upstream : UpstreamState) : Bool :=
  upstream.mutable.health == .healthy && upstream.mutable.circuitBreaker.isAvailable

def incrementConnectionCount (upstream : UpstreamState) : UpstreamState :=
  { upstream with connectionCount := upstream.connectionCount + 1 }

def decrementConnectionCount (upstream : UpstreamState) : UpstreamState :=
  { upstream with connectionCount := upstream.connectionCount - 1 }

def activeConnections (upstream : UpstreamState) : Int := upstream.connectionCount

def latencyUs (upstream : UpstreamState) : UInt64 := upstream.latencyNs / 1000

/-- Change the fields behind the mutex. -/
def modifyMutable (change : UpstreamMutableState → UpstreamMutableState)
    (upstream : UpstreamState) : UpstreamState :=
  { upstream with mutable := change upstream.mutable }

/-- An upstream whose breaker is open is not available. -/
theorem not_isAvailable_of_open {upstream : UpstreamState}
    (isOpen : upstream.mutable.circuitBreaker.state = .«open») :
    upstream.isAvailable = false := by
  simp [isAvailable, CircuitBreaker.isAvailable, isOpen]

end UpstreamState

end SorobanGate
