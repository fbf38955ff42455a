import SorobanGate.Pool.Upstream
import Mathlib.Data.List.FinRange

/-!
# Pools and load balancing

A pool keeps its upstreams in configuration order.  A selection works on shared
handles to the available ones; a handle is an upstream together with its
position in the pool, so that the selected upstream can be acted on later.
-/

namespace SorobanGate

/-- A shared handle: an upstream as it is seen now, and where it is in its pool. -/
abbrev Handle := UpstreamState × Nat

/-- Each position of the list, as often as the weight of its upstream. -/
def weightedPositions (healthy : List Handle) : List (Fin healthy.length) :=
  (List.finRange healthy.length).flatMap fun i =>
    List.replicate (max (healthy.get i).1.weight 1).toNat i

/-- Positions and the counter stay in range, so neither index can be out of
bounds. -/
def weightedRoundRobin (healthy : List Handle) (counter : UInt64) :
    Option Handle × UInt64 :=
  if healthy.isEmpty then (none, counter)
  else
    let weighted := weightedPositions healthy
    if nonempty : 0 < weighted.length then
      let idx := weighted.get ⟨counter.toNat % weighted.length, Nat.mod_lt _ nonempty⟩
      (some (healthy.get idx), counter + 1)
    else (none, counter)

/-- The first of the upstreams with the fewest active connections. -/
def leastConnections (healthy : List Handle) : Option Handle :=
  healthy.minOn? fun handle => handle.1.activeConnections

/-- The draw of the random generator is reduced to the range it is asked for. -/
def random (healthy : List Handle) (draw : Nat) : Option Handle :=
  if nonempty : 0 < healthy.length then
    some (healthy.get ⟨draw % healthy.length, Nat.mod_lt _ nonempty⟩)
  else none

/-- Select with the configured algorithm; only round robin advances the counter. -/
def select (healthy : List Handle) (algorithm : LoadBalancingAlgorithm)
    (wrrCounter : UInt64) (draw : Nat) : Option Handle × UInt64 :=
  match algorithm with
  | .wrr => weightedRoundRobin healthy wrrCounter
  | .lc => (leastConnections healthy, wrrCounter)
  | .random => (random healthy draw, wrrCounter)

structure UpstreamPool where
  name : String
  upstreams : List UpstreamState
  algorithm : LoadBalancingAlgorithm
  wrrCounter : UInt64
  deriving DecidableEq, Repr

namespace UpstreamPool

def healthyUpstreams (pool : UpstreamPool) : List Handle :=
  pool.upstreams.zipIdx.filter fun handle => handle.1.isAvailable

/-- The selected upstream, and the pool with its counter advanced. -/
def selectUpstream (pool : UpstreamPool) (draw : Nat) : UpstreamPool × Option Handle :=
  let healthy := pool.healthyUpstreams
  if healthy.isEmpty then (pool, none)
  else
    let (selected, wrrCounter) := select healthy pool.algorithm pool.wrrCounter draw
    ({ pool with wrrCounter := wrrCounter }, selected)

end UpstreamPool

def createPools (config : Config) (now : Instant) : List UpstreamPool :=
  config.pools.map fun pool =>
    { name := pool.name
      upstreams := pool.upstreams.map fun upstream =>
        .new pool.name upstream.url upstream.weight upstream.maxConnections now
      algorithm := pool.algorithm
      wrrCounter := 0 }

/-! ## Selections come from the available upstreams -/

theorem mem_of_weightedRoundRobin {healthy : List Handle} {counter : UInt64}
    {selected : Handle} (chosen : (weightedRoundRobin healthy counter).1 = some selected) :
    selected ∈ healthy := by
  unfold weightedRoundRobin at chosen
  split at chosen
  · cases chosen
  · dsimp only at chosen
    split at chosen
    · cases chosen
      exact List.get_mem _ _
    · cases chosen

theorem mem_of_random {healthy : List Handle} {draw : Nat} {selected : Handle}
    (chosen : random healthy draw = some selected) : selected ∈ healthy := by
  unfold random at chosen
  split at chosen
  · cases chosen
    exact List.get_mem _ _
  · cases chosen

theorem mem_of_select {healthy : List Handle} {algorithm : LoadBalancingAlgorithm}
    {counter : UInt64} {draw : Nat} {selected : Handle}
    (chosen : (select healthy algorithm counter draw).1 = some selected) :
    selected ∈ healthy := by
  cases algorithm with
  | wrr => exact mem_of_weightedRoundRobin chosen
  | lc => exact List.minOn?_mem chosen
  | random => exact mem_of_random chosen

namespace UpstreamPool

variable {pool : UpstreamPool} {draw : Nat}

@[simp] theorem selectUpstream_upstreams :
    (pool.selectUpstream draw).1.upstreams = pool.upstreams := by
  unfold selectUpstream
  dsimp only
  split <;> rfl

/-- A selected upstream is the one at its position, and is available. -/
theorem isAvailable_of_selectUpstream {selected : Handle}
    (chosen : (pool.selectUpstream draw).2 = some selected) :
    pool.upstreams[selected.2]? = some selected.1 ∧ selected.1.isAvailable = true := by
  unfold selectUpstream at chosen
  dsimp only at chosen
  split at chosen
  · cases chosen
  · have member := mem_of_select chosen
    obtain ⟨inPool, available⟩ := List.mem_filter.mp member
    exact ⟨List.mem_zipIdx_iff_getElem?.mp inPool, available⟩

end UpstreamPool

end SorobanGate
