import SorobanGate.Gateway.Connections
import SorobanGate.Gateway.Routing

/-!
# Balancing on a running gateway

How the selections of a run spread over the upstreams of a pool, with requests, health
checks and admin operations in between.  As long as the same upstreams are available,
round robin goes round; least connections looks at what is being forwarded.
-/

namespace SorobanGate

/-! ## One selection -/

/-- One turn of a pool: the position of every available upstream, as often as its weight. -/
def UpstreamPool.turn (pool : UpstreamPool) : List Nat :=
  (Expansion.expand share pool.healthyUpstreams).map Prod.snd

/-- The part of a pool that a selection can change, and how it does. -/
def UpstreamPool.balancing (pool : UpstreamPool) : LoadBalancingAlgorithm × UInt64 :=
  (pool.algorithm, pool.wrrCounter)

theorem UpstreamPool.selectUpstream_wrr {pool : UpstreamPool} {draw : Nat} {handle : Handle}
    (isWrr : pool.algorithm = .wrr) (selected : (pool.selectUpstream draw).2 = some handle) :
    pool.turn[pool.wrrCounter.toNat % pool.turn.length]? = some handle.2 ∧
      (pool.selectUpstream draw).1.balancing = (.wrr, pool.wrrCounter + 1) := by
  have nonempty : pool.healthyUpstreams ≠ [] := by
    intro empty
    rw [selectUpstream_of_empty draw empty] at selected
    cases selected
  obtain ⟨place, isPlace, isResult⟩ := weightedRoundRobin_eq nonempty pool.wrrCounter
  have turns : pool.turn =
      (weightedPositions pool.healthyUpstreams).map fun place =>
        (pool.healthyUpstreams.get place).2 := by
    have viewed := @Expansion.map_expand Handle share _ pool.healthyUpstreams.get
      (List.finRange pool.healthyUpstreams.length)
    rw [List.map_get_finRange] at viewed
    rw [turn, ← viewed, weightedPositions_eq_expand, List.map_map]
    rfl
  unfold selectUpstream at selected ⊢
  simp only [List.isEmpty_iff, nonempty, if_false, select, isWrr, isResult,
    Option.some.injEq] at selected ⊢
  subst selected
  refine ⟨?_, rfl⟩
  unfold weightedIndex at isPlace
  dsimp only at isPlace
  rw [turns, List.length_map, List.getElem?_map, isPlace, Option.map_some]

namespace AppState

variable {settings : Settings} {app : AppState} {now : Instant}

/-- The algorithms and counters of all pools. -/
def balancing (app : AppState) : List (LoadBalancingAlgorithm × UInt64) :=
  app.pools.map UpstreamPool.balancing

theorem balancing_modifyUpstream (target : UpstreamRef)
    (change : UpstreamState → UpstreamState) :
    (app.modifyUpstream target change).balancing = app.balancing := by
  apply map_modify_of_kept
  intro pool
  rfl

theorem balancing_receive (body : Option Bytes) :
    (app.receive settings body now).1.balancing = app.balancing := by
  unfold receive
  split
  · rfl
  · split <;> rfl

theorem balancing_handle (request : ProxyRequest) (target : UpstreamRef)
    (result : ForwardResult) :
    (app.handle settings request target result now).1.balancing = app.balancing := by
  cases result with
  | ok reply => simp only [balancing, pools_handle_ok]
  | error message => exact balancing_modifyUpstream target (recordFailure now)

end AppState

namespace Gateway

variable {settings : Settings} {gateway next first : Gateway} {timed : Timed} {index : Nat}

/-- The positions that a step selects in a pool. -/
def picks (index : Nat) (gateway : Gateway) (timed : Timed) : List Nat :=
  match timed.event with
  | .resume request (.select draw) =>
      match gateway.requests[request]? with
      | some (.routed routed) =>
          match (gateway.app.selectUpstream routed draw).2 with
          | .selected _ target => if target.pool = index then [target.index] else []
          | _ => []
      | _ => []
  | _ => []

/-- Inversion: a step that selects nothing in a pool leaves its counter alone, and a step
that selects something makes one selection from the pool as it is. -/
theorem picks_cases (stepped : step settings gateway timed = some next) (index : Nat) :
    (picks index gateway timed = [] ∧
        next.app.balancing[index]? = gateway.app.balancing[index]?) ∨
      ∃ pool draw handle, gateway.app.pools[index]? = some pool ∧
        (pool.selectUpstream draw).2 = some handle ∧ picks index gateway timed = [handle.2] ∧
        next.app.balancing[index]? = some (pool.selectUpstream draw).1.balancing := by
  obtain ⟨now, event⟩ := timed
  cases event with
  | receive body =>
      obtain ⟨-, rfl⟩ := step_receive_iff.mp stepped
      exact Or.inl ⟨rfl, by rw [AppState.balancing_receive]⟩
  | resume request action =>
      obtain ⟨-, phase, reached, found, advanced, rfl⟩ := step_resume_iff.mp stepped
      rcases Phase.advance_cases advanced with
        ⟨routed, draw, rfl, rfl, rfl⟩ | ⟨routed, target, rfl, rfl, rfl⟩ |
        ⟨routed, target, result, rfl, rfl, rfl⟩ | ⟨routed, target, rfl, rfl, rfl⟩ |
        ⟨routed, target, result, rfl, rfl, rfl⟩
      · rcases gateway.app.selectUpstream_inv routed draw with
          ⟨response, -, refused⟩ | ⟨pool, place, handle, isPool, -, chosen, turned⟩
        · exact Or.inl ⟨by simp [picks, found, refused], by rw [refused]⟩
        · by_cases here : place = index
          · subst here
            refine Or.inr ⟨pool, draw, handle, isPool, chosen, ?_, ?_⟩
            · simp [picks, found, turned]
            · simp [turned, AppState.balancing, (List.getElem?_eq_some_iff.mp isPool).1]
          · refine Or.inl ⟨by simp [picks, found, turned, here], ?_⟩
            simp [turned, AppState.balancing, List.getElem?_set_ne here]
      · exact Or.inl ⟨rfl, by rw [AppState.balancing_modifyUpstream]⟩
      · exact Or.inl ⟨rfl, by rw [AppState.balancing_modifyUpstream]⟩
      · exact Or.inl ⟨rfl, rfl⟩
      · exact Or.inl ⟨rfl, by rw [AppState.balancing_handle]⟩
  | background event =>
      obtain ⟨-, rfl⟩ := step_background_iff.mp stepped
      refine Or.inl ⟨rfl, ?_⟩
      cases event with
      | setHealth encodedUrl enable =>
          simp only [Background.apply, AppState.setUpstreamHealth]
          split
          · rw [AppState.balancing_modifyUpstream]
          · rfl
      | flush =>
          simp only [Background.apply, AppState.flushCache]
          split <;> rfl
      | evict slot => rfl
      | probe target elapsed result =>
          simp only [Background.apply, AppState.balancing_modifyUpstream]
      | markHealthy target => simp only [Background.apply, AppState.balancing_modifyUpstream]

/-! ## Round robin -/

/-- The positions that a run selects in a pool, in order. -/
def allPicks (settings : Settings) (index : Nat) (first : Gateway) (rest : List Timed) :
    List Nat :=
  Machine.trace (step settings) (picks index) first rest

/-- Whenever a run selects in a pool, the same upstreams are available there. -/
def Steady (settings : Settings) (index : Nat) (turn : List Nat) (first : Gateway)
    (rest : List Timed) : Prop :=
  Machine.Always (step settings)
    (fun gateway timed => picks index gateway timed ≠ [] →
      (gateway.app.pools[index]?).map UpstreamPool.turn = some turn) first rest

/-- The selections of a run follow the turn, from the place of the counter on. -/
theorem picks_follow_turn {turn : List Nat} {rest : List Timed} {counter : UInt64}
    (steady : Steady settings index turn first rest)
    (isWrr : first.app.balancing[index]? = some (.wrr, counter))
    (run : Machine.exec (step settings) first rest = some gateway) :
    gateway.app.balancing[index]? =
        some (.wrr, counter + .ofNat (allPicks settings index first rest).length) ∧
      ∀ place pick, (allPicks settings index first rest)[place]? = some pick →
        turn[(counter + .ofNat place).toNat % turn.length]? = some pick := by
  revert steady
  refine Machine.exec_history
    (fun rest (gateway : Gateway) => Steady settings index turn first rest →
      gateway.app.balancing[index]? =
          some (.wrr, counter + .ofNat (allPicks settings index first rest).length) ∧
        ∀ place pick, (allPicks settings index first rest)[place]? = some pick →
          turn[(counter + .ofNat place).toNat % turn.length]? = some pick) ?_ ?_ run
  · intro _
    refine ⟨by simp [isWrr, allPicks], fun place pick found => ?_⟩
    simp [allPicks] at found
  · intro rest gateway timed next prior ih stepped steady
    obtain ⟨atEnd, before⟩ := ih steady.init
    have extended : allPicks settings index first (rest ++ [timed]) =
        allPicks settings index first rest ++ picks index gateway timed :=
      Machine.trace_concat prior
    rcases picks_cases stepped index with
      ⟨nothing, kept⟩ | ⟨pool, draw, handle, isPool, selected, one, turned⟩
    · rw [extended, nothing, List.append_nil, kept]
      exact ⟨atEnd, before⟩
    · have isTurn := steady.last prior (by simp [one])
      rw [isPool, Option.map_some, Option.some.injEq] at isTurn
      have isBalancing : (pool.algorithm, pool.wrrCounter) =
          (.wrr, counter + .ofNat (allPicks settings index first rest).length) := by
        rw [AppState.balancing, List.getElem?_map, isPool, Option.map_some] at atEnd
        exact Option.some.inj atEnd
      obtain ⟨isAlgorithm, isCounter⟩ := Prod.mk.inj isBalancing
      obtain ⟨isPlace, after⟩ := pool.selectUpstream_wrr isAlgorithm selected
      rw [isTurn, isCounter] at isPlace
      rw [extended, one, turned, after, isCounter]
      refine ⟨?_, ?_⟩
      · rw [List.length_append, List.length_singleton, UInt64.ofNat_add, UInt64.add_assoc]
        rfl
      · intro place pick found
        rw [List.getElem?_append] at found
        split at found
        · exact before place pick found
        · obtain ⟨inside, rfl⟩ := List.getElem?_eq_some_iff.mp found
          have atLast : place = (allPicks settings index first rest).length := by
            rw [List.length_singleton] at inside
            omega
          rw [List.getElem_singleton, atLast, isPlace]

/-- Fair turns.  Take any stretch of a run in which the same upstreams of a round robin
pool are available whenever one of them is selected, and in which the counter does not
wrap.  However requests, health checks and admin operations are interleaved, as many
consecutive selections as one turn is long select every available upstream exactly as
often as its weight says. -/
theorem window_perm_turn {turn window earlier later : List Nat} {rest : List Timed}
    {counter : UInt64} (steady : Steady settings index turn first rest)
    (isWrr : first.app.balancing[index]? = some (.wrr, counter))
    (run : Machine.exec (step settings) first rest = some gateway)
    (fits : counter.toNat + (allPicks settings index first rest).length ≤ 2 ^ 64)
    (split : allPicks settings index first rest = earlier ++ window ++ later)
    (whole : window.length = turn.length) : window.Perm turn := by
  have follow := (picks_follow_turn steady isWrr run).2
  have rotated : window = turn.rotate (counter.toNat + earlier.length) := by
    refine List.ext_getElem? fun place => ?_
    by_cases inside : place < window.length
    · have found : (allPicks settings index first rest)[earlier.length + place]? =
          some window[place] := by
        rw [split, List.append_assoc, List.getElem?_append_right (Nat.le_add_right _ _),
          Nat.add_sub_cancel_left, List.getElem?_append_left inside,
          List.getElem?_eq_getElem inside]
      have small : earlier.length + place < (allPicks settings index first rest).length :=
        (List.getElem?_eq_some_iff.mp found).1
      have noWrap : (counter + UInt64.ofNat (earlier.length + place)).toNat =
          counter.toNat + (earlier.length + place) := by
        have bounded : earlier.length + place < 2 ^ 64 := by omega
        rw [UInt64.toNat_add, UInt64.toNat_ofNat_of_lt' bounded, Nat.mod_eq_of_lt (by omega)]
      have isPick := follow _ _ found
      rw [noWrap] at isPick
      rw [List.getElem?_eq_getElem inside, List.getElem?_rotate (whole ▸ inside), ← isPick]
      congr 2
      omega
    · rw [List.getElem?_eq_none (not_lt.mp inside),
        List.getElem?_eq_none (by rw [List.length_rotate, ← whole]; exact not_lt.mp inside)]
  rw [rotated]
  exact List.rotate_perm _ _

/-- The small gateway with an algorithm, and with a first upstream of weight two. -/
def balancedSettings (algorithm : LoadBalancingAlgorithm) : Settings :=
  { smallSettings [] with
    config :=
      { (smallSettings []).config with
        pools :=
          [{ name := "main"
             algorithm := algorithm
             upstreams :=
               [{ url := "http://node-a:8000", weight := 2 },
                 { url := "http://node-b:8000" }] }] } }

/-- Both upstreams are healthy, and a number of requests come in. -/
def arrivals (count : Nat) : List Timed :=
  [⟨0, .background (.markHealthy ⟨0, 0⟩)⟩, ⟨0, .background (.markHealthy ⟨0, 1⟩)⟩] ++
    List.replicate count ⟨1, .receive (some (ledgerRequest 1).toBytes)⟩

/-- Four selections, of which the last three are a turn. -/
def fourSelections : List Timed :=
  arrivals 4 ++ [⟨2, .resume 0 (.select 0)⟩, ⟨2, .resume 1 (.select 0)⟩,
    ⟨2, .resume 2 (.select 0)⟩, ⟨2, .resume 3 (.select 0)⟩]

theorem window_perm_turn_weighted :
    allPicks (balancedSettings .wrr) 0 (init (balancedSettings .wrr) 0) fourSelections =
        [0, 0, 1, 0] ∧
      [0, 1, 0].Perm [0, 0, 1] := by
  have picked : allPicks (balancedSettings .wrr) 0 (init (balancedSettings .wrr) 0)
      fourSelections = [0, 0, 1, 0] := by
    decide +kernel
  have runs : (Machine.exec (step (balancedSettings .wrr)) (init (balancedSettings .wrr) 0)
      fourSelections).isSome = true := by
    decide +kernel
  obtain ⟨gateway, run⟩ := Option.isSome_iff_exists.mp runs
  have steady : Steady (balancedSettings .wrr) 0 [0, 0, 1] (init (balancedSettings .wrr) 0)
      fourSelections :=
    Machine.always_of_trace (by decide +kernel)
  exact ⟨picked, window_perm_turn steady rfl run (by rw [picked]; decide) (picked.trans rfl :
    _ = [0] ++ [0, 1, 0] ++ []) rfl⟩

/-! ## Least connections -/

end Gateway

end SorobanGate
