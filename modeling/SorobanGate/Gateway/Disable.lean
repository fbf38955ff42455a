import SorobanGate.Config.Validate
import SorobanGate.Gateway.Health
import SorobanGate.Pool.Selection

/-!
# Taking a node out

An admin operation names a node by its URL, and a node can be listed in several pools,
or several times in one.  The operation acts on the first entry only, so the others go
on receiving requests as long as they are available.
-/

namespace SorobanGate

namespace AppState

variable {app : AppState} {target : UpstreamRef} {upstream : UpstreamState} {url : String}

theorem mem_upstreams_iff :
    (upstream, target) ∈ app.upstreams ↔ app.upstream? target = some upstream := by
  obtain ⟨pool, index⟩ := target
  simp only [upstreams, upstream?, List.mem_flatMap, List.mem_map, Prod.mk.injEq,
    UpstreamRef.mk.injEq, Option.bind_eq_some_iff]
  constructor
  · rintro ⟨found, isPool, entry, isEntry, rfl, rfl, rfl⟩
    exact ⟨found.1, List.mem_zipIdx_iff_getElem?.mp isPool,
      List.mem_zipIdx_iff_getElem?.mp isEntry⟩
  · rintro ⟨found, isPool, isUpstream⟩
    exact ⟨(found, pool), List.mem_zipIdx_iff_getElem?.mpr isPool, (upstream, index),
      List.mem_zipIdx_iff_getElem?.mpr isUpstream, rfl, rfl, rfl⟩

theorem upstream?_of_locate (located : app.locate url = some target) :
    ∃ upstream, app.upstream? target = some upstream ∧ upstream.url = url := by
  obtain ⟨⟨upstream, found⟩, isFirst, rfl⟩ := Option.map_eq_some_iff.mp located
  refine ⟨upstream, mem_upstreams_iff.mp (List.mem_of_find?_eq_some isFirst), ?_⟩
  simpa using List.find?_some isFirst

theorem status_setUpstreamHealth {encodedUrl : String} {enable : Bool} {now : Instant} :
    (app.setUpstreamHealth encodedUrl enable now).2.status = 200 ↔
      ∃ target, app.locate (percentDecode encodedUrl) = some target := by
  unfold setUpstreamHealth
  dsimp only
  cases app.locate (percentDecode encodedUrl) with
  | none => simp [Response.json]
  | some target => simp [Response.json]

/-- No entry of a node is available. -/
def OutOfService (url : String) (app : AppState) : Prop :=
  ∀ target upstream, app.upstream? target = some upstream → upstream.url = url →
    upstream.isAvailable = false

theorem OutOfService.not_selected (out : app.OutOfService url) {pool : UpstreamPool}
    (isPool : pool ∈ app.pools) {draw : Nat} {handle : Handle}
    (chosen : (pool.selectUpstream draw).2 = some handle) : handle.1.url ≠ url := by
  intro isUrl
  obtain ⟨index, found⟩ := List.mem_iff_getElem?.mp isPool
  obtain ⟨isUpstream, available⟩ := UpstreamPool.isAvailable_of_selectUpstream chosen
  have isFound : app.upstream? ⟨index, handle.2⟩ = some handle.1 := by
    simp [upstream?, found, isUpstream]
  have unavailable := out _ _ isFound isUrl
  rw [available] at unavailable
  cases unavailable

end AppState

/-- A health check completes, the initial marking of the health check task included, or an
upstream is enabled. -/
def Event.revives : Event → Bool
  | .background (.probe _ _ _) | .background (.markHealthy _) => true
  | .background (.setHealth _ enable) => enable
  | _ => false

/-- The notices that can make an upstream available. -/
def Notice.revives : Notice → Bool
  | .probed _ | .marked => true
  | .forced _ enable => enable
  | .started | .returned | .completed _ _ => false

theorem Notice.isAvailable_receive {settings : Settings} {notice : Notice}
    {upstream : UpstreamState} (quiet : notice.revives = false)
    (unavailable : upstream.isAvailable = false) :
    (notice.receive settings upstream).isAvailable = false := by
  cases notice with
  | started => exact unavailable
  | returned => exact unavailable
  | completed now result =>
      cases result with
      | ok reply => exact unavailable
      | error message =>
          rw [← Bool.not_eq_true, UpstreamState.isAvailable_iff] at unavailable ⊢
          rintro ⟨healthy, notOpen⟩
          refine unavailable ⟨healthy, fun isOpen => notOpen ?_⟩
          -- A failure that finds the breaker open leaves it open.
          change (upstream.mutable.circuitBreaker.recordFailure now).state = _
          simp [CircuitBreaker.recordFailure, isOpen]
  | probed probe => cases quiet
  | marked => cases quiet
  | forced now enable =>
      obtain rfl : enable = false := quiet
      rfl

theorem Gateway.revives_of_notices {gateway : Gateway} {timed : Timed} {target : UpstreamRef}
    {notice : Notice} (told : notice ∈ gateway.notices target timed)
    (quiet : timed.event.revives = false) : notice.revives = false := by
  obtain ⟨now, event⟩ := timed
  cases event with
  | receive body => cases told
  | resume request action =>
      simp only [notices] at told
      split at told
      · unfold Phase.notices at told
        split at told
        · rw [(mem_notify.mp told).2]
          rfl
        · rw [(mem_notify.mp told).2]
          rfl
        · rw [(mem_notify.mp told).2]
          rfl
        · cases told
      · cases told
  | background event =>
      simp only [notices] at told
      cases event with
      | probe addressee elapsed result => cases quiet
      | markHealthy addressee => cases quiet
      | setHealth encodedUrl enable =>
          obtain rfl : enable = false := quiet
          simp only [Background.notices] at told
          split at told
          · rw [(mem_notify.mp told).2]
            rfl
          · cases told
      | flush => cases told
      | evict slot => cases told

namespace Gateway

variable {settings : Settings} {gateway next : Gateway} {timed : Timed} {url : String}

/-- A step that revives nothing leaves a node out of service. -/
theorem outOfService_of_step (out : gateway.app.OutOfService url)
    (quiet : timed.event.revives = false) (stepped : step settings gateway timed = some next) :
    next.app.OutOfService url := by
  intro target after found isUrl
  rw [upstream?_step stepped] at found
  obtain ⟨before, isBefore, isAfter⟩ := Option.map_eq_some_iff.mp found
  rcases gateway.notices_cases target timed with silent | ⟨notice, told, -⟩
  · rw [silent] at isAfter
    obtain rfl : before = after := isAfter
    exact out target before isBefore isUrl
  · rw [told] at isAfter
    obtain rfl : notice.receive settings before = after := isAfter
    rw [Notice.receive_url] at isUrl
    have isTold : notice ∈ gateway.notices target timed := told ▸ List.mem_singleton_self notice
    exact Notice.isAvailable_receive (revives_of_notices isTold quiet)
      (out target before isBefore isUrl)

theorem outOfService_of_run {final : Gateway} {events : List Timed}
    (out : gateway.app.OutOfService url) (quiet : ∀ timed ∈ events, timed.event.revives = false)
    (run : Machine.exec (step settings) gateway events = some final) :
    final.app.OutOfService url :=
  Machine.exec_invariant_within (fun reached => reached.app.OutOfService url)
    (fun _ _ _ quiet out stepped => outOfService_of_step out quiet stepped) quiet out run

/-- No other entry of the node than the first one is available. -/
def OthersOut (url : String) (app : AppState) : Prop :=
  ∀ target upstream, app.upstream? target = some upstream → upstream.url = url →
    app.locate url ≠ some target → upstream.isAvailable = false

/-- What a disabling does: the first entry of the node becomes unhealthy, and nothing else
changes. -/
theorem upstream?_of_disabled {now : Instant} {encodedUrl : String} {first : UpstreamRef}
    (located : gateway.app.locate (percentDecode encodedUrl) = some first)
    (stepped : step settings gateway ⟨now, .background (.setHealth encodedUrl false)⟩ = some next)
    (target : UpstreamRef) :
    next.app.upstream? target =
      if first = target then
        (gateway.app.upstream? target).map (AppState.forceHealth false now)
      else gateway.app.upstream? target := by
  rw [upstream?_step stepped]
  simp only [notices, Background.notices, located, notify]
  split
  · rfl
  · simp

/-- Disabling a node.  In every state a disabling that succeeds leaves every upstream with
another URL as it is.  If no entry of the node other than the first one was available, then
until the next health check completes or an upstream is enabled no pool selects the node;
otherwise the node is still available. -/
theorem disable_takes_out {now : Instant} {encodedUrl : String}
    (succeeds : (gateway.app.setUpstreamHealth encodedUrl false now).2.status = 200)
    (stepped : step settings gateway ⟨now, .background (.setHealth encodedUrl false)⟩ =
      some next) :
    (∀ target upstream, gateway.app.upstream? target = some upstream →
      upstream.url ≠ percentDecode encodedUrl → next.app.upstream? target = some upstream) ∧
    (OthersOut (percentDecode encodedUrl) gateway.app →
      ∀ rest final, (∀ timed ∈ rest, timed.event.revives = false) →
        Machine.exec (step settings) next rest = some final →
        ∀ pool ∈ final.app.pools, ∀ draw handle,
          (pool.selectUpstream draw).2 = some handle →
          handle.1.url ≠ percentDecode encodedUrl) ∧
    (¬ OthersOut (percentDecode encodedUrl) gateway.app →
      ∃ target upstream, next.app.upstream? target = some upstream ∧
        upstream.url = percentDecode encodedUrl ∧ upstream.isAvailable = true) := by
  obtain ⟨first, located⟩ := AppState.status_setUpstreamHealth.mp succeeds
  have changed := upstream?_of_disabled located stepped
  refine ⟨?_, ?_, ?_⟩
  · intro target upstream found otherUrl
    rw [changed, if_neg, found]
    rintro rfl
    obtain ⟨isFirst, atFirst, isUrl⟩ := AppState.upstream?_of_locate located
    obtain rfl := Option.some.inj (atFirst.symm.trans found)
    exact otherUrl isUrl
  · intro othersOut rest final quiet continued pool isPool draw handle chosen
    have out : next.app.OutOfService (percentDecode encodedUrl) := by
      intro target upstream found isUrl
      rw [changed] at found
      split at found
      · obtain ⟨before, -, rfl⟩ := Option.map_eq_some_iff.mp found
        rfl
      next other =>
        refine othersOut target upstream found isUrl fun isFirst => other ?_
        exact Option.some.inj (located.symm.trans isFirst)
    exact (outOfService_of_run out quiet continued).not_selected isPool chosen
  · intro someAvailable
    unfold OthersOut at someAvailable
    push Not at someAvailable
    obtain ⟨target, upstream, found, isUrl, other, available⟩ := someAvailable
    refine ⟨target, upstream, ?_, isUrl, Bool.eq_true_of_not_eq_false available⟩
    rw [changed, if_neg, found]
    rintro rfl
    exact other located

/-- One node for all pools. -/
def sharedSettings : Settings :=
  { smallSettings [] with
    config :=
      { pools :=
          [{ name := "main", upstreams := [{ url := "http://node-a:8000" }] },
            { name := "archive", upstreams := [{ url := "http://node-a:8000" }] }]
        routing := { defaultPool := "main" } } }

/-- The initial marking of the upstreams. -/
def marking (targets : List UpstreamRef) : List Timed :=
  targets.map fun target => ⟨0, .background (.markHealthy target)⟩

/-- A node that is listed once is taken out. -/
theorem disable_takes_out_small :
    ∃ gateway next, Run (smallSettings []) 0 (marking [⟨0, 0⟩, ⟨0, 1⟩]) gateway ∧
      step (smallSettings []) gateway
        ⟨0, .background (.setHealth "http://node-a:8000" false)⟩ = some next ∧
      ∀ pool ∈ next.app.pools, ∀ draw handle,
        (pool.selectUpstream draw).2 = some handle →
        handle.1.url ≠ percentDecode "http://node-a:8000" := by
  have computed : (Machine.exec (step (smallSettings [])) (init (smallSettings []) 0)
      (marking [⟨0, 0⟩, ⟨0, 1⟩])).map
        (fun gateway => (gateway.clock,
          (gateway.app.setUpstreamHealth "http://node-a:8000" false 0).2.status,
          gateway.app.upstreams.all fun (upstream, target) =>
            upstream.url ≠ percentDecode "http://node-a:8000" ∨
              gateway.app.locate (percentDecode "http://node-a:8000") = some target)) =
      some (0, 200, true) := by decide +kernel
  obtain ⟨gateway, run, isFinal⟩ := Option.map_eq_some_iff.mp computed
  simp only [Prod.mk.injEq] at isFinal
  obtain ⟨atStart, succeeds, once⟩ := isFinal
  have stepped : step (smallSettings []) gateway
      ⟨0, .background (.setHealth "http://node-a:8000" false)⟩ = some _ :=
    step_background_iff.mpr ⟨atStart.le, rfl⟩
  refine ⟨gateway, _, run, stepped, ?_⟩
  refine (disable_takes_out succeeds stepped).2.1 ?_ [] _ (by simp) rfl
  intro target upstream found isUrl other
  have := List.all_eq_true.mp once _ (AppState.mem_upstreams_iff.mpr found)
  simp [isUrl, other] at this

/-- A node that is listed in two pools is still selected from the second one. -/
theorem disabled_in_first_pool_only :
    validate sharedSettings.config = .ok () ∧
    ∃ gateway next, Run sharedSettings 0 (marking [⟨0, 0⟩, ⟨1, 0⟩]) gateway ∧
      (gateway.app.setUpstreamHealth "http://node-a:8000" false 0).2.status = 200 ∧
      step sharedSettings gateway
        ⟨0, .background (.setHealth "http://node-a:8000" false)⟩ = some next ∧
      ∃ pool ∈ next.app.pools, ∃ handle, (pool.selectUpstream 0).2 = some handle ∧
        handle.1.url = "http://node-a:8000" := by
  have computed : (Machine.exec (step sharedSettings) (init sharedSettings 0)
      (marking [⟨0, 0⟩, ⟨1, 0⟩])).bind
        (fun gateway => (step sharedSettings gateway
          ⟨0, .background (.setHealth "http://node-a:8000" false)⟩).map fun next =>
            ((gateway.app.setUpstreamHealth "http://node-a:8000" false 0).2.status,
              next.app.pools.map fun pool =>
                (pool.selectUpstream 0).2.map fun handle => handle.1.url)) =
      some (200, [none, some "http://node-a:8000"]) := by decide +kernel
  obtain ⟨gateway, run, isNext⟩ := Option.bind_eq_some_iff.mp computed
  obtain ⟨next, stepped, isFinal⟩ := Option.map_eq_some_iff.mp isNext
  simp only [Prod.mk.injEq] at isFinal
  obtain ⟨succeeds, chosen⟩ := isFinal
  refine ⟨by decide +kernel, gateway, next, run, succeeds, stepped, ?_⟩
  have member : some "http://node-a:8000" ∈ next.app.pools.map fun pool =>
      (pool.selectUpstream 0).2.map fun handle => handle.1.url := by
    rw [chosen]
    simp
  obtain ⟨pool, isPool, isChosen⟩ := List.mem_map.mp member
  obtain ⟨handle, found, isUrl⟩ := Option.map_eq_some_iff.mp isChosen
  exact ⟨pool, isPool, handle, found, isUrl⟩

end Gateway

end SorobanGate
