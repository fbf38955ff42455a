import SorobanGate.Gateway.Step

/-!
# What a run does to one upstream

Seen from one upstream a step of the gateway is a list of notices, and nothing
else in the step matters to it.  Every fact about the breaker, the status or the
connection counter of an upstream over a run starts from here.
-/

namespace SorobanGate

/-- What an upstream can be told. -/
inductive Notice where
  | started
  | returned
  | completed (now : Instant) (result : ForwardResult)
  | probed (probe : Probe)
  | marked
  | forced (now : Instant) (enable : Bool)

/-- What an upstream makes of a notice.  A forward that completes with a response
leaves no mark: only errors are recorded. -/
def Notice.receive (settings : Settings) (upstream : UpstreamState) : Notice → UpstreamState
  | .started => upstream.incrementConnectionCount
  | .returned => upstream.decrementConnectionCount
  | .completed _ (.ok _) => upstream
  | .completed now (.error _) => AppState.recordFailure now upstream
  | .probed probe =>
      checkUpstream settings.uriValid settings.config.healthCheck probe upstream
  | .marked => upstream.markHealthy
  | .forced now enable => AppState.forceHealth enable now upstream

/-- Address a notice. -/
def notify (target addressee : UpstreamRef) (notice : Notice) : List Notice :=
  if addressee = target then [notice] else []

@[simp] theorem mem_notify {target addressee : UpstreamRef} {told notice : Notice} :
    told ∈ notify target addressee notice ↔ addressee = target ∧ told = notice := by
  unfold notify
  split <;> simp_all

/-- What an upstream is told when an invocation goes on. -/
def Phase.notices (target : UpstreamRef) (now : Instant) : Phase → Action → List Notice
  | .selected _ addressee, .forward => notify target addressee .started
  | .forwarding _ addressee, .«return» _ => notify target addressee .returned
  | .returned _ addressee result, .handle => notify target addressee (.completed now result)
  | _, _ => []

def Background.notices (target : UpstreamRef) (now : Instant) (app : AppState) :
    Background → List Notice
  | .probe addressee elapsed result => notify target addressee (.probed ⟨now, elapsed, result⟩)
  | .markHealthy addressee => notify target addressee .marked
  | .setHealth encodedUrl enable =>
      match app.locate (percentDecode encodedUrl) with
      | some addressee => notify target addressee (.forced now enable)
      | none => []
  | _ => []

/-- What a step of the gateway tells an upstream. -/
def Gateway.notices (target : UpstreamRef) (gateway : Gateway) (timed : Timed) : List Notice :=
  match timed.event with
  | .receive _ => []
  | .resume request action =>
      match gateway.requests[request]? with
      | some phase => phase.notices target timed.time action
      | none => []
  | .background event => event.notices target timed.time gateway.app

/-! ## The handler, seen from one upstream -/

variable {settings : Settings} {app : AppState} {target : UpstreamRef} {now : Instant}

namespace AppState

@[simp] theorem upstream?_receive (body : Option Bytes) :
    (app.receive settings body now).1.upstream? target = app.upstream? target := by
  unfold receive
  split
  · rfl
  · split <;> rfl

theorem upstream?_modifyUpstream_notify (addressee : UpstreamRef) (notice : Notice) :
    (app.modifyUpstream addressee fun upstream => notice.receive settings upstream).upstream?
        target =
      (app.upstream? target).map
        ((notify target addressee notice).foldl (Notice.receive settings)) := by
  rw [upstream?_modifyUpstream]
  unfold notify
  split
  · rfl
  · simp

theorem upstream?_selectUpstream (request : ProxyRequest) (draw : Nat) :
    (app.selectUpstream request draw).1.upstream? target = app.upstream? target := by
  rcases app.selectUpstream_inv request draw with
    ⟨response, -, refused⟩ | ⟨pool, index, handle, isPool, -, -, turned⟩
  · rw [refused]
  · rw [turned]
    exact upstream?_set app isPool UpstreamPool.selectUpstream_upstreams target

theorem isAvailable_of_selectUpstream {request request' : ProxyRequest} {draw : Nat}
    (selected : (app.selectUpstream request draw).2 = .selected request' target) :
    ∃ upstream, app.upstream? target = some upstream ∧ upstream.isAvailable = true := by
  rcases app.selectUpstream_inv request draw with
    ⟨response, -, refused⟩ | ⟨pool, index, handle, isPool, -, chosen, turned⟩
  · rw [refused] at selected
    cases selected
  · rw [turned] at selected
    cases selected
    obtain ⟨isUpstream, available⟩ := UpstreamPool.isAvailable_of_selectUpstream chosen
    exact ⟨handle.1, by simp [upstream?, isPool, isUpstream], available⟩

theorem pools_handle_ok (request : ProxyRequest) (addressee : UpstreamRef) (reply : Reply) :
    (app.handle settings request addressee (.ok reply) now).1.pools = app.pools := by
  simp only [handle]
  split
  · rfl
  next stored done =>
    have kept := congrArg AppState.pools (eq_of_store done)
    exact kept

theorem upstream?_handle (request : ProxyRequest) (addressee : UpstreamRef)
    (result : ForwardResult) :
    (app.handle settings request addressee result now).1.upstream? target =
      (app.upstream? target).map
        ((notify target addressee (.completed now result)).foldl (Notice.receive settings)) := by
  cases result with
  | ok reply =>
      have silent : (notify target addressee (.completed now (.ok reply))).foldl
          (Notice.receive settings) = id := by
        funext upstream
        unfold notify
        split <;> rfl
      rw [silent, Option.map_id]
      simp only [upstream?, pools_handle_ok, id]
  | error message =>
      exact upstream?_modifyUpstream_notify addressee (.completed now (.error message))

end AppState

theorem Phase.upstream?_advance {phase : Phase} {action : Action}
    {reached : AppState × Phase}
    (advanced : phase.advance settings now app action = some reached) :
    reached.1.upstream? target =
      (app.upstream? target).map
        ((phase.notices target now action).foldl (Notice.receive settings)) := by
  rcases Phase.advance_cases advanced with
    ⟨request, draw, rfl, rfl, rfl⟩ | ⟨request, addressee, rfl, rfl, rfl⟩ |
    ⟨request, addressee, result, rfl, rfl, rfl⟩ | ⟨request, addressee, rfl, rfl, rfl⟩ |
    ⟨request, addressee, result, rfl, rfl, rfl⟩
  · rw [AppState.upstream?_selectUpstream]
    simp [Phase.notices]
  · exact AppState.upstream?_modifyUpstream_notify addressee .started
  · exact AppState.upstream?_modifyUpstream_notify addressee .returned
  · simp [Phase.notices]
  · exact AppState.upstream?_handle request addressee result

theorem Background.upstream?_apply (event : Background) :
    (event.apply settings now app).upstream? target =
      (app.upstream? target).map
        ((event.notices target now app).foldl (Notice.receive settings)) := by
  cases event with
  | probe addressee elapsed result =>
      exact AppState.upstream?_modifyUpstream_notify addressee (.probed ⟨now, elapsed, result⟩)
  | markHealthy addressee => exact AppState.upstream?_modifyUpstream_notify addressee .marked
  | setHealth encodedUrl enable =>
      simp only [Background.apply, AppState.setUpstreamHealth, Background.notices]
      cases app.locate (percentDecode encodedUrl) with
      | none => simp
      | some addressee =>
          exact AppState.upstream?_modifyUpstream_notify addressee (.forced now enable)
  | flush =>
      simp only [Background.apply, AppState.flushCache, Background.notices]
      split <;> simp [AppState.upstream?]
  | evict slot => simp [Background.apply, Background.notices, AppState.upstream?]

/-- Seen from one upstream, a step of the gateway is what it tells it. -/
theorem Gateway.upstream?_step {gateway next : Gateway} {timed : Timed}
    (stepped : step settings gateway timed = some next) (target : UpstreamRef) :
    next.app.upstream? target =
      (gateway.app.upstream? target).map
        ((gateway.notices target timed).foldl (Notice.receive settings)) := by
  obtain ⟨now, event⟩ := timed
  cases event with
  | receive body =>
      obtain ⟨-, rfl⟩ := step_receive_iff.mp stepped
      simp [notices]
  | resume request action =>
      obtain ⟨-, phase, reached, found, advanced, rfl⟩ := step_resume_iff.mp stepped
      simp only [notices, found]
      exact Phase.upstream?_advance advanced
  | background event =>
      obtain ⟨-, rfl⟩ := step_background_iff.mp stepped
      exact event.upstream?_apply

/-- When a notice is dated, it carries this time. -/
def Notice.At (now : Instant) : Notice → Prop
  | .completed time _ | .forced time _ => time = now
  | .probed probe => probe.now = now
  | .started | .returned | .marked => True

/-- An upstream is told at most one thing in a step, at the time of the step. -/
theorem Gateway.notices_cases (target : UpstreamRef) (gateway : Gateway) (timed : Timed) :
    gateway.notices target timed = [] ∨
      ∃ notice, gateway.notices target timed = [notice] ∧ notice.At timed.time := by
  have addressed : ∀ addressee (notice : Notice), notice.At timed.time →
      notify target addressee notice = [] ∨
        ∃ told, notify target addressee notice = [told] ∧ told.At timed.time := by
    intro addressee notice dated
    unfold notify
    split
    · exact Or.inr ⟨notice, rfl, dated⟩
    · exact Or.inl rfl
  obtain ⟨now, event⟩ := timed
  cases event with
  | receive body => exact Or.inl rfl
  | resume request action =>
      simp only [notices]
      split
      · unfold Phase.notices
        split
        · exact addressed _ _ trivial
        · exact addressed _ _ trivial
        · exact addressed _ _ rfl
        · exact Or.inl rfl
      · exact Or.inl rfl
  | background event =>
      simp only [notices]
      unfold Background.notices
      split
      · exact addressed _ _ rfl
      · exact addressed _ _ trivial
      · split
        · exact addressed _ _ rfl
        · exact Or.inl rfl
      · exact Or.inl rfl

/-- The upstreams that a run works on are the ones it starts with. -/
theorem Gateway.exists_upstream_of_step {gateway next : Gateway} {timed : Timed}
    {upstream : UpstreamState} (stepped : step settings gateway timed = some next)
    (found : gateway.app.upstream? target = some upstream) :
    ∃ upstream', next.app.upstream? target = some upstream' := by
  rw [upstream?_step stepped, found]
  exact ⟨_, rfl⟩

end SorobanGate
