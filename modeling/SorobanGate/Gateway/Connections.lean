import SorobanGate.Gateway.Upstream

/-!
# In-flight accounting

The connection counter of an upstream counts the invocations being forwarded to
it together with those that were dropped while they waited: nothing ever takes
the latter off the counter again.
-/

namespace SorobanGate

/-- Invocations that are being forwarded to an upstream. -/
def Phase.forwardsTo (target : UpstreamRef) : Phase → Bool
  | .forwarding _ addressee => addressee = target
  | _ => false

/-- Invocations that were dropped while they waited for an upstream. -/
def Phase.droppedAt (target : UpstreamRef) : Phase → Bool
  | .dropped _ addressee => addressee = target
  | _ => false

/-- The upstream that an invocation has selected and not yet heard from. -/
def Phase.awaits : Phase → Option UpstreamRef
  | .selected _ target | .forwarding _ target => some target
  | _ => none

/-- What a notice does to the connection counter. -/
def Notice.connections : Notice → Int
  | .started => 1
  | .returned => -1
  | _ => 0

theorem countP_set_add {α : Type} (keep : α → Bool) {list : List α} {index : Nat}
    {old : α} (new : α) (found : list[index]? = some old) :
    (list.set index new).countP keep + (if keep old then 1 else 0) =
      list.countP keep + (if keep new then 1 else 0) := by
  induction list generalizing index with
  | nil => simp at found
  | cons head rest ih =>
      cases index with
      | zero =>
          simp only [List.getElem?_cons_zero, Option.some.injEq] at found
          subst found
          simp only [List.set_cons_zero, List.countP_cons]
          omega
      | succ index =>
          have step := ih (by simpa using found)
          simp only [List.set_cons_succ, List.countP_cons]
          omega

variable {settings : Settings} {now : Instant} {app : AppState}

theorem Notice.connectionCount_receive (notice : Notice) (upstream : UpstreamState) :
    (notice.receive settings upstream).connectionCount =
      upstream.connectionCount + notice.connections := by
  cases notice with
  | started => rfl
  | returned => rfl
  | completed time result => cases result <;> exact (add_zero _).symm
  | probed probe =>
      simp only [receive, checkUpstream, connections, add_zero]
      split
      · split <;> rfl
      · rfl
  | marked => exact (add_zero _).symm
  | forced time enable => exact (add_zero _).symm

/-! ## Invocations -/

theorem AppState.receive_awaits (settings : Settings) (now : Instant) (target : UpstreamRef)
    (body : Option Bytes) :
    (app.receive settings body now).2.awaits = none ∧
      (app.receive settings body now).2.forwardsTo target = false ∧
      (app.receive settings body now).2.droppedAt target = false := by
  rcases app.receive_cases settings body now with ⟨response, cached, arrives⟩ | ⟨_, arrives, -⟩
  · rw [arrives]
    exact ⟨rfl, rfl, rfl⟩
  · rw [arrives]
    exact ⟨rfl, rfl, rfl⟩

theorem AppState.selectUpstream_awaits (target : UpstreamRef) (request : ProxyRequest)
    (draw : Nat) :
    (app.selectUpstream request draw).2.forwardsTo target = false ∧
      (app.selectUpstream request draw).2.droppedAt target = false ∧
      ∀ awaited, (app.selectUpstream request draw).2.awaits = some awaited →
        ∃ upstream, app.upstream? awaited = some upstream := by
  rcases app.selectUpstream_cases request draw with ⟨response, reached⟩ | ⟨chosen, reached⟩
  · rw [reached]
    exact ⟨rfl, rfl, fun _ isAwaited => by cases isAwaited⟩
  · obtain ⟨upstream, found, -⟩ := isAvailable_of_selectUpstream reached
    rw [reached]
    refine ⟨rfl, rfl, ?_⟩
    rintro _ ⟨⟩
    exact ⟨upstream, found⟩

theorem AppState.handle_awaits (target : UpstreamRef) (request : ProxyRequest)
    (addressee : UpstreamRef) (result : ForwardResult) :
    (app.handle settings request addressee result now).2.awaits = none ∧
      (app.handle settings request addressee result now).2.forwardsTo target = false ∧
      (app.handle settings request addressee result now).2.droppedAt target = false := by
  rcases app.handle_cases settings request addressee result now with
    ⟨response, handled⟩ | handled
  · rw [handled]
    exact ⟨rfl, rfl, rfl⟩
  · rw [handled]
    exact ⟨rfl, rfl, rfl⟩

/-- The upstreams that invocations await exist. -/
def AppState.Knows (app : AppState) (phase : Phase) : Prop :=
  ∀ awaited, phase.awaits = some awaited → ∃ upstream, app.upstream? awaited = some upstream

/-- How often an invocation counts for an upstream: while it is forwarded to it, and
after it was dropped there. -/
def Phase.weight (target : UpstreamRef) (phase : Phase) : Int :=
  (if phase.forwardsTo target then 1 else 0) + (if phase.droppedAt target then 1 else 0)

/-- The connection counter moves with the invocation that goes on. -/
theorem Phase.weight_advance (target : UpstreamRef) {phase : Phase} {action : Action}
    {reached : AppState × Phase}
    (advanced : phase.advance settings now app action = some reached) :
    reached.2.weight target =
      phase.weight target + ((phase.notices target now action).map Notice.connections).sum := by
  have told : ∀ addressee notice, ((notify target addressee notice).map
      Notice.connections).sum = if addressee = target then notice.connections else 0 := by
    intro addressee notice
    unfold notify
    split <;> simp
  rcases advance_cases advanced with
    ⟨request, draw, rfl, rfl, rfl⟩ | ⟨request, addressee, rfl, rfl, rfl⟩ |
    ⟨request, addressee, result, rfl, rfl, rfl⟩ | ⟨request, addressee, rfl, rfl, rfl⟩ |
    ⟨request, addressee, result, rfl, rfl, rfl⟩
  · obtain ⟨notForwarding, notDropped, -⟩ := app.selectUpstream_awaits target request draw
    rw [weight, notForwarding, notDropped]
    rfl
  · simp [weight, notices, forwardsTo, droppedAt, told, Notice.connections]
  · by_cases here : addressee = target <;>
      simp [weight, notices, forwardsTo, droppedAt, told, Notice.connections, here]
  · simp [weight, notices, forwardsTo, droppedAt]
  · obtain ⟨-, notForwarding, notDropped⟩ :=
      app.handle_awaits target request addressee result
    rw [weight, notForwarding, notDropped]
    simp [weight, forwardsTo, droppedAt, notices, told, Notice.connections]

theorem Phase.droppedAt_advance (target : UpstreamRef) {phase : Phase} {action : Action}
    {reached : AppState × Phase}
    (advanced : phase.advance settings now app action = some reached)
    (notDrop : action ≠ .drop) : reached.2.droppedAt target = false := by
  obtain ⟨app', phase'⟩ := reached
  cases follows_of_advance advanced with
  | dropped => exact absurd rfl notDrop
  | _ => rfl

theorem AppState.Knows.advance {phase : Phase} {action : Action} {reached : AppState × Phase}
    (knows : app.Knows phase) (advanced : phase.advance settings now app action = some reached) :
    app.Knows reached.2 := by
  rcases Phase.advance_cases advanced with
    ⟨request, draw, rfl, rfl, rfl⟩ | ⟨request, addressee, rfl, rfl, rfl⟩ |
    ⟨request, addressee, result, rfl, rfl, rfl⟩ | ⟨request, addressee, rfl, rfl, rfl⟩ |
    ⟨request, addressee, result, rfl, rfl, rfl⟩
  · exact (app.selectUpstream_awaits ⟨0, 0⟩ request draw).2.2
  · exact knows
  · simp [Knows, Phase.awaits]
  · simp [Knows, Phase.awaits]
  · simp [Knows, (app.handle_awaits addressee request addressee result).1]

/-! ## Runs -/

namespace Gateway

variable {gateway next : Gateway} {timed : Timed}

/-- How many invocations are being forwarded to an upstream. -/
def inFlight (target : UpstreamRef) (gateway : Gateway) : Nat :=
  gateway.requests.countP (Phase.forwardsTo target)

/-- How many invocations were dropped while they waited for an upstream. -/
def leaked (target : UpstreamRef) (gateway : Gateway) : Nat :=
  gateway.requests.countP (Phase.droppedAt target)

/-- Every connection counter counts the invocations being forwarded. -/
def Accounted (gateway : Gateway) : Prop :=
  ∀ target upstream, gateway.app.upstream? target = some upstream →
    upstream.connectionCount = gateway.inFlight target

/-- What the connection counters count in every state of a run. -/
structure Balanced (gateway : Gateway) : Prop where
  counted : ∀ target upstream, gateway.app.upstream? target = some upstream →
    upstream.connectionCount = gateway.inFlight target + gateway.leaked target
  known : ∀ phase ∈ gateway.requests, gateway.app.Knows phase

theorem connectionCount_of_step {target : UpstreamRef} {before after : UpstreamState}
    (stepped : step settings gateway timed = some next)
    (found : gateway.app.upstream? target = some before)
    (found' : next.app.upstream? target = some after) :
    after.connectionCount = before.connectionCount +
      ((gateway.notices target timed).map Notice.connections).sum := by
  rw [upstream?_step stepped, found, Option.map_some, Option.some.injEq] at found'
  rcases notices_cases target gateway timed with silent | ⟨notice, told, -⟩
  · simp [← found', silent]
  · simp [← found', told, Notice.connectionCount_receive]

theorem Background.connections_notices (target : UpstreamRef) (event : Background) :
    ((event.notices target now app).map Notice.connections).sum = 0 := by
  have told : ∀ addressee (notice : Notice), notice.connections = 0 →
      ((notify target addressee notice).map Notice.connections).sum = 0 := by
    intro addressee notice zero
    unfold notify
    split <;> simp [zero]
  cases event with
  | probe addressee elapsed result => exact told _ _ rfl
  | markHealthy addressee => exact told _ _ rfl
  | setHealth encodedUrl enable =>
      simp only [Background.notices]
      split
      · exact told _ _ rfl
      · rfl
  | flush => rfl
  | evict slot => rfl

/-- The invocations move as the connection counters do. -/
theorem count_of_step (target : UpstreamRef)
    (stepped : step settings gateway timed = some next) :
    (next.inFlight target + next.leaked target : Int) =
      gateway.inFlight target + gateway.leaked target +
        ((gateway.notices target timed).map Notice.connections).sum := by
  obtain ⟨now, event⟩ := timed
  cases event with
  | receive body =>
      obtain ⟨-, rfl⟩ := step_receive_iff.mp stepped
      obtain ⟨-, notForwarding, notDropped⟩ :=
        gateway.app.receive_awaits settings now target body
      simp [inFlight, leaked, notices, notForwarding, notDropped]
  | resume request action =>
      obtain ⟨-, phase, reached, found, advanced, rfl⟩ := step_resume_iff.mp stepped
      have weights := Phase.weight_advance target advanced
      have forwarding := congrArg (Nat.cast (R := Int))
        (countP_set_add (Phase.forwardsTo target) reached.2 found)
      have dropped := congrArg (Nat.cast (R := Int))
        (countP_set_add (Phase.droppedAt target) reached.2 found)
      push_cast at forwarding dropped
      simp only [Phase.weight] at weights
      simp only [notices, found, inFlight, leaked]
      linarith
  | background event =>
      obtain ⟨-, rfl⟩ := step_background_iff.mp stepped
      simp only [notices, Background.connections_notices, add_zero]
      rfl

theorem Balanced.step (balanced : Balanced gateway)
    (stepped : Gateway.step settings gateway timed = some next) : Balanced next := by
  refine ⟨?_, ?_⟩
  · intro target after foundAfter
    obtain ⟨before, foundBefore, -⟩ :=
      Option.map_eq_some_iff.mp ((upstream?_step stepped target).symm.trans foundAfter)
    rw [connectionCount_of_step stepped foundBefore foundAfter,
      balanced.counted target before foundBefore, count_of_step target stepped]
  · -- Upstreams never disappear, so it is enough to look at the state before.
    have kept : ∀ phase, gateway.app.Knows phase → next.app.Knows phase := by
      intro phase knows awaited isAwaited
      obtain ⟨upstream, found⟩ := knows awaited isAwaited
      exact exists_upstream_of_step stepped found
    intro phase member
    refine kept phase ?_
    obtain ⟨now, event⟩ := timed
    cases event with
    | receive body =>
        obtain ⟨-, rfl⟩ := step_receive_iff.mp stepped
        rcases List.mem_append.mp member with earlier | last
        · exact balanced.known phase earlier
        · rw [List.mem_singleton.mp last]
          simp [AppState.Knows, (gateway.app.receive_awaits settings now ⟨0, 0⟩ body).1]
    | resume request action =>
        obtain ⟨-, old, reached, found, advanced, rfl⟩ := step_resume_iff.mp stepped
        rcases List.mem_or_eq_of_mem_set member with earlier | rfl
        · exact balanced.known phase earlier
        · exact (balanced.known old (List.mem_of_getElem? found)).advance advanced
    | background event =>
        obtain ⟨-, rfl⟩ := step_background_iff.mp stepped
        exact balanced.known phase member

theorem balanced_init (settings : Settings) (start : Instant) : Balanced (init settings start) where
  counted target upstream found := by
    rw [(AppState.upstream?_buildState found).2]
    rfl
  known phase member := by cases member

theorem balanced_of_run {start : Instant} {events : List Timed}
    (run : Run settings start events gateway) : Balanced gateway :=
  Machine.exec_invariant Balanced (fun _ _ _ balanced stepped => balanced.step stepped)
    (balanced_init settings start) run

/-- The runtime drops an invocation in this step. -/
def isDrop (timed : Timed) : Bool :=
  match timed.event with
  | .resume _ .drop => true
  | _ => false

theorem leaked_of_step {target : UpstreamRef} (stepped : step settings gateway timed = some next)
    (notDrop : isDrop timed = false) (none : gateway.leaked target = 0) :
    next.leaked target = 0 := by
  obtain ⟨now, event⟩ := timed
  cases event with
  | receive body =>
      obtain ⟨-, rfl⟩ := step_receive_iff.mp stepped
      simpa [leaked, (gateway.app.receive_awaits settings now target body).2.2] using none
  | resume request action =>
      obtain ⟨-, phase, reached, found, advanced, rfl⟩ := step_resume_iff.mp stepped
      have fine := Phase.droppedAt_advance target advanced
        (by rintro rfl; simp [isDrop] at notDrop)
      have count := countP_set_add (Phase.droppedAt target) reached.2 found
      simp only [leaked] at none ⊢
      rw [fine, none] at count
      simp_all
  | background event =>
      obtain ⟨-, rfl⟩ := step_background_iff.mp stepped
      exact none

theorem leaked_of_drop {request : Nat} (known : ∀ phase ∈ gateway.requests, gateway.app.Knows phase)
    (stepped : step settings gateway ⟨now, .resume request .drop⟩ = some next) :
    ∃ target upstream, next.app.upstream? target = some upstream ∧ 0 < next.leaked target := by
  obtain ⟨-, phase, reached, found, advanced, rfl⟩ := step_resume_iff.mp stepped
  rcases Phase.advance_cases advanced with
    ⟨_, _, _, other, _⟩ | ⟨_, _, _, other, _⟩ | ⟨_, _, _, _, other, _⟩ |
    ⟨routed, target, rfl, -, rfl⟩ | ⟨_, _, _, _, other, _⟩
  · cases other
  · cases other
  · cases other
  · obtain ⟨upstream, isUpstream⟩ :=
      known _ (List.mem_of_getElem? found) target rfl
    have count := countP_set_add (Phase.droppedAt target) (.dropped routed target) found
    simp only [Phase.droppedAt, decide_true, if_true, Bool.false_eq_true, if_false,
      add_zero] at count
    exact ⟨target, upstream, isUpstream, (Nat.succ_pos _).trans_eq count.symm⟩
  · cases other

theorem leaked_of_run {start : Instant} {events : List Timed}
    (run : Run settings start events gateway) (noDrop : ∀ timed ∈ events, isDrop timed = false)
    (target : UpstreamRef) : gateway.leaked target = 0 := by
  refine Machine.exec_history
    (fun events state => (∀ timed ∈ events, isDrop timed = false) → state.leaked target = 0)
    (fun _ => rfl) ?_ run noDrop
  intro events state timed next _ ih stepped noDrop
  exact leaked_of_step stepped (noDrop timed (by simp))
    (ih fun earlier member => noDrop earlier (List.mem_append_left _ member))

/-- In-flight accounting: in every state of a run every connection counter counts
the invocations being forwarded, exactly when no invocation was dropped in it. -/
theorem accounted_iff_no_drop {start : Instant} {events : List Timed}
    (run : Run settings start events gateway) :
    (∀ before after state, events = before ++ after → Run settings start before state →
        Accounted state) ↔
      ∀ timed ∈ events, isDrop timed = false := by
  constructor
  · intro accounted timed member
    by_contra dropped
    obtain ⟨before, after, rfl⟩ := List.append_of_mem member
    obtain ⟨middle, prior, rest⟩ := Machine.exec_append_iff.mp run
    obtain ⟨next, stepped, -⟩ := Machine.exec_cons_iff.mp rest
    have reached : Run settings start (before ++ [timed]) next :=
      Machine.exec_concat_iff.mpr ⟨middle, prior, stepped⟩
    obtain ⟨now, event⟩ := timed
    obtain ⟨request, rfl⟩ : ∃ request, event = .resume request .drop := by
      unfold isDrop at dropped
      split at dropped
      next request isDrop => exact ⟨request, isDrop⟩
      · exact absurd rfl dropped
    obtain ⟨target, upstream, found, leaks⟩ :=
      leaked_of_drop (balanced_of_run prior).known stepped
    have exact := accounted _ after next (by simp) reached target upstream found
    have counted := (balanced_of_run reached).counted target upstream found
    omega
  · rintro noDrop before after state rfl reached target upstream found
    have none := leaked_of_run reached
      (fun timed member => noDrop timed (List.mem_append_left _ member)) target
    rw [(balanced_of_run reached).counted target upstream found, none]
    simp

/-- A whole exchange is accounted for. -/
theorem accounted_exchange :
    ∃ gateway, Run (smallSettings []) 0
        (⟨0, .background (.markHealthy firstUpstream)⟩ :: exchange 0 1 1 (ledgerReply 1))
        gateway ∧
      Accounted gateway := by
  have runs : (Machine.exec (step (smallSettings [])) (init (smallSettings []) 0)
      (⟨0, .background (.markHealthy firstUpstream)⟩ ::
        exchange 0 1 1 (ledgerReply 1))).isSome = true := by
    decide +kernel
  obtain ⟨gateway, run⟩ := Option.isSome_iff_exists.mp runs
  exact ⟨gateway, run, (accounted_iff_no_drop run).mpr (by decide) _ [] gateway
    (List.append_nil _).symm run⟩

/-- A request that is dropped while it waits stays on the connection counter although
nothing is being forwarded any more. -/
theorem dropped_stays_counted :
    (Machine.exec (step (smallSettings [])) (init (smallSettings []) 0)
        [⟨0, .background (.markHealthy firstUpstream)⟩,
          ⟨1, .receive (some (ledgerRequest 1).toBytes)⟩,
          ⟨1, .resume 0 (.select 0)⟩,
          ⟨1, .resume 0 .forward⟩,
          ⟨2, .resume 0 .drop⟩]).map
      (fun gateway =>
        (gateway.inFlight firstUpstream,
          (gateway.app.upstream? firstUpstream).map UpstreamState.activeConnections)) =
      some (0, some 1) := by
  decide +kernel

end Gateway

end SorobanGate
