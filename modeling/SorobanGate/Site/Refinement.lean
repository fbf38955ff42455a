import SorobanGate.Gateway.Upstream
import SorobanGate.Site.Step

/-!
# The server refines its parts

Seen from the main listener, a run of the server is a run of the listener: a request to
the admin interface comes to the operation that its handler performs, or to nothing.
Seen from behind the middlewares, it is a run of the gateway, which knows nothing of
rate limits and keys.  What is proved of all runs of either therefore holds of the server.
-/

namespace SorobanGate

variable {arith : TokenArith} {deployment : Deployment} {settings : Settings}

/-! ## The listener -/

namespace Listener

variable {backend : AuthBackend} {listener next : Listener arith} {moment : Moment}

@[simp] theorem at_at (listener : Listener arith) (earlier later : Instant) :
    (listener.at earlier).at later = listener.at later := rfl

theorem step_at {clock : Instant} (inOrder : listener.gateway.clock ≤ moment.time)
    (later : clock ≤ moment.time) :
    (listener.at clock).step backend settings moment = listener.step backend settings moment := by
  obtain ⟨now, occurrence⟩ := moment
  have early : ¬ now < listener.gateway.clock := not_lt.mpr inOrder
  have earlyAt : ¬ now < (listener.at clock).gateway.clock := not_lt.mpr later
  have passes : ∀ event, (listener.at clock).pass settings now event =
      listener.pass settings now event := by
    intro event
    have same : (listener.at clock).gateway.step settings ⟨now, event⟩ =
        listener.gateway.step settings ⟨now, event⟩ := by
      unfold Gateway.step
      rw [if_neg early, if_neg earlyAt]
      rfl
    unfold pass
    rw [same]
    rfl
  unfold step
  rw [if_neg early, if_neg earlyAt]
  cases occurrence with
  | request web => rfl
  | read index complete =>
      show ((listener.reading[index]?).bind fun web => _) = _
      simp only [passes]
      rfl
  | resume request action => exact passes _
  | background event => exact passes _
  | keys op => rfl

theorem exec_background (backend : AuthBackend) (settings : Settings)
    (events : List Background) {now : Instant}
    (inOrder : listener.gateway.clock ≤ now) :
    ∃ after, Machine.exec (step backend settings) listener
        (events.map fun event => ⟨now, .background event⟩) = some after ∧
      after.at now =
        { listener with
          gateway :=
            { listener.gateway with
              clock := now
              app := events.foldl (fun app event => event.apply settings now app)
                listener.gateway.app } } := by
  induction events generalizing listener with
  | nil => exact ⟨listener, rfl, rfl⟩
  | cons event events ih =>
      have first : listener.step backend settings ⟨now, .background event⟩ =
          some
            { listener with
              gateway :=
                { listener.gateway with
                  clock := now
                  app := event.apply settings now listener.gateway.app } } := by
        unfold step
        rw [if_neg (not_lt.mpr inOrder)]
        simp only [pass, Gateway.step_background_iff.mpr ⟨inOrder, rfl⟩, Option.map_some]
      obtain ⟨after, rest, isAfter⟩ := @ih
        { listener with
          gateway :=
            { listener.gateway with
              clock := now
              app := event.apply settings now listener.gateway.app } } le_rfl
      exact ⟨after, Machine.exec_cons_iff.mpr ⟨_, first, rest⟩, isAfter⟩

end Listener

/-- A handler changes the state as the operation that its call comes to. -/
theorem Deployment.exec_adminOccurrences (listener : Listener arith) (request : AdminRequest)
    (ambient : Ambient) {now : Instant} (inOrder : listener.gateway.clock ≤ now) :
    ∃ after, Machine.exec (Listener.step deployment.backend deployment.settings) listener
        ((deployment.adminOccurrences request ambient).map fun occurrence => ⟨now, occurrence⟩) =
          some after ∧
      (deployment.serveAdmin listener request ambient now).1.at now = after.at now := by
  have onKeys : ∀ op, ∃ after,
      Machine.exec (Listener.step deployment.backend deployment.settings) listener
          [⟨now, .keys op⟩] = some after ∧
        after.at now =
          { listener with
            gateway := { listener.gateway with clock := now }
            keyStore := listener.keyStore.bind fun store =>
              KeyOp.step deployment.backend.crypto store op } := by
    intro op
    rw [Machine.exec_cons, Listener.step, if_neg (not_lt.mpr inOrder)]
    exact ⟨_, rfl, rfl⟩
  have onBackground : ∀ event : Background, ∃ after,
      Machine.exec (Listener.step deployment.backend deployment.settings) listener
          [⟨now, .background event⟩] = some after ∧
        after.at now =
          { listener with
            gateway :=
              { listener.gateway with
                clock := now
                app := event.apply deployment.settings now listener.gateway.app } } := by
    intro event
    exact Listener.exec_background _ _ [event] inOrder
  unfold adminOccurrences serveAdmin
  cases adminCall request.method request.path with
  | error status => exact ⟨listener, rfl, rfl⟩
  | ok call =>
      dsimp only
      cases call with
      | setUpstreamHealth encodedUrl enable =>
          obtain ⟨after, isRun, isAfter⟩ := onBackground (.setHealth encodedUrl enable)
          exact ⟨after, isRun, isAfter.symm⟩
      | revokeKey id =>
          obtain ⟨after, isRun, isAfter⟩ := onKeys (.revoke id)
          refine ⟨after, isRun, ?_⟩
          rw [isAfter]
          simp only [serveCall, keysDeleteHandler, Listener.at]
          cases listener.keyStore with
          | none => rfl
          | some store =>
              simp only [Option.bind_some, KeyOp.step]
              cases isRevoked : store.revokeKey id with
              | mk revoked affected => cases affected <;> rfl
      | plain handler =>
          cases handler with
          | cacheFlush =>
              obtain ⟨after, isRun, isAfter⟩ := onBackground .flush
              exact ⟨after, isRun, isAfter.symm⟩
          | keysCreate =>
              simp only [callOccurrences, keyPayload, serveCall, payload]
              cases request.payload deployment.admin with
              | error status => exact ⟨listener, rfl, rfl⟩
              | ok payload =>
                  cases isAsked : KeyPayload.ofJson payload with
                  | none =>
                      refine ⟨listener, by simp [Except.toOption, isAsked], ?_⟩
                      simp [keysCreateHandler, isAsked, Listener.at]
                  | some asked =>
                      obtain ⟨after, isRun, isAfter⟩ := onKeys
                        (.create asked.rawKey asked.tier asked.label ambient.salt
                          ambient.epochSecs)
                      refine ⟨after, by simpa [Except.toOption, isAsked] using isRun, ?_⟩
                      rw [isAfter]
                      simp only [keysCreateHandler, isAsked, Listener.at]
                      cases listener.keyStore with
                      | none => rfl
                      | some store =>
                          simp only [Option.bind_some, KeyOp.step]
                          cases store.createKey deployment.backend.crypto asked.rawKey
                            asked.tier asked.label ambient.salt ambient.epochSecs <;> rfl
          | _ => exact ⟨listener, rfl, rfl⟩

/-! ## Behind the middlewares -/

namespace AppState

/-- The state with other metrics. -/
def metered (metrics : Option Metrics) (app : AppState) : AppState :=
  { app with metrics := metrics }

/-- A computation on the state does not depend on the metrics. -/
def Unmetered {Result : Type} (run : AppState → AppState × Result) : Prop :=
  ∀ app metrics, ∃ after, run (app.metered metrics) = ((run app).1.metered after, (run app).2)

theorem unmetered_receive (settings : Settings) (body : Option Bytes) (now : Instant) :
    Unmetered (receive settings body now) := by
  intro app metrics
  unfold receive
  cases body.bind (ProxyRequest.ofBody settings) with
  | none => exact ⟨metrics, rfl⟩
  | some request =>
      have sameLookup : (app.metered metrics).consult settings request now =
          app.consult settings request now := rfl
      dsimp only
      rw [sameLookup]
      cases app.consult settings request now with
      | none => exact ⟨metrics, rfl⟩
      | some answer =>
          obtain ⟨cache, found⟩ := answer
          cases found with
          | none => exact ⟨_, rfl⟩
          | some body => exact ⟨_, rfl⟩

theorem unmetered_selectUpstream (request : ProxyRequest) (draw : Nat) :
    Unmetered (selectUpstream request draw) := by
  intro app metrics
  have samePools : (app.metered metrics).pools = app.pools := rfl
  refine ⟨metrics, ?_⟩
  unfold selectUpstream
  rw [samePools]
  cases app.pools.zipIdx.find? fun pool => pool.1.name == request.poolName with
  | none => rfl
  | some found =>
      dsimp only
      cases (found.1.selectUpstream draw).2 <;> rfl

theorem unmetered_handle (settings : Settings) (request : ProxyRequest) (target : UpstreamRef)
    (result : ForwardResult) (now : Instant) :
    Unmetered (handle settings request target result now) := by
  intro app metrics
  cases result with
  | error message => exact ⟨_, rfl⟩
  | ok reply =>
      have stored : ∀ other, (app.metered other).store settings request reply now =
          (app.store settings request reply now).map (metered other) := by
        intro other
        unfold store
        have sameCache : (app.metered other).cache = app.cache := rfl
        rw [sameCache]
        cases app.cache with
        | none => rfl
        | some cache =>
            dsimp only
            split
            · cases cache.set (request.cacheKey settings) reply.body (request.ttl settings) now <;>
                rfl
            · rfl
      have isMetered : ∀ other, ∃ after,
          (app.metered other).mapMetrics (.countRequest (request.labels reply.status false)) =
            app.metered after := fun other => ⟨_, rfl⟩
      obtain ⟨left, isLeft⟩ := isMetered metrics
      obtain ⟨right, isRight⟩ := isMetered app.metrics
      refine ⟨left, ?_⟩
      have same : app.metered app.metrics = app := rfl
      rw [same] at isRight
      simp only [handle, isLeft, isRight, stored]
      cases app.store settings request reply now <;> rfl

end AppState

theorem Background.apply_metered (event : Background) (now : Instant) (app : AppState)
    (metrics : Option Metrics) :
    event.apply settings now (app.metered metrics) =
      (event.apply settings now app).metered metrics := by
  cases event with
  | setHealth encodedUrl enable =>
      have located : (app.metered metrics).locate (percentDecode encodedUrl) =
          app.locate (percentDecode encodedUrl) := rfl
      simp only [apply, AppState.setUpstreamHealth, located]
      cases app.locate (percentDecode encodedUrl) <;> rfl
  | flush =>
      obtain ⟨pools, cache, counted⟩ := app
      cases cache <;> rfl
  | _ => rfl

theorem Phase.advance_metered {phase : Phase} {action : Action} {now : Instant} {app : AppState}
    {reached : AppState × Phase} (metrics : Option Metrics)
    (advanced : phase.advance settings now app action = some reached) :
    ∃ after, phase.advance settings now (app.metered metrics) action =
      some (reached.1.metered after, reached.2) := by
  rcases Phase.advance_cases advanced with
    ⟨request, draw, rfl, rfl, rfl⟩ | ⟨request, target, rfl, rfl, rfl⟩ |
    ⟨request, target, result, rfl, rfl, rfl⟩ | ⟨request, target, rfl, rfl, rfl⟩ |
    ⟨request, target, result, rfl, rfl, rfl⟩
  · obtain ⟨after, same⟩ := AppState.unmetered_selectUpstream request draw app metrics
    exact ⟨after, congrArg some same⟩
  · exact ⟨metrics, rfl⟩
  · exact ⟨metrics, rfl⟩
  · exact ⟨metrics, rfl⟩
  · obtain ⟨after, same⟩ :=
      AppState.unmetered_handle settings request target result now app metrics
    exact ⟨after, congrArg some same⟩

/-- The gateway as it is, except that its metrics and its clock may lag behind. -/
structure Gateway.Follows (gateway : Gateway) (actual : Gateway) : Prop where
  clock : gateway.clock ≤ actual.clock
  app : ∃ metrics, gateway.app = actual.app.metered metrics
  requests : gateway.requests = actual.requests

namespace Gateway.Follows

variable {gateway actual next : Gateway}

theorem step {timed : Timed} (follows : gateway.Follows actual)
    (stepped : actual.step settings timed = some next) :
    ∃ after, gateway.step settings timed = some after ∧ after.Follows next := by
  obtain ⟨behind, ⟨metrics, sameApp⟩, sameRequests⟩ := follows
  obtain ⟨now, event⟩ := timed
  cases event with
  | receive body =>
      obtain ⟨inOrder, rfl⟩ := step_receive_iff.mp stepped
      obtain ⟨after, same⟩ :=
        AppState.unmetered_receive settings body now actual.app metrics
      refine ⟨_, step_receive_iff.mpr ⟨behind.trans inOrder, rfl⟩, le_rfl, ⟨after, ?_⟩, ?_⟩
      · rw [sameApp, same]
      · rw [sameApp, same, sameRequests]
  | resume request action =>
      obtain ⟨inOrder, phase, reached, found, advanced, rfl⟩ := step_resume_iff.mp stepped
      obtain ⟨after, same⟩ := Phase.advance_metered metrics advanced
      rw [← sameApp] at same
      rw [← sameRequests] at found
      refine ⟨_, step_resume_iff.mpr ⟨behind.trans inOrder, phase, _, found, same, rfl⟩, ?_⟩
      exact ⟨le_rfl, ⟨after, rfl⟩, by rw [sameRequests]⟩
  | background event =>
      obtain ⟨inOrder, rfl⟩ := step_background_iff.mp stepped
      refine ⟨_, step_background_iff.mpr ⟨behind.trans inOrder, rfl⟩, le_rfl, ⟨metrics, ?_⟩,
        sameRequests⟩
      rw [sameApp, Background.apply_metered]

end Gateway.Follows

namespace Listener

variable {backend : AuthBackend} {listener next : Listener arith} {moment : Moment}

/-- What a moment comes to at the gateway. -/
def events (listener : Listener arith) (moment : Moment) : List Timed :=
  match moment.occurrence with
  | .request _ => []
  | .read index complete =>
      (listener.reading[index]?).toList.map fun web =>
        ⟨moment.time, .receive (if complete then some web.body else none)⟩
  | .resume request action => [⟨moment.time, .resume request action⟩]
  | .background event => [⟨moment.time, .background event⟩]
  | .keys _ => []

/-- A step of the listener is what it comes to at a gateway that follows the one behind it. -/
theorem follows_step {gateway : Gateway} (follows : gateway.Follows listener.gateway)
    (stepped : listener.step backend settings moment = some next) :
    ∃ after, Machine.exec (Gateway.step settings) gateway (listener.events moment) = some after ∧
      after.Follows next.gateway := by
  have passed : ∀ {event reached}, listener.pass settings moment.time event = some reached →
      ∃ after, Machine.exec (Gateway.step settings) gateway [⟨moment.time, event⟩] = some after ∧
        after.Follows reached.gateway := by
    intro event reached isPass
    obtain ⟨actual, isStep, rfl⟩ := Option.map_eq_some_iff.mp isPass
    obtain ⟨after, isAfter, still⟩ := follows.step isStep
    exact ⟨after, Machine.exec_cons_iff.mpr ⟨after, isAfter, rfl⟩, still⟩
  obtain ⟨time, occurrence⟩ := moment
  unfold step at stepped
  split at stepped
  · cases stepped
  next inOrder =>
    have later := follows.clock.trans (not_lt.mp inOrder)
    cases occurrence with
    | request web =>
        cases stepped
        obtain ⟨metrics, sameApp⟩ := follows.app
        exact ⟨gateway, rfl, later, ⟨metrics, sameApp⟩, follows.requests⟩
    | read index complete =>
        obtain ⟨web, found, remaining⟩ := Option.bind_eq_some_iff.mp stepped
        obtain ⟨reached, isPass, isNext⟩ := Option.bind_eq_some_iff.mp remaining
        cases isNext
        obtain ⟨after, isAfter, still⟩ := passed isPass
        refine ⟨after, ?_, still⟩
        simpa only [events, found, Option.toList_some, List.map_cons, List.map_nil] using isAfter
    | resume request action => exact passed stepped
    | background event => exact passed stepped
    | keys op =>
        cases stepped
        exact ⟨gateway, rfl, later, follows.app, follows.requests⟩

end Listener

/-! ## The server -/

namespace Listener

variable {backend : AuthBackend} {listener after : Listener arith}

/-- Moments of one time lead from a listener of an earlier time to the same state, but
for the time of the listener when there are none. -/
theorem exec_at {clock now : Instant} {occurrences : List Occurrence}
    (inOrder : listener.gateway.clock ≤ now) (later : clock ≤ now)
    (run : Machine.exec (step backend settings) (listener.at clock)
      (occurrences.map fun occurrence => ⟨now, occurrence⟩) = some after) :
    ∃ other, Machine.exec (step backend settings) listener
        (occurrences.map fun occurrence => ⟨now, occurrence⟩) = some other ∧
      other.at now = after.at now ∧ other.gateway.clock ≤ now := by
  cases occurrences with
  | nil =>
      cases run
      exact ⟨listener, rfl, rfl, inOrder⟩
  | cons occurrence occurrences =>
      have run' := run
      rw [List.map_cons, Machine.exec_cons, step_at inOrder later, ← Machine.exec_cons] at run'
      refine ⟨after, run', rfl, ?_⟩
      have dated : ∀ moment ∈ (occurrence :: occurrences).map (Moment.mk now),
          moment.time = now := by
        intro moment member
        obtain ⟨occurrence, -, rfl⟩ := List.mem_map.mp member
        rfl
      refine Machine.exec_invariant_within (fun listener => listener.gateway.clock ≤ now) ?_ dated
        inOrder run'
      rintro listener moment next rfl - stepped
      exact (step_cases stepped).2.1.le

end Listener

namespace Site

variable {site next : Site arith} {beat : Beat}

/-- Inversion: what a beat does to the listener and to the health check task. -/
theorem step_cases (stepped : step deployment site beat = some next) :
    site.clock ≤ beat.time ∧ next.clock = beat.time ∧
      (∃ after, Machine.exec (Listener.step deployment.backend deployment.settings) site.listener
          (site.moments deployment beat) = some after ∧ next.listener = after.at beat.time) ∧
      ((∃ act, beat.happening = .monitor act ∧
          site.monitor.step deployment.monitorConfig ⟨beat.time, act⟩ = some next.monitor) ∨
        (∀ act, beat.happening ≠ .monitor act) ∧ next.monitor = site.monitor) := by
  obtain ⟨time, happening⟩ := beat
  unfold step at stepped
  split at stepped
  · cases stepped
  next inOrder =>
    have later : site.clock ≤ time := not_lt.mp inOrder
    have passed : ∀ {occurrence}, site.pass deployment time occurrence = some next →
        next.clock = time ∧
        (∃ after, Machine.exec (Listener.step deployment.backend deployment.settings) site.listener
            [⟨time, occurrence⟩] = some after ∧ next.listener = after.at time) ∧
        next.monitor = site.monitor := by
      intro occurrence isPass
      obtain ⟨listener, isStep, rfl⟩ := Option.map_eq_some_iff.mp isPass
      have isNow : listener.gateway.clock = time := (Listener.step_cases isStep).2.1
      refine ⟨isNow, ⟨listener, Machine.exec_cons_iff.mpr ⟨_, isStep, rfl⟩, ?_⟩, rfl⟩
      subst isNow
      rfl
    refine ⟨later, ?_⟩
    cases happening with
    | request web =>
        obtain ⟨isNow, isListener, isMonitor⟩ := passed stepped
        exact ⟨isNow, isListener, Or.inr ⟨nofun, isMonitor⟩⟩
    | read index complete =>
        obtain ⟨isNow, isListener, isMonitor⟩ := passed stepped
        exact ⟨isNow, isListener, Or.inr ⟨nofun, isMonitor⟩⟩
    | resume request action =>
        obtain ⟨isNow, isListener, isMonitor⟩ := passed stepped
        exact ⟨isNow, isListener, Or.inr ⟨nofun, isMonitor⟩⟩
    | evict slot =>
        obtain ⟨isNow, isListener, isMonitor⟩ := passed stepped
        exact ⟨isNow, isListener, Or.inr ⟨nofun, isMonitor⟩⟩
    | admin request ambient =>
        obtain ⟨after, isRun, isAfter⟩ :=
          deployment.exec_adminOccurrences site.listener request ambient later
        cases stepped
        exact ⟨rfl, ⟨after, isRun, isAfter⟩, Or.inr ⟨nofun, rfl⟩⟩
    | monitor act =>
        obtain ⟨monitor, isStep, remaining⟩ := Option.bind_eq_some_iff.mp stepped
        cases remaining
        obtain ⟨after, isRun, isAfter⟩ := Listener.exec_background deployment.backend
          deployment.settings
          ((site.monitor.effects ⟨time, act⟩).map MonitorEffect.background) later
        refine ⟨rfl, ⟨after, ?_, ?_⟩, Or.inl ⟨act, rfl, isStep⟩⟩
        · simpa only [moments, occurrences, List.map_map, Function.comp_def] using isRun
        · rw [isAfter, List.foldl_map]

/-- A run of the listener that comes to the same state as the server, but for the time. -/
def Mirrors (site : Site arith) (listener : Listener arith) : Prop :=
  site.listener = listener.at site.clock ∧ listener.gateway.clock ≤ site.clock

theorem Mirrors.keyStore {listener : Listener arith} (mirrors : site.Mirrors listener) :
    listener.keyStore = site.listener.keyStore := by
  rw [mirrors.1]
  rfl

theorem mirrors_step {listener : Listener arith} (mirrors : site.Mirrors listener)
    (stepped : step deployment site beat = some next) :
    ∃ after, Machine.exec (Listener.step deployment.backend deployment.settings) listener
        (site.moments deployment beat) = some after ∧ next.Mirrors after := by
  obtain ⟨inOrder, isNow, ⟨reached, isRun, isNext⟩, -⟩ := step_cases stepped
  rw [mirrors.1] at isRun
  obtain ⟨after, isRun', same, early⟩ :=
    Listener.exec_at (mirrors.2.trans inOrder) inOrder isRun
  exact ⟨after, isRun', by rw [isNext, isNow, same], isNow ▸ early⟩

/-- What a beat comes to at the gateway. -/
def events (deployment : Deployment) (site : Site arith) (beat : Beat) : List Timed :=
  Machine.trace (Listener.step deployment.backend deployment.settings) Listener.events
    site.listener (site.moments deployment beat)

theorem follows_step {gateway : Gateway} (follows : gateway.Follows site.listener.gateway)
    (stepped : step deployment site beat = some next) :
    ∃ after, Machine.exec (Gateway.step deployment.settings) gateway
        (site.events deployment beat) = some after ∧ after.Follows next.listener.gateway := by
  obtain ⟨inOrder, isNow, ⟨reached, isRun, isNext⟩, -⟩ := step_cases stepped
  obtain ⟨after, isAfter, still⟩ := Machine.exec_refines
    (fun (listener : Listener arith) (gateway : Gateway) => gateway.Follows listener.gateway)
    (fun listener gateway moment next follows stepped => Listener.follows_step follows stepped)
    follows isRun
  obtain ⟨other, isRun', same, early⟩ :=
    @Listener.exec_at _ _ _ site.listener _ site.clock _ _ inOrder inOrder isRun
  obtain rfl := Option.some.inj (isRun'.symm.trans isRun)
  rw [isNext]
  exact ⟨after, isAfter, still.clock.trans early, still.app, still.requests⟩

section Runs

variable {store : SqliteKeyStore} {start : Instant} {beats : List Beat}

/-- Seen from behind the middlewares, a run of the server is a run of the gateway. -/
theorem gateway_of_run (run : Run deployment store start beats site) :
    ∃ gateway, Gateway.Run deployment.settings start
        (Machine.trace (step deployment) (events deployment) (init deployment arith store start)
          beats) gateway ∧
      gateway.Follows site.listener.gateway := by
  refine Machine.exec_refines
    (fun (site : Site arith) (gateway : Gateway) => gateway.Follows site.listener.gateway)
    (fun site gateway beat next follows stepped => follows_step follows stepped) ?_ run
  exact ⟨le_rfl, ⟨_, rfl⟩, rfl⟩

/-- Seen from the main listener, a run of the server is a run of the listener. -/
theorem listener_of_run (run : Run deployment store start beats site) :
    ∃ listener, Listener.Run deployment.backend deployment.settings store start
        (Machine.trace (step deployment) (moments deployment) (init deployment arith store start)
          beats) listener ∧
      site.Mirrors listener :=
  Machine.exec_refines Mirrors
    (fun _ _ _ _ mirrors stepped => mirrors_step mirrors stepped)
    (⟨rfl, le_rfl⟩ : (init deployment arith store start).Mirrors
      (.init deployment.settings arith store start)) run

/-- Refinement.  In every run the main listener is in a state that a run of the listener
alone leads to, in which each request to the admin interface is the operation that its
handler performs or nothing; and its pools, its cache and the invocations of the proxy
handler are those that a run of the gateway alone leads to. -/
theorem refines_parts (run : Run deployment store start beats site) :
    (∃ listener, Listener.Run deployment.backend deployment.settings store start
        (Machine.trace (step deployment) (moments deployment) (init deployment arith store start)
          beats) listener ∧
      site.listener = listener.at site.clock) ∧
    ∃ gateway, Gateway.Run deployment.settings start
        (Machine.trace (step deployment) (events deployment) (init deployment arith store start)
          beats) gateway ∧
      gateway.app.pools = site.listener.gateway.app.pools ∧
      gateway.app.cache = site.listener.gateway.app.cache ∧
      gateway.requests = site.listener.gateway.requests := by
  constructor
  · obtain ⟨listener, isRun, mirrors⟩ := listener_of_run run
    exact ⟨listener, isRun, mirrors.1⟩
  · obtain ⟨gateway, isRun, follows⟩ := gateway_of_run run
    obtain ⟨metrics, sameApp⟩ := follows.app
    exact ⟨gateway, isRun, by rw [sameApp]; rfl, by rw [sameApp]; rfl, follows.requests⟩

/-- The run in which a key is created and used is a run of its parts. -/
theorem refines_parts_keyed :
    ∃ site : Site .rat, Run smallDeployment .new 0 keyedBeats site ∧
      ∃ gateway, Gateway.Run smallDeployment.settings 0
          (Machine.trace (step smallDeployment) (events smallDeployment)
            (init smallDeployment .rat .new 0) keyedBeats) gateway ∧
        gateway.app.pools = site.listener.gateway.app.pools := by
  obtain ⟨site, run⟩ := keyedBeats_run
  obtain ⟨gateway, isRun, samePools, -⟩ := (refines_parts run).2
  exact ⟨site, run, gateway, isRun, samePools⟩

end Runs

end Site

end SorobanGate
