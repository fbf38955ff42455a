import SorobanGate.Gateway.Disable
import SorobanGate.Site.Availability

/-!
# How fast a change is noticed

The health check task is a component of the server: a run of the server moves it through
a run of its own, and the probes that an upstream is told of are the ones that the task
has finished.  When the task is not held up, the status of an upstream that has changed
follows the change after a bounded time.
-/

namespace SorobanGate

/-- The probes of an upstream that an event brings. -/
def Timed.probes (target : UpstreamRef) (timed : Timed) : List Probe :=
  match timed.event with
  | .background (.probe addressee elapsed result) =>
      if addressee = target then [⟨timed.time, elapsed, result⟩] else []
  | _ => []

theorem Timed.probes_of_quiet (target : UpstreamRef) {timed : Timed}
    (quiet : timed.isProbe = false) : timed.probes target = [] := by
  obtain ⟨time, event⟩ := timed
  cases event with
  | background event =>
      cases event with
      | probe other elapsed result => cases quiet
      | _ => rfl
  | _ => rfl

namespace Gateway

variable {settings : Settings} {target : UpstreamRef} {gateway : Gateway}

theorem probes_of_notices (target : UpstreamRef) (gateway : Gateway) (timed : Timed) :
    (gateway.notices target timed).filterMap Notice.probe? = timed.probes target := by
  obtain ⟨now, event⟩ := timed
  have silent : ∀ addressee (notice : Notice), notice.probe? = none →
      (notify target addressee notice).filterMap Notice.probe? = [] := by
    intro addressee notice noProbe
    unfold notify
    split <;> simp [noProbe]
  cases event with
  | receive body => rfl
  | resume request action =>
      simp only [notices, Timed.probes]
      split
      · unfold Phase.notices
        split
        · exact silent _ _ rfl
        · exact silent _ _ rfl
        · exact silent _ _ rfl
        · rfl
      · rfl
  | background event =>
      cases event with
      | probe addressee elapsed result =>
          simp only [notices, Background.notices, Timed.probes, notify]
          split <;> rfl
      | markHealthy addressee => exact silent _ _ rfl
      | setHealth encodedUrl enable =>
          simp only [notices, Background.notices, Timed.probes]
          split
          · exact silent _ _ rfl
          · rfl
      | flush => rfl
      | evict slot => rfl

theorem probes_of_past (target : UpstreamRef) {start : Instant} {events : List Timed}
    (run : Run settings start events gateway) :
    (past settings target start events).filterMap Notice.probe? =
      events.flatMap (Timed.probes target) := by
  refine Machine.exec_history
    (fun events _ => (past settings target start events).filterMap Notice.probe? =
      events.flatMap (Timed.probes target)) rfl ?_ run
  intro events state timed next prior ih _
  rw [past_concat prior, List.filterMap_append, ih, probes_of_notices, List.flatMap_append,
    List.flatMap_singleton]

end Gateway

theorem Listener.events_of_background {arith : TokenArith} {backend : AuthBackend}
    {settings : Settings} {listener after : Listener arith} {now : Instant}
    {events : List Background}
    (run : Machine.exec (step backend settings) listener
      (events.map fun event => ⟨now, .background event⟩) = some after) :
    Machine.trace (step backend settings) Listener.events listener
        (events.map fun event => ⟨now, .background event⟩) =
      events.map fun event => ⟨now, .background event⟩ := by
  induction events generalizing listener with
  | nil => rfl
  | cons event events ih =>
      obtain ⟨next, stepped, rest⟩ := Machine.exec_cons_iff.mp run
      simp only [List.map_cons, Machine.trace, stepped, ih rest]
      rfl

/-- What a beat is for the health check task. -/
def Beat.moves (beat : Beat) : List (MonitorMove UpstreamRef) :=
  match beat.happening with
  | .monitor act => [⟨beat.time, act⟩]
  | _ => []

namespace Site

variable {arith : TokenArith} {deployment : Deployment} {site next first : Site arith}
  {beat : Beat} {target : UpstreamRef}

/-- What a run is for the health check task. -/
def monitorMoves (beats : List Beat) : List (MonitorMove UpstreamRef) := beats.flatMap Beat.moves

theorem monitorMoves_concat (beats : List Beat) (beat : Beat) :
    monitorMoves (beats ++ [beat]) = monitorMoves beats ++ beat.moves := by
  rw [monitorMoves, List.flatMap_append, List.flatMap_singleton]
  rfl

theorem monitor_of_step (stepped : step deployment site beat = some next) :
    Machine.exec (Monitor.step deployment.monitorConfig) site.monitor beat.moves =
      some next.monitor := by
  obtain ⟨-, -, -, ⟨act, isMonitor, isStep⟩ | ⟨other, same⟩⟩ := step_cases stepped
  · rw [Beat.moves, isMonitor]
    exact Machine.exec_cons_iff.mpr ⟨_, isStep, rfl⟩
  · have none : beat.moves = [] := by
      unfold Beat.moves
      split
      next act isMonitor => exact absurd isMonitor (other act)
      · rfl
    rw [none, same]
    rfl

/-- The health check task is a component of the server. -/
theorem monitor_of_exec {beats : List Beat}
    (run : Machine.exec (step deployment) first beats = some site) :
    Machine.exec (Monitor.step deployment.monitorConfig) first.monitor (monitorMoves beats) =
      some site.monitor := by
  refine Machine.exec_history
    (fun beats site => Machine.exec (Monitor.step deployment.monitorConfig) first.monitor
      (monitorMoves beats) = some site.monitor) rfl ?_ run
  intro beats site beat next _ ih stepped
  rw [monitorMoves_concat, Machine.exec_append_iff]
  exact ⟨site.monitor, ih, monitor_of_step stepped⟩

/-- The probes that a beat brings to the gateway are the ones that the task finishes. -/
theorem probes_of_step (stepped : step deployment site beat = some next) :
    (site.events deployment beat).flatMap (Timed.probes target) =
      Monitor.probes deployment.monitorConfig target site.monitor beat.moves := by
  obtain ⟨-, -, ⟨after, isRun, -⟩, ⟨act, isMonitor, -⟩ | ⟨other, -⟩⟩ := step_cases stepped
  · have isMoments : site.moments deployment beat =
        ((site.monitor.effects ⟨beat.time, act⟩).map MonitorEffect.background).map
          fun event => ⟨beat.time, .background event⟩ := by
      simp only [moments, occurrences, isMonitor, List.map_map, Function.comp_def]
    rw [isMoments] at isRun
    rw [events, isMoments, Listener.events_of_background isRun, Beat.moves, isMonitor]
    simp only [Monitor.probes, Machine.trace_singleton, Monitor.probesOf, List.map_map,
      List.flatMap_map, List.filterMap_eq_flatMap_toList]
    congr 1
    funext effect
    cases effect with
    | markHealthy other => rfl
    | probe other elapsed result =>
        simp only [MonitorEffect.background, Timed.probes, Function.comp_apply]
        split <;> rfl
  · have none : beat.moves = [] := by
      unfold Beat.moves
      split
      next act isMonitor => exact absurd isMonitor (other act)
      · rfl
    rw [none, List.flatMap_eq_nil_iff.mpr]
    · rfl
    · intro timed member
      exact Timed.probes_of_quiet target (quiet_of_other other timed member).2

theorem monitor_clock_le {store : SqliteKeyStore} {start : Instant} {beats : List Beat}
    (run : Run deployment store start beats site) : site.monitor.clock ≤ site.clock := by
  refine Machine.exec_invariant (fun site : Site arith => site.monitor.clock ≤ site.clock) ?_
    le_rfl run
  intro site beat next behind stepped
  obtain ⟨inOrder, isNow, -, ⟨act, -, isStep⟩ | ⟨-, same⟩⟩ := step_cases stepped
  · rw [isNow, (Monitor.moves_of_step isStep).2.1]
  · rw [isNow, same]
    exact behind.trans inOrder

section Runs

variable {store : SqliteKeyStore} {start : Instant} {beats rest : List Beat}
  {upstream : UpstreamState}

/-- The probes that an upstream is told of are those that the task has finished. -/
theorem probes_of_run (target : UpstreamRef) (run : Run deployment store start beats site) :
    (gatewayEvents deployment arith store start beats).flatMap (Timed.probes target) =
      Monitor.probes deployment.monitorConfig target (.init start) (monitorMoves beats) := by
  refine Machine.exec_history
    (fun beats (_ : Site arith) =>
      (gatewayEvents deployment arith store start beats).flatMap (Timed.probes target) =
        Monitor.probes deployment.monitorConfig target (.init start) (monitorMoves beats))
    rfl ?_ run
  intro beats site beat next prior ih stepped
  have moved : Machine.exec (Monitor.step deployment.monitorConfig) (.init start)
      (monitorMoves beats) = some site.monitor := monitor_of_exec prior
  unfold gatewayEvents at ih ⊢
  rw [Machine.trace_concat prior, List.flatMap_append, ih, probes_of_step stepped,
    monitorMoves_concat, Monitor.probes_append moved]

theorem target_of_found (run : Run deployment store start beats site)
    (found : site.listener.gateway.app.upstream? target = some upstream) :
    target ∈ deployment.monitorConfig.targets ∧
      deployment.monitorConfig.parses target = deployment.settings.uriValid upstream.url := by
  obtain ⟨gateway, isRun, follows⟩ := gateway_of_run run
  obtain ⟨metrics, sameApp⟩ := follows.app
  have isUpstream : gateway.app.upstream? target = some upstream := by
    rw [sameApp]
    exact found
  have sameUrl : ∀ now, ((buildState deployment.settings now).upstream? target).map
      UpstreamState.url = some upstream.url := by
    intro now
    have urls : ((buildState deployment.settings now).upstream? target).map UpstreamState.url =
        ((buildState deployment.settings start).upstream? target).map UpstreamState.url := by
      simp only [AppState.upstream?, buildState, createPools, List.getElem?_map]
      cases deployment.settings.config.pools[target.pool]? with
      | none => rfl
      | some pool =>
          simp only [Option.map_some, Option.bind_some, List.getElem?_map]
          cases pool.upstreams[target.index]? <;> rfl
    rw [urls]
    refine Machine.exec_invariant
      (fun gateway => ∀ upstream, gateway.app.upstream? target = some upstream →
        ((buildState deployment.settings start).upstream? target).map UpstreamState.url =
          some upstream.url) ?_ ?_ isRun upstream isUpstream
    · intro gateway timed next known stepped after foundAfter
      rw [Gateway.upstream?_step stepped, Option.map_eq_some_iff] at foundAfter
      obtain ⟨before, foundBefore, rfl⟩ := foundAfter
      rw [known before foundBefore]
      rcases Gateway.notices_cases target gateway timed with silent | ⟨notice, told, -⟩
      · rw [silent]
        rfl
      · rw [told, List.foldl_cons, List.foldl_nil, Notice.receive_url]
    · intro upstream found
      rw [show (buildState deployment.settings start).upstream? target = some upstream from found]
      rfl
  obtain ⟨original, isOriginal, isUrl⟩ := Option.map_eq_some_iff.mp (sameUrl 0)
  constructor
  · exact List.mem_map.mpr ⟨(original, target), AppState.mem_upstreams_iff.mpr isOriginal, rfl⟩
  · simp only [Deployment.monitorConfig, isOriginal, Option.any_some, isUrl]

/-- How fast a change is noticed.  Take a run of the server in which the health check
task is never held up, and a time at which its timer runs.  If every probe that is sent
to an upstream from then on has the same outcome, the status of the upstream is the one
that such outcomes lead to, as soon as the threshold many gaps between two cycles and
the time of one cycle have passed. -/
theorem health_known_within {kind : Bool} {since now : Instant} {cycle lag : Duration}
    (run : Run deployment store start beats first)
    (running : first.monitor.phase.isTimed = true)
    (before : first.clock ≤ since) (after : ∀ beat ∈ rest, since ≤ beat.time)
    (later : Machine.exec (step deployment) first rest = some site)
    (prompt : Machine.Always (Monitor.step deployment.monitorConfig)
      (fun monitor move => monitor.Prompt cycle lag move.time) (.init start)
      (monitorMoves (beats ++ rest)))
    (promptNow : site.monitor.Prompt cycle lag now)
    (found : site.listener.gateway.app.upstream? target = some upstream)
    (parses : deployment.settings.uriValid upstream.url = true)
    (turned : ∀ probe ∈ Monitor.probes deployment.monitorConfig target first.monitor
      (monitorMoves rest), since ≤ probe.sentAt → probe.result.isSuccess = kind)
    (positive : 0 < (deployment.settings.config.healthCheck.threshold kind).toNat)
    (passed : since + (deployment.settings.config.healthCheck.threshold kind).toNat *
      Monitor.gap deployment.monitorConfig cycle lag + cycle < now) :
    upstream.mutable.health = .ofOutcome kind := by
  have whole : Run deployment store start (beats ++ rest) site :=
    Machine.exec_append_iff.mpr ⟨first, run, later⟩
  obtain ⟨isTarget, sameParse⟩ := target_of_found whole found
  have moved : Monitor.Run deployment.monitorConfig start (monitorMoves beats) first.monitor :=
    monitor_of_exec run
  have splitMoves : monitorMoves (beats ++ rest) = monitorMoves beats ++ monitorMoves rest :=
    List.flatMap_append
  rw [splitMoves] at prompt
  obtain ⟨earlier, recent, isProbes, enough, sent⟩ := Monitor.probed_within moved
    (MonitorPhase.exists_of_isTimed running)
    ((monitor_clock_le run).trans before) (by
      intro move member
      obtain ⟨beat, isBeat, isMove⟩ := List.mem_flatMap.mp member
      have dated : move.time = beat.time := by
        unfold Beat.moves at isMove
        split at isMove
        · rw [List.mem_singleton.mp isMove]
        · cases isMove
      rw [dated]
      exact after beat isBeat)
    (monitor_of_exec later) prompt promptNow isTarget (sameParse.trans parses) passed
  -- The outcomes that the upstream has processed end in those of the recent probes.
  have outcomes : Notice.verdicts
      (past deployment arith store start (beats ++ rest) target upstream.url) =
        probeOutcomes (Monitor.probes deployment.monitorConfig target (.init start)
          (monitorMoves beats) ++ earlier) ++ probeOutcomes recent := by
    obtain ⟨gateway, isRun, -⟩ := gateway_of_run whole
    have told := Gateway.probes_of_past target isRun
    have isPast : past deployment arith store start (beats ++ rest) target upstream.url =
        Gateway.past deployment.settings target start
          (gatewayEvents deployment arith store start (beats ++ rest)) := by
      simp [past, Notice.heard, parses]
    rw [Notice.verdicts, isPast, gatewayEvents, told]
    have finished := probes_of_run target whole
    unfold gatewayEvents at finished
    rw [finished, splitMoves]
    rw [Monitor.probes_append moved, isProbes, ← List.append_assoc]
    exact List.map_append
  have decided := (explains_of_run whole found).status.health
  rw [decided, outcomes]
  have equal : ∀ outcome ∈ probeOutcomes recent, outcome = kind := by
    intro outcome member
    obtain ⟨probe, isRecent, rfl⟩ := List.mem_map.mp member
    exact turned probe (by rw [isProbes]; exact List.mem_append_right _ isRecent)
      (sent probe isRecent)
  have long := Runs.length_le_trailing equal
    (probeOutcomes (Monitor.probes deployment.monitorConfig target (.init start)
      (monitorMoves beats) ++ earlier))
  have sameLength : (probeOutcomes recent).length = recent.length := List.length_map _
  refine decidedHealth_of_trailing ?_ (enough.trans (sameLength ▸ long))
  rcases List.eq_nil_or_concat (probeOutcomes recent) with none | ⟨front, last, isConcat⟩
  · rw [none] at sameLength
    simp at sameLength
    omega
  · have isLast := equal last (by rw [isConcat]; simp)
    rw [isConcat, List.concat_eq_append, ← List.append_assoc, List.getLast?_concat, isLast]

/-- The next cycle of the small server, in which the first upstream does not answer. -/
def failingBeats : List Beat :=
  [⟨5000000000, .monitor .tick⟩,
    ⟨5000000000, .monitor (.launch ⟨0, 0⟩)⟩,
    ⟨5000000000, .monitor (.launch ⟨0, 1⟩)⟩,
    ⟨5000000000, .monitor (.finish ⟨0, 0⟩ .failed)⟩,
    ⟨5000000000, .monitor (.finish ⟨0, 1⟩ (.response 200))⟩]

/-- Where one failure is enough, an upstream that stops answering is unhealthy after the
period of the task. -/
theorem health_known_within_failing :
    ∃ (first site : Site .rat) (upstream : UpstreamState),
      Run smallDeployment .new 0 startBeats first ∧
      Machine.exec (step smallDeployment) first failingBeats = some site ∧
      site.listener.gateway.app.upstream? firstUpstream = some upstream ∧
      upstream.mutable.health = .unhealthy := by
  have computed : ((Machine.exec (step smallDeployment) (init smallDeployment .rat .new 0)
      startBeats).bind fun first =>
        (Machine.exec (step smallDeployment) first failingBeats).map fun site =>
          first.clock == 0 && first.monitor.phase.isTimed &&
            decide (site.monitor.Prompt 0 0 5000000001) &&
            decide (∀ probe ∈ Monitor.probes smallDeployment.monitorConfig firstUpstream
              first.monitor (monitorMoves failingBeats),
                0 ≤ probe.sentAt → probe.result.isSuccess = false) &&
            (site.listener.gateway.app.upstream? firstUpstream).isSome) = some true := by
    decide +kernel
  obtain ⟨first, run, computed⟩ := Option.bind_eq_some_iff.mp computed
  obtain ⟨site, later, facts⟩ := Option.map_eq_some_iff.mp computed
  simp only [Bool.and_eq_true, beq_iff_eq, decide_eq_true_eq] at facts
  obtain ⟨⟨⟨⟨isClock, running⟩, promptNow⟩, turned⟩, isUpstream⟩ := facts
  obtain ⟨upstream, found⟩ := Option.isSome_iff_exists.mp isUpstream
  have prompt : Machine.Always (Monitor.step smallDeployment.monitorConfig)
      (fun monitor move => monitor.Prompt 0 0 move.time) (.init 0)
      (monitorMoves (startBeats ++ failingBeats)) :=
    Machine.always_of_trace (by decide +kernel)
  exact ⟨first, site, upstream, run, later, found,
    health_known_within run running isClock.le (fun _ _ => Nat.zero_le _) later prompt promptNow
      found rfl turned (by decide) (by decide +kernel)⟩

end Runs

end Site

end SorobanGate
