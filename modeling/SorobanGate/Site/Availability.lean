import SorobanGate.Gateway.Availability
import SorobanGate.Pool.Schedule
import SorobanGate.Site.Refinement

/-!
# Availability on a running server

No request can force the health of an upstream, and the health check task marks the
upstreams, if it does, before it probes them.  On a running server the past of an
upstream therefore always explains whether it is available.  When the task is not held
up, the past can be read off the clock: an upstream that has changed is known to have
changed after a bounded time.
-/

namespace SorobanGate

/-! ## Kinds of events -/

namespace Timed

def isMark (timed : Timed) : Bool :=
  match timed.event with
  | .background (.markHealthy _) => true
  | _ => false

def isProbe (timed : Timed) : Bool :=
  match timed.event with
  | .background (.probe _ _ _) => true
  | _ => false

def isForce (timed : Timed) : Bool :=
  match timed.event with
  | .background (.setHealth _ _) => true
  | _ => false

end Timed

/-- Upstreams are marked before any of them is probed. -/
def MarksFirst (events : List Timed) : Prop :=
  ∀ before timed after, events = before ++ timed :: after → timed.isMark = true →
    ∀ earlier ∈ before, earlier.isProbe = false

theorem MarksFirst.append {events more : List Timed} (first : MarksFirst events)
    (added : (∀ timed ∈ more, timed.isMark = false) ∨
      ∀ timed ∈ events ++ more, timed.isProbe = false) : MarksFirst (events ++ more) := by
  intro before timed after split isMark
  rcases added with noMark | noProbe
  · rcases List.append_eq_append_iff.mp split with ⟨front, -, isMore⟩ | ⟨rest, isEvents, isAfter⟩
    · rw [noMark timed (by rw [isMore]; simp)] at isMark
      cases isMark
    · cases rest with
      | nil =>
          rw [noMark timed (by simp at isAfter; rw [← isAfter]; simp)] at isMark
          cases isMark
      | cons head rest =>
          cases isAfter
          exact first before timed rest isEvents isMark
  · intro earlier member
    exact noProbe earlier (by rw [split]; exact List.mem_append_left _ member)

namespace Gateway

variable {settings : Settings} {target : UpstreamRef} {gateway next : Gateway} {timed : Timed}
  {notice : Notice}

theorem notice_kinds (told : notice ∈ gateway.notices target timed) :
    (notice.isForced = true → timed.isForce = true) ∧
      (notice = .marked → timed.isMark = true) ∧
      (notice.probe?.isSome = true → timed.isProbe = true) := by
  obtain ⟨now, event⟩ := timed
  cases event with
  | receive body => cases told
  | resume request action =>
      simp only [notices] at told
      split at told
      · unfold Phase.notices at told
        split at told
        · rw [(mem_notify.mp told).2]
          refine ⟨?_, ?_, ?_⟩ <;> exact fun kind => by cases kind
        · rw [(mem_notify.mp told).2]
          refine ⟨?_, ?_, ?_⟩ <;> exact fun kind => by cases kind
        · rw [(mem_notify.mp told).2]
          refine ⟨?_, ?_, ?_⟩ <;> exact fun kind => by cases kind
        · cases told
      · cases told
  | background event =>
      simp only [notices] at told
      unfold Background.notices at told
      split at told
      · rw [(mem_notify.mp told).2]
        refine ⟨?_, ?_, fun _ => rfl⟩ <;> exact fun kind => by cases kind
      · rw [(mem_notify.mp told).2]
        refine ⟨?_, fun _ => rfl, ?_⟩ <;> exact fun kind => by cases kind
      · split at told
        · rw [(mem_notify.mp told).2]
          refine ⟨fun _ => rfl, ?_, ?_⟩ <;> exact fun kind => by cases kind
        · cases told
      · cases told

theorem unforced_of_events {start : Instant} {events : List Timed}
    (unforced : ∀ timed ∈ events, timed.isForce = false) :
    ∀ notice ∈ past settings target start events, notice.isForced = false := by
  intro notice member
  obtain ⟨timed, isEvent, state, told⟩ := Machine.exists_of_mem_trace member
  cases isForced : notice.isForced with
  | false => rfl
  | true => exact ((notice_kinds told).1 isForced).symm.trans (unforced timed isEvent)

theorem markedFirst_of_events {start : Instant} {events : List Timed}
    (run : Run settings start events gateway) (first : MarksFirst events) :
    Notice.MarkedFirst (past settings target start events) := by
  intro earlier later split
  obtain ⟨before, timed, after, middle, next, left, right, rfl, prior, -, -, shows, rfl, -⟩ :=
    Machine.trace_split run split
  have isMark : timed.isMark = true :=
    (notice_kinds (by rw [shows]; simp : Notice.marked ∈ middle.notices target timed)).2.1 rfl
  have alone : left = [] := by
    rcases notices_cases target middle timed with silent | ⟨notice, told, -⟩
    · rw [silent] at shows
      simp at shows
    · rw [told] at shows
      cases left with
      | nil => rfl
      | cons head tail => simp at shows
  rw [alone, List.append_nil, List.filterMap_eq_nil_iff]
  intro notice member
  obtain ⟨other, isEarlier, state, told⟩ := Machine.exists_of_mem_trace member
  cases isProbe : notice.probe? with
  | none => rfl
  | some probe =>
      have contrary := first before timed after rfl isMark other isEarlier
      rw [(notice_kinds told).2.2 (by rw [isProbe]; rfl)] at contrary
      cases contrary

end Gateway

/-! ## The events of a running server -/

namespace Site

variable {arith : TokenArith} {deployment : Deployment} {site next : Site arith} {beat : Beat}

/-- An event is what the health check task does, or an ordinary one. -/
theorem events_cases {timed : Timed} (member : timed ∈ site.events deployment beat) :
    (∃ act effect, beat.happening = .monitor act ∧
        effect ∈ site.monitor.effects ⟨beat.time, act⟩ ∧
        timed = ⟨beat.time, .background effect.background⟩) ∨
      timed.isForce = false ∧ timed.isMark = false ∧ timed.isProbe = false := by
  obtain ⟨moment, isMoment, listener, shown⟩ := Machine.exists_of_mem_trace member
  obtain ⟨occurrence, isOccurrence, rfl⟩ := List.mem_map.mp isMoment
  have ofBackground : ∀ event, occurrence = .background event →
      timed = ⟨beat.time, .background event⟩ := by
    rintro event rfl
    exact List.mem_singleton.mp shown
  obtain ⟨time, happening⟩ := beat
  cases happening with
  | request web =>
      obtain rfl := List.mem_singleton.mp isOccurrence
      cases shown
  | read index complete =>
      obtain rfl := List.mem_singleton.mp isOccurrence
      obtain ⟨web, -, rfl⟩ := List.mem_map.mp shown
      exact Or.inr ⟨rfl, rfl, rfl⟩
  | resume request action =>
      obtain rfl := List.mem_singleton.mp isOccurrence
      obtain rfl := List.mem_singleton.mp shown
      exact Or.inr ⟨rfl, rfl, rfl⟩
  | evict slot =>
      rw [ofBackground _ (List.mem_singleton.mp isOccurrence)]
      exact Or.inr ⟨rfl, rfl, rfl⟩
  | monitor act =>
      obtain ⟨effect, isEffect, rfl⟩ := List.mem_map.mp isOccurrence
      exact Or.inl ⟨act, effect, rfl, isEffect, ofBackground _ rfl⟩
  | admin request ambient =>
      simp only [occurrences, Deployment.adminOccurrences] at isOccurrence
      cases called : adminCall request.method request.path with
      | error status =>
          rw [called] at isOccurrence
          cases isOccurrence
      | ok call =>
          -- No request reaches an operation that forces the health of an upstream.
          obtain ⟨handler, rfl⟩ := adminCall_plain called
          rw [called] at isOccurrence
          cases handler with
          | cacheFlush =>
              rw [ofBackground _ (List.mem_singleton.mp isOccurrence)]
              exact Or.inr ⟨rfl, rfl, rfl⟩
          | keysCreate =>
              obtain ⟨asked, -, rfl⟩ := List.mem_map.mp isOccurrence
              cases shown
          | _ => cases isOccurrence

section Runs

variable {store : SqliteKeyStore} {start : Instant} {beats : List Beat}

/-- Everything that a run comes to at the gateway. -/
def gatewayEvents (deployment : Deployment) (arith : TokenArith) (store : SqliteKeyStore)
    (start : Instant) (beats : List Beat) : List Timed :=
  Machine.trace (step deployment) (events deployment) (init deployment arith store start) beats

theorem unforced_of_run :
    ∀ timed ∈ gatewayEvents deployment arith store start beats, timed.isForce = false := by
  intro timed member
  obtain ⟨beat, -, site, shown⟩ := Machine.exists_of_mem_trace member
  rcases events_cases shown with ⟨act, effect, -, -, rfl⟩ | ⟨unforced, -, -⟩
  · cases effect <;> rfl
  · exact unforced

theorem quiet_of_other (other : ∀ act, beat.happening ≠ .monitor act) :
    ∀ timed ∈ site.events deployment beat, timed.isMark = false ∧ timed.isProbe = false := by
  intro timed member
  rcases events_cases member with ⟨act, -, isMonitor, -, -⟩ | ⟨-, quiet⟩
  · exact absurd isMonitor (other act)
  · exact quiet

/-- What the task does in one move: it marks before its timer is started, or it probes. -/
theorem quiet_of_move {act : MonitorAct UpstreamRef} {monitor : Monitor UpstreamRef}
    (isMonitor : beat.happening = .monitor act)
    (moved : site.monitor.Moves deployment.monitorConfig ⟨beat.time, act⟩ monitor) :
    ((∀ timed ∈ site.events deployment beat, timed.isMark = false) ∨
        ((∃ remaining, site.monitor.phase = .marking remaining) ∧
          ∀ timed ∈ site.events deployment beat, timed.isProbe = false)) ∧
      ((monitor.phase = .starting ∨ ∃ remaining, monitor.phase = .marking remaining) →
        (site.monitor.phase = .starting ∨ ∃ remaining, site.monitor.phase = .marking remaining) ∧
          ∀ timed ∈ site.events deployment beat, timed.isProbe = false) := by
  have ofEffect : ∀ {kind : Timed → Bool},
      (∀ effect ∈ site.monitor.effects ⟨beat.time, act⟩,
        kind ⟨beat.time, .background effect.background⟩ = false) →
      ∀ timed ∈ site.events deployment beat, timed.isMark = false ∧ timed.isProbe = false ∨
        kind timed = false := by
    intro kind quiet timed member
    rcases events_cases member with ⟨other, effect, isOther, isEffect, rfl⟩ | ⟨-, quiet⟩
    · cases isMonitor.symm.trans isOther
      exact Or.inr (quiet effect isEffect)
    · exact Or.inl quiet
  have noMark : (∀ effect ∈ site.monitor.effects ⟨beat.time, act⟩,
        Timed.isMark ⟨beat.time, .background effect.background⟩ = false) →
      ∀ timed ∈ site.events deployment beat, timed.isMark = false := fun quiet timed member =>
    (ofEffect quiet timed member).elim And.left id
  have noProbe : (∀ effect ∈ site.monitor.effects ⟨beat.time, act⟩,
        Timed.isProbe ⟨beat.time, .background effect.background⟩ = false) →
      ∀ timed ∈ site.events deployment beat, timed.isProbe = false := fun quiet timed member =>
    (ofEffect quiet timed member).elim And.right id
  have silent : ∀ {kind : Timed → Bool}, ∀ effect ∈ ([] : List (MonitorEffect UpstreamRef)),
      kind ⟨beat.time, .background effect.background⟩ = false :=
    fun _ isEffect => absurd isEffect List.not_mem_nil
  generalize site.monitor = before at moved noMark noProbe ⊢
  cases moved with
  | startMarking skip => exact ⟨Or.inl (noMark silent), fun _ => ⟨Or.inl rfl, noProbe silent⟩⟩
  | startChecking first => exact ⟨Or.inl (noMark silent), fun early => by simp at early⟩
  | mark =>
      have quiet := noProbe fun effect isEffect => by
        rw [List.mem_singleton.mp isEffect]
        rfl
      exact ⟨Or.inr ⟨⟨_, rfl⟩, quiet⟩, fun _ => ⟨Or.inr ⟨_, rfl⟩, quiet⟩⟩
  | launch isSpawned parses => exact ⟨Or.inl (noMark silent), fun early => by simp at early⟩
  | giveUp isSpawned fails => exact ⟨Or.inl (noMark silent), fun early => by simp at early⟩
  | finish isSent inTime =>
      refine ⟨Or.inl (noMark fun effect isEffect => ?_), fun early => by simp at early⟩
      simp only [Monitor.effects, isSent, List.mem_singleton] at isEffect
      rw [isEffect]
      rfl
  | panic isOver noTimer =>
      refine ⟨Or.inl (noMark ?_), fun early => by simp at early⟩
      rcases isOver with rfl | rfl <;> exact silent
  | timer isOver isTimer =>
      refine ⟨Or.inl (noMark ?_), fun early => by simp at early⟩
      rcases isOver with rfl | rfl <;> exact silent
  | tick isDue => exact ⟨Or.inl (noMark silent), fun early => by simp at early⟩

/-- In every run upstreams are marked before any of them is probed, and while that may
still happen none was probed. -/
theorem marksBefore_of_run (run : Run deployment store start beats site) :
    MarksFirst (gatewayEvents deployment arith store start beats) ∧
      ((site.monitor.phase = .starting ∨ ∃ remaining, site.monitor.phase = .marking remaining) →
        ∀ timed ∈ gatewayEvents deployment arith store start beats, timed.isProbe = false) := by
  refine Machine.exec_history
    (fun beats site => MarksFirst (gatewayEvents deployment arith store start beats) ∧
      ((site.monitor.phase = .starting ∨ ∃ remaining, site.monitor.phase = .marking remaining) →
        ∀ timed ∈ gatewayEvents deployment arith store start beats, timed.isProbe = false))
    ⟨?_, nofun⟩ ?_ run
  · intro before timed after split
    simp [gatewayEvents] at split
  · intro beats site beat next prior known stepped
    obtain ⟨first, unprobed⟩ := known
    unfold gatewayEvents at first unprobed ⊢
    rw [Machine.trace_concat prior]
    obtain ⟨-, -, -, ⟨act, isMonitor, isStep⟩ | ⟨other, same⟩⟩ := step_cases stepped
    · obtain ⟨quiet, early⟩ := quiet_of_move isMonitor (Monitor.moves_of_step isStep).2.2
      constructor
      · refine first.append (quiet.imp_right ?_)
        rintro ⟨isMarking, noProbe⟩ timed member
        rcases List.mem_append.mp member with before | new
        · exact unprobed (Or.inr isMarking) timed before
        · exact noProbe timed new
      · intro isEarly timed member
        obtain ⟨wasEarly, noProbe⟩ := early isEarly
        rcases List.mem_append.mp member with before | new
        · exact unprobed wasEarly timed before
        · exact noProbe timed new
    · have quiet := @quiet_of_other _ deployment site _ other
      constructor
      · exact first.append (Or.inl fun timed member => (quiet timed member).1)
      · intro isEarly timed member
        rcases List.mem_append.mp member with before | new
        · exact unprobed (same ▸ isEarly) timed before
        · exact (quiet timed new).2

/-- What an upstream was told in a run, and reacted to. -/
def past (deployment : Deployment) (arith : TokenArith) (store : SqliteKeyStore)
    (start : Instant) (beats : List Beat) (target : UpstreamRef) (url : String) : List Notice :=
  Notice.heard (deployment.settings.uriValid url)
    (Gateway.past deployment.settings target start
      (gatewayEvents deployment arith store start beats))

variable {target : UpstreamRef} {upstream : UpstreamState}

theorem explains_of_run (run : Run deployment store start beats site)
    (found : site.listener.gateway.app.upstream? target = some upstream) :
    Notice.Explains deployment.settings.config.healthCheck
      (past deployment arith store start beats target upstream.url) upstream.mutable := by
  obtain ⟨gateway, isRun, follows⟩ := gateway_of_run run
  obtain ⟨metrics, sameApp⟩ := follows.app
  have isUpstream : gateway.app.upstream? target = some upstream := by
    rw [sameApp]
    exact found
  exact Gateway.explains_of_run isRun isUpstream
    (Gateway.unforced_of_events unforced_of_run)
    (Gateway.markedFirst_of_events isRun (marksBefore_of_run run).1)

/-- Availability as a function of the past.  In every run of the server, whatever its
requests, an upstream is available exactly when the outcomes of its probes make it
healthy and either fewer than five of the forwards to it ended in an error so far, or a
probe was processed at least thirty seconds after the latest of them. -/
theorem available_iff_past (run : Run deployment store start beats site)
    (found : site.listener.gateway.app.upstream? target = some upstream) :
    let past := past deployment arith store start beats target upstream.url
    upstream.isAvailable = true ↔
      decidedHealth deployment.settings.config.healthCheck (Notice.initialHealth past)
          (Notice.verdicts past) = .healthy ∧
        ((Notice.errors past).length < 5 ∨ Notice.Recovered (.fromSecs 30) past) :=
  (explains_of_run run found).isAvailable_iff

/-- After the run with a key, a second forward goes to the other upstream and ends in an
error, and both answer their next probe. -/
def unluckyBeats : List Beat :=
  keyedBeats ++
    [⟨8, .request keyedCall⟩,
      ⟨8, .read 0 true⟩,
      ⟨8, .resume 1 (.select 0)⟩,
      ⟨8, .resume 1 .forward⟩,
      ⟨9, .resume 1 (.«return» (.error "connection refused"))⟩,
      ⟨9, .resume 1 .handle⟩,
      ⟨5000000000, .monitor .tick⟩,
      ⟨5000000000, .monitor (.launch ⟨0, 0⟩)⟩,
      ⟨5000000000, .monitor (.launch ⟨0, 1⟩)⟩,
      ⟨5000000000, .monitor (.finish ⟨0, 0⟩ (.response 200))⟩,
      ⟨5000000000, .monitor (.finish ⟨0, 1⟩ (.response 200))⟩]

/-- An upstream that was marked at the start, has failed once and has answered a probe is
available, as its past says. -/
theorem available_iff_past_unlucky :
    ∃ (site : Site .rat) (upstream : UpstreamState),
      Run smallDeployment .new 0 unluckyBeats site ∧
      site.listener.gateway.app.upstream? ⟨0, 1⟩ = some upstream ∧
      let past := past smallDeployment .rat .new 0 unluckyBeats ⟨0, 1⟩ upstream.url
      Notice.initialHealth past = .healthy ∧ Notice.verdicts past = [true] ∧
        Notice.errors past = [9] ∧ upstream.isAvailable = true := by
  have runs : ((Machine.exec (step smallDeployment) (init smallDeployment .rat .new 0)
      unluckyBeats).any fun site =>
        (site.listener.gateway.app.upstream? ⟨0, 1⟩).any fun upstream =>
          upstream.url = "http://node-b:8000") = true := by
    decide +kernel
  obtain ⟨site, run, isNamed⟩ := (Option.any_eq_true _ _).mp runs
  obtain ⟨upstream, found, isNamed⟩ := (Option.any_eq_true _ _).mp isNamed
  have isUrl : upstream.url = "http://node-b:8000" := by simpa using isNamed
  have computed :
      let past := past smallDeployment .rat .new 0 unluckyBeats ⟨0, 1⟩ "http://node-b:8000"
      Notice.initialHealth past = .healthy ∧ Notice.verdicts past = [true] ∧
        Notice.errors past = [9] := by
    decide +kernel
  rw [← isUrl] at computed
  obtain ⟨marked, verdicts, errors⟩ := computed
  refine ⟨site, upstream, run, found, marked, verdicts, errors,
    (available_iff_past run found).mpr ⟨?_, Or.inl ?_⟩⟩
  · rw [marked, verdicts]
    decide
  · rw [errors]
    decide

end Runs

end Site

end SorobanGate
