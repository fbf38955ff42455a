import SorobanGate.Gateway.Upstream

/-!
# Forced health over whole runs

An admin operation sets the status of an upstream but leaves the counters of its
probes alone.  What the counters remember from before then counts towards the
threshold that is to undo the operation.
-/

namespace SorobanGate

/-- The status that a notice sets outright. -/
def Notice.sets? : Notice → Option HealthStatus
  | .marked => some .healthy
  | .forced _ enable => some (.ofOutcome enable)
  | _ => none

/-- The outcome that an upstream processes when it is told of a probe. -/
def Notice.processed? (settings : Settings) (upstream : UpstreamState) : Notice → Option Bool
  | .probed probe =>
      if settings.uriValid upstream.url then some probe.result.isSuccess else none
  | _ => none

@[simp] theorem Notice.receive_url (settings : Settings) (upstream : UpstreamState)
    (notice : Notice) : (notice.receive settings upstream).url = upstream.url := by
  cases notice with
  | probed probe => exact checkUpstream_url _ _ _ _
  | completed now result => cases result <;> rfl
  | _ => rfl

/-- Inversion: what a notice does to the status and the counters. -/
theorem Notice.receive_cases (settings : Settings) (upstream : UpstreamState)
    (notice : Notice) :
    (∃ now success, notice.processed? settings upstream = some success ∧
        (notice.receive settings upstream).mutable =
          upstream.mutable.probed settings.config.healthCheck now success) ∨
      (notice.processed? settings upstream = none ∧
        (notice.receive settings upstream).mutable.counter = upstream.mutable.counter ∧
        (notice.receive settings upstream).mutable.health =
          notice.sets?.getD upstream.mutable.health) := by
  cases notice with
  | started => exact Or.inr ⟨rfl, rfl, rfl⟩
  | returned => exact Or.inr ⟨rfl, rfl, rfl⟩
  | completed now result =>
      refine Or.inr ⟨rfl, ?_, ?_⟩
      · funext kind
        cases result <;> cases kind <;> rfl
      · cases result <;> rfl
  | probed probe =>
      by_cases parses : settings.uriValid upstream.url = true
      · exact Or.inl ⟨probe.now, probe.result.isSuccess, if_pos parses,
          checkUpstream_mutable _ probe parses⟩
      · have ignored : checkUpstream settings.uriValid settings.config.healthCheck probe
            upstream = upstream := if_neg parses
        refine Or.inr ⟨if_neg parses, ?_, ?_⟩
        · simp only [receive, ignored]
        · simp only [receive, ignored, sets?, Option.getD_none]
  | marked =>
      refine Or.inr ⟨rfl, ?_, rfl⟩
      funext kind
      cases kind <;> rfl
  | forced now enable =>
      refine Or.inr ⟨rfl, ?_, ?_⟩
      · funext kind
        cases enable <;> cases kind <;> rfl
      · cases enable <;> rfl

/-- What a probe brings back when its outcome is of a kind. -/
def ProbeResult.ofOutcome : Bool → ProbeResult
  | true => .response 200
  | false => .failed

theorem HealthStatus.ofOutcome_injective : Function.Injective HealthStatus.ofOutcome := by
  intro left right equal
  cases left <;> cases right <;> first | rfl | cases equal

namespace Gateway

variable (settings : Settings) (target : UpstreamRef)

/-- The outcomes of probes that an upstream processes in a step. -/
def processed (gateway : Gateway) (timed : Timed) : List Bool :=
  match gateway.app.upstream? target with
  | some upstream => (gateway.notices target timed).filterMap (Notice.processed? settings upstream)
  | none => []

/-- Nothing but probes makes the status the one that outcomes of this kind lead to. -/
def Unforced (kind : Bool) (gateway : Gateway) (timed : Timed) : Prop :=
  ∀ notice ∈ gateway.notices target timed, notice.sets? ≠ some (.ofOutcome kind)

/-- A forced status survives until a full threshold of contrary probes: in no run from
here does the status become the one that outcomes of this kind lead to unless as many
of them as their threshold were processed in a row, or it was set outright. -/
def Survives (kind : Bool) (forced : Gateway) : Prop :=
  ∀ rest final after, Machine.exec (step settings) forced rest = some final →
    Machine.Always (step settings) (Unforced target kind) forced rest →
    final.app.upstream? target = some after →
    after.mutable.health = .ofOutcome kind →
    List.replicate (settings.config.healthCheck.threshold kind).toNat kind <:+:
      Machine.trace (step settings) (processed settings target) forced rest

/-- What the outcomes since a forced change say about the upstream, when its counter
started at zero or is about to. -/
structure Earned (config : HealthCheckConfig) (kind : Bool) (outcomes : List Bool)
    (state : UpstreamMutableState) : Prop where
  counted : (config.threshold kind).toNat ≤ 1 ∨ state.counter kind + 1 = 0 ∨
    ∃ length, List.replicate length kind <:+ outcomes ∧ (state.counter kind).toNat ≤ length
  threshold : state.health = .ofOutcome kind →
    List.replicate (config.threshold kind).toNat kind <:+: outcomes

variable {settings target}

theorem Earned.suffix {config : HealthCheckConfig} {kind : Bool} {outcomes : List Bool}
    {state : UpstreamMutableState} (earned : Earned config kind outcomes state) :
    (config.threshold kind).toNat ≤ 1 ∨
      ∃ length, List.replicate length kind <:+ outcomes ++ [kind] ∧
        (state.counter kind + 1).toNat ≤ length := by
  rcases earned.counted with trivial | wraps | ⟨length, suffix, bound⟩
  · exact Or.inl trivial
  · exact Or.inr ⟨0, List.nil_suffix, by simp [wraps]⟩
  · refine Or.inr ⟨length + 1, ?_, ?_⟩
    · obtain ⟨front, rfl⟩ := suffix
      exact ⟨front, by rw [List.replicate_succ', List.append_assoc]⟩
    · rw [UInt32.toNat_add]
      exact (Nat.mod_le _ _).trans (Nat.add_le_add_right bound 1)

theorem Earned.probed {config : HealthCheckConfig} {kind : Bool} {outcomes : List Bool}
    {state : UpstreamMutableState} (earned : Earned config kind outcomes state)
    (now : Instant) (success : Bool) :
    Earned config kind (outcomes ++ [success]) (state.probed config now success) := by
  have kept : ∀ {list : List Bool}, list <:+: outcomes → list <:+: outcomes ++ [success] :=
    fun inside => inside.trans (List.prefix_append outcomes [success]).isInfix
  by_cases same : success = kind
  · subst same
    have next := earned.suffix
    constructor
    · rw [UpstreamMutableState.probed_counter, if_pos rfl]
      exact next.imp_right Or.inr
    · intro isKind
      by_cases reached : config.threshold success ≤ state.counter success + 1
      · -- The counter has reached the threshold, and the outcomes are as many.
        rw [UInt32.le_iff_toNat_le] at reached
        rcases next with trivial | ⟨length, suffix, bound⟩
        · have single : List.replicate (config.threshold success).toNat success <:+ [success] := by
            rcases Nat.le_one_iff_eq_zero_or_eq_one.mp trivial with zero | one
            · simp [zero]
            · simp [one]
          exact (single.trans (List.suffix_append outcomes [success])).isInfix
        · have shorter : List.replicate (config.threshold success).toNat success <:+
              List.replicate length success :=
            ⟨List.replicate (length - (config.threshold success).toNat) success, by
              rw [← List.replicate_add]
              congr 1
              omega⟩
          exact (shorter.trans suffix).isInfix
      · rw [state.probed_health_of_short config now reached] at isKind
        exact kept (earned.threshold isKind)
  · constructor
    · rw [UpstreamMutableState.probed_counter, if_neg (Ne.symm same)]
      exact Or.inr (Or.inr ⟨0, List.nil_suffix, le_rfl⟩)
    · intro isKind
      by_cases reached : config.threshold success ≤ state.counter success + 1
      · rw [state.probed_health_of_reached config now reached] at isKind
        exact absurd (HealthStatus.ofOutcome_injective isKind) same
      · rw [state.probed_health_of_short config now reached] at isKind
        exact kept (earned.threshold isKind)

/-- A step that sets no contrary status keeps a forced one earned. -/
theorem Earned.step {kind : Bool} {outcomes : List Bool} {gateway next : Gateway}
    {timed : Timed} {before : UpstreamState}
    (earned : Earned settings.config.healthCheck kind outcomes before.mutable)
    (stepped : Gateway.step settings gateway timed = some next)
    (found : gateway.app.upstream? target = some before)
    (unforced : Unforced target kind gateway timed) :
    ∃ after, next.app.upstream? target = some after ∧
      Earned settings.config.healthCheck kind
        (outcomes ++ processed settings target gateway timed) after.mutable := by
  have isAfter := upstream?_step stepped target
  rw [found, Option.map_some] at isAfter
  refine ⟨_, isAfter, ?_⟩
  rcases notices_cases target gateway timed with silent | ⟨notice, told, -⟩
  · simpa [processed, found, silent] using earned
  · simp only [processed, found, told, List.foldl_cons, List.foldl_nil, List.filterMap_cons,
      List.filterMap_nil]
    rcases notice.receive_cases settings before with
      ⟨now, success, isProcessed, isProbed⟩ | ⟨ignored, sameCounter, sets⟩
    · rw [isProcessed, isProbed]
      exact earned.probed now success
    · rw [ignored]
      dsimp only
      rw [List.append_nil]
      constructor
      · rw [sameCounter]
        exact earned.counted
      · intro isKind
        rw [sets] at isKind
        have notSet := unforced notice (by simp [told])
        cases isSet : notice.sets? with
        | none =>
            rw [isSet] at isKind
            exact earned.threshold isKind
        | some status =>
            rw [isSet, Option.getD_some] at isKind
            exact absurd (isKind ▸ isSet) notSet

theorem survives_of_earned {kind : Bool} {forced : Gateway} {upstream : UpstreamState}
    (found : forced.app.upstream? target = some upstream)
    (earned : Earned settings.config.healthCheck kind [] upstream.mutable) :
    Survives settings target kind forced := by
  intro rest final after run unforced isAfter isKind
  have history : ∃ reached, final.app.upstream? target = some reached ∧
      Earned settings.config.healthCheck kind
        (Machine.trace (step settings) (processed settings target) forced rest)
        reached.mutable := by
    refine Machine.exec_history
      (fun events state =>
        Machine.Always (step settings) (Unforced target kind) forced events →
        ∃ reached : UpstreamState, state.app.upstream? target = some reached ∧
          Earned settings.config.healthCheck kind
            (Machine.trace (step settings) (processed settings target) forced events)
            reached.mutable)
      (fun _ => ⟨upstream, found, earned⟩) ?_ run unforced
    intro events state timed next prior ih stepped unforced
    obtain ⟨reached, isReached, stillEarned⟩ := ih unforced.init
    rw [Machine.trace_concat prior]
    exact stillEarned.step stepped isReached (unforced.last prior)
  obtain ⟨reached, isReached, stillEarned⟩ := history
  obtain rfl := Option.some.inj (isReached.symm.trans isAfter)
  exact stillEarned.threshold isKind

/-! ## Probes that complete a threshold early -/

theorem exists_probe (kind : Bool) {gateway : Gateway} {upstream : UpstreamState}
    (found : gateway.app.upstream? target = some upstream)
    (parses : settings.uriValid upstream.url = true) :
    let timed : Timed := ⟨gateway.clock, .background (.probe target 0 (.ofOutcome kind))⟩
    ∃ next after, step settings gateway timed = some next ∧ next.clock = gateway.clock ∧
      next.app.upstream? target = some after ∧ after.url = upstream.url ∧
      after.mutable =
        upstream.mutable.probed settings.config.healthCheck gateway.clock kind ∧
      processed settings target gateway timed = [kind] ∧ Unforced target kind gateway timed := by
  intro timed
  have told : gateway.notices target timed =
      [.probed ⟨gateway.clock, 0, .ofOutcome kind⟩] := by
    simp [notices, timed, Background.notices, notify]
  have outcome : (ProbeResult.ofOutcome kind).isSuccess = kind := by
    cases kind <;> rfl
  obtain ⟨next, stepped⟩ : ∃ next, step settings gateway timed = some next :=
    ⟨_, step_background_iff.mpr ⟨le_rfl, rfl⟩⟩
  have isAfter := upstream?_step stepped target
  rw [found, Option.map_some, told] at isAfter
  refine ⟨next, _, stepped, (clock_of_step stepped).2, isAfter, ?_, ?_, ?_, ?_⟩
  · simp
  · simp only [List.foldl_cons, List.foldl_nil, Notice.receive]
    rw [checkUpstream_mutable _ _ parses, outcome]
  · simp [processed, found, told, Notice.processed?, parses, outcome]
  · intro notice member
    rw [told, List.mem_singleton] at member
    rw [member]
    simp [Notice.sets?]

/-- A run of probes of one kind counts them, and makes the status of their kind when
the counter reaches the threshold at the last of them. -/
theorem exists_probes (kind : Bool) {gateway : Gateway} {upstream : UpstreamState}
    (found : gateway.app.upstream? target = some upstream)
    (parses : settings.uriValid upstream.url = true) (probes : Nat) :
    ∃ events final after, Machine.exec (step settings) gateway events = some final ∧
      final.clock = gateway.clock ∧ final.app.upstream? target = some after ∧
      after.url = upstream.url ∧
      after.mutable.counter kind = upstream.mutable.counter kind + .ofNat probes ∧
      Machine.Always (step settings) (Unforced target kind) gateway events ∧
      Machine.trace (step settings) (processed settings target) gateway events =
        List.replicate probes kind ∧
      (0 < probes →
        settings.config.healthCheck.threshold kind ≤ after.mutable.counter kind →
        after.mutable.health = .ofOutcome kind) := by
  induction probes with
  | zero =>
      refine ⟨[], gateway, upstream, rfl, rfl, found, rfl, by simp, ?_, rfl, by simp⟩
      intro before timed after state split
      simp at split
  | succ probes ih =>
      obtain ⟨events, middle, reached, run, sameClock, isReached, sameUrl, counted, unforced,
        shown, -⟩ := ih
      obtain ⟨final, after, stepped, clock, isAfter, url, isProbed, isKind, quiet⟩ :=
        exists_probe kind isReached (sameUrl ▸ parses)
      refine ⟨events ++ [⟨middle.clock, .background (.probe target 0 (.ofOutcome kind))⟩], final,
        after, Machine.exec_concat_iff.mpr ⟨middle, run, stepped⟩, clock.trans sameClock, isAfter,
        url.trans sameUrl, ?_, ?_, ?_, ?_⟩
      · rw [isProbed, UpstreamMutableState.probed_counter, if_pos rfl, counted, UInt32.ofNat_add,
          UInt32.add_assoc]
        rfl
      · exact unforced.concat run quiet
      · rw [Machine.trace_concat run, shown, isKind, List.replicate_succ']
      · intro _ enough
        rw [isProbed] at enough ⊢
        rw [UpstreamMutableState.probed_counter, if_pos rfl] at enough
        exact reached.mutable.probed_health_of_reached _ _ enough

/-- A counter that has something to remember, and room for one more, completes the
threshold before enough outcomes of its kind were processed. -/
theorem not_survives_of_counted {kind : Bool} {forced : Gateway} {upstream : UpstreamState}
    (found : forced.app.upstream? target = some upstream)
    (parses : settings.uriValid upstream.url = true)
    (several : 2 ≤ (settings.config.healthCheck.threshold kind).toNat)
    (counted : upstream.mutable.counter kind ≠ 0)
    (room : upstream.mutable.counter kind + 1 ≠ 0) :
    ¬ Survives settings target kind forced := by
  intro survives
  have positive : 0 < (upstream.mutable.counter kind).toNat := by
    apply Nat.pos_of_ne_zero
    intro zero
    exact counted (UInt32.toNat_inj.mp zero)
  have below : (upstream.mutable.counter kind).toNat + 1 < 2 ^ 32 := by
    have small := (upstream.mutable.counter kind).toNat_lt
    rw [ne_eq, ← UInt32.toNat_inj, UInt32.toNat_add] at room
    by_contra full
    apply room
    have isLast : (upstream.mutable.counter kind).toNat + 1 = 2 ^ 32 := by omega
    simp [isLast]
  have bound := (settings.config.healthCheck.threshold kind).toNat_lt
  -- The fewest outcomes that bring the counter to the threshold.
  obtain ⟨probes, positiveProbes, short, enough, fits⟩ : ∃ probes, 0 < probes ∧
      probes < (settings.config.healthCheck.threshold kind).toNat ∧
      (settings.config.healthCheck.threshold kind).toNat ≤
        (upstream.mutable.counter kind).toNat + probes ∧
      (upstream.mutable.counter kind).toNat + probes < 2 ^ 32 :=
    ⟨max 1 ((settings.config.healthCheck.threshold kind).toNat -
      (upstream.mutable.counter kind).toNat), by omega, by omega, by omega, by omega⟩
  obtain ⟨events, final, after, run, -, isAfter, -, sum, unforced, shown, reaches⟩ :=
    exists_probes kind found parses probes
  have isKind : after.mutable.health = .ofOutcome kind := by
    apply reaches positiveProbes
    rw [UInt32.le_iff_toNat_le, sum, UInt32.toNat_add,
      UInt32.toNat_ofNat_of_lt' (show probes < 2 ^ 32 by omega), Nat.mod_eq_of_lt fits]
    exact enough
  have processed := (survives events final after run unforced isAfter isKind).length_le
  rw [shown, List.length_replicate, List.length_replicate] at processed
  omega

theorem survives_of_unparsed {kind : Bool} {forced : Gateway} {upstream : UpstreamState}
    (found : forced.app.upstream? target = some upstream)
    (unparsed : settings.uriValid upstream.url = false)
    (other : upstream.mutable.health ≠ .ofOutcome kind) :
    Survives settings target kind forced := by
  intro rest final after run unforced isAfter isKind
  have history : ∃ reached : UpstreamState, final.app.upstream? target = some reached ∧
      reached.url = upstream.url ∧ reached.mutable.health ≠ .ofOutcome kind := by
    refine Machine.exec_history
      (fun events state =>
        Machine.Always (step settings) (Unforced target kind) forced events →
        ∃ reached : UpstreamState, state.app.upstream? target = some reached ∧
          reached.url = upstream.url ∧ reached.mutable.health ≠ .ofOutcome kind)
      (fun _ => ⟨upstream, found, rfl, other⟩) ?_ run unforced
    intro events state timed next prior ih stepped unforced
    obtain ⟨reached, isReached, sameUrl, stillOther⟩ := ih unforced.init
    have isNext := upstream?_step stepped target
    rw [isReached, Option.map_some] at isNext
    refine ⟨_, isNext, ?_⟩
    rcases notices_cases target state timed with silent | ⟨notice, told, -⟩
    · rw [silent]
      exact ⟨sameUrl, stillOther⟩
    · rw [told, List.foldl_cons, List.foldl_nil, Notice.receive_url]
      refine ⟨sameUrl, ?_⟩
      rcases notice.receive_cases settings reached with
        ⟨now, success, isProcessed, -⟩ | ⟨-, -, sets⟩
      · unfold Notice.processed? at isProcessed
        split at isProcessed
        · rw [sameUrl, unparsed] at isProcessed
          cases isProcessed
        · cases isProcessed
      · rw [sets]
        have notSet := (unforced.last prior) notice (by simp [told])
        cases isSet : notice.sets? with
        | none => exact stillOther
        | some status =>
            intro isKind
            exact notSet (isKind ▸ isSet)
  obtain ⟨reached, isReached, -, stillOther⟩ := history
  obtain rfl := Option.some.inj (isReached.symm.trans isAfter)
  exact absurd isKind stillOther

theorem forceHealth_counter (enable : Bool) (now : Instant) (upstream : UpstreamState) :
    (AppState.forceHealth enable now upstream).mutable.counter = upstream.mutable.counter := by
  funext kind
  cases enable <;> cases kind <;> rfl

theorem upstream?_of_forced {enable : Bool} {now : Instant} {encodedUrl : String}
    {gateway forced : Gateway} {before : UpstreamState}
    (located : gateway.app.locate (percentDecode encodedUrl) = some target)
    (found : gateway.app.upstream? target = some before)
    (stepped : step settings gateway ⟨now, .background (.setHealth encodedUrl enable)⟩ =
      some forced) :
    forced.app.upstream? target = some (AppState.forceHealth enable now before) := by
  rw [upstream?_step stepped, found]
  simp [notices, Background.notices, located, notify, Notice.receive]

/-- Forced health.  After an admin operation has set the status of an upstream, that
status survives until a full threshold of contrary probes exactly when the counter of
contrary outcomes stood at zero at the operation; apart from that only when the counter
was about to wrap to zero, when one outcome completes the threshold, or when the
upstream processes no probe at all. -/
theorem survives_iff_uncounted {kind : Bool} {now : Instant} {encodedUrl : String}
    {gateway forced : Gateway} {before : UpstreamState}
    (located : gateway.app.locate (percentDecode encodedUrl) = some target)
    (found : gateway.app.upstream? target = some before)
    (stepped : step settings gateway ⟨now, .background (.setHealth encodedUrl !kind)⟩ =
      some forced) :
    Survives settings target kind forced ↔
      before.mutable.counter kind = 0 ∨ before.mutable.counter kind + 1 = 0 ∨
        (settings.config.healthCheck.threshold kind).toNat ≤ 1 ∨
        settings.uriValid before.url = false := by
  have isForced := upstream?_of_forced located found stepped
  have sameCounter := forceHealth_counter (!kind) now before
  have other : (AppState.forceHealth (!kind) now before).mutable.health ≠ .ofOutcome kind := by
    cases kind <;> simp [AppState.forceHealth, UpstreamState.modifyMutable, HealthStatus.ofOutcome]
  constructor
  · intro survives
    by_contra remembered
    push Not at remembered
    obtain ⟨counted, room, several, parses⟩ := remembered
    refine not_survives_of_counted isForced (Bool.eq_true_of_not_eq_false parses) several ?_ ?_
      survives
    · rwa [sameCounter]
    · rwa [sameCounter]
  · have earned : before.mutable.counter kind = 0 ∨ before.mutable.counter kind + 1 = 0 ∨
        (settings.config.healthCheck.threshold kind).toNat ≤ 1 →
        Survives settings target kind forced := by
      intro uncounted
      apply survives_of_earned isForced
      refine ⟨?_, fun isKind => absurd isKind other⟩
      rw [sameCounter]
      rcases uncounted with zero | wraps | trivial
      · exact Or.inr (Or.inr ⟨0, List.nil_suffix, by simp [zero]⟩)
      · exact Or.inr (Or.inl wraps)
      · exact Or.inl trivial
    rintro (zero | wraps | trivial | unparsed)
    · exact earned (Or.inl zero)
    · exact earned (Or.inr (Or.inl wraps))
    · exact earned (Or.inr (Or.inr trivial))
    · exact survives_of_unparsed isForced unparsed other

/-! ## An operation between two probes -/

/-- The first upstream of the small gateway in some state of a run. -/
def firstState (events : List Timed) : Option UpstreamMutableState :=
  (Machine.exec (step (smallSettings [])) (init (smallSettings []) 0) events).bind fun gateway =>
    (gateway.app.upstream? firstUpstream).map UpstreamState.mutable

theorem exists_forced (events : List Timed) (enable : Bool)
    {state : UpstreamMutableState} (isState : firstState events = some state)
    (located : ((Machine.exec (step (smallSettings [])) (init (smallSettings []) 0) events).bind
      fun gateway => gateway.app.locate (percentDecode "http://node-a:8000")) =
        some firstUpstream) :
    ∃ gateway forced before, Run (smallSettings []) 0 events gateway ∧
      gateway.app.locate (percentDecode "http://node-a:8000") = some firstUpstream ∧
      gateway.app.upstream? firstUpstream = some before ∧ before.mutable = state ∧
      step (smallSettings []) gateway
        ⟨gateway.clock, .background (.setHealth "http://node-a:8000" enable)⟩ = some forced := by
  obtain ⟨gateway, run, isUpstream⟩ := Option.bind_eq_some_iff.mp isState
  obtain ⟨before, found, rfl⟩ := Option.map_eq_some_iff.mp isUpstream
  rw [run, Option.bind_some] at located
  exact ⟨gateway, _, before, run, located, found, rfl, step_background_iff.mpr ⟨le_rfl, rfl⟩⟩

/-- A fresh upstream that is disabled stays so until two successful probes in a row. -/
theorem survives_fresh_disable :
    ∃ gateway forced, Run (smallSettings []) 0 [] gateway ∧
      step (smallSettings []) gateway
        ⟨gateway.clock, .background (.setHealth "http://node-a:8000" false)⟩ = some forced ∧
      Survives (smallSettings []) firstUpstream true forced := by
  obtain ⟨gateway, forced, before, run, located, found, isState, stepped⟩ :=
    exists_forced [] false rfl (by decide +kernel)
  refine ⟨gateway, forced, run, stepped, ?_⟩
  have disabled : step (smallSettings []) gateway
      ⟨gateway.clock, .background (.setHealth "http://node-a:8000" !true)⟩ = some forced :=
    stepped
  apply (survives_iff_uncounted located found disabled).mpr
  left
  rw [isState]
  rfl

/-- One successful probe before the upstream is disabled, and one after it, put it back
in service although its threshold is two; and two failures before it is enabled, and
one after it, take it out of service although that threshold is three. -/
theorem forced_undone_early :
    (∃ gateway forced,
      Run (smallSettings []) 0 [⟨1, .background (.probe firstUpstream 0 (.response 200))⟩]
        gateway ∧
      step (smallSettings []) gateway
        ⟨gateway.clock, .background (.setHealth "http://node-a:8000" false)⟩ = some forced ∧
      ¬ Survives (smallSettings []) firstUpstream true forced) ∧
    ∃ gateway forced,
      Run (smallSettings []) 0 [⟨1, .background (.probe firstUpstream 0 .timedOut)⟩,
        ⟨2, .background (.probe firstUpstream 0 .timedOut)⟩] gateway ∧
      step (smallSettings []) gateway
        ⟨gateway.clock, .background (.setHealth "http://node-a:8000" true)⟩ = some forced ∧
      ¬ Survives (smallSettings []) firstUpstream false forced := by
  constructor
  · obtain ⟨gateway, forced, before, run, located, found, isState, stepped⟩ :=
      exists_forced [⟨1, .background (.probe firstUpstream 0 (.response 200))⟩] false rfl
        (by decide +kernel)
    refine ⟨gateway, forced, run, stepped, ?_⟩
    apply not_survives_of_counted (upstream?_of_forced located found stepped) rfl (by decide)
    · rw [forceHealth_counter, isState]
      decide
    · rw [forceHealth_counter, isState]
      decide
  · obtain ⟨gateway, forced, before, run, located, found, isState, stepped⟩ :=
      exists_forced [⟨1, .background (.probe firstUpstream 0 .timedOut)⟩,
        ⟨2, .background (.probe firstUpstream 0 .timedOut)⟩] true rfl (by decide +kernel)
    refine ⟨gateway, forced, run, stepped, ?_⟩
    apply not_survives_of_counted (upstream?_of_forced located found stepped) rfl (by decide)
    · rw [forceHealth_counter, isState]
      decide
    · rw [forceHealth_counter, isState]
      decide

end Gateway

end SorobanGate
