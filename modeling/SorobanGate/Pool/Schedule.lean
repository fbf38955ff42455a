import SorobanGate.Pool.Monitor

/-!
# When upstreams are probed

The timer of the health check task is due at fixed times, whatever the cycles take.  The
number of probes that an upstream has seen is therefore a function of the time, once the
task has caught up with its timer; and if the task is not held up for long, the probes of
an upstream that has changed follow each other fast enough to bound the time after which
the change is noticed.
-/

namespace SorobanGate

namespace Monitor

variable {Target : Type} [DecidableEq Target] {config : MonitorConfig Target}
  {monitor next first : Monitor Target} {move : MonitorMove Target} {start : Instant}
  {moves : List (MonitorMove Target)} {target : Target}

/-! ## The timer -/

/-- The cycle that is run before the timer is started, unless it is skipped. -/
def initialCycles (config : MonitorConfig Target) : Nat := if config.skipInitial then 0 else 1

/-- When the timer was started. -/
def timerStarts (moves : List (MonitorMove Target)) : List Instant :=
  moves.filterMap fun move =>
    match move.act with
    | .timer => some move.time
    | _ => none

/-- What the moves so far say about the phase: the timer is due a period after the
latest tick was. -/
def OnSchedule (config : MonitorConfig Target) (moves : List (MonitorMove Target))
    (monitor : Monitor Target) : Prop :=
  match monitor.phase with
  | .starting => moves.countP (beginsCycle config) = 0 ∧ timerStarts moves = []
  | .marking _ => config.skipInitial = true ∧ moves.countP (beginsCycle config) = 0 ∧
      timerStarts moves = []
  | .checking _ _ none => config.skipInitial = false ∧
      moves.countP (beginsCycle config) = 1 ∧ timerStarts moves = []
  | .checking _ _ (some due) => ∃ armed ticks, timerStarts moves = [armed] ∧
      moves.countP (beginsCycle config) = initialCycles config + ticks ∧
      due = armed + (ticks + 1) * config.period ∧ armed + ticks * config.period ≤ monitor.clock
  | .panicked => config.period = 0

theorem interval_eq_some {period : Duration} {timer : Interval}
    (isTimer : interval period = some timer) : period ≠ 0 ∧ timer.period = period := by
  unfold interval at isTimer
  split_ifs at isTimer with zero
  cases isTimer
  exact ⟨zero, rfl⟩

theorem eq_zero_of_interval {period : Duration} (noTimer : interval period = none) :
    period = 0 := by
  unfold interval at noTimer
  split_ifs at noTimer with zero
  exact zero

omit [DecidableEq Target] in
theorem OnSchedule.within {clock began ended now began' ended' : Instant}
    {spawned spawned' : List Target} {sent sent' : List (Target × Instant)}
    {due : Option Instant}
    (scheduled : OnSchedule config moves ⟨clock, .checking spawned sent due, began, ended⟩)
    (inOrder : clock ≤ now) (noCycle : beginsCycle config move = false)
    (noTimer : timerStarts [move] = []) :
    OnSchedule config (moves ++ [move]) ⟨now, .checking spawned' sent' due, began', ended'⟩ := by
  have begun : (moves ++ [move]).countP (beginsCycle config) =
      moves.countP (beginsCycle config) := by
    rw [List.countP_append, List.countP_singleton, noCycle]
    rfl
  have started : timerStarts (moves ++ [move]) = timerStarts moves := by
    rw [timerStarts, List.filterMap_append]
    exact (congrArg (timerStarts moves ++ ·) noTimer).trans (List.append_nil _)
  cases due with
  | none =>
      unfold OnSchedule
      dsimp only
      rw [begun, started]
      exact scheduled
  | some due =>
      obtain ⟨armed, ticks, isArmed, count, isDue, passed⟩ := scheduled
      exact ⟨armed, ticks, started.trans isArmed, begun.trans count, isDue, passed.trans inOrder⟩

theorem OnSchedule.preserved (scheduled : OnSchedule config moves monitor)
    (moved : Moves config monitor move next) (inOrder : monitor.clock ≤ move.time) :
    OnSchedule config (moves ++ [move]) next := by
  have begun : (moves ++ [move]).countP (beginsCycle config) =
      moves.countP (beginsCycle config) + if beginsCycle config move then 1 else 0 := by
    rw [List.countP_append, List.countP_singleton]
  have started : timerStarts (moves ++ [move]) = timerStarts moves ++ timerStarts [move] :=
    List.filterMap_append
  cases moved with
  | startMarking skip =>
      obtain ⟨none, unarmed⟩ := scheduled
      exact ⟨skip, begun.trans (by rw [none, beginsCycle, skip]; rfl),
        started.trans (by rw [unarmed]; rfl)⟩
  | startChecking first =>
      obtain ⟨none, unarmed⟩ := scheduled
      exact ⟨first, begun.trans (by rw [none, beginsCycle, first]; rfl),
        started.trans (by rw [unarmed]; rfl)⟩
  | mark =>
      obtain ⟨skip, none, unarmed⟩ := scheduled
      exact ⟨skip, begun.trans (by rw [none]; rfl), started.trans (by rw [unarmed]; rfl)⟩
  | launch _ _ => exact scheduled.within inOrder rfl rfl
  | giveUp _ _ => exact scheduled.within inOrder rfl rfl
  | finish _ _ => exact scheduled.within inOrder rfl rfl
  | panic _ noTimer => exact eq_zero_of_interval noTimer
  | @timer _ _ _ now _ timer isOver isTimer =>
      have first : moves.countP (beginsCycle config) = initialCycles config ∧
          timerStarts moves = [] := by
        rcases isOver with rfl | rfl
        · obtain ⟨skip, none, unarmed⟩ := scheduled
          exact ⟨by rw [none, initialCycles, skip]; rfl, unarmed⟩
        · obtain ⟨first, one, unarmed⟩ := scheduled
          exact ⟨by rw [one, initialCycles, first]; rfl, unarmed⟩
      refine ⟨now, 0, started.trans (by rw [first.2]; rfl),
        begun.trans (by rw [first.1]; rfl), ?_, by simp⟩
      rw [(interval_eq_some isTimer).2, Nat.zero_add, Nat.one_mul]
  | @tick _ _ _ now due isDue =>
      obtain ⟨armed, ticks, isArmed, count, rfl, -⟩ := scheduled
      refine ⟨armed, ticks + 1, started.trans (by rw [isArmed]; rfl),
        begun.trans (by rw [count]; rfl), ?_, isDue⟩
      rw [Nat.succ_mul (ticks + 1), Nat.add_assoc]

theorem onSchedule_of_run (run : Run config start moves monitor) :
    OnSchedule config moves monitor := by
  refine Machine.exec_history (OnSchedule config) ?_ ?_ run
  · exact ⟨rfl, rfl⟩
  · intro moves monitor move next _ scheduled stepped
    obtain ⟨inOrder, -, moved⟩ := moves_of_step stepped
    exact scheduled.preserved moved inOrder

/-- On schedule.  In every run of a task whose timer was started at some time, an upstream
whose URL parses has been probed at most once before that and at most once in each period
since, however long the cycles take; and whenever no check is under way and the timer is
not due, it has been probed exactly once in each of them. -/
theorem probes_on_schedule (run : Run config start moves monitor)
    (isTarget : target ∈ config.targets) (parses : config.parses target = true)
    (isPeriod : config.period ≠ 0) {armed : Instant} (started : ⟨armed, .timer⟩ ∈ moves) :
    (probes config target (init start) moves).length ≤
        initialCycles config + (monitor.clock - armed) / config.period ∧
      ∀ due, monitor.phase = .checking [] [] (some due) → monitor.clock < due →
        (probes config target (init start) moves).length =
          initialCycles config + (monitor.clock - armed) / config.period := by
  have scheduled := onSchedule_of_run run
  have accounted : (probes config target (init start) moves).length +
      monitor.outstanding target = moves.countP (beginsCycle config) := by
    simpa [outstanding, init] using length_probes run isTarget parses
  have isStart : armed ∈ timerStarts moves :=
    List.mem_filterMap.mpr ⟨⟨armed, .timer⟩, started, rfl⟩
  have positive : 0 < config.period := Nat.pos_of_ne_zero isPeriod
  obtain ⟨clock, phase, began, ended⟩ := monitor
  cases phase with
  | starting =>
      rw [scheduled.2] at isStart
      cases isStart
  | marking remaining =>
      rw [scheduled.2.2] at isStart
      cases isStart
  | panicked => exact absurd scheduled isPeriod
  | checking spawned sent due =>
      cases due with
      | none =>
          rw [scheduled.2.2] at isStart
          cases isStart
      | some due =>
          obtain ⟨other, ticks, isArmed, count, rfl, passed⟩ := scheduled
          rw [isArmed, List.mem_singleton] at isStart
          subst isStart
          have few : ticks ≤ (clock - armed) / config.period := by
            rw [Nat.le_div_iff_mul_le positive]
            exact Nat.le_sub_of_add_le (Nat.add_comm _ _ ▸ passed)
          refine ⟨show _ ≤ initialCycles config + (clock - armed) / config.period by omega, ?_⟩
          intro due isIdle early
          cases isIdle
          have idle : (probes config target (init start) moves).length =
              initialCycles config + ticks := by
            simpa [outstanding, count] using accounted
          rw [idle]
          congr 1
          refine le_antisymm few (Nat.le_of_lt_succ ?_)
          rw [Nat.div_lt_iff_lt_mul positive]
          exact Nat.sub_lt_left_of_lt_add ((Nat.le_add_right _ _).trans passed) early

/-- The second cycle of the small task is late, but it is over before the timer is due again,
and by then every tick has been made up for. -/
theorem probes_on_schedule_small :
    let moves : List (MonitorMove Nat) :=
      smallMoves ++ [⟨2600000, .launch 1⟩, ⟨2700000, .finish 0 (.response 503)⟩]
    ∃ monitor : Monitor Nat, Run smallMonitor 0 moves monitor ∧
      (probes smallMonitor 0 (init 0) moves).length =
        initialCycles smallMonitor + (monitor.clock - 0) / smallMonitor.period := by
  intro moves
  have runs : ((Machine.exec (step smallMonitor) (init 0) moves).any fun monitor =>
      decide (monitor.phase = .checking [] [] (some 3000000)) &&
        decide (monitor.clock < 3000000)) = true := by
    decide +kernel
  obtain ⟨monitor, run, facts⟩ := (Option.any_eq_true _ _).mp runs
  simp only [Bool.and_eq_true, decide_eq_true_eq] at facts
  obtain ⟨isIdle, early⟩ := facts
  exact ⟨monitor, run, (probes_on_schedule run (by decide) rfl (by decide +kernel)
    (by simp [moves, smallMoves])).2 _ isIdle early⟩

/-! ## Answering in time -/

/-- The task is not held up at this time: a cycle lasts no longer than `cycle`, and the
next one begins no later than `lag` after it is due and the one before it is over. -/
def Prompt (cycle lag : Duration) (monitor : Monitor Target) (now : Instant) : Prop :=
  match monitor.phase with
  | .checking [] [] (some due) => now ≤ max monitor.ended due + lag
  | .checking _ _ (some _) => now ≤ monitor.began + cycle
  | _ => True

instance (cycle lag : Duration) : (monitor : Monitor Target) → (now : Instant) →
    Decidable (monitor.Prompt cycle lag now)
  | ⟨_, .checking [] [] (some due), _, ended⟩, now =>
      inferInstanceAs (Decidable (now ≤ max ended due + lag))
  | ⟨_, .checking (_ :: _) _ (some _), began, _⟩, now =>
      inferInstanceAs (Decidable (now ≤ began + cycle))
  | ⟨_, .checking [] (_ :: _) (some _), began, _⟩, now =>
      inferInstanceAs (Decidable (now ≤ began + cycle))
  | ⟨_, .checking [] [] none, _, _⟩, _ => inferInstanceAs (Decidable True)
  | ⟨_, .checking (_ :: _) _ none, _, _⟩, _ => inferInstanceAs (Decidable True)
  | ⟨_, .checking [] (_ :: _) none, _, _⟩, _ => inferInstanceAs (Decidable True)
  | ⟨_, .starting, _, _⟩, _ => inferInstanceAs (Decidable True)
  | ⟨_, .marking _, _, _⟩, _ => inferInstanceAs (Decidable True)
  | ⟨_, .panicked, _, _⟩, _ => inferInstanceAs (Decidable True)

/-- How far apart the beginnings of two cycles can be. -/
def gap (config : MonitorConfig Target) (cycle lag : Duration) : Duration :=
  max cycle config.period + lag

/-- What promptness so far says about the times in a state. -/
structure Timely (config : MonitorConfig Target) (cycle : Duration) (monitor : Monitor Target) :
    Prop where
  began : monitor.began ≤ monitor.clock
  sent : ∀ spawned sent due, monitor.phase = .checking spawned sent due →
    ∀ entry ∈ sent, monitor.began ≤ entry.2 ∧ entry.2 ≤ monitor.clock
  due : ∀ spawned sent due, monitor.phase = .checking spawned sent (some due) →
    due ≤ monitor.began + config.period ∧ monitor.ended ≤ monitor.began + cycle

variable {cycle lag : Duration}

omit [DecidableEq Target] in
/-- While a check is under way, promptness bounds the time since the cycle began. -/
theorem Prompt.busy {clock began ended now due : Instant} {spawned : List Target}
    {sent : List (Target × Instant)}
    (prompt : Prompt cycle lag ⟨clock, .checking spawned sent (some due), began, ended⟩ now)
    (isBusy : spawned ≠ [] ∨ sent ≠ []) : now ≤ began + cycle := by
  unfold Prompt at prompt
  split at prompt
  next isIdle =>
    cases isIdle
    simp at isBusy
  next isPhase =>
    cases isPhase
    exact prompt
  next other => exact absurd rfl (other _ _ _)

omit [DecidableEq Target] in
theorem Prompt.idle {now due : Instant} (prompt : Prompt cycle lag monitor now)
    (timely : Timely config cycle monitor)
    (isIdle : monitor.phase = .checking [] [] (some due)) :
    now ≤ monitor.began + gap config cycle lag := by
  obtain ⟨isDue, isOver⟩ := timely.due _ _ _ isIdle
  have bound : ∀ now ended due began cycle period lag : Nat, now ≤ max ended due + lag →
      due ≤ began + period → ended ≤ began + cycle → now ≤ began + (max cycle period + lag) := by
    intros
    omega
  unfold Prompt at prompt
  simp only [isIdle] at prompt
  exact bound _ _ _ _ _ _ _ prompt isDue isOver

omit [DecidableEq Target] in
theorem Timely.init (start : Instant) : Timely config cycle (init start) :=
  ⟨le_rfl, nofun, nofun⟩

theorem Timely.preserved (timely : Timely config cycle monitor)
    (moved : Moves config monitor move next) (inOrder : monitor.clock ≤ move.time)
    (prompt : Prompt cycle lag monitor move.time) : Timely config cycle next := by
  cases moved with
  | startMarking _ => exact ⟨le_rfl, nofun, nofun⟩
  | startChecking _ =>
      refine ⟨le_rfl, ?_, nofun⟩
      intro spawned sent due isPhase entry member
      cases isPhase
      cases member
  | mark => exact ⟨timely.began.trans inOrder, nofun, nofun⟩
  | launch _ _ =>
      refine ⟨timely.began.trans inOrder, ?_, ?_⟩
      · intro spawned sent due isPhase entry member
        cases isPhase
        rcases List.mem_append.mp member with before | isLast
        · obtain ⟨late, early⟩ := timely.sent _ _ _ rfl entry before
          exact ⟨late, early.trans inOrder⟩
        · rw [List.mem_singleton.mp isLast]
          exact ⟨timely.began.trans inOrder, le_rfl⟩
      · intro spawned sent due isPhase
        cases isPhase
        exact timely.due _ _ _ rfl
  | giveUp isSpawned _ =>
      refine ⟨timely.began.trans inOrder, ?_, ?_⟩
      · intro spawned sent due isPhase entry member
        cases isPhase
        obtain ⟨late, early⟩ := timely.sent _ _ _ rfl entry member
        exact ⟨late, early.trans inOrder⟩
      · intro spawned sent due isPhase
        cases isPhase
        exact ⟨(timely.due _ _ _ rfl).1, prompt.busy (Or.inl (List.ne_nil_of_mem isSpawned))⟩
  | finish isSent _ =>
      refine ⟨timely.began.trans inOrder, ?_, ?_⟩
      · intro spawned sent due isPhase entry member
        cases isPhase
        obtain ⟨late, early⟩ := timely.sent _ _ _ rfl entry (List.mem_of_mem_erase member)
        exact ⟨late, early.trans inOrder⟩
      · intro spawned sent due isPhase
        cases isPhase
        exact ⟨(timely.due _ _ _ rfl).1,
          prompt.busy (Or.inr (List.ne_nil_of_mem (mem_of_lookup isSent)))⟩
  | panic _ _ => exact ⟨timely.began.trans inOrder, nofun, nofun⟩
  | timer _ isTimer =>
      refine ⟨le_rfl, ?_, ?_⟩
      · intro spawned sent due isPhase entry member
        cases isPhase
        cases member
      · intro spawned sent due isPhase
        cases isPhase
        rw [(interval_eq_some isTimer).2]
        exact ⟨le_rfl, Nat.le_add_right _ _⟩
  | tick isDue =>
      refine ⟨le_rfl, ?_, ?_⟩
      · intro spawned sent due isPhase entry member
        cases isPhase
        cases member
      · intro spawned sent due isPhase
        cases isPhase
        exact ⟨Nat.add_le_add_right isDue _, Nat.le_add_right _ _⟩

theorem Timely.began_le_sentAt {probe : Probe} (timely : Timely config cycle monitor)
    (moved : Moves config monitor move next) (inOrder : monitor.clock ≤ move.time)
    (isLast : probe ∈ monitor.probesOf target move) : monitor.began ≤ probe.sentAt := by
  cases moved with
  | finish isSent _ =>
      rw [probesOf_finish isSent] at isLast
      split at isLast
      · obtain ⟨late, early⟩ := timely.sent _ _ _ rfl _ (mem_of_lookup isSent)
        obtain rfl := List.mem_singleton.mp isLast
        refine late.trans_eq (Eq.symm ?_)
        exact Nat.sub_sub_self (early.trans inOrder)
      · cases isLast
  | panic isOver _ => rcases isOver with rfl | rfl <;> cases isLast
  | timer isOver _ => rcases isOver with rfl | rfl <;> cases isLast
  | _ => cases isLast

theorem timely_of_run (run : Run config start moves monitor)
    (prompt : Machine.Always (step config)
      (fun monitor move => Prompt cycle lag monitor move.time) (init start) moves) :
    Timely config cycle monitor := by
  refine Machine.exec_history
    (fun moves monitor => Machine.Always (step config)
      (fun monitor move => Prompt cycle lag monitor move.time) (init start) moves →
      Timely config cycle monitor) (fun _ => .init start) ?_ run prompt
  intro moves monitor move next prior ih stepped prompt
  obtain ⟨inOrder, -, moved⟩ := moves_of_step stepped
  exact (ih prompt.init).preserved moved inOrder (prompt.last prior)

/-- Cycles since some time, and the probes that were sent in them. -/
structure Renewed (config : MonitorConfig Target) (cycle lag : Duration) (target : Target)
    (since : Instant) (cycles : Nat) (finished : List Probe) (monitor : Monitor Target) :
    Prop where
  running : ∃ spawned sent due, monitor.phase = .checking spawned sent (some due)
  began : monitor.began ≤ since + cycles * gap config cycle lag
  later : 0 < cycles → since ≤ monitor.began
  probed : ∃ earlier recent, finished = earlier ++ recent ∧
    (∀ probe ∈ recent, since ≤ probe.sentAt) ∧
    (0 < cycles → recent.length + monitor.outstanding target = cycles)

theorem Renewed.within {since : Instant} {cycles : Nat} {finished : List Probe}
    (renewed : Renewed config cycle lag target since cycles finished monitor)
    (moved : Moves config monitor move next) (noCycle : beginsCycle config move = false)
    (timely : Timely config cycle monitor) (inOrder : monitor.clock ≤ move.time)
    (isTarget : target ∈ config.targets) (parses : config.parses target = true)
    (sameBegan : next.began = monitor.began)
    (running : ∃ spawned sent due, next.phase = .checking spawned sent (some due)) :
    Renewed config cycle lag target since cycles
      (finished ++ monitor.probesOf target move) next := by
  obtain ⟨-, began, later, earlier, recent, rfl, sentSince, count⟩ := renewed
  have one := moved.accounts isTarget parses
  rw [noCycle] at one
  simp only [Bool.false_eq_true, if_false] at one
  refine ⟨running, sameBegan ▸ began, fun some => sameBegan ▸ later some, ?_⟩
  by_cases first : cycles = 0
  · exact ⟨earlier ++ recent ++ monitor.probesOf target move, [], by simp, by simp,
      fun some => absurd first some.ne'⟩
  · have some := Nat.pos_of_ne_zero first
    refine ⟨earlier, recent ++ monitor.probesOf target move, by simp, ?_, ?_⟩
    · intro probe member
      rcases List.mem_append.mp member with before | isLast
      · exact sentSince probe before
      · exact (later some).trans (timely.began_le_sentAt moved inOrder isLast)
    · intro _
      rw [List.length_append]
      have before := count some
      omega

/-- A tick begins a cycle in time, with a check for each upstream. -/
theorem Renewed.preserved {since : Instant} {cycles : Nat} {finished : List Probe}
    (renewed : Renewed config cycle lag target since cycles finished monitor)
    (moved : Moves config monitor move next) (timely : Timely config cycle monitor)
    (prompt : Prompt cycle lag monitor move.time) (inOrder : monitor.clock ≤ move.time)
    (recent : since ≤ move.time) (isTarget : target ∈ config.targets)
    (parses : config.parses target = true) :
    Renewed config cycle lag target since
      (cycles + if beginsCycle config move then 1 else 0)
      (finished ++ monitor.probesOf target move) next := by
  obtain ⟨spawned, sent, due, isRunning⟩ := renewed.running
  cases moved with
  | startMarking _ => cases isRunning
  | startChecking _ => cases isRunning
  | mark => cases isRunning
  | launch isSpawned parses' =>
      cases isRunning
      exact renewed.within (.launch isSpawned parses') rfl timely inOrder isTarget parses rfl
        ⟨_, _, _, rfl⟩
  | giveUp isSpawned fails =>
      cases isRunning
      exact renewed.within (.giveUp isSpawned fails) rfl timely inOrder isTarget parses rfl
        ⟨_, _, _, rfl⟩
  | finish isSent inTime =>
      cases isRunning
      exact renewed.within (.finish isSent inTime) rfl timely inOrder isTarget parses rfl
        ⟨_, _, _, rfl⟩
  | panic isOver _ => rcases isOver with rfl | rfl <;> cases isRunning
  | timer isOver _ => rcases isOver with rfl | rfl <;> cases isRunning
  | @tick _ began _ now _ isDue =>
      obtain ⟨-, earlyBegan, -, earlier, found, rfl, sentSince, count⟩ := renewed
      have once : config.targets.count target = 1 :=
        List.count_eq_one_of_mem config.distinct isTarget
      refine ⟨⟨_, _, _, rfl⟩, ?_, fun _ => recent, ?_⟩
      · calc now ≤ began + gap config cycle lag := prompt.idle timely rfl
          _ ≤ since + cycles * gap config cycle lag + gap config cycle lag :=
            Nat.add_le_add_right earlyBegan _
          _ = since + (cycles + 1) * gap config cycle lag := by
            rw [Nat.succ_mul, Nat.add_assoc]
      · by_cases first : cycles = 0
        · refine ⟨earlier ++ found, [], by simp [probesOf, effects], by simp, fun _ => ?_⟩
          simp [first, outstanding, once, beginsCycle]
        · have before := count (Nat.pos_of_ne_zero first)
          refine ⟨earlier, found, by simp [probesOf, effects], sentSince, fun _ => ?_⟩
          simpa [outstanding, once, beginsCycle] using before

/-- When the task is prompt, the cycles since some time give an upstream as many probes
as fit into the time that has passed. -/
theorem Renewed.enough {since now : Instant} {cycles wanted : Nat} {finished : List Probe}
    (renewed : Renewed config cycle lag target since cycles finished monitor)
    (timely : Timely config cycle monitor) (prompt : Prompt cycle lag monitor now)
    (single : monitor.outstanding target ≤ 1)
    (passed : since + wanted * gap config cycle lag + cycle < now) :
    ∃ earlier recent, finished = earlier ++ recent ∧ wanted ≤ recent.length ∧
      ∀ probe ∈ recent, since ≤ probe.sentAt := by
  obtain ⟨⟨spawned, sent, due, isRunning⟩, began, -, earlier, recent, rfl, sentSince, count⟩ :=
    renewed
  have fits : ∀ more, now ≤ since + more * gap config cycle lag + cycle → wanted < more := by
    intro more bound
    by_contra few
    have scaled := Nat.mul_le_mul_right (gap config cycle lag) (not_lt.mp few)
    have contradictory : ∀ since wanted more cycle now : Nat, since + wanted + cycle < now →
        now ≤ since + more + cycle → ¬ more ≤ wanted := by
      intros
      omega
    exact contradictory _ _ _ _ _ passed bound scaled
  refine ⟨earlier, recent, rfl, ?_, sentSince⟩
  by_cases isIdle : spawned = [] ∧ sent = []
  · obtain ⟨rfl, rfl⟩ := isIdle
    have bound : now ≤ since + (cycles + 1) * gap config cycle lag + cycle :=
      calc now ≤ monitor.began + gap config cycle lag := prompt.idle timely isRunning
        _ ≤ since + cycles * gap config cycle lag + gap config cycle lag :=
          Nat.add_le_add_right began _
        _ = since + (cycles + 1) * gap config cycle lag := by rw [Nat.succ_mul, Nat.add_assoc]
        _ ≤ since + (cycles + 1) * gap config cycle lag + cycle := Nat.le_add_right _ _
    have few := fits _ bound
    by_cases none : cycles = 0
    · omega
    · have idle : monitor.outstanding target = 0 := by simp [outstanding, isRunning]
      have all := count (Nat.pos_of_ne_zero none)
      omega
  · obtain ⟨clock, phase, beginning, ended⟩ := monitor
    cases isRunning
    have isBusy : spawned ≠ [] ∨ sent ≠ [] := not_and_or.mp isIdle
    have bound : now ≤ since + cycles * gap config cycle lag + cycle :=
      (prompt.busy isBusy).trans (Nat.add_le_add_right began cycle)
    have few := fits _ bound
    have all := count (Nat.zero_lt_of_lt few)
    omega

/-- From a state in which the timer runs, a prompt task sends an upstream its probes in
time. -/
theorem probed_within {later : List (MonitorMove Target)} {since now : Instant} {wanted : Nat}
    (run : Run config start moves first)
    (running : ∃ spawned sent due, first.phase = .checking spawned sent (some due))
    (before : first.clock ≤ since) (after : ∀ move ∈ later, since ≤ move.time)
    (rest : Machine.exec (step config) first later = some monitor)
    (prompt : Machine.Always (step config)
      (fun monitor move => Prompt cycle lag monitor move.time) (init start) (moves ++ later))
    (promptNow : Prompt cycle lag monitor now) (isTarget : target ∈ config.targets)
    (parses : config.parses target = true)
    (passed : since + wanted * gap config cycle lag + cycle < now) :
    ∃ earlier recent, probes config target first later = earlier ++ recent ∧
      wanted ≤ recent.length ∧ ∀ probe ∈ recent, since ≤ probe.sentAt := by
  have reaches : ∀ {later monitor}, Machine.exec (step config) first later = some monitor →
      Run config start (moves ++ later) monitor := fun rest =>
    Machine.exec_append_iff.mpr ⟨first, run, rest⟩
  have renewed : (∀ move ∈ later, since ≤ move.time) →
      Machine.Always (step config) (fun monitor move => Prompt cycle lag monitor move.time)
        (init start) (moves ++ later) →
      Renewed config cycle lag target since (later.countP (beginsCycle config))
        (probes config target first later) monitor := by
    refine Machine.exec_history
      (fun later monitor => (∀ move ∈ later, since ≤ move.time) →
        Machine.Always (step config) (fun monitor move => Prompt cycle lag monitor move.time)
          (init start) (moves ++ later) →
        Renewed config cycle lag target since (later.countP (beginsCycle config))
          (probes config target first later) monitor) ?_ ?_ rest
    · intro _ prompt
      have timely := timely_of_run run (List.append_nil moves ▸ prompt)
      exact ⟨running, by simpa using timely.began.trans before, nofun, [], [], rfl, nofun, nofun⟩
    · intro later monitor move next prior ih stepped after prompt
      rw [← List.append_assoc] at prompt
      obtain ⟨inOrder, -, moved⟩ := moves_of_step stepped
      have recent : since ≤ move.time := after move (by simp)
      have one := (ih (fun move member => after move (List.mem_append_left _ member))
        prompt.init).preserved moved (timely_of_run (reaches prior) prompt.init)
        (prompt.last (reaches prior)) inOrder recent isTarget parses
      unfold probes at one ⊢
      rw [Machine.trace_concat prior, List.countP_append, List.countP_singleton]
      exact one
  exact (renewed after prompt).enough (timely_of_run (reaches rest) prompt) promptNow
    (outstanding_le_one (reaches rest) isTarget parses) passed

end Monitor

end SorobanGate
