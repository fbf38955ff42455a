import SorobanGate.Server.Serve

/-!
# Whether the server stops

With TLS the main server binds its address a second time while the first listener is still
held, so that it never serves.  And a server is told to stop only if it waits when the
signal is handled: the notification is not kept for a server that begins to wait later.
-/

namespace SorobanGate

/-- The server has served at some time and not failed since. -/
def Progress.isUp : Progress → Bool
  | .serving | .done (.ok ()) => true
  | .absent | .spawned | .loaded | .done (.error _) => false

namespace Serve

variable {config : ServeConfig} {state next final : Serve} {event : ServeEvent}
  {server : Server} {events rest : List ServeEvent}

/-! ## TLS -/

/-- The address of the main server is taken before its task exists, and it is not up. -/
structure Shut (config : ServeConfig) (state : Serve) : Prop where
  taken : config.bind ∈ state.held ∨ (state.tasks .main).progress = .absent ∧
    (state.stage = .buildState ∨ state.stage = .bindMain ∨ state.isPast = true)
  notUp : (state.tasks .main).progress.isUp = false

theorem Shut.isHeld (shut : Shut config state) (built : state.stage ≠ .buildState)
    (started : state.stage ≠ .bindMain) (goesOn : state.isPast = false) :
    config.bind ∈ state.held := by
  rcases shut.taken with isHeld | ⟨-, unbuilt | atStart | past⟩
  · exact isHeld
  · exact absurd unbuilt built
  · exact absurd atStart started
  · cases goesOn.symm.trans past

theorem Shut.turns {after : ServerTask} (shut : Shut config state)
    (tls : config.tlsEnabled = true) (fixed : config.bind.port ≠ 0)
    (turns : Turns config state .main (state.tasks .main) after) :
    after.progress.isUp = false := by
  have isMain : isTls config .main = true := by simp [isTls, tls]
  have notUp := shut.notUp
  have taken := shut.taken
  generalize state.tasks .main = task at turns notUp taken
  cases turns with
  | loaded _ => rfl
  | unreadable => rfl
  | bound _ isFree =>
      rcases taken with isHeld | ⟨isAbsent, -⟩
      · simp [bindable, fixed, isHeld] at isFree
      · cases isAbsent
  | refused => rfl
  | started isPlain => cases isPlain.symm.trans isMain
  | registered => exact notUp
  | failed => rfl
  | finished => cases notUp

theorem Shut.step (shut : Shut config state) (tls : config.tlsEnabled = true)
    (fixed : config.bind.port ≠ 0) (stepped : step config state event = some next) :
    Shut config next := by
  obtain ⟨effect, running⟩ := effect_of_step stepped
  cases effect with
  | unbuilt isBuilding isEnabled isAfter =>
      subst isAfter
      exact ⟨shut.taken.imp id fun absent => ⟨absent.1, Or.inr (Or.inr rfl)⟩, shut.notUp⟩
  | built isBuilding isAfter =>
      subst isAfter
      exact ⟨shut.taken.imp id fun absent => ⟨absent.1, Or.inr (Or.inl rfl)⟩, shut.notUp⟩
  | aborted isNext isAfter =>
      subst isAfter
      exact ⟨shut.taken.imp id fun absent => ⟨absent.1, Or.inr (Or.inr rfl)⟩, shut.notUp⟩
  | @bound address isNext isAfter =>
      subst isAfter
      unfold nextAddress at isNext
      split at isNext
      next isStage =>
        cases isNext
        simp only [proceed, isStage]
        exact ⟨Or.inl (by simp), shut.notUp⟩
      next isStage =>
        have isHeld := shut.isHeld (by simp [isStage]) (by simp [isStage])
          (by simp [isPast, isStage])
        simp only [proceed, isStage]
        cases config.metricsEnabled
        · exact ⟨Or.inl (List.mem_append_left _ isHeld), rfl⟩
        · exact ⟨Or.inl (List.mem_append_left _ isHeld), rfl⟩
      next isStage =>
        have isHeld := shut.isHeld (by simp [isStage]) (by simp [isStage])
          (by simp [isPast, isStage])
        simp only [proceed, isStage]
        exact ⟨Or.inl (List.mem_append_left _ isHeld), shut.notUp⟩
      · cases isNext
  | @turned _ server after turns noSignal sameStage isHeld isAfter =>
      by_cases isMain : server = .main
      · subst isMain
        refine ⟨?_, by rw [isAfter, Function.update_self]; exact shut.turns tls fixed turns⟩
        rcases shut.taken with already | ⟨isAbsent, early⟩
        · exact Or.inl (isHeld.subset already)
        · refine Or.inr ⟨?_, by rw [isPast, sameStage]; exact early⟩
          rw [isAfter, Function.update_self]
          generalize state.tasks .main = task at turns isAbsent
          cases turns with
          | registered => exact isAbsent
          | _ => cases isAbsent
      · have sameMain : next.tasks .main = state.tasks .main := by
          rw [isAfter, Function.update_of_ne (Ne.symm isMain)]
        refine ⟨?_, by rw [sameMain]; exact shut.notUp⟩
        rw [sameMain, isPast, sameStage]
        exact shut.taken.imp (fun already => isHeld.subset already) id
  | notified isWaiting isAfter =>
      subst isAfter
      have sameProgress : (state.notifyWaiters.tasks .main).progress =
          (state.tasks .main).progress := by
        rw [notifyWaiters_tasks]
        split <;> rfl
      refine ⟨Or.inl (shut.isHeld (by simp [isWaiting]) (by simp [isWaiting])
        (by simp [isPast, isWaiting])), ?_⟩
      show (state.notifyWaiters.tasks .main).progress.isUp = false
      rw [sameProgress]
      exact shut.notUp
  | @joined left server isStage isDone isAfter =>
      subst isAfter
      refine ⟨shut.taken.imp id fun absent => ⟨absent.1, Or.inr (Or.inr ?_)⟩, shut.notUp⟩
      cases left <;> rfl
  | broke server isStage isDone isAfter =>
      subst isAfter
      exact ⟨shut.taken.imp id fun absent => ⟨absent.1, Or.inr (Or.inr rfl)⟩, shut.notUp⟩

theorem shut_of_run (tls : config.tlsEnabled = true) (fixed : config.bind.port ≠ 0)
    (run : Run config events state) : Shut config state :=
  Machine.exec_invariant (Shut config) (fun _ _ _ shut stepped => shut.step tls fixed stepped)
    ⟨Or.inr ⟨rfl, Or.inl rfl⟩, rfl⟩ run

/-- TLS on a fixed port never works.  In every run the main server does not serve a
single connection, and `serve` never returns a success: when a signal makes it return,
it returns the error of the main server. -/
theorem tls_never_serves (tls : config.tlsEnabled = true) (fixed : config.bind.port ≠ 0)
    (run : Run config events state) :
    (state.tasks .main).progress ≠ .serving ∧
      ∀ result, state.stage = .returned result → ∃ message, result = .error message ∧
        (.signal ∈ events → (state.tasks .main).progress = .done (.error message)) := by
  have notUp := (shut_of_run tls fixed run).notUp
  constructor
  · intro serving
    simp [serving, Progress.isUp] at notUp
  · intro result isReturned
    cases outcome_of_run run isReturned with
    | unbuilt _ isOnly => exact ⟨_, rfl, by simp [isOnly]⟩
    | aborted noSignal _ => exact ⟨_, rfl, fun signalled => absurd signalled noSignal⟩
    | stopped _ allStopped => simp [allStopped .main, Progress.isUp] at notUp
    | @failed past left server message _ isFirst earlier isFailure =>
        refine ⟨message, rfl, fun _ => ?_⟩
        cases past with
        | nil =>
            cases isFirst
            exact isFailure
        | cons first past =>
            obtain ⟨rfl, -⟩ := List.cons.inj isFirst
            simp [earlier .main List.mem_cons_self, Progress.isUp] at notUp

/-- Everything is prepared, and then the main server finds its address taken. -/
theorem tls_never_serves_local :
    let config : ServeConfig :=
      { authEnabled := false
        bind := ⟨"127.0.0.1", 8080⟩
        adminBind := ⟨"127.0.0.1", 8081⟩
        metricsBind := ⟨"127.0.0.1", 9090⟩
        tlsEnabled := true
        metricsEnabled := true }
    ∃ state, Run config
        [.build (.ok ()), .bind (.ok ()), .bind (.ok ()), .bind (.ok ()), .load (.ok ()),
          .register .main, .listen .main (.error "Address already in use"), .signal,
          .join] state ∧
      state.stage = .returned (.error "Main server (TLS) error: Address already in use") ∧
      (state.tasks .main).progress ≠ .serving := by
  intro config
  have runs : ((Machine.exec (step config) init
      [.build (.ok ()), .bind (.ok ()), .bind (.ok ()), .bind (.ok ()), .load (.ok ()),
        .register .main, .listen .main (.error "Address already in use"), .signal,
        .join]).any fun state =>
      state.stage = .returned (.error "Main server (TLS) error: Address already in use")) =
      true := by
    decide +kernel
  obtain ⟨state, run, isReturned⟩ := (Option.any_eq_true _ _).mp runs
  exact ⟨state, run, by simpa using isReturned, (tls_never_serves rfl (by decide) run).1⟩

/-! ## Stopping -/

/-- A waiter comes with a task that runs, only a server with TLS is loaded, and no server
is told to stop before the signal. -/
structure SaneTask (config : ServeConfig) (past : Bool) (server : Server) (task : ServerTask) :
    Prop where
  waits : task.waiter ≠ .absent → task.progress ≠ .absent ∧ task.progress ≠ .spawned
  loads : task.progress = .loaded → isTls config server = true
  told : task.waiter = .told → past = true

theorem SaneTask.past {past : Bool} {task : ServerTask}
    (sane : SaneTask config past server task) : SaneTask config true server task :=
  ⟨sane.waits, sane.loads, fun _ => rfl⟩

theorem SaneTask.turns {past : Bool} {task after : ServerTask}
    (sane : SaneTask config past server task)
    (turns : Turns config state server task after) : SaneTask config past server after := by
  cases turns with
  | loaded isMain => exact ⟨by simp, fun _ => isMain, by simp⟩
  | unreadable | started _ => exact ⟨by simp, by simp, by simp⟩
  | registered => exact ⟨fun _ => sane.waits (by simp), sane.loads, by simp⟩
  | bound _ _ | refused | failed | finished => exact ⟨by simp, by simp, sane.told⟩

theorem sane_of_run (run : Run config events state) (server : Server) :
    SaneTask config state.isPast server (state.tasks server) := by
  refine Machine.exec_invariant
    (fun reached : Serve => ∀ server,
      SaneTask config reached.isPast server (reached.tasks server)) ?_
    (fun server => ⟨by simp [init], by simp [init], by simp [init]⟩) run server
  intro state event next sane stepped other
  obtain ⟨effect, -⟩ := effect_of_step stepped
  have fresh : ∀ past, ∀ progress : Progress, progress ≠ .loaded →
      SaneTask config past other ⟨progress, .absent⟩ :=
    fun past progress notLoaded => ⟨by simp, fun loaded => absurd loaded notLoaded, by simp⟩
  cases effect with
  | unbuilt isBuilding isEnabled isAfter => exact isAfter ▸ (sane other).past
  | built isBuilding isAfter =>
      have samePast : next.isPast = state.isPast := by simp [isPast, isAfter, isBuilding]
      rw [samePast, isAfter]
      exact sane other
  | aborted isNext isAfter => exact isAfter ▸ (sane other).past
  | @bound address isNext isAfter =>
      have early := (isPast_of_nextAddress isNext).1
      have kept : SaneTask config next.isPast other (state.tasks other) :=
        ⟨(sane other).waits, (sane other).loads,
          fun told => by cases early.symm.trans ((sane other).told told)⟩
      have tasks : next.tasks other = state.tasks other ∨
          ∃ progress, progress ≠ .loaded ∧ next.tasks other = ⟨progress, .absent⟩ := by
        subst isAfter
        unfold proceed
        split
        · exact Or.inl rfl
        · cases config.metricsEnabled
          · cases other <;> exact Or.inr ⟨_, by simp, rfl⟩
          · cases other
            · exact Or.inr ⟨_, by simp, rfl⟩
            · exact Or.inl rfl
            · exact Or.inr ⟨_, by simp, rfl⟩
        · cases other
          · exact Or.inl rfl
          · exact Or.inr ⟨_, by simp, rfl⟩
          · exact Or.inl rfl
        · exact Or.inl rfl
      rcases tasks with same | ⟨progress, notLoaded, isFresh⟩
      · rw [same]
        exact kept
      · rw [isFresh]
        exact fresh _ progress notLoaded
  | @turned _ server after turns noSignal sameStage isHeld isAfter =>
      rw [isAfter, isPast, sameStage]
      by_cases same : other = server
      · subst same
        rw [Function.update_self]
        exact (sane other).turns turns
      · rw [Function.update_of_ne same]
        exact sane other
  | notified isWaiting isAfter =>
      subst isAfter
      show SaneTask config true other (state.notifyWaiters.tasks other)
      rw [notifyWaiters_tasks]
      split
      next isRegistered =>
        exact ⟨fun _ => (sane other).waits (by simp [isRegistered]), (sane other).loads,
          fun _ => rfl⟩
      · exact (sane other).past
  | @joined left server isStage isDone isAfter =>
      subst isAfter
      cases left <;> exact (sane other).past
  | broke server isStage isDone isAfter => exact isAfter ▸ (sane other).past

theorem tasks_of_past (past : state.isPast = true)
    (stepped : step config state event = some next) :
    next.isPast = true ∧ ∀ server, next.tasks server = state.tasks server ∨
      Turns config state server (state.tasks server) (next.tasks server) := by
  obtain ⟨effect, -⟩ := effect_of_step stepped
  cases effect with
  | unbuilt isBuilding _ _ | built isBuilding _ => simp [isPast, isBuilding] at past
  | aborted isNext isAfter => cases past.symm.trans (isPast_of_nextAddress isNext).1
  | bound isNext isAfter => cases past.symm.trans (isPast_of_nextAddress isNext).1
  | @turned _ server after turns noSignal sameStage isHeld isAfter =>
      refine ⟨by rw [isPast, sameStage]; exact past, fun other => ?_⟩
      rw [isAfter]
      by_cases same : other = server
      · subst same
        rw [Function.update_self]
        exact Or.inr turns
      · rw [Function.update_of_ne same]
        exact Or.inl rfl
  | notified isWaiting isAfter => simp [isPast, isWaiting] at past
  | @joined left _ isStage isDone isAfter =>
      subst isAfter
      refine ⟨?_, fun _ => Or.inl rfl⟩
      cases left <;> rfl
  | broke _ isStage isDone isAfter =>
      subst isAfter
      exact ⟨rfl, fun _ => Or.inl rfl⟩

/-- What a turn of a task preserves is preserved once the signal is handled. -/
theorem past_invariant (Inv : ServerTask → Prop) (past : state.isPast = true)
    (preserved : ∀ state task after, Turns config state server task after → Inv task → Inv after)
    (later : Machine.exec (step config) state rest = some final)
    (initial : Inv (state.tasks server)) : Inv (final.tasks server) := by
  have kept : final.isPast = true ∧ Inv (final.tasks server) := by
    refine Machine.exec_invariant
      (fun reached : Serve => reached.isPast = true ∧ Inv (reached.tasks server)) ?_
      ⟨past, initial⟩ later
    rintro state event next ⟨past, inv⟩ stepped
    obtain ⟨stillPast, tasks⟩ := tasks_of_past past stepped
    refine ⟨stillPast, ?_⟩
    rcases tasks server with same | turns
    · rw [same]
      exact inv
    · exact preserved state _ _ turns inv
  exact kept.2

theorem Turns.untold {task after : ServerTask} (turns : Turns config state server task after)
    (untold : task.waiter ≠ .told) : after.waiter ≠ .told := by
  cases turns with
  | loaded _ | unreadable | started _ | registered => simp
  | bound _ _ | refused | failed | finished => exact untold

/-- A task that its server was not told to end. -/
structure Untold (task : ServerTask) : Prop where
  untold : task.waiter ≠ .told
  goesOn : task.progress ≠ .done (.ok ())

theorem Untold.turns {task after : ServerTask} (untold : Untold task)
    (turns : Turns config state server task after) : Untold after := by
  refine ⟨turns.untold untold.untold, ?_⟩
  cases turns with
  | finished => exact absurd rfl untold.untold
  | registered => exact untold.goesOn
  | loaded _ | unreadable | started _ | bound _ _ | refused | failed => simp

/-- A server stops after the signal if it has stopped, or it waits for the signal and
serves, or it will still come to serve. -/
def Stoppable (config : ServeConfig) (task : ServerTask) : Prop :=
  task.progress = .done (.ok ()) ∨ task.waiter = .registered ∧
    (task.progress = .serving ∨ task.progress = .loaded ∧ config.bind.port = 0)

instance (config : ServeConfig) (task : ServerTask) : Decidable (Stoppable config task) :=
  inferInstanceAs (Decidable (_ ∨ _ ∧ (_ ∨ _ ∧ _)))

theorem notified_of_step (waiting : state.stage = .signal)
    (stepped : step config state .signal = some next) :
    next.isPast = true ∧ ∀ server, next.tasks server =
      if (state.tasks server).waiter = .registered then ⟨(state.tasks server).progress, .told⟩
      else state.tasks server := by
  simp only [step, waiting, react, if_true, Option.some.injEq] at stepped
  subst stepped
  exact ⟨rfl, notifyWaiters_tasks state⟩

/-- The notification is not kept for a server that does not wait for it. -/
theorem unnotified_of_step (run : Run config events state) (waiting : state.stage = .signal)
    (notified : step config state .signal = some next)
    (late : (state.tasks server).waiter ≠ .registered) :
    next.tasks server = state.tasks server ∧ (next.tasks server).waiter ≠ .told := by
  have unchanged : next.tasks server = state.tasks server := by
    rw [(notified_of_step waiting notified).2 server, if_neg late]
  refine ⟨unchanged, fun isTold => ?_⟩
  have tooEarly := (sane_of_run run server).told (unchanged ▸ isTold)
  simp [isPast, waiting] at tooEarly

/-- A server that does not wait when the signal is handled is never told, although it may
register at any time after that. -/
theorem never_told (run : Run config events state) (waiting : state.stage = .signal)
    (later : Machine.exec (step config) state (.signal :: rest) = some final)
    (late : (state.tasks server).waiter ≠ .registered) :
    (final.tasks server).waiter ≠ .told := by
  obtain ⟨next, notified, after⟩ := Machine.exec_cons_iff.mp later
  exact past_invariant (fun task => task.waiter ≠ .told) (notified_of_step waiting notified).1
    (fun _ _ _ turns untold => turns.untold untold) after
    (unnotified_of_step run waiting notified late).2

/-- A server that is not stoppable when the signal is handled does not stop. -/
theorem stoppable_of_stopped (run : Run config events state)
    (waiting : state.stage = .signal)
    (later : Machine.exec (step config) state (.signal :: rest) = some final)
    (stopped : ∀ server, (final.tasks server).progress = .done (.ok ())) (server : Server) :
    Stoppable config (state.tasks server) := by
  by_contra notStoppable
  obtain ⟨told, notified, after⟩ := Machine.exec_cons_iff.mp later
  obtain ⟨past, tasks⟩ := notified_of_step waiting notified
  by_cases registered : (state.tasks server).waiter = .registered
  · -- The server is told, but it cannot come to serve.
    have sane := sane_of_run run server
    have facts := sane.waits (by simp [registered])
    cases progress : (state.tasks server).progress with
    | absent => exact facts.1 progress
    | spawned => exact facts.2 progress
    | serving => exact notStoppable (Or.inr ⟨registered, Or.inl progress⟩)
    | loaded =>
        by_cases free : config.bind.port = 0
        · exact notStoppable (Or.inr ⟨registered, Or.inr ⟨progress, free⟩⟩)
        · have isMain := sane.loads progress
          simp only [isTls, Bool.and_eq_true, decide_eq_true_eq] at isMain
          obtain ⟨tls, rfl⟩ := isMain
          have whole : Run config (events ++ .signal :: rest) final :=
            Machine.exec_append_iff.mpr ⟨state, run, later⟩
          have notUp := (shut_of_run tls free whole).notUp
          simp [stopped .main, Progress.isUp] at notUp
    | done result =>
        cases result with
        | ok => exact notStoppable (Or.inl progress)
        | error message =>
            have stays := past_invariant
              (fun task => task.progress = .done (.error message)) past
              (fun _ _ _ turns isDone => turns.done isDone) after
              (by rw [tasks server, if_pos registered]; exact progress)
            cases stays.symm.trans (stopped server)
  · -- The server is never told.
    obtain ⟨unchanged, notTold⟩ := unnotified_of_step run waiting notified registered
    have untold : Untold (told.tasks server) :=
      ⟨notTold, fun isDone => notStoppable (Or.inl (unchanged ▸ isDone))⟩
    exact (past_invariant Untold past (fun _ _ _ turns untold => untold.turns turns) after
      untold).goesOn (stopped server)

/-- A server that has stopped, or was told to and only has to do so. -/
def Told (config : ServeConfig) (server : Server) (task : ServerTask) : Prop :=
  task.progress = .done (.ok ()) ∨ task.waiter = .told ∧
    (task.progress = .serving ∨
      task.progress = .loaded ∧ isTls config server = true ∧ config.bind.port = 0)

theorem step_of_goesOn (goesOn : ∀ result, state.stage ≠ .returned result) :
    step config state event = state.react config event := by
  unfold step
  split
  next result isReturned => exact absurd isReturned (goesOn result)
  · rfl

theorem exists_finished (goesOn : ∀ result, state.stage ≠ .returned result)
    (serving : (state.tasks server).progress = .serving)
    (isTold : (state.tasks server).waiter = .told) :
    ∃ final, step config state (.finish server) = some final ∧ final.stage = state.stage ∧
      (final.tasks server).progress = .done (.ok ()) ∧
      ∀ other, other ≠ server → final.tasks other = state.tasks other := by
  refine ⟨state.setTask server ⟨.done (.ok ()), (state.tasks server).waiter⟩, ?_, rfl,
    by simp [setTask], fun other different => Function.update_of_ne different _ _⟩
  rw [step_of_goesOn goesOn]
  exact if_pos ⟨serving, isTold⟩

/-- A server that was told can be stopped, whatever the others do. -/
theorem exists_stopped (goesOn : ∀ result, state.stage ≠ .returned result)
    (told : Told config server (state.tasks server)) :
    ∃ rest final, Machine.exec (step config) state rest = some final ∧
      final.stage = state.stage ∧ (final.tasks server).progress = .done (.ok ()) ∧
      ∀ other, other ≠ server → final.tasks other = state.tasks other := by
  rcases told with isDone | ⟨isTold, serving | ⟨loaded, isMain, free⟩⟩
  · exact ⟨[], state, rfl, rfl, isDone, fun _ _ => rfl⟩
  · obtain ⟨final, finishes, facts⟩ := exists_finished goesOn serving isTold
    exact ⟨[.finish server], final, Machine.exec_cons_iff.mpr ⟨final, finishes, rfl⟩, facts⟩
  · -- It first binds a port of its own.
    obtain ⟨middle, isMiddle⟩ : ∃ middle : Serve, middle =
        { state with held := state.held ++ [config.bind] }.setTask server
          ⟨.serving, (state.tasks server).waiter⟩ := ⟨_, rfl⟩
    have listens : step config state (.listen server (.ok ())) = some middle := by
      have isFree : state.bindable config.bind = true := by simp [bindable, free]
      rw [step_of_goesOn goesOn, isMiddle]
      simp [react, isMain, loaded, isFree]
    have sameStage : middle.stage = state.stage := by rw [isMiddle]; rfl
    have unchanged : ∀ other, other ≠ server → middle.tasks other = state.tasks other := by
      intro other different
      rw [isMiddle]
      exact Function.update_of_ne different _ _
    obtain ⟨final, finishes, finalStage, isDone, others⟩ :=
      @exists_finished config middle server (by rwa [sameStage]) (by simp [isMiddle, setTask])
        (by simp [isMiddle, setTask, isTold])
    exact ⟨[.listen server (.ok ()), .finish server], final,
      Machine.exec_cons_iff.mpr ⟨middle, listens,
        Machine.exec_cons_iff.mpr ⟨final, finishes, rfl⟩⟩,
      finalStage.trans sameStage, isDone,
      fun other different => (others other different).trans (unchanged other different)⟩

theorem exists_all_stopped (servers : List Server)
    (goesOn : ∀ result, state.stage ≠ .returned result)
    (told : ∀ server, Told config server (state.tasks server)) :
    ∃ rest final, Machine.exec (step config) state rest = some final ∧
      final.stage = state.stage ∧
      (∀ server ∈ servers, (final.tasks server).progress = .done (.ok ())) ∧
      ∀ server, Told config server (final.tasks server) := by
  induction servers with
  | nil => exact ⟨[], state, rfl, rfl, by simp, told⟩
  | cons server servers ih =>
      obtain ⟨first, middle, ran, sameStage, stopped, stillTold⟩ := ih
      obtain ⟨second, final, stops, finalStage, isDone, others⟩ :=
        exists_stopped (by rwa [sameStage]) (stillTold server)
      have each : ∀ other, (middle.tasks other).progress = .done (.ok ()) →
          (final.tasks other).progress = .done (.ok ()) := by
        intro other wasDone
        by_cases same : other = server
        · rw [same]
          exact isDone
        · rw [others other same]
          exact wasDone
      refine ⟨first ++ second, final, Machine.exec_append_iff.mpr ⟨middle, ran, stops⟩,
        finalStage.trans sameStage, ?_, ?_⟩
      · intro other member
        rcases List.mem_cons.mp member with rfl | later
        · exact isDone
        · exact each other (stopped other later)
      · intro other
        by_cases same : other = server
        · rw [same]
          exact Or.inl isDone
        · rw [others other same]
          exact stillTold other

theorem exists_returned (isStage : state.stage = .join Server.joinOrder)
    (stopped : ∀ server, (state.tasks server).progress = .done (.ok ())) :
    ∃ rest final, Machine.exec (step config) state rest = some final ∧
      final.stage = .returned (.ok ()) := by
  refine ⟨[.join, .join, .join], { state with stage := .returned (.ok ()) }, ?_, rfl⟩
  simp [Machine.exec_cons, step, react, joinNext, isStage, stopped, Server.joinOrder]

/-- A signal leads to a clean end exactly if every server waits for it.  In any run, at the
moment when the signal is handled, `serve` can still come to return a success if and only
if each server has stopped or is registered for the notification and serves, or will serve
on a port that it may choose.  A server that registers later is never told. -/
theorem stops_iff (run : Run config events state) (waiting : state.stage = .signal) :
    ((∃ rest final, Machine.exec (step config) state (.signal :: rest) = some final ∧
        final.stage = .returned (.ok ())) ↔
      ∀ server, Stoppable config (state.tasks server)) ∧
    ∀ rest final, Machine.exec (step config) state (.signal :: rest) = some final →
      ∀ server, (state.tasks server).waiter ≠ .registered →
        (final.tasks server).waiter ≠ .told := by
  refine ⟨?_, fun _ _ later _ late => never_told run waiting later late⟩
  constructor
  · rintro ⟨rest, final, later, isReturned⟩
    have whole : Run config (events ++ .signal :: rest) final :=
      Machine.exec_append_iff.mpr ⟨state, run, later⟩
    cases outcome_of_run whole isReturned with
    | stopped _ allStopped => exact stoppable_of_stopped run waiting later allStopped
  · intro stoppable
    obtain ⟨next, notified⟩ : ∃ next, step config state .signal = some next := by
      simp [step, waiting, react]
    obtain ⟨-, tasks⟩ := notified_of_step waiting notified
    have isStage : next.stage = .join Server.joinOrder := by
      simp only [step, waiting, react, if_true, Option.some.injEq] at notified
      rw [← notified]
    have told : ∀ server, Told config server (next.tasks server) := by
      intro server
      rw [tasks server]
      rcases stoppable server with isDone | ⟨registered, serving | ⟨loaded, free⟩⟩
      · refine Or.inl ?_
        split <;> exact isDone
      · rw [if_pos registered]
        exact Or.inr ⟨rfl, Or.inl serving⟩
      · rw [if_pos registered]
        exact Or.inr ⟨rfl, Or.inr ⟨loaded, (sane_of_run run server).loads loaded, free⟩⟩
    obtain ⟨first, middle, ran, sameStage, stopped, -⟩ :=
      exists_all_stopped Server.joinOrder (by simp [isStage]) told
    obtain ⟨second, final, joins, isReturned⟩ := @exists_returned config middle
      (sameStage.trans isStage) fun server => stopped server (by cases server <;> decide)
    exact ⟨first ++ second, final, Machine.exec_cons_iff.mpr ⟨next, notified,
      Machine.exec_append_iff.mpr ⟨middle, ran, joins⟩⟩, isReturned⟩

/-- The admin server has begun to serve, but the signal comes before its waiter has been
polled: `serve` never ends cleanly, and the waiter that is polled next is not told. -/
theorem stops_iff_late :
    let config : ServeConfig :=
      { authEnabled := false
        bind := ⟨"127.0.0.1", 8080⟩
        adminBind := ⟨"127.0.0.1", 8081⟩
        metricsBind := ⟨"127.0.0.1", 9090⟩
        tlsEnabled := false
        metricsEnabled := false }
    let events : List ServeEvent :=
      [.build (.ok ()), .bind (.ok ()), .bind (.ok ()), .listen .main (.ok ()),
        .register .main, .listen .admin (.ok ())]
    ∃ state, Run config events state ∧
      (¬ ∃ rest final, Machine.exec (step config) state (.signal :: rest) = some final ∧
        final.stage = .returned (.ok ())) ∧
      ∃ final, Machine.exec (step config) state [.signal, .register .admin] = some final ∧
        (final.tasks .admin).waiter ≠ .told := by
  intro config events
  have runs : ((Machine.exec (step config) init events).any fun state =>
      decide (state.stage = .signal) &&
        decide (¬ Stoppable config (state.tasks .admin)) &&
        decide ((state.tasks .admin).waiter ≠ .registered) &&
        (Machine.exec (step config) state [.signal, .register .admin]).isSome) = true := by
    decide +kernel
  obtain ⟨state, run, facts⟩ := (Option.any_eq_true _ _).mp runs
  simp only [Bool.and_eq_true, decide_eq_true_eq] at facts
  obtain ⟨⟨⟨waiting, tooLate⟩, late⟩, registers⟩ := facts
  obtain ⟨final, later⟩ := Option.isSome_iff_exists.mp registers
  obtain ⟨ends, untold⟩ := stops_iff run waiting
  exact ⟨state, run, fun clean => tooLate (ends.mp clean .admin), final, later,
    untold _ final later .admin late⟩

end Serve

end SorobanGate
