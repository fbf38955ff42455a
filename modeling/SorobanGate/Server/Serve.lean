import SorobanGate.Basic
import SorobanGate.Library.Machine
import Mathlib.Logic.Function.Basic

/-!
# Starting and stopping

`serve` builds its state, binds its listeners, starts one task for each server, waits for a
signal, tells the servers to stop and joins their tasks in a fixed order.  A server is told
through `Notify::notify_waiters`, which reaches those that wait at that moment and stores
nothing for the others.  Panics of the tasks are left out, and so is everything that the
servers answer in between.
-/

namespace SorobanGate

/-- The address of a listener; port zero asks for any port that is free. -/
structure SocketAddr where
  ip : String
  port : UInt16
  deriving DecidableEq, Repr

/-- What `serve` reads of the configuration. -/
structure ServeConfig where
  authEnabled : Bool
  bind : SocketAddr
  adminBind : SocketAddr
  metricsBind : SocketAddr
  tlsEnabled : Bool
  metricsEnabled : Bool
  deriving DecidableEq, Repr

inductive Server where
  | main
  | metrics
  | admin
  deriving DecidableEq, Repr

/-- The order in which `serve` awaits the tasks. -/
def Server.joinOrder : List Server := [.main, .metrics, .admin]

/-- What `serve` itself is doing. -/
inductive Stage where
  /-- `build_state(&mut config)` -/
  | buildState
  | bindMain
  | bindAdmin
  | bindMetrics
  /-- `shutdown_signal().await` -/
  | signal
  | join (left : List Server)
  | returned (result : Except String Unit)
  deriving DecidableEq, Repr

/-- How far the task of a server has come. -/
inductive Progress where
  | absent
  | spawned
  /-- The certificate of the main server has been read. -/
  | loaded
  | serving
  | done (result : Except String Unit)
  deriving DecidableEq, Repr

/-- Whether a server is told to stop. -/
inductive Waiter where
  | absent
  /-- There is a future that will wait, but it has not been polled. -/
  | pending
  | registered
  | told
  deriving DecidableEq, Repr

structure ServerTask where
  progress : Progress
  waiter : Waiter
  deriving DecidableEq, Repr

structure Serve where
  stage : Stage
  /-- The addresses of the listeners that are open. -/
  held : List SocketAddr
  tasks : Server → ServerTask

inductive ServeEvent where
  /-- The state is built.  All of it that can fail is to open the key store. -/
  | build (result : Except String Unit)
  /-- The next listener that `serve` binds itself. -/
  | bind (result : Except String Unit)
  /-- `RustlsConfig::from_pem_file` -/
  | load (result : Except String Unit)
  /-- A server begins to accept connections; with TLS it binds a listener of its own. -/
  | listen (server : Server) (result : Except String Unit)
  /-- The future of `notified()` is polled for the first time. -/
  | register (server : Server)
  | fail (server : Server) (message : String)
  /-- The last connection of a server that was told to stop is closed. -/
  | finish (server : Server)
  | signal
  | join
  deriving DecidableEq, Repr

namespace Serve

variable (config : ServeConfig)

def init : Serve where
  stage := .buildState
  held := []
  tasks _ := ⟨.absent, .absent⟩

/-- An address that is in use cannot be bound. -/
def bindable (state : Serve) (address : SocketAddr) : Bool :=
  address.port = 0 || !state.held.contains address

def setTask (server : Server) (task : ServerTask) (state : Serve) : Serve :=
  { state with tasks := Function.update state.tasks server task }

/-- The address that is bound next. -/
def nextAddress (state : Serve) : Option SocketAddr :=
  match state.stage with
  | .bindMain => some config.bind
  | .bindAdmin => some config.adminBind
  | .bindMetrics => some config.metricsBind
  | _ => none

/-- What follows a bind that has succeeded.  Without metrics there is a task in the place of
the server that has nothing to do. -/
def proceed (state : Serve) : Serve :=
  match state.stage with
  | .bindMain => { state with stage := .bindAdmin }
  | .bindAdmin =>
      let started :=
        state.setTask .main ⟨.spawned, .absent⟩ |>.setTask .admin ⟨.spawned, .absent⟩
      if config.metricsEnabled then { started with stage := .bindMetrics }
      else { started.setTask .metrics ⟨.done (.ok ()), .absent⟩ with stage := .signal }
  | .bindMetrics => { state.setTask .metrics ⟨.spawned, .absent⟩ with stage := .signal }
  | _ => state

/-- The main server is started with TLS. -/
def isTls (server : Server) : Bool := config.tlsEnabled && server = .main

/-- What the task of a server makes of an error. -/
def describe (server : Server) (message : String) : String :=
  match server with
  | .main => (if config.tlsEnabled then "Main server (TLS) error: " else "Main server error: ")
      ++ message
  | .metrics => "Metrics server error: " ++ message
  | .admin => "Admin server error: " ++ message

/-- Tell every server that waits. -/
def notifyWaiters (state : Serve) : Serve :=
  { state with
    tasks := fun server =>
      match (state.tasks server).waiter with
      | .registered => ⟨(state.tasks server).progress, .told⟩
      | _ => state.tasks server }

theorem notifyWaiters_tasks (state : Serve) (server : Server) :
    state.notifyWaiters.tasks server =
      if (state.tasks server).waiter = .registered then ⟨(state.tasks server).progress, .told⟩
      else state.tasks server := by
  simp only [notifyWaiters]
  split
  next isRegistered => rw [if_pos isRegistered]
  next notRegistered => rw [if_neg notRegistered]

/-- Await the next task. -/
def joinNext (state : Serve) (server : Server) (left : List Server) : Option Serve :=
  match (state.tasks server).progress with
  | .done (.ok ()) =>
      some { state with stage := if left.isEmpty then .returned (.ok ()) else .join left }
  | .done (.error message) => some { state with stage := .returned (.error message) }
  | _ => none

/-- The part of a step that depends on the event. -/
def react (state : Serve) : ServeEvent → Option Serve
  | .build (.error message) =>
      if state.stage = .buildState ∧ config.authEnabled then
        some { state with stage := .returned (.error message) }
      else none
  | .build (.ok ()) =>
      if state.stage = .buildState then some { state with stage := .bindMain } else none
  | .bind (.error message) =>
      (state.nextAddress config).map fun _ =>
        { state with stage := .returned (.error message) }
  | .bind (.ok ()) =>
      (state.nextAddress config).bind fun address =>
        if state.bindable address then
          some ({ state with held := state.held ++ [address] }.proceed config)
        else none
  | .load result =>
      if config.tlsEnabled ∧ (state.tasks .main).progress = .spawned then
        match result with
        | .ok () => some (state.setTask .main ⟨.loaded, .pending⟩)
        | .error message => some (state.setTask .main ⟨.done (.error message), .absent⟩)
      else none
  | .listen server result =>
      let task := state.tasks server
      if isTls config server then
        if task.progress = .loaded then
          match result with
          | .ok () =>
              if state.bindable config.bind then
                some ({ state with held := state.held ++ [config.bind] }.setTask server
                  { task with progress := .serving })
              else none
          | .error message =>
              some (state.setTask server
                { task with progress := .done (.error (describe config server message)) })
        else none
      else if task.progress = .spawned ∧ result = .ok () then
        some (state.setTask server ⟨.serving, .pending⟩)
      else none
  | .register server =>
      let task := state.tasks server
      if task.waiter = .pending then
        some (state.setTask server { task with waiter := .registered })
      else none
  | .fail server message =>
      let task := state.tasks server
      if task.progress = .serving then
        some (state.setTask server
          { task with progress := .done (.error (describe config server message)) })
      else none
  | .finish server =>
      let task := state.tasks server
      if task.progress = .serving ∧ task.waiter = .told then
        some (state.setTask server { task with progress := .done (.ok ()) })
      else none
  | .signal =>
      if state.stage = .signal then
        some { state.notifyWaiters with stage := .join Server.joinOrder }
      else none
  | .join =>
      match state.stage with
      | .join (server :: left) => state.joinNext server left
      | _ => none

/-- Once `serve` has returned, the process ends and nothing happens any more. -/
def step (state : Serve) (event : ServeEvent) : Option Serve :=
  match state.stage with
  | .returned _ => none
  | _ => state.react config event

def Run (events : List ServeEvent) (state : Serve) : Prop :=
  Machine.exec (step config) init events = some state

/-! ## What a step does -/

/-- How the task of a server can go on. -/
inductive Turns (state : Serve) (server : Server) : ServerTask → ServerTask → Prop where
  | loaded {waiter : Waiter} (isMain : isTls config server = true) :
      Turns state server ⟨.spawned, waiter⟩ ⟨.loaded, .pending⟩
  | unreadable {waiter : Waiter} {message : String} :
      Turns state server ⟨.spawned, waiter⟩ ⟨.done (.error message), .absent⟩
  | bound {waiter : Waiter} (isMain : isTls config server = true)
      (isFree : state.bindable config.bind = true) :
      Turns state server ⟨.loaded, waiter⟩ ⟨.serving, waiter⟩
  | refused {waiter : Waiter} {message : String} :
      Turns state server ⟨.loaded, waiter⟩ ⟨.done (.error message), waiter⟩
  | started {waiter : Waiter} (isPlain : isTls config server = false) :
      Turns state server ⟨.spawned, waiter⟩ ⟨.serving, .pending⟩
  | registered {progress : Progress} :
      Turns state server ⟨progress, .pending⟩ ⟨progress, .registered⟩
  | failed {waiter : Waiter} {message : String} :
      Turns state server ⟨.serving, waiter⟩ ⟨.done (.error message), waiter⟩
  | finished : Turns state server ⟨.serving, .told⟩ ⟨.done (.ok ()), .told⟩

variable {config} {state next final : Serve} {event : ServeEvent} {server : Server}
  {task after : ServerTask} {events rest : List ServeEvent}

theorem Turns.done {result : Except String Unit} (turns : Turns config state server task after)
    (isDone : task.progress = .done result) : after.progress = .done result := by
  cases turns with
  | registered => exact isDone
  | _ => cases isDone

/-- What the stage and the tasks are after a step. -/
inductive Effect (config : ServeConfig) (state next : Serve) : ServeEvent → Prop where
  | unbuilt {message : String} (isBuilding : state.stage = .buildState)
      (isEnabled : config.authEnabled = true)
      (isAfter : next = { state with stage := .returned (.error message) }) :
      Effect config state next (.build (.error message))
  | built (isBuilding : state.stage = .buildState)
      (isAfter : next = { state with stage := .bindMain }) :
      Effect config state next (.build (.ok ()))
  | aborted {message : String} {address : SocketAddr}
      (isNext : state.nextAddress config = some address)
      (isAfter : next = { state with stage := .returned (.error message) }) :
      Effect config state next (.bind (.error message))
  | bound {address : SocketAddr} (isNext : state.nextAddress config = some address)
      (isAfter : next = { state with held := state.held ++ [address] }.proceed config) :
      Effect config state next (.bind (.ok ()))
  | turned {event : ServeEvent} (server : Server) {after : ServerTask}
      (turns : Turns config state server (state.tasks server) after)
      (noSignal : event ≠ .signal) (sameStage : next.stage = state.stage)
      (isHeld : state.held <+: next.held)
      (isAfter : next.tasks = Function.update state.tasks server after) :
      Effect config state next event
  | notified (isWaiting : state.stage = .signal)
      (isAfter : next = { state.notifyWaiters with stage := .join Server.joinOrder }) :
      Effect config state next .signal
  | joined {left : List Server} (server : Server) (isStage : state.stage = .join (server :: left))
      (isDone : (state.tasks server).progress = .done (.ok ()))
      (isAfter : next =
        { state with stage := if left.isEmpty then .returned (.ok ()) else .join left }) :
      Effect config state next .join
  | broke {left : List Server} (server : Server) {message : String}
      (isStage : state.stage = .join (server :: left))
      (isDone : (state.tasks server).progress = .done (.error message))
      (isAfter : next = { state with stage := .returned (.error message) }) :
      Effect config state next .join

theorem Effect.of_setTask (turns : Turns config state server (state.tasks server) after)
    (noSignal : event ≠ .signal) : Effect config state (state.setTask server after) event :=
  .turned server turns noSignal rfl (List.prefix_refl _) rfl

theorem exists_waiter {progress : Progress}
    (isProgress : (state.tasks server).progress = progress) :
    ∃ waiter, state.tasks server = ⟨progress, waiter⟩ :=
  ⟨(state.tasks server).waiter, by rw [← isProgress]⟩

/-- Inversion of a step. -/
theorem effect_of_step (stepped : step config state event = some next) :
    Effect config state next event ∧ ∀ result, state.stage ≠ .returned result := by
  have isReact : state.react config event = some next ∧
      ∀ result, state.stage ≠ .returned result := by
    unfold step at stepped
    split at stepped
    · cases stepped
    next running => exact ⟨stepped, running⟩
  refine ⟨?_, isReact.2⟩
  have reacted := isReact.1
  cases event with
  | build result =>
      cases result with
      | error message =>
          simp only [react] at reacted
          split at reacted
          next ready =>
            cases reacted
            exact .unbuilt ready.1 ready.2 rfl
          · cases reacted
      | ok =>
          simp only [react] at reacted
          split at reacted
          next isBuilding =>
            cases reacted
            exact .built isBuilding rfl
          · cases reacted
  | bind result =>
      cases result with
      | error message =>
          obtain ⟨address, isNext, rfl⟩ := Option.map_eq_some_iff.mp reacted
          exact .aborted isNext rfl
      | ok =>
          obtain ⟨address, isNext, isAfter⟩ := Option.bind_eq_some_iff.mp reacted
          split at isAfter
          · cases isAfter
            exact .bound isNext rfl
          · cases isAfter
  | load result =>
      simp only [react] at reacted
      split at reacted
      next ready =>
        obtain ⟨isTlsMain, isSpawned⟩ := ready
        obtain ⟨waiter, isTask⟩ := exists_waiter isSpawned
        cases result with
        | ok =>
            cases reacted
            exact .of_setTask (isTask ▸ .loaded (by simp [isTls, isTlsMain])) (by simp)
        | error message =>
            cases reacted
            exact .of_setTask (isTask ▸ .unreadable) (by simp)
      · cases reacted
  | listen server result =>
      simp only [react] at reacted
      split at reacted
      next isMain =>
        split at reacted
        next isLoaded =>
          obtain ⟨waiter, isTask⟩ := exists_waiter isLoaded
          cases result with
          | ok =>
              dsimp only at reacted
              split at reacted
              next isFree =>
                cases reacted
                have turns : Turns config state server (state.tasks server)
                    ⟨.serving, waiter⟩ := isTask ▸ .bound isMain isFree
                exact .turned server turns (by simp) rfl (List.prefix_append _ _)
                  (by rw [setTask, isTask])
              · cases reacted
          | error message =>
              cases reacted
              refine .of_setTask ?_ (by simp)
              rw [isTask]
              exact .refused
        · cases reacted
      next isPlain =>
        split at reacted
        next ready =>
          obtain ⟨isSpawned, rfl⟩ := ready
          obtain ⟨waiter, isTask⟩ := exists_waiter isSpawned
          cases reacted
          exact .of_setTask (isTask ▸ .started (by simpa using isPlain)) (by simp)
        · cases reacted
  | register server =>
      simp only [react] at reacted
      split at reacted
      next isPending =>
        cases reacted
        have isTask : state.tasks server = ⟨(state.tasks server).progress, .pending⟩ := by
          rw [← isPending]
        refine .of_setTask ?_ (by simp)
        rw [isTask]
        exact .registered
      · cases reacted
  | fail server message =>
      simp only [react] at reacted
      split at reacted
      next isServing =>
        obtain ⟨waiter, isTask⟩ := exists_waiter isServing
        cases reacted
        refine .of_setTask ?_ (by simp)
        rw [isTask]
        exact .failed
      · cases reacted
  | finish server =>
      simp only [react] at reacted
      split at reacted
      next ready =>
        obtain ⟨isServing, isTold⟩ := ready
        obtain ⟨waiter, isTask⟩ := exists_waiter isServing
        obtain rfl : waiter = .told := by rw [isTask] at isTold; exact isTold
        cases reacted
        refine .of_setTask ?_ (by simp)
        rw [isTask]
        exact .finished
      · cases reacted
  | signal =>
      simp only [react] at reacted
      split at reacted
      next isWaiting =>
        cases reacted
        exact .notified isWaiting rfl
      · cases reacted
  | join =>
      simp only [react] at reacted
      split at reacted
      next server left isStage =>
        unfold joinNext at reacted
        split at reacted
        next isDone =>
          cases reacted
          exact .joined server isStage isDone rfl
        next message isDone =>
          cases reacted
          exact .broke server isStage isDone rfl
        · cases reacted
      · cases reacted

/-! ## The result -/

/-- `serve` has received the signal, or has given up before. -/
def isPast (state : Serve) : Bool :=
  match state.stage with
  | .join _ | .returned _ => true
  | _ => false

/-- As long as there is an address to bind, `serve` is still starting. -/
theorem isPast_of_nextAddress {address : SocketAddr}
    (isNext : state.nextAddress config = some address) :
    state.isPast = false ∧ (state.proceed config).isPast = false := by
  unfold nextAddress at isNext
  split at isNext
  next isStage => simp [isPast, proceed, isStage]
  next isStage =>
    simp only [isPast, proceed, isStage, true_and]
    cases config.metricsEnabled <;> rfl
  next isStage => simp [isPast, proceed, isStage]
  · cases isNext

theorem stage_proceed_of_nextAddress {address : SocketAddr}
    (isNext : state.nextAddress config = some address) :
    (state.proceed config).stage ≠ .buildState := by
  unfold nextAddress at isNext
  split at isNext
  next isStage => simp [proceed, isStage]
  next isStage =>
    simp only [proceed, isStage]
    cases config.metricsEnabled <;> simp
  next isStage => simp [proceed, isStage]
  · cases isNext

/-- How `serve` can return. -/
inductive Outcome (config : ServeConfig) (events : List ServeEvent) (state : Serve) :
    Except String Unit → Prop where
  /-- The key store could not be opened, and nothing else has happened. -/
  | unbuilt {message : String} (isEnabled : config.authEnabled = true)
      (isOnly : events = [.build (.error message)]) :
      Outcome config events state (.error message)
  /-- A listener could not be bound, and that was the last event. -/
  | aborted {earlier : List ServeEvent} {message : String} (noSignal : .signal ∉ events)
      (isLast : events = earlier ++ [.bind (.error message)]) :
      Outcome config events state (.error message)
  | stopped (signalled : .signal ∈ events)
      (allStopped : ∀ server, (state.tasks server).progress = .done (.ok ())) :
      Outcome config events state (.ok ())
  /-- The first task that has failed, in the order in which they are awaited. -/
  | failed {past left : List Server} {server : Server} {message : String}
      (signalled : .signal ∈ events) (isFirst : Server.joinOrder = past ++ server :: left)
      (earlier : ∀ other ∈ past, (state.tasks other).progress = .done (.ok ()))
      (isFailure : (state.tasks server).progress = .done (.error message)) :
      Outcome config events state (.error message)

/-- What is known of the stage. -/
structure Accounted (config : ServeConfig) (events : List ServeEvent) (state : Serve) :
    Prop where
  building : state.stage = .buildState → events = [] ∧ state = init
  starting : state.isPast = false → .signal ∉ events
  joining : ∀ left, state.stage = .join left → .signal ∈ events ∧ ∃ past,
    Server.joinOrder = past ++ left ∧
    ∀ server ∈ past, (state.tasks server).progress = .done (.ok ())
  returned : ∀ result, state.stage = .returned result → Outcome config events state result

theorem Accounted.step (accounted : Accounted config events state)
    (stepped : step config state event = some next) :
    Accounted config (events ++ [event]) next := by
  obtain ⟨effect, running⟩ := effect_of_step stepped
  cases effect with
  | @unbuilt message isBuilding isEnabled isAfter =>
      obtain ⟨isFirst, -⟩ := accounted.building isBuilding
      subst isAfter
      refine ⟨by simp, by simp [isPast], by simp, ?_⟩
      intro result isResult
      cases isResult
      exact .unbuilt isEnabled (by rw [isFirst, List.nil_append])
  | built isBuilding isAfter =>
      obtain ⟨isFirst, -⟩ := accounted.building isBuilding
      subst isAfter
      exact ⟨by simp, by simp [isFirst], by simp, by simp⟩
  | @aborted message address isNext isAfter =>
      have noSignal := accounted.starting (isPast_of_nextAddress isNext).1
      subst isAfter
      refine ⟨by simp, by simp [isPast], by simp, ?_⟩
      intro result isResult
      cases isResult
      exact .aborted (by simp [noSignal]) rfl
  | @bound address isNext isAfter =>
      have noSignal := accounted.starting (isPast_of_nextAddress isNext).1
      have still : next.isPast = false := by
        rw [isAfter]
        exact (isPast_of_nextAddress
          (show ({ state with held := state.held ++ [address] } : Serve).nextAddress config =
            some address from isNext)).2
      have notBuilding : next.stage ≠ .buildState := by
        rw [isAfter]
        exact stage_proceed_of_nextAddress
          (show ({ state with held := state.held ++ [address] } : Serve).nextAddress config =
            some address from isNext)
      refine ⟨fun isBuilding => absurd isBuilding notBuilding, fun _ => by simp [noSignal],
        ?_, ?_⟩
      · intro left isStage
        simp [isPast, isStage] at still
      · intro result isStage
        simp [isPast, isStage] at still
  | @turned _ server after turns noSignal sameStage isHeld isAfter =>
      have samePast : next.isPast = state.isPast := by rw [isPast, isPast, sameStage]
      have stillDone : ∀ other result, (state.tasks other).progress = .done result →
          (next.tasks other).progress = .done result := by
        intro other result isDone
        rw [isAfter]
        by_cases same : other = server
        · subst same
          rw [Function.update_self]
          exact turns.done isDone
        · rwa [Function.update_of_ne same]
      refine ⟨?_, ?_, ?_, ?_⟩
      · -- No task exists while the state is built.
        intro isBuilding
        obtain ⟨-, isInit⟩ := accounted.building (sameStage ▸ isBuilding)
        rw [isInit] at turns
        cases turns
      · rw [samePast]
        intro starting
        simpa [Ne.symm noSignal] using accounted.starting starting
      · intro left isStage
        obtain ⟨signalled, past, order, allDone⟩ := accounted.joining left (sameStage ▸ isStage)
        exact ⟨List.mem_append_left _ signalled, past, order,
          fun other member => stillDone other _ (allDone other member)⟩
      · intro result isStage
        exact absurd (sameStage ▸ isStage) (running result)
  | notified isWaiting isAfter =>
      subst isAfter
      refine ⟨by simp, by simp [isPast], ?_, by simp⟩
      intro left isStage
      cases isStage
      exact ⟨by simp, [], rfl, by simp⟩
  | @joined left server isStage isDone isAfter =>
      obtain ⟨signalled, past, order, allDone⟩ := accounted.joining _ isStage
      have nextDone : ∀ other ∈ past ++ [server],
          (state.tasks other).progress = .done (.ok ()) := by
        intro other member
        rcases List.mem_append.mp member with earlier | last
        · exact allDone other earlier
        · rw [List.mem_singleton.mp last]
          exact isDone
      have nextOrder : Server.joinOrder = (past ++ [server]) ++ left := by simp [order]
      subst isAfter
      cases left with
      | nil =>
          refine ⟨by simp, by simp [isPast], by simp, ?_⟩
          intro result isResult
          cases isResult
          refine .stopped (List.mem_append_left _ signalled) fun other => nextDone other ?_
          rw [← List.append_nil (past ++ [server]), ← nextOrder]
          cases other <;> decide
      | cons following left =>
          refine ⟨by simp, by simp [isPast], ?_, by simp⟩
          intro remaining isRemaining
          cases isRemaining
          exact ⟨List.mem_append_left _ signalled, past ++ [server], nextOrder, nextDone⟩
  | @broke left server message isStage isDone isAfter =>
      obtain ⟨signalled, past, order, allDone⟩ := accounted.joining _ isStage
      subst isAfter
      refine ⟨by simp, by simp [isPast], by simp, ?_⟩
      intro result isResult
      cases isResult
      exact .failed (List.mem_append_left _ signalled) order allDone isDone

theorem accounted_of_run (run : Run config events state) : Accounted config events state :=
  Machine.exec_history (Accounted config)
    ⟨fun _ => ⟨rfl, rfl⟩, fun _ => by simp, by simp [init], by simp [init]⟩
    (fun _ _ _ _ _ accounted stepped => accounted.step stepped) run

/-- What `serve` returns.  In every run it gives up before the signal only over the key
store of an enabled authentication or over a listener that it binds itself.  A server that
fails, at whatever time, is noticed after the signal, and then the first one in the order
main, metrics, admin decides, even if the others are still running; only when all three
have stopped without an error is the result a success. -/
theorem outcome_of_run {result : Except String Unit} (run : Run config events state)
    (isReturned : state.stage = .returned result) : Outcome config events state result :=
  (accounted_of_run run).returned result isReturned

/-- The main server fails soon after the start.  Nothing comes of it before the signal, and
then its error is returned while the admin server still serves. -/
theorem outcome_of_run_early :
    let config : ServeConfig :=
      { authEnabled := false
        bind := ⟨"127.0.0.1", 8080⟩
        adminBind := ⟨"127.0.0.1", 8081⟩
        metricsBind := ⟨"127.0.0.1", 9090⟩
        tlsEnabled := false
        metricsEnabled := false }
    let events : List ServeEvent :=
      [.build (.ok ()), .bind (.ok ()), .bind (.ok ()), .listen .main (.ok ()),
        .fail .main "too many files", .listen .admin (.ok ()), .register .admin, .signal, .join]
    ∃ state, Run config events state ∧ (state.tasks .admin).progress = .serving ∧
      Outcome config events state (.error "Main server error: too many files") := by
  intro config events
  have runs : ((Machine.exec (step config) init events).any fun state =>
      decide (state.stage = .returned (.error "Main server error: too many files")) &&
        decide ((state.tasks .admin).progress = .serving)) = true := by
    decide +kernel
  obtain ⟨state, run, facts⟩ := (Option.any_eq_true _ _).mp runs
  simp only [Bool.and_eq_true, decide_eq_true_eq] at facts
  exact ⟨state, run, facts.2, outcome_of_run run facts.1⟩

end Serve

end SorobanGate
