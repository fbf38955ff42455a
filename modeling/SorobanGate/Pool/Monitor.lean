import SorobanGate.Library.Machine
import SorobanGate.Pool.Health

/-!
# The health check task

`run_health_checks` as a state machine.  A cycle spawns a check for every upstream and
waits for all of them; the checks run side by side, and finish in any order.  After its
first pass the task starts a timer, which ticks once in a period.  A tick that comes due
while a cycle is still running is made up for when the cycle is over, and none is lost:
this is how `tokio::time::interval` is documented to behave when it is not told otherwise.
-/

namespace SorobanGate

/-- What the task is started with. -/
structure MonitorConfig (Target : Type) where
  /-- Every upstream, pool by pool. -/
  targets : List Target
  distinct : targets.Nodup
  /-- Whether the URL of an upstream parses. -/
  parses : Target → Bool
  skipInitial : Bool
  intervalMs : UInt64
  timeoutMs : UInt64

namespace MonitorConfig

variable {Target : Type} (config : MonitorConfig Target)

def period : Duration := .fromMillis config.intervalMs.toNat

def timeout : Duration := .fromMillis config.timeoutMs.toNat

end MonitorConfig

inductive MonitorPhase (Target : Type) where
  | starting
  /-- Setting the status of the upstreams that remain. -/
  | marking (remaining : List Target)
  /-- In a cycle, or past it when no checks are left.  The checks are spawned, or have
  sent their probe at some time.  The timer is due once it is started. -/
  | checking (spawned : List Target) (sent : List (Target × Instant)) (due : Option Instant)
  | panicked
  deriving DecidableEq

/-- The timer runs. -/
def MonitorPhase.isTimed {Target : Type} : MonitorPhase Target → Bool
  | .checking _ _ (some _) => true
  | _ => false

theorem MonitorPhase.exists_of_isTimed {Target : Type} {phase : MonitorPhase Target}
    (timed : phase.isTimed = true) :
    ∃ spawned sent due, phase = .checking spawned sent (some due) := by
  unfold isTimed at timed
  split at timed
  · exact ⟨_, _, _, rfl⟩
  · cases timed

structure Monitor (Target : Type) where
  clock : Instant
  phase : MonitorPhase Target
  /-- When the latest cycle began, or the timer was started.  Nothing reads it. -/
  began : Instant
  /-- When the latest check of the cycle finished.  Nothing reads it. -/
  ended : Instant

inductive MonitorAct (Target : Type) where
  | start
  | mark
  /-- A spawned check runs up to its probe. -/
  | launch (target : Target)
  | finish (target : Target) (result : ProbeResult)
  /-- The first pass is over. -/
  | timer
  | tick

structure MonitorMove (Target : Type) where
  time : Instant
  act : MonitorAct Target

/-- What the task does to an upstream. -/
inductive MonitorEffect (Target : Type) where
  | markHealthy (target : Target)
  | probe (target : Target) (elapsed : Duration) (result : ProbeResult)

namespace Monitor

variable {Target : Type} [DecidableEq Target]

def init (now : Instant) : Monitor Target := ⟨now, .starting, now, now⟩

/-- Start the timer, unless that has panicked.  Its first tick completes at once. -/
def startTimer (timer : Option Interval) (monitor : Monitor Target) (now : Instant) :
    Monitor Target :=
  match timer with
  | none => { monitor with clock := now, phase := .panicked }
  | some timer => ⟨now, .checking [] [] (some (now + timer.period)), now, now⟩

variable (config : MonitorConfig Target)

/-- What the task does next.  Of `tokio` it relies on what is documented: `timeout` gives up
on a probe only when its time is over, and `tick` completes only when it is due. -/
def advance (monitor : Monitor Target) (now : Instant) :
    MonitorAct Target → Option (Monitor Target)
  | .start =>
      match monitor.phase with
      | .starting =>
          if config.skipInitial then some ⟨now, .marking config.targets, now, now⟩
          else some ⟨now, .checking config.targets [] none, now, now⟩
      | _ => none
  | .mark =>
      match monitor.phase with
      | .marking (_ :: remaining) => some { monitor with clock := now, phase := .marking remaining }
      | _ => none
  | .launch target =>
      match monitor.phase with
      | .checking spawned sent due =>
          if target ∈ spawned then
            if config.parses target then
              some
                { monitor with
                  clock := now
                  phase := .checking (spawned.erase target) (sent ++ [(target, now)]) due }
            else
              some
                { monitor with
                  clock := now
                  phase := .checking (spawned.erase target) sent due
                  ended := now }
          else none
      | _ => none
  | .finish target result =>
      match monitor.phase with
      | .checking spawned sent due => do
          let start ← sent.lookup target
          if result = .timedOut ∧ now < start + config.timeout then none
          else
            some
              { monitor with
                clock := now
                phase := .checking spawned (sent.erase (target, start)) due
                ended := now }
      | _ => none
  | .timer =>
      match monitor.phase with
      | .marking [] | .checking [] [] none =>
          some (monitor.startTimer (interval config.period) now)
      | _ => none
  | .tick =>
      match monitor.phase with
      | .checking [] [] (some due) =>
          if due ≤ now then
            some ⟨now, .checking config.targets [] (some (due + config.period)), now, now⟩
          else none
      | _ => none

def step (monitor : Monitor Target) (move : MonitorMove Target) : Option (Monitor Target) :=
  if move.time < monitor.clock then none else monitor.advance config move.time move.act

/-- What a move does to the upstreams. -/
def effects (monitor : Monitor Target) (move : MonitorMove Target) :
    List (MonitorEffect Target) :=
  match monitor.phase, move.act with
  | .marking (target :: _), .mark => [.markHealthy target]
  | .checking _ sent _, .finish target result =>
      match sent.lookup target with
      | some start => [.probe target (move.time - start) result]
      | none => []
  | _, _ => []

/-- The states that the task can be in. -/
def Run (start : Instant) (moves : List (MonitorMove Target)) (monitor : Monitor Target) : Prop :=
  Machine.exec (step config) (init start) moves = some monitor

/-! ## What a move does -/

/-- The moves of the task, one constructor for each branch. -/
inductive Moves : Monitor Target → MonitorMove Target → Monitor Target → Prop where
  | startMarking {clock began ended now : Instant} (skip : config.skipInitial = true) :
      Moves ⟨clock, .starting, began, ended⟩ ⟨now, .start⟩
        ⟨now, .marking config.targets, now, now⟩
  | startChecking {clock began ended now : Instant} (first : config.skipInitial = false) :
      Moves ⟨clock, .starting, began, ended⟩ ⟨now, .start⟩
        ⟨now, .checking config.targets [] none, now, now⟩
  | mark {clock began ended now : Instant} {target : Target} {remaining : List Target} :
      Moves ⟨clock, .marking (target :: remaining), began, ended⟩ ⟨now, .mark⟩
        ⟨now, .marking remaining, began, ended⟩
  | launch {clock began ended now : Instant} {target : Target} {spawned : List Target}
      {sent : List (Target × Instant)} {due : Option Instant} (isSpawned : target ∈ spawned)
      (parses : config.parses target = true) :
      Moves ⟨clock, .checking spawned sent due, began, ended⟩ ⟨now, .launch target⟩
        ⟨now, .checking (spawned.erase target) (sent ++ [(target, now)]) due, began, ended⟩
  | giveUp {clock began ended now : Instant} {target : Target} {spawned : List Target}
      {sent : List (Target × Instant)} {due : Option Instant} (isSpawned : target ∈ spawned)
      (fails : config.parses target = false) :
      Moves ⟨clock, .checking spawned sent due, began, ended⟩ ⟨now, .launch target⟩
        ⟨now, .checking (spawned.erase target) sent due, began, now⟩
  | finish {clock began ended now start : Instant} {target : Target} {spawned : List Target}
      {sent : List (Target × Instant)} {due : Option Instant} {result : ProbeResult}
      (isSent : sent.lookup target = some start)
      (inTime : result = .timedOut → start + config.timeout ≤ now) :
      Moves ⟨clock, .checking spawned sent due, began, ended⟩ ⟨now, .finish target result⟩
        ⟨now, .checking spawned (sent.erase (target, start)) due, began, now⟩
  | panic {clock began ended now : Instant} {phase : MonitorPhase Target}
      (isOver : phase = .marking [] ∨ phase = .checking [] [] none)
      (noTimer : interval config.period = none) :
      Moves ⟨clock, phase, began, ended⟩ ⟨now, .timer⟩ ⟨now, .panicked, began, ended⟩
  | timer {clock began ended now : Instant} {phase : MonitorPhase Target} {timer : Interval}
      (isOver : phase = .marking [] ∨ phase = .checking [] [] none)
      (isTimer : interval config.period = some timer) :
      Moves ⟨clock, phase, began, ended⟩ ⟨now, .timer⟩
        ⟨now, .checking [] [] (some (now + timer.period)), now, now⟩
  | tick {clock began ended now due : Instant} (isDue : due ≤ now) :
      Moves ⟨clock, .checking [] [] (some due), began, ended⟩ ⟨now, .tick⟩
        ⟨now, .checking config.targets [] (some (due + config.period)), now, now⟩

variable {config} {monitor next : Monitor Target} {move : MonitorMove Target}

theorem Moves.startTimer {clock began ended now : Instant} {phase : MonitorPhase Target}
    (isOver : phase = .marking [] ∨ phase = .checking [] [] none) {timer : Option Interval}
    (isTimer : interval config.period = timer) :
    (Monitor.startTimer timer ⟨clock, phase, began, ended⟩ now).clock = now ∧
      Moves config ⟨clock, phase, began, ended⟩ ⟨now, .timer⟩
        (Monitor.startTimer timer ⟨clock, phase, began, ended⟩ now) := by
  cases timer with
  | none => exact ⟨rfl, .panic isOver isTimer⟩
  | some timer => exact ⟨rfl, .timer isOver isTimer⟩

/-- Inversion: a step is one of the moves, and time does not go back. -/
theorem moves_of_step (stepped : step config monitor move = some next) :
    monitor.clock ≤ move.time ∧ next.clock = move.time ∧ Moves config monitor move next := by
  obtain ⟨now, act⟩ := move
  obtain ⟨clock, phase, began, ended⟩ := monitor
  unfold step at stepped
  split at stepped
  · cases stepped
  next inOrder =>
    refine ⟨not_lt.mp inOrder, ?_⟩
    cases act with
    | start =>
        simp only [advance] at stepped
        split at stepped
        · split at stepped
          next skip =>
            cases stepped
            exact ⟨rfl, .startMarking skip⟩
          next first =>
            cases stepped
            exact ⟨rfl, .startChecking (by simpa using first)⟩
        · cases stepped
    | mark =>
        simp only [advance] at stepped
        split at stepped
        · cases stepped
          exact ⟨rfl, .mark⟩
        · cases stepped
    | launch target =>
        simp only [advance] at stepped
        split at stepped
        · split at stepped
          next isSpawned =>
            split at stepped
            next parses =>
              cases stepped
              exact ⟨rfl, .launch isSpawned parses⟩
            next fails =>
              cases stepped
              exact ⟨rfl, .giveUp isSpawned (by simpa using fails)⟩
          · cases stepped
        · cases stepped
    | finish target result =>
        simp only [advance] at stepped
        split at stepped
        · obtain ⟨start, isSent, finished⟩ := Option.bind_eq_some_iff.mp stepped
          split at finished
          · cases finished
          next inTime =>
            cases finished
            exact ⟨rfl, .finish isSent fun timedOut => not_lt.mp fun early =>
              inTime ⟨timedOut, early⟩⟩
        · cases stepped
    | timer =>
        simp only [advance] at stepped
        split at stepped
        · cases stepped
          exact Moves.startTimer (Or.inl rfl) rfl
        · cases stepped
          exact Moves.startTimer (Or.inr rfl) rfl
        · cases stepped
    | tick =>
        simp only [advance] at stepped
        split at stepped
        · split at stepped
          next isDue =>
            cases stepped
            exact ⟨rfl, .tick isDue⟩
          · cases stepped
        · cases stepped

/-! ## Once in a cycle -/

end Monitor

/-- When a probe was sent. -/
def Probe.sentAt (probe : Probe) : Instant := probe.now - probe.elapsed

namespace Monitor

variable {Target : Type} [DecidableEq Target] {config : MonitorConfig Target}
  {monitor next : Monitor Target} {move : MonitorMove Target}

/-- The probes of an upstream that a move finishes. -/
def probesOf (target : Target) (monitor : Monitor Target) (move : MonitorMove Target) :
    List Probe :=
  (monitor.effects move).filterMap fun effect =>
    match effect with
    | .probe other elapsed result =>
        if other = target then some ⟨move.time, elapsed, result⟩ else none
    | .markHealthy _ => none

/-- The checks of an upstream that are under way. -/
def outstanding (target : Target) (monitor : Monitor Target) : Nat :=
  match monitor.phase with
  | .checking spawned sent _ => spawned.count target + (sent.map Prod.fst).count target
  | _ => 0

/-- A move that begins a cycle. -/
def beginsCycle (config : MonitorConfig Target) (move : MonitorMove Target) : Bool :=
  match move.act with
  | .start => !config.skipInitial
  | .tick => true
  | _ => false

theorem probesOf_finish {target other : Target} {clock began ended now start : Instant}
    {spawned : List Target} {sent : List (Target × Instant)} {due : Option Instant}
    {result : ProbeResult} (isSent : sent.lookup other = some start) :
    probesOf target ⟨clock, .checking spawned sent due, began, ended⟩
        ⟨now, .finish other result⟩ =
      if other = target then [⟨now, now - start, result⟩] else [] := by
  simp only [probesOf, effects, isSent, List.filterMap_cons, List.filterMap_nil]
  split <;> simp_all

theorem mem_of_lookup {sent : List (Target × Instant)} {target : Target} {start : Instant}
    (isSent : sent.lookup target = some start) : (target, start) ∈ sent := by
  obtain ⟨front, back, rfl, -⟩ := List.lookup_eq_some_iff.mp isSent
  simp

theorem count_erase_sent {sent : List (Target × Instant)} {target other : Target}
    {start : Instant} (member : (other, start) ∈ sent) :
    (sent.map Prod.fst).count target =
      ((sent.erase (other, start)).map Prod.fst).count target +
        if other = target then 1 else 0 := by
  rw [((List.perm_cons_erase member).map Prod.fst).count_eq target, List.map_cons,
    List.count_cons]
  simp

/-- A cycle adds one check of each upstream, and a check goes with the probe it makes. -/
theorem Moves.accounts {target : Target} (moves : Moves config monitor move next)
    (isTarget : target ∈ config.targets) (parses : config.parses target = true) :
    (monitor.probesOf target move).length + next.outstanding target =
      monitor.outstanding target + if beginsCycle config move then 1 else 0 := by
  have once : config.targets.count target = 1 := List.count_eq_one_of_mem config.distinct isTarget
  cases moves with
  | startMarking skip => simp [probesOf, effects, outstanding, beginsCycle, skip]
  | startChecking first => simp [probesOf, effects, outstanding, beginsCycle, first, once]
  | mark => simp [probesOf, effects, outstanding, beginsCycle]
  | @launch _ _ _ _ other spawned sent _ isSpawned _ =>
      have removed := (List.perm_cons_erase isSpawned).count_eq target
      rw [List.count_cons] at removed
      simp only [probesOf, effects, outstanding, beginsCycle, List.filterMap_nil,
        List.length_nil, List.map_append, List.map_cons, List.map_nil, List.count_append,
        List.count_singleton, removed]
      simp
      omega
  | @giveUp _ _ _ _ other spawned sent _ isSpawned fails =>
      have different : other ≠ target := by
        rintro rfl
        rw [parses] at fails
        cases fails
      have removed := (List.perm_cons_erase isSpawned).count_eq target
      rw [List.count_cons, if_neg (by simpa using different)] at removed
      simp [probesOf, effects, outstanding, beginsCycle, removed]
  | finish isSent _ =>
      rw [probesOf_finish isSent]
      simp only [outstanding, beginsCycle, count_erase_sent (mem_of_lookup isSent)]
      split
      · rw [List.length_singleton]
        simp only [Bool.false_eq_true, if_false]
        omega
      · simp
  | panic isOver _ =>
      rcases isOver with rfl | rfl <;> simp [probesOf, effects, outstanding, beginsCycle]
  | timer isOver _ =>
      rcases isOver with rfl | rfl <;> simp [probesOf, effects, outstanding, beginsCycle]
  | tick isDue => simp [probesOf, effects, outstanding, beginsCycle, once]

theorem Moves.idle_of_begins (moves : Moves config monitor move next)
    (begins : beginsCycle config move = true) (target : Target) :
    monitor.outstanding target = 0 := by
  cases moves with
  | startMarking _ => rfl
  | startChecking _ => rfl
  | tick _ => rfl
  | _ => cases begins

/-- Probes are sent to upstreams whose URL parses. -/
def Addressed (config : MonitorConfig Target) (monitor : Monitor Target) : Prop :=
  ∀ spawned sent due, monitor.phase = .checking spawned sent due →
    ∀ entry ∈ sent, config.parses entry.1 = true

theorem Addressed.preserved (addressed : Addressed config monitor)
    (moves : Moves config monitor move next) : Addressed config next := by
  intro spawned' sent' due' isPhase entry member
  cases moves with
  | startMarking _ => cases isPhase
  | startChecking _ =>
      cases isPhase
      cases member
  | mark => cases isPhase
  | launch _ parses =>
      cases isPhase
      rcases List.mem_append.mp member with before | isLast
      · exact addressed _ _ _ rfl entry before
      · rw [List.mem_singleton.mp isLast]
        exact parses
  | giveUp _ _ =>
      cases isPhase
      exact addressed _ _ _ rfl entry member
  | finish _ _ =>
      cases isPhase
      exact addressed _ _ _ rfl entry (List.mem_of_mem_erase member)
  | panic _ _ => cases isPhase
  | timer _ _ =>
      cases isPhase
      cases member
  | tick _ =>
      cases isPhase
      cases member

theorem Addressed.probesOf_eq_nil (addressed : Addressed config monitor)
    (moves : Moves config monitor move next) {target : Target}
    (fails : config.parses target = false) : monitor.probesOf target move = [] := by
  cases moves with
  | finish isSent _ =>
      rw [probesOf_finish isSent, if_neg]
      rintro rfl
      have parses := addressed _ _ _ rfl _ (mem_of_lookup isSent)
      rw [fails] at parses
      cases parses
  | panic isOver _ => rcases isOver with rfl | rfl <;> rfl
  | timer isOver _ => rcases isOver with rfl | rfl <;> rfl
  | _ => rfl

section Runs

variable {start : Instant} {moves : List (MonitorMove Target)} {target : Target}

/-- Every probe of an upstream that a run finishes. -/
def probes (config : MonitorConfig Target) (target : Target) (start : Monitor Target)
    (moves : List (MonitorMove Target)) : List Probe :=
  Machine.trace (step config) (probesOf target) start moves

theorem probes_append {first : Monitor Target} {more : List (MonitorMove Target)}
    (run : Machine.exec (step config) first moves = some monitor) :
    probes config target first (moves ++ more) =
      probes config target first moves ++ probes config target monitor more :=
  Machine.trace_append run

/-- The probes of an upstream keep up with the cycles, from any state on. -/
theorem length_probes {first : Monitor Target}
    (run : Machine.exec (step config) first moves = some monitor)
    (isTarget : target ∈ config.targets) (parses : config.parses target = true) :
    (probes config target first moves).length + monitor.outstanding target =
      first.outstanding target + moves.countP (beginsCycle config) := by
  refine Machine.exec_history
    (fun moves monitor => (probes config target first moves).length +
        monitor.outstanding target =
      first.outstanding target + moves.countP (beginsCycle config)) (by simp [probes]) ?_ run
  intro moves monitor move next prior accounted stepped
  have one := (moves_of_step stepped).2.2.accounts isTarget parses
  unfold probes at accounted ⊢
  rw [Machine.trace_concat prior, List.length_append, List.countP_append, List.countP_singleton]
  omega

theorem outstanding_le_one (run : Run config start moves monitor)
    (isTarget : target ∈ config.targets) (parses : config.parses target = true) :
    monitor.outstanding target ≤ 1 := by
  refine Machine.exec_invariant (fun monitor => monitor.outstanding target ≤ 1) ?_
    (Nat.zero_le _) run
  intro monitor move next single stepped
  have moved := (moves_of_step stepped).2.2
  have one := moved.accounts isTarget parses
  cases begins : beginsCycle config move with
  | true =>
      have idle := moved.idle_of_begins begins target
      rw [begins, if_pos rfl] at one
      omega
  | false =>
      simp only [begins, Bool.false_eq_true, if_false] at one
      omega

/-- Once in a cycle.  In every run, however its checks are interleaved, an upstream
whose URL parses has been probed exactly once in each cycle that began, save for at most
one check that is still under way; an upstream whose URL does not parse is not probed. -/
theorem probes_once_per_cycle (run : Run config start moves monitor)
    (isTarget : target ∈ config.targets) :
    (config.parses target = true →
        (probes config target (init start) moves).length + monitor.outstanding target =
            moves.countP (beginsCycle config) ∧
          monitor.outstanding target ≤ 1) ∧
      (config.parses target = false → probes config target (init start) moves = []) := by
  constructor
  · intro parses
    exact ⟨by simpa [outstanding, init] using length_probes run isTarget parses,
      outstanding_le_one run isTarget parses⟩
  · intro fails
    have silent : Addressed config monitor ∧ probes config target (init start) moves = [] := by
      refine Machine.exec_history
        (fun moves monitor => Addressed config monitor ∧
          probes config target (init start) moves = []) ⟨?_, rfl⟩ ?_ run
      · intro _ _ _ isPhase
        cases isPhase
      · intro moves monitor move next prior known stepped
        have moved := (moves_of_step stepped).2.2
        refine ⟨known.1.preserved moved, ?_⟩
        have before := known.2
        unfold probes at before ⊢
        rw [Machine.trace_concat prior, before, known.1.probesOf_eq_nil moved fails]
        rfl
    exact silent.2

/-- A task with two upstreams, the URL of one of which does not parse. -/
def smallMonitor : MonitorConfig Nat where
  targets := [0, 1]
  distinct := by decide
  parses := fun target => target = 0
  skipInitial := true
  intervalMs := 1
  timeoutMs := 1

/-- The task skips its first cycle and begins two more. -/
def smallMoves : List (MonitorMove Nat) :=
  [⟨0, .start⟩, ⟨0, .mark⟩, ⟨0, .mark⟩, ⟨0, .timer⟩,
    ⟨1000000, .tick⟩, ⟨1000000, .launch 0⟩, ⟨1000000, .launch 1⟩,
    ⟨2500000, .finish 0 (.response 200)⟩,
    ⟨2500000, .tick⟩, ⟨2500000, .launch 0⟩]

theorem smallMoves_run : ∃ monitor : Monitor Nat, Run smallMonitor 0 smallMoves monitor := by
  have runs : (Machine.exec (step smallMonitor) (init 0) smallMoves).isSome = true := by
    decide +kernel
  exact Option.isSome_iff_exists.mp runs

/-- One of the two checks is over, and the other is under way. -/
theorem probes_once_per_cycle_small :
    ∃ monitor : Monitor Nat, Run smallMonitor 0 smallMoves monitor ∧
      (probes smallMonitor 0 (init 0) smallMoves).length + monitor.outstanding 0 =
        smallMoves.countP (beginsCycle smallMonitor) ∧
      probes smallMonitor 1 (init 0) smallMoves = [] := by
  obtain ⟨monitor, run⟩ := smallMoves_run
  exact ⟨monitor, run, ((probes_once_per_cycle run (by decide)).1 rfl).1,
    (probes_once_per_cycle run (by decide)).2 rfl⟩

end Runs

end Monitor

end SorobanGate
