import SorobanGate.Library.Machine
import SorobanGate.Pool.CircuitBreaker

/-!
# The breaker as an automaton

When a breaker changes its state is a matter of the calls made on it and of their times:
of the failures since the last success that counted, and of the latest failure since the
breaker tripped.
-/

namespace SorobanGate

inductive BreakerOp where
  | recordSuccess
  | recordFailure
  | tryHalfOpen
  deriving DecidableEq, Repr

/-- A call, with the clock reading it makes. -/
structure BreakerCall where
  time : Instant
  op : BreakerOp
  deriving DecidableEq, Repr

/-- A call together with the state that it finds. -/
structure BreakerCall.Seen where
  before : CircuitBreakerState
  call : BreakerCall
  deriving DecidableEq, Repr

namespace BreakerCall

def step (breaker : CircuitBreaker) (call : BreakerCall) : Option CircuitBreaker :=
  match call.op with
  | .recordSuccess => some (breaker.recordSuccess call.time)
  | .recordFailure => some (breaker.recordFailure call.time)
  | .tryHalfOpen => some (breaker.tryHalfOpen call.time)

def observe (breaker : CircuitBreaker) (call : BreakerCall) : List Seen :=
  [⟨breaker.state, call⟩]

/-- What a history of calls does on a new breaker. -/
def history (failureThreshold : UInt32) (cooldown : Duration) (created : Instant)
    (calls : List BreakerCall) : List Seen :=
  Machine.trace step observe (.new failureThreshold cooldown created) calls

/-- The breaker is created and called at times that never go back. -/
def Ordered (created : Instant) (calls : List BreakerCall) : Prop :=
  (created :: calls.map time).Pairwise (· ≤ ·)

instance (created : Instant) (calls : List BreakerCall) : Decidable (Ordered created calls) :=
  inferInstanceAs (Decidable (List.Pairwise _ _))

/-! ## Reading a history -/

/-- A success that closes the breaker, or that it sees while it is closed. -/
def Seen.resets (seen : Seen) : Bool :=
  seen.call.op = .recordSuccess ∧ seen.before ≠ .«open»

def Seen.isFailure (seen : Seen) : Bool := seen.call.op = .recordFailure

/-- The number of failures since the breaker was created, last closed, or last saw a
success while it was closed. -/
def failuresSinceReset (seen : List Seen) : Nat :=
  (seen.reverse.takeWhile fun entry => !entry.resets).countP Seen.isFailure

/-- The calls since the breaker was last closed or half open, newest first; the call that
left that state is the last of them. -/
def sinceLeft (seen : List Seen) : List Seen :=
  let opened := seen.reverse.takeWhile fun entry => entry.before = .«open»
  seen.reverse.take (opened.length + 1)

/-- The time of the latest failure since the breaker was last closed or half open. -/
def latestFailure (seen : List Seen) : Option Instant :=
  (((sinceLeft seen).filter Seen.isFailure).map fun entry => entry.call.time).max?

variable {seen : List Seen} {last : Seen}

theorem failuresSinceReset_of_resets (resets : last.resets = true) :
    failuresSinceReset (seen ++ [last]) = 0 := by
  simp [failuresSinceReset, resets]

theorem failuresSinceReset_concat (keeps : last.resets = false) :
    failuresSinceReset (seen ++ [last]) =
      failuresSinceReset seen + if last.isFailure then 1 else 0 := by
  simp [failuresSinceReset, keeps, List.countP_cons]

theorem sinceLeft_of_open (found : last.before = .«open») :
    sinceLeft (seen ++ [last]) = last :: sinceLeft seen := by
  simp [sinceLeft, found]

theorem sinceLeft_of_left (found : last.before ≠ .«open») :
    sinceLeft (seen ++ [last]) = [last] := by
  simp [sinceLeft, found]

theorem latestFailure_of_left (found : last.before ≠ .«open»)
    (failed : last.isFailure = true) :
    latestFailure (seen ++ [last]) = some last.call.time := by
  simp [latestFailure, sinceLeft_of_left found, failed]

theorem latestFailure_of_failure {since : Instant} (found : last.before = .«open»)
    (failed : last.isFailure = true) (earlier : latestFailure seen = some since)
    (later : since ≤ last.call.time) :
    latestFailure (seen ++ [last]) = some last.call.time := by
  unfold latestFailure at earlier ⊢
  rw [sinceLeft_of_open found, List.filter_cons_of_pos failed, List.map_cons, List.max?_cons,
    earlier]
  simp only [Option.elim_some, max_eq_left later]

theorem latestFailure_of_other (found : last.before = .«open»)
    (other : last.isFailure = false) : latestFailure (seen ++ [last]) = latestFailure seen := by
  simp [latestFailure, sinceLeft_of_open found, other]

/-! ## What the breaker remembers -/

/-- The fields of a breaker, read off the calls that it has seen and their times. -/
structure Follows (failureThreshold : UInt32) (cooldown : Duration) (seen : List Seen)
    (times : List Instant) (breaker : CircuitBreaker) : Prop where
  threshold : breaker.failureThreshold = failureThreshold
  waits : breaker.cooldown = cooldown
  stamped : breaker.lastStateChange ∈ times
  counted : breaker.state = .closed → breaker.failureCount.toNat = failuresSinceReset seen
  below : breaker.state = .closed → breaker.failureCount < failureThreshold
  reached : breaker.state ≠ .closed → breaker.failureCount = failureThreshold
  latest : breaker.state = .«open» → latestFailure seen = some breaker.lastStateChange

namespace Follows

variable {failureThreshold : UInt32} {cooldown : Duration} {times : List Instant}
  {breaker : CircuitBreaker} {now : Instant}

theorem of_reset (positive : 1 ≤ failureThreshold) (threshold : breaker.failureThreshold =
    failureThreshold) (waits : breaker.cooldown = cooldown)
    (stamped : breaker.lastStateChange ∈ times) (isClosed : breaker.state = .closed)
    (zero : breaker.failureCount = 0) (none : failuresSinceReset seen = 0) :
    Follows failureThreshold cooldown seen times breaker where
  threshold := threshold
  waits := waits
  stamped := stamped
  counted _ := by rw [zero, none, UInt32.toNat_zero]
  below _ := by
    rw [UInt32.le_iff_toNat_le] at positive
    rw [zero]
    exact UInt32.lt_iff_toNat_lt.mpr positive
  reached tripped := absurd isClosed tripped
  latest isOpen := by cases isClosed.symm.trans isOpen

theorem of_failure (threshold : breaker.failureThreshold = failureThreshold)
    (waits : breaker.cooldown = cooldown) (stamped : breaker.lastStateChange ∈ times)
    (isOpen : breaker.state = .«open»)
    (reached : breaker.failureCount = failureThreshold)
    (latest : latestFailure seen = some breaker.lastStateChange) :
    Follows failureThreshold cooldown seen times breaker where
  threshold := threshold
  waits := waits
  stamped := stamped
  counted isClosed := by cases isOpen.symm.trans isClosed
  below isClosed := by cases isOpen.symm.trans isClosed
  reached _ := reached
  latest _ := latest

theorem new (positive : 1 ≤ failureThreshold) (created : Instant) :
    Follows failureThreshold cooldown [] [created] (.new failureThreshold cooldown created) :=
  of_reset positive rfl rfl List.mem_cons_self rfl rfl rfl

section Calls

variable (follows : Follows failureThreshold cooldown seen times breaker)

include follows

/-- A call that is neither a failure nor a success that counts leaves the breaker as it
is remembered. -/
theorem idle {op : BreakerOp} (keeps : Seen.resets ⟨breaker.state, now, op⟩ = false)
    (other : Seen.isFailure ⟨breaker.state, now, op⟩ = false) :
    Follows failureThreshold cooldown (seen ++ [⟨breaker.state, now, op⟩]) (times ++ [now])
      breaker where
  threshold := follows.threshold
  waits := follows.waits
  stamped := List.mem_append_left _ follows.stamped
  counted isClosed := by
    rw [failuresSinceReset_concat keeps, other, follows.counted isClosed]
    rfl
  below := follows.below
  reached := follows.reached
  latest isOpen := by rw [latestFailure_of_other isOpen other, follows.latest isOpen]

theorem recordSuccess (positive : 1 ≤ failureThreshold) :
    Follows failureThreshold cooldown (seen ++ [⟨breaker.state, now, .recordSuccess⟩])
      (times ++ [now]) (breaker.recordSuccess now) := by
  have reset : breaker.state ≠ .«open» →
      failuresSinceReset (seen ++ [⟨breaker.state, now, .recordSuccess⟩]) = 0 :=
    fun notOpen => failuresSinceReset_of_resets (by simp [Seen.resets, notOpen])
  unfold CircuitBreaker.recordSuccess
  split
  next isHalfOpen =>
    exact of_reset positive follows.threshold follows.waits (by simp) rfl rfl
      (reset (by simp [isHalfOpen]))
  next isClosed =>
    exact of_reset positive follows.threshold follows.waits
      (List.mem_append_left _ follows.stamped) isClosed rfl (reset (by simp [isClosed]))
  next isOpen => exact follows.idle (by simp [Seen.resets, isOpen]) rfl

theorem recordFailure (later : breaker.lastStateChange ≤ now) :
    Follows failureThreshold cooldown (seen ++ [⟨breaker.state, now, .recordFailure⟩])
      (times ++ [now]) (breaker.recordFailure now) := by
  have left : breaker.state ≠ .«open» →
      latestFailure (seen ++ [⟨breaker.state, now, .recordFailure⟩]) = some now :=
    fun notOpen => latestFailure_of_left notOpen rfl
  unfold CircuitBreaker.recordFailure
  split
  next isClosed =>
    have succ := CircuitBreaker.failureCount_succ (follows.below isClosed)
    have below := UInt32.lt_iff_toNat_lt.mp (follows.below isClosed)
    dsimp only
    split
    next reaches =>
      -- One failure below the threshold and one more reach it exactly.
      rw [follows.threshold, UInt32.le_iff_toNat_le, succ] at reaches
      refine of_failure follows.threshold follows.waits (by simp) rfl ?_
        (left (by simp [isClosed]))
      refine UInt32.toNat_inj.mp ?_
      rw [succ]
      omega
    next short =>
      rw [follows.threshold, UInt32.le_iff_toNat_le, succ] at short
      refine ⟨follows.threshold, follows.waits, List.mem_append_left _ follows.stamped,
        fun _ => ?_, fun _ => ?_, fun tripped => absurd isClosed tripped, ?_⟩
      · rw [failuresSinceReset_concat rfl, succ, follows.counted isClosed]
        rfl
      · rw [UInt32.lt_iff_toNat_lt, succ]
        omega
      · intro isOpen
        cases isClosed.symm.trans isOpen
  next isHalfOpen =>
    exact of_failure follows.threshold follows.waits (by simp) rfl
      (follows.reached (by simp [isHalfOpen])) (left (by simp [isHalfOpen]))
  next isOpen =>
    exact of_failure follows.threshold follows.waits (by simp) isOpen
      (follows.reached (by simp [isOpen]))
      (latestFailure_of_failure isOpen rfl (follows.latest isOpen) later)

theorem tryHalfOpen :
    Follows failureThreshold cooldown (seen ++ [⟨breaker.state, now, .tryHalfOpen⟩])
      (times ++ [now]) (breaker.tryHalfOpen now) := by
  unfold CircuitBreaker.tryHalfOpen
  split
  next elapsed =>
    refine ⟨follows.threshold, follows.waits, by simp, ?_, ?_, ?_, ?_⟩
    · intro isClosed
      cases isClosed
    · intro isClosed
      cases isClosed
    · exact fun _ => follows.reached (by simp [elapsed.1])
    · intro isOpen
      cases isOpen
  · exact follows.idle rfl rfl

theorem step {call : BreakerCall} {next : CircuitBreaker} (positive : 1 ≤ failureThreshold)
    (later : breaker.lastStateChange ≤ call.time) (stepped : call.step breaker = some next) :
    Follows failureThreshold cooldown (seen ++ [⟨breaker.state, call⟩]) (times ++ [call.time])
      next := by
  obtain ⟨now, op⟩ := call
  cases op with
  | recordSuccess =>
      cases stepped
      exact follows.recordSuccess positive
  | recordFailure =>
      cases stepped
      exact follows.recordFailure later
  | tryHalfOpen =>
      cases stepped
      exact follows.tryHalfOpen

end Calls

end Follows

/-! ## The automaton -/

variable {failureThreshold : UInt32} {cooldown : Duration} {created : Instant}
  {calls : List BreakerCall} {breaker next : CircuitBreaker} {call : BreakerCall}

theorem Ordered.concat_iff :
    Ordered created (calls ++ [call]) ↔
      Ordered created calls ∧ ∀ earlier ∈ created :: calls.map time, earlier ≤ call.time := by
  unfold Ordered
  rw [List.map_append, ← List.cons_append, List.pairwise_append]
  simp

/-- What the breaker remembers of every history. -/
theorem follows_of_run (positive : 1 ≤ failureThreshold) (ordered : Ordered created calls)
    (run : Machine.exec step (.new failureThreshold cooldown created) calls = some breaker) :
    Follows failureThreshold cooldown (history failureThreshold cooldown created calls)
      (created :: calls.map time) breaker := by
  refine Machine.exec_history
    (fun calls breaker => Ordered created calls →
      Follows failureThreshold cooldown (history failureThreshold cooldown created calls)
        (created :: calls.map time) breaker)
    (fun _ => .new positive created) ?_ run ordered
  intro calls state call next prior ih stepped ordered
  obtain ⟨orderedBefore, later⟩ := Ordered.concat_iff.mp ordered
  have follows := ih orderedBefore
  have extended := follows.step positive (later _ follows.stamped) stepped
  have seen : history failureThreshold cooldown created (calls ++ [call]) =
      history failureThreshold cooldown created calls ++ [⟨state.state, call⟩] :=
    Machine.trace_concat prior
  rw [seen, List.map_append, ← List.cons_append]
  exact extended

/-- When a call takes a breaker out of the state it finds it in. -/
structure Transition (failureThreshold : UInt32) (cooldown : Duration) (seen : List Seen)
    (call : BreakerCall) (before after : CircuitBreaker) : Prop where
  closed : before.state = .closed →
    (after.state ≠ .closed ↔
      call.op = .recordFailure ∧ failuresSinceReset seen + 1 = failureThreshold.toNat)
  opened : before.state = .«open» →
    ∃ since, latestFailure seen = some since ∧
      (after.state ≠ .«open» ↔ call.op = .tryHalfOpen ∧ since + cooldown ≤ call.time)
  halfOpen : before.state = .halfOpen →
    (after.state = .closed ↔ call.op = .recordSuccess) ∧
      (after.state = .«open» ↔ call.op = .recordFailure)

section Transitions

variable (follows : Follows failureThreshold cooldown seen (created :: calls.map time) breaker)
  (stepped : call.step breaker = some next)

include follows stepped

theorem leaves_closed_iff (isClosed : breaker.state = .closed) :
    next.state ≠ .closed ↔
      call.op = .recordFailure ∧ failuresSinceReset seen + 1 = failureThreshold.toNat := by
  obtain ⟨now, op⟩ := call
  cases op with
  | recordSuccess =>
      cases stepped
      simp [CircuitBreaker.recordSuccess, isClosed]
  | tryHalfOpen =>
      cases stepped
      simp [CircuitBreaker.tryHalfOpen, isClosed]
  | recordFailure =>
      cases stepped
      have succ := CircuitBreaker.failureCount_succ (follows.below isClosed)
      have below := UInt32.lt_iff_toNat_lt.mp (follows.below isClosed)
      rw [← follows.counted isClosed]
      rcases CircuitBreaker.recordFailure_cases breaker now with
        ⟨-, short, counted⟩ | ⟨reaches, isOpen, -⟩
      · rw [follows.threshold, UInt32.lt_iff_toNat_lt, succ] at short
        rw [counted]
        simp only [isClosed, ne_eq, not_true_eq_false, true_and, false_iff]
        omega
      · have reached := reaches isClosed
        rw [follows.threshold, UInt32.le_iff_toNat_le, succ] at reached
        simp only [isOpen, ne_eq, reduceCtorEq, not_false_eq_true, true_and, true_iff]
        omega

theorem leaves_open_iff (ordered : Ordered created (calls ++ [call]))
    (isOpen : breaker.state = .«open») :
    next.state ≠ .«open» ↔
      call.op = .tryHalfOpen ∧ breaker.lastStateChange + cooldown ≤ call.time := by
  have later := (Ordered.concat_iff.mp ordered).2 _ follows.stamped
  obtain ⟨now, op⟩ := call
  cases op with
  | recordSuccess =>
      cases stepped
      simp [CircuitBreaker.recordSuccess, isOpen]
  | recordFailure =>
      cases stepped
      simp [CircuitBreaker.recordFailure, isOpen]
  | tryHalfOpen =>
      cases stepped
      have elapsed : breaker.cooldown ≤ now - breaker.lastStateChange ↔
          breaker.lastStateChange + cooldown ≤ now := by
        rw [follows.waits, Nat.le_sub_iff_add_le' later]
      by_cases past : breaker.lastStateChange + cooldown ≤ now
      · simp [CircuitBreaker.tryHalfOpen, isOpen, elapsed, past]
      · simp [CircuitBreaker.tryHalfOpen, isOpen, elapsed, past]

omit follows in
theorem leaves_halfOpen_iff (isHalfOpen : breaker.state = .halfOpen) :
    (next.state = .closed ↔ call.op = .recordSuccess) ∧
      (next.state = .«open» ↔ call.op = .recordFailure) := by
  obtain ⟨now, op⟩ := call
  cases op with
  | recordSuccess =>
      cases stepped
      simp [CircuitBreaker.recordSuccess, isHalfOpen]
  | recordFailure =>
      cases stepped
      simp [CircuitBreaker.recordFailure, isHalfOpen]
  | tryHalfOpen =>
      cases stepped
      simp [CircuitBreaker.tryHalfOpen, isHalfOpen]

end Transitions

theorem isSome_step (breaker : CircuitBreaker) (call : BreakerCall) :
    (call.step breaker).isSome := by
  unfold step
  split <;> rfl

/-- The automaton.  After every history of calls the count is below the threshold while
the breaker is closed, with room for one more failure, and equal to it otherwise; and the
next call leaves the closed state exactly as the failure that reaches the threshold, the
open one exactly as a half-open attempt a cooldown after the latest failure, and the
half-open one exactly as a success or a failure. -/
theorem breaker_automaton (positive : 1 ≤ failureThreshold) (ordered : Ordered created calls) :
    ∃ breaker,
      Machine.exec step (.new failureThreshold cooldown created) calls = some breaker ∧
      (breaker.state = .closed → breaker.failureCount < failureThreshold ∧
        (breaker.failureCount + 1).toNat = breaker.failureCount.toNat + 1) ∧
      (breaker.state ≠ .closed → breaker.failureCount = failureThreshold) ∧
      ∀ call next, Ordered created (calls ++ [call]) → call.step breaker = some next →
        Transition failureThreshold cooldown
          (history failureThreshold cooldown created calls) call breaker next := by
  obtain ⟨breaker, run⟩ : ∃ breaker,
      Machine.exec step (.new failureThreshold cooldown created) calls = some breaker := by
    refine Machine.exec_total (fun call _ state => ?_) _
    exact Option.isSome_iff_exists.mp (isSome_step state call)
  have follows := follows_of_run positive ordered run
  refine ⟨breaker, run, ?_, follows.reached, ?_⟩
  · intro isClosed
    have below := follows.below isClosed
    exact ⟨below, CircuitBreaker.failureCount_succ below⟩
  · intro call next inOrder stepped
    refine ⟨leaves_closed_iff follows stepped, ?_, leaves_halfOpen_iff stepped⟩
    intro isOpen
    exact ⟨_, follows.latest isOpen, leaves_open_iff follows stepped inOrder isOpen⟩

/-- Two failures trip a breaker with a threshold of two, a third one restarts its timer,
and a second after that one it admits traffic again. -/
theorem breaker_automaton_trips :
    ∃ breaker,
      Machine.exec step (.new 2 (.fromSecs 1) 0)
        [⟨1, .recordFailure⟩, ⟨2, .recordFailure⟩, ⟨500000000, .recordFailure⟩] =
          some breaker ∧
      breaker.failureCount = 2 ∧
      ∀ next, (⟨1500000000, .tryHalfOpen⟩ : BreakerCall).step breaker = some next →
        next.state ≠ .«open» := by
  have ordered : Ordered 0
      [⟨1, .recordFailure⟩, ⟨2, .recordFailure⟩, ⟨500000000, .recordFailure⟩,
        ⟨1500000000, .tryHalfOpen⟩] := by
    decide
  obtain ⟨breaker, run, -, reached, transition⟩ :=
    @breaker_automaton 2 (.fromSecs 1) 0
      [⟨1, .recordFailure⟩, ⟨2, .recordFailure⟩, ⟨500000000, .recordFailure⟩]
      (by decide) (by decide)
  have isOpen : breaker.state = .«open» := by
    cases run
    rfl
  refine ⟨breaker, run, reached (by simp [isOpen]), fun next stepped => ?_⟩
  obtain ⟨since, latest, leaves⟩ := (transition _ next ordered stepped).opened isOpen
  refine leaves.mpr ⟨rfl, ?_⟩
  have isSince : since = 500000000 := by
    have computed : latestFailure (history 2 (.fromSecs 1) 0
        [⟨1, .recordFailure⟩, ⟨2, .recordFailure⟩, ⟨500000000, .recordFailure⟩]) =
          some 500000000 := by
      decide
    exact Option.some.inj (latest.symm.trans computed)
  rw [isSince]
  decide

end BreakerCall

end SorobanGate
