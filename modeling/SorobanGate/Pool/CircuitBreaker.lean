import SorobanGate.Basic

/-!
# Circuit breaker

The three-state breaker that each upstream carries.  Every operation that reads
the clock takes the reading as an argument.
-/

namespace SorobanGate

inductive CircuitBreakerState where
  | closed
  | «open»
  | halfOpen
  deriving DecidableEq, Repr

structure CircuitBreaker where
  state : CircuitBreakerState
  failureCount : UInt32
  failureThreshold : UInt32
  cooldown : Duration
  lastStateChange : Instant
  deriving DecidableEq, Repr

namespace CircuitBreaker

def new (failureThreshold : UInt32) (cooldown : Duration) (now : Instant) :
    CircuitBreaker where
  state := .closed
  failureCount := 0
  failureThreshold := failureThreshold
  cooldown := cooldown
  lastStateChange := now

def isAvailable (breaker : CircuitBreaker) : Bool :=
  match breaker.state with
  | .closed => true
  | .«open» => false
  | .halfOpen => true

/-- An open breaker whose cooldown has elapsed admits traffic again. -/
def tryHalfOpen (breaker : CircuitBreaker) (now : Instant) : CircuitBreaker :=
  if breaker.state = .«open» ∧ breaker.cooldown ≤ now - breaker.lastStateChange then
    { breaker with state := .halfOpen, lastStateChange := now }
  else breaker

def recordSuccess (breaker : CircuitBreaker) (now : Instant) : CircuitBreaker :=
  match breaker.state with
  | .halfOpen =>
      { breaker with state := .closed, failureCount := 0, lastStateChange := now }
  | .closed => { breaker with failureCount := 0 }
  | .«open» => breaker

def recordFailure (breaker : CircuitBreaker) (now : Instant) : CircuitBreaker :=
  match breaker.state with
  | .closed =>
      let counted := { breaker with failureCount := breaker.failureCount + 1 }
      if counted.failureThreshold ≤ counted.failureCount then
        { counted with state := .«open», lastStateChange := now }
      else counted
  | .halfOpen => { breaker with state := .«open», lastStateChange := now }
  | .«open» => { breaker with lastStateChange := now }

@[simp] theorem tryHalfOpen_failureCount (breaker : CircuitBreaker) (now : Instant) :
    (breaker.tryHalfOpen now).failureCount = breaker.failureCount := by
  unfold tryHalfOpen
  split <;> rfl

@[simp] theorem tryHalfOpen_failureThreshold (breaker : CircuitBreaker) (now : Instant) :
    (breaker.tryHalfOpen now).failureThreshold = breaker.failureThreshold := by
  unfold tryHalfOpen
  split <;> rfl

@[simp] theorem recordFailure_failureThreshold (breaker : CircuitBreaker) (now : Instant) :
    (breaker.recordFailure now).failureThreshold = breaker.failureThreshold := by
  unfold recordFailure
  split
  · dsimp only
    split <;> rfl
  · rfl
  · rfl

@[simp] theorem recordFailure_cooldown (breaker : CircuitBreaker) (now : Instant) :
    (breaker.recordFailure now).cooldown = breaker.cooldown := by
  unfold recordFailure
  split
  · dsimp only
    split <;> rfl
  · rfl
  · rfl

theorem failureCount_succ {breaker : CircuitBreaker} {threshold : UInt32}
    (below : breaker.failureCount < threshold) :
    (breaker.failureCount + 1).toNat = breaker.failureCount.toNat + 1 := by
  have bound := threshold.toNat_lt
  rw [UInt32.lt_iff_toNat_lt] at below
  rw [UInt32.toNat_add]
  exact Nat.mod_eq_of_lt (show breaker.failureCount.toNat + 1 < 2 ^ 32 by omega)

/-- A half-open attempt changes nothing but an open breaker past its cooldown. -/
theorem tryHalfOpen_cases (breaker : CircuitBreaker) (now : Instant) :
    breaker.tryHalfOpen now = breaker ∨
      (breaker.state = .«open» ∧ breaker.cooldown ≤ now - breaker.lastStateChange ∧
        (breaker.tryHalfOpen now).state = .halfOpen) := by
  unfold tryHalfOpen
  split
  next elapsed => exact Or.inr ⟨elapsed.1, elapsed.2, rfl⟩
  · exact Or.inl rfl

theorem tryHalfOpen_of_early {breaker : CircuitBreaker} {since now : Instant}
    (restarted : since ≤ breaker.lastStateChange) (later : since ≤ now)
    (early : now < since + breaker.cooldown) : breaker.tryHalfOpen now = breaker := by
  have waiting : ∀ cooldown last start time : Nat, start ≤ last → start ≤ time →
      time < start + cooldown → ¬ cooldown ≤ time - last := by
    intros
    omega
  unfold tryHalfOpen
  rw [if_neg fun elapsed => waiting _ _ _ _ restarted later early elapsed.2]

theorem tryHalfOpen_closed_iff (breaker : CircuitBreaker) (now : Instant) :
    (breaker.tryHalfOpen now).state = .closed ↔ breaker.state = .closed := by
  rcases tryHalfOpen_cases breaker now with same | ⟨wasOpen, _, isHalfOpen⟩
  · rw [same]
  · rw [wasOpen, isHalfOpen]
    simp

/-- A recorded failure either is counted by a breaker that stays closed below
its threshold, or leaves the breaker open with its timer restarted. -/
theorem recordFailure_cases (breaker : CircuitBreaker) (now : Instant) :
    (breaker.state = .closed ∧
        breaker.failureCount + 1 < breaker.failureThreshold ∧
        breaker.recordFailure now =
          { breaker with failureCount := breaker.failureCount + 1 }) ∨
      ((breaker.state = .closed →
          breaker.failureThreshold ≤ breaker.failureCount + 1) ∧
        (breaker.recordFailure now).state = .«open» ∧
        (breaker.recordFailure now).lastStateChange = now) := by
  unfold recordFailure
  split
  next isClosed =>
    simp only
    split
    next reached => exact Or.inr ⟨fun _ => reached, rfl, rfl⟩
    next below => exact Or.inl ⟨isClosed, by simpa using below, rfl⟩
  next isHalfOpen => exact Or.inr ⟨by simp [isHalfOpen], rfl, rfl⟩
  next isOpen => exact Or.inr ⟨by simp [isOpen], isOpen, rfl⟩

theorem recordFailure_lastStateChange {breaker : CircuitBreaker} {now : Instant}
    (isOpen : (breaker.recordFailure now).state = .«open») :
    (breaker.recordFailure now).lastStateChange = now := by
  rcases recordFailure_cases breaker now with ⟨wasClosed, _, equal⟩ | ⟨_, _, restarted⟩
  · rw [equal, wasClosed] at isOpen
    cases isOpen
  · exact restarted

end CircuitBreaker

end SorobanGate
