import SorobanGate.Config.Validate
import SorobanGate.Gateway.Cache

/-!
# Panics from configured numbers

Three numbers of the configuration are used in arithmetic that can go wrong: the
size of the cache, the period of the health checks and the lifetimes of cached
responses.
-/

namespace SorobanGate

/-- The capacity of a new cache is the number of its kibibytes exactly when the number
of its bytes fits in 64 bits. -/
theorem MemoryCache.maxCapacity_new_iff (maxMemoryMb : UInt64) :
    (MemoryCache.new maxMemoryMb).maxCapacity.toNat = maxMemoryMb.toNat * 1024 ↔
      maxMemoryMb.toNat < 2 ^ 44 := by
  simp only [new, UInt64.toNat_div, UInt64.toNat_mul]
  have small := maxMemoryMb.toNat_lt
  have kilo : (1024 : UInt64).toNat = 1024 := rfl
  rw [kilo]
  omega

theorem Instant.isSome_add?_fromSecs (now : Instant) (secs : Nat) :
    (Instant.add? now (.fromSecs secs)).isSome = true ↔
      now / 1000000000 + secs < 2 ^ 63 := by
  have whole : (now + secs * 1000000000) / 1000000000 = now / 1000000000 + secs :=
    Nat.add_mul_div_right now secs (by decide)
  unfold Instant.add? Duration.fromSecs
  rw [whole]
  split <;> simp_all

theorem Duration.fromSecs_ne_zero {secs : UInt64} (positive : secs ≠ 0) :
    Duration.fromSecs secs.toNat ≠ 0 := by
  intro zero
  have noSecs : secs.toNat = 0 := by
    simpa [Duration.fromSecs] using zero
  exact positive (UInt64.toNat_inj.mp noSecs)

/-- The invocation has panicked. -/
def Phase.isAborted : Phase → Bool
  | .aborted _ => true
  | _ => false

namespace AppState

variable {settings : Settings} {app : AppState} {now : Instant}

theorem isAborted_receive (body : Option Bytes) :
    (app.receive settings body now).2.isAborted = false := by
  rcases app.receive_cases settings body now with ⟨response, cached, arrives⟩ | ⟨_, arrives, -⟩
  · rw [arrives]
    rfl
  · rw [arrives]
    rfl

theorem isAborted_selectUpstream (request : ProxyRequest) (draw : Nat) :
    (app.selectUpstream request draw).2.isAborted = false := by
  rcases app.selectUpstream_cases request draw with ⟨response, reached⟩ | ⟨target, reached⟩
  · rw [reached]
    rfl
  · rw [reached]
    rfl

theorem isAborted_handle {request : ProxyRequest} {target : UpstreamRef}
    {result : ForwardResult}
    (aborted : (app.handle settings request target result now).2.isAborted = true) :
    app.cache.isSome = true ∧ request.ttl settings ≠ 0 ∧
      Instant.add? now (request.ttl settings) = none := by
  cases result with
  | error message => cases aborted
  | ok reply =>
      simp only [handle] at aborted
      split at aborted
      next failed =>
        unfold store at failed
        split at failed
        · cases failed
        next cache isCache =>
          split at failed
          next cached =>
            refine ⟨?_, cached.1, ?_⟩
            · exact Option.isSome_iff_exists.mpr ⟨cache, isCache⟩
            · cases added : Instant.add? now (request.ttl settings) with
              | none => rfl
              | some expiresAt => simp [MemoryCache.set, added] at failed
          · cases failed
      · cases aborted

end AppState

namespace Gateway

variable {settings : Settings} {start : Instant} {events : List Timed} {gateway : Gateway}

theorem isSome_cache_of_run (run : Run settings start events gateway) :
    gateway.app.cache.isSome = settings.config.cache.enabled := by
  rw [isSome_cache_of_exec run]
  simp only [init, buildState]
  cases settings.config.cache.enabled <;> rfl

/-- Lifetimes that are representable at all clock readings of a run abort nothing. -/
theorem not_aborted_of_run {latest : Instant}
    (representable : settings.config.cache.enabled = true → ∀ method now,
      settings.cacheTtlTable.ttlFor method ≠ 0 → now ≤ latest →
      (Instant.add? now (settings.cacheTtlTable.ttlFor method)).isSome = true)
    (run : Run settings start events gateway)
    (inTime : ∀ timed ∈ events, timed.time ≤ latest) :
    ∀ phase ∈ gateway.requests, phase.isAborted = false := by
  intro phase member
  refine phase_invariant
    (fun events phase => (∀ timed ∈ events, timed.time ≤ latest) → phase.isAborted = false)
    ?_ ?_ ?_ run phase member inTime
  · intro events timed phase known inTime
    exact known fun earlier member => inTime earlier (List.mem_append_left _ member)
  · intro events state now body _ _
    exact AppState.isAborted_receive body
  · intro events state now index action phase reached prior _ _ advanced inTime
    rcases Phase.advance_cases advanced with
      ⟨request, draw, -, -, rfl⟩ | ⟨request, target, -, -, rfl⟩ |
      ⟨request, target, result, -, -, rfl⟩ | ⟨request, target, -, -, rfl⟩ |
      ⟨request, target, result, -, -, rfl⟩
    · exact AppState.isAborted_selectUpstream request draw
    · rfl
    · rfl
    · rfl
    · by_contra aborted
      obtain ⟨hasCache, hasTtl, overflows⟩ :=
        AppState.isAborted_handle (Bool.eq_true_of_not_eq_false aborted)
      rw [isSome_cache_of_run prior] at hasCache
      have fits := representable hasCache request.method now hasTtl
        (inTime ⟨now, .resume index action⟩ (by simp))
      rw [show Instant.add? now (settings.cacheTtlTable.ttlFor request.method) = none
        from overflows] at fits
      cases fits

/-- Up to some clock reading nothing that the gateway computes from its configuration
overflows or panics: neither when it builds its state, nor in the health check task,
nor in any invocation of the proxy handler. -/
structure NoPanic (settings : Settings) (latest : Instant) : Prop where
  capacity : settings.config.cache.enabled = true →
    (MemoryCache.new settings.config.cache.maxMemoryMb).maxCapacity.toNat =
      settings.config.cache.maxMemoryMb.toNat * 1024
  healthChecks : ∀ skipInitial ticks,
    (runHealthChecks settings.config.healthCheck skipInitial ticks).isSome = true
  expiry : settings.config.cache.enabled = true → ∀ method now,
    settings.cacheTtlTable.ttlFor method ≠ 0 → now ≤ latest →
    (Instant.add? now (settings.cacheTtlTable.ttlFor method)).isSome = true
  handler : ∀ start events gateway, Run settings start events gateway →
    (∀ timed ∈ events, timed.time ≤ latest) →
    ∀ phase ∈ gateway.requests, phase.isAborted = false

/-- The bounds that validation leaves out. -/
structure Bounded (config : Config) (latest : Instant) : Prop where
  interval : config.healthCheck.intervalMs ≠ 0
  memory : config.cache.enabled = true → config.cache.maxMemoryMb.toNat < 2 ^ 44
  lifetimes : config.cache.enabled = true → ∀ method rule,
    config.cache.rules.reverse.find? (fun rule => method ∈ rule.methods) = some rule →
    rule.ttlSecs ≠ 0 → latest / 1000000000 + rule.ttlSecs.toNat < 2 ^ 63

/-- The gateway does not panic over its configuration exactly when the period of the
health checks is not zero and, with a cache, its size is below 2^44 mebibytes and no
lifetime takes the seconds of the clock out of the range of a signed 64-bit counter. -/
theorem noPanic_iff_bounded (settings : Settings) (latest : Instant) :
    NoPanic settings latest ↔ Bounded settings.config latest := by
  constructor
  · intro safe
    refine ⟨?_, ?_, ?_⟩
    · exact (isSome_runHealthChecks settings.config.healthCheck true 0).mp
        (safe.healthChecks true 0)
    · intro enabled
      exact (MemoryCache.maxCapacity_new_iff _).mp (safe.capacity enabled)
    · intro enabled method rule isLast hasTtl
      have isTtl : settings.cacheTtlTable.ttlFor method = .fromSecs rule.ttlSecs.toNat := by
        rw [Settings.cacheTtlTable, TtlTable.ttlFor_new, isLast]
      rw [← Instant.isSome_add?_fromSecs, ← isTtl]
      apply safe.expiry enabled method latest _ le_rfl
      rw [isTtl]
      exact Duration.fromSecs_ne_zero hasTtl
  · intro bounded
    have expiry : settings.config.cache.enabled = true → ∀ method now,
        settings.cacheTtlTable.ttlFor method ≠ 0 → now ≤ latest →
        (Instant.add? now (settings.cacheTtlTable.ttlFor method)).isSome = true := by
      intro enabled method now hasTtl inTime
      rw [Settings.cacheTtlTable, TtlTable.ttlFor_new] at hasTtl ⊢
      split at hasTtl
      · exact absurd rfl hasTtl
      next rule isLast =>
        rw [Instant.isSome_add?_fromSecs]
        have notZero : rule.ttlSecs ≠ 0 := by
          rintro zero
          exact hasTtl (by simp [zero, Duration.fromSecs])
        have seconds : now / 1000000000 ≤ latest / 1000000000 := Nat.div_le_div_right inTime
        exact (Nat.add_le_add_right seconds _).trans_lt
          (bounded.lifetimes enabled method rule isLast notZero)
    refine ⟨?_, ?_, expiry, ?_⟩
    · intro enabled
      exact (MemoryCache.maxCapacity_new_iff _).mpr (bounded.memory enabled)
    · intro skipInitial ticks
      exact (isSome_runHealthChecks _ _ _).mpr bounded.interval
    · intro start events gateway run inTime
      exact not_aborted_of_run expiry run inTime

/-- The small gateway with the numbers that validation does not look at. -/
def numbers (intervalMs maxMemoryMb ttlSecs : UInt64) : Settings :=
  let small := smallSettings [{ methods := ["getLatestLedger"], ttlSecs := ttlSecs }]
  { small with
    config :=
      { small.config with
        healthCheck := { intervalMs := intervalMs }
        cache := { small.config.cache with maxMemoryMb := maxMemoryMb } } }

theorem filled_aborts : ∃ gateway, Run (numbers 5000 512 9223372036854775808) 0 filled gateway ∧
    ∃ phase ∈ gateway.requests, phase.isAborted = true := by
  have computed : (Machine.exec (step (numbers 5000 512 9223372036854775808))
      (init (numbers 5000 512 9223372036854775808) 0) filled).map
        (fun gateway => gateway.requests.any Phase.isAborted) = some true := by
    decide +kernel
  obtain ⟨gateway, run, aborted⟩ := Option.map_eq_some_iff.mp computed
  exact ⟨gateway, run, List.any_eq_true.mp aborted⟩

/-- Each of the three numbers can make a validated configuration panic: a period of
zero, 2^44 mebibytes of cache, and a lifetime of 2^63 seconds. -/
theorem validated_panics :
    (validate (numbers 0 512 60).config = .ok () ∧ ¬ NoPanic (numbers 0 512 60) 1) ∧
    (validate (numbers 5000 17592186044416 60).config = .ok () ∧
      ¬ NoPanic (numbers 5000 17592186044416 60) 1) ∧
    (validate (numbers 5000 512 9223372036854775808).config = .ok () ∧
      ¬ NoPanic (numbers 5000 512 9223372036854775808) 1) := by
  refine ⟨⟨rfl, ?_⟩, ⟨rfl, ?_⟩, rfl, ?_⟩
  · intro safe
    exact absurd (safe.healthChecks true 0) (by decide)
  · intro safe
    exact absurd (safe.capacity rfl) (by decide)
  · intro safe
    obtain ⟨gateway, run, phase, member, aborted⟩ := filled_aborts
    rw [safe.handler 0 filled gateway run (by decide) phase member] at aborted
    cases aborted

end Gateway

end SorobanGate
