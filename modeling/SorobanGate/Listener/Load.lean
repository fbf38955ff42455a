import SorobanGate.Listener.Admission
import SorobanGate.Listener.Limits
import Mathlib.Algebra.Order.BigOperators.Group.List

/-!
# How much is let past

Where every key has a configured tier, each request that is let past has taken a token
of its tier's bucket.  What a bucket gives away in a stretch of time is bounded, and so
is therefore the number of requests that reach the proxy handler.
-/

namespace SorobanGate

/-- The tiers that the middleware knows. -/
def keyTiers (config : AuthConfig) : List KeyTier :=
  (authTiers config).entries.map fun entry => entry.2

/-- The bucket that the keys of a tier draw on. -/
def KeyTier.rateKey (tier : KeyTier) : String := "tier:" ++ tier.name

theorem name_of_authTiers {config : AuthConfig} {name : String} {tier : KeyTier}
    (configured : (authTiers config).lookup name = some tier) : tier.name = name := by
  rw [authTiers, lookup_methodTable, Option.map_id, id] at configured
  have named := List.find?_some configured
  simp only [List.mem_singleton, decide_eq_true_eq] at named
  exact named.symm

theorem mem_keyTiers {config : AuthConfig} {name : String} {tier : KeyTier}
    (configured : (authTiers config).lookup name = some tier) : tier ∈ keyTiers config :=
  List.mem_map.mpr ⟨⟨name, tier⟩, AList.mem_lookup_iff.mp configured, rfl⟩

theorem lookup_of_mem_keyTiers {config : AuthConfig} {tier : KeyTier}
    (member : tier ∈ keyTiers config) : (authTiers config).lookup tier.name = some tier := by
  obtain ⟨⟨name, found⟩, isEntry, rfl⟩ := List.mem_map.mp member
  have configured : (authTiers config).lookup name = some found :=
    AList.mem_lookup_iff.mpr isEntry
  rw [name_of_authTiers configured]
  exact configured

theorem Front.limits_of_tier {front : Front} {arrival : Arrival} {call : RateCall}
    {tier : KeyTier} (isTier : tier ∈ keyTiers front.config.auth)
    (isCall : front.calls arrival = some call) (onTier : call.key = tier.rateKey) :
    call.requestsPerSecond = tier.requestsPerSecond ∧ call.burst = tier.burst := by
  unfold calls at isCall
  split at isCall
  · cases isCall
  · cases isCall
    unfold rateCall at onTier ⊢
    split
    next other isOther =>
      simp only [isOther, KeyTier.rateKey] at onTier
      obtain ⟨name, -, configured⟩ := Option.bind_eq_some_iff.mp isOther
      have sameName : other.name = tier.name := by
        have characters := congrArg String.toList onTier
        exact String.toList_inj.mp (by simpa using characters)
      rw [← name_of_authTiers configured, sameName,
        lookup_of_mem_keyTiers isTier] at configured
      cases configured
      exact ⟨rfl, rfl⟩
    next noTier =>
      simp only [noTier, KeyTier.rateKey] at onTier
      have characters := congrArg String.toList onTier
      simp at characters

namespace Listener

variable {arith : TokenArith} {backend : AuthBackend} {settings : Settings}
  {listener next : Listener arith} {moment : Moment} {store : SqliteKeyStore} {start : Instant}
  {moments : List Moment}

/-- A request that passes authentication has a configured tier. -/
def Tiered (backend : AuthBackend) (settings : Settings) (listener : Listener arith)
    (moment : Moment) : Prop :=
  ∀ web passed, moment.occurrence = .request web →
    authMiddleware backend settings.config.auth listener.keyStore web.http = .next passed →
    ∃ tier, passed.authTier.bind (authTiers settings.config.auth).lookup = some tier

theorem taken_of_admits (enabled : settings.config.rateLimit.enabled = true)
    (ready : Ready settings listener) (tiered : listener.Tiered backend settings moment) :
    listener.admits backend settings moment = [] ∨
      (listener.admits backend settings moment).length = 1 ∧
        ∃ tier ∈ keyTiers settings.config.auth,
          Refill.taken (Machine.trace RateCall.step (RateCall.shown tier.rateKey)
            listener.limiterView (calls backend settings listener moment)) = 1 := by
  rcases listener.admits_cases moment with
    nothing | ⟨web, passed, isRequest, isPassed, unlimited, admits⟩
  · exact Or.inl nothing
  · refine Or.inr ⟨by rw [admits, List.length_singleton], ?_⟩
    obtain ⟨tier, isTier⟩ := tiered web passed isRequest isPassed
    obtain ⟨name, -, configured⟩ := Option.bind_eq_some_iff.mp isTier
    obtain ⟨limiter, isLimiter⟩ := ready.exists_limiter enabled
    refine ⟨tier, mem_keyTiers configured, ?_⟩
    have isCall : (listener.front backend settings).calls ⟨web.http, moment.time⟩ =
        some (rateCall settings.config passed moment.time) := by
      simp only [Front.calls, front, isPassed]
    have onTier : (rateCall settings.config passed moment.time).key = tier.rateKey := by
      simp only [rateCall, isTier, KeyTier.rateKey]
    have limits : listener.limits.rateLimiter = some limiter := isLimiter
    have verdict := (Front.process_of_calls enabled isCall limits).2
    rw [unlimited] at verdict
    have isAdmitted : RateCall.admitted listener.limiterView
        (rateCall settings.config passed moment.time) = true := by
      by_contra rejected
      rw [Bool.not_eq_true, RateCall.admitted, limiterView, isLimiter, Option.getD_some]
        at rejected
      rw [if_neg (by simp [rejected])] at verdict
      cases verdict
    have isCalls : calls backend settings listener moment =
        [rateCall settings.config passed moment.time] := by
      simp only [calls, enabled, isLimiter, isRequest, isCall, Option.toList_some]
    rw [isCalls, Machine.trace_singleton, RateCall.shown, if_pos onTier, isAdmitted]
    rfl

/-- Every request that is let past took a token of one of the tiers. -/
theorem admitted_length_le (enabled : settings.config.rateLimit.enabled = true)
    (run : Run backend settings store start moments listener)
    (tiered : Machine.Always (step backend settings) (Tiered backend settings)
      (init settings arith store start) moments) :
    (admitted backend settings arith store start moments).length ≤
      ((keyTiers settings.config.auth).map fun tier =>
        Refill.taken (RateCall.history arith tier.rateKey
          (allCalls backend settings arith store start moments))).sum := by
  revert tiered
  refine Machine.exec_history
    (fun moments (_ : Listener arith) =>
      Machine.Always (step backend settings) (Tiered backend settings)
        (init settings arith store start) moments →
      (admitted backend settings arith store start moments).length ≤
        ((keyTiers settings.config.auth).map fun tier =>
          Refill.taken (RateCall.history arith tier.rateKey
            (allCalls backend settings arith store start moments))).sum)
    (fun _ => by simp [admitted]) ?_ run
  intro moments listener moment next prior ih stepped tiered
  have before := ih tiered.init
  have grows : ∀ tier : KeyTier,
      Refill.taken (RateCall.history arith tier.rateKey
          (allCalls backend settings arith store start (moments ++ [moment]))) =
        Refill.taken (RateCall.history arith tier.rateKey
          (allCalls backend settings arith store start moments)) +
        Refill.taken (Machine.trace RateCall.step (RateCall.shown tier.rateKey)
          listener.limiterView (calls backend settings listener moment)) := by
    intro tier
    rw [history_concat prior, Refill.taken, List.countP_append]
    rfl
  have extended : admitted backend settings arith store start (moments ++ [moment]) =
      admitted backend settings arith store start moments ++
        admits backend settings listener moment :=
    Machine.trace_concat prior
  rw [extended, List.length_append]
  rcases taken_of_admits enabled (ready_of_run prior) (tiered.last prior) with
    nothing | ⟨one, tier, isTier, taken⟩
  · rw [nothing, List.length_nil, Nat.add_zero]
    refine before.trans (List.sum_le_sum fun tier _ => ?_)
    rw [grows]
    exact Nat.le_add_right _ _
  · rw [one]
    refine Nat.succ_le_of_lt (before.trans_lt (List.sum_lt_sum _ _ (fun tier _ => ?_) ?_))
    · rw [grows]
      exact Nat.le_add_right _ _
    · refine ⟨tier, isTier, ?_⟩
      rw [grows, taken]
      exact Nat.lt_succ_self _

theorem start_le_clock (run : Run backend settings store start moments listener) :
    start ≤ listener.gateway.clock := by
  refine Machine.exec_invariant (fun listener => start ≤ listener.gateway.clock) ?_ le_rfl run
  intro listener moment next before stepped
  obtain ⟨inOrder, clock, -⟩ := step_cases stepped
  exact clock ▸ before.trans inOrder

theorem exists_of_mem_allCalls (run : Run backend settings store start moments listener)
    {call : RateCall} (member : call ∈ allCalls backend settings arith store start moments) :
    ∃ (state : Listener arith) (moment : Moment) (web : WebRequest), start ≤ moment.time ∧
      (state.front backend settings).calls ⟨web.http, moment.time⟩ = some call := by
  obtain ⟨earlier, later, split⟩ := List.append_of_mem member
  obtain ⟨before, moment, after, state, next, left, right, -, prior, stepped, -, shown, -⟩ :=
    Machine.trace_split run split
  have isShown : call ∈ calls backend settings state moment := by
    rw [shown]
    exact List.mem_append_right _ List.mem_cons_self
  obtain ⟨web, -, isCall⟩ := mem_calls isShown
  exact ⟨state, moment, web, (start_le_clock prior).trans (step_cases stepped).1, isCall⟩

/-- What a tier's bucket gives away in a run is bounded by its limits. -/
theorem taken_le {listener : Listener .rat}
    (run : Run backend settings store start moments listener) {tier : KeyTier}
    (isTier : tier ∈ keyTiers settings.config.auth) :
    (Refill.taken (RateCall.history .rat tier.rateKey
        (allCalls backend settings .rat store start moments)) : ℚ) ≤
      tier.burst.toNat + tier.requestsPerSecond.toNat *
        (RateCall.secs listener.gateway.clock - RateCall.secs start) := by
  have uniform : ∀ call ∈ allCalls backend settings .rat store start moments,
      call.key = tier.rateKey →
      call.requestsPerSecond = tier.requestsPerSecond ∧ call.burst = tier.burst := by
    intro call member
    obtain ⟨state, moment, web, -, isCall⟩ := exists_of_mem_allCalls run member
    exact @Front.limits_of_tier (state.front backend settings) _ _ _ isTier isCall
  have tracks := RateCall.tracks_of_run (allCalls_ordered run).1 uniform (limiterView_of_run run)
  have monotone : ∀ {earlier later : Instant}, earlier ≤ later →
      RateCall.secs earlier ≤ RateCall.secs later := by
    intro earlier later ordered
    unfold RateCall.secs
    gcongr
  have inWindow : ∀ entry ∈ RateCall.history .rat tier.rateKey
      (allCalls backend settings .rat store start moments),
      RateCall.secs start ≤ entry.1 ∧ entry.1 ≤ RateCall.secs listener.gateway.clock := by
    intro entry member
    obtain ⟨call, isCall, limiter, shown⟩ := Machine.exists_of_mem_trace member
    unfold RateCall.shown at shown
    split at shown
    · rw [List.mem_singleton.mp shown]
      obtain ⟨state, moment, web, late, made⟩ := exists_of_mem_allCalls run isCall
      exact ⟨monotone ((Front.now_of_calls made).symm ▸ late),
        monotone ((allCalls_ordered run).2 call isCall)⟩
    · cases shown
  have all : Refill.takenBetween (RateCall.secs start) (RateCall.secs listener.gateway.clock)
      (RateCall.history .rat tier.rateKey
        (allCalls backend settings .rat store start moments)) =
      Refill.taken (RateCall.history .rat tier.rateKey
        (allCalls backend settings .rat store start moments)) := by
    refine List.countP_congr fun entry member => ?_
    obtain ⟨afterStart, beforeEnd⟩ := inWindow entry member
    simp [afterStart, beforeEnd]
  rw [← all]
  exact Refill.takenBetween_bound (Nat.cast_nonneg _) (Nat.cast_nonneg _) tracks.exact
    (monotone (start_le_clock run))

/-- The requests that a run lets past are bounded by the limits of all tiers. -/
theorem admitted_le_tiers {listener : Listener .rat}
    (enabled : settings.config.rateLimit.enabled = true)
    (run : Run backend settings store start moments listener)
    (tiered : Machine.Always (step backend settings) (Tiered backend settings)
      (init settings .rat store start) moments) :
    ((admitted backend settings .rat store start moments).length : ℚ) ≤
      ((keyTiers settings.config.auth).map fun tier =>
        (tier.burst.toNat + tier.requestsPerSecond.toNat *
          (RateCall.secs listener.gateway.clock - RateCall.secs start) : ℚ)).sum := by
  have counted : ((admitted backend settings .rat store start moments).length : ℚ) ≤
      (((keyTiers settings.config.auth).map fun tier =>
        Refill.taken (RateCall.history .rat tier.rateKey
          (allCalls backend settings .rat store start moments))).sum : Nat) :=
    Nat.cast_le.mpr (admitted_length_le enabled run tiered)
  rw [← Nat.coe_castRingHom, map_list_sum, List.map_map] at counted
  exact counted.trans (List.sum_le_sum fun tier member => taken_le run member)

end Listener

end SorobanGate
