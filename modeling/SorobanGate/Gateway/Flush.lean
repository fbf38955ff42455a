import SorobanGate.Gateway.Cache

/-!
# Flushing the cache under load

A response is stored some time after it came back, and a flush can fall in between.
It empties the cache, but what an invocation holds at that moment goes in after it
and is served from then on.
-/

namespace SorobanGate

/-- The invocation no longer waits for an upstream. -/
def Phase.isBack : Phase → Bool
  | .routed _ | .selected _ _ | .forwarding _ _ => false
  | .returned _ _ _ | .answered _ _ | .dropped _ _ | .aborted _ => true

theorem Phase.isBack_advance {settings : Settings} {app : AppState} {now : Instant}
    {phase : Phase} {action : Action} {reached : AppState × Phase}
    (advanced : phase.advance settings now app action = some reached)
    (back : phase.isBack = true) :
    reached.2.isBack = true ∧ ∀ request target result,
      reached.2 ≠ .returned request target result := by
  obtain ⟨app', phase'⟩ := reached
  cases follows_of_advance advanced with
  | answered => exact ⟨rfl, by simp⟩
  | aborted => exact ⟨rfl, by simp⟩
  | _ => cases back

theorem Phase.action_of_returned {settings : Settings} {app : AppState} {now : Instant}
    {phase : Phase} {action : Action} {reached : AppState × Phase} {request : ProxyRequest}
    {target : UpstreamRef} {result : ForwardResult}
    (advanced : phase.advance settings now app action = some reached)
    (returned : reached.2 = .returned request target result) : action = .«return» result := by
  obtain ⟨app', phase'⟩ := reached
  cases follows_of_advance advanced with
  | returned =>
      cases returned
      rfl
  | _ => cases returned

theorem AppState.receive_ne_returned (settings : Settings) (app : AppState) (now : Instant)
    (body : Option Bytes) (request : ProxyRequest) (target : UpstreamRef)
    (result : ForwardResult) :
    (app.receive settings body now).2 ≠ .returned request target result := by
  rcases app.receive_cases settings body now with ⟨response, cached, arrives⟩ | ⟨_, arrives, -⟩
  · simp [arrives]
  · simp [arrives]

theorem Instant.isSome_add?_mono {earlier later : Instant} {duration : Duration}
    (inOrder : earlier ≤ later) (representable : (Instant.add? later duration).isSome) :
    (Instant.add? earlier duration).isSome := by
  unfold Instant.add? at *
  split at representable
  next fits =>
    have sooner : (earlier + duration) / 1000000000 < 2 ^ 63 :=
      lt_of_le_of_lt (Nat.div_le_div_right (Nat.add_le_add_right inOrder duration)) fits
    rw [if_pos sooner]
    rfl
  · cases representable

theorem AppState.cached_of_lookup {settings : Settings} {app : AppState} {now : Instant}
    {request : ProxyRequest} {cache : MemoryCache} {entry : CachedValue}
    (read : ProxyRequest.ofBody settings request.body = some request)
    (isCache : app.cache = some cache) (isCached : request.ttl settings ≠ 0)
    (found : cache.cache.lookup (MemoryCache.hashToU64 (request.cacheKey settings)) = some entry)
    (live : now < entry.expiresAt) :
    ∃ response, (app.receive settings (some request.body) now).2 = .answered response true ∧
      response.body = entry.data := by
  have got : (cache.get (request.cacheKey settings) now).2 = some entry.data :=
    MemoryCache.get_eq_some_iff.mpr ⟨entry, found, live, rfl⟩
  obtain ⟨reached, isReached⟩ : ∃ reached,
      cache.get (request.cacheKey settings) now = (reached, some entry.data) :=
    ⟨_, Prod.ext rfl got⟩
  have consulted : app.consult settings request now = some (reached, some entry.data) := by
    simp only [consult, isCache, Option.bind_some, if_neg isCached, isReached]
  simp only [receive, Option.bind_some, read, consulted]
  exact ⟨_, rfl, rfl⟩

namespace Gateway

variable (settings : Settings)

/-- An invocation holds a response that it will store in the cache when it goes on. -/
def Holds (gateway : Gateway) (now : Instant) (index : Nat) : Prop :=
  gateway.app.cache.isSome ∧ ∃ request target reply,
    gateway.requests[index]? = some (.returned request target (.ok reply)) ∧
    request.ttl settings ≠ 0 ∧ reply.status.isSuccess = true ∧
    (Instant.add? now (request.ttl settings)).isSome

/-- The cache is flushed at some time of a run.  Some events later a request is answered
from the cache, and the invocation that stored the answer got it back from its upstream
before the flush. -/
def StaleAnswer (start : Instant) (before : List Timed) (now : Instant) (rest : List Timed) :
    Prop :=
  let events := before ++ ⟨now, .background .flush⟩ :: rest
  ∃ final time body request response expiresAt earlier timed later state next stored index,
    Run settings start events final ∧ final.clock ≤ time ∧
    ProxyRequest.ofBody settings body = some request ∧
    (final.app.receive settings (some body) time).2 = .answered response true ∧
    Origin settings start events final (MemoryCache.hashToU64 (request.cacheKey settings))
      ⟨response.body, expiresAt⟩ earlier timed later state next stored ∧
    timed.event = .resume index .handle ∧
    ∃ past ∈ before, past.event = .resume index (.«return» (.ok stored.reply))

variable {settings} {start : Instant} {events : List Timed} {gateway next : Gateway}
variable {timed : Timed} {index : Nat}

/-- What a step does to an invocation that is back. -/
theorem isBack_of_step {phase : Phase} (stepped : step settings gateway timed = some next)
    (atIndex : gateway.requests[index]? = some phase) (back : phase.isBack = true) :
    ∃ phase', next.requests[index]? = some phase' ∧ phase'.isBack = true ∧
      (phase' = phase ∨ ∀ request target result, phase' ≠ .returned request target result) := by
  rcases phase_of_step stepped atIndex with same | ⟨action, reached, -, advanced, goesOn⟩
  · exact ⟨phase, same, back, Or.inl rfl⟩
  · obtain ⟨stillBack, handled⟩ := Phase.isBack_advance advanced back
    exact ⟨reached.2, goesOn, stillBack, Or.inr handled⟩

theorem isBack_of_exec {phase : Phase}
    (run : Machine.exec (step settings) gateway events = some next)
    (atIndex : gateway.requests[index]? = some phase) (back : phase.isBack = true) :
    ∃ phase', next.requests[index]? = some phase' ∧ phase'.isBack = true ∧
      (phase' = phase ∨ ∀ request target result, phase' ≠ .returned request target result) := by
  refine Machine.exec_invariant
    (fun reached : Gateway => ∃ phase', reached.requests[index]? = some phase' ∧
      phase'.isBack = true ∧
      (phase' = phase ∨ ∀ request target result, phase' ≠ .returned request target result))
    ?_ ⟨phase, atIndex, back, Or.inl rfl⟩ run
  rintro state timed reached ⟨middle, atMiddle, middleBack, isMiddle⟩ stepped
  obtain ⟨last, atLast, lastBack, isLast⟩ := isBack_of_step stepped atMiddle middleBack
  refine ⟨last, atLast, lastBack, ?_⟩
  rcases isLast with rfl | handled
  · exact isMiddle
  · exact Or.inr handled

theorem isBack_of_returned {past : Timed} {result : ForwardResult}
    (run : Run settings start events gateway) (member : past ∈ events)
    (isReturn : past.event = .resume index (.«return» result)) :
    ∃ phase, gateway.requests[index]? = some phase ∧ phase.isBack = true := by
  obtain ⟨earlier, later, rfl⟩ := List.append_of_mem member
  obtain ⟨state, prior, following⟩ := Machine.exec_append_iff.mp run
  obtain ⟨next, stepped, rest⟩ := Machine.exec_cons_iff.mp following
  obtain ⟨now, event⟩ := past
  obtain rfl : event = .resume index (.«return» result) := isReturn
  obtain ⟨-, phase, reached, found, advanced, rfl⟩ := step_resume_iff.mp stepped
  have inside := (List.getElem?_eq_some_iff.mp found).1
  have atIndex : (state.requests.set index reached.2)[index]? = some reached.2 := by
    simp [inside]
  have isReached : reached.2.isBack = true := by
    obtain ⟨app', phase'⟩ := reached
    cases Phase.follows_of_advance advanced
    rfl
  obtain ⟨last, atLast, back, -⟩ := isBack_of_exec rest atIndex isReached
  exact ⟨last, atLast, back⟩

theorem returned_of_run (run : Run settings start events gateway) :
    ∀ (index : Nat) (request : ProxyRequest) (target : UpstreamRef) (result : ForwardResult),
      gateway.requests[index]? = some (.returned request target result) →
      ∃ past ∈ events, past.event = .resume index (.«return» result) := by
  refine Machine.exec_history
    (fun events (state : Gateway) => ∀ (index : Nat) (request : ProxyRequest)
      (target : UpstreamRef) (result : ForwardResult),
      state.requests[index]? = some (.returned request target result) →
      ∃ past ∈ events, past.event = .resume index (.«return» result)) ?_ ?_ run
  · intro index request target result atIndex
    simp [init] at atIndex
  · intro events state timed next prior ih stepped index request target result atIndex
    have kept : state.requests[index]? = some (.returned request target result) →
        ∃ past ∈ events ++ [timed], past.event = .resume index (.«return» result) := by
      intro atState
      obtain ⟨past, member, isReturn⟩ := ih index request target result atState
      exact ⟨past, List.mem_append_left _ member, isReturn⟩
    rcases phase_before_step stepped atIndex with ⟨body, -, arrived⟩ | ⟨old, atState⟩
    · exact absurd arrived.symm (AppState.receive_ne_returned settings _ _ _ _ _ _)
    · rcases phase_of_step stepped atState with
        same | ⟨action, reached, isResume, advanced, goesOn⟩
      · rw [same] at atIndex
        cases atIndex
        exact kept atState
      · rw [goesOn] at atIndex
        obtain rfl := Phase.action_of_returned advanced (Option.some.inj atIndex)
        exact ⟨timed, List.mem_concat_self, isResume⟩

/-- The flush of a run comes before the step that stored what the cache still has. -/
theorem Origin.after_flush {slot : UInt64} {entry : CachedValue} {now : Instant}
    {before rest earlier later : List Timed} {state final : Gateway} {stored : Stored}
    (origin : Origin settings start (before ++ ⟨now, .background .flush⟩ :: rest) final slot entry
      earlier timed later state next stored) :
    ∃ middle, earlier = before ++ ⟨now, .background .flush⟩ :: middle := by
  have noFlush := origin.no_flush
  obtain ⟨-, index, target, isHandle, -⟩ := mem_stores origin.stores
  have notFlush : timed ≠ ⟨now, .background .flush⟩ := by
    rintro rfl
    cases isHandle
  rcases List.append_eq_append_iff.mp origin.split with
    ⟨between, rfl, remaining⟩ | ⟨between, rfl, remaining⟩
  · cases between with
    | nil => exact absurd (List.cons.inj remaining).1.symm notFlush
    | cons first others =>
        obtain ⟨rfl, -⟩ := List.cons.inj remaining
        exact ⟨others, rfl⟩
  · cases between with
    | nil => exact absurd (List.cons.inj remaining).1 notFlush
    | cons first others =>
        obtain ⟨rfl, isLater⟩ := List.cons.inj remaining
        exact absurd rfl (noFlush ⟨now, .background .flush⟩ (by simp [isLater]))

/-- What an invocation holds at a flush is stored after it and then served. -/
theorem staleAnswer_of_holds {before : List Timed} {now : Instant}
    (run : Run settings start before gateway) (inOrder : gateway.clock ≤ now)
    (holds : Holds settings gateway now index) :
    StaleAnswer settings start before now [⟨now, .resume index .handle⟩] := by
  obtain ⟨hasCache, request, target, reply, atIndex, isCached, success, representable⟩ := holds
  obtain ⟨cache, isCache⟩ := Option.isSome_iff_exists.mp hasCache
  obtain ⟨flushed, flush⟩ : ∃ flushed,
      step settings gateway ⟨now, .background .flush⟩ = some flushed :=
    ⟨_, step_background_iff.mpr ⟨inOrder, rfl⟩⟩
  have sameRequests : flushed.requests = gateway.requests := by
    obtain ⟨-, rfl⟩ := step_background_iff.mp flush
    rfl
  rw [← sameRequests] at atIndex
  have isEmptied : flushed.app.cache = some cache.flush := by
    simp [cache_of_step flush, cacheOps, isCache, Background.cacheOps, Machine.exec_cons,
      CacheOp.step]
  obtain ⟨final, handle⟩ : ∃ final,
      step settings flushed ⟨now, .resume index .handle⟩ = some final :=
    ⟨_, step_resume_iff.mpr ⟨(clock_of_step flush).2.le, _, _, atIndex, rfl, rfl⟩⟩
  -- The response goes into the emptied cache.
  have stores : flushed.stores settings ⟨now, .resume index .handle⟩ = [⟨request, reply⟩] := by
    simp [Gateway.stores, isEmptied, atIndex, Phase.stores, isCached, success, representable]
  obtain ⟨expiresAt, added⟩ := Option.isSome_iff_exists.mp representable
  obtain rfl := Instant.add?_eq_some added
  have isFinal : final.app.cache = some { cache.flush with
      cache := cache.flush.cache.insert (MemoryCache.hashToU64 (request.cacheKey settings))
        ⟨reply.body, now + request.ttl settings⟩ } := by
    rw [cache_of_step handle, isEmptied, Option.bind_some]
    simp only [cacheOps, isEmptied, stores, List.map_cons, List.map_nil, Stored.op]
    exact Machine.exec_cons_iff.mpr ⟨_, CacheOp.step_set_iff.mpr ⟨added, rfl⟩, rfl⟩
  have read := (read_of_run run _ (List.mem_of_getElem? (sameRequests ▸ atIndex)) _ rfl).2
  obtain ⟨response, cached, isBody⟩ := AppState.cached_of_lookup read isFinal isCached
    (AList.lookup_insert _) (Nat.lt_add_of_pos_right (Nat.pos_of_ne_zero isCached))
  obtain ⟨past, member, isReturn⟩ :=
    returned_of_run run index request target (.ok reply) (sameRequests ▸ atIndex)
  have whole : Run settings start (before ++ [⟨now, .background .flush⟩]) flushed :=
    Machine.exec_concat_iff.mpr ⟨gateway, run, flush⟩
  have split : before ++ ⟨now, .background .flush⟩ :: [⟨now, .resume index .handle⟩] =
      (before ++ [⟨now, .background .flush⟩]) ++ [⟨now, .resume index .handle⟩] := by
    simp
  refine ⟨final, now, request.body, request, response, now + request.ttl settings,
    before ++ [⟨now, .background .flush⟩], ⟨now, .resume index .handle⟩, [], flushed, final,
    ⟨request, reply⟩, index, ?_, (clock_of_step handle).2.le, read, cached,
    ⟨split, whole, handle, rfl, by simp [stores], rfl, by rw [isBody], by simp⟩, rfl, past,
    member, isReturn⟩
  rw [split]
  exact Machine.exec_concat_iff.mpr ⟨flushed, whole, handle⟩

/-- Only what an invocation holds at a flush is served from before it. -/
theorem holds_of_staleAnswer {before rest : List Timed} {now : Instant}
    (run : Run settings start before gateway)
    (stale : StaleAnswer settings start before now rest) :
    ∃ index, Holds settings gateway now index := by
  obtain ⟨final, time, body, request, response, expiresAt, earlier, timed, later, state, next,
    stored, index, whole, inOrder, read, cached, origin, isHandle, past, member, isReturn⟩ := stale
  obtain ⟨hasCache, other, target, isResume, atIndex, isCached, success, representable⟩ :=
    mem_stores origin.stores
  obtain rfl : index = other := by
    rw [isHandle] at isResume
    cases isResume
    rfl
  have prior := origin.prior
  obtain ⟨middle, rfl⟩ := origin.after_flush
  obtain ⟨reached, first, following⟩ := Machine.exec_append_iff.mp prior
  obtain rfl := Option.some.inj (first.symm.trans run)
  obtain ⟨phase, atGateway, back⟩ := isBack_of_returned run member isReturn
  obtain ⟨last, atState, -, same | handled⟩ := isBack_of_exec following atGateway back
  · -- The invocation held its response all along.
    rw [atIndex] at atState
    cases atState
    refine ⟨index, ?_, stored.request, target, stored.reply, same ▸ atGateway, isCached, success,
      Instant.isSome_add?_mono ?_ representable⟩
    · rw [← isSome_cache_of_exec following, hasCache]
    · obtain ⟨flushed, stepped, remaining⟩ := Machine.exec_cons_iff.mp following
      calc now = flushed.clock := (clock_of_step stepped).2.symm
        _ ≤ state.clock := clock_le_of_exec remaining
        _ ≤ timed.time := (clock_of_step origin.stepped).1
  · rw [atIndex] at atState
    exact absurd (Option.some.inj atState).symm (handled _ _ _)

/-- A flush is a barrier exactly when no invocation holds a response to be stored: in
whatever way the run goes on, no request is answered from the cache with what came back
before the flush. -/
theorem flush_barrier_iff {before : List Timed} {now : Instant}
    (run : Run settings start before gateway) (inOrder : gateway.clock ≤ now) :
    (∀ rest, ¬ StaleAnswer settings start before now rest) ↔
      ∀ index, ¬ Holds settings gateway now index := by
  constructor
  · intro barrier index holds
    exact barrier _ (staleAnswer_of_holds run inOrder holds)
  · intro noneHeld rest stale
    obtain ⟨index, holds⟩ := holds_of_staleAnswer run stale
    exact noneHeld index holds

/-- Once an exchange is over, a flush is a barrier to its response. -/
theorem flush_barrier_filled :
    ∃ gateway, Run (smallSettings ledgerRules) 0 filled gateway ∧
      ∀ rest, ¬ StaleAnswer (smallSettings ledgerRules) 0 filled 2 rest := by
  have computed : (Machine.exec (step (smallSettings ledgerRules))
      (init (smallSettings ledgerRules) 0) filled).map
        (fun gateway => (gateway.clock, gateway.requests.map Phase.request?)) =
      some (1, [none]) := by
    decide +kernel
  obtain ⟨gateway, run, isFinal⟩ := Option.map_eq_some_iff.mp computed
  obtain ⟨clock, answered⟩ := Prod.mk.inj isFinal
  refine ⟨gateway, run, (flush_barrier_iff run (clock.trans_le (by decide))).mpr ?_⟩
  rintro index ⟨-, request, target, reply, atIndex, -⟩
  have member := List.mem_map_of_mem (f := Phase.request?) (List.mem_of_getElem? atIndex)
  rw [answered, List.mem_singleton] at member
  cases member

/-- An exchange whose response has come back and is not yet stored. -/
def held : List Timed :=
  ⟨0, .background (.markHealthy firstUpstream)⟩ :: (exchange 0 1 1 (ledgerReply 1)).take 4

/-- The cache is flushed at this moment, and yet the response is served from it later. -/
theorem flush_misses_held :
    ∃ gateway rest, Run (smallSettings ledgerRules) 0 held gateway ∧ gateway.clock ≤ 1 ∧
      StaleAnswer (smallSettings ledgerRules) 0 held 1 rest := by
  have computed : (Machine.exec (step (smallSettings ledgerRules))
      (init (smallSettings ledgerRules) 0) held).map
        (fun gateway => (gateway.clock,
          (gateway.stores (smallSettings ledgerRules) ⟨1, .resume 0 .handle⟩).map
            (·.reply.body))) =
      some (1, [(ledgerResponse 1).toBytes]) := by
    decide +kernel
  obtain ⟨gateway, run, isFinal⟩ := Option.map_eq_some_iff.mp computed
  obtain ⟨clock, bodies⟩ := Prod.mk.inj isFinal
  obtain ⟨stored, member⟩ : ∃ stored,
      stored ∈ gateway.stores (smallSettings ledgerRules) ⟨1, .resume 0 .handle⟩ := by
    apply List.exists_mem_of_ne_nil
    intro none
    rw [none] at bodies
    cases bodies
  obtain ⟨hasCache, index, target, isResume, facts⟩ := mem_stores member
  exact ⟨gateway, _, run, clock.le, staleAnswer_of_holds run clock.le
    ⟨hasCache, stored.request, target, stored.reply, facts⟩⟩

end Gateway

end SorobanGate
