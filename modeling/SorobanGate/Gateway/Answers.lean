import SorobanGate.Gateway.Cache

/-!
# Where answers come from

Invocations of the proxy handler run side by side and share one cache.  Whatever the
interleaving, a client is told what the forward of its own invocation brought back, or
what an earlier forward brought back for a request of the same slot, or it is refused.
-/

namespace SorobanGate

/-- How the handler passes on what its forward has brought back. -/
def passOn : ForwardResult → Response
  | .ok reply => ⟨reply.status, reply.headers, reply.body⟩
  | .error message => jsonErrorResponse (AppState.failureStatus message) (-32000) message

/-- The response that is made of a stored body. -/
def fromCache (body : Bytes) : Response :=
  ⟨200, [("content-type", asBytes "application/json")], body⟩

/-- An invocation is over with a certain answer. -/
def Phase.isAnswer (response : Response) (cached : Bool) : Phase → Bool
  | .answered given fromThere => given = response ∧ fromThere = cached
  | _ => false

theorem Phase.isAnswer_iff {phase : Phase} {response : Response} {cached : Bool} :
    phase.isAnswer response cached = true ↔ phase = .answered response cached := by
  cases phase <;> simp [isAnswer]

namespace AppState

variable {settings : Settings} {app : AppState} {now : Instant}

theorem receive_answered_cases {body : Option Bytes} {response : Response} {cached : Bool}
    (answered : (app.receive settings body now).2 = .answered response cached) :
    (cached = false ∧ response ∈ refusals) ∨
      cached = true ∧ response = fromCache response.body ∧ ∃ text, body = some text := by
  unfold receive at answered
  split at answered
  · cases answered
    exact Or.inl ⟨rfl, by simp [refusals]⟩
  next request isRequest =>
    split at answered
    · cases answered
    · cases answered
      obtain ⟨text, isBody, -⟩ := Option.bind_eq_some_iff.mp isRequest
      exact Or.inr ⟨rfl, rfl, text, isBody⟩
    · cases answered

theorem handle_passOn (request : ProxyRequest) (target : UpstreamRef) (result : ForwardResult) :
    (app.handle settings request target result now).2 = .answered (passOn result) false ∨
      (app.handle settings request target result now).2 = .aborted request ∧
        ∃ reply, result = .ok reply := by
  cases result with
  | ok reply =>
      simp only [handle]
      split
      · exact Or.inr ⟨rfl, reply, rfl⟩
      · exact Or.inl rfl
  | error message => exact Or.inl rfl

end AppState

namespace Gateway

/-! ## What a run says of an invocation -/

/-- The bodies of a run in order of arrival, an unreadable one counted too. -/
def received (events : List Timed) : List (Option Bytes) :=
  events.filterMap fun timed =>
    match timed.event with
    | .receive body => some body
    | _ => none

/-- What the forward of an invocation has brought back. -/
def returns (index : Nat) (events : List Timed) : List ForwardResult :=
  events.filterMap fun timed =>
    match timed.event with
    | .resume request (.«return» result) => if request = index then some result else none
    | _ => none

theorem received_append (first second : List Timed) :
    received (first ++ second) = received first ++ received second :=
  List.filterMap_append

theorem returns_append (index : Nat) (first second : List Timed) :
    returns index (first ++ second) = returns index first ++ returns index second :=
  List.filterMap_append

theorem returns_own (index : Nat) (now : Instant) (result : ForwardResult) :
    returns index [⟨now, .resume index (.«return» result)⟩] = [result] := by
  simp [returns]

variable (settings : Settings)

/-- What is known of an invocation from the events of a run. -/
def Told (start : Instant) (events : List Timed) (index : Nat) : Phase → Prop
  | .routed request | .selected request _ | .forwarding request _ | .dropped request _ =>
      returns index events = [] ∧ (received events)[index]? = some (some request.body)
  | .returned request _ result =>
      returns index events = [result] ∧ (received events)[index]? = some (some request.body)
  | .answered response false =>
      returns index events = [] ∧ response ∈ AppState.refusals ∨
        ∃ result, returns index events = [result] ∧ response = passOn result
  | .answered response true =>
      returns index events = [] ∧ ∃ before now body state, before <+: events ∧
        Run settings start before state ∧ (received events)[index]? = some (some body) ∧
        (state.app.receive settings (some body) now).2 = .answered response true
  | .aborted _ => ∃ reply, returns index events = [.ok reply]

variable {settings} {start : Instant} {events : List Timed} {gateway next : Gateway}
variable {timed : Timed} {index : Nat} {phase : Phase}

/-- Later events that do not return the forward of an invocation tell nothing new. -/
theorem Told.later (told : Told settings start events index phase)
    (silent : returns index [timed] = []) :
    Told settings start (events ++ [timed]) index phase := by
  have sameReturns : returns index (events ++ [timed]) = returns index events := by
    rw [returns_append, silent, List.append_nil]
  have stillReceived : ∀ body, (received events)[index]? = some (some body) →
      (received (events ++ [timed]))[index]? = some (some body) := by
    intro body isReceived
    rw [received_append, List.getElem?_append_left (List.getElem?_eq_some_iff.mp isReceived).1,
      isReceived]
  cases phase with
  | answered response cached =>
      cases cached with
      | false => rwa [Told, sameReturns]
      | true =>
          obtain ⟨nothing, before, now, body, state, past, run, isReceived, answered⟩ := told
          exact ⟨sameReturns.trans nothing, before, now, body, state,
            past.trans (List.prefix_append _ _), run, stillReceived body isReceived, answered⟩
  | aborted request => rwa [Told, sameReturns]
  | returned request target result =>
      exact ⟨sameReturns.trans told.1, stillReceived _ told.2⟩
  | _ => exact ⟨sameReturns.trans told.1, stillReceived _ told.2⟩

theorem Told.advance {now : Instant} {app : AppState} {action : Action}
    {reached : AppState × Phase} (told : Told settings start events index phase)
    (advanced : phase.advance settings now app action = some reached) :
    Told settings start (events ++ [⟨now, .resume index action⟩]) index reached.2 := by
  have stillReceived : received (events ++ [⟨now, .resume index action⟩]) = received events := by
    rw [received_append]
    exact List.append_nil _
  have extended : returns index (events ++ [⟨now, .resume index action⟩]) =
      returns index events ++ returns index [⟨now, .resume index action⟩] := returns_append _ _ _
  rcases Phase.advance_cases advanced with
    ⟨request, draw, rfl, rfl, rfl⟩ | ⟨request, target, rfl, rfl, rfl⟩ |
    ⟨request, target, result, rfl, rfl, rfl⟩ | ⟨request, target, rfl, rfl, rfl⟩ |
    ⟨request, target, result, rfl, rfl, rfl⟩
  · obtain ⟨nothing, isReceived⟩ := told
    rcases app.selectUpstream_inv request draw with
      ⟨response, isRefusal, refused⟩ | ⟨pool, place, handle, -, -, -, turned⟩
    · rw [refused]
      exact Or.inl ⟨by rw [extended, nothing]; rfl, isRefusal⟩
    · rw [turned]
      exact ⟨by rw [extended, nothing]; rfl, by rw [stillReceived, isReceived]⟩
  · exact ⟨by rw [extended, told.1]; rfl, by rw [stillReceived, told.2]⟩
  · exact ⟨by simp [extended, told.1, returns_own], by rw [stillReceived, told.2]⟩
  · exact ⟨by rw [extended, told.1]; rfl, by rw [stillReceived, told.2]⟩
  · have one : returns index (events ++ [⟨now, .resume index .handle⟩]) = [result] := by
      rw [extended, told.1]
      rfl
    rcases @AppState.handle_passOn settings app now request target result with
      isPhase | ⟨isPhase, reply, rfl⟩
    · rw [isPhase]
      exact Or.inr ⟨result, one, rfl⟩
    · rw [isPhase]
      exact ⟨reply, one⟩

/-- What is known of all invocations. -/
structure Known (settings : Settings) (start : Instant) (events : List Timed)
    (gateway : Gateway) : Prop where
  length : (received events).length = gateway.requests.length
  unborn : ∀ index, gateway.requests.length ≤ index → returns index events = []
  told : ∀ index phase, gateway.requests[index]? = some phase →
    Told settings start events index phase

theorem Known.receive {now : Instant} {body : Option Bytes}
    (known : Known settings start events gateway) (run : Run settings start events gateway) :
    Known settings start (events ++ [⟨now, .receive body⟩])
      ⟨now, (gateway.app.receive settings body now).1,
        gateway.requests ++ [(gateway.app.receive settings body now).2]⟩ := by
  have oneMore : received (events ++ [⟨now, .receive body⟩]) = received events ++ [body] :=
    received_append _ _
  have silent : ∀ index, returns index (events ++ [⟨now, .receive body⟩]) =
      returns index events := by
    intro index
    rw [returns_append]
    exact List.append_nil _
  refine ⟨by rw [oneMore, List.length_append, List.length_append, known.length]; rfl, ?_, ?_⟩
  · intro index beyond
    rw [silent]
    exact known.unborn index (le_trans (by simp) beyond)
  · intro index phase found
    by_cases earlier : index < gateway.requests.length
    · rw [List.getElem?_append_left earlier] at found
      exact (known.told index phase found).later rfl
    · obtain ⟨inside, rfl⟩ := List.getElem?_eq_some_iff.mp found
      have isLast : index = gateway.requests.length := by
        rw [List.length_append, List.length_singleton] at inside
        omega
      subst isLast
      have nothing : returns gateway.requests.length (events ++ [⟨now, .receive body⟩]) = [] := by
        rw [silent]
        exact known.unborn _ le_rfl
      have isReceived : (received (events ++ [⟨now, .receive body⟩]))[gateway.requests.length]? =
          some body := by
        rw [oneMore, ← known.length, List.getElem?_concat_length]
      rw [List.getElem_concat_length rfl]
      rcases gateway.app.receive_cases settings body now with
        ⟨response, cached, isPhase⟩ | ⟨request, isPhase, isRequest⟩
      · rw [isPhase]
        rcases AppState.receive_answered_cases isPhase with
          ⟨rfl, isRefusal⟩ | ⟨rfl, -, text, rfl⟩
        · exact Or.inl ⟨nothing, isRefusal⟩
        · exact ⟨nothing, events, now, text, gateway, List.prefix_append _ _, run, isReceived,
            isPhase⟩
      · obtain ⟨text, rfl, read⟩ := Option.bind_eq_some_iff.mp isRequest
        rw [isPhase]
        exact ⟨nothing, by rw [isReceived, (ProxyRequest.body_ofBody read).1]⟩

theorem Known.resume {now : Instant} {action : Action} {reached : AppState × Phase}
    (known : Known settings start events gateway) (found : gateway.requests[index]? = some phase)
    (advanced : phase.advance settings now gateway.app action = some reached) :
    Known settings start (events ++ [⟨now, .resume index action⟩])
      ⟨now, reached.1, gateway.requests.set index reached.2⟩ := by
  have elsewhere : ∀ other, index ≠ other →
      returns other [⟨now, .resume index action⟩] = [] := by
    intro other different
    cases action <;> simp [returns, different]
  have inside := (List.getElem?_eq_some_iff.mp found).1
  refine ⟨?_, ?_, ?_⟩
  · rw [received_append, List.length_set, ← known.length]
    exact congrArg List.length (List.append_nil _)
  · intro other beyond
    rw [List.length_set] at beyond
    rw [returns_append, known.unborn other beyond, elsewhere other (by omega)]
    rfl
  · intro other phase' found'
    by_cases same : index = other
    · subst same
      rw [List.getElem?_set_self inside] at found'
      obtain rfl := Option.some.inj found'
      exact (known.told index phase found).advance advanced
    · rw [List.getElem?_set_ne same] at found'
      exact (known.told other phase' found').later (elsewhere other same)

theorem known_of_run (run : Run settings start events gateway) :
    Known settings start events gateway := by
  refine Machine.exec_history (Known settings start)
    ⟨rfl, fun _ _ => rfl, fun index phase found => by simp [init] at found⟩ ?_ run
  intro events gateway timed next prior known stepped
  obtain ⟨now, event⟩ := timed
  cases event with
  | receive body =>
      obtain ⟨-, rfl⟩ := step_receive_iff.mp stepped
      exact known.receive prior
  | resume index action =>
      obtain ⟨-, phase, reached, found, advanced, rfl⟩ := step_resume_iff.mp stepped
      exact known.resume found advanced
  | background event =>
      obtain ⟨-, rfl⟩ := step_background_iff.mp stepped
      refine ⟨?_, ?_, fun index phase found => (known.told index phase found).later rfl⟩
      · rw [received_append, ← known.length]
        exact congrArg List.length (List.append_nil _)
      · intro index beyond
        rw [returns_append, known.unborn index beyond]
        rfl

/-! ## Answers -/

/-- Where an answer can come from. -/
inductive Source (settings : Settings) (events : List Timed) (index : Nat) :
    Response → Bool → Prop where
  /-- Nothing was brought back for the invocation, and it is refused. -/
  | refused {response : Response} (nothing : returns index events = [])
      (isRefusal : response ∈ AppState.refusals) : Source settings events index response false
  /-- The one result of its own forward is passed on. -/
  | own {result : ForwardResult} (one : returns index events = [result]) :
      Source settings events index (passOn result) false
  /-- Nothing was brought back for the invocation, but another one that asked for something
  of the same slot got a success. -/
  | stored {body otherBody : Bytes} {other : Nat} {reply : Reply}
      (nothing : returns index events = [])
      (isReceived : (received events)[index]? = some (some body))
      (wasReceived : (received events)[other]? = some (some otherBody))
      (sameSlot : MemoryCache.hashToU64 (settings.codec.computeCacheKey otherBody) =
        MemoryCache.hashToU64 (settings.codec.computeCacheKey body))
      (wasReturned : .ok reply ∈ returns other events)
      (isSuccess : reply.status.isSuccess = true) :
      Source settings events index (fromCache reply.body) true

/-- An answer from the cache was once brought back for a request of the same slot. -/
theorem exists_return_of_cached {before : List Timed} {state : Gateway} {now : Instant}
    {body : Bytes} {response : Response} (run : Run settings start before state)
    (answered : (state.app.receive settings (some body) now).2 = .answered response true) :
    ∃ other otherBody reply, (received before)[other]? = some (some otherBody) ∧
      MemoryCache.hashToU64 (settings.codec.computeCacheKey otherBody) =
        MemoryCache.hashToU64 (settings.codec.computeCacheKey body) ∧
      .ok reply ∈ returns other before ∧ reply.status.isSuccess = true ∧
      reply.body = response.body := by
  obtain ⟨request, cache, read, isCache, -, got⟩ := AppState.get_of_cached answered
  obtain ⟨entry, found, -, isBody⟩ := MemoryCache.get_eq_some_iff.mp got
  obtain ⟨earlier, timed, after, middle, next, stored, origin⟩ := exists_origin run isCache found
  obtain ⟨-, other, target, -, held, -, isSuccess, -⟩ := mem_stores origin.stores
  obtain ⟨one, wasReceived⟩ := (known_of_run origin.prior).told other _ held
  have isPast : earlier <+: before := origin.split ▸ List.prefix_append _ _
  obtain ⟨rest, rfl⟩ := isPast
  refine ⟨other, stored.request.body, stored.reply, ?_, ?_, ?_, isSuccess, ?_⟩
  · rw [received_append, List.getElem?_append_left (List.getElem?_eq_some_iff.mp wasReceived).1,
      wasReceived]
  · have sameSlot := origin.inSlot
    rw [ProxyRequest.cacheKey, ProxyRequest.cacheKey, (ProxyRequest.body_ofBody read).1] at sameSlot
    exact sameSlot
  · rw [returns_append, one]
    exact List.mem_append_left _ List.mem_cons_self
  · rw [← isBody, origin.entry]

/-- Answers are not mixed up.  In every run, however the invocations are interleaved, an
invocation that is answered was refused before anything was brought back for it, or it
passes on the one result of its own forward, or it repeats the body of a successful reply
to a request of the same slot. -/
theorem answer_source {response : Response} {cached : Bool}
    (run : Run settings start events gateway)
    (answered : gateway.requests[index]? = some (.answered response cached)) :
    Source settings events index response cached := by
  have told := (known_of_run run).told index _ answered
  cases cached with
  | false =>
      rcases told with ⟨nothing, isRefusal⟩ | ⟨result, one, rfl⟩
      · exact .refused nothing isRefusal
      · exact .own one
  | true =>
      obtain ⟨nothing, before, now, body, state, ⟨rest, rfl⟩, prior, isReceived, fromThere⟩ := told
      obtain ⟨other, otherBody, reply, wasReceived, sameSlot, wasReturned, isSuccess, sameBody⟩ :=
        exists_return_of_cached prior fromThere
      have isCached : response = fromCache reply.body := by
        rcases AppState.receive_answered_cases fromThere with
          ⟨isFalse, -⟩ | ⟨-, isResponse, -⟩
        · cases isFalse
        · rw [sameBody]
          exact isResponse
      have stillReceived : (received (before ++ rest))[other]? = some (some otherBody) := by
        rw [received_append,
          List.getElem?_append_left (List.getElem?_eq_some_iff.mp wasReceived).1, wasReceived]
      have stillReturned : .ok reply ∈ returns other (before ++ rest) := by
        rw [returns_append]
        exact List.mem_append_left _ wasReturned
      rw [isCached]
      exact .stored nothing isReceived stillReceived sameSlot stillReturned isSuccess

/-- Two requests that differ in their ids only: the second one is told what was brought
back for the first. -/
theorem answer_source_filled :
    ∃ gateway, Run (smallSettings ledgerRules) 0
        (filled ++ [⟨2, .receive (some (ledgerRequest 2).toBytes)⟩]) gateway ∧
      Source (smallSettings ledgerRules)
        (filled ++ [⟨2, .receive (some (ledgerRequest 2).toBytes)⟩]) 1
        (fromCache (ledgerResponse 1).toBytes) true := by
  have runs : (Machine.exec (step (smallSettings ledgerRules)) (init (smallSettings ledgerRules) 0)
      (filled ++ [⟨2, .receive (some (ledgerRequest 2).toBytes)⟩])).any (fun gateway =>
        gateway.requests[1]?.any fun phase => phase.isAnswer
          (fromCache (ledgerResponse 1).toBytes) true) = true := by
    decide +kernel
  obtain ⟨gateway, run, atSecond⟩ := (Option.any_eq_true _ _).mp runs
  obtain ⟨phase, found, isAnswer⟩ := (Option.any_eq_true _ _).mp atSecond
  rw [Phase.isAnswer_iff] at isAnswer
  exact ⟨gateway, run, answer_source run (isAnswer ▸ found)⟩

end Gateway

end SorobanGate
