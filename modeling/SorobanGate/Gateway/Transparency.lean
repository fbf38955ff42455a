import SorobanGate.Gateway.Cache

/-!
# Cache transparency

A cached body is the upstream's answer to the request that filled the cache, byte
for byte.  It is the answer to the request being served exactly as far as that
request agrees with the other one in the members that the cache key leaves out.
-/

namespace SorobanGate

namespace Gateway

variable (settings : Settings) (answer : Json → Bytes)

/-- The upstream behind this step answers a request with a success whose body is a
function of the request. -/
def Answers (gateway : Gateway) (timed : Timed) : Prop :=
  ∀ (index : Nat) result request target, timed.event = .resume index (.«return» result) →
    gateway.requests[index]? = some (.forwarding request target) →
    ∃ value headers, settings.codec.fromSlice request.body = some value ∧
      result = .ok ⟨200, answer value, headers⟩

/-- The answers to these requests carry their ids. -/
def Echoes (bodies : List Bytes) : Prop :=
  ∀ body ∈ bodies, ∀ value id, settings.codec.fromSlice body = some value →
    value.get "id" = some id →
    (settings.codec.fromSlice (answer value)).bind (·.get "id") = some id

/-- What a run has last stored for the canonical form of a body. -/
def lastStored (start : Instant) (events : List Timed) (body : Bytes) : Option Stored :=
  (Machine.trace (step settings) (stores settings) (init settings start) events).reverse.find?
    fun stored => (settings.codec.canonical stored.request.body).toBytes =
      (settings.codec.canonical body).toBytes

variable {settings} {answer} {start : Instant} {events : List Timed} {gateway : Gateway}

/-- The origin of an entry is the last response stored for its canonical form. -/
theorem lastStored_of_origin {slot : UInt64} {entry : CachedValue} {before after : List Timed}
    {timed : Timed} {state next : Gateway} {stored : Stored} {body : Bytes}
    (origin : Origin settings start events gateway slot entry before timed after state next stored)
    (same : settings.codec.canonical stored.request.body = settings.codec.canonical body) :
    lastStored settings start events body = some stored := by
  have noLater : (Machine.trace (step settings) (stores settings) next after).reverse.find?
      (fun stored => (settings.codec.canonical stored.request.body).toBytes =
        (settings.codec.canonical body).toBytes) = none := by
    rw [List.find?_eq_none]
    intro later member sameForm
    rw [List.mem_reverse] at member
    rw [decide_eq_true_eq, ← same] at sameForm
    obtain ⟨earlier, remaining, split⟩ := List.append_of_mem member
    obtain ⟨first, found, rest, reached, following, left, right, rfl, prior, -, -, shown, -⟩ :=
      Machine.trace_split origin.rest split
    -- A later store of this form would have hit the slot.
    have isStore : later ∈ reached.stores settings found := by simp [shown]
    refine (origin.quiet _ (Machine.mem_trace prior (op_mem_cacheOps isStore))).2
      (later.request.cacheKey settings) (by simp [Stored.op, CacheOp.writes]) ?_
    rw [← origin.inSlot, ProxyRequest.cacheKey, ProxyRequest.cacheKey, Codec.computeCacheKey,
      Codec.computeCacheKey, sameForm]
  have split : Machine.trace (step settings) (stores settings) (init settings start) events =
      Machine.trace (step settings) (stores settings) (init settings start) before ++
        stored :: Machine.trace (step settings) (stores settings) next after := by
    rw [origin.split, Machine.trace_append origin.prior]
    simp only [Machine.trace, origin.stepped, stores_eq_singleton origin.stores,
      List.singleton_append]
  rw [lastStored, split]
  simp [noLater, same]

/-- Every response that comes back in a run is the upstream's answer to its request. -/
theorem answered_of_run (run : Run settings start events gateway)
    (answers : Machine.Always (step settings) (Answers settings answer) (init settings start)
      events) :
    ∀ phase ∈ gateway.requests, ∀ request target result,
      phase = .returned request target result →
      ∃ value headers, settings.codec.fromSlice request.body = some value ∧
        result = .ok ⟨200, answer value, headers⟩ := by
  refine fun phase member => phase_invariant
    (fun events phase =>
      Machine.Always (step settings) (Answers settings answer) (init settings start) events →
      ∀ request target result, phase = .returned request target result →
      ∃ value headers, settings.codec.fromSlice request.body = some value ∧
        result = .ok ⟨200, answer value, headers⟩)
    ?_ ?_ ?_ run phase member answers
  · intro events timed phase known answers
    exact known answers.init
  · intro events state now body _ _ request target result isReturned
    rcases state.app.receive_cases settings body now with
      ⟨response, cached, arrives⟩ | ⟨other, arrives, -⟩
    · cases arrives.symm.trans isReturned
    · cases arrives.symm.trans isReturned
  · intro events state now index action phase reached prior found known advanced answers
      request target result isReturned
    obtain ⟨app', phase'⟩ := reached
    cases Phase.follows_of_advance advanced with
    | returned =>
        cases isReturned
        exact answers.last prior index result request target rfl found
    | _ => cases isReturned

/-- Cache transparency.  Behind an upstream whose answers are a function of the
request and echo its id, a request that is answered from the cache gets the answer to
the request whose response was last stored for its canonical form.  When the two
agree in their `id` and `jsonrpc` members, that is the upstream's answer to the
request being served, with its id; it can only be that answer when the ids agree. -/
theorem cached_body_of_lastStored {now : Instant} {body : Bytes} {response : Response}
    {value : Json} (run : Run settings start events gateway)
    (distinct : Distinct settings (body :: bodies events))
    (answers : Machine.Always (step settings) (Answers settings answer) (init settings start)
      events)
    (echoes : Echoes settings answer (body :: bodies events))
    (cached : (gateway.app.receive settings (some body) now).2 = .answered response true)
    (parsed : settings.codec.fromSlice body = some value) :
    ∃ stored filler, lastStored settings start events body = some stored ∧
      settings.codec.fromSlice stored.request.body = some filler ∧
      (filler.get "id" = value.get "id" → filler.get "jsonrpc" = value.get "jsonrpc" →
        response.body = answer value ∧
          ∀ id, value.get "id" = some id →
            (settings.codec.fromSlice response.body).bind (·.get "id") = some id) ∧
      (response.body = answer value → ∀ id fillerId, value.get "id" = some id →
        filler.get "id" = some fillerId → fillerId = id) := by
  obtain ⟨request, slot, expiresAt, before, timed, after, state, next, stored, read, origin,
    -, -, same⟩ := origin_of_cached run distinct cached
  obtain ⟨-, index, target, -, atIndex, -⟩ := mem_stores origin.stores
  have received : stored.request.body ∈ body :: bodies events := by
    have inPrefix := (read_of_run origin.prior _ (List.mem_of_getElem? atIndex) _ rfl).1
    rw [origin.split, bodies_append]
    exact List.mem_cons_of_mem _ (List.mem_append_left _ inPrefix)
  obtain ⟨filler, headers, fillerParsed, isAnswer⟩ :=
    answered_of_run origin.prior (fun first event rest state split =>
      answers first event (rest ++ timed :: after) state (by rw [origin.split, split]; simp))
      _ (List.mem_of_getElem? atIndex) _ _ _ rfl
  have isBody : response.body = answer filler := by
    have isEntry := origin.entry
    simp only [CachedValue.mk.injEq] at isEntry
    rw [isEntry.1]
    exact congrArg Reply.body (Except.ok.inj isAnswer)
  refine ⟨stored, filler, lastStored_of_origin origin same, fillerParsed, ?_, ?_⟩
  · intro sameId sameVersion
    obtain rfl := Codec.fromSlice_eq_of_canonical_eq fillerParsed parsed same sameId sameVersion
    refine ⟨isBody, fun id hasId => ?_⟩
    rw [isBody]
    exact echoes body List.mem_cons_self filler id parsed hasId
  · intro transparent id fillerId hasId fillerHasId
    have fillerEcho := echoes _ received filler fillerId fillerParsed fillerHasId
    have echo := echoes body List.mem_cons_self value id parsed hasId
    rw [← isBody] at fillerEcho
    rw [← transparent, fillerEcho] at echo
    exact Option.some.inj echo

/-! ## Two requests for the latest ledger -/

/-- An upstream that answers with a fixed result under the id of the request. -/
def ledgerAnswer (request : Json) : Bytes :=
  (Json.object
    [("id", (request.get "id").getD .null), ("jsonrpc", .string "2.0"),
      ("result", .ofInt 7)]).toBytes

theorem fromSlice_ledgerRequest {id : Int} (known : id = 1 ∨ id = 2) :
    ledgerCodec.fromSlice (ledgerRequest id).toBytes = some (ledgerRequest id) := by
  rcases known with rfl | rfl <;> rfl

theorem fromSlice_ledgerResponse {id : Int} (known : id = 1 ∨ id = 2) :
    ledgerCodec.fromSlice (ledgerResponse id).toBytes = some (ledgerResponse id) := by
  rcases known with rfl | rfl <;> rfl

theorem filled_answered :
    Machine.Always (step (smallSettings ledgerRules))
      (Answers (smallSettings ledgerRules) ledgerAnswer) (init (smallSettings ledgerRules) 0)
      filled := by
  intro before timed after state split prior index result request target isReturn atIndex
  have isFirst : request.body = (ledgerRequest 1).toBytes := by
    have received := (read_of_run prior _ (List.mem_of_getElem? atIndex) _ rfl).1
    have whole : request.body ∈ bodies filled := by
      rw [split, bodies_append]
      exact List.mem_append_left _ received
    simpa [bodies, filled, exchange] using whole
  have isReply : result = ledgerReply 1 := by
    have member : timed ∈ filled := by simp [split]
    simp only [filled, exchange, List.mem_cons, List.not_mem_nil, or_false] at member
    rcases member with rfl | rfl | rfl | rfl | rfl | rfl <;> cases isReturn
    rfl
  refine ⟨ledgerRequest 1, [], ?_, ?_⟩
  · rw [isFirst]
    exact fromSlice_ledgerRequest (Or.inl rfl)
  · rw [isReply]
    rfl

theorem filled_echoes {id : Int} (known : id = 1 ∨ id = 2) :
    Echoes (smallSettings ledgerRules) ledgerAnswer
      ((ledgerRequest id).toBytes :: bodies filled) := by
  have echo : ∀ id : Int, id = 1 ∨ id = 2 → ∀ value found,
      ledgerCodec.fromSlice (ledgerRequest id).toBytes = some value →
      value.get "id" = some found →
      (ledgerCodec.fromSlice (ledgerAnswer value)).bind (·.get "id") = some found := by
    intro id known value found parsed hasId
    rw [fromSlice_ledgerRequest known, Option.some.injEq] at parsed
    subst parsed
    change (ledgerCodec.fromSlice (ledgerResponse id).toBytes).bind (·.get "id") = some found
    rw [fromSlice_ledgerResponse known]
    exact hasId
  intro body member value found parsed hasId
  have isRequest : body = (ledgerRequest id).toBytes ∨ body = (ledgerRequest 1).toBytes := by
    simpa [bodies, filled, exchange] using member
  rcases isRequest with rfl | rfl
  · exact echo id known value found parsed hasId
  · exact echo 1 (Or.inl rfl) value found parsed hasId

/-- The same request again is answered from the cache as the upstream would. -/
theorem cached_body_same_id :
    ∃ gateway response, Run (smallSettings ledgerRules) 0 filled gateway ∧
      (gateway.app.receive (smallSettings ledgerRules) (some (ledgerRequest 1).toBytes) 2).2 =
        .answered response true ∧
      response.body = ledgerAnswer (ledgerRequest 1) := by
  obtain ⟨gateway, response, run, cached, -⟩ := filled_answers 1 (Or.inl rfl)
  obtain ⟨stored, filler, isLast, parsed, transparent, -⟩ :=
    cached_body_of_lastStored run (filled_distinct 1 (Or.inl rfl)) filled_answered
      (filled_echoes (Or.inl rfl)) cached (fromSlice_ledgerRequest (Or.inl rfl))
  have isFirst : (lastStored (smallSettings ledgerRules) 0 filled (ledgerRequest 1).toBytes).map
      (·.request.body) = some (ledgerRequest 1).toBytes := by
    decide +kernel
  rw [isLast, Option.map_some, Option.some.injEq] at isFirst
  rw [isFirst] at parsed
  obtain rfl : ledgerRequest 1 = filler :=
    Option.some.inj ((fromSlice_ledgerRequest (Or.inl rfl)).symm.trans parsed)
  exact ⟨gateway, response, run, cached, (transparent rfl rfl).1⟩

/-- The same request under another id is answered with the first id. -/
theorem cached_body_other_id :
    ∃ gateway response, Run (smallSettings ledgerRules) 0 filled gateway ∧
      Machine.Always (step (smallSettings ledgerRules))
        (Answers (smallSettings ledgerRules) ledgerAnswer) (init (smallSettings ledgerRules) 0)
        filled ∧
      Echoes (smallSettings ledgerRules) ledgerAnswer
        ((ledgerRequest 2).toBytes :: bodies filled) ∧
      Distinct (smallSettings ledgerRules) ((ledgerRequest 2).toBytes :: bodies filled) ∧
      (gateway.app.receive (smallSettings ledgerRules) (some (ledgerRequest 2).toBytes) 2).2 =
        .answered response true ∧
      response.body ≠ ledgerAnswer (ledgerRequest 2) ∧
      (ledgerCodec.fromSlice response.body).bind (·.get "id") ≠ (ledgerRequest 2).get "id" := by
  obtain ⟨gateway, response, run, cached, isBody⟩ := filled_answers 2 (Or.inr rfl)
  refine ⟨gateway, response, run, filled_answered, filled_echoes (Or.inr rfl),
    filled_distinct 2 (Or.inr rfl), cached, ?_, ?_⟩
  · rw [isBody]
    decide +kernel
  · rw [isBody, fromSlice_ledgerResponse (Or.inl rfl)]
    intro equal
    exact absurd (congrArg (Option.map Json.toBytes) equal) (by decide +kernel)

end Gateway

end SorobanGate
