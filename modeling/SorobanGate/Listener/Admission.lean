import SorobanGate.Gateway.Cache
import SorobanGate.Listener.Step

/-!
# From the listener to the upstreams

A request that the middlewares and the routes let past waits until the proxy handler
has read its body, and is from then on an invocation of the handler.  None is lost on
the way and none is handled twice, so what reaches the upstreams is, one for one, what
was let past.
-/

namespace SorobanGate

theorem subperm_of_positions {α : Type} {picked : List (Nat × α)} {list : List α}
    (distinct : (picked.map Prod.fst).Nodup)
    (found : ∀ pick ∈ picked, list[pick.1]? = some pick.2) :
    (picked.map Prod.snd).Subperm list := by
  have within : picked ⊆ list.zipIdx.map Prod.swap := by
    intro pick member
    exact List.mem_map.mpr ⟨pick.swap, List.mem_zipIdx_iff_getElem?.mpr (found pick member), rfl⟩
  obtain ⟨same, isPerm, isSublist⟩ := List.subperm_of_subset (List.Nodup.of_map _ distinct) within
  have entries : (list.zipIdx.map Prod.swap).map Prod.snd = list := by
    rw [List.map_map]
    exact List.zipIdx_map_fst 0 list
  exact ⟨same.map Prod.snd, isPerm.map _, entries ▸ isSublist.map Prod.snd⟩

/-- The invocation has sent its request, or never will. -/
def Phase.isPast : Phase → Bool
  | .routed _ | .selected _ _ => false
  | _ => true

theorem Phase.isPast_advance {settings : Settings} {app : AppState} {now : Instant}
    {phase : Phase} {action : Action} {reached : AppState × Phase}
    (advanced : phase.advance settings now app action = some reached)
    (isPast : phase.isPast = true) : reached.2.isPast = true := by
  obtain ⟨app', phase'⟩ := reached
  cases follows_of_advance advanced with
  | selected => cases isPast
  | _ => rfl

namespace Listener

variable {arith : TokenArith} (backend : AuthBackend) (settings : Settings)

/-- The request that a moment lets past the middlewares and the routes. -/
def admits (listener : Listener arith) (moment : Moment) : List WebRequest :=
  match moment.occurrence with
  | .request web =>
      match (listener.serve backend settings web moment.time).2 with
      | .next web => [web]
      | .respond _ => []
  | _ => []

/-- The request whose body the proxy handler is done with reading. -/
def hands (listener : Listener arith) (moment : Moment) : List WebRequest :=
  match moment.occurrence with
  | .read index _ => (listener.reading[index]?).toList
  | _ => []

/-- The body that a moment sends to an upstream, and the invocation that sends it. -/
def forwards (listener : Listener arith) (moment : Moment) : List (Nat × Bytes) :=
  match moment.occurrence with
  | .resume request .forward =>
      match listener.gateway.requests[request]? with
      | some (.selected proxied _) => [(request, proxied.body)]
      | _ => []
  | _ => []

/-- The requests that a run lets past. -/
def admitted (arith : TokenArith) (store : SqliteKeyStore) (start : Instant)
    (moments : List Moment) : List WebRequest :=
  Machine.trace (step backend settings) (admits backend settings)
    (init settings arith store start) moments

/-- The requests that a run hands to the proxy handler, in the order of its invocations. -/
def handed (arith : TokenArith) (store : SqliteKeyStore) (start : Instant)
    (moments : List Moment) : List WebRequest :=
  Machine.trace (step backend settings) hands (init settings arith store start) moments

/-- The bodies that a run sends to the upstreams. -/
def forwarded (arith : TokenArith) (store : SqliteKeyStore) (start : Instant)
    (moments : List Moment) : List (Nat × Bytes) :=
  Machine.trace (step backend settings) forwards (init settings arith store start) moments

variable {backend settings} {listener next : Listener arith} {moment : Moment}

theorem admits_cases (listener : Listener arith) (moment : Moment) :
    listener.admits backend settings moment = [] ∨
      ∃ web passed, moment.occurrence = .request web ∧
        authMiddleware backend settings.config.auth listener.keyStore web.http = .next passed ∧
        ((listener.front backend settings).process listener.limits
          ⟨web.http, moment.time⟩).2.status? = none ∧
        listener.admits backend settings moment = [web] := by
  obtain ⟨time, occurrence⟩ := moment
  cases occurrence with
  | request web =>
      simp only [admits, serve, layers_eq, Front.process, front]
      cases passes : authMiddleware backend settings.config.auth listener.keyStore web.http with
      | respond response => exact Or.inl rfl
      | next passed =>
          dsimp only
          rcases limited : rateLimitMiddleware settings.config listener.limits passed time with
            ⟨limits, authed | response⟩
          · by_cases isHealth : web.path = "/health"
            · refine Or.inl ?_
              simp only [routes, if_pos isHealth]
              cases web.method <;> rfl
            · refine Or.inr ⟨web, passed, rfl, passes, ?_, ?_⟩
              · simp only [passes, limited, Outcome.status?]
              · simp only [routes, if_neg isHealth]
          · exact Or.inl rfl
  | _ => exact Or.inl rfl

/-- A step moves requests from one place to the next. -/
theorem reading_of_step (stepped : listener.step backend settings moment = some next) :
    (listener.hands moment ++ next.reading).Perm
      (listener.reading ++ listener.admits backend settings moment) := by
  have passed : ∀ {event reached}, listener.pass settings moment.time event = some reached →
      reached.reading = listener.reading := by
    intro event reached isPass
    obtain ⟨gateway, -, rfl⟩ := Option.map_eq_some_iff.mp isPass
    rfl
  obtain ⟨time, occurrence⟩ := moment
  unfold step at stepped
  split at stepped
  · cases stepped
  · cases occurrence with
    | request web =>
        cases stepped
        simp only [hands, admits, accept, List.nil_append]
        cases (listener.serve backend settings web time).2 with
        | next web => exact .rfl
        | respond response => simp
    | read index complete =>
        obtain ⟨web, found, remaining⟩ := Option.bind_eq_some_iff.mp stepped
        obtain ⟨reached, isPass, isNext⟩ := Option.bind_eq_some_iff.mp remaining
        cases isNext
        simp only [hands, admits, found, passed isPass, Option.toList_some, List.append_nil]
        obtain ⟨inside, rfl⟩ := List.getElem?_eq_some_iff.mp found
        exact List.getElem_cons_eraseIdx_perm inside
    | resume request action => simp [hands, admits, passed stepped]
    | background event => simp [hands, admits, passed stepped]
    | keys op =>
        cases stepped
        simp [hands, admits]

/-- Inversion: a step hands a request over, lets an invocation go on, or leaves the
invocations alone. -/
theorem requests_of_step (stepped : listener.step backend settings moment = some next) :
    (∃ web body, listener.hands moment = [web] ∧ (body = none ∨ body = some web.body) ∧
        listener.forwards moment = [] ∧
        next.gateway.requests = listener.gateway.requests ++
          [(listener.gateway.app.receive settings body moment.time).2]) ∨
      (∃ index action phase reached, moment.occurrence = .resume index action ∧
        listener.gateway.requests[index]? = some phase ∧
        phase.advance settings moment.time listener.gateway.app action = some reached ∧
        next.gateway.requests = listener.gateway.requests.set index reached.2) ∨
      listener.hands moment = [] ∧ listener.forwards moment = [] ∧
        next.gateway.requests = listener.gateway.requests := by
  obtain ⟨time, occurrence⟩ := moment
  unfold step at stepped
  split at stepped
  · cases stepped
  · cases occurrence with
    | request web =>
        cases stepped
        exact Or.inr (Or.inr ⟨rfl, rfl, rfl⟩)
    | read index complete =>
        obtain ⟨web, found, remaining⟩ := Option.bind_eq_some_iff.mp stepped
        obtain ⟨reached, isPass, isNext⟩ := Option.bind_eq_some_iff.mp remaining
        cases isNext
        obtain ⟨gateway, isStep, rfl⟩ := Option.map_eq_some_iff.mp isPass
        obtain ⟨-, rfl⟩ := Gateway.step_receive_iff.mp isStep
        refine Or.inl ⟨web, _, by simp [hands, found], ?_, rfl, rfl⟩
        cases complete with
        | true => exact Or.inr rfl
        | false => exact Or.inl rfl
    | resume request action =>
        obtain ⟨gateway, isStep, rfl⟩ := Option.map_eq_some_iff.mp stepped
        obtain ⟨-, phase, reached, found, advanced, rfl⟩ := Gateway.step_resume_iff.mp isStep
        exact Or.inr (Or.inl ⟨request, action, phase, reached, rfl, found, advanced, rfl⟩)
    | background event =>
        obtain ⟨gateway, isStep, rfl⟩ := Option.map_eq_some_iff.mp stepped
        obtain ⟨-, rfl⟩ := Gateway.step_background_iff.mp isStep
        exact Or.inr (Or.inr ⟨rfl, rfl, rfl⟩)
    | keys op =>
        cases stepped
        exact Or.inr (Or.inr ⟨rfl, rfl, rfl⟩)

/-- What an invocation sends when it goes on: the body of its request, and only once. -/
theorem forwards_of_advance {index : Nat} {action : Action} {phase : Phase}
    {reached : AppState × Phase} (isResume : moment.occurrence = .resume index action)
    (found : listener.gateway.requests[index]? = some phase)
    (advanced : phase.advance settings moment.time listener.gateway.app action = some reached) :
    listener.forwards moment = [] ∨
      ∃ request, phase.request? = some request ∧ phase.isPast = false ∧
        reached.2.isPast = true ∧ listener.forwards moment = [(index, request.body)] := by
  obtain ⟨app, after⟩ := reached
  cases Phase.follows_of_advance advanced with
  | @forwarding request target =>
      exact Or.inr ⟨request, rfl, rfl, rfl, by simp [forwards, isResume, found]⟩
  | _ => exact Or.inl (by simp [forwards, isResume])

/-- Where the requests of a run are: with the listener until their bodies are read, and
after that with the handler, which sends each at most once. -/
structure Custody (admitted handed : List WebRequest) (forwarded : List (Nat × Bytes))
    (listener : Listener arith) : Prop where
  accounted : (handed ++ listener.reading).Perm admitted
  numbered : handed.length = listener.gateway.requests.length
  carried : ∀ (index : Nat) (phase : Phase) (request : ProxyRequest),
    listener.gateway.requests[index]? = some phase → phase.request? = some request →
    (handed.map WebRequest.body)[index]? = some request.body
  once : (forwarded.map Prod.fst).Nodup
  sent : ∀ entry ∈ forwarded, (handed.map WebRequest.body)[entry.1]? = some entry.2 ∧
    ∃ phase, listener.gateway.requests[entry.1]? = some phase ∧ phase.isPast = true

namespace Custody

variable {admitted handed : List WebRequest} {forwarded : List (Nat × Bytes)}

theorem carried_receive (custody : Custody admitted handed forwarded listener) {web : WebRequest}
    {body : Option Bytes} (isBody : body = none ∨ body = some web.body) {app : AppState}
    {now : Instant} (index : Nat) (phase : Phase) (request : ProxyRequest)
    (atIndex : (listener.gateway.requests ++ [(app.receive settings body now).2])[index]? =
      some phase) (isRequest : phase.request? = some request) :
    ((handed ++ [web]).map WebRequest.body)[index]? = some request.body := by
  have numbered : (handed.map WebRequest.body).length = listener.gateway.requests.length := by
    rw [List.length_map, custody.numbered]
  rw [List.map_append]
  rw [List.getElem?_append] at atIndex
  split at atIndex
  next inside =>
    rw [List.getElem?_append_left (numbered ▸ inside)]
    exact custody.carried index phase request atIndex isRequest
  next outside =>
    obtain ⟨isLast, rfl⟩ := List.getElem?_eq_some_iff.mp atIndex
    have atEnd : index = (handed.map WebRequest.body).length := by
      rw [List.length_singleton] at isLast
      omega
    rw [List.getElem_singleton] at isRequest
    obtain ⟨text, rfl, read⟩ := Option.bind_eq_some_iff.mp (AppState.request?_receive isRequest)
    obtain rfl : text = web.body := by simpa using isBody
    rw [atEnd, List.map_singleton, List.getElem?_concat_length, (ProxyRequest.body_ofBody read).1]

theorem carried_advance (custody : Custody admitted handed forwarded listener) {index : Nat}
    {action : Action} {phase : Phase} {reached : AppState × Phase} {app : AppState} {now : Instant}
    (found : listener.gateway.requests[index]? = some phase)
    (advanced : phase.advance settings now app action = some reached) (other : Nat) (after : Phase)
    (request : ProxyRequest)
    (atOther : (listener.gateway.requests.set index reached.2)[other]? = some after)
    (isRequest : after.request? = some request) :
    (handed.map WebRequest.body)[other]? = some request.body := by
  rw [List.getElem?_set] at atOther
  split at atOther
  next same =>
    rw [if_pos (List.getElem?_eq_some_iff.mp found).1] at atOther
    cases atOther
    exact same ▸ custody.carried index phase request found
      (Phase.request?_advance advanced isRequest)
  · exact custody.carried other after request atOther isRequest

theorem past_advance {requests : List Phase} {index : Nat} {action : Action} {phase : Phase}
    {reached : AppState × Phase} {app : AppState} {now : Instant}
    (found : requests[index]? = some phase)
    (advanced : phase.advance settings now app action = some reached) {other : Nat}
    (before : ∃ phase, requests[other]? = some phase ∧ phase.isPast = true) :
    ∃ phase, (requests.set index reached.2)[other]? = some phase ∧ phase.isPast = true := by
  obtain ⟨old, atOther, isPast⟩ := before
  by_cases same : index = other
  · subst same
    obtain rfl := Option.some.inj (found.symm.trans atOther)
    exact ⟨reached.2, by simp [(List.getElem?_eq_some_iff.mp found).1],
      Phase.isPast_advance advanced isPast⟩
  · exact ⟨old, by rw [List.getElem?_set_ne same, atOther], isPast⟩

theorem step (custody : Custody admitted handed forwarded listener)
    (stepped : listener.step backend settings moment = some next) :
    Custody (admitted ++ listener.admits backend settings moment)
      (handed ++ listener.hands moment) (forwarded ++ listener.forwards moment) next := by
  have accounted : ((handed ++ listener.hands moment) ++ next.reading).Perm
      (admitted ++ listener.admits backend settings moment) := by
    rw [List.append_assoc]
    refine ((reading_of_step stepped).append_left handed).trans ?_
    rw [← List.append_assoc]
    exact custody.accounted.append_right _
  rcases requests_of_step stepped with
    ⟨web, body, hands, isBody, nothing, isNext⟩ |
    ⟨index, action, phase, reached, isResume, found, advanced, isNext⟩ | ⟨hands, nothing, isNext⟩
  · rw [hands] at accounted ⊢
    rw [nothing, List.append_nil]
    refine ⟨accounted, ?_, isNext ▸ custody.carried_receive isBody, custody.once, ?_⟩
    · rw [isNext, List.length_append, List.length_append, custody.numbered]
      rfl
    · rw [List.map_append, isNext]
      intro entry member
      obtain ⟨isBody, phase, atEntry, isPast⟩ := custody.sent entry member
      refine ⟨?_, phase, ?_, isPast⟩
      · rw [List.getElem?_append_left (List.getElem?_eq_some_iff.mp isBody).1, isBody]
      · rw [List.getElem?_append_left (List.getElem?_eq_some_iff.mp atEntry).1, atEntry]
  · have hands : listener.hands moment = [] := by simp [Listener.hands, isResume]
    rw [hands, List.append_nil] at accounted ⊢
    have numbered : handed.length = next.gateway.requests.length := by
      rw [isNext, List.length_set, custody.numbered]
    have carried := isNext ▸ custody.carried_advance found advanced
    have sent : ∀ entry ∈ forwarded, (handed.map WebRequest.body)[entry.1]? = some entry.2 ∧
        ∃ phase, next.gateway.requests[entry.1]? = some phase ∧ phase.isPast = true := by
      intro entry member
      obtain ⟨isBody, before⟩ := custody.sent entry member
      exact ⟨isBody, isNext ▸ past_advance found advanced before⟩
    rcases forwards_of_advance isResume found advanced with
      nothing | ⟨request, isRequest, notPast, isPast, sends⟩
    · rw [nothing, List.append_nil]
      exact ⟨accounted, numbered, carried, custody.once, sent⟩
    · rw [sends]
      refine ⟨accounted, numbered, carried, ?_, ?_⟩
      · -- What has been sent before is past that point, and this invocation is not.
        rw [List.map_append, List.map_singleton]
        refine List.nodup_append.mpr ⟨custody.once, List.nodup_singleton _, ?_⟩
        rintro _ earlier _ isIndex rfl
        obtain ⟨entry, member, rfl⟩ := List.mem_map.mp earlier
        obtain ⟨-, old, atEntry, wasPast⟩ := custody.sent entry member
        rw [List.mem_singleton.mp isIndex, found] at atEntry
        cases atEntry
        rw [notPast] at wasPast
        cases wasPast
      · intro entry member
        rcases List.mem_append.mp member with earlier | last
        · exact sent entry earlier
        · rw [List.mem_singleton.mp last]
          refine ⟨custody.carried index phase request found isRequest, reached.2, ?_, isPast⟩
          simp [isNext, (List.getElem?_eq_some_iff.mp found).1]
  · rw [hands, List.append_nil] at accounted ⊢
    rw [nothing, List.append_nil]
    exact ⟨accounted, by rw [isNext, custody.numbered], isNext ▸ custody.carried, custody.once,
      isNext ▸ custody.sent⟩

end Custody

section Runs

variable {store : SqliteKeyStore} {start : Instant} {moments : List Moment}

theorem custody_of_run (run : Run backend settings store start moments listener) :
    Custody (admitted backend settings arith store start moments)
      (handed backend settings arith store start moments)
      (forwarded backend settings arith store start moments) listener := by
  refine Machine.exec_history
    (fun moments (listener : Listener arith) =>
      Custody (admitted backend settings arith store start moments)
        (handed backend settings arith store start moments)
        (forwarded backend settings arith store start moments) listener) ?_ ?_ run
  · exact
      { accounted := .rfl
        numbered := rfl
        carried := by simp [init, Gateway.init]
        once := List.nodup_nil
        sent := nofun }
  · intro moments listener moment next prior custody stepped
    simp only [admitted, handed, forwarded, Machine.trace_concat prior]
    exact custody.step stepped

theorem Custody.subperm {admitted handed : List WebRequest} {forwarded : List (Nat × Bytes)}
    (custody : Custody admitted handed forwarded listener) :
    (forwarded.map Prod.snd).Subperm (admitted.map WebRequest.body) := by
  refine (subperm_of_positions custody.once fun entry member =>
    (custody.sent entry member).1).trans ?_
  have part : handed.Subperm admitted :=
    (List.sublist_append_left handed _).subperm.trans custody.accounted.subperm
  obtain ⟨same, isPerm, isSublist⟩ := part
  exact ⟨same.map WebRequest.body, isPerm.map _, isSublist.map _⟩

end Runs

end Listener

end SorobanGate
