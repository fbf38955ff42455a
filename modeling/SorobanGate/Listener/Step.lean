import SorobanGate.Gateway.Step
import SorobanGate.Server.Health
import SorobanGate.Server.RateLimit

/-!
# The main listener

`build_router` puts the middlewares around all routes: a request passes the gateway,
authentication, rate limit and cache middlewares, in this order, before its path is
looked at.  A run interleaves requests of any peers with the steps of the gateway
behind them and with the admin operations on keys.
-/

namespace SorobanGate

/-- The method of a request, as far as the routes tell methods apart. -/
inductive Method where
  | get
  | head
  | other (name : String)
  deriving DecidableEq, Repr

structure WebRequest where
  /-- The address at the other end of the connection, which nothing reads. -/
  peer : String
  method : Method
  path : String
  http : HttpRequest
  body : Bytes
  deriving DecidableEq, Repr

def gatewayMiddleware (request : HttpRequest) : Outcome HttpRequest := .next request

def cacheMiddleware (request : AuthedRequest) : Outcome AuthedRequest := .next request

structure Listener (arith : TokenArith) where
  startTime : Instant
  gateway : Gateway
  rateLimiter : Option (TokenBucketRateLimiter arith)
  keyStore : Option SqliteKeyStore
  /-- The requests whose body the proxy handler has yet to read. -/
  reading : List WebRequest

/-- What happens at the listener, behind it and in the admin interface. -/
inductive Occurrence where
  | request (web : WebRequest)
  /-- The proxy handler has read a body, or failed to. -/
  | read (index : Nat) (complete : Bool)
  | resume (request : Nat) (action : Action)
  | background (event : Background)
  | keys (op : KeyOp)

structure Moment where
  time : Instant
  occurrence : Occurrence

namespace Listener

variable {arith : TokenArith} (backend : AuthBackend) (settings : Settings)

/-- What the middlewares see of the listener. -/
def front (listener : Listener arith) : Front where
  backend := backend
  config := settings.config
  keyStore := listener.keyStore

/-- What the rate limit middleware shares with the rest. -/
def limits (listener : Listener arith) : LimitState arith where
  rateLimiter := listener.rateLimiter
  metrics := listener.gateway.app.metrics

/-- The middlewares, the outermost one first. -/
def layers (listener : Listener arith) (web : WebRequest) (now : Instant) :
    LimitState arith × Outcome AuthedRequest :=
  match gatewayMiddleware web.http with
  | .respond response => (listener.limits, .respond response)
  | .next request =>
      match (listener.front backend settings).process listener.limits ⟨request, now⟩ with
      | (limits, .respond response) => (limits, .respond response)
      | (limits, .next authed) => (limits, cacheMiddleware authed)

/-- The routes behind the middlewares.  The proxy handler is the fallback, and for a
`HEAD` request the body of the response is removed. -/
def routes (listener : Listener arith) (web : WebRequest) (now : Instant) :
    Outcome WebRequest :=
  if web.path = "/health" then
    let health := healthHandler listener.startTime listener.gateway.app now
    match web.method with
    | .get => .respond health
    | .head => .respond { health with body := [] }
    | .other _ => .respond ⟨405, [("allow", asBytes "GET,HEAD")], []⟩
  else .next web

/-- What becomes of a request: a response, or a call of the proxy handler. -/
def serve (listener : Listener arith) (web : WebRequest) (now : Instant) :
    LimitState arith × Outcome WebRequest :=
  match listener.layers backend settings web now with
  | (limits, .respond response) => (limits, .respond response)
  | (limits, .next _) => (limits, listener.routes web now)

/-- The listener after a request has come in. -/
def accept (listener : Listener arith) (web : WebRequest) (now : Instant) : Listener arith :=
  let (limits, outcome) := listener.serve backend settings web now
  { listener with
    gateway :=
      { listener.gateway with
        clock := now
        app := { listener.gateway.app with metrics := limits.metrics } }
    rateLimiter := limits.rateLimiter
    reading :=
      match outcome with
      | .respond _ => listener.reading
      | .next web => listener.reading ++ [web] }

def init (arith : TokenArith) (store : SqliteKeyStore) (now : Instant) : Listener arith where
  startTime := now
  gateway := .init settings now
  rateLimiter := if settings.config.rateLimit.enabled then some (.new arith) else none
  keyStore := if settings.config.auth.enabled then some store else none
  reading := []

/-- A step of the gateway behind the listener. -/
def pass (listener : Listener arith) (now : Instant) (event : Event) :
    Option (Listener arith) :=
  (listener.gateway.step settings ⟨now, event⟩).map fun gateway =>
    { listener with gateway := gateway }

def step (listener : Listener arith) (moment : Moment) : Option (Listener arith) :=
  if moment.time < listener.gateway.clock then none
  else
    match moment.occurrence with
    | .request web => some (listener.accept backend settings web moment.time)
    | .read index complete => do
        let web ← listener.reading[index]?
        let body := if complete then some web.body else none
        let listener ← listener.pass settings moment.time (.receive body)
        some { listener with reading := listener.reading.eraseIdx index }
    | .resume request action => listener.pass settings moment.time (.resume request action)
    | .background event => listener.pass settings moment.time (.background event)
    | .keys op =>
        some
          { listener with
            gateway := { listener.gateway with clock := moment.time }
            keyStore := listener.keyStore.bind fun store => KeyOp.step backend.crypto store op }

/-- The states that a run can be in. -/
def Run (store : SqliteKeyStore) (start : Instant) (moments : List Moment)
    (listener : Listener arith) : Prop :=
  Machine.exec (step backend settings) (init settings arith store start) moments =
    some listener

/-! ## What a step does -/

variable {backend settings} {listener next : Listener arith} {moment : Moment}

theorem layers_eq (listener : Listener arith) (web : WebRequest) (now : Instant) :
    listener.layers backend settings web now =
      (listener.front backend settings).process listener.limits ⟨web.http, now⟩ := by
  simp only [layers, gatewayMiddleware, cacheMiddleware]
  rcases (listener.front backend settings).process listener.limits ⟨web.http, now⟩ with
    ⟨limits, authed | response⟩ <;> rfl

theorem rateLimiter_accept (listener : Listener arith) (web : WebRequest) (now : Instant) :
    (listener.accept backend settings web now).rateLimiter =
      ((listener.front backend settings).process listener.limits
        ⟨web.http, now⟩).1.rateLimiter := by
  simp only [accept, serve, layers_eq]
  rcases (listener.front backend settings).process listener.limits ⟨web.http, now⟩ with
    ⟨limits, authed | response⟩ <;> rfl

/-- Inversion: a request comes in, or the limiter is left alone. -/
theorem step_cases (stepped : step backend settings listener moment = some next) :
    listener.gateway.clock ≤ moment.time ∧ next.gateway.clock = moment.time ∧
      ((∃ web, moment.occurrence = .request web ∧
          next = listener.accept backend settings web moment.time) ∨
        (∀ web, moment.occurrence ≠ .request web) ∧
          next.rateLimiter = listener.rateLimiter ∧
          next.keyStore.isSome = listener.keyStore.isSome) := by
  have passed : ∀ {event reached},
      listener.pass settings moment.time event = some reached →
      reached.gateway.clock = moment.time ∧ reached.rateLimiter = listener.rateLimiter ∧
        reached.keyStore = listener.keyStore := by
    intro event reached isPass
    obtain ⟨gateway, stepped, rfl⟩ := Option.map_eq_some_iff.mp isPass
    exact ⟨(Gateway.clock_of_step stepped).2, rfl, rfl⟩
  unfold step at stepped
  split at stepped
  · cases stepped
  next inOrder =>
    refine ⟨not_lt.mp inOrder, ?_⟩
    split at stepped
    next web isRequest =>
      cases stepped
      exact ⟨rfl, Or.inl ⟨web, isRequest, rfl⟩⟩
    next index complete isRead =>
      obtain ⟨web, -, remaining⟩ := Option.bind_eq_some_iff.mp stepped
      obtain ⟨reached, isPass, isNext⟩ := Option.bind_eq_some_iff.mp remaining
      cases isNext
      obtain ⟨clock, sameLimiter, sameStore⟩ := passed isPass
      exact ⟨clock, Or.inr ⟨by simp [isRead], sameLimiter, congrArg Option.isSome sameStore⟩⟩
    next request action isResume =>
      obtain ⟨clock, sameLimiter, sameStore⟩ := passed stepped
      exact ⟨clock, Or.inr ⟨by simp [isResume], sameLimiter, congrArg Option.isSome sameStore⟩⟩
    next event isBackground =>
      obtain ⟨clock, sameLimiter, sameStore⟩ := passed stepped
      exact ⟨clock,
        Or.inr ⟨by simp [isBackground], sameLimiter, congrArg Option.isSome sameStore⟩⟩
    next op isKeys =>
      cases stepped
      refine ⟨rfl, Or.inr ⟨by simp [isKeys], rfl, ?_⟩⟩
      cases listener.keyStore with
      | none => rfl
      | some store => simp [KeyOp.isSome_step]

/-- The configuration decides whether there is a limiter and a key store. -/
structure Ready (settings : Settings) (listener : Listener arith) : Prop where
  limiter : listener.rateLimiter.isSome = settings.config.rateLimit.enabled
  keyStore : listener.keyStore.isSome = settings.config.auth.enabled

theorem Ready.step (ready : Ready settings listener)
    (stepped : step backend settings listener moment = some next) : Ready settings next := by
  obtain ⟨-, -, ⟨web, -, rfl⟩ | ⟨-, sameLimiter, sameStore⟩⟩ := step_cases stepped
  · refine ⟨?_, ready.keyStore⟩
    rw [rateLimiter_accept, Front.isSome_rateLimiter_process]
    exact ready.limiter
  · exact ⟨sameLimiter ▸ ready.limiter, sameStore ▸ ready.keyStore⟩

theorem ready_of_run {store : SqliteKeyStore} {start : Instant} {moments : List Moment}
    (run : Run backend settings store start moments listener) : Ready settings listener := by
  refine Machine.exec_invariant (Ready settings) (fun _ _ _ ready => ready.step) ?_ run
  constructor
  · cases enabled : settings.config.rateLimit.enabled <;> simp [init, enabled]
  · cases enabled : settings.config.auth.enabled <;> simp [init, enabled]

theorem Ready.exists_limiter (ready : Ready settings listener)
    (enabled : settings.config.rateLimit.enabled = true) :
    ∃ limiter, listener.rateLimiter = some limiter := by
  rw [← Option.isSome_iff_exists, ready.limiter, enabled]

theorem Ready.refusesKeyless_iff (ready : Ready settings listener) :
    (listener.front backend settings).refusesKeyless = true ↔
      settings.config.auth.enabled = true ∧
        settings.config.auth.allowUnauthenticated = false := by
  rw [Front.refusesKeyless, front, ready.keyStore]
  cases settings.config.auth.enabled <;> simp

end Listener

end SorobanGate
