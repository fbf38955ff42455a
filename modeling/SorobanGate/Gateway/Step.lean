import SorobanGate.Library.Machine
import SorobanGate.Server.Admin
import SorobanGate.Server.Proxy

/-!
# The running gateway

A run interleaves any number of handler invocations with health checks, admin
operations and evictions.  Each event carries the clock reading at which it
happens, and the clock never goes back.
-/

namespace SorobanGate

/-- What can happen next to an invocation of the proxy handler. -/
inductive Action where
  | select (draw : Nat)
  | forward
  | «return» (result : ForwardResult)
  /-- The runtime drops the handler at its await. -/
  | drop
  | handle

/-- What happens beside the invocations. -/
inductive Background where
  | probe (target : UpstreamRef) (elapsed : Duration) (result : ProbeResult)
  | markHealthy (target : UpstreamRef)
  | setHealth (encodedUrl : String) (enable : Bool)
  | flush
  | evict (slot : UInt64)

inductive Event where
  /-- A new request, with its body if it can be read. -/
  | receive (body : Option Bytes)
  | resume (request : Nat) (action : Action)
  | background (event : Background)

structure Timed where
  time : Instant
  event : Event

structure Gateway where
  clock : Instant
  app : AppState
  /-- All invocations so far, in order of arrival. -/
  requests : List Phase

variable (settings : Settings)

/-- One uninterrupted stretch of an invocation. -/
def Phase.advance (now : Instant) (app : AppState) :
    Phase → Action → Option (AppState × Phase)
  | .routed request, .select draw => some (app.selectUpstream request draw)
  | .selected request target, .forward =>
      some (app.modifyUpstream target .incrementConnectionCount, .forwarding request target)
  | .forwarding request target, .«return» result =>
      some (app.modifyUpstream target .decrementConnectionCount,
        .returned request target result)
  | .forwarding request target, .drop => some (app, .dropped request target)
  | .returned request target result, .handle =>
      some (app.handle settings request target result now)
  | _, _ => none

def Background.apply (now : Instant) (app : AppState) : Background → AppState
  | .probe target elapsed result =>
      app.modifyUpstream target
        (checkUpstream settings.uriValid settings.config.healthCheck ⟨now, elapsed, result⟩)
  | .markHealthy target => app.modifyUpstream target .markHealthy
  | .setHealth encodedUrl enable => (app.setUpstreamHealth encodedUrl enable now).1
  | .flush => app.flushCache.1
  | .evict slot => { app with cache := app.cache.map fun cache => cache.evict slot }

/-- Inversion: the stretches that an invocation can run. -/
theorem Phase.advance_cases {settings : Settings} {now : Instant} {app : AppState}
    {phase : Phase} {action : Action} {reached : AppState × Phase}
    (advanced : phase.advance settings now app action = some reached) :
    (∃ request draw, phase = .routed request ∧ action = .select draw ∧
        reached = app.selectUpstream request draw) ∨
      (∃ request target, phase = .selected request target ∧ action = .forward ∧
        reached = (app.modifyUpstream target .incrementConnectionCount,
          .forwarding request target)) ∨
      (∃ request target result, phase = .forwarding request target ∧
        action = .«return» result ∧
        reached = (app.modifyUpstream target .decrementConnectionCount,
          .returned request target result)) ∨
      (∃ request target, phase = .forwarding request target ∧ action = .drop ∧
        reached = (app, .dropped request target)) ∨
      ∃ request target result, phase = .returned request target result ∧ action = .handle ∧
        reached = app.handle settings request target result now := by
  unfold advance at advanced
  split at advanced <;> cases advanced
  · exact Or.inl ⟨_, _, rfl, rfl, rfl⟩
  · exact Or.inr (Or.inl ⟨_, _, rfl, rfl, rfl⟩)
  · exact Or.inr (Or.inr (Or.inl ⟨_, _, _, rfl, rfl, rfl⟩))
  · exact Or.inr (Or.inr (Or.inr (Or.inl ⟨_, _, rfl, rfl, rfl⟩)))
  · exact Or.inr (Or.inr (Or.inr (Or.inr ⟨_, _, _, rfl, rfl, rfl⟩)))

/-- The phases that follow each other, and the action that leads from one to the next. -/
inductive Phase.Follows : Phase → Action → Phase → Prop where
  | refused {request : ProxyRequest} {draw : Nat} {response : Response} :
      Follows (.routed request) (.select draw) (.answered response false)
  | selected {request : ProxyRequest} {draw : Nat} {target : UpstreamRef} :
      Follows (.routed request) (.select draw) (.selected request target)
  | forwarding {request : ProxyRequest} {target : UpstreamRef} :
      Follows (.selected request target) .forward (.forwarding request target)
  | returned {request : ProxyRequest} {target : UpstreamRef} {result : ForwardResult} :
      Follows (.forwarding request target) (.«return» result) (.returned request target result)
  | dropped {request : ProxyRequest} {target : UpstreamRef} :
      Follows (.forwarding request target) .drop (.dropped request target)
  | answered {request : ProxyRequest} {target : UpstreamRef} {result : ForwardResult}
      {response : Response} :
      Follows (.returned request target result) .handle (.answered response false)
  | aborted {request : ProxyRequest} {target : UpstreamRef} {result : ForwardResult} :
      Follows (.returned request target result) .handle (.aborted request)

theorem Phase.follows_of_advance {settings : Settings} {now : Instant} {app : AppState}
    {phase : Phase} {action : Action} {reached : AppState × Phase}
    (advanced : phase.advance settings now app action = some reached) :
    phase.Follows action reached.2 := by
  rcases advance_cases advanced with
    ⟨request, draw, rfl, rfl, rfl⟩ | ⟨request, target, rfl, rfl, rfl⟩ |
    ⟨request, target, result, rfl, rfl, rfl⟩ | ⟨request, target, rfl, rfl, rfl⟩ |
    ⟨request, target, result, rfl, rfl, rfl⟩
  · rcases app.selectUpstream_cases request draw with ⟨response, isPhase⟩ | ⟨target, isPhase⟩
    · exact isPhase ▸ .refused
    · exact isPhase ▸ .selected
  · exact .forwarding
  · exact .returned
  · exact .dropped
  · rcases app.handle_cases settings request target result now with
      ⟨response, isPhase⟩ | isPhase
    · exact isPhase ▸ .answered
    · exact isPhase ▸ .aborted

namespace Gateway

def init (now : Instant) : Gateway where
  clock := now
  app := buildState settings now
  requests := []

def step (gateway : Gateway) (timed : Timed) : Option Gateway :=
  if timed.time < gateway.clock then none
  else
    match timed.event with
    | .receive body =>
        let (app, phase) := gateway.app.receive settings body timed.time
        some ⟨timed.time, app, gateway.requests ++ [phase]⟩
    | .resume request action => do
        let phase ← gateway.requests[request]?
        let (app, phase) ← phase.advance settings timed.time gateway.app action
        some ⟨timed.time, app, gateway.requests.set request phase⟩
    | .background event =>
        some ⟨timed.time, event.apply settings timed.time gateway.app, gateway.requests⟩

/-- The states that a run can be in. -/
def Run (start : Instant) (events : List Timed) (gateway : Gateway) : Prop :=
  Machine.exec (step settings) (init settings start) events = some gateway

/-! ## What a step does -/

variable {settings} {gateway next : Gateway} {now : Instant}

theorem step_receive_iff {body : Option Bytes} :
    step settings gateway ⟨now, .receive body⟩ = some next ↔
      gateway.clock ≤ now ∧
        next = ⟨now, (gateway.app.receive settings body now).1,
          gateway.requests ++ [(gateway.app.receive settings body now).2]⟩ := by
  unfold step
  split
  next early => simp [not_le.mpr early]
  next inOrder => simp [not_lt.mp inOrder, eq_comm]

theorem step_resume_iff {request : Nat} {action : Action} :
    step settings gateway ⟨now, .resume request action⟩ = some next ↔
      gateway.clock ≤ now ∧ ∃ phase reached,
        gateway.requests[request]? = some phase ∧
        phase.advance settings now gateway.app action = some reached ∧
        next = ⟨now, reached.1, gateway.requests.set request reached.2⟩ := by
  unfold step
  split
  next early => simp [not_le.mpr early]
  next inOrder =>
    simp only [Option.bind_eq_bind, Option.bind_eq_some_iff, Option.some.injEq,
      not_lt.mp inOrder, true_and]
    constructor
    · rintro ⟨phase, found, reached, advanced, rfl⟩
      exact ⟨phase, reached, found, advanced, rfl⟩
    · rintro ⟨phase, reached, found, advanced, rfl⟩
      exact ⟨phase, found, reached, advanced, rfl⟩

theorem step_background_iff {event : Background} :
    step settings gateway ⟨now, .background event⟩ = some next ↔
      gateway.clock ≤ now ∧
        next = ⟨now, event.apply settings now gateway.app, gateway.requests⟩ := by
  unfold step
  split
  next early => simp [not_le.mpr early]
  next inOrder => simp [not_lt.mp inOrder, eq_comm]

theorem clock_of_step {timed : Timed} (stepped : step settings gateway timed = some next) :
    gateway.clock ≤ timed.time ∧ next.clock = timed.time := by
  obtain ⟨now, event⟩ := timed
  cases event with
  | receive body =>
      obtain ⟨inOrder, rfl⟩ := step_receive_iff.mp stepped
      exact ⟨inOrder, rfl⟩
  | resume request action =>
      obtain ⟨inOrder, phase, reached, -, -, rfl⟩ := step_resume_iff.mp stepped
      exact ⟨inOrder, rfl⟩
  | background event =>
      obtain ⟨inOrder, rfl⟩ := step_background_iff.mp stepped
      exact ⟨inOrder, rfl⟩

theorem clock_le_of_exec {events : List Timed}
    (run : Machine.exec (step settings) gateway events = some next) :
    gateway.clock ≤ next.clock := by
  refine Machine.exec_invariant (fun reached => gateway.clock ≤ reached.clock) ?_ le_rfl run
  intro state timed reached before stepped
  obtain ⟨inOrder, moved⟩ := clock_of_step stepped
  exact before.trans (moved ▸ inOrder)

theorem phase_of_step {timed : Timed} {index : Nat} {phase : Phase}
    (stepped : step settings gateway timed = some next)
    (atIndex : gateway.requests[index]? = some phase) :
    next.requests[index]? = some phase ∨ ∃ action reached,
      timed.event = .resume index action ∧
      phase.advance settings timed.time gateway.app action = some reached ∧
      next.requests[index]? = some reached.2 := by
  have inside := (List.getElem?_eq_some_iff.mp atIndex).1
  obtain ⟨now, event⟩ := timed
  cases event with
  | receive body =>
      obtain ⟨-, rfl⟩ := step_receive_iff.mp stepped
      exact Or.inl (by rw [List.getElem?_append_left inside, atIndex])
  | resume other action =>
      obtain ⟨-, old, reached, found, advanced, rfl⟩ := step_resume_iff.mp stepped
      by_cases same : other = index
      · subst same
        rw [atIndex] at found
        cases found
        exact Or.inr ⟨action, reached, rfl, advanced, by simp [inside]⟩
      · exact Or.inl (by rw [List.getElem?_set_ne same, atIndex])
  | background event =>
      obtain ⟨-, rfl⟩ := step_background_iff.mp stepped
      exact Or.inl atIndex

/-- An invocation after a step was there before it, unless it has just arrived. -/
theorem phase_before_step {timed : Timed} {index : Nat} {phase : Phase}
    (stepped : step settings gateway timed = some next)
    (atIndex : next.requests[index]? = some phase) :
    (∃ body, timed.event = .receive body ∧
        phase = (gateway.app.receive settings body timed.time).2) ∨
      ∃ old, gateway.requests[index]? = some old := by
  obtain ⟨now, event⟩ := timed
  cases event with
  | receive body =>
      obtain ⟨-, rfl⟩ := step_receive_iff.mp stepped
      rw [List.getElem?_append] at atIndex
      split at atIndex
      · exact Or.inr ⟨phase, atIndex⟩
      · have last := List.mem_of_getElem? atIndex
        exact Or.inl ⟨body, rfl, List.mem_singleton.mp last⟩
  | resume other action =>
      obtain ⟨-, old, reached, found, advanced, rfl⟩ := step_resume_iff.mp stepped
      have inside := (List.getElem?_eq_some_iff.mp atIndex).1
      rw [List.length_set] at inside
      exact Or.inr ⟨_, List.getElem?_eq_getElem inside⟩
  | background event =>
      obtain ⟨-, rfl⟩ := step_background_iff.mp stepped
      exact Or.inr ⟨phase, atIndex⟩

/-- The rule for what is known of every invocation: it holds of the invocations that
arrive, and goes on to hold of those that go on. -/
theorem phase_invariant {start : Instant} {events : List Timed}
    (Inv : List Timed → Phase → Prop)
    (kept : ∀ events timed phase, Inv events phase → Inv (events ++ [timed]) phase)
    (arrives : ∀ events state now body, Run settings start events state →
      Inv (events ++ [⟨now, .receive body⟩]) (state.app.receive settings body now).2)
    (goesOn : ∀ events state now request action phase reached,
      Run settings start events state → state.requests[request]? = some phase →
      Inv events phase → phase.advance settings now state.app action = some reached →
      Inv (events ++ [⟨now, .resume request action⟩]) reached.2)
    (run : Run settings start events gateway) : ∀ phase ∈ gateway.requests, Inv events phase := by
  refine Machine.exec_history
    (fun events state => ∀ phase ∈ state.requests, Inv events phase) (by simp [init]) ?_ run
  intro events state timed next prior ih stepped phase member
  obtain ⟨now, event⟩ := timed
  cases event with
  | receive body =>
      obtain ⟨-, rfl⟩ := step_receive_iff.mp stepped
      rcases List.mem_append.mp member with earlier | last
      · exact kept _ _ _ (ih phase earlier)
      · rw [List.mem_singleton.mp last]
        exact arrives events state now body prior
  | resume request action =>
      obtain ⟨-, old, reached, found, advanced, rfl⟩ := step_resume_iff.mp stepped
      rcases List.mem_or_eq_of_mem_set member with earlier | rfl
      · exact kept _ _ _ (ih phase earlier)
      · exact goesOn events state now request action old reached prior found
          (ih old (List.mem_of_getElem? found)) advanced
  | background event =>
      obtain ⟨-, rfl⟩ := step_background_iff.mp stepped
      exact kept _ _ _ (ih phase member)

end Gateway

/-! ## A small gateway

One pool with two upstreams, and the few documents that fixed runs are about. -/

/-- A request for the latest ledger. -/
def ledgerRequest (id : Int) : Json :=
  .object
    [("id", .ofInt id), ("jsonrpc", .string "2.0"), ("method", .string "getLatestLedger")]

/-- The response to it. -/
def ledgerResponse (id : Int) : Json :=
  .object [("id", .ofInt id), ("jsonrpc", .string "2.0"), ("result", .ofInt 7)]

/-- A codec that knows these documents, and the digest of the canonical form that
all the requests share. -/
def ledgerCodec : Codec where
  parse body :=
    [ledgerRequest 1, ledgerRequest 2, ledgerResponse 1, ledgerResponse 2].find?
      fun tree => tree.toBytes = body
  sha256 document :=
    if document = (Json.object [("method", .string "getLatestLedger")]).toBytes then
      [127, 145, 187, 136, 145, 24, 85, 15, 235, 173, 228, 106, 141, 205, 180, 12,
        167, 28, 115, 33, 106, 178, 240, 214, 75, 226, 203, 16, 88, 132, 184, 143]
    else []

def smallSettings (rules : List CacheRule) : Settings where
  codec := ledgerCodec
  uriValid _ := true
  config :=
    { pools :=
        [{ name := "main"
           upstreams := [{ url := "http://node-a:8000" }, { url := "http://node-b:8000" }] }]
      routing := { defaultPool := "main" }
      cache := { rules := rules } }

def firstUpstream : UpstreamRef := ⟨0, 0⟩

/-- A whole exchange of one invocation at one time. -/
def exchange (request : Nat) (time : Instant) (id : Int) (result : ForwardResult) :
    List Timed :=
  [⟨time, .receive (some (ledgerRequest id).toBytes)⟩,
    ⟨time, .resume request (.select 0)⟩,
    ⟨time, .resume request .forward⟩,
    ⟨time, .resume request (.«return» result)⟩,
    ⟨time, .resume request .handle⟩]

/-- The upstream's response to the request with an id. -/
def ledgerReply (id : Int) : ForwardResult := .ok ⟨200, (ledgerResponse id).toBytes, []⟩

end SorobanGate
