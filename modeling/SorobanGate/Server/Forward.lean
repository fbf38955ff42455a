import SorobanGate.Server.Proxy

/-!
# The exchange with an upstream

`forward_to_upstream` waits twice: for the head of the response, under a timeout, and
then for its body, without one.  So the configured timeout bounds the first wait only.
-/

namespace SorobanGate

/-- How an upstream behaves towards a request: the head of its response comes after a
delay, and its body is complete after another one, unless something fails. -/
structure Exchange where
  headDelay : Duration
  head : Except String (StatusCode × HeaderMap)
  bodyDelay : Duration
  body : Except String Bytes

/-- `tokio::time::timeout`, as it is documented: what a future makes of itself if it is ready
in time, and when the wait is over.  A future that is ready at the deadline is in time. -/
def timeout {Output : Type} (limit delay : Duration) (output : Output) :
    Option Output × Duration :=
  if delay ≤ limit then (some output, delay) else (none, limit)

theorem timeout_of_le {Output : Type} {limit delay : Duration} (output : Output)
    (prompt : delay ≤ limit) : timeout limit delay output = (some output, delay) :=
  if_pos prompt

theorem timeout_of_lt {Output : Type} {limit delay : Duration} (output : Output)
    (late : limit < delay) : timeout limit delay output = (none, limit) :=
  if_neg (not_le.mpr late)

/-- What the forward returns, and after how long.  `parseUri` says what is wrong with the
text of a URL. -/
def forwardToUpstream (parseUri : String → Except String Unit) (url : String)
    (timeoutMs : UInt64) (exchange : Exchange) : ForwardResult × Duration :=
  match parseUri url with
  | .error message => (.error message, 0)
  | .ok () =>
      match timeout (.fromMillis timeoutMs.toNat) exchange.headDelay exchange.head with
      | (none, waited) =>
          (.error ("Upstream request timed out after " ++ toString timeoutMs.toNat ++ "ms"),
            waited)
      | (some (.error message), waited) => (.error message, waited)
      | (some (.ok (status, headers)), waited) =>
          match exchange.body with
          | .error message => (.error message, waited + exchange.bodyDelay)
          | .ok body => (.ok ⟨status, body, headers⟩, waited + exchange.bodyDelay)

/-- An upstream that answers, with its delays. -/
def Exchange.answering (headDelay bodyDelay : Duration) (reply : Reply) : Exchange where
  headDelay := headDelay
  head := .ok (reply.status, reply.headers)
  bodyDelay := bodyDelay
  body := .ok reply.body

/-- The handler reports an error of the forward as a timeout, and the breaker of the
upstream records one failure. -/
def ReportedAsTimeout (message : String) : Prop :=
  ∀ (settings : Settings) (request : ProxyRequest) (target : UpstreamRef) (now : Instant)
      (app : AppState),
    (∃ response, (app.handle settings request target (.error message) now).2 =
        .answered response false ∧ response.status = 504) ∧
      (app.handle settings request target (.error message) now).1.upstream? target =
        (app.upstream? target).map (AppState.recordFailure now)

/-- The timeout covers the whole exchange: a response is returned only within it, and an
exchange that takes longer ends as a timeout when it is over. -/
structure Covers (parseUri : String → Except String Unit) (url : String) (timeoutMs : UInt64)
    (headDelay bodyDelay : Duration) (reply : Reply) : Prop where
  inTime : ∀ returned,
    (forwardToUpstream parseUri url timeoutMs (.answering headDelay bodyDelay reply)).1 =
      .ok returned → headDelay + bodyDelay ≤ .fromMillis timeoutMs.toNat
  late : Duration.fromMillis timeoutMs.toNat < headDelay + bodyDelay →
    ∃ message,
      forwardToUpstream parseUri url timeoutMs (.answering headDelay bodyDelay reply) =
        (.error message, .fromMillis timeoutMs.toNat) ∧ ReportedAsTimeout message

variable {parseUri : String → Except String Unit} {url : String} {timeoutMs : UInt64}
  {headDelay bodyDelay : Duration} {reply : Reply}

theorem failureStatus_timedOut (timeoutMs : UInt64) :
    AppState.failureStatus
      ("Upstream request timed out after " ++ toString timeoutMs.toNat ++ "ms") = 504 := by
  refine if_pos (Or.inl ⟨"Upstream request ".toList,
    (" after " ++ toString timeoutMs.toNat ++ "ms").toList, ?_⟩)
  simp

theorem reportedAsTimeout {message : String} (isTimeout : AppState.failureStatus message = 504) :
    ReportedAsTimeout message := by
  intro settings request target now app
  refine ⟨⟨_, rfl, isTimeout⟩, ?_⟩
  change (app.modifyUpstream target (AppState.recordFailure now)).upstream? target = _
  rw [AppState.upstream?_modifyUpstream, if_pos rfl]

/-- The head comes in time, and then the body is waited for however long it takes. -/
theorem forwardToUpstream_of_le (parses : parseUri url = .ok ())
    (prompt : headDelay ≤ .fromMillis timeoutMs.toNat) :
    forwardToUpstream parseUri url timeoutMs (.answering headDelay bodyDelay reply) =
      (.ok reply, headDelay + bodyDelay) := by
  simp only [forwardToUpstream, parses, Exchange.answering, timeout_of_le _ prompt]

theorem forwardToUpstream_of_lt (parses : parseUri url = .ok ())
    (late : Duration.fromMillis timeoutMs.toNat < headDelay) :
    forwardToUpstream parseUri url timeoutMs (.answering headDelay bodyDelay reply) =
      (.error ("Upstream request timed out after " ++ toString timeoutMs.toNat ++ "ms"),
        .fromMillis timeoutMs.toNat) := by
  simp only [forwardToUpstream, parses, Exchange.answering, timeout_of_lt _ late]

/-- The timeout covers an exchange if and only if it does not end between the head and
the end of the body. -/
theorem covers_iff (parses : parseUri url = .ok ()) (timeoutMs : UInt64)
    (headDelay bodyDelay : Duration) (reply : Reply) :
    Covers parseUri url timeoutMs headDelay bodyDelay reply ↔
      Duration.fromMillis timeoutMs.toNat < headDelay ∨
        headDelay + bodyDelay ≤ .fromMillis timeoutMs.toNat := by
  constructor
  · intro covers
    rcases lt_or_ge (Duration.fromMillis timeoutMs.toNat) headDelay with late | prompt
    · exact Or.inl late
    · have returned : forwardToUpstream parseUri url timeoutMs
          (.answering headDelay bodyDelay reply) = _ := forwardToUpstream_of_le parses prompt
      exact Or.inr (covers.inTime reply (congrArg Prod.fst returned))
  · rintro (late | whole)
    · have timedOut : forwardToUpstream parseUri url timeoutMs
          (.answering headDelay bodyDelay reply) = _ := forwardToUpstream_of_lt parses late
      refine ⟨fun returned isReply => ?_, fun _ => ⟨_, timedOut, ?_⟩⟩
      · rw [timedOut] at isReply
        cases isReply
      · exact reportedAsTimeout (failureStatus_timedOut timeoutMs)
    · exact ⟨fun _ _ => whole, fun late => absurd whole (not_le.mpr late)⟩

/-- A prompt head and a body within thirty seconds. -/
theorem covers_prompt :
    Covers (fun _ => .ok ()) "http://node-a:8000" 30000 (.fromSecs 1) (.fromSecs 2)
      ⟨200, [], []⟩ :=
  (covers_iff rfl 30000 _ _ _).mpr (Or.inr (by decide))

/-- A prompt head and a body that takes a minute, under a timeout of thirty seconds: the
response is returned after sixty-one seconds. -/
theorem slow_body_not_covered :
    forwardToUpstream (fun _ => .ok ()) "http://node-a:8000" 30000
        (.answering (.fromSecs 1) (.fromSecs 60) ⟨200, [], []⟩) =
      (.ok ⟨200, [], []⟩, .fromSecs 61) ∧
    ¬ Covers (fun _ => .ok ()) "http://node-a:8000" 30000 (.fromSecs 1) (.fromSecs 60)
      ⟨200, [], []⟩ := by
  refine ⟨by decide, fun covers => ?_⟩
  exact absurd (covers.inTime ⟨200, [], []⟩ (by decide)) (by decide)

end SorobanGate
