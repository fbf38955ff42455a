import SorobanGate.Auth.KeyStore
import SorobanGate.Listener.Step

/-!
# The admin listener

The routes of the admin interface, and how a request finds its handler.  The router of
`axum` 0.7, as it is documented, captures a segment of a path where the pattern has `:name`
or `*name`, and compares it with the pattern otherwise.  The patterns are written with
braces, so they capture nothing: no request reaches the operations that need to know which
object is meant.
-/

namespace SorobanGate

/-! ## Paths -/

/-- A segment of the pattern of a route. -/
inductive PathSegment where
  | literal (text : List Char)
  | param
  | catchAll
  deriving DecidableEq, Repr

/-- What a segment of a pattern stands for. -/
def PathSegment.parse : List Char → PathSegment
  | ':' :: _ => .param
  | '*' :: _ => .catchAll
  | text => .literal text

def PathSegment.isLiteral : PathSegment → Bool
  | .literal _ => true
  | _ => false

/-- The segments of a path. -/
def segments (path : String) : List (List Char) := path.toList.splitOn '/'

/-- Match a pattern against the segments of a path, and return what is captured. -/
def matchPath : List PathSegment → List (List Char) → Option (List (List Char))
  | [], [] => some []
  | .literal text :: pattern, segment :: path =>
      if text = segment then matchPath pattern path else none
  | .param :: pattern, segment :: path =>
      if segment = [] then none else (matchPath pattern path).map (segment :: ·)
  | [.catchAll], segment :: path =>
      let rest := ['/'].intercalate (segment :: path)
      if rest = [] then none else some [rest]
  | _, _ => none

/-- The extractor `Path<String>`, as it is documented: the one segment that was captured,
decoded once. -/
def pathParam : List (List Char) → Except StatusCode String
  | [captured] =>
      let decoded := percentDecodeBytes (asBytes (String.ofList captured))
      match String.fromUTF8? ⟨decoded.toArray⟩ with
      | some text => .ok text
      | none => .error 400
  | _ => .error 500

theorem matchPath_of_literal {pattern : List PathSegment} {path captured : List (List Char)}
    (literal : pattern.all PathSegment.isLiteral = true)
    (matched : matchPath pattern path = some captured) : captured = [] := by
  induction pattern generalizing path with
  | nil =>
      cases path with
      | nil =>
          cases matched
          rfl
      | cons segment path => cases matched
  | cons segment pattern ih =>
      rw [List.all_cons, Bool.and_eq_true] at literal
      cases segment with
      | literal text =>
          cases path with
          | nil => cases matched
          | cons segment path =>
              unfold matchPath at matched
              split at matched
              · exact ih literal.2 matched
              · cases matched
      | param => cases literal.1
      | catchAll => cases literal.1

/-! ## Routes -/

inductive AdminHandler where
  | status
  | reload
  | cacheFlush
  | cacheStats
  | upstreamEnable
  | upstreamDisable
  | keysList
  | keysCreate
  | keysDelete
  deriving DecidableEq, Repr

structure AdminRoute where
  path : String
  method : Method
  handler : AdminHandler
  deriving DecidableEq, Repr

/-- `router`: the routes in the order in which they are added. -/
def adminRoutes : List AdminRoute :=
  [⟨"/admin/status", .get, .status⟩,
    ⟨"/admin/reload", .other "POST", .reload⟩,
    ⟨"/admin/cache", .other "DELETE", .cacheFlush⟩,
    ⟨"/admin/cache/stats", .get, .cacheStats⟩,
    ⟨"/admin/upstreams/\x7burl\x7d/enable", .other "POST", .upstreamEnable⟩,
    ⟨"/admin/upstreams/\x7burl\x7d/disable", .other "POST", .upstreamDisable⟩,
    ⟨"/admin/keys", .get, .keysList⟩,
    ⟨"/admin/keys", .other "POST", .keysCreate⟩,
    ⟨"/admin/keys/\x7bid\x7d", .other "DELETE", .keysDelete⟩]

def AdminRoute.pattern (route : AdminRoute) : List PathSegment :=
  (segments route.path).map PathSegment.parse

/-- A route for `GET` also takes `HEAD`. -/
def AdminRoute.takes (route : AdminRoute) (method : Method) : Bool :=
  method = route.method ∨ (method = .head ∧ route.method = .get)

/-- What a request to the admin interface leads to. -/
inductive AdminCall where
  | setUpstreamHealth (encodedUrl : String) (enable : Bool)
  | revokeKey (id : String)
  /-- A handler that takes nothing from the path. -/
  | plain (handler : AdminHandler)
  deriving DecidableEq, Repr

/-- A handler with what the router has captured, or the status of a rejection. -/
def AdminHandler.call (captured : List (List Char)) :
    AdminHandler → Except StatusCode AdminCall
  | .upstreamEnable => (pathParam captured).map fun url => .setUpstreamHealth url true
  | .upstreamDisable => (pathParam captured).map fun url => .setUpstreamHealth url false
  | .keysDelete => (pathParam captured).map .revokeKey
  | handler => .ok (.plain handler)

/-- Find the routes of a path, and among them the one for the method. -/
def adminCall (method : Method) (path : String) : Except StatusCode AdminCall :=
  let matched := adminRoutes.filterMap fun route =>
    (matchPath route.pattern (segments path)).map fun captured => (route, captured)
  if matched.isEmpty then .error 404
  else
    match matched.find? fun entry => entry.1.takes method with
    | some (route, captured) => route.handler.call captured
    | none => .error 405

theorem adminRoutes_literal :
    ∀ route ∈ adminRoutes, route.pattern.all PathSegment.isLiteral = true := by
  decide

/-- Whatever the request, a handler that needs a part of the path does not get it. -/
theorem adminCall_plain {method : Method} {path : String} {call : AdminCall}
    (called : adminCall method path = .ok call) : ∃ handler, call = .plain handler := by
  unfold adminCall at called
  dsimp only at called
  split at called
  · cases called
  · split at called
    next route captured found =>
      obtain ⟨other, isRoute, matched⟩ :=
        List.mem_filterMap.mp (List.mem_of_find?_eq_some found)
      obtain ⟨segments, isMatch, same⟩ := Option.map_eq_some_iff.mp matched
      obtain ⟨rfl, rfl⟩ := Prod.mk.inj same
      obtain rfl := matchPath_of_literal (adminRoutes_literal other isRoute) isMatch
      cases isHandler : other.handler with
      | upstreamEnable => simp [isHandler, AdminHandler.call, pathParam, Except.map] at called
      | upstreamDisable => simp [isHandler, AdminHandler.call, pathParam, Except.map] at called
      | keysDelete => simp [isHandler, AdminHandler.call, pathParam, Except.map] at called
      | _ =>
          rw [isHandler] at called
          exact ⟨_, (Except.ok.inj called).symm⟩
    · cases called

/-! ## Addressing an object -/

/-- A `POST` for an encoded URL reaches `set_upstream_health` with the URL. -/
def ReachesUpstream (encode : String → String) (url : String) (enable : Bool) : Prop :=
  ∃ encodedUrl,
    adminCall (.other "POST")
        ("/admin/upstreams/" ++ encode url ++ if enable then "/enable" else "/disable") =
      .ok (.setUpstreamHealth encodedUrl enable) ∧
    percentDecode encodedUrl = url

/-- A `DELETE` for an encoded id reaches `revoke_key` with the id. -/
def ReachesKey (encode : String → String) (id : String) : Prop :=
  adminCall (.other "DELETE") ("/admin/keys/" ++ encode id) = .ok (.revokeKey id)

/-- However URLs and ids are encoded, no admin request addresses an upstream or a key. -/
theorem admin_addresses_nothing (encode : String → String) (url id : String) (enable : Bool) :
    ¬ ReachesUpstream encode url enable ∧ ¬ ReachesKey encode id := by
  constructor
  · rintro ⟨encodedUrl, called, -⟩
    obtain ⟨handler, isPlain⟩ := adminCall_plain called
    cases isPlain
  · intro called
    obtain ⟨handler, isPlain⟩ := adminCall_plain called
    cases isPlain

/-- Percent-encode every byte but letters, digits and `-._~`. -/
def percentEncode (text : String) : String :=
  String.ofList <| (asBytes text).flatMap fun byte =>
    let char := Char.ofNat byte.toNat
    if char.isAlphanum || char ∈ ['-', '.', '_', '~'] then [char]
    else '%' :: SqliteKeyStore.hex [byte]

/-- The requests for an upstream of the small gateway, and for a key, are not found. -/
theorem admin_requests_not_found :
    percentEncode "http://node-a:8000" = "http%3a%2f%2fnode-a%3a8000" ∧
    adminCall (.other "POST") "/admin/upstreams/http%3a%2f%2fnode-a%3a8000/disable" =
      .error 404 ∧
    adminCall (.other "DELETE") "/admin/keys/719d0d53" = .error 404 ∧
    ¬ ReachesUpstream percentEncode "http://node-a:8000" false ∧
    ¬ ReachesKey percentEncode "719d0d53" := by
  have encoded : percentEncode "http://node-a:8000" = "http%3a%2f%2fnode-a%3a8000" := by
    decide +kernel
  have encodedKey : percentEncode "719d0d53" = "719d0d53" := by decide +kernel
  have notFound : adminCall (.other "POST")
      "/admin/upstreams/http%3a%2f%2fnode-a%3a8000/disable" = .error 404 := by
    decide +kernel
  have keyNotFound : adminCall (.other "DELETE") "/admin/keys/719d0d53" = .error 404 := by
    decide +kernel
  refine ⟨encoded, notFound, keyNotFound, ?_, ?_⟩
  · rintro ⟨encodedUrl, called, -⟩
    rw [encoded] at called
    cases notFound.symm.trans called
  · intro called
    rw [ReachesKey, encodedKey] at called
    cases keyNotFound.symm.trans called

end SorobanGate
