import SorobanGate.Pool.Health
import SorobanGate.Server.Response
import SorobanGate.Server.State

/-!
# Admin operations

Flushing the cache, and forcing the health of the upstream with a given URL.
-/

namespace SorobanGate

/-- The value of a hexadecimal digit. -/
def hexValue (digit : UInt8) : Option UInt8 :=
  if 48 ≤ digit ∧ digit ≤ 57 then some (digit - 48)
  else if 97 ≤ digit ∧ digit ≤ 102 then some (digit - 87)
  else if 65 ≤ digit ∧ digit ≤ 70 then some (digit - 55)
  else none

/-- Replace each `%` that two hexadecimal digits follow, together with them, by
the byte they denote. -/
def percentDecodeBytes : Bytes → Bytes
  | [] => []
  | 37 :: high :: low :: rest =>
      match hexValue high, hexValue low with
      | some high, some low => (high * 16 + low) :: percentDecodeBytes rest
      | _, _ => 37 :: percentDecodeBytes (high :: low :: rest)
  | byte :: rest => byte :: percentDecodeBytes rest

/-- The decoded text, or the text itself when the decoded bytes are not UTF-8. -/
def percentDecode (text : String) : String :=
  (String.fromUTF8? ⟨(percentDecodeBytes (asBytes text)).toArray⟩).getD text

namespace AppState

/-- Every upstream with its reference, pool by pool. -/
def upstreams (app : AppState) : List (UpstreamState × UpstreamRef) :=
  app.pools.zipIdx.flatMap fun pool =>
    pool.1.upstreams.zipIdx.map fun upstream => (upstream.1, ⟨pool.2, upstream.2⟩)

/-- The first upstream with a URL. -/
def locate (targetUrl : String) (app : AppState) : Option UpstreamRef :=
  (app.upstreams.find? fun upstream => upstream.1.url == targetUrl).map Prod.snd

/-- What forcing the health of an upstream does to it: enabling it also replaces
its breaker. -/
def forceHealth (enable : Bool) (now : Instant) : UpstreamState → UpstreamState :=
  .modifyMutable fun state =>
    if enable then { state with health := .healthy, circuitBreaker := .default now }
    else { state with health := .unhealthy }

/-- Only the first upstream with the URL is acted on. -/
def setUpstreamHealth (encodedUrl : String) (enable : Bool) (now : Instant)
    (app : AppState) : AppState × Response :=
  let targetUrl := percentDecode encodedUrl
  match app.locate targetUrl with
  | some target =>
      (app.modifyUpstream target (forceHealth enable now),
        .json 200 <| .object
          [("action", .string (if enable then "enabled" else "disabled")),
            ("status", .string "ok"),
            ("upstream", .string targetUrl)])
  | none =>
      (app,
        .json 404 <| .object
          [("error", .string ("Upstream '" ++ targetUrl ++ "' not found"))])

/-- `cache_flush_handler`. -/
def flushCache (app : AppState) : AppState × Response :=
  match app.cache with
  | some cache =>
      ({ app with cache := some cache.flush },
        .json 200 <| .object [("message", .string "Cache flushed"), ("status", .string "ok")])
  | none =>
      (app,
        .json 200 <| .object [("message", .string "Cache is disabled"), ("status", .string "ok")])

end AppState

end SorobanGate
