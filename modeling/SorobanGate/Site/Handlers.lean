import SorobanGate.Auth.KeyMap
import SorobanGate.Listener.Admin

/-!
# Admin handlers

What the handlers of the admin interface do and answer.  Members of an object are
printed in the order of their names.
-/

namespace SorobanGate

/-- A request to the admin interface. -/
structure AdminRequest where
  method : Method
  path : String
  contentType : Option Bytes
  body : Bytes
  deriving DecidableEq, Repr

/-- What the admin interface takes from other crates. -/
structure AdminBackend where
  /-- Whether a content type is one of JSON. -/
  isJson : Bytes → Bool
  /-- How the framework reads a body as JSON; it need not mind what follows the value. -/
  extract : Bytes → Option Json
  /-- How the framework answers a request that it does not pass on. -/
  reject : StatusCode → Response
  reject_status : ∀ status, (reject status).status = status
  /-- The rate of hits among lookups, to four decimal places. -/
  hitRate : UInt64 → UInt64 → Json

/-- What a handler reads besides the state and the request. -/
structure Ambient where
  salt : Nat
  /-- The seconds of the system clock. -/
  epochSecs : Int
  order : RowOrder
  /-- What the store behind the cache gives as its size. -/
  entryCount : UInt64

/-! ## Reports -/

def CircuitBreakerState.statusText : CircuitBreakerState → String
  | .closed => "closed"
  | .«open» => "open"
  | .halfOpen => "half-open"

def UpstreamState.toStatus (upstream : UpstreamState) : Json :=
  .object
    [("active_connections", .ofInt upstream.activeConnections),
      ("circuit_breaker", .string upstream.mutable.circuitBreaker.state.statusText),
      ("latency_p99_ms", .ofInt (upstream.latencyUs / 1000).toNat),
      ("state", .string (if upstream.mutable.health = .healthy then "healthy" else "unhealthy")),
      ("url", .string upstream.url),
      ("weight", .ofInt upstream.weight.toNat)]

def UpstreamPool.toStatus (pool : UpstreamPool) : Json :=
  .object
    [("algorithm", .string pool.algorithm.debug.toLower),
      ("healthy_upstreams", .ofInt pool.healthyUpstreams.length),
      ("name", .string pool.name),
      ("total_upstreams", .ofInt pool.upstreams.length),
      ("upstreams", .array (pool.upstreams.map UpstreamState.toStatus))]

def statusHandler (startTime : Instant) (app : AppState) (now : Instant) : Response :=
  .json 200 <| .object
    [("pools", .array (app.pools.map UpstreamPool.toStatus)),
      ("uptime_secs", .ofInt ((now - startTime) / 1000000000 : Nat)),
      ("version", .string "0.1.0")]

def reloadHandler : Response :=
  .json 501 <| .object [("error", .string "Hot reload not yet implemented")]

def cacheStatsHandler (hitRate : UInt64 → UInt64 → Json) (app : AppState)
    (entryCount : UInt64) : Response :=
  match app.cache with
  | some cache =>
      let stats := cache.stats entryCount
      .json 200 <| .object
        [("eviction_count", .ofInt stats.evictionCount.toNat),
          ("hit_count", .ofInt stats.hitCount.toNat),
          ("hit_rate", hitRate stats.hitCount stats.missCount),
          ("miss_count", .ofInt stats.missCount.toNat),
          ("size", .ofInt stats.size.toNat)]
  | none => .json 200 <| .object [("enabled", .bool false)]

/-! ## Keys -/

/-- What the interface shows of a key: not its hash. -/
def KeyEntry.toJson (entry : KeyEntry) : Json :=
  .object
    [("created_at", .ofInt entry.createdAt),
      ("id", .string entry.id),
      ("is_revoked", .bool entry.isRevoked),
      ("label", .string entry.label),
      ("tier", .string entry.tier)]

def keyStoreDisabled : Response :=
  .json 501 <| .object [("error", .string "Key store is disabled")]

def keysListHandler (keyStore : Option SqliteKeyStore) (order : RowOrder) : Response :=
  match keyStore with
  | some store =>
      let safeKeys := (store.listKeys order).map KeyEntry.toJson
      .json 200 <| .object [("keys", .array safeKeys), ("total", .ofInt safeKeys.length)]
  | none => keyStoreDisabled

/-- What a request to create a key asks for. -/
structure KeyPayload where
  rawKey : String
  tier : String
  label : String
  deriving DecidableEq, Repr

/-- A key that is missing, not a string or empty is refused; tier and label have
defaults. -/
def KeyPayload.ofJson (payload : Json) : Option KeyPayload :=
  match (payload.get "key").bind Json.asStr with
  | some rawKey =>
      if rawKey = "" then none
      else
        some
          { rawKey := rawKey
            tier := ((payload.get "tier").bind Json.asStr).getD "default"
            label := ((payload.get "label").bind Json.asStr).getD "" }
  | none => none

def keysCreateHandler (crypto : KeyCrypto) (keyStore : Option SqliteKeyStore) (payload : Json)
    (ambient : Ambient) : Option SqliteKeyStore × Response :=
  match KeyPayload.ofJson payload with
  | none => (keyStore, .json 400 <| .object [("error", .string "Field 'key' is required")])
  | some ⟨rawKey, tier, label⟩ =>
      match keyStore with
      | none => (none, keyStoreDisabled)
      | some store =>
          match store.createKey crypto rawKey tier label ambient.salt ambient.epochSecs with
          | .ok (store, entry) =>
              (some store,
                .json 201 <| .object
                  [("key", .object
                      [("created_at", .ofInt entry.createdAt),
                        ("id", .string entry.id),
                        ("label", .string entry.label),
                        ("tier", .string entry.tier)]),
                    ("status", .string "ok")])
          | .error _ =>
              (some store,
                .json 500 <| .object [("error", .string "Failed to create API key")])

def keysDeleteHandler (keyStore : Option SqliteKeyStore) (id : String) :
    Option SqliteKeyStore × Response :=
  match keyStore with
  | none => (none, keyStoreDisabled)
  | some store =>
      match store.revokeKey id with
      | (store, true) =>
          (some store,
            .json 200 <| .object [("message", .string "Key revoked"), ("status", .string "ok")])
      | (store, false) =>
          (some store, .json 404 <| .object [("error", .string ("Key '" ++ id ++ "' not found"))])

/-! ## The extractor of a JSON body -/

/-- How much of a body the framework reads. -/
def bodyLimit : Nat := 2 * 1024 * 1024

/-- `Json<serde_json::Value>`: the body, or the status of a rejection. -/
def AdminRequest.payload (backend : AdminBackend) (request : AdminRequest) :
    Except StatusCode Json :=
  if ¬ request.contentType.any backend.isJson then .error 415
  else if bodyLimit < request.body.length then .error 413
  else
    match backend.extract request.body with
    | some payload => .ok payload
    | none => .error 400

end SorobanGate
