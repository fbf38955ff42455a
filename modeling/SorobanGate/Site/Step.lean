import SorobanGate.Pool.Monitor
import SorobanGate.Site.Handlers

/-!
# The whole server

`serve` puts the main listener, the admin interface and the health check task side by
side.  A run interleaves requests to either listener with the stretches of the handlers,
with what the task does and with evictions; nothing else happens to the state.  Each part
is a component with its own rules, and the server refines the main listener, whose
operations on the admin side are here answered requests.
-/

namespace SorobanGate

/-- Where every upstream is, pool by pool. -/
def AppState.refs (app : AppState) : List UpstreamRef := app.upstreams.map Prod.snd

theorem AppState.nodup_refs (app : AppState) : app.refs.Nodup := by
  have positions : app.refs =
      app.pools.zipIdx.flatMap fun pool =>
        (List.range pool.1.upstreams.length).map fun index => ⟨pool.2, index⟩ := by
    simp only [refs, upstreams, List.map_flatMap, List.map_map]
    congr 1
    funext pool
    rw [List.range_eq_range', ← List.zipIdx_map_snd 0 pool.1.upstreams, List.map_map]
    rfl
  rw [positions, List.nodup_flatMap]
  constructor
  · intro pool _
    exact List.nodup_range.map fun left right equal => (UpstreamRef.mk.inj equal).2
  · have distinct : (app.pools.zipIdx.map Prod.snd).Nodup := by
      rw [List.zipIdx_map_snd]
      exact List.nodup_range'
    refine (List.pairwise_map.mp distinct).imp ?_
    intro left right different target inLeft inRight
    obtain ⟨leftIndex, -, rfl⟩ := List.mem_map.mp inLeft
    obtain ⟨rightIndex, -, same⟩ := List.mem_map.mp inRight
    exact different (UpstreamRef.mk.inj same).1.symm

/-- What the server is started with, besides the contents of the key store. -/
structure Deployment where
  backend : AuthBackend
  admin : AdminBackend
  settings : Settings
  skipInitial : Bool
  /-- `health_check.timeout_ms` -/
  timeoutMs : UInt64

namespace Deployment

variable (deployment : Deployment)

/-- What `serve` hands to the health check task. -/
def monitorConfig : MonitorConfig UpstreamRef where
  targets := (buildState deployment.settings 0).refs
  distinct := AppState.nodup_refs _
  parses target :=
    ((buildState deployment.settings 0).upstream? target).any fun upstream =>
      deployment.settings.uriValid upstream.url
  skipInitial := deployment.skipInitial
  intervalMs := deployment.settings.config.healthCheck.intervalMs
  timeoutMs := deployment.timeoutMs

/-! ## Admin requests -/

variable {arith : TokenArith}

/-- The body of a request, if its extractor does not reject it. -/
def payload (request : AdminRequest) : Except StatusCode Json :=
  request.payload deployment.admin

/-- Run a handler. -/
def serveCall (listener : Listener arith) (request : AdminRequest) (ambient : Ambient)
    (now : Instant) : AdminCall → Listener arith × Response
  | .setUpstreamHealth encodedUrl enable =>
      let (app, response) := listener.gateway.app.setUpstreamHealth encodedUrl enable now
      ({ listener with gateway := { listener.gateway with app := app } }, response)
  | .revokeKey id =>
      let (keyStore, response) := keysDeleteHandler listener.keyStore id
      ({ listener with keyStore := keyStore }, response)
  | .plain .status => (listener, statusHandler listener.startTime listener.gateway.app now)
  | .plain .reload => (listener, reloadHandler)
  | .plain .cacheFlush =>
      let (app, response) := listener.gateway.app.flushCache
      ({ listener with gateway := { listener.gateway with app := app } }, response)
  | .plain .cacheStats =>
      (listener,
        cacheStatsHandler deployment.admin.hitRate listener.gateway.app ambient.entryCount)
  | .plain .keysList => (listener, keysListHandler listener.keyStore ambient.order)
  | .plain .keysCreate =>
      match deployment.payload request with
      | .error status => (listener, deployment.admin.reject status)
      | .ok payload =>
          let (keyStore, response) :=
            keysCreateHandler deployment.backend.crypto listener.keyStore payload ambient
          ({ listener with keyStore := keyStore }, response)
  -- These handlers take a part of the path, and the call carries it.
  | .plain .upstreamEnable | .plain .upstreamDisable | .plain .keysDelete =>
      (listener, deployment.admin.reject 500)

/-- Answer a request to the admin interface; for `HEAD` the body is removed. -/
def serveAdmin (listener : Listener arith) (request : AdminRequest) (ambient : Ambient)
    (now : Instant) : Listener arith × Response :=
  match adminCall request.method request.path with
  | .error status => (listener, deployment.admin.reject status)
  | .ok call =>
      let (listener, response) := deployment.serveCall listener request ambient now call
      (listener, if request.method = .head then { response with body := [] } else response)

/-- What a request to create a key asks for, when it is not refused. -/
def keyPayload (request : AdminRequest) : Option KeyPayload :=
  (deployment.payload request).toOption.bind KeyPayload.ofJson

/-- The operation that a call comes to, if it can change the state. -/
def callOccurrences (request : AdminRequest) (ambient : Ambient) : AdminCall → List Occurrence
  | .setUpstreamHealth encodedUrl enable => [.background (.setHealth encodedUrl enable)]
  | .revokeKey id => [.keys (.revoke id)]
  | .plain .cacheFlush => [.background .flush]
  | .plain .keysCreate =>
      (deployment.keyPayload request).toList.map fun asked =>
        .keys (.create asked.rawKey asked.tier asked.label ambient.salt ambient.epochSecs)
  | .plain _ => []

def adminOccurrences (request : AdminRequest) (ambient : Ambient) : List Occurrence :=
  match adminCall request.method request.path with
  | .ok call => deployment.callOccurrences request ambient call
  | .error _ => []

end Deployment

/-- What the health check task does, as the gateway sees it. -/
def MonitorEffect.background : MonitorEffect UpstreamRef → Background
  | .markHealthy target => .markHealthy target
  | .probe target elapsed result => .probe target elapsed result

/-! ## The server as a machine -/

structure Site (arith : TokenArith) where
  listener : Listener arith
  monitor : Monitor UpstreamRef

/-- What happens next. -/
inductive Happening where
  /-- A request to the main listener. -/
  | request (web : WebRequest)
  | read (index : Nat) (complete : Bool)
  | resume (request : Nat) (action : Action)
  | evict (slot : UInt64)
  /-- A request to the admin interface. -/
  | admin (request : AdminRequest) (ambient : Ambient)
  | monitor (act : MonitorAct UpstreamRef)

structure Beat where
  time : Instant
  happening : Happening

/-- The listener at a later time. -/
def Listener.at {arith : TokenArith} (listener : Listener arith) (now : Instant) :
    Listener arith :=
  { listener with gateway := { listener.gateway with clock := now } }

namespace Site

variable {arith : TokenArith} (deployment : Deployment)

def clock (site : Site arith) : Instant := site.listener.gateway.clock

def init (arith : TokenArith) (store : SqliteKeyStore) (now : Instant) : Site arith where
  listener := .init deployment.settings arith store now
  monitor := .init now

/-- What a beat comes to at the main listener and behind it. -/
def occurrences (site : Site arith) (beat : Beat) : List Occurrence :=
  match beat.happening with
  | .request web => [.request web]
  | .read index complete => [.read index complete]
  | .resume request action => [.resume request action]
  | .evict slot => [.background (.evict slot)]
  | .admin request ambient => deployment.adminOccurrences request ambient
  | .monitor act =>
      (site.monitor.effects ⟨beat.time, act⟩).map fun effect => .background effect.background

def moments (site : Site arith) (beat : Beat) : List Moment :=
  (site.occurrences deployment beat).map fun occurrence => ⟨beat.time, occurrence⟩

/-- Pass on what happens to the main listener. -/
def pass (site : Site arith) (now : Instant) (occurrence : Occurrence) : Option (Site arith) :=
  (site.listener.step deployment.backend deployment.settings ⟨now, occurrence⟩).map fun listener =>
    { site with listener := listener }

def step (site : Site arith) (beat : Beat) : Option (Site arith) :=
  if beat.time < site.clock then none
  else
    match beat.happening with
    | .request web => site.pass deployment beat.time (.request web)
    | .read index complete => site.pass deployment beat.time (.read index complete)
    | .resume request action => site.pass deployment beat.time (.resume request action)
    | .evict slot => site.pass deployment beat.time (.background (.evict slot))
    | .admin request ambient =>
        let (listener, _) := deployment.serveAdmin site.listener request ambient beat.time
        some { site with listener := listener.at beat.time }
    | .monitor act => do
        let monitor ← site.monitor.step deployment.monitorConfig ⟨beat.time, act⟩
        let app :=
          (site.monitor.effects ⟨beat.time, act⟩).foldl
            (fun app effect => effect.background.apply deployment.settings beat.time app)
            site.listener.gateway.app
        let gateway := { site.listener.gateway with clock := beat.time, app := app }
        some ⟨{ site.listener with gateway := gateway }, monitor⟩

/-- The states that a run can be in. -/
def Run (store : SqliteKeyStore) (start : Instant) (beats : List Beat) (site : Site arith) :
    Prop :=
  Machine.exec (step deployment) (init deployment arith store start) beats = some site

end Site

/-! ## A small server

The small gateway behind a key, and a run in which a key is created and used. -/

/-- A request to create a key, as it is read. -/
def creationPayload : Json :=
  .object [("key", .string "sk_test_list_1"), ("tier", .string "gold")]

def keyCreation : AdminRequest where
  method := .other "POST"
  path := "/admin/keys"
  contentType := some (asBytes "application/json")
  body := creationPayload.toBytes

/-- Nothing is added to a key when it is hashed, the clock is at its origin, and rows are
read as they were written. -/
def smallAmbient : Ambient where
  salt := 0
  epochSecs := 0
  order := ⟨id, fun _ => .rfl⟩
  entryCount := 0

/-- A request for the latest ledger, with the key. -/
def keyedCall : WebRequest where
  peer := "203.0.113.9:50000"
  method := .other "POST"
  path := "/"
  http := bearer "sk_test_list_1"
  body := (ledgerRequest 1).toBytes

/-- One outcome of a probe is enough to change the status of an upstream. -/
def smallDeployment : Deployment where
  backend := smallBackend
  admin :=
    { isJson := fun value => value = asBytes "application/json"
      extract := fun body => if body = creationPayload.toBytes then some creationPayload else none
      reject := fun status => ⟨status, [], []⟩
      reject_status := fun _ => rfl
      hitRate := fun _ _ => .ofInt 0 }
  settings :=
    { smallSettings [] with
      config :=
        { (smallSettings []).config with
          healthCheck := { healthyThreshold := 1, unhealthyThreshold := 1 }
          auth := { allowUnauthenticated := false, tiers := [⟨"gold", 5, 10⟩] } } }
  skipInitial := true
  timeoutMs := 3000

/-- The upstreams are taken to be healthy, and the timer of the task starts. -/
def startBeats : List Beat :=
  [⟨0, .monitor .start⟩, ⟨0, .monitor .mark⟩, ⟨0, .monitor .mark⟩, ⟨0, .monitor .timer⟩]

/-- A key is created, and a request with it is answered. -/
def keyedBeats : List Beat :=
  startBeats ++
    [⟨1, .admin keyCreation smallAmbient⟩,
      ⟨2, .request keyedCall⟩,
      ⟨3, .read 0 true⟩,
      ⟨4, .resume 0 (.select 0)⟩,
      ⟨5, .resume 0 .forward⟩,
      ⟨6, .resume 0 (.«return» (ledgerReply 1))⟩,
      ⟨7, .resume 0 .handle⟩]

theorem keyedBeats_run : ∃ site : Site .rat, Site.Run smallDeployment .new 0 keyedBeats site := by
  have runs : (Machine.exec (Site.step smallDeployment) (Site.init smallDeployment .rat .new 0)
      keyedBeats).isSome = true := by
    decide +kernel
  exact Option.isSome_iff_exists.mp runs

end SorobanGate
