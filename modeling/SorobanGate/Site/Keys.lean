import SorobanGate.Server.Auth
import SorobanGate.Site.Refinement

/-!
# Keys on a running server

The key store is a component of the server that only requests to the admin interface
act on, and the only operation they reach is the creation of a key.  A key is therefore
valid from the answer that it was created with to the end of the run.
-/

namespace SorobanGate

variable {arith : TokenArith} {deployment : Deployment}

/-- The operations on the key store. -/
def Occurrence.keyOps : Occurrence → List KeyOp
  | .keys op => [op]
  | _ => []

/-- What a beat is for the key store. -/
def Beat.keyOps (deployment : Deployment) (beat : Beat) : List KeyOp :=
  match beat.happening with
  | .admin request ambient =>
      (deployment.adminOccurrences request ambient).flatMap Occurrence.keyOps
  | _ => []

/-- What a run is for the key store. -/
def keyOps (deployment : Deployment) (beats : List Beat) : List KeyOp :=
  beats.flatMap (Beat.keyOps deployment)

theorem Listener.keyStore_of_step {backend : AuthBackend} {settings : Settings}
    {listener next : Listener arith} {moment : Moment}
    (stepped : listener.step backend settings moment = some next) :
    next.keyStore =
      match moment.occurrence with
      | .keys op => listener.keyStore.bind fun store => KeyOp.step backend.crypto store op
      | _ => listener.keyStore := by
  have passed : ∀ {event reached},
      listener.pass settings moment.time event = some reached →
      reached.keyStore = listener.keyStore := by
    intro event reached isPass
    obtain ⟨gateway, -, rfl⟩ := Option.map_eq_some_iff.mp isPass
    rfl
  unfold step at stepped
  split at stepped
  · cases stepped
  · split at stepped
    next web isRequest =>
      rw [isRequest]
      cases stepped
      rfl
    next index complete isRead =>
      rw [isRead]
      obtain ⟨web, -, remaining⟩ := Option.bind_eq_some_iff.mp stepped
      obtain ⟨reached, isPass, isNext⟩ := Option.bind_eq_some_iff.mp remaining
      rw [← passed isPass]
      cases isNext
      rfl
    next request action isResume =>
      rw [isResume]
      exact passed stepped
    next event isBackground =>
      rw [isBackground]
      exact passed stepped
    next op isKeys =>
      rw [isKeys]
      cases stepped
      rfl

/-! ## What an answer says -/

theorem adminCall_error {method : Method} {path : String} {status : StatusCode}
    (called : adminCall method path = .error status) : status ≠ 201 := by
  have onPath : ∀ {captured : List (List Char)} {make : String → AdminCall},
      (pathParam captured).map make = .error status → status ≠ 201 := by
    intro captured make isError
    cases isParam : pathParam captured with
    | ok text =>
        rw [isParam] at isError
        cases isError
    | error code =>
        rw [isParam] at isError
        cases isError
        unfold pathParam at isParam
        split at isParam
        · dsimp only at isParam
          split at isParam
          · cases isParam
          · cases isParam
            decide
        · cases isParam
          decide
  unfold adminCall at called
  dsimp only at called
  split at called
  · cases called
    decide
  · split at called
    next route captured found =>
      unfold AdminHandler.call at called
      split at called
      · exact onPath called
      · exact onPath called
      · exact onPath called
      · cases called
    · cases called
      decide

theorem payload_error {request : AdminRequest} {status : StatusCode}
    (rejected : deployment.payload request = .error status) : status ≠ 201 := by
  unfold Deployment.payload AdminRequest.payload at rejected
  split at rejected
  · cases rejected
    decide
  · split at rejected
    · cases rejected
      decide
    · split at rejected
      · cases rejected
      · cases rejected
        decide

namespace Site

variable {site next : Site arith} {beat : Beat}

/-- The keys that a beat creates, with their tiers: the request is answered with 201. -/
def grants (deployment : Deployment) (site : Site arith) (beat : Beat) : List (String × String) :=
  match beat.happening with
  | .admin request ambient =>
      if (deployment.serveAdmin site.listener request ambient beat.time).2.status = 201 then
        (deployment.keyPayload request).toList.map fun asked => (asked.rawKey, asked.tier)
      else []
  | _ => []

theorem status_of_other (listener : Listener arith) (request : AdminRequest) (ambient : Ambient)
    (now : Instant) {handler : AdminHandler} (other : handler ≠ .keysCreate) :
    (deployment.serveCall listener request ambient now (.plain handler)).2.status ≠ 201 := by
  have refused : (deployment.admin.reject 500).status ≠ 201 := by
    rw [deployment.admin.reject_status]
    decide
  have answered : (200 : StatusCode) ≠ 201 ∧ (501 : StatusCode) ≠ 201 := by decide
  cases handler with
  | status => exact answered.1
  | reload => exact answered.2
  | cacheFlush =>
      simp only [Deployment.serveCall, AppState.flushCache]
      split <;> exact answered.1
  | cacheStats =>
      simp only [Deployment.serveCall, cacheStatsHandler]
      split <;> exact answered.1
  | keysList =>
      simp only [Deployment.serveCall, keysListHandler]
      split
      · exact answered.1
      · exact answered.2
  | keysCreate => exact absurd rfl other
  | upstreamEnable => exact refused
  | upstreamDisable => exact refused
  | keysDelete => exact refused

/-- The handler answers with 201 exactly when it creates the key that it is asked for. -/
theorem status_of_keysCreate (deployment : Deployment) {listener : Listener arith}
    {store : SqliteKeyStore} (isStore : listener.keyStore = some store) (request : AdminRequest)
    (ambient : Ambient) (now : Instant) :
    (deployment.serveCall listener request ambient now (.plain .keysCreate)).2.status = 201 ↔
      ∃ asked after entry, deployment.keyPayload request = some asked ∧
        store.createKey deployment.backend.crypto asked.rawKey asked.tier asked.label
          ambient.salt ambient.epochSecs = .ok (after, entry) := by
  simp only [Deployment.serveCall, Deployment.keyPayload]
  cases extracted : deployment.payload request with
  | error status =>
      simpa [Except.toOption, deployment.admin.reject_status] using payload_error extracted
  | ok payload =>
      simp only [Except.toOption, Option.bind_some, keysCreateHandler]
      cases isAsked : KeyPayload.ofJson payload with
      | none => simp [Response.json]
      | some asked =>
          simp only [isStore, Option.some.injEq]
          cases done : store.createKey deployment.backend.crypto asked.rawKey asked.tier
            asked.label ambient.salt ambient.epochSecs with
          | error reason => simp [Response.json, done]
          | ok result =>
              obtain ⟨after, entry⟩ := result
              simp [Response.json, done]

/-- The store creates the keys whose requests are answered with 201. -/
theorem created_eq_grants {store : SqliteKeyStore} (isStore : site.listener.keyStore = some store)
    (beat : Beat) :
    (Machine.trace (KeyOp.step deployment.backend.crypto) (KeyOp.created deployment.backend.crypto)
        store (beat.keyOps deployment)).map (fun pair => (pair.1, pair.2.tier)) =
      site.grants deployment beat := by
  obtain ⟨time, happening⟩ := beat
  cases happening with
  | admin request ambient =>
      have sameStatus : ∀ response : Response,
          (if request.method = .head then { response with body := [] } else response).status =
            response.status := by
        intro response
        split <;> rfl
      simp only [Beat.keyOps, Deployment.adminOccurrences, grants, Deployment.serveAdmin]
      cases called : adminCall request.method request.path with
      | error status =>
          have refused : (deployment.admin.reject status).status ≠ 201 := by
            rw [deployment.admin.reject_status]
            exact adminCall_error called
          rw [if_neg refused]
          rfl
      | ok call =>
          obtain ⟨handler, rfl⟩ := adminCall_plain called
          simp only [sameStatus]
          by_cases isCreate : handler = .keysCreate
          · subst isCreate
            have answered := status_of_keysCreate deployment isStore request ambient time
            by_cases isCreated : (deployment.serveCall site.listener request ambient time
                (.plain .keysCreate)).2.status = 201
            · obtain ⟨asked, after, entry, isAsked, done⟩ := answered.mp isCreated
              have isTier := (SqliteKeyStore.createKey_ok done).2.1
              rw [if_pos isCreated]
              simp [Deployment.callOccurrences, isAsked, Occurrence.keyOps, KeyOp.created, done,
                isTier]
            · rw [if_neg isCreated]
              cases isAsked : deployment.keyPayload request with
              | none => simp [Deployment.callOccurrences, isAsked]
              | some asked =>
                  cases done : store.createKey deployment.backend.crypto asked.rawKey asked.tier
                    asked.label ambient.salt ambient.epochSecs with
                  | error reason =>
                      simp [Deployment.callOccurrences, isAsked, Occurrence.keyOps,
                        KeyOp.created, done]
                  | ok result =>
                      exact absurd (answered.mpr ⟨asked, result.1, result.2, isAsked, done⟩)
                        isCreated
          · rw [if_neg (status_of_other site.listener request ambient time isCreate)]
            cases handler with
            | keysCreate => exact absurd rfl isCreate
            | _ => rfl
  | _ => rfl

theorem exec_keyStore {backend : AuthBackend} {settings : Settings}
    {listener next : Listener arith} {moment : Moment} {store : SqliteKeyStore}
    (isStore : listener.keyStore = some store)
    (stepped : listener.step backend settings moment = some next) :
    ∃ after, Machine.exec (KeyOp.step backend.crypto) store moment.occurrence.keyOps =
        some after ∧ next.keyStore = some after := by
  have isNext := Listener.keyStore_of_step stepped
  obtain ⟨time, occurrence⟩ := moment
  cases occurrence with
  | keys op =>
      obtain ⟨after, isAfter⟩ :=
        Option.isSome_iff_exists.mp (KeyOp.isSome_step backend.crypto store op)
      refine ⟨after, Machine.exec_cons_iff.mpr ⟨after, isAfter, rfl⟩, ?_⟩
      rw [isNext, isStore]
      exact isAfter
  | _ => exact ⟨store, rfl, isNext.trans isStore⟩

theorem keyStore_of_step {store : SqliteKeyStore} (isStore : site.listener.keyStore = some store)
    (stepped : step deployment site beat = some next) :
    ∃ after, Machine.exec (KeyOp.step deployment.backend.crypto) store (beat.keyOps deployment) =
        some after ∧ next.listener.keyStore = some after := by
  obtain ⟨-, -, ⟨reached, isRun, isNext⟩, -⟩ := step_cases stepped
  obtain ⟨after, isAfter, isReached⟩ := Machine.exec_refines
    (fun (listener : Listener arith) (store : SqliteKeyStore) => listener.keyStore = some store)
    (fun listener store moment next isStore stepped => exec_keyStore isStore stepped)
    isStore isRun
  have sameOps : (site.moments deployment beat).flatMap (fun moment => moment.occurrence.keyOps) =
      beat.keyOps deployment := by
    rw [moments, List.flatMap_map]
    obtain ⟨time, happening⟩ := beat
    cases happening with
    | admin request ambient => rfl
    | monitor act =>
        refine List.flatMap_eq_nil_iff.mpr fun occurrence member => ?_
        obtain ⟨effect, -, rfl⟩ := List.mem_map.mp member
        rfl
    | _ => rfl
  rw [Machine.trace_eq_flatMap isRun, sameOps] at isAfter
  exact ⟨after, isAfter, by rw [isNext]; exact isReached⟩

section Runs

variable {start : Instant} {beats : List Beat}

/-- The keys that a run creates, with their tiers. -/
def granted (deployment : Deployment) (arith : TokenArith) (start : Instant)
    (beats : List Beat) : List (String × String) :=
  Machine.trace (step deployment) (grants deployment) (init deployment arith .new start) beats

/-- The keys that the run of a server asks to be created. -/
def askedKeys (deployment : Deployment) (beats : List Beat) : List String :=
  KeyOp.rawKeys (keyOps deployment beats)

/-- The store of a server that is started with an empty one holds what was granted. -/
theorem keyStore_of_run (enabled : deployment.settings.config.auth.enabled = true)
    (run : Run deployment .new start beats site) :
    ∃ store, site.listener.keyStore = some store ∧
      Machine.exec (KeyOp.step deployment.backend.crypto) .new (keyOps deployment beats) =
        some store ∧
      (KeyOp.createdKeys deployment.backend.crypto (keyOps deployment beats)).map
          (fun pair => (pair.1, pair.2.tier)) =
        granted deployment arith start beats := by
  refine Machine.exec_history
    (fun beats (site : Site arith) => ∃ store, site.listener.keyStore = some store ∧
      Machine.exec (KeyOp.step deployment.backend.crypto) .new (keyOps deployment beats) =
        some store ∧
      (KeyOp.createdKeys deployment.backend.crypto (keyOps deployment beats)).map
          (fun pair => (pair.1, pair.2.tier)) =
        granted deployment arith start beats) ?_ ?_ run
  · exact ⟨.new, by simp [init, Listener.init, enabled], rfl, rfl⟩
  · intro beats site beat next prior ih stepped
    obtain ⟨store, isStore, isRun, sameKeys⟩ := ih
    obtain ⟨after, isAfter, isNext⟩ := keyStore_of_step isStore stepped
    have concat : keyOps deployment (beats ++ [beat]) =
        keyOps deployment beats ++ beat.keyOps deployment := by
      rw [keyOps, List.flatMap_append, List.flatMap_singleton]
      rfl
    refine ⟨after, isNext, ?_, ?_⟩
    · rw [concat, Machine.exec_append_iff]
      exact ⟨store, isRun, isAfter⟩
    · rw [concat, KeyOp.createdKeys, Machine.trace_append isRun, List.map_append, granted,
        Machine.trace_concat prior, created_eq_grants isStore]
      exact congrArg (· ++ _) sameKeys

theorem revokedIds_keyOps (deployment : Deployment) (beats : List Beat) :
    KeyOp.revokedIds deployment.backend.crypto (keyOps deployment beats) = [] := by
  refine List.eq_nil_iff_forall_not_mem.mpr fun id member => ?_
  obtain ⟨op, isOp, store, shown⟩ := Machine.exists_of_mem_trace member
  obtain ⟨beat, -, isBeat⟩ := List.mem_flatMap.mp isOp
  unfold Beat.keyOps at isBeat
  split at isBeat
  next request ambient =>
    obtain ⟨occurrence, isOccurrence, isKeys⟩ := List.mem_flatMap.mp isBeat
    unfold Deployment.adminOccurrences at isOccurrence
    split at isOccurrence
    next call called =>
      obtain ⟨handler, rfl⟩ := adminCall_plain called
      cases handler with
      | keysCreate =>
          obtain ⟨asked, -, rfl⟩ := List.mem_map.mp isOccurrence
          rw [List.mem_singleton.mp isKeys] at shown
          cases shown
      | cacheFlush =>
          rw [List.mem_singleton.mp isOccurrence] at isKeys
          cases isKeys
      | _ => cases isOccurrence
    · cases isOccurrence
  · cases isBeat

/-- Where requests without a key are refused, a request that is let in presents a key
that was granted, and has the tier of that key. -/
theorem granted_of_passed (enabled : deployment.settings.config.auth.enabled = true)
    (required : deployment.settings.config.auth.allowUnauthenticated = false)
    (exact : deployment.backend.crypto.Argon2Exact)
    (run : Run deployment .new start beats site) {request : HttpRequest}
    (collisionless : deployment.backend.crypto.Collisionless
      ((extractApiKey deployment.backend.parseQuery request).toList ++
        askedKeys deployment beats)) {passed : AuthedRequest}
    (isPassed : authMiddleware deployment.backend deployment.settings.config.auth
      site.listener.keyStore request = .next passed) :
    ∃ key tier, extractApiKey deployment.backend.parseQuery request = some key ∧
      passed.authTier = some tier ∧ (key, tier) ∈ granted deployment arith start beats := by
  obtain ⟨store, isStore, isRun, sameKeys⟩ := keyStore_of_run enabled run
  rw [isStore] at isPassed
  rcases authMiddleware_cases exact enabled isRun collisionless with
    ⟨key, entry, presented, created, -, decided⟩ | ⟨_, _, -, -, -, decided⟩ |
    ⟨-, -, message, decided⟩
  · rw [decided] at isPassed
    cases isPassed
    refine ⟨key, entry.tier, presented, rfl, ?_⟩
    rw [← sameKeys]
    exact List.mem_map.mpr ⟨(key, entry), created, rfl⟩
  · rw [decided] at isPassed
    cases isPassed
  · rw [decided, required] at isPassed
    cases isPassed

/-- Keys for good.  In every run of a server with authentication, started with an empty
store, a request is let in with a tier exactly when it presents a key that a request to
the admin interface was answered with 201 for, with that tier, at any time before; and
no request is answered that its key has been revoked. -/
theorem identified_iff_granted (enabled : deployment.settings.config.auth.enabled = true)
    (exact : deployment.backend.crypto.Argon2Exact)
    (run : Run deployment .new start beats site) {request : HttpRequest}
    (collisionless : deployment.backend.crypto.Collisionless
      ((extractApiKey deployment.backend.parseQuery request).toList ++
        askedKeys deployment beats)) :
    let outcome := authMiddleware deployment.backend deployment.settings.config.auth
      site.listener.keyStore request
    (∀ tier, (∃ passed, outcome = .next passed ∧ passed.authTier = some tier) ↔
      ∃ key, extractApiKey deployment.backend.parseQuery request = some key ∧
        (key, tier) ∈ granted deployment arith start beats) ∧
    outcome.status? ≠ some 403 := by
  obtain ⟨store, isStore, isRun, sameKeys⟩ := keyStore_of_run enabled run
  simp only [isStore, ← sameKeys, List.mem_map, Prod.mk.injEq]
  have never := revokedIds_keyOps deployment beats
  rcases authMiddleware_cases exact enabled isRun collisionless with
    ⟨key, entry, presented, created, -, decided⟩ | ⟨key, entry, presented, created, -, decided⟩ |
    ⟨unknown, -, message, decided⟩
  · rw [decided]
    refine ⟨fun tier => ⟨?_, ?_⟩, nofun⟩
    · rintro ⟨passed, isPassed, isTier⟩
      cases isPassed
      cases isTier
      exact ⟨key, presented, (key, entry), created, rfl, rfl⟩
    · rintro ⟨other, isOther, ⟨_, otherEntry⟩, isCreated, rfl, rfl⟩
      obtain rfl := Option.some.inj (presented.symm.trans isOther)
      have same := (KeyOp.describes_of_run isRun).creation_unique created isCreated
      exact ⟨_, rfl, by rw [same]⟩
  · rw [authMiddleware_of_created exact enabled isRun collisionless presented created, never,
      if_neg (List.not_mem_nil)] at decided
    cases decided
  · rw [decided]
    constructor
    · intro tier
      constructor
      · rintro ⟨passed, isPassed, isTier⟩
        split at isPassed
        · cases isPassed
          cases isTier
        · cases isPassed
      · rintro ⟨key, presented, ⟨_, entry⟩, isCreated, rfl, rfl⟩
        exact absurd ((KeyOp.creates_iff_tier isRun isCreated _).mpr rfl)
          (unknown _ presented entry.tier)
    · split <;> exact nofun

/-- After the key was created, a request with it is let in with its tier. -/
theorem identified_iff_granted_keyed :
    ∃ site : Site .rat, Run smallDeployment .new 0 keyedBeats site ∧
      ∃ passed, authMiddleware smallDeployment.backend smallDeployment.settings.config.auth
          site.listener.keyStore (bearer "sk_test_list_1") = .next passed ∧
        passed.authTier = some "gold" := by
  obtain ⟨site, run⟩ := keyedBeats_run
  have collisionless : smallDeployment.backend.crypto.Collisionless
      ((extractApiKey smallDeployment.backend.parseQuery (bearer "sk_test_list_1")).toList ++
        askedKeys smallDeployment keyedBeats) := by
    decide +kernel
  have isGranted : ("sk_test_list_1", "gold") ∈ granted smallDeployment .rat 0 keyedBeats := by
    decide +kernel
  have presented : extractApiKey smallDeployment.backend.parseQuery (bearer "sk_test_list_1") =
      some "sk_test_list_1" := by
    decide +kernel
  exact ⟨site, run, ((identified_iff_granted rfl smallBackend_argon2Exact run
    collisionless).1 "gold").mpr ⟨_, presented, isGranted⟩⟩

end Runs

end Site

end SorobanGate
