import SorobanGate.Auth.ApiKey
import SorobanGate.Auth.KeyStore
import SorobanGate.Config
import SorobanGate.Server.Response

/-!
# Authentication middleware

A request with a known key is passed on with the tier of that key.  A revoked
key is refused whatever the configuration says, and a key that is not in the
store counts as no key at all.
-/

namespace SorobanGate

/-- A request with the extensions that the authentication middleware inserts. -/
structure AuthedRequest where
  request : HttpRequest
  authTier : Option String := none
  authKeyId : Option String := none
  deriving DecidableEq, Repr

/-- What a middleware does: call the next one, or answer by itself. -/
inductive Outcome (Request : Type) where
  | next (request : Request)
  | respond (response : Response)
  deriving DecidableEq, Repr

/-- What the authentication middleware takes from other crates: the functions of
the key store, and the decoding of the pairs of a query. -/
structure AuthBackend where
  crypto : KeyCrypto
  parseQuery : String → List (String × String)

variable (backend : AuthBackend)

def authMiddleware (config : AuthConfig) (keyStore : Option SqliteKeyStore)
    (request : HttpRequest) : Outcome AuthedRequest :=
  match config.enabled, keyStore with
  | true, some store =>
      match extractApiKey backend.parseQuery request with
      | some key =>
          match store.lookup backend.crypto key with
          | .ok (some entry) =>
              if entry.isRevoked then
                .respond (authErrorResponse 403 (-32003) "API key has been revoked")
              else
                .next
                  { request := request
                    authTier := some entry.tier
                    authKeyId := some entry.id }
          | .ok none =>
              if config.allowUnauthenticated then .next { request := request }
              else .respond (authErrorResponse 401 (-32001) "Invalid API key")
          | .error _ =>
              .respond (authErrorResponse 500 (-32002) "Authentication service unavailable")
      | none =>
          if config.allowUnauthenticated then .next { request := request }
          else .respond (authErrorResponse 401 (-32001) "Authentication required")
  | _, _ => .next { request := request }

section Gate

variable {backend} {config : AuthConfig} {request : HttpRequest} {store : SqliteKeyStore}
  {ops : List KeyOp}

/-- The keys that matter when a request arrives after a history of operations. -/
def keysUsed (backend : AuthBackend) (ops : List KeyOp) (request : HttpRequest) : List String :=
  (extractApiKey backend.parseQuery request).toList ++ KeyOp.rawKeys ops

/-- The request presents a key whose lookup yields an entry that is not revoked. -/
def Vouched (backend : AuthBackend) (store : SqliteKeyStore) (request : HttpRequest) : Prop :=
  ∃ key entry, extractApiKey backend.parseQuery request = some key ∧
    store.lookup backend.crypto key = .ok (some entry) ∧ entry.isRevoked = false

theorem keysUsed_of_presented {key : String}
    (presented : extractApiKey backend.parseQuery request = some key) :
    keysUsed backend ops request = key :: KeyOp.rawKeys ops := by
  simp only [keysUsed, presented, Option.toList_some, List.singleton_append]

section History

variable (exact : backend.crypto.Argon2Exact) (enabled : config.enabled = true)
  (run : Machine.exec (KeyOp.step backend.crypto) .new ops = some store)
  (collisionless : backend.crypto.Collisionless (keysUsed backend ops request))

include exact run collisionless

theorem vouched_iff_of_created {key : String}
    (presented : extractApiKey backend.parseQuery request = some key)
    {entry : KeyEntry} (created : (key, entry) ∈ KeyOp.createdKeys backend.crypto ops) :
    Vouched backend store request ↔ entry.id ∉ KeyOp.revokedIds backend.crypto ops := by
  rw [keysUsed_of_presented presented] at collisionless
  have found := KeyOp.lookup_of_created exact run collisionless created
  constructor
  · rintro ⟨other, row, isKey, isRow, valid⟩
    rw [presented] at isKey
    cases isKey
    rw [found] at isRow
    cases isRow
    simpa [KeyEntry.marked] using valid
  · intro valid
    exact ⟨key, _, presented, found, by simpa [KeyEntry.marked] using valid⟩

include enabled

/-- A key that was created is decided by whether its id was revoked. -/
theorem authMiddleware_of_created {key : String}
    (presented : extractApiKey backend.parseQuery request = some key)
    {entry : KeyEntry} (created : (key, entry) ∈ KeyOp.createdKeys backend.crypto ops) :
    authMiddleware backend config (some store) request =
      if entry.id ∈ KeyOp.revokedIds backend.crypto ops then
        .respond (authErrorResponse 403 (-32003) "API key has been revoked")
      else
        .next
          { request := request
            authTier := some entry.tier
            authKeyId := some entry.id } := by
  rw [keysUsed_of_presented presented] at collisionless
  have found := KeyOp.lookup_of_created exact run collisionless created
  simp only [authMiddleware, enabled, presented, found, KeyEntry.marked, decide_eq_true_eq]

theorem authMiddleware_of_unknown
    (unknown : ∀ key, extractApiKey backend.parseQuery request = some key →
      ∀ entry, (key, entry) ∉ KeyOp.createdKeys backend.crypto ops) :
    ¬ Vouched backend store request ∧
      ∃ message, authMiddleware backend config (some store) request =
        if config.allowUnauthenticated then .next { request := request }
        else .respond (authErrorResponse 401 (-32001) message) := by
  cases presented : extractApiKey backend.parseQuery request with
  | none =>
      refine ⟨?_, "Authentication required", by simp only [authMiddleware, enabled, presented]⟩
      rintro ⟨key, entry, isKey, -⟩
      rw [presented] at isKey
      cases isKey
  | some key =>
      rw [keysUsed_of_presented presented] at collisionless
      have found := KeyOp.lookup_of_unknown exact run collisionless (unknown key presented)
      refine ⟨?_, "Invalid API key", by simp only [authMiddleware, enabled, presented, found]⟩
      rintro ⟨other, entry, isKey, isFound, -⟩
      rw [presented] at isKey
      cases isKey
      rw [found] at isFound
      cases isFound

theorem authMiddleware_of_revoked {key : String}
    (presented : extractApiKey backend.parseQuery request = some key)
    (revokes : KeyOp.Revokes backend.crypto ops (SqliteKeyStore.sha256Id backend.crypto key)) :
    authMiddleware backend config (some store) request =
      .respond (authErrorResponse 403 (-32003) "API key has been revoked") := by
  have describes := KeyOp.describes_of_run run
  have revoked := KeyOp.mem_revokedIds revokes
  obtain ⟨entry, created⟩ := describes.created_of_revoked
    (keysUsed_of_presented presented ▸ collisionless) revoked
  rw [← (describes.made _ created).1.id] at revoked
  rw [authMiddleware_of_created exact enabled run collisionless presented created,
    if_pos revoked]

/-- Inversion: the request has a valid key, a revoked one, or none that was created. -/
theorem authMiddleware_cases :
    (∃ key entry, extractApiKey backend.parseQuery request = some key ∧
        (key, entry) ∈ KeyOp.createdKeys backend.crypto ops ∧
        Vouched backend store request ∧
        authMiddleware backend config (some store) request =
          .next
            { request := request
              authTier := some entry.tier
              authKeyId := some entry.id }) ∨
      (∃ key entry, extractApiKey backend.parseQuery request = some key ∧
        (key, entry) ∈ KeyOp.createdKeys backend.crypto ops ∧
        ¬ Vouched backend store request ∧
        authMiddleware backend config (some store) request =
          .respond (authErrorResponse 403 (-32003) "API key has been revoked")) ∨
      ((∀ key, extractApiKey backend.parseQuery request = some key →
          ∀ tier, ¬ KeyOp.Creates backend.crypto ops key tier) ∧
        ¬ Vouched backend store request ∧
        ∃ message, authMiddleware backend config (some store) request =
          if config.allowUnauthenticated then .next { request := request }
          else .respond (authErrorResponse 401 (-32001) message)) := by
  by_cases known : ∃ key entry, extractApiKey backend.parseQuery request = some key ∧
      (key, entry) ∈ KeyOp.createdKeys backend.crypto ops
  · obtain ⟨key, entry, presented, created⟩ := known
    have decided := authMiddleware_of_created exact enabled run collisionless presented created
    have vouched := vouched_iff_of_created exact run collisionless presented created
    by_cases revoked : entry.id ∈ KeyOp.revokedIds backend.crypto ops
    · rw [if_pos revoked] at decided
      exact Or.inr (Or.inl ⟨key, entry, presented, created, fun valid => vouched.mp valid revoked,
        decided⟩)
    · rw [if_neg revoked] at decided
      exact Or.inl ⟨key, entry, presented, created, vouched.mpr revoked, decided⟩
  · have unknown : ∀ key, extractApiKey backend.parseQuery request = some key →
        ∀ entry, (key, entry) ∉ KeyOp.createdKeys backend.crypto ops :=
      fun key presented entry created => known ⟨key, entry, presented, created⟩
    refine Or.inr (Or.inr ⟨?_, authMiddleware_of_unknown exact enabled run collisionless unknown⟩)
    intro key presented tier creates
    obtain ⟨entry, created, -⟩ := (KeyOp.creates_iff run).mp creates
    exact unknown key presented entry created

end History

/-- Authentication gate and finality of revocation.  After every history of the
key store a request is passed on if and only if its key yields an entry that is
not revoked, or unauthenticated requests are allowed and it has no key or one
that was never created.  It carries a tier exactly in the first case, and then
the one given at the creation of its key.  A key whose id was once revoked is
refused. -/
theorem authMiddleware_gate (exact : backend.crypto.Argon2Exact)
    (enabled : config.enabled = true)
    (run : Machine.exec (KeyOp.step backend.crypto) .new ops = some store)
    (collisionless : backend.crypto.Collisionless (keysUsed backend ops request)) :
    let outcome := authMiddleware backend config (some store) request
    ((∃ passed, outcome = .next passed) ↔
      Vouched backend store request ∨
        (config.allowUnauthenticated = true ∧
          ∀ key, extractApiKey backend.parseQuery request = some key →
            ∀ tier, ¬ KeyOp.Creates backend.crypto ops key tier)) ∧
    (∀ passed, outcome = .next passed →
      passed.request = request ∧
      (passed.authTier.isSome = true ↔ Vouched backend store request) ∧
      ∀ tier, passed.authTier = some tier →
        ∃ key, extractApiKey backend.parseQuery request = some key ∧
          ∀ given, KeyOp.Creates backend.crypto ops key given ↔ given = tier) ∧
    (∀ key, extractApiKey backend.parseQuery request = some key →
      KeyOp.Revokes backend.crypto ops (SqliteKeyStore.sha256Id backend.crypto key) →
      outcome = .respond (authErrorResponse 403 (-32003) "API key has been revoked")) := by
  intro outcome
  rw [← and_assoc]
  refine ⟨?_, fun key presented revokes =>
    authMiddleware_of_revoked exact enabled run collisionless presented revokes⟩
  rcases authMiddleware_cases exact enabled run collisionless with
    ⟨key, entry, presented, created, vouched, decided⟩ |
    ⟨key, entry, presented, created, notVouched, decided⟩ | ⟨never, notVouched, message, decided⟩
  · refine ⟨⟨fun _ => Or.inl vouched, fun _ => ⟨_, decided⟩⟩, ?_⟩
    intro passed isPassed
    simp only [outcome, decided, Outcome.next.injEq] at isPassed
    subst isPassed
    refine ⟨rfl, by simp [vouched], ?_⟩
    intro tier isTier
    cases isTier
    exact ⟨key, presented, KeyOp.creates_iff_tier run created⟩
  · have notUnknown : ¬ ∀ other, extractApiKey backend.parseQuery request = some other →
        ∀ tier, ¬ KeyOp.Creates backend.crypto ops other tier := fun never =>
      never key presented entry.tier ((KeyOp.creates_iff_tier run created _).mpr rfl)
    simp [outcome, decided, notVouched, notUnknown]
  · by_cases allowed : config.allowUnauthenticated = true
    · rw [if_pos allowed] at decided
      refine ⟨⟨fun _ => Or.inr ⟨allowed, never⟩, fun _ => ⟨_, decided⟩⟩, ?_⟩
      intro passed isPassed
      simp only [outcome, decided, Outcome.next.injEq] at isPassed
      subst isPassed
      simp [notVouched]
    · rw [if_neg allowed] at decided
      simp [outcome, decided, allowed, notVouched]

end Gate

/-! ## A small key store -/

/-- A hash text with fixed parameters and salt, accepted with one password only. -/
def smallHash (password : Bytes) : String :=
  String.ofList
    ("$argon2id$v=19$m=19456,t=2,p=1$c2FsdHNhbHQ$".toList ++ SqliteKeyStore.hex password)

theorem smallHash_injective : Function.Injective smallHash := by
  intro left right equal
  exact SqliteKeyStore.hex_injective (List.append_cancel_left (String.ofList_injective equal))

/-- The digests of two keys, and Argon2 with a fixed salt. -/
def smallBackend : AuthBackend where
  crypto :=
    { sha256 := fun bytes =>
        if bytes = asBytes "sk_test_list_1" then
        [113, 157, 13, 83, 80, 141, 52, 129, 138, 99, 89, 138, 249, 117, 178, 20, 187, 186,
          35, 93, 132, 41, 215, 145, 185, 97, 154, 10, 206, 244, 46, 228]
        else if bytes = asBytes "sk_test_list_2" then
        [9, 69, 168, 22, 65, 63, 105, 53, 255, 28, 147, 36, 55, 11, 89, 85, 191, 160, 152,
          240, 107, 53, 249, 236, 186, 246, 224, 28, 38, 152, 112, 12]
        else []
      hashPassword := fun password _ => .ok (smallHash password)
      parseHash := fun _ => .ok ()
      verifyPassword := fun password hash => smallHash password = hash }
  parseQuery := fun _ => []

theorem smallBackend_argon2Exact : smallBackend.crypto.Argon2Exact := by
  intro password salt hash hashed
  cases hashed
  refine ⟨rfl, fun other => ?_⟩
  simp only [smallBackend, decide_eq_true_eq]
  exact smallHash_injective.eq_iff

/-- A request with a bearer token. -/
def bearer (key : String) : HttpRequest where
  headers := [("authorization", asBytes ("Bearer " ++ key))]
  query := none

/-- Two keys are created, and the first one is revoked and created again. -/
def recreated : List KeyOp :=
  [.create "sk_test_list_1" "tier1" "key 1" 0 0,
    .create "sk_test_list_2" "tier2" "key 2" 0 0,
    .revoke (SqliteKeyStore.sha256Id smallBackend.crypto "sk_test_list_1"),
    .create "sk_test_list_1" "tier2" "again" 0 1]

/-- After that history the second key is passed on with its tier, and the first
one is refused. -/
theorem authMiddleware_gate_recreated :
    ((Machine.exec (KeyOp.step smallBackend.crypto) .new recreated).map fun store =>
      match authMiddleware smallBackend {} (some store) (bearer "sk_test_list_2") with
      | .next passed => passed.authTier
      | .respond _ => none) = some (some "tier2") ∧
    ∃ store, Machine.exec (KeyOp.step smallBackend.crypto) .new recreated = some store ∧
      authMiddleware smallBackend {} (some store) (bearer "sk_test_list_1") =
        .respond (authErrorResponse 403 (-32003) "API key has been revoked") := by
  refine ⟨by decide +kernel, ?_⟩
  obtain ⟨store, run⟩ :
      ∃ store, Machine.exec (KeyOp.step smallBackend.crypto) .new recreated = some store :=
    Option.isSome_iff_exists.mp (by decide +kernel)
  obtain ⟨before, prior⟩ : ∃ before,
      Machine.exec (KeyOp.step smallBackend.crypto) .new (recreated.take 2) = some before :=
    Option.isSome_iff_exists.mp (by decide +kernel)
  have affected : (before.revokeKey
      (SqliteKeyStore.sha256Id smallBackend.crypto "sk_test_list_1")).2 = true := by
    have evaluated : ((Machine.exec (KeyOp.step smallBackend.crypto) .new
        (recreated.take 2)).map fun before => (before.revokeKey
          (SqliteKeyStore.sha256Id smallBackend.crypto "sk_test_list_1")).2) = some true := by
      decide +kernel
    rw [prior] at evaluated
    exact Option.some.inj evaluated
  refine ⟨store, run, ?_⟩
  exact (authMiddleware_gate smallBackend_argon2Exact rfl run (by decide +kernel)).2.2
    "sk_test_list_1" (by decide +kernel) ⟨recreated.take 2, recreated.drop 3, before, rfl, prior,
      affected⟩

end SorobanGate
