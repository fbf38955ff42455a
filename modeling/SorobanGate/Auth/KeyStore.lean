import SorobanGate.Basic
import SorobanGate.Library.JsonText
import SorobanGate.Library.Machine
import Mathlib.Data.List.Find

/-!
# Key store

The table of API keys.  A key is filed under the digest of its text, together
with a password hash of it; the primary key of the table makes ids unique.
-/

namespace SorobanGate

/-- What the store takes from other crates. -/
structure KeyCrypto where
  sha256 : Bytes → Bytes
  /-- Hash a password with a salt, or say why that failed. -/
  hashPassword : Bytes → Nat → Except String String
  /-- Whether the text of a hash is well formed. -/
  parseHash : String → Except String Unit
  verifyPassword : Bytes → String → Bool

structure KeyEntry where
  id : String
  keyHash : String
  tier : String
  label : String
  isRevoked : Bool
  createdAt : Int
  deriving DecidableEq, Repr

/-- The rows of the table; the primary key excludes two rows with one id. -/
structure SqliteKeyStore where
  rows : List KeyEntry
  primaryKey : (rows.map KeyEntry.id).Nodup

namespace SqliteKeyStore

def new : SqliteKeyStore where
  rows := []
  primaryKey := List.nodup_nil

/-- Two lower-case hexadecimal digits for each byte. -/
def hex (bytes : Bytes) : List Char :=
  bytes.flatMap fun byte =>
    [Json.hexDigit (byte.toNat / 16), Json.hexDigit (byte.toNat % 16)]

variable (crypto : KeyCrypto)

def sha256Id (rawKey : String) : String := String.ofList (hex (crypto.sha256 (asBytes rawKey)))

def hashKey (rawKey : String) (salt : Nat) : Except String String :=
  (crypto.hashPassword (asBytes rawKey) salt).mapError ("Argon2 hashing failed: " ++ ·)

/-- The row of an id. -/
def find? (store : SqliteKeyStore) (id : String) : Option KeyEntry :=
  store.rows.find? fun row => row.id = id

def lookup (store : SqliteKeyStore) (rawKey : String) : Except String (Option KeyEntry) :=
  match store.find? (sha256Id crypto rawKey) with
  | some entry => do
      (crypto.parseHash entry.keyHash).mapError ("Invalid password hash: " ++ ·)
      if crypto.verifyPassword (asBytes rawKey) entry.keyHash then pure (some entry)
      else pure none
  | none => pure none

/-- `INSERT`: refused when the id is taken. -/
def insert (store : SqliteKeyStore) (entry : KeyEntry) : Except String SqliteKeyStore :=
  if fresh : entry.id ∉ store.rows.map KeyEntry.id then
    .ok
      { rows := store.rows ++ [entry]
        primaryKey := by
          rw [List.map_append, List.map_singleton]
          exact List.nodup_append.mpr ⟨store.primaryKey, List.nodup_singleton _,
            fun id member other isLast => by
              rw [List.mem_singleton.mp isLast]
              rintro rfl
              exact fresh member⟩ }
  else .error "UNIQUE constraint failed: api_keys.id"

def createKey (store : SqliteKeyStore) (rawKey tier label : String) (salt : Nat)
    (createdAt : Int) : Except String (SqliteKeyStore × KeyEntry) := do
  let keyHash ← hashKey crypto rawKey salt
  let entry : KeyEntry :=
    { id := sha256Id crypto rawKey
      keyHash := keyHash
      tier := tier
      label := label
      isRevoked := false
      createdAt := createdAt }
  let store ← store.insert entry
  pure (store, entry)

/-- Mark a row as revoked when it has the id. -/
def revokeRow (keyId : String) (row : KeyEntry) : KeyEntry :=
  if row.id = keyId then { row with isRevoked := true } else row

@[simp] theorem revokeRow_id (keyId : String) (row : KeyEntry) :
    (revokeRow keyId row).id = row.id := by
  unfold revokeRow
  split <;> rfl

/-- `UPDATE`: also says whether a row was affected. -/
def revokeKey (store : SqliteKeyStore) (keyId : String) : SqliteKeyStore × Bool :=
  ({ rows := store.rows.map (revokeRow keyId)
     primaryKey := by
       rw [List.map_map]
       simpa [Function.comp_def] using store.primaryKey },
    0 < store.rows.countP fun row => row.id = keyId)

end SqliteKeyStore

/-! ## Histories of operations -/

inductive KeyOp where
  | create (rawKey tier label : String) (salt : Nat) (createdAt : Int)
  | revoke (keyId : String)
  | lookup (rawKey : String)
  deriving DecidableEq, Repr

namespace KeyOp

variable (crypto : KeyCrypto)

/-- The store as a machine driven by operations; one that fails changes nothing. -/
def step (store : SqliteKeyStore) : KeyOp → Option SqliteKeyStore
  | .create rawKey tier label salt createdAt =>
      match store.createKey crypto rawKey tier label salt createdAt with
      | .ok (store, _) => some store
      | .error _ => some store
  | .revoke keyId => some (store.revokeKey keyId).1
  | .lookup _ => some store

theorem isSome_step (store : SqliteKeyStore) (op : KeyOp) : (step crypto store op).isSome := by
  cases op with
  | create rawKey tier label salt createdAt =>
      simp only [step]
      split <;> rfl
  | revoke keyId => rfl
  | lookup rawKey => rfl

/-- The keys that an operation creates, with the entry it returns. -/
def created (store : SqliteKeyStore) : KeyOp → List (String × KeyEntry)
  | .create rawKey tier label salt createdAt =>
      match store.createKey crypto rawKey tier label salt createdAt with
      | .ok (_, entry) => [(rawKey, entry)]
      | .error _ => []
  | _ => []

/-- The ids that an operation revokes, returning true. -/
def revoked (store : SqliteKeyStore) : KeyOp → List String
  | .revoke keyId => if (store.revokeKey keyId).2 then [keyId] else []
  | _ => []

/-- The keys that a history creates. -/
def createdKeys (ops : List KeyOp) : List (String × KeyEntry) :=
  Machine.trace (step crypto) (created crypto) .new ops

/-- The ids that a history revokes. -/
def revokedIds (ops : List KeyOp) : List String :=
  Machine.trace (step crypto) revoked .new ops

/-- A creation of a key with a tier succeeds in the course of a history. -/
def Creates (ops : List KeyOp) (rawKey tier : String) : Prop :=
  ∃ before label salt createdAt after store,
    ops = before ++ .create rawKey tier label salt createdAt :: after ∧
    Machine.exec (step crypto) .new before = some store ∧
    (store.createKey crypto rawKey tier label salt createdAt).isOk = true

/-- A revocation of an id returns true in the course of a history. -/
def Revokes (ops : List KeyOp) (keyId : String) : Prop :=
  ∃ before after store, ops = before ++ .revoke keyId :: after ∧
    Machine.exec (step crypto) .new before = some store ∧ (store.revokeKey keyId).2 = true

/-- The keys that a history tries to create. -/
def rawKeys (ops : List KeyOp) : List String :=
  ops.filterMap fun op =>
    match op with
    | .create rawKey _ _ _ _ => some rawKey
    | _ => none

end KeyOp

/-- An entry as the store keeps it after some ids were revoked. -/
def KeyEntry.marked (revoked : List String) (entry : KeyEntry) : KeyEntry :=
  { entry with isRevoked := decide (entry.id ∈ revoked) }

/-- What a successful creation puts into an entry. -/
structure KeyEntry.MadeBy (crypto : KeyCrypto) (rawKey : String) (entry : KeyEntry) : Prop where
  id : entry.id = SqliteKeyStore.sha256Id crypto rawKey
  hash : ∃ salt, crypto.hashPassword (asBytes rawKey) salt = .ok entry.keyHash
  valid : entry.isRevoked = false

section Store

variable {crypto : KeyCrypto} {store next : SqliteKeyStore}

/-- Inversion: a creation succeeds on an id that is not taken, and adds its row. -/
theorem SqliteKeyStore.createKey_ok {rawKey tier label : String} {salt : Nat}
    {createdAt : Int} {entry : KeyEntry}
    (done : store.createKey crypto rawKey tier label salt createdAt = .ok (next, entry)) :
    entry.MadeBy crypto rawKey ∧ entry.tier = tier ∧
      entry.id ∉ store.rows.map KeyEntry.id ∧ next.rows = store.rows ++ [entry] := by
  unfold createKey hashKey at done
  cases hashed : crypto.hashPassword (asBytes rawKey) salt with
  | error reason => simp [hashed, Except.mapError, bind, Except.bind] at done
  | ok keyHash =>
      simp only [hashed, Except.mapError, bind, Except.bind, insert, pure, Except.pure] at done
      split at done
      · cases done
      next inserted isOk =>
        split at isOk
        next fresh =>
          cases isOk
          cases done
          exact ⟨⟨rfl, ⟨salt, hashed⟩, rfl⟩, rfl, fresh, rfl⟩
        · cases isOk

theorem SqliteKeyStore.revokeKey_snd_iff {keyId : String} :
    (store.revokeKey keyId).2 = true ↔ keyId ∈ store.rows.map KeyEntry.id := by
  simp only [revokeKey, decide_eq_true_eq, List.countP_pos_iff, List.mem_map]

end Store

/-! ## What a history leaves in the store -/

/-- Argon2 verification accepts exactly the password that was hashed. -/
def KeyCrypto.Argon2Exact (crypto : KeyCrypto) : Prop :=
  ∀ password salt hash, crypto.hashPassword password salt = .ok hash →
    crypto.parseHash hash = .ok () ∧
      ∀ other, crypto.verifyPassword other hash = true ↔ other = password

/-- SHA-256 is injective on some keys. -/
def KeyCrypto.Collisionless (crypto : KeyCrypto) (keys : List String) : Prop :=
  ∀ left ∈ keys, ∀ right ∈ keys,
    crypto.sha256 (asBytes left) = crypto.sha256 (asBytes right) → left = right

instance (crypto : KeyCrypto) (keys : List String) : Decidable (crypto.Collisionless keys) :=
  inferInstanceAs (Decidable (∀ left ∈ keys, ∀ right ∈ keys, _ → _))

theorem hexDigit_inj : ∀ left < 16, ∀ right < 16,
    Json.hexDigit left = Json.hexDigit right → left = right := by
  decide

theorem SqliteKeyStore.hex_injective : Function.Injective hex := by
  intro left
  induction left with
  | nil =>
      rintro (_ | ⟨byte, rest⟩) equal
      · rfl
      · simp [hex] at equal
  | cons head tail ih =>
      rintro (_ | ⟨byte, rest⟩) equal
      · simp [hex] at equal
      · simp only [hex, List.flatMap_cons, List.cons_append, List.nil_append,
          List.cons.injEq] at equal
        obtain ⟨high, low, others⟩ := equal
        have headBound := head.toNat_lt
        have byteBound := byte.toNat_lt
        have sameHigh := hexDigit_inj _ (by omega) _ (by omega) high
        have sameLow := hexDigit_inj _ (by omega) _ (by omega) low
        have sameByte : head = byte := UInt8.toNat_inj.mp (by omega)
        rw [sameByte, ih others]

theorem SqliteKeyStore.sha256Id_inj {crypto : KeyCrypto} {keys : List String}
    (collisionless : crypto.Collisionless keys) {left right : String}
    (isLeft : left ∈ keys) (isRight : right ∈ keys)
    (equal : sha256Id crypto left = sha256Id crypto right) : left = right :=
  collisionless left isLeft right isRight (hex_injective (String.ofList_injective equal))

theorem SqliteKeyStore.lookup_of_find? {crypto : KeyCrypto} (exact : crypto.Argon2Exact)
    {store : SqliteKeyStore} {rawKey : String} {row : KeyEntry} {salt : Nat}
    (found : store.find? (sha256Id crypto rawKey) = some row)
    (hashed : crypto.hashPassword (asBytes rawKey) salt = .ok row.keyHash) :
    store.lookup crypto rawKey = .ok (some row) := by
  obtain ⟨parsed, verified⟩ := exact _ salt _ hashed
  have accepted : crypto.verifyPassword (asBytes rawKey) row.keyHash = true :=
    (verified _).mpr rfl
  simp [lookup, found, parsed, accepted, Except.mapError, bind, Except.bind, pure, Except.pure]

namespace KeyOp

variable {crypto : KeyCrypto} {ops : List KeyOp} {store : SqliteKeyStore}

/-- The table after a history: the entries that were created, in order, each one
marked as revoked when its id was. -/
structure Describes (crypto : KeyCrypto) (ops : List KeyOp) (store : SqliteKeyStore) :
    Prop where
  rows : store.rows =
    (createdKeys crypto ops).map fun pair => pair.2.marked (revokedIds crypto ops)
  made : ∀ pair ∈ createdKeys crypto ops, pair.2.MadeBy crypto pair.1 ∧ pair.1 ∈ rawKeys ops
  known : ∀ keyId ∈ revokedIds crypto ops, keyId ∈ store.rows.map KeyEntry.id

theorem createdKeys_concat (op : KeyOp)
    (run : Machine.exec (step crypto) .new ops = some store) :
    createdKeys crypto (ops ++ [op]) = createdKeys crypto ops ++ created crypto store op :=
  Machine.trace_concat run

theorem revokedIds_concat (op : KeyOp)
    (run : Machine.exec (step crypto) .new ops = some store) :
    revokedIds crypto (ops ++ [op]) = revokedIds crypto ops ++ revoked store op :=
  Machine.trace_concat run

theorem rawKeys_concat (op : KeyOp) : rawKeys (ops ++ [op]) = rawKeys ops ++ rawKeys [op] :=
  List.filterMap_append

theorem revokeRow_marked (keyId : String) (revoked : List String) (entry : KeyEntry) :
    SqliteKeyStore.revokeRow keyId (entry.marked revoked) =
      entry.marked (revoked ++ [keyId]) := by
  by_cases same : entry.id = keyId <;>
    simp [SqliteKeyStore.revokeRow, KeyEntry.marked, same]

theorem Describes.idle {op : KeyOp} {next : SqliteKeyStore}
    (describes : Describes crypto ops store)
    (run : Machine.exec (step crypto) .new ops = some store)
    (noCreation : created crypto store op = []) (noRevocation : revoked store op = [])
    (sameRows : next.rows = store.rows) : Describes crypto (ops ++ [op]) next := by
  have sameCreated : createdKeys crypto (ops ++ [op]) = createdKeys crypto ops := by
    rw [createdKeys_concat op run, noCreation, List.append_nil]
  have sameRevoked : revokedIds crypto (ops ++ [op]) = revokedIds crypto ops := by
    rw [revokedIds_concat op run, noRevocation, List.append_nil]
  refine ⟨?_, ?_, ?_⟩
  · rw [sameRows, sameCreated, sameRevoked]
    exact describes.rows
  · rw [sameCreated, rawKeys_concat]
    intro pair member
    obtain ⟨made, used⟩ := describes.made pair member
    exact ⟨made, List.mem_append_left _ used⟩
  · rw [sameRows, sameRevoked]
    exact describes.known

theorem Describes.create {rawKey tier label : String} {salt : Nat} {createdAt : Int}
    {next : SqliteKeyStore} (describes : Describes crypto ops store)
    (run : Machine.exec (step crypto) .new ops = some store)
    (stepped : step crypto store (.create rawKey tier label salt createdAt) = some next) :
    Describes crypto (ops ++ [.create rawKey tier label salt createdAt]) next := by
  cases done : store.createKey crypto rawKey tier label salt createdAt with
  | error reason =>
      simp only [step, done, Option.some.injEq] at stepped
      exact describes.idle run (by simp [created, done]) rfl (by rw [stepped])
  | ok result =>
      obtain ⟨after, entry⟩ := result
      simp only [step, done, Option.some.injEq] at stepped
      subst stepped
      obtain ⟨made, -, fresh, grown⟩ := SqliteKeyStore.createKey_ok done
      have allCreated := createdKeys_concat (.create rawKey tier label salt createdAt) run
      have sameRevoked := revokedIds_concat (.create rawKey tier label salt createdAt) run
      simp only [created, done] at allCreated
      simp only [revoked, List.append_nil] at sameRevoked
      -- A fresh id was never revoked, since only ids of rows are.
      have unmarked : entry.marked (revokedIds crypto ops) = entry := by
        have untouched : entry.id ∉ revokedIds crypto ops :=
          fun member => fresh (describes.known _ member)
        simp only [KeyEntry.marked, untouched, decide_false, ← made.valid]
      refine ⟨?_, ?_, ?_⟩
      · rw [grown, allCreated, sameRevoked, List.map_append, ← describes.rows,
          List.map_singleton, unmarked]
      · rw [allCreated, rawKeys_concat]
        intro pair member
        rcases List.mem_append.mp member with earlier | isNew
        · obtain ⟨madeBefore, used⟩ := describes.made pair earlier
          exact ⟨madeBefore, List.mem_append_left _ used⟩
        · cases List.mem_singleton.mp isNew
          exact ⟨made, List.mem_append_right _ (by simp [rawKeys])⟩
      · rw [sameRevoked, grown, List.map_append]
        intro keyId member
        exact List.mem_append_left _ (describes.known keyId member)

theorem Describes.revoke {keyId : String} (describes : Describes crypto ops store)
    (run : Machine.exec (step crypto) .new ops = some store) :
    Describes crypto (ops ++ [.revoke keyId]) (store.revokeKey keyId).1 := by
  by_cases affected : (store.revokeKey keyId).2 = true
  · have sameCreated := createdKeys_concat (.revoke keyId) run
    have allRevoked := revokedIds_concat (.revoke keyId) run
    simp only [created, List.append_nil] at sameCreated
    simp only [revoked, affected, if_true] at allRevoked
    have sameIds : (store.revokeKey keyId).1.rows.map KeyEntry.id =
        store.rows.map KeyEntry.id := by
      simp [SqliteKeyStore.revokeKey, Function.comp_def]
    refine ⟨?_, ?_, ?_⟩
    · rw [sameCreated, allRevoked]
      simp only [SqliteKeyStore.revokeKey, describes.rows, List.map_map, Function.comp_def,
        revokeRow_marked]
    · rw [sameCreated, rawKeys_concat]
      intro pair member
      obtain ⟨made, used⟩ := describes.made pair member
      exact ⟨made, List.mem_append_left _ used⟩
    · rw [allRevoked, sameIds]
      intro other member
      rcases List.mem_append.mp member with earlier | isNew
      · exact describes.known other earlier
      · rw [List.mem_singleton.mp isNew]
        exact SqliteKeyStore.revokeKey_snd_iff.mp affected
  · have absent : keyId ∉ store.rows.map KeyEntry.id :=
      fun member => affected (SqliteKeyStore.revokeKey_snd_iff.mpr member)
    have unchanged : (store.revokeKey keyId).1.rows = store.rows := by
      refine (List.map_congr_left fun row member => ?_).trans (List.map_id _)
      have other : row.id ≠ keyId := fun same => absent (List.mem_map.mpr ⟨row, member, same⟩)
      simp [SqliteKeyStore.revokeRow, other]
    exact describes.idle run rfl (by simp [revoked, affected]) unchanged

/-- Every history is described by what it created and revoked. -/
theorem describes_of_run (run : Machine.exec (step crypto) .new ops = some store) :
    Describes crypto ops store := by
  refine Machine.exec_history (Describes crypto) ⟨rfl, ?_, ?_⟩ ?_ run
  · intro pair member
    cases member
  · intro keyId member
    cases member
  · intro ops store op next prior describes stepped
    cases op with
    | create rawKey tier label salt createdAt => exact describes.create prior stepped
    | revoke keyId =>
        cases stepped
        exact describes.revoke prior
    | lookup rawKey =>
        cases stepped
        exact describes.idle prior rfl rfl rfl

theorem creates_iff (run : Machine.exec (step crypto) .new ops = some store)
    {rawKey tier : String} :
    Creates crypto ops rawKey tier ↔
      ∃ entry, (rawKey, entry) ∈ createdKeys crypto ops ∧ entry.tier = tier := by
  constructor
  · rintro ⟨before, label, salt, createdAt, after, found, rfl, prior, isOk⟩
    cases done : found.createKey crypto rawKey tier label salt createdAt with
    | error reason => simp [done, Except.isOk, Except.toBool] at isOk
    | ok result =>
        obtain ⟨next, entry⟩ := result
        exact ⟨entry, Machine.mem_trace prior (by simp [created, done]),
          (SqliteKeyStore.createKey_ok done).2.1⟩
  · rintro ⟨entry, member, rfl⟩
    obtain ⟨earlier, later, split⟩ := List.append_of_mem member
    obtain ⟨before, op, after, found, next, left, right, rfl, prior, -, -, shows, -, -⟩ :=
      Machine.trace_split run split
    have shown : (rawKey, entry) ∈ created crypto found op := by simp [shows]
    cases op with
    | create otherKey tier label salt createdAt =>
        cases done : found.createKey crypto otherKey tier label salt createdAt with
        | error reason => simp [created, done] at shown
        | ok result =>
            simp only [created, done, List.mem_singleton] at shown
            cases shown
            obtain ⟨-, sameTier, -⟩ := SqliteKeyStore.createKey_ok done
            exact ⟨before, label, salt, createdAt, after, found, by rw [sameTier], prior,
              by rw [sameTier, done]; rfl⟩
    | revoke keyId => cases shown
    | lookup otherKey => cases shown

theorem mem_revokedIds {keyId : String} (revokes : Revokes crypto ops keyId) :
    keyId ∈ revokedIds crypto ops := by
  obtain ⟨before, after, found, rfl, prior, affected⟩ := revokes
  exact Machine.mem_trace prior (by simp [revoked, affected])

/-- A key is created at most once. -/
theorem Describes.creation_unique (describes : Describes crypto ops store) {rawKey : String}
    {left right : KeyEntry} (isLeft : (rawKey, left) ∈ createdKeys crypto ops)
    (isRight : (rawKey, right) ∈ createdKeys crypto ops) : left = right := by
  have distinct : ((createdKeys crypto ops).map fun pair => pair.2.id).Nodup := by
    have ids := store.primaryKey
    rw [describes.rows, List.map_map] at ids
    exact ids
  have sameId : left.id = right.id :=
    (describes.made _ isLeft).1.id.trans (describes.made _ isRight).1.id.symm
  have same := List.inj_on_of_nodup_map distinct isLeft isRight sameId
  exact (Prod.mk.inj same).2

theorem creates_iff_tier (run : Machine.exec (step crypto) .new ops = some store)
    {rawKey : String} {entry : KeyEntry} (created : (rawKey, entry) ∈ createdKeys crypto ops)
    (given : String) : Creates crypto ops rawKey given ↔ given = entry.tier := by
  rw [creates_iff run]
  constructor
  · rintro ⟨other, isOther, rfl⟩
    rw [(describes_of_run run).creation_unique created isOther]
  · rintro rfl
    exact ⟨entry, created, rfl⟩

theorem Describes.created_of_revoked (describes : Describes crypto ops store)
    {rawKey : String} (collisionless : crypto.Collisionless (rawKey :: rawKeys ops))
    (revoked : SqliteKeyStore.sha256Id crypto rawKey ∈ revokedIds crypto ops) :
    ∃ entry, (rawKey, entry) ∈ createdKeys crypto ops := by
  have isRow := describes.known _ revoked
  rw [describes.rows, List.map_map] at isRow
  obtain ⟨⟨other, entry⟩, created, sameId⟩ := List.mem_map.mp isRow
  obtain ⟨made, used⟩ := describes.made _ created
  have same : other = rawKey := SqliteKeyStore.sha256Id_inj collisionless
    (List.mem_cons_of_mem _ used) List.mem_cons_self (made.id.symm.trans sameId)
  exact ⟨entry, same ▸ created⟩

theorem Describes.find?_eq (describes : Describes crypto ops store) {rawKey : String}
    (collisionless : crypto.Collisionless (rawKey :: rawKeys ops)) :
    store.find? (SqliteKeyStore.sha256Id crypto rawKey) =
      ((createdKeys crypto ops).find? fun pair => pair.1 = rawKey).map
        fun pair => pair.2.marked (revokedIds crypto ops) := by
  rw [SqliteKeyStore.find?, describes.rows, List.find?_map]
  congr 1
  refine List.find?_congr fun pair member => ?_
  obtain ⟨made, used⟩ := describes.made pair member
  have sameId : pair.2.id = SqliteKeyStore.sha256Id crypto rawKey ↔ pair.1 = rawKey := by
    rw [made.id]
    constructor
    · exact SqliteKeyStore.sha256Id_inj collisionless (List.mem_cons_of_mem _ used)
        List.mem_cons_self
    · rintro rfl
      rfl
  simpa [KeyEntry.marked] using sameId

/-- What a lookup finds after a history: the entry of the key's creation, marked
as revoked when its id was. -/
theorem lookup_eq (exact : crypto.Argon2Exact)
    (run : Machine.exec (step crypto) .new ops = some store) {rawKey : String}
    (collisionless : crypto.Collisionless (rawKey :: rawKeys ops)) :
    store.lookup crypto rawKey =
      .ok (((createdKeys crypto ops).find? fun pair => pair.1 = rawKey).map
        fun pair => pair.2.marked (revokedIds crypto ops)) := by
  have describes := describes_of_run run
  have isRow := describes.find?_eq collisionless
  cases isCreated : (createdKeys crypto ops).find? fun pair => pair.1 = rawKey with
  | none =>
      rw [isCreated, Option.map_none] at isRow
      simp [SqliteKeyStore.lookup, isRow, pure, Except.pure]
  | some pair =>
      rw [isCreated, Option.map_some] at isRow
      obtain rfl : pair.1 = rawKey := by simpa using List.find?_some isCreated
      obtain ⟨made, -⟩ := describes.made pair (List.mem_of_find?_eq_some isCreated)
      obtain ⟨salt, hashed⟩ := made.hash
      exact SqliteKeyStore.lookup_of_find? exact isRow hashed

theorem lookup_of_created (exact : crypto.Argon2Exact)
    (run : Machine.exec (step crypto) .new ops = some store) {rawKey : String}
    (collisionless : crypto.Collisionless (rawKey :: rawKeys ops)) {entry : KeyEntry}
    (created : (rawKey, entry) ∈ createdKeys crypto ops) :
    store.lookup crypto rawKey = .ok (some (entry.marked (revokedIds crypto ops))) := by
  rw [lookup_eq exact run collisionless]
  cases isFirst : (createdKeys crypto ops).find? fun pair => pair.1 = rawKey with
  | none =>
      have absent := List.find?_eq_none.mp isFirst _ created
      simp at absent
  | some pair =>
      obtain ⟨firstKey, first⟩ := pair
      obtain rfl : firstKey = rawKey := by simpa using List.find?_some isFirst
      rw [(describes_of_run run).creation_unique (List.mem_of_find?_eq_some isFirst) created]
      rfl

theorem lookup_of_unknown (exact : crypto.Argon2Exact)
    (run : Machine.exec (step crypto) .new ops = some store) {rawKey : String}
    (collisionless : crypto.Collisionless (rawKey :: rawKeys ops))
    (unknown : ∀ entry, (rawKey, entry) ∉ createdKeys crypto ops) :
    store.lookup crypto rawKey = .ok none := by
  have absent : ((createdKeys crypto ops).find? fun pair => pair.1 = rawKey) = none := by
    refine List.find?_eq_none.mpr fun pair member same => ?_
    obtain rfl : pair.1 = rawKey := by simpa using same
    exact unknown pair.2 member
  rw [lookup_eq exact run collisionless, absent, Option.map_none]

end KeyOp

end SorobanGate
