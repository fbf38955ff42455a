import SorobanGate.Server.Auth

/-!
# The key store as a map

Abstractly the key store is a finite map from keys to what was said when they were
created.  The table knows neither the keys nor an order of operations: it is keyed by
digests and finds a key by verifying a hash.  The two are related by a simulation, so
that every operation answers as the map does.
-/

namespace SorobanGate

/-! ## Listing and answers -/

/-- The order in which the database reads the rows of the table. -/
structure RowOrder where
  scan : List KeyEntry → List KeyEntry
  complete : ∀ rows, (scan rows).Perm rows

/-- `ORDER BY created_at DESC`: rows with one time come as they are read. -/
def SqliteKeyStore.listKeys (store : SqliteKeyStore) (order : RowOrder) : List KeyEntry :=
  (order.scan store.rows).mergeSort fun left right => right.createdAt ≤ left.createdAt

/-- An operation of the trait `KeyStore`. -/
inductive KeyCall where
  | op (operation : KeyOp)
  | list (order : RowOrder)

/-- What an operation returns. -/
inductive KeyAnswer where
  | created (result : Except String KeyEntry)
  | revoked (affected : Bool)
  | found (result : Except String (Option KeyEntry))
  | listed (entries : List KeyEntry)

namespace KeyCall

variable (crypto : KeyCrypto)

/-- Listing the keys changes nothing. -/
def step (store : SqliteKeyStore) : KeyCall → Option SqliteKeyStore
  | .op operation => operation.step crypto store
  | .list _ => some store

def answer (store : SqliteKeyStore) : KeyCall → KeyAnswer
  | .op (.create rawKey tier label salt createdAt) =>
      .created ((store.createKey crypto rawKey tier label salt createdAt).map Prod.snd)
  | .op (.revoke keyId) => .revoked (store.revokeKey keyId).2
  | .op (.lookup rawKey) => .found (store.lookup crypto rawKey)
  | .list order => .listed (store.listKeys order)

/-- The key that an operation is given. -/
def rawKey? : KeyCall → Option String
  | .op (.create rawKey _ _ _ _) => some rawKey
  | .op (.lookup rawKey) => some rawKey
  | _ => none

/-- The operation is a creation of the key. -/
def creates (rawKey : String) : KeyCall → Bool
  | .op (.create other _ _ _ _) => other = rawKey
  | _ => false

/-- The operation is a revocation of the id. -/
def revokes (keyId : String) : KeyCall → Bool
  | .op (.revoke other) => other = keyId
  | _ => false

end KeyCall

/-! ## The map -/

/-- What the map holds of a key. -/
structure KeyRecord where
  tier : String
  label : String
  createdAt : Int
  isRevoked : Bool
  deriving DecidableEq, Repr

def KeyEntry.record (entry : KeyEntry) : KeyRecord :=
  ⟨entry.tier, entry.label, entry.createdAt, entry.isRevoked⟩

def KeyMap := String → Option KeyRecord

namespace KeyMap

variable (idOf : String → String)

def empty : KeyMap := fun _ => none

/-- A key that is present stays as it is. -/
def create (map : KeyMap) (rawKey : String) (record : KeyRecord) : KeyMap := fun other =>
  if other = rawKey then (map rawKey).orElse fun _ => some record else map other

def revoke (map : KeyMap) (keyId : String) : KeyMap := fun rawKey =>
  if idOf rawKey = keyId then (map rawKey).map fun record => { record with isRevoked := true }
  else map rawKey

def next (map : KeyMap) : KeyCall → KeyMap
  | .op (.create rawKey tier label _ createdAt) =>
      map.create rawKey ⟨tier, label, createdAt, false⟩
  | .op (.revoke keyId) => map.revoke idOf keyId
  | _ => map

/-- The map after a history. -/
def after (calls : List KeyCall) : KeyMap := calls.foldl (next idOf) empty

/-- What the map makes of an operation. -/
def Answers (map : KeyMap) : KeyCall → KeyAnswer → Prop
  | .op (.create rawKey tier label _ createdAt), .created (.ok entry) =>
      map rawKey = none ∧ entry.id = idOf rawKey ∧
        entry.record = ⟨tier, label, createdAt, false⟩
  | .op (.create rawKey _ _ _ _), .created (.error _) => map rawKey ≠ none
  | .op (.revoke keyId), .revoked affected =>
      affected = true ↔ ∃ rawKey, map rawKey ≠ none ∧ idOf rawKey = keyId
  | .op (.lookup rawKey), .found (.ok found) =>
      found.map (fun entry => (entry.id, entry.record)) =
        (map rawKey).map fun record => (idOf rawKey, record)
  | .list _, .listed entries =>
      entries.Pairwise (fun earlier later => later.createdAt ≤ earlier.createdAt) ∧
      (entries.map KeyEntry.id).Nodup ∧
      ∀ keyId record, (∃ entry ∈ entries, entry.id = keyId ∧ entry.record = record) ↔
        ∃ rawKey, idOf rawKey = keyId ∧ map rawKey = some record
  | _, _ => False

theorem create_of_present {map : KeyMap} {rawKey : String} (present : map rawKey ≠ none)
    (record : KeyRecord) : map.create rawKey record = map := by
  obtain ⟨before, isBefore⟩ := Option.ne_none_iff_exists'.mp present
  funext other
  by_cases same : other = rawKey
  · subst same
    simp [create, isBefore]
  · simp [create, same]

/-! ## What the map holds after a history -/

section History

variable {idOf} {map : KeyMap} {rawKey : String} {record : KeyRecord} {call : KeyCall}

theorem next_of_absent (absent : map rawKey = none) (other : call.creates rawKey = false) :
    map.next idOf call rawKey = none := by
  cases call with
  | list order => exact absent
  | op operation =>
      cases operation with
      | create otherKey tier label salt createdAt =>
          have different : rawKey ≠ otherKey := by
            rintro rfl
            simp [KeyCall.creates] at other
          simp [next, create, different, absent]
      | revoke keyId =>
          simp only [next, revoke, absent]
          split <;> rfl
      | lookup otherKey => exact absent

theorem next_of_present (present : map rawKey = some record) :
    map.next idOf call rawKey =
      some { record with isRevoked := record.isRevoked || call.revokes (idOf rawKey) } := by
  cases call with
  | list order => simp [next, present, KeyCall.revokes]
  | op operation =>
      cases operation with
      | create otherKey tier label salt createdAt =>
          by_cases same : rawKey = otherKey
          · subst same
            simp [next, create, present, KeyCall.revokes]
          · simp [next, create, present, same, KeyCall.revokes]
      | revoke keyId =>
          by_cases same : idOf rawKey = keyId
          · simp [next, revoke, present, same, KeyCall.revokes]
          · simp [next, revoke, present, same, Ne.symm same, KeyCall.revokes]
      | lookup otherKey => simp [next, present, KeyCall.revokes]

variable {calls : List KeyCall}

theorem foldl_of_absent (absent : map rawKey = none)
    (never : ∀ call ∈ calls, call.creates rawKey = false) :
    calls.foldl (next idOf) map rawKey = none := by
  induction calls generalizing map with
  | nil => exact absent
  | cons call calls ih =>
      rw [List.foldl_cons]
      exact ih (next_of_absent absent (never call List.mem_cons_self))
        fun later member => never later (List.mem_cons_of_mem _ member)

theorem foldl_of_present (present : map rawKey = some record) :
    calls.foldl (next idOf) map rawKey =
      some { record with
        isRevoked := record.isRevoked || calls.any (KeyCall.revokes (idOf rawKey)) } := by
  induction calls generalizing map record with
  | nil => simpa using present
  | cons call calls ih =>
      rw [List.foldl_cons, ih (next_of_present present), List.any_cons]
      simp only [Bool.or_assoc]

theorem after_of_never (never : ∀ call ∈ calls, call.creates rawKey = false) :
    after idOf calls rawKey = none :=
  foldl_of_absent rfl never

/-- A key is in the map as it was created first, revoked when its id was revoked later. -/
theorem after_of_created {before later : List KeyCall} {tier label : String} {salt : Nat}
    {createdAt : Int} (first : ∀ call ∈ before, call.creates rawKey = false) :
    after idOf (before ++ .op (.create rawKey tier label salt createdAt) :: later) rawKey =
      some ⟨tier, label, createdAt, later.any (KeyCall.revokes (idOf rawKey))⟩ := by
  have absent : before.foldl (next idOf) empty rawKey = none := foldl_of_absent rfl first
  have created : next idOf (before.foldl (next idOf) empty)
      (.op (.create rawKey tier label salt createdAt)) rawKey =
        some ⟨tier, label, createdAt, false⟩ := by
    simp [next, create, absent]
  rw [after, List.foldl_append, List.foldl_cons, foldl_of_present created, Bool.false_or]

end History

end KeyMap

/-! ## The table represents the map -/

/-- The row was made for the key. -/
structure KeyEntry.FiledUnder (crypto : KeyCrypto) (rawKey : String) (row : KeyEntry) :
    Prop where
  id : row.id = SqliteKeyStore.sha256Id crypto rawKey
  hash : ∃ salt, crypto.hashPassword (asBytes rawKey) salt = .ok row.keyHash

/-- The simulation relation; the keys of the map are among those that SHA-256 tells apart. -/
structure Represents (crypto : KeyCrypto) (keys : List String) (store : SqliteKeyStore)
    (map : KeyMap) : Prop where
  used : ∀ rawKey record, map rawKey = some record → rawKey ∈ keys
  rowOf : ∀ rawKey record, map rawKey = some record →
    ∃ row ∈ store.rows, row.record = record ∧ row.FiledUnder crypto rawKey
  keyOf : ∀ row ∈ store.rows,
    ∃ rawKey, map rawKey = some row.record ∧ row.FiledUnder crypto rawKey

/-- Hashing succeeds on some keys, whatever the salt. -/
def KeyCrypto.Hashes (crypto : KeyCrypto) (keys : List String) : Prop :=
  ∀ rawKey ∈ keys, ∀ salt, ∃ hash, crypto.hashPassword (asBytes rawKey) salt = .ok hash

/-- A creation whose hashing succeeds adds its row, or finds the id taken. -/
theorem SqliteKeyStore.createKey_cases {crypto : KeyCrypto} {rawKey keyHash : String}
    {salt : Nat} (hashed : crypto.hashPassword (asBytes rawKey) salt = .ok keyHash)
    (store : SqliteKeyStore) (tier label : String) (createdAt : Int) :
    (sha256Id crypto rawKey ∈ store.rows.map KeyEntry.id ∧
      ∃ reason, store.createKey crypto rawKey tier label salt createdAt = .error reason) ∨
    (sha256Id crypto rawKey ∉ store.rows.map KeyEntry.id ∧
      ∃ grown, store.createKey crypto rawKey tier label salt createdAt =
          .ok (grown, ⟨sha256Id crypto rawKey, keyHash, tier, label, false, createdAt⟩) ∧
        grown.rows =
          store.rows ++ [⟨sha256Id crypto rawKey, keyHash, tier, label, false, createdAt⟩]) := by
  unfold createKey hashKey
  simp only [hashed, Except.mapError, bind, Except.bind, insert, pure, Except.pure]
  by_cases taken : sha256Id crypto rawKey ∈ store.rows.map KeyEntry.id
  · exact Or.inl ⟨taken, _, by rw [dif_neg (not_not.mpr taken)]⟩
  · exact Or.inr ⟨taken, _, by rw [dif_pos taken], rfl⟩

namespace Represents

variable {crypto : KeyCrypto} {keys : List String} {store : SqliteKeyStore} {map : KeyMap}
  {rawKey : String}

theorem new : Represents crypto keys .new .empty where
  used _ _ present := by cases present
  rowOf _ _ present := by cases present
  keyOf _ member := by cases member

theorem filedUnder_of_id (represents : Represents crypto keys store map)
    (collisionless : crypto.Collisionless keys) (isKey : rawKey ∈ keys) {row : KeyEntry}
    (isRow : row ∈ store.rows) (sameId : row.id = SqliteKeyStore.sha256Id crypto rawKey) :
    map rawKey = some row.record ∧ row.FiledUnder crypto rawKey := by
  obtain ⟨other, present, filed⟩ := represents.keyOf row isRow
  obtain rfl : other = rawKey := SqliteKeyStore.sha256Id_inj collisionless
    (represents.used _ _ present) isKey (filed.id.symm.trans sameId)
  exact ⟨present, filed⟩

theorem id_taken_iff (represents : Represents crypto keys store map)
    (collisionless : crypto.Collisionless keys) (isKey : rawKey ∈ keys) :
    SqliteKeyStore.sha256Id crypto rawKey ∈ store.rows.map KeyEntry.id ↔
      map rawKey ≠ none := by
  constructor
  · intro taken
    obtain ⟨row, isRow, sameId⟩ := List.mem_map.mp taken
    rw [(represents.filedUnder_of_id collisionless isKey isRow sameId).1]
    simp
  · intro present
    obtain ⟨record, present⟩ := Option.ne_none_iff_exists'.mp present
    obtain ⟨row, isRow, -, filed⟩ := represents.rowOf rawKey record present
    exact List.mem_map.mpr ⟨row, isRow, filed.id⟩

/-! ### The operations keep the relation -/

theorem create (represents : Represents crypto keys store map) (isKey : rawKey ∈ keys)
    (absent : map rawKey = none) {entry : KeyEntry} (filed : entry.FiledUnder crypto rawKey)
    {grown : SqliteKeyStore} (added : grown.rows = store.rows ++ [entry]) :
    Represents crypto keys grown (map.create rawKey entry.record) := by
  have others : ∀ other record, map other = some record →
      map.create rawKey entry.record other = some record := by
    intro other record present
    have different : other ≠ rawKey := by
      rintro rfl
      rw [absent] at present
      cases present
    simp [KeyMap.create, different, present]
  have isNew : map.create rawKey entry.record rawKey = some entry.record := by
    simp [KeyMap.create, absent]
  refine ⟨?_, ?_, ?_⟩
  · intro other record present
    by_cases same : other = rawKey
    · exact same ▸ isKey
    · exact represents.used other record (by simpa [KeyMap.create, same] using present)
  · intro other record present
    rw [added]
    by_cases same : other = rawKey
    · subst same
      rw [isNew] at present
      exact ⟨entry, by simp, Option.some.inj present, filed⟩
    · obtain ⟨row, isRow, isRecord, filedBefore⟩ :=
        represents.rowOf other record (by simpa [KeyMap.create, same] using present)
      exact ⟨row, List.mem_append_left _ isRow, isRecord, filedBefore⟩
  · intro row isRow
    rw [added] at isRow
    rcases List.mem_append.mp isRow with earlier | isLast
    · obtain ⟨other, present, filedBefore⟩ := represents.keyOf row earlier
      exact ⟨other, others other _ present, filedBefore⟩
    · obtain rfl := List.mem_singleton.mp isLast
      exact ⟨rawKey, isNew, filed⟩

theorem revoke_row {row : KeyEntry} (present : map rawKey = some row.record)
    (filed : row.FiledUnder crypto rawKey) (keyId : String) :
    map.revoke (SqliteKeyStore.sha256Id crypto) keyId rawKey =
        some (SqliteKeyStore.revokeRow keyId row).record ∧
      (SqliteKeyStore.revokeRow keyId row).FiledUnder crypto rawKey := by
  unfold SqliteKeyStore.revokeRow
  rw [KeyMap.revoke, ← filed.id]
  split
  · exact ⟨by rw [present]; rfl, filed.id, filed.hash⟩
  · exact ⟨present, filed⟩

theorem revoke (represents : Represents crypto keys store map) (keyId : String) :
    Represents crypto keys (store.revokeKey keyId).1
      (map.revoke (SqliteKeyStore.sha256Id crypto) keyId) := by
  have wasPresent : ∀ rawKey record,
      map.revoke (SqliteKeyStore.sha256Id crypto) keyId rawKey = some record →
      ∃ before, map rawKey = some before := by
    intro rawKey record present
    cases absent : map rawKey with
    | none => simp [KeyMap.revoke, absent] at present
    | some before => exact ⟨before, rfl⟩
  refine ⟨?_, ?_, ?_⟩
  · intro rawKey record present
    obtain ⟨before, isBefore⟩ := wasPresent rawKey record present
    exact represents.used rawKey before isBefore
  · intro rawKey record present
    obtain ⟨before, isBefore⟩ := wasPresent rawKey record present
    obtain ⟨row, isRow, rfl, filed⟩ := represents.rowOf rawKey before isBefore
    obtain ⟨isRecord, filedAfter⟩ := revoke_row isBefore filed keyId
    refine ⟨_, List.mem_map_of_mem isRow, ?_, filedAfter⟩
    exact Option.some.inj (isRecord.symm.trans present)
  · intro row isRow
    obtain ⟨before, wasRow, rfl⟩ := List.mem_map.mp isRow
    obtain ⟨rawKey, present, filed⟩ := represents.keyOf before wasRow
    exact ⟨rawKey, revoke_row present filed keyId⟩

/-- Every operation on keys that SHA-256 tells apart and that can be hashed keeps the
relation. -/
theorem step (collisionless : crypto.Collisionless keys) (hashes : crypto.Hashes keys)
    (represents : Represents crypto keys store map) {call : KeyCall}
    (used : ∀ rawKey, call.rawKey? = some rawKey → rawKey ∈ keys) {after : SqliteKeyStore}
    (stepped : call.step crypto store = some after) :
    Represents crypto keys after (map.next (SqliteKeyStore.sha256Id crypto) call) := by
  cases call with
  | list order =>
      cases stepped
      exact represents
  | op operation =>
      cases operation with
      | create rawKey tier label salt createdAt =>
          have isKey := used rawKey rfl
          obtain ⟨keyHash, hashed⟩ := hashes rawKey isKey salt
          simp only [KeyCall.step, KeyOp.step] at stepped
          rcases store.createKey_cases hashed tier label createdAt with
            ⟨taken, reason, refused⟩ | ⟨fresh, grown, done, added⟩
          · rw [refused] at stepped
            cases stepped
            have present := (represents.id_taken_iff collisionless isKey).mp taken
            rw [KeyMap.next, KeyMap.create_of_present present]
            exact represents
          · rw [done] at stepped
            cases stepped
            rw [represents.id_taken_iff collisionless isKey, not_not] at fresh
            exact represents.create isKey fresh ⟨rfl, salt, hashed⟩ added
      | revoke keyId =>
          cases stepped
          exact represents.revoke keyId
      | lookup rawKey =>
          cases stepped
          exact represents

/-! ### The operations answer as the map does -/

theorem lookup (exact : crypto.Argon2Exact) (collisionless : crypto.Collisionless keys)
    (represents : Represents crypto keys store map) (isKey : rawKey ∈ keys) :
    ∃ found, store.lookup crypto rawKey = .ok found ∧
      found.map (fun entry => (entry.id, entry.record)) =
        (map rawKey).map fun record => (SqliteKeyStore.sha256Id crypto rawKey, record) := by
  cases isFirst : store.find? (SqliteKeyStore.sha256Id crypto rawKey) with
  | none =>
      have absent : map rawKey = none := by
        by_contra present
        have taken := (represents.id_taken_iff collisionless isKey).mpr present
        obtain ⟨row, isRow, sameId⟩ := List.mem_map.mp taken
        simpa [sameId] using List.find?_eq_none.mp isFirst row isRow
      refine ⟨none, ?_, by rw [absent]; rfl⟩
      simp [SqliteKeyStore.lookup, isFirst, pure, Except.pure]
  | some row =>
      have sameId : row.id = SqliteKeyStore.sha256Id crypto rawKey := by
        simpa using List.find?_some isFirst
      obtain ⟨present, filed⟩ := represents.filedUnder_of_id collisionless isKey
        (List.mem_of_find?_eq_some isFirst) sameId
      obtain ⟨salt, hashed⟩ := filed.hash
      refine ⟨some row, SqliteKeyStore.lookup_of_find? exact isFirst hashed, ?_⟩
      rw [present, Option.map_some, Option.map_some, sameId]

theorem revoked_iff (represents : Represents crypto keys store map) (keyId : String) :
    (store.revokeKey keyId).2 = true ↔
      ∃ rawKey, map rawKey ≠ none ∧ SqliteKeyStore.sha256Id crypto rawKey = keyId := by
  rw [SqliteKeyStore.revokeKey_snd_iff, List.mem_map]
  constructor
  · rintro ⟨row, isRow, rfl⟩
    obtain ⟨rawKey, present, filed⟩ := represents.keyOf row isRow
    exact ⟨rawKey, by simp [present], filed.id.symm⟩
  · rintro ⟨rawKey, present, rfl⟩
    obtain ⟨record, isRecord⟩ := Option.ne_none_iff_exists'.mp present
    obtain ⟨row, isRow, -, filed⟩ := represents.rowOf rawKey record isRecord
    exact ⟨row, isRow, filed.id⟩

theorem listed (represents : Represents crypto keys store map) (order : RowOrder) :
    map.Answers (SqliteKeyStore.sha256Id crypto) (.list order)
      (.listed (store.listKeys order)) := by
  have isPerm : (store.listKeys order).Perm store.rows :=
    (List.mergeSort_perm _ _).trans (order.complete store.rows)
  refine ⟨?_, ?_, ?_⟩
  · have sorted : (store.listKeys order).Pairwise fun left right =>
        decide (right.createdAt ≤ left.createdAt) = true := by
      refine List.pairwise_mergeSort ?_ ?_ _
      · intro first second third
        simp only [decide_eq_true_eq]
        omega
      · intro first second
        simp only [Bool.or_eq_true, decide_eq_true_eq]
        omega
    simpa using sorted
  · exact (isPerm.map KeyEntry.id).nodup_iff.mpr store.primaryKey
  · intro keyId record
    constructor
    · rintro ⟨entry, isEntry, rfl, rfl⟩
      obtain ⟨rawKey, present, filed⟩ := represents.keyOf entry (isPerm.mem_iff.mp isEntry)
      exact ⟨rawKey, filed.id.symm, present⟩
    · rintro ⟨rawKey, rfl, present⟩
      obtain ⟨row, isRow, isRecord, filed⟩ := represents.rowOf rawKey record present
      exact ⟨row, isPerm.mem_iff.mpr isRow, filed.id, isRecord⟩

theorem answers (exact : crypto.Argon2Exact) (collisionless : crypto.Collisionless keys)
    (hashes : crypto.Hashes keys) (represents : Represents crypto keys store map)
    {call : KeyCall} (used : ∀ rawKey, call.rawKey? = some rawKey → rawKey ∈ keys) :
    map.Answers (SqliteKeyStore.sha256Id crypto) call (call.answer crypto store) := by
  cases call with
  | list order => exact represents.listed order
  | op operation =>
      cases operation with
      | create rawKey tier label salt createdAt =>
          have isKey := used rawKey rfl
          obtain ⟨keyHash, hashed⟩ := hashes rawKey isKey salt
          simp only [KeyCall.answer]
          rcases store.createKey_cases hashed tier label createdAt with
            ⟨taken, reason, refused⟩ | ⟨fresh, grown, done, -⟩
          · rw [refused]
            exact (represents.id_taken_iff collisionless isKey).mp taken
          · rw [done]
            rw [represents.id_taken_iff collisionless isKey, not_not] at fresh
            exact ⟨fresh, rfl, rfl⟩
      | revoke keyId => exact represents.revoked_iff keyId
      | lookup rawKey =>
          obtain ⟨found, isFound, agrees⟩ := represents.lookup exact collisionless
            (used rawKey rfl)
          simp only [KeyCall.answer, isFound]
          exact agrees

end Represents

/-! ## Refinement -/

namespace SqliteKeyStore

variable {store grown : SqliteKeyStore}

theorem find?_of_added {entry : KeyEntry} (added : grown.rows = store.rows ++ [entry])
    {keyId : String} (other : entry.id ≠ keyId) : grown.find? keyId = store.find? keyId := by
  simp [find?, added, List.find?_append, other]

theorem find?_revokeKey {revoked keyId : String} (other : revoked ≠ keyId) :
    (store.revokeKey revoked).1.find? keyId = store.find? keyId := by
  have sameTest : ((fun row : KeyEntry => decide (row.id = keyId)) ∘ revokeRow revoked) =
      fun row => decide (row.id = keyId) := by
    funext row
    simp
  rw [find?, revokeKey, List.find?_map, sameTest, find?]
  cases isFirst : store.rows.find? fun row => decide (row.id = keyId) with
  | none => rfl
  | some row =>
      have sameId : row.id = keyId := by simpa using List.find?_some isFirst
      have different : row.id ≠ revoked := fun same => other (same.symm.trans sameId)
      simp [revokeRow, different]

end SqliteKeyStore

namespace KeyCall

/-- The keys of a history. -/
def rawKeys (calls : List KeyCall) : List String := calls.filterMap rawKey?

/-- An operation changes at most the row of the id it revokes, or adds the row of the key
it creates. -/
theorem find?_step {crypto : KeyCrypto} {store after : SqliteKeyStore} {call : KeyCall}
    (stepped : call.step crypto store = some after) (keyId : String) :
    after.find? keyId = store.find? keyId ∨ call.revokes keyId = true ∨
      ∃ rawKey, call.creates rawKey = true ∧
        SqliteKeyStore.sha256Id crypto rawKey = keyId ∧
        ∃ entry, call.answer crypto store = .created (.ok entry) := by
  cases call with
  | list order =>
      cases stepped
      exact Or.inl rfl
  | op operation =>
      cases operation with
      | create rawKey tier label salt createdAt =>
          simp only [step, KeyOp.step] at stepped
          cases done : store.createKey crypto rawKey tier label salt createdAt with
          | error reason =>
              rw [done] at stepped
              cases stepped
              exact Or.inl rfl
          | ok result =>
              obtain ⟨grown, entry⟩ := result
              rw [done] at stepped
              cases stepped
              obtain ⟨made, -, -, added⟩ := SqliteKeyStore.createKey_ok done
              by_cases same : entry.id = keyId
              · refine Or.inr (Or.inr ⟨rawKey, by simp [creates], made.id ▸ same, entry, ?_⟩)
                simp [answer, done, Except.map]
              · exact Or.inl (SqliteKeyStore.find?_of_added added same)
      | revoke revoked =>
          cases stepped
          by_cases same : revoked = keyId
          · exact Or.inr (Or.inl (by simp [revokes, same]))
          · exact Or.inl (SqliteKeyStore.find?_revokeKey same)
      | lookup rawKey =>
          cases stepped
          exact Or.inl rfl

theorem isSome_step (crypto : KeyCrypto) (store : SqliteKeyStore) (call : KeyCall) :
    (call.step crypto store).isSome := by
  cases call with
  | list order => rfl
  | op operation => exact KeyOp.isSome_step crypto store operation

end KeyCall

variable {crypto : KeyCrypto}

/-- The key store refines a map.  After every history of operations the next operation
answers as the map does, and changes no row but the one it names.  The map holds a key
as it was first created, revoked when its id was revoked since, and no other key. -/
theorem keyStore_refines_map (exact : crypto.Argon2Exact) {calls : List KeyCall}
    {call : KeyCall} (hashes : crypto.Hashes (KeyCall.rawKeys (calls ++ [call])))
    (collisionless : crypto.Collisionless (KeyCall.rawKeys (calls ++ [call]))) :
    ∃ store after,
      Machine.exec (KeyCall.step crypto) .new calls = some store ∧
      call.step crypto store = some after ∧
      (KeyMap.after (SqliteKeyStore.sha256Id crypto) calls).Answers
        (SqliteKeyStore.sha256Id crypto) call (call.answer crypto store) ∧
      (∀ keyId, after.find? keyId = store.find? keyId ∨ call.revokes keyId = true ∨
        ∃ rawKey, call.creates rawKey = true ∧
          SqliteKeyStore.sha256Id crypto rawKey = keyId ∧
          ∃ entry, call.answer crypto store = .created (.ok entry)) ∧
      (∀ rawKey, (∀ earlier ∈ calls, earlier.creates rawKey = false) →
        KeyMap.after (SqliteKeyStore.sha256Id crypto) calls rawKey = none) ∧
      ∀ before rawKey tier label salt createdAt later,
        calls = before ++ .op (.create rawKey tier label salt createdAt) :: later →
        (∀ earlier ∈ before, earlier.creates rawKey = false) →
        KeyMap.after (SqliteKeyStore.sha256Id crypto) calls rawKey =
          some ⟨tier, label, createdAt,
            later.any (KeyCall.revokes (SqliteKeyStore.sha256Id crypto rawKey))⟩ := by
  have used : ∀ member ∈ calls ++ [call], ∀ rawKey, member.rawKey? = some rawKey →
      rawKey ∈ KeyCall.rawKeys (calls ++ [call]) :=
    fun member isMember rawKey isKey => List.mem_filterMap.mpr ⟨member, isMember, isKey⟩
  obtain ⟨store, run⟩ :
      ∃ store, Machine.exec (KeyCall.step crypto) .new calls = some store := by
    refine Machine.exec_total (fun member _ state => ?_) _
    exact Option.isSome_iff_exists.mp (member.isSome_step crypto state)
  obtain ⟨after, stepped⟩ := Option.isSome_iff_exists.mp (call.isSome_step crypto store)
  have represents : Represents crypto (KeyCall.rawKeys (calls ++ [call])) store
      (KeyMap.after (SqliteKeyStore.sha256Id crypto) calls) :=
    Machine.exec_simulation (Represents crypto (KeyCall.rawKeys (calls ++ [call])))
      (fun _ _ _ _ permitted related stepped =>
        related.step collisionless hashes permitted stepped)
      (fun member isMember => used member (List.mem_append_left _ isMember)) .new run
  refine ⟨store, after, run, stepped, ?_, KeyCall.find?_step stepped, ?_, ?_⟩
  · exact represents.answers exact collisionless hashes (used call (by simp))
  · exact fun rawKey never => KeyMap.after_of_never never
  · rintro before rawKey tier label salt createdAt later rfl first
    exact KeyMap.after_of_created first

/-- A key that was revoked and created again in vain is found as it was first created. -/
theorem keyStore_refines_map_recreated :
    ∃ store entry,
      Machine.exec (KeyCall.step smallBackend.crypto) .new (recreated.map .op) = some store ∧
      store.lookup smallBackend.crypto "sk_test_list_1" = .ok (some entry) ∧
      entry.record = ⟨"tier1", "key 1", 0, true⟩ := by
  obtain ⟨store, after, run, -, answers, -, -, created⟩ :=
    @keyStore_refines_map smallBackend.crypto smallBackend_argon2Exact (recreated.map .op)
      (.op (.lookup "sk_test_list_1")) (fun _ _ _ => ⟨_, rfl⟩) (by decide +kernel)
  have present := created [] _ _ _ _ _ _ rfl (by simp)
  simp only [KeyCall.answer] at answers
  cases found : store.lookup smallBackend.crypto "sk_test_list_1" with
  | error reason => simp [found, KeyMap.Answers] at answers
  | ok isFound =>
      simp only [found, KeyMap.Answers] at answers
      rw [present] at answers
      obtain ⟨entry, rfl, same⟩ := Option.map_eq_some_iff.mp answers
      refine ⟨store, entry, run, found, (Prod.mk.inj same).2.trans ?_⟩
      decide +kernel

end SorobanGate
