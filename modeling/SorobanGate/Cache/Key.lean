import SorobanGate.Library.JsonEquiv
import SorobanGate.Routing
import Mathlib.Data.Set.Operations

/-!
# Cache keys and lifetimes

A body is cached under the digest of its canonical form: the parsed tree without
its `id` and `jsonrpc` members.  How long it is kept depends on its method.
-/

namespace SorobanGate

structure TtlTable where
  rules : HashMap String UInt64

namespace TtlTable

def new (rules : List CacheRule) : TtlTable where
  rules := methodTable CacheRule.methods CacheRule.ttlSecs rules

def ttlFor (table : TtlTable) (method : String) : Duration :=
  match table.rules.lookup method with
  | none => 0
  | some secs => if secs = 0 then 0 else .fromSecs secs.toNat

/-- A method is kept for the lifetime of the last rule that names it; without a
rule, or with a lifetime of zero there, it is not kept. -/
theorem ttlFor_new (rules : List CacheRule) (method : String) :
    (new rules).ttlFor method =
      match rules.reverse.find? fun rule => method ∈ rule.methods with
      | none => 0
      | some rule => .fromSecs rule.ttlSecs.toNat := by
  unfold ttlFor new
  rw [lookup_methodTable]
  cases rules.reverse.find? fun rule => method ∈ rule.methods with
  | none => rfl
  | some rule =>
      simp only [Option.map_some]
      split
      next zero => simp [zero, Duration.fromSecs]
      · rfl

end TtlTable

namespace Codec

variable (codec : Codec)

/-- The tree that the cache key is computed from. -/
def canonical (body : Bytes) : Json :=
  ((codec.fromSlice body).getD .null |>.remove "id").remove "jsonrpc"

/-- `compute_cache_key`.  Printing a tree never fails, so the fallback of the
source is not taken. -/
def computeCacheKey (body : Bytes) : Bytes := codec.sha256 (codec.canonical body).toBytes

variable {codec}

theorem canonical_of_fromSlice {body : Bytes} {value : Json}
    (parsed : codec.fromSlice body = some value) :
    codec.canonical body = (value.remove "id").remove "jsonrpc" := by
  simp only [canonical, parsed, Option.getD_some]

theorem canonical_get_method (body : Bytes) :
    (codec.canonical body).get "method" = (codec.fromSlice body).bind (·.get "method") := by
  unfold canonical
  rw [Json.get_remove_of_ne (by decide), Json.get_remove_of_ne (by decide)]
  cases codec.fromSlice body <;> rfl

theorem extractJsonRpcMethod_congr {left right : Bytes}
    (same : codec.canonical left = codec.canonical right) :
    extractJsonRpcMethod codec left = extractJsonRpcMethod codec right := by
  have methods : ∀ body, extractJsonRpcMethod codec body =
      ((codec.canonical body).get "method").bind Json.asStr := by
    intro body
    rw [canonical_get_method]
    unfold extractJsonRpcMethod
    cases codec.fromSlice body <;> rfl
  rw [methods, methods, same]

/-- Two bodies with one canonical form that agree on the members it leaves out
spell the same tree. -/
theorem fromSlice_eq_of_canonical_eq {left right : Bytes} {leftTree rightTree : Json}
    (leftParsed : codec.fromSlice left = some leftTree)
    (rightParsed : codec.fromSlice right = some rightTree)
    (same : codec.canonical left = codec.canonical right)
    (sameId : leftTree.get "id" = rightTree.get "id")
    (sameVersion : leftTree.get "jsonrpc" = rightTree.get "jsonrpc") :
    leftTree = rightTree := by
  rw [canonical_of_fromSlice leftParsed, canonical_of_fromSlice rightParsed] at same
  obtain ⟨leftRaw, -, leftNormal⟩ := Option.map_eq_some_iff.mp leftParsed
  obtain ⟨rightRaw, -, rightNormal⟩ := Option.map_eq_some_iff.mp rightParsed
  cases leftTree with
  | object leftMembers =>
      cases rightTree with
      | object rightMembers =>
          rw [Json.eq_of_remove_eq (Json.normalize_sorted leftNormal)
            (Json.normalize_sorted rightNormal) same sameId sameVersion]
      | _ => simp [Json.remove] at same
  | _ => cases rightTree <;> simp_all [Json.remove]

/-- A body that names a method spells a tree, whose normal form without two members is
the canonical form. -/
theorem exists_tree_of_method {body : Bytes} {method : String}
    (accepted : extractJsonRpcMethod codec body = some method) :
    ∃ tree, codec.parse body = some tree ∧
      codec.canonical body = ((tree.remove "id").remove "jsonrpc").normalize := by
  unfold extractJsonRpcMethod at accepted
  obtain ⟨value, parsed, -⟩ := Option.bind_eq_some_iff.mp accepted
  obtain ⟨tree, isTree, rfl⟩ := Option.map_eq_some_iff.mp parsed
  refine ⟨tree, isTree, ?_⟩
  rw [canonical_of_fromSlice parsed, Json.normalize_remove, Json.normalize_remove]

/-- Cache keys are exact.  Two bodies that name a method have one key if and only if,
with their top-level members `id` and `jsonrpc` deleted, they spell the same JSON
value.  The digest only has to tell the two canonical documents apart. -/
theorem computeCacheKey_eq_iff {left right : Bytes} {leftMethod rightMethod : String}
    (leftAccepted : extractJsonRpcMethod codec left = some leftMethod)
    (rightAccepted : extractJsonRpcMethod codec right = some rightMethod)
    (injective : Set.InjOn codec.sha256
      {(codec.canonical left).toBytes, (codec.canonical right).toBytes}) :
    ∃ leftTree rightTree, codec.parse left = some leftTree ∧
      codec.parse right = some rightTree ∧
      (codec.computeCacheKey left = codec.computeCacheKey right ↔
        Json.Same ((leftTree.remove "id").remove "jsonrpc")
          ((rightTree.remove "id").remove "jsonrpc")) := by
  obtain ⟨leftTree, isLeft, leftCanonical⟩ := exists_tree_of_method leftAccepted
  obtain ⟨rightTree, isRight, rightCanonical⟩ := exists_tree_of_method rightAccepted
  refine ⟨leftTree, rightTree, isLeft, isRight, ?_⟩
  calc codec.computeCacheKey left = codec.computeCacheKey right
      ↔ (codec.canonical left).toBytes = (codec.canonical right).toBytes :=
        injective.eq_iff (by simp) (by simp)
    _ ↔ codec.canonical left = codec.canonical right := Json.toBytes_injective.eq_iff
    _ ↔ Json.Same ((leftTree.remove "id").remove "jsonrpc")
          ((rightTree.remove "id").remove "jsonrpc") := by
        rw [leftCanonical, rightCanonical, Json.normalize_eq_iff]

end Codec

/-! ## Three spellings of a request -/

/-- A request for events, with its members in this order. -/
def eventsRequest (id : Json) (params : List (String × Json)) : Json :=
  .object [("id", id), ("method", .string "getEvents"), ("params", .object params)]

/-- The text of such a request, given the texts of its values. -/
def eventsText (id method params : String) : Bytes :=
  asBytes ("\x7b\"id\":" ++ id ++ ", \"method\":" ++ method ++ ", \"params\":\x7b" ++ params ++
    "\x7d\x7d")

def firstEvents : Bytes := eventsText "1" "\"getEvents\"" "\"limit\":5,\"filters\":[]"

/-- The same request with another id, an escape, white space, another order of the
parameters and one of them repeated. -/
def secondEvents : Bytes :=
  eventsText "null" "\"get\\u0045vents\"" "\"filters\":[ ], \"limit\":9, \"limit\":5"

/-- The repeated parameters the other way round. -/
def thirdEvents : Bytes := eventsText "1" "\"getEvents\"" "\"filters\":[],\"limit\":5,\"limit\":9"

/-- The canonical document of a request for that many events. -/
def eventsDocument (limit : Int) : Json :=
  .object
    [("method", .string "getEvents"),
      ("params", .object [("filters", .array []), ("limit", .ofInt limit)])]

/-- A codec that knows these bodies, and the digests of their canonical documents. -/
def eventsCodec : Codec where
  parse body :=
    if body = firstEvents then
      some (eventsRequest (.ofInt 1) [("limit", .ofInt 5), ("filters", .array [])])
    else if body = secondEvents then
      some (eventsRequest .null
        [("filters", .array []), ("limit", .ofInt 9), ("limit", .ofInt 5)])
    else if body = thirdEvents then
      some (eventsRequest (.ofInt 1)
        [("filters", .array []), ("limit", .ofInt 5), ("limit", .ofInt 9)])
    else none
  sha256 document :=
    if document = (eventsDocument 5).toBytes then
      [187, 183, 203, 191, 95, 155, 247, 127, 76, 207, 165, 205, 174, 104, 119, 218, 92, 189,
        221, 162, 99, 203, 42, 78, 33, 65, 67, 124, 44, 202, 111, 77]
    else if document = (eventsDocument 9).toBytes then
      [59, 245, 214, 234, 85, 218, 54, 8, 120, 13, 231, 132, 16, 63, 225, 21, 81, 191, 38, 58,
        151, 24, 133, 48, 65, 68, 162, 167, 87, 79, 162, 10]
    else []

theorem eventsCodec_canonical :
    (eventsCodec.canonical firstEvents).toBytes = (eventsDocument 5).toBytes ∧
      (eventsCodec.canonical secondEvents).toBytes = (eventsDocument 5).toBytes ∧
      (eventsCodec.canonical thirdEvents).toBytes = (eventsDocument 9).toBytes := by
  decide +kernel

/-- The first two spellings have one key, and the third one another. -/
theorem computeCacheKey_eq_iff_events :
    eventsCodec.computeCacheKey firstEvents = eventsCodec.computeCacheKey secondEvents ∧
      ¬ eventsCodec.computeCacheKey firstEvents = eventsCodec.computeCacheKey thirdEvents := by
  obtain ⟨first, second, third⟩ := eventsCodec_canonical
  have accepted : ∀ body ∈ [firstEvents, secondEvents, thirdEvents],
      extractJsonRpcMethod eventsCodec body = some "getEvents" := by
    decide +kernel
  have different : ¬ eventsCodec.sha256 (eventsDocument 5).toBytes =
      eventsCodec.sha256 (eventsDocument 9).toBytes := by
    decide +kernel
  constructor
  · obtain ⟨left, right, isLeft, isRight, decided⟩ :=
      Codec.computeCacheKey_eq_iff (accepted firstEvents (by simp))
        (accepted secondEvents (by simp)) (by simp [first, second])
    cases isLeft
    cases isRight
    exact decided.mpr (Json.normalize_eq_iff.mp rfl)
  · obtain ⟨left, right, isLeft, isRight, decided⟩ :=
      Codec.computeCacheKey_eq_iff (accepted firstEvents (by simp))
        (accepted thirdEvents (by simp))
        (by rw [first, third, Set.injOn_pair]; exact fun same => absurd same different)
    cases isLeft
    cases isRight
    rw [decided, ← Json.normalize_eq_iff]
    intro same
    exact absurd (congrArg Json.toBytes same) (by decide +kernel)

end SorobanGate
