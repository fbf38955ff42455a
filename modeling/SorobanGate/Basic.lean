import Mathlib.Algebra.Group.Nat.Defs
import Mathlib.Data.List.AList
import Mathlib.Data.List.Induction

/-!
# Shared vocabulary

Instants and durations are counted in nanoseconds, byte strings are lists of
bytes, and a hash map is a list of bindings without repeated keys: nothing in
the gateway depends on the iteration order of a hash map.
-/

namespace SorobanGate

/-- A reading of the monotone clock, in nanoseconds since some origin. -/
abbrev Instant := Nat

/-- A length of time in nanoseconds. -/
abbrev Duration := Nat

/-- `Duration::from_secs`. -/
def Duration.fromSecs (secs : Nat) : Duration := secs * 1000000000

/-- `Duration::from_millis`. -/
def Duration.fromMillis (millis : Nat) : Duration := millis * 1000000

/-- `Instant + Duration`: the seconds of an instant are a signed 64-bit
counter, and an addition that leaves its range panics. -/
def Instant.add? (instant : Instant) (duration : Duration) : Option Instant :=
  if (instant + duration) / 1000000000 < 2 ^ 63 then some (instant + duration) else none

theorem Instant.add?_eq_some {instant : Instant} {duration : Duration} {sum : Instant}
    (added : Instant.add? instant duration = some sum) : sum = instant + duration := by
  unfold Instant.add? at added
  split at added
  · exact (Option.some.inj added).symm
  · cases added

abbrev Bytes := List UInt8

/-- `std::collections::HashMap`. -/
abbrev HashMap (Key Value : Type) := AList fun _ : Key => Value

/-- The bytes of a string. -/
def asBytes (text : String) : Bytes := text.toByteArray.data.toList

/-- The table that a list of rules makes of the methods each of them names:
bindings are inserted in order, so a later one replaces an earlier one. -/
def methodTable {Rule Value : Type} (methods : Rule → List String) (value : Rule → Value)
    (rules : List Rule) : HashMap String Value :=
  rules.foldl
    (fun table rule =>
      (methods rule).foldl (fun table method => table.insert method (value rule)) table)
    ∅

theorem lookup_insertAll {Value : Type} (method : String) (value : Value)
    (methods : List String) (table : HashMap String Value) :
    (methods.foldl (fun table method => table.insert method value) table).lookup method =
      if method ∈ methods then some value else table.lookup method := by
  induction methods using List.reverseRecOn with
  | nil => simp
  | append_singleton methods last ih =>
      rw [List.foldl_append, List.foldl_cons, List.foldl_nil]
      by_cases isLast : method = last
      · subst isLast
        simp
      · rw [AList.lookup_insert_ne isLast, ih]
        simp [isLast]

/-- The last rule that names a method decides its value. -/
theorem lookup_methodTable {Rule Value : Type} (methods : Rule → List String)
    (value : Rule → Value) (rules : List Rule) (method : String) :
    (methodTable methods value rules).lookup method =
      (rules.reverse.find? fun rule => method ∈ methods rule).map value := by
  unfold methodTable
  induction rules using List.reverseRecOn with
  | nil => simp
  | append_singleton rules last ih =>
      rw [List.foldl_append, List.foldl_cons, List.foldl_nil, lookup_insertAll, ih,
        List.reverse_append, List.reverse_singleton, List.singleton_append, List.find?_cons]
      by_cases named : method ∈ methods last <;> simp [named]

/-- Header fields in order of arrival, under their lower-case names. -/
abbrev HeaderMap := List (String × Bytes)

/-- HTTP status codes. -/
abbrev StatusCode := Nat

/-- `StatusCode::is_success`. -/
def StatusCode.isSuccess (status : StatusCode) : Bool := 200 ≤ status && status < 300

end SorobanGate
