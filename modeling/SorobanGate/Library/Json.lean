import Mathlib.Data.String.Basic
import Mathlib.Data.List.Basic

/-!
# JSON trees with sorted objects

A tree as a reader sees it lists the members of an object in document order and
may repeat a name.  A tree as a program stores it keeps every object as a map
sorted by name, in which the last of several members with one name wins.
`normalize` is the passage from the first to the second.
-/

namespace SortedMap

/-! ## Association lists that stand for sorted maps -/

variable {Key Value : Type*} [LinearOrder Key]

/-- Insert a binding at its place, replacing the binding of an equal key. -/
def insert (key : Key) (value : Value) : List (Key × Value) → List (Key × Value)
  | [] => [(key, value)]
  | (other, bound) :: rest =>
      if key < other then (key, value) :: (other, bound) :: rest
      else if key = other then (key, value) :: rest
      else (other, bound) :: insert key value rest

/-- Build a map from bindings in order, later bindings replacing earlier ones. -/
def ofList (bindings : List (Key × Value)) : List (Key × Value) :=
  bindings.foldl (fun map binding => insert binding.1 binding.2 map) []

/-- Keys in strictly increasing order, hence without repetition. -/
def Sorted (map : List (Key × Value)) : Prop :=
  (map.map Prod.fst).Pairwise (· < ·)

theorem sorted_cons {binding : Key × Value} {rest : List (Key × Value)} :
    Sorted (binding :: rest) ↔
      (∀ other ∈ rest, binding.1 < other.1) ∧ Sorted rest := by
  simp [Sorted, List.pairwise_cons]

theorem mem_insert {key : Key} {value : Value} {map : List (Key × Value)}
    {binding : Key × Value} (member : binding ∈ insert key value map) :
    binding = (key, value) ∨ binding ∈ map := by
  induction map with
  | nil => simpa [insert] using member
  | cons head rest ih =>
      simp only [insert] at member
      split at member
      · simpa using member
      · split at member
        · rcases List.mem_cons.mp member with equal | inRest
          · exact Or.inl equal
          · exact Or.inr (List.mem_cons_of_mem _ inRest)
        · rcases List.mem_cons.mp member with equal | inserted
          · exact Or.inr (equal ▸ List.mem_cons_self)
          · exact (ih inserted).imp_right (List.mem_cons_of_mem _)

theorem insert_sorted {key : Key} {value : Value} {map : List (Key × Value)}
    (sorted : Sorted map) : Sorted (insert key value map) := by
  induction map with
  | nil => simp [insert, Sorted]
  | cons head rest ih =>
      obtain ⟨above, restSorted⟩ := sorted_cons.mp sorted
      simp only [insert]
      split
      next smaller =>
        refine sorted_cons.mpr ⟨?_, sorted⟩
        intro other member
        rcases List.mem_cons.mp member with rfl | inRest
        · exact smaller
        · exact smaller.trans (above other inRest)
      next notSmaller =>
        split
        next equal =>
          subst equal
          exact sorted_cons.mpr ⟨above, restSorted⟩
        next different =>
          refine sorted_cons.mpr ⟨?_, ih restSorted⟩
          intro other member
          rcases mem_insert member with rfl | inRest
          · exact lt_of_le_of_ne (not_lt.mp notSmaller) (Ne.symm different)
          · exact above other inRest

theorem ofList_sorted (bindings : List (Key × Value)) : Sorted (ofList bindings) := by
  have general : ∀ map : List (Key × Value), Sorted map →
      Sorted (bindings.foldl (fun map binding => insert binding.1 binding.2 map) map) := by
    induction bindings with
    | nil => exact fun map sorted => sorted
    | cons binding rest ih => exact fun map sorted => ih _ (insert_sorted sorted)
  exact general [] (by simp [Sorted])

@[simp] theorem lookup_head (binding : Key × Value) (rest : List (Key × Value)) :
    (binding :: rest).lookup binding.1 = some binding.2 :=
  List.lookup_cons_self

theorem lookup_tail {key : Key} {binding : Key × Value} (different : key ≠ binding.1)
    (rest : List (Key × Value)) : (binding :: rest).lookup key = rest.lookup key := by
  obtain ⟨name, bound⟩ := binding
  rw [List.lookup_cons, beq_eq_false_iff_ne.mpr different]

theorem lookup_eq_none_of_lt {key : Key} {map : List (Key × Value)}
    (below : ∀ other ∈ map, key < other.1) : map.lookup key = none := by
  induction map with
  | nil => rfl
  | cons head rest ih =>
      rw [lookup_tail (below head List.mem_cons_self).ne]
      exact ih fun other member => below other (List.mem_cons_of_mem _ member)

/-- A sorted map is determined by what it binds each key to. -/
theorem eq_of_lookup_eq {left right : List (Key × Value)}
    (leftSorted : Sorted left) (rightSorted : Sorted right)
    (agree : ∀ key, left.lookup key = right.lookup key) : left = right := by
  induction left generalizing right with
  | nil =>
      cases right with
      | nil => rfl
      | cons head rest =>
          have bound := agree head.1
          simp at bound
  | cons head rest ih =>
      obtain ⟨above, restSorted⟩ := sorted_cons.mp leftSorted
      have headBound := agree head.1
      rw [lookup_head] at headBound
      cases right with
      | nil => simp at headBound
      | cons other tail =>
          obtain ⟨otherAbove, tailSorted⟩ := sorted_cons.mp rightSorted
          have otherBound := agree other.1
          rw [lookup_head] at otherBound
          -- The least keys agree: each of them is bound in the other map.
          have keysEqual : head.1 = other.1 := by
            rcases lt_trichotomy head.1 other.1 with less | equal | greater
            · rw [lookup_tail less.ne, lookup_eq_none_of_lt
                fun third member => less.trans (otherAbove third member)] at headBound
              cases headBound
            · exact equal
            · rw [lookup_tail greater.ne, lookup_eq_none_of_lt
                fun third member => greater.trans (above third member)] at otherBound
              cases otherBound
          have headEqual : head = other := by
            refine Prod.ext keysEqual ?_
            rw [keysEqual, lookup_head] at headBound
            exact Option.some.inj headBound
          subst headEqual
          rw [ih restSorted tailSorted]
          intro key
          by_cases isHead : key = head.1
          · subst isHead
            rw [lookup_eq_none_of_lt above, lookup_eq_none_of_lt otherAbove]
          · simpa only [lookup_tail isHead] using agree key

theorem lookup_filter_of_pos (keep : Key → Bool) {key : Key}
    (kept : keep key = true) (map : List (Key × Value)) :
    (map.filter fun binding => keep binding.1).lookup key = map.lookup key := by
  induction map with
  | nil => rfl
  | cons head rest ih =>
      by_cases isHead : key = head.1
      · subst isHead
        rw [List.filter_cons, if_pos kept, lookup_head, lookup_head]
      · rw [List.filter_cons, lookup_tail isHead]
        split
        · rw [lookup_tail isHead, ih]
        · exact ih

end SortedMap

/-- A number as printed: the text determines the number, and consists of the
characters that JSON number tokens are made of. -/
structure JsonNumber where
  text : List Char
  nonempty : text ≠ []
  token : ∀ char ∈ text, char.isDigit ∨ char ∈ ['-', '+', '.', 'e', 'E']

/-- JSON trees. -/
inductive Json where
  | null
  | bool (value : Bool)
  | number (value : JsonNumber)
  | string (value : String)
  | array (items : List Json)
  | object (members : List (String × Json))

namespace Json

/-- An integer as it is printed. -/
def ofInt (value : Int) : Json :=
  .number
    { text := (if value < 0 then ['-'] else []) ++ Nat.toDigits 10 value.natAbs
      nonempty := by simp [Nat.toDigits_ne_nil]
      token := by
        intro char member
        rcases List.mem_append.mp member with isSign | isDigit
        · right
          split at isSign <;> simp_all
        · exact Or.inl (Nat.isDigit_of_mem_toDigits (by decide) (by decide) isDigit) }

mutual
/-- Keep every object of a tree as a sorted map without repeated names. -/
def normalize : Json → Json
  | .array items => .array (normalizeItems items)
  | .object members => .object (SortedMap.ofList (normalizeMembers members))
  | scalar => scalar

def normalizeItems : List Json → List Json
  | [] => []
  | item :: rest => normalize item :: normalizeItems rest

def normalizeMembers : List (String × Json) → List (String × Json)
  | [] => []
  | (name, value) :: rest => (name, normalize value) :: normalizeMembers rest
end

/-- The member of an object with a given name. -/
def get (name : String) : Json → Option Json
  | .object members => members.lookup name
  | _ => none

/-- The text of a string value. -/
def asStr : Json → Option String
  | .string value => some value
  | _ => none

/-- Delete a member of an object; other values are left alone. -/
def remove (name : String) : Json → Json
  | .object members => .object (members.filter fun member => member.1 != name)
  | other => other

theorem normalize_sorted {tree : Json} {members : List (String × Json)}
    (normalized : tree.normalize = .object members) : SortedMap.Sorted members := by
  cases tree with
  | object raw =>
      simp only [normalize, object.injEq] at normalized
      exact normalized ▸ SortedMap.ofList_sorted _
  | _ => simp [normalize] at normalized

@[simp] theorem get_remove_of_ne {name other : String} (different : name ≠ other)
    (tree : Json) : (tree.remove other).get name = tree.get name := by
  cases tree with
  | object members =>
      exact SortedMap.lookup_filter_of_pos (fun key => key != other)
        (by simpa using different) members
  | _ => rfl

/-- An object is determined by what is left after deleting two members,
together with those two members. -/
theorem eq_of_remove_eq {left right : List (String × Json)} {first second : String}
    (leftSorted : SortedMap.Sorted left) (rightSorted : SortedMap.Sorted right)
    (rest : (Json.object left |>.remove first |>.remove second) =
      (Json.object right |>.remove first |>.remove second))
    (firstEqual : (Json.object left).get first = (Json.object right).get first)
    (secondEqual : (Json.object left).get second = (Json.object right).get second) :
    left = right := by
  refine SortedMap.eq_of_lookup_eq leftSorted rightSorted fun name => ?_
  by_cases isFirst : name = first
  · exact isFirst ▸ firstEqual
  · by_cases isSecond : name = second
    · exact isSecond ▸ secondEqual
    · have kept := congrArg (get name) rest
      rw [get_remove_of_ne isSecond, get_remove_of_ne isFirst,
        get_remove_of_ne isSecond, get_remove_of_ne isFirst] at kept
      exact kept

end Json
