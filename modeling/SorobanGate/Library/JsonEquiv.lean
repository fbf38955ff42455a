import SorobanGate.Library.Json
import Mathlib.Data.List.Induction

/-!
# JSON trees up to member order

Two trees spell the same value when their arrays agree item by item and their
objects agree name by name, the last of several members with one name deciding.
`normalize` picks one tree of each class.
-/

namespace SortedMap

variable {Key Value : Type*} [LinearOrder Key]

theorem lookup_insert (key other : Key) (value : Value) (map : List (Key × Value)) :
    (insert key value map).lookup other =
      if other = key then some value else map.lookup other := by
  have lookup_new : ∀ rest : List (Key × Value), ((key, value) :: rest).lookup other =
      if other = key then some value else rest.lookup other := by
    intro rest
    by_cases same : other = key
    · subst same
      rw [if_pos rfl]
      exact lookup_head (other, value) rest
    · rw [if_neg same]
      exact lookup_tail (show other ≠ (key, value).1 from same) rest
  induction map with
  | nil => exact lookup_new []
  | cons head rest ih =>
      simp only [insert]
      split
      · exact lookup_new _
      · split
        next equal =>
          rw [lookup_new]
          by_cases same : other = key
          · rw [if_pos same, if_pos same]
          · rw [if_neg same, if_neg same, lookup_tail (equal ▸ same)]
        next different =>
          by_cases isHead : other = head.1
          · subst isHead
            rw [if_neg (Ne.symm different), lookup_head, lookup_head]
          · rw [lookup_tail isHead, lookup_tail isHead, ih]

/-- The last of the bindings of a key is the one that counts. -/
theorem lookup_ofList (bindings : List (Key × Value)) (key : Key) :
    (ofList bindings).lookup key = bindings.reverse.lookup key := by
  induction bindings using List.reverseRecOn with
  | nil => rfl
  | append_singleton bindings last ih =>
      have inserted : ofList (bindings ++ [last]) = insert last.1 last.2 (ofList bindings) := by
        simp [ofList]
      rw [inserted, lookup_insert, ih, List.reverse_append,
        List.reverse_singleton, List.singleton_append]
      by_cases isLast : key = last.1
      · subst isLast
        rw [if_pos rfl, lookup_head]
      · rw [if_neg isLast, lookup_tail isLast]

theorem filter_sorted (keep : Key × Value → Bool) {map : List (Key × Value)}
    (sorted : Sorted map) : Sorted (map.filter keep) :=
  List.Pairwise.sublist (List.filter_sublist.map Prod.fst) sorted

theorem lookup_filter_of_neg (keep : Key → Bool) {key : Key} (dropped : keep key = false)
    (map : List (Key × Value)) :
    (map.filter fun binding => keep binding.1).lookup key = none := by
  induction map with
  | nil => rfl
  | cons head rest ih =>
      rw [List.filter_cons]
      split
      next kept =>
        have different : key ≠ head.1 := by
          rintro rfl
          rw [dropped] at kept
          cases kept
        rw [lookup_tail different, ih]
      · exact ih

theorem lookup_map_snd {Other : Type*} (change : Value → Other)
    (bindings : List (Key × Value)) (key : Key) :
    (bindings.map fun binding => (binding.1, change binding.2)).lookup key =
      (bindings.lookup key).map change := by
  induction bindings with
  | nil => rfl
  | cons binding rest ih =>
      obtain ⟨name, value⟩ := binding
      simp only [List.map_cons, List.lookup_cons]
      split
      · rfl
      · exact ih

end SortedMap

namespace Json

/-- The member of a document's object that counts: the last one with the name. -/
def lastMember (name : String) (members : List (String × Json)) : Option Json :=
  members.reverse.lookup name

/-- The same JSON value: objects are compared name by name. -/
inductive Same : Json → Json → Prop where
  | null : Same .null .null
  | bool (value : Bool) : Same (.bool value) (.bool value)
  | number (value : JsonNumber) : Same (.number value) (.number value)
  | string (value : String) : Same (.string value) (.string value)
  | array {left right : List Json} (length : left.length = right.length)
      (items : ∀ (i : Nat) (item other : Json), left[i]? = some item → right[i]? = some other →
        Same item other) :
      Same (.array left) (.array right)
  | object {left right : List (String × Json)}
      (names : ∀ name, (lastMember name left).isSome = (lastMember name right).isSome)
      (members : ∀ name value other, lastMember name left = some value →
        lastMember name right = some other → Same value other) :
      Same (.object left) (.object right)

theorem normalizeItems_eq_map (items : List Json) :
    normalizeItems items = items.map normalize := by
  induction items with
  | nil => rfl
  | cons item items ih => simp [normalizeItems, ih]

theorem normalizeMembers_eq_map (members : List (String × Json)) :
    normalizeMembers members = members.map fun member => (member.1, normalize member.2) := by
  induction members with
  | nil => rfl
  | cons member members ih =>
      obtain ⟨name, value⟩ := member
      simp [normalizeMembers, ih]

theorem lookup_normalize (members : List (String × Json)) (name : String) :
    (SortedMap.ofList (normalizeMembers members)).lookup name =
      (lastMember name members).map normalize := by
  rw [SortedMap.lookup_ofList, normalizeMembers_eq_map, ← List.map_reverse,
    SortedMap.lookup_map_snd]
  rfl

theorem mem_of_lastMember {name : String} {members : List (String × Json)} {value : Json}
    (found : lastMember name members = some value) : (name, value) ∈ members := by
  obtain ⟨before, after, split, -⟩ := List.lookup_eq_some_iff.mp found
  rw [← List.mem_reverse, split]
  simp

theorem Same.normalize_eq {left right : Json} (same : Same left right) :
    left.normalize = right.normalize := by
  induction same with
  | null | bool | number | string => rfl
  | @array left right length items ih =>
      simp only [normalize, normalizeItems_eq_map, array.injEq]
      apply List.ext_getElem?
      intro i
      rw [List.getElem?_map, List.getElem?_map]
      cases atLeft : left[i]? with
      | none =>
          rw [List.getElem?_eq_none_iff] at atLeft
          rw [List.getElem?_eq_none (length ▸ atLeft)]
      | some item =>
          have inside := (List.getElem?_eq_some_iff.mp atLeft).1
          rw [length] at inside
          have atRight := List.getElem?_eq_getElem inside
          rw [atRight, Option.map_some, Option.map_some, ih i item _ atLeft atRight]
  | @object left right names members ih =>
      simp only [normalize, object.injEq]
      apply SortedMap.eq_of_lookup_eq (SortedMap.ofList_sorted _) (SortedMap.ofList_sorted _)
      intro name
      rw [lookup_normalize, lookup_normalize]
      have sameName := names name
      cases atLeft : lastMember name left with
      | none =>
          rw [atLeft, Option.isSome_none, eq_comm, Option.isSome_eq_false_iff,
            Option.isNone_iff_eq_none] at sameName
          rw [sameName]
      | some value =>
          rw [atLeft, Option.isSome_some, eq_comm, Option.isSome_iff_exists] at sameName
          obtain ⟨other, atRight⟩ := sameName
          rw [atRight, Option.map_some, Option.map_some, ih name value other atLeft atRight]

theorem sizeOf_lt_of_lastMember {name : String} {members : List (String × Json)}
    {value : Json} (found : lastMember name members = some value) :
    sizeOf value < 1 + sizeOf members := by
  have smaller := List.sizeOf_lt_of_mem (mem_of_lastMember found)
  simp only [Prod.mk.sizeOf_spec] at smaller
  omega

/-- Trees with one normal form have the same value.  The induction is on the size of
the left tree: a member that counts is among the members of its object. -/
theorem same_of_normalize_eq (left right : Json)
    (equal : left.normalize = right.normalize) : Same left right := by
  cases left with
  | null =>
      cases right with
      | null => exact .null
      | _ => simp [normalize] at equal
  | bool value =>
      cases right with
      | bool other =>
          obtain rfl : value = other := by simpa [normalize] using equal
          exact .bool value
      | _ => simp [normalize] at equal
  | number value =>
      cases right with
      | number other =>
          obtain rfl : value = other := by simpa [normalize] using equal
          exact .number value
      | _ => simp [normalize] at equal
  | string value =>
      cases right with
      | string other =>
          obtain rfl : value = other := by simpa [normalize] using equal
          exact .string value
      | _ => simp [normalize] at equal
  | array left =>
      cases right with
      | array right =>
          simp only [normalize, normalizeItems_eq_map, array.injEq] at equal
          have lengths := congrArg List.length equal
          rw [List.length_map, List.length_map] at lengths
          apply Same.array lengths
          intro i item other atLeft atRight
          have mapped := congrArg (·[i]?) equal
          simp only [List.getElem?_map, atLeft, atRight, Option.map_some, Option.some.injEq]
            at mapped
          have smaller := List.sizeOf_lt_of_mem (List.mem_of_getElem? atLeft)
          exact same_of_normalize_eq item other mapped
      | _ => simp [normalize] at equal
  | object left =>
      cases right with
      | object right =>
          simp only [normalize, object.injEq] at equal
          have bound : ∀ name, (lastMember name left).map normalize =
              (lastMember name right).map normalize := by
            intro name
            rw [← lookup_normalize, equal, lookup_normalize]
          apply Same.object
          · intro name
            have both := congrArg Option.isSome (bound name)
            simpa using both
          · intro name value other atLeft atRight
            have mapped := bound name
            rw [atLeft, atRight, Option.map_some, Option.map_some, Option.some.injEq] at mapped
            have smaller := sizeOf_lt_of_lastMember atLeft
            exact same_of_normalize_eq value other mapped
      | _ => simp [normalize] at equal
termination_by sizeOf left
decreasing_by
  · subst_vars
    simp only [array.sizeOf_spec]
    omega
  · subst_vars
    simpa only [object.sizeOf_spec] using smaller

/-- The normal form decides whether two trees have the same value. -/
theorem normalize_eq_iff {left right : Json} :
    left.normalize = right.normalize ↔ Same left right :=
  ⟨same_of_normalize_eq left right, Same.normalize_eq⟩

theorem normalize_remove (name : String) (tree : Json) :
    (tree.remove name).normalize = tree.normalize.remove name := by
  cases tree with
  | object members =>
      simp only [remove, normalize, object.injEq]
      apply SortedMap.eq_of_lookup_eq (SortedMap.ofList_sorted _)
        (SortedMap.filter_sorted _ (SortedMap.ofList_sorted _))
      intro other
      rw [lookup_normalize]
      by_cases removed : other = name
      · subst removed
        have dropped : (other != other) = false := by simp
        rw [SortedMap.lookup_filter_of_neg (fun key => key != other) dropped, lastMember,
          ← List.filter_reverse,
          SortedMap.lookup_filter_of_neg (fun key => key != other) dropped, Option.map_none]
      · have kept : (other != name) = true := by simpa using removed
        rw [SortedMap.lookup_filter_of_pos (fun key => key != name) kept, lookup_normalize,
          lastMember, ← List.filter_reverse,
          SortedMap.lookup_filter_of_pos (fun key => key != name) kept]
        rfl
  | _ => rfl

end Json
