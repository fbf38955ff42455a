import Mathlib.Data.List.SplitBy
import Mathlib.Data.List.Induction

/-!
# Maximal runs of equal elements

A list falls into maximal runs of equal elements.  Given a threshold for each
element, a run is decisive when it is at least as long as the threshold of the
element it repeats.  The lemmas say how the last run and the last decisive run
change when one element is added at the end.
-/

namespace Runs

variable {α : Type*} [DecidableEq α]

/-- The maximal runs of equal elements, in order. -/
def runs (list : List α) : List (List α) := list.splitBy fun left right => left == right

/-- The length of the run at the end of a list. -/
def trailing (list : List α) : Nat := ((runs list).getLast?.map List.length).getD 0

/-- A run is decisive when it reaches the threshold of its element. -/
def decisive (threshold : α → Nat) (run : List α) : Bool :=
  run.head?.any fun element => threshold element ≤ run.length

/-- The element repeated by the last decisive run. -/
def lastDecisive (threshold : α → Nat) (list : List α) : Option α :=
  ((runs list).filter (decisive threshold)).getLast?.bind List.head?

@[simp] theorem lastDecisive_nil (threshold : α → Nat) :
    lastDecisive threshold ([] : List α) = none := rfl

/-- A list of nonempty runs in which neighbours repeat different elements is the
list of maximal runs of its concatenation. -/
theorem runs_flatten {groups : List (List α)}
    (constant : ∀ group ∈ groups, ∃ size element, group = List.replicate (size + 1) element)
    (neighbours : groups.IsChain fun left right => left.head? ≠ right.head?) :
    runs groups.flatten = groups := by
  apply List.splitBy_flatten
  · intro member
    obtain ⟨size, element, equal⟩ := constant [] member
    simp at equal
  · intro group member
    obtain ⟨size, element, rfl⟩ := constant group member
    exact List.isChain_replicate_of_rel _ (by simp)
  · refine neighbours.imp_of_mem_imp ?_
    intro left right leftMem rightMem different
    obtain ⟨leftSize, leftElement, rfl⟩ := constant left leftMem
    obtain ⟨rightSize, rightElement, rfl⟩ := constant right rightMem
    simpa [List.head?_replicate] using different

/-- The runs of a list are constant, nonempty and pairwise distinct from their
neighbours. -/
theorem runs_constant {list group : List α} (member : group ∈ runs list) :
    ∃ size element, group = List.replicate (size + 1) element := by
  have chain := List.isChain_of_mem_splitBy member
  have nonempty := List.ne_nil_of_mem_splitBy member
  cases group with
  | nil => exact absurd rfl nonempty
  | cons element rest =>
      refine ⟨rest.length, element, ?_⟩
      rw [List.eq_replicate_iff]
      refine ⟨rfl, ?_⟩
      have equalChain : (element :: rest).IsChain (· = ·) := chain.imp fun _ _ => beq_iff_eq.mp
      have related := (List.isChain_iff_pairwise.mp equalChain)
      intro other otherMem
      rcases List.mem_cons.mp otherMem with rfl | inRest
      · rfl
      · exact ((List.pairwise_cons.mp related).1 other inRest).symm

theorem runs_neighbours (list : List α) :
    (runs list).IsChain fun left right => left.head? ≠ right.head? := by
  refine (List.isChain_getLast_head_splitBy _ list).imp_of_mem_imp ?_
  intro left right leftMem rightMem related
  obtain ⟨leftSize, leftElement, rfl⟩ := runs_constant leftMem
  obtain ⟨rightSize, rightElement, rfl⟩ := runs_constant rightMem
  obtain ⟨_, _, different⟩ := related
  simpa [List.head?_replicate] using different

theorem exists_last_run {list : List α} {element : α}
    (last : list.getLast? = some element) :
    ∃ front size, runs list = front ++ [List.replicate (size + 1) element] := by
  have flattened : (runs list).flatten = list := List.flatten_splitBy _ list
  rcases List.eq_nil_or_concat (runs list) with none | ⟨front, group, split⟩
  · rw [none] at flattened
    simp [← flattened] at last
  · have member : group ∈ runs list := by simp [split]
    obtain ⟨size, repeated, rfl⟩ := runs_constant member
    rw [← flattened, split] at last
    simp only [List.concat_eq_append, List.flatten_append, List.flatten_cons,
      List.flatten_nil, List.append_nil] at last
    rw [List.getLast?_append_of_ne_nil _ (by simp)] at last
    have same : repeated = element := by simpa [List.getLast?_replicate] using last
    exact ⟨front, size, by rw [split, same, List.concat_eq_append]⟩

theorem runs_concat_same {list : List α} {front : List (List α)} {size : Nat} {element : α}
    (split : runs list = front ++ [List.replicate (size + 1) element]) :
    runs (list ++ [element]) = front ++ [List.replicate (size + 2) element] := by
  have flattened : (runs list).flatten = list := List.flatten_splitBy _ list
  have joined : list ++ [element] =
      (front ++ [List.replicate (size + 2) element]).flatten := by
    rw [← flattened, split]
    simp [List.replicate_succ']
  rw [joined]
  apply runs_flatten
  · intro group member
    rcases List.mem_append.mp member with inFront | isLast
    · have member : group ∈ runs list := by simp [split, inFront]
      exact runs_constant member
    · exact ⟨size + 1, element, List.mem_singleton.mp isLast⟩
  · have chain := runs_neighbours list
    rw [split, List.isChain_append] at chain
    rw [List.isChain_append]
    refine ⟨chain.1, by simp, ?_⟩
    intro left leftLast right rightHead
    have different := chain.2.2 left leftLast _ rfl
    cases rightHead
    simpa [List.head?_replicate] using different

theorem runs_concat_other {list : List α} {front : List (List α)} {size : Nat}
    {element other : α} (different : other ≠ element)
    (split : runs list = front ++ [List.replicate (size + 1) element]) :
    runs (list ++ [other]) = front ++ [List.replicate (size + 1) element] ++ [[other]] := by
  have flattened : (runs list).flatten = list := List.flatten_splitBy _ list
  have joined : list ++ [other] = (runs list ++ [[other]]).flatten := by
    rw [List.flatten_append, flattened]
    simp
  rw [joined, ← split]
  apply runs_flatten
  · intro group member
    rcases List.mem_append.mp member with inRuns | isLast
    · exact runs_constant inRuns
    · exact ⟨0, other, List.mem_singleton.mp isLast⟩
  · rw [List.isChain_append]
    refine ⟨runs_neighbours list, by simp, ?_⟩
    intro left leftLast right rightHead
    rw [split, List.getLast?_concat] at leftLast
    cases leftLast
    cases rightHead
    simpa [List.head?_replicate] using different.symm

/-- The last run grows when its element is repeated and restarts otherwise. -/
theorem trailing_concat (list : List α) (element : α) :
    trailing (list ++ [element]) =
      if list.getLast? = some element then trailing list + 1 else 1 := by
  cases last : list.getLast? with
  | none =>
      rw [List.getLast?_eq_none_iff] at last
      subst last
      rfl
  | some previous =>
      obtain ⟨front, size, split⟩ := exists_last_run last
      by_cases same : previous = element
      · subst same
        simp [trailing, runs_concat_same split, split]
      · simp [trailing, runs_concat_other (Ne.symm same) split, same]

/-- A list that ends in equal elements ends in a run of at least as many. -/
theorem length_le_trailing {element : α} {repeated : List α}
    (same : ∀ other ∈ repeated, other = element) (list : List α) :
    repeated.length ≤ trailing (list ++ repeated) := by
  induction repeated using List.reverseRecOn with
  | nil => simp
  | append_singleton repeated last ih =>
      have isLast : last = element := same last (by simp)
      have shorter := ih fun other member => same other (List.mem_append_left _ member)
      rw [← List.append_assoc, trailing_concat, List.length_append, List.length_singleton]
      rcases List.eq_nil_or_concat repeated with rfl | ⟨front, previous, rfl⟩
      · split <;> simp
      · obtain rfl : previous = element := same previous (by simp)
        rw [List.concat_eq_append, ← List.append_assoc, List.getLast?_concat, isLast, if_pos rfl,
          List.append_assoc, ← List.concat_eq_append]
        exact Nat.add_le_add_right shorter 1

theorem lastDecisive_of_trailing (threshold : α → Nat) {list : List α} {element : α}
    (last : list.getLast? = some element) (reached : threshold element ≤ trailing list) :
    lastDecisive threshold list = some element := by
  obtain ⟨front, size, split⟩ := exists_last_run last
  have long : threshold element ≤ size + 1 := by simpa [trailing, split] using reached
  have isDecisive : decisive threshold (List.replicate (size + 1) element) = true := by
    simpa [decisive, List.head?_replicate] using long
  simp [lastDecisive, split, List.filter_append, isDecisive, List.head?_replicate]

/-- One more element decides the list when it completes the threshold of its
run, and otherwise leaves the last decision standing. -/
theorem lastDecisive_concat (threshold : α → Nat) (list : List α) (element : α) :
    lastDecisive threshold (list ++ [element]) =
      if threshold element ≤ trailing (list ++ [element]) then some element
      else lastDecisive threshold list := by
  split
  next reached => exact lastDecisive_of_trailing threshold (by simp) reached
  next short =>
    cases last : list.getLast? with
    | none =>
        rw [List.getLast?_eq_none_iff] at last
        subst last
        rw [trailing_concat, if_neg (by simp)] at short
        have notDecisive : decisive threshold [element] = false := by
          simpa [decisive] using short
        have single : runs ([] ++ [element]) = [[element]] := rfl
        rw [lastDecisive, single]
        simp [notDecisive]
    | some previous =>
        obtain ⟨front, size, split⟩ := exists_last_run last
        by_cases same : previous = element
        · subst same
          rw [trailing_concat, if_pos last] at short
          simp only [trailing, split, List.getLast?_concat, Option.map_some,
            List.length_replicate, Option.getD_some, not_le] at short
          have notDecisive : ∀ extra, extra ≤ 1 →
              decisive threshold (List.replicate (size + 1 + extra) previous) = false := by
            intro extra small
            simp only [decisive, List.head?_replicate]
            simp
            omega
          have before := notDecisive 0 (by omega)
          have after := notDecisive 1 (by omega)
          simp only [Nat.add_zero] at before
          simp [lastDecisive, runs_concat_same split, split, List.filter_append, before, after]
        · rw [trailing_concat, last, if_neg (by simpa using same)] at short
          have notDecisive : decisive threshold [element] = false := by
            simpa [decisive] using short
          simp [lastDecisive, runs_concat_other (Ne.symm same) split, split,
            List.filter_append, notDecisive]

end Runs
