import SorobanGate.Library.Expansion
import SorobanGate.Library.Tickets
import SorobanGate.Pool.Balancer
import Mathlib.Algebra.BigOperators.Intervals

/-!
# Weighted round robin is proportional

Every upstream owns an interval of residues of the counter, as long as its weight.
Calls draw consecutive values of the counter in whatever order they run, so each
upstream is returned exactly as often as those values fall into its interval.
-/

namespace SorobanGate

/-- How often an upstream stands in the virtual list: a weight of zero counts as one. -/
def share (handle : Handle) : Nat := max handle.1.weight.toNat 1

/-- The length of the virtual list. -/
def totalShare (healthy : List Handle) : Nat := (healthy.map share).sum

/-- Where an upstream starts in the virtual list. -/
def shareBefore (healthy : List Handle) (i : Nat) : Nat := totalShare (healthy.take i)

/-- A counter value falls into the interval of an upstream. -/
def Falls (healthy : List Handle) (i : Fin healthy.length) (value : Nat) : Prop :=
  shareBefore healthy i ≤ value % totalShare healthy ∧
    value % totalShare healthy < shareBefore healthy i + share (healthy.get i)

instance (healthy : List Handle) (i : Fin healthy.length) (value : Nat) :
    Decidable (Falls healthy i value) :=
  inferInstanceAs (Decidable (_ ∧ _))

/-- The position of the upstream that a counter value selects. -/
def weightedIndex (healthy : List Handle) (count : UInt64) : Option (Fin healthy.length) :=
  let weighted := weightedPositions healthy
  weighted[count.toNat % weighted.length]?

theorem toNat_max_one (weight : UInt32) : (max weight 1).toNat = max weight.toNat 1 := by
  have one : (1 : UInt32).toNat = 1 := rfl
  rw [UInt32.max_def]
  split
  next small =>
    rw [UInt32.le_iff_toNat_le, one] at small
    rw [one]
    omega
  next large =>
    rw [UInt32.le_iff_toNat_le, one] at large
    omega

variable {healthy : List Handle}

/-- The virtual list is the expansion of the positions by their shares. -/
theorem weightedPositions_eq_expand :
    weightedPositions healthy =
      Expansion.expand (fun i => share (healthy.get i)) (List.finRange healthy.length) := by
  unfold weightedPositions Expansion.expand share
  simp only [toNat_max_one]

theorem total_map_get (positions : List (Fin healthy.length)) :
    Expansion.total (fun i => share (healthy.get i)) positions =
      totalShare (positions.map healthy.get) := by
  simp [Expansion.total, totalShare, Function.comp_def]

@[simp] theorem length_weightedPositions :
    (weightedPositions healthy).length = totalShare healthy := by
  rw [weightedPositions_eq_expand, Expansion.length_expand, total_map_get,
    List.map_get_finRange]

theorem getElem?_weightedPositions_iff (i : Fin healthy.length) (position : Nat) :
    (weightedPositions healthy)[position]? = some i ↔
      shareBefore healthy i ≤ position ∧
        position < shareBefore healthy i + share (healthy.get i) := by
  have split : List.finRange healthy.length =
      (List.finRange healthy.length).take i ++
        i :: (List.finRange healthy.length).drop (i + 1) := by
    conv_lhs => rw [← List.take_append_drop i (List.finRange healthy.length),
      List.drop_eq_getElem_cons (by simp)]
    simp
  have before : Expansion.total (fun i => share (healthy.get i))
      ((List.finRange healthy.length).take i) = shareBefore healthy i := by
    rw [total_map_get, List.map_take, List.map_get_finRange]
    rfl
  rw [weightedPositions_eq_expand, split, Expansion.getElem?_expand_iff, before]
  rw [← split]
  exact List.nodup_finRange _

/-- A counter value selects the upstream in whose interval it falls. -/
theorem weightedIndex_eq_iff (i : Fin healthy.length) (count : UInt64) :
    weightedIndex healthy count = some i ↔ Falls healthy i count.toNat := by
  unfold weightedIndex Falls
  dsimp only
  rw [length_weightedPositions, getElem?_weightedPositions_iff]

theorem totalShare_pos (nonempty : healthy ≠ []) : 0 < totalShare healthy := by
  cases healthy with
  | nil => exact absurd rfl nonempty
  | cons handle rest =>
      have positive : 1 ≤ share handle := le_max_right _ _
      simp only [totalShare, List.map_cons, List.sum_cons]
      omega

theorem shareBefore_add_share_le (i : Fin healthy.length) :
    shareBefore healthy i + share (healthy.get i) ≤ totalShare healthy := by
  have split : healthy = healthy.take i ++ healthy.get i :: healthy.drop (i + 1) := by
    conv_lhs => rw [← List.take_append_drop i healthy, List.drop_eq_getElem_cons i.isLt]
    rfl
  have total : totalShare healthy = totalShare (healthy.take i) +
      (share (healthy.get i) + totalShare (healthy.drop (i + 1))) := by
    conv_lhs => rw [split]
    exact Expansion.total_split _ _ _
  rw [total, shareBefore]
  omega

/-- A call on a list that is not empty advances the counter and returns the upstream at
the position that the old value of the counter selects. -/
theorem weightedRoundRobin_eq (nonempty : healthy ≠ []) (counter : UInt64) :
    ∃ i, weightedIndex healthy counter = some i ∧
      weightedRoundRobin healthy counter = (some (healthy.get i), counter + 1) := by
  have inside : 0 < (weightedPositions healthy).length := by
    rw [length_weightedPositions]
    exact totalShare_pos nonempty
  refine ⟨_, List.getElem?_eq_getElem (Nat.mod_lt _ inside), ?_⟩
  unfold weightedRoundRobin
  rw [if_neg (by simpa using nonempty)]
  dsimp only
  rw [dif_pos inside]
  rfl

/-- Weighted round robin is exactly proportional.  However calls on a list of healthy
upstreams interleave on the shared counter, each upstream is returned as often as the
values they draw fall into its interval of residues; so any run of values as long as
the virtual list selects it exactly as often as its share, at least once. -/
theorem weightedRoundRobin_proportional (nonempty : healthy ≠ []) :
    (∀ counter, ∃ i, weightedIndex healthy counter = some i ∧
      weightedRoundRobin healthy counter = (some (healthy.get i), counter + 1)) ∧
    (∀ (first : UInt64) (calls : Nat), first.toNat + calls ≤ 2 ^ 64 →
      ∀ events final,
        Machine.exec (Tickets.step (weightedIndex healthy)) (Tickets.start first calls) events =
          some final →
        (∀ call ∈ final.calls, call.answer?.isSome = true) →
        ∀ i, (final.calls.countP fun call => call.answer? = some (some i)) =
          ((Finset.Ico first.toNat (first.toNat + calls)).filter (Falls healthy i)).card) ∧
    ∀ first, first + totalShare healthy ≤ 2 ^ 64 → ∀ i,
      ((Finset.Ico first (first + totalShare healthy)).filter fun value =>
          weightedIndex healthy (.ofNat value) = some i).card = share (healthy.get i) ∧
        1 ≤ share (healthy.get i) := by
  refine ⟨weightedRoundRobin_eq nonempty, ?_, ?_⟩
  · intro first calls fits events final run returned i
    have perm := Tickets.answers_perm run returned
    have counted : (final.calls.countP fun call => call.answer? = some (some i)) =
        (final.calls.filterMap Tickets.Call.answer?).count (some i) := by
      rw [List.count_filterMap]
      apply List.countP_congr
      intro call _
      simp
    rw [counted, perm.count_eq, List.count, List.countP_map, Finset.card_filter,
      Finset.sum_Ico_eq_sum_range, Nat.add_sub_cancel_left, ← Finset.card_filter,
      ← Nat.count_eq_card_filter_range]
    apply List.countP_congr
    intro k member
    have value : (first + UInt64.ofNat k).toNat = first.toNat + k := by
      have small : k < calls := List.mem_range.mp member
      rw [UInt64.toNat_add, UInt64.toNat_ofNat_of_lt' (show k < 2 ^ 64 by omega),
        Nat.mod_eq_of_lt (by omega)]
    simp [weightedIndex_eq_iff, value]
  · intro first fits i
    refine ⟨?_, le_max_right _ _⟩
    have window := Expansion.card_window (shareBefore_add_share_le i) first
    refine (congrArg Finset.card (Finset.filter_congr ?_)).trans window
    intro value member
    have small : value < 2 ^ 64 := (Finset.mem_Ico.mp member).2.trans_le fits
    rw [weightedIndex_eq_iff, UInt64.toNat_ofNat_of_lt' small]
    rfl

/-- A weight of three and a weight of zero. -/
def unequalPair : List Handle :=
  [(.new "main" "http://node-a:8000" 3 none 0, 0), (.new "main" "http://node-b:8000" 0 none 0, 1)]

/-- Four calls that overtake each other, from a counter in the middle of a cycle. -/
def overtaking : List Nat := [0, 1, 1, 3, 0, 2, 3, 2]

theorem weightedRoundRobin_proportional_pair :
    ∃ final, Machine.exec (Tickets.step (weightedIndex unequalPair)) (Tickets.start 5 4)
        overtaking = some final ∧
      (final.calls.countP fun call => call.answer? = some (some ⟨0, by decide⟩)) = 3 ∧
      (final.calls.countP fun call => call.answer? = some (some ⟨1, by decide⟩)) = 1 := by
  have computed : (Machine.exec (Tickets.step (weightedIndex unequalPair)) (Tickets.start 5 4)
      overtaking).map (fun final => final.calls.all fun call => call.answer?.isSome) =
        some true := by
    decide +kernel
  obtain ⟨final, run, returned⟩ := Option.map_eq_some_iff.mp computed
  have nonempty : unequalPair ≠ [] := List.cons_ne_nil _ _
  have counts := (weightedRoundRobin_proportional nonempty).2.1 5 4 (by decide) overtaking final
    run (List.all_eq_true.mp returned)
  exact ⟨final, run, (counts _).trans (by decide +kernel), (counts _).trans (by decide +kernel)⟩

end SorobanGate
