import Mathlib.Algebra.BigOperators.Group.List.Basic
import Mathlib.Data.Nat.Periodic
import Mathlib.Order.Interval.Finset.Nat

/-!
# Weighted expansion of a list

Each item of a list repeated as often as its weight says, in order.  An item owns
an interval of positions, given by the weights before it, and any stretch of
counter values as long as the expansion meets that interval once modulo its length.
-/

namespace Expansion

variable {Item : Type*} (weight : Item → Nat)

/-- Repeat each item. -/
def expand (items : List Item) : List Item :=
  items.flatMap fun item => List.replicate (weight item) item

/-- The sum of the weights. -/
def total (items : List Item) : Nat := (items.map weight).sum

variable {weight}

theorem mem_of_mem_expand {items : List Item} {item : Item}
    (member : item ∈ expand weight items) : item ∈ items := by
  obtain ⟨other, isItem, repeated⟩ := List.mem_flatMap.mp member
  rwa [(List.mem_replicate.mp repeated).2]

@[simp] theorem length_expand (items : List Item) :
    (expand weight items).length = total weight items := by
  simp [expand, total, List.length_flatMap]

theorem expand_split (before after : List Item) (item : Item) :
    expand weight (before ++ item :: after) =
      expand weight before ++ (List.replicate (weight item) item ++ expand weight after) := by
  simp [expand]

theorem total_split (before after : List Item) (item : Item) :
    total weight (before ++ item :: after) =
      total weight before + (weight item + total weight after) := by
  simp [total]

theorem map_expand {Other : Type*} (view : Other → Item) (items : List Other) :
    (expand (fun item => weight (view item)) items).map view = expand weight (items.map view) := by
  simp [expand, List.map_flatMap, List.flatMap_map]

/-- An item of a list without repetition owns the positions from the sum of the weights
before it, as many as its weight. -/
theorem getElem?_expand_iff {before after : List Item} {item : Item}
    (nodup : (before ++ item :: after).Nodup) (position : Nat) :
    (expand weight (before ++ item :: after))[position]? = some item ↔
      total weight before ≤ position ∧ position < total weight before + weight item := by
  obtain ⟨notBefore, notAfter⟩ : item ∉ before ∧ item ∉ after := by
    have distinct := List.nodup_middle.mp nodup
    rw [List.nodup_cons, List.mem_append, not_or] at distinct
    exact distinct.1
  rw [expand_split]
  constructor
  · intro found
    constructor
    · -- Before the interval there are only items from before.
      by_contra early
      rw [List.getElem?_append_left (by simpa using early)] at found
      exact notBefore (mem_of_mem_expand (List.mem_of_getElem? found))
    · by_contra late
      rw [List.getElem?_append_right (by simp; omega),
        List.getElem?_append_right (by simp; omega)] at found
      exact notAfter (mem_of_mem_expand (List.mem_of_getElem? found))
  · rintro ⟨lower, upper⟩
    rw [List.getElem?_append_right (by simpa using lower),
      List.getElem?_append_left (by simp; omega), List.getElem?_replicate, if_pos]
    rw [length_expand]
    omega

/-- A stretch of counter values as long as the period meets an interval of residues as
often as the interval is long. -/
theorem card_window {lower size period : Nat} (inside : lower + size ≤ period) (start : Nat) :
    ((Finset.Ico start (start + period)).filter fun value =>
      lower ≤ value % period ∧ value % period < lower + size).card = size := by
  have periodic : Function.Periodic
      (fun value => lower ≤ value % period ∧ value % period < lower + size) period := by
    intro value
    simp
  rw [Nat.filter_Ico_card_eq_of_periodic _ _ _ periodic, Nat.count_eq_card_filter_range]
  have interval : ((Finset.range period).filter fun value =>
      lower ≤ value % period ∧ value % period < lower + size) =
      Finset.Ico lower (lower + size) := by
    ext value
    rw [Finset.mem_filter, Finset.mem_range, Finset.mem_Ico]
    constructor
    · rintro ⟨small, residue⟩
      rwa [Nat.mod_eq_of_lt small] at residue
    · rintro ⟨above, below⟩
      have small : value < period := below.trans_le inside
      rw [Nat.mod_eq_of_lt small]
      exact ⟨small, above, below⟩
  rw [interval, Nat.card_Ico]
  omega

end Expansion
