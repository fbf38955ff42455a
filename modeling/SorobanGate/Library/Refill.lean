import Mathlib.Algebra.Order.Field.Basic
import Mathlib.Data.List.Induction
import Mathlib.Tactic.Linarith
import Mathlib.Tactic.Ring

/-!
# Capped refill

A store that refills at a constant rate up to a cap, and from which a call takes
one unit when at least one is there.  The level is kept lazily: it is brought up
to date only when a call arrives.  What is available at a call is the least of
the bounds that all windows of earlier calls impose, so that a call succeeds
exactly when no window is overdrawn by it.
-/

namespace Refill

variable {K : Type*}

/-- The calls made so far, oldest first: when, and whether a unit was taken. -/
abbrev History (K : Type*) := List (K × Bool)

/-- How many units a stretch of calls has taken. -/
def taken (calls : History K) : Nat := calls.countP Prod.snd

theorem taken_concat (calls : History K) (last : K × Bool) :
    taken (calls ++ [last]) = taken calls + if last.2 then 1 else 0 := by
  simp [taken, List.countP_append, List.countP_cons]

theorem concat_split {history before after : History K} {last first : K × Bool} :
    history ++ [last] = before ++ first :: after ↔
      (before = history ∧ first = last ∧ after = []) ∨
        ∃ shorter, after = shorter ++ [last] ∧ history = before ++ first :: shorter := by
  constructor
  · intro split
    rcases List.eq_nil_or_concat after with rfl | ⟨shorter, final, rfl⟩
    · obtain ⟨sameBefore, sameLast⟩ := List.append_inj' split rfl
      exact Or.inl ⟨sameBefore.symm, (List.cons.inj sameLast).1.symm, rfl⟩
    · rw [List.concat_eq_append, ← List.cons_append, ← List.append_assoc] at split
      obtain ⟨sameFront, sameLast⟩ := List.append_inj' split rfl
      cases (List.cons.inj sameLast).1
      exact Or.inr ⟨shorter, List.concat_eq_append, sameFront⟩
  · rintro (⟨rfl, rfl, rfl⟩ | ⟨shorter, rfl, rfl⟩) <;> simp

/-- The level after the last call, and when that call was made. -/
structure Store (K : Type*) where
  level : K
  last : K

variable [Field K] [LinearOrder K]

/-- What is available at a given time; a store that was never used is full. -/
def available (cap rate : K) (store : Option (Store K)) (now : K) : K :=
  match store with
  | none => cap
  | some store => min (store.level + (now - store.last) * rate) cap

/-- A call takes one unit if there is one. -/
def call (cap rate : K) (store : Option (Store K)) (now : K) : Store K × Bool :=
  let level := available cap rate store now
  if 1 ≤ level then (⟨level - 1, now⟩, true) else (⟨level, now⟩, false)

/-- An amount respects every window that ends now: together with what was taken
since any earlier call it stays within the cap plus what was refilled since. -/
def Within (cap rate : K) (history : History K) (now amount : K) : Prop :=
  amount ≤ cap ∧ ∀ before first after, history = before ++ first :: after →
    amount + taken (first :: after) ≤ cap + rate * (now - first.1)

/-- The store agrees with a history when what it makes available is what the
windows of that history leave. -/
def Agrees (cap rate : K) (history : History K) (store : Option (Store K)) : Prop :=
  ∀ now amount, amount ≤ available cap rate store now ↔ Within cap rate history now amount

theorem agrees_nil (cap rate : K) : Agrees cap rate [] none := by
  intro now amount
  simp [available, Within]

theorem call_of_le {cap rate : K} {store : Option (Store K)} {now : K}
    (enough : 1 ≤ available cap rate store now) :
    call cap rate store now = (⟨available cap rate store now - 1, now⟩, true) := by
  simp [call, enough]

theorem call_of_lt {cap rate : K} {store : Option (Store K)} {now : K}
    (short : ¬ 1 ≤ available cap rate store now) :
    call cap rate store now = (⟨available cap rate store now, now⟩, false) := by
  simp [call, short]

/-- A call succeeds exactly when one more unit respects every window. -/
theorem call_snd_iff {cap rate : K} {history : History K} {store : Option (Store K)}
    (agrees : Agrees cap rate history store) (now : K) :
    (call cap rate store now).2 = true ↔ Within cap rate history now 1 := by
  rw [← agrees now 1]
  by_cases enough : 1 ≤ available cap rate store now
  · simp [call_of_le enough, enough]
  · simp [call_of_lt enough, enough]

variable [IsStrictOrderedRing K]

/-- Windows after one more call: the call itself opens a window, and every
earlier window grows by what the call took. -/
theorem within_concat (cap rate : K) (history : History K) (time now amount : K)
    (took : Bool) :
    Within cap rate (history ++ [(time, took)]) now amount ↔
      amount ≤ cap ∧
        Within cap rate history time
          (amount + (if took then 1 else 0) - rate * (now - time)) := by
  unfold Within
  refine and_congr_right fun _ => ?_
  constructor
  · intro windows
    refine ⟨?_, ?_⟩
    · have own := windows history (time, took) [] (by simp)
      cases took <;> simp [taken] at own ⊢ <;> linarith
    · intro before first after split
      have wider := windows before first (after ++ [(time, took)]) (by simp [split])
      rw [← List.cons_append, taken_concat] at wider
      cases took <;> simp at wider ⊢ <;> linarith
  · rintro ⟨own, windows⟩ before first after split
    rcases concat_split.mp split with ⟨_, rfl, rfl⟩ | ⟨shorter, rfl, earlier⟩
    · cases took <;> simp [taken] at own ⊢ <;> linarith
    · have narrower := windows before first shorter earlier
      rw [← List.cons_append, taken_concat]
      cases took <;> simp at narrower ⊢ <;> linarith

/-- A call keeps store and history in agreement. -/
theorem agrees_call {cap rate : K} {history : History K} {store : Option (Store K)}
    (agrees : Agrees cap rate history store) (time : K) :
    Agrees cap rate (history ++ [(time, (call cap rate store time).2)])
      (some (call cap rate store time).1) := by
  intro now amount
  rw [within_concat, ← agrees time]
  by_cases enough : 1 ≤ available cap rate store time
  · rw [call_of_le enough]
    simp only [if_true]
    rw [available, le_min_iff, and_comm]
    refine and_congr_right fun _ => ?_
    constructor <;> intro bound <;> linarith
  · rw [call_of_lt enough]
    simp only [Bool.false_eq_true, if_false, add_zero]
    rw [available, le_min_iff, and_comm]
    refine and_congr_right fun _ => ?_
    constructor <;> intro bound <;> linarith

omit [Field K] [LinearOrder K] [IsStrictOrderedRing K] in
theorem taken_filter (calls : History K) : taken (calls.filter Prod.snd) = taken calls := by
  simp [taken, List.countP_filter]

/-- Windows only depend on the calls that took a unit: one that opens with a call that did
not is no tighter than the one that opens with the next call that did. -/
theorem within_filter {cap rate : K} (rateNonneg : 0 ≤ rate) {history : History K}
    (ordered : history.Pairwise fun earlier later => earlier.1 ≤ later.1) {now : K}
    (past : ∀ call ∈ history, call.1 ≤ now) (amount : K) :
    Within cap rate (history.filter Prod.snd) now amount ↔
      Within cap rate history now amount := by
  unfold Within
  refine and_congr_right fun withinCap => ?_
  constructor
  · rintro windows before first after rfl
    have inOrder := (List.pairwise_append.mp ordered).2.1
    have isPast := past first (by simp)
    rw [← taken_filter]
    cases remaining : (first :: after).filter Prod.snd with
    | nil =>
        have refilled : 0 ≤ rate * (now - first.1) :=
          mul_nonneg rateNonneg (sub_nonneg.mpr isPast)
        simp only [taken, List.countP_nil, Nat.cast_zero]
        linarith
    | cons next rest =>
        have window := windows (before.filter Prod.snd) next rest (by
          rw [List.filter_append, remaining])
        have later : first.1 ≤ next.1 := by
          have member : next ∈ first :: after :=
            (List.mem_filter.mp (remaining ▸ List.mem_cons_self)).1
          rcases List.mem_cons.mp member with rfl | isLater
          · exact le_rfl
          · exact (List.pairwise_cons.mp inOrder).1 next isLater
        have shorter : rate * (now - next.1) ≤ rate * (now - first.1) :=
          mul_le_mul_of_nonneg_left (by linarith) rateNonneg
        linarith
  · intro windows before first after split
    obtain ⟨front, back, rfl, -, isBack⟩ := List.filter_eq_append_iff.mp split
    obtain ⟨skipped, others, rfl, -, took, rfl⟩ := List.filter_eq_cons_iff.mp isBack
    have window := windows (front ++ skipped) first others (by simp)
    rwa [← taken_filter, List.filter_cons_of_pos took] at window

/-! ## Whole histories -/

/-- Every call of a history was decided by the windows before it. -/
def Exact (cap rate : K) (history : History K) : Prop :=
  ∀ before last after, history = before ++ last :: after →
    (last.2 = true ↔ Within cap rate before last.1 1)

omit [IsStrictOrderedRing K] in
theorem exact_nil (cap rate : K) : Exact cap rate [] := by
  intro before last after split
  simp at split

omit [IsStrictOrderedRing K] in
theorem exact_concat {cap rate : K} {history : History K} {now : K} {took : Bool}
    (exact : Exact cap rate history)
    (decided : took = true ↔ Within cap rate history now 1) :
    Exact cap rate (history ++ [(now, took)]) := by
  intro before last after split
  rcases concat_split.mp split with ⟨rfl, rfl, _⟩ | ⟨shorter, _, earlier⟩
  · exact decided
  · exact exact before last shorter earlier

omit [IsStrictOrderedRing K] in
/-- The windows that decide a call, by the positions of their first calls. -/
theorem Exact.index_iff {cap rate : K} {history : History K}
    (exact : Exact cap rate history) {j : Nat} {last : K × Bool}
    (isLast : history[j]? = some last) :
    last.2 = true ↔ ∀ i first, i ≤ j → history[i]? = some first →
      (taken ((history.take j).drop i) : K) + 1 ≤ cap + rate * (last.1 - first.1) := by
  obtain ⟨inBounds, selected⟩ := List.getElem?_eq_some_iff.mp isLast
  have split : history = history.take j ++ last :: history.drop (j + 1) := by
    rw [← selected, ← List.drop_eq_getElem_cons inBounds, List.take_append_drop]
  rw [exact _ _ _ split]
  constructor
  · rintro ⟨withinCap, windows⟩ i first before isFirst
    rcases Nat.lt_or_eq_of_le before with earlier | rfl
    · have position : (history.take j)[i]? = some first := by
        rw [List.getElem?_take_of_lt earlier, isFirst]
      obtain ⟨bound, atPosition⟩ := List.getElem?_eq_some_iff.mp position
      have dropped : (history.take j).drop i = first :: (history.take j).drop (i + 1) := by
        rw [← atPosition, ← List.drop_eq_getElem_cons bound]
      have window := windows ((history.take j).take i) first ((history.take j).drop (i + 1))
        (by rw [← dropped, List.take_append_drop])
      rw [dropped, add_comm]
      exact window
    · rw [isFirst] at isLast
      cases isLast
      have empty : (history.take i).drop i = [] := by
        rw [List.drop_eq_nil_iff, List.length_take]
        exact Nat.min_le_left _ _
      simpa [empty, taken] using withinCap
  · intro bounds
    refine ⟨?_, ?_⟩
    · have own := bounds j last le_rfl isLast
      have empty : (history.take j).drop j = [] := by
        rw [List.drop_eq_nil_iff, List.length_take]
        exact Nat.min_le_left _ _
      simpa [empty, taken] using own
    · intro before first after earlier
      have length : before.length ≤ j := by
        have total := congrArg List.length earlier
        rw [List.length_take, List.length_append, List.length_cons] at total
        omega
      have isFirst : history[before.length]? = some first := by
        rw [split, earlier]
        simp
      have window := bounds before.length first length isFirst
      have dropped : (history.take j).drop before.length = first :: after := by
        rw [earlier, List.drop_left]
      rw [dropped, add_comm] at window
      exact window

/-- The calls of a history that took a unit between two times. -/
def takenBetween (lo hi : K) (history : History K) : Nat :=
  history.countP fun call => call.2 && decide (lo ≤ call.1) && decide (call.1 ≤ hi)

omit [Field K] [IsStrictOrderedRing K] in
/-- Only calls from the first one inside the window on can count towards it. -/
theorem takenBetween_le (lo hi : K) (history : History K) :
    takenBetween lo hi history = 0 ∨
      ∃ before first after, history = before ++ first :: after ∧ lo ≤ first.1 ∧
        takenBetween lo hi history ≤ taken (first :: after) := by
  induction history with
  | nil => exact Or.inl rfl
  | cons head rest ih =>
      by_cases inside : lo ≤ head.1
      · refine Or.inr ⟨[], head, rest, rfl, inside, ?_⟩
        apply List.countP_mono_left
        intro call _ counted
        simp only [Bool.and_eq_true] at counted
        exact counted.1.1
      · have skipped : takenBetween lo hi (head :: rest) = takenBetween lo hi rest := by
          simp [takenBetween, inside]
        rw [skipped]
        rcases ih with zero | ⟨before, first, after, split, later, bound⟩
        · exact Or.inl zero
        · exact Or.inr ⟨head :: before, first, after, by simp [split], later, bound⟩

/-- No window of time ever sees more units taken than the cap plus what is
refilled during it. -/
theorem takenBetween_bound {cap rate : K} (capNonneg : 0 ≤ cap) (rateNonneg : 0 ≤ rate)
    {history : History K} (exact : Exact cap rate history)
    {lo hi : K} (ordered : lo ≤ hi) :
    (takenBetween lo hi history : K) ≤ cap + rate * (hi - lo) := by
  have refilled : 0 ≤ rate * (hi - lo) := mul_nonneg rateNonneg (sub_nonneg.mpr ordered)
  induction history using List.reverseRecOn with
  | nil =>
      simp only [takenBetween, List.countP_nil, Nat.cast_zero]
      linarith
  | append_singleton history last ih =>
      have before : Exact cap rate history := by
        intro before inner after split
        exact exact before inner (after ++ [last]) (by simp [split])
      have counted : takenBetween lo hi (history ++ [last]) = takenBetween lo hi history +
          if last.2 && decide (lo ≤ last.1) && decide (last.1 ≤ hi) then 1 else 0 := by
        simp [takenBetween, List.countP_append, List.countP_cons]
      rw [counted]
      split
      next inside =>
        simp only [Bool.and_eq_true, decide_eq_true_eq] at inside
        obtain ⟨⟨took, _⟩, early⟩ := inside
        obtain ⟨withinCap, windows⟩ := (exact history last [] (by simp)).mp took
        rcases takenBetween_le lo hi history with zero | ⟨front, first, after, split, late, bound⟩
        · rw [zero]
          push_cast
          linarith
        · have window := windows front first after split
          have shorter : rate * (last.1 - first.1) ≤ rate * (hi - lo) :=
            mul_le_mul_of_nonneg_left (by linarith) rateNonneg
          have cast : (takenBetween lo hi history : K) ≤ taken (first :: after) :=
            Nat.cast_le.mpr bound
          push_cast
          linarith
      · simpa using ih before

end Refill
