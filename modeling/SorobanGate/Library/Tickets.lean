import SorobanGate.Library.Machine
import Mathlib.Data.List.Perm.Basic

/-!
# Calls that share a counter

Each call draws the value of a shared counter, which advances it, and later returns
what it computes from that value.  In whatever order the calls run, together they
return the answers to consecutive counter values.
-/

namespace Tickets

variable {Answer : Type*}

/-- How far a call has come. -/
inductive Call (Answer : Type*) where
  | waiting
  | drawn (value : UInt64)
  | returned (answer : Answer)

structure State (Answer : Type*) where
  counter : UInt64
  calls : List (Call Answer)

/-- Some calls, none of which has drawn yet. -/
def start (counter : UInt64) (calls : Nat) : State Answer :=
  ⟨counter, List.replicate calls .waiting⟩

variable (answer : UInt64 → Answer)

/-- The next step of one call: an atomic draw, or its return. -/
def step (state : State Answer) (index : Nat) : Option (State Answer) :=
  match state.calls[index]? with
  | some .waiting => some ⟨state.counter + 1, state.calls.set index (.drawn state.counter)⟩
  | some (.drawn value) => some ⟨state.counter, state.calls.set index (.returned (answer value))⟩
  | _ => none

/-- What a call has returned. -/
def Call.answer? : Call Answer → Option Answer
  | .returned answer => some answer
  | _ => none

/-- What a call returns or, once it has drawn, will return. -/
def Call.due? : Call Answer → Option Answer
  | .waiting => none
  | .drawn value => some (answer value)
  | .returned answer => some answer

variable {answer}

theorem exists_split {calls : List (Call Answer)} {index : Nat} {call : Call Answer}
    (found : calls[index]? = some call) (other : Call Answer) :
    ∃ before after, calls = before ++ call :: after ∧
      calls.set index other = before ++ other :: after := by
  obtain ⟨inside, isCall⟩ := List.getElem?_eq_some_iff.mp found
  refine ⟨calls.take index, calls.drop (index + 1), ?_, ?_⟩
  · rw [← isCall, List.getElem_cons_drop, List.take_append_drop]
  · rw [List.set_eq_take_append_cons_drop, if_pos inside]

/-- What is due after some steps: the answers to the values drawn so far. -/
structure Drawn (answer : UInt64 → Answer) (first : UInt64) (state : State Answer)
    (draws : Nat) : Prop where
  counter : state.counter = first + .ofNat draws
  due : (state.calls.filterMap (Call.due? answer)).Perm
    ((List.range draws).map fun k => answer (first + .ofNat k))

/-- A draw adds the answer to the next value to what is due, and a return nothing. -/
theorem Drawn.step {first : UInt64} {draws index : Nat} {state next : State Answer}
    (drawn : Drawn answer first state draws)
    (stepped : Tickets.step answer state index = some next) :
    ∃ more, Drawn answer first next more := by
  unfold Tickets.step at stepped
  split at stepped
  next isWaiting =>
    cases stepped
    obtain ⟨before, after, split, replaced⟩ :=
      exists_split isWaiting (.drawn state.counter)
    refine ⟨draws + 1, ?_, ?_⟩
    · rw [drawn.counter, UInt64.ofNat_add, UInt64.add_assoc]
      rfl
    · have due := drawn.due
      rw [split] at due
      dsimp only
      rw [replaced]
      simp only [List.filterMap_append, List.filterMap_cons, Call.due?, drawn.counter,
        List.range_succ, List.map_append, List.map_cons, List.map_nil] at due ⊢
      exact (List.perm_middle.trans (due.cons _)).trans (List.perm_append_singleton _ _).symm
  next value isDrawn =>
    cases stepped
    obtain ⟨before, after, split, replaced⟩ :=
      exists_split isDrawn (.returned (answer value))
    refine ⟨draws, drawn.counter, ?_⟩
    have due := drawn.due
    rw [split] at due
    simpa only [replaced, List.filterMap_append, List.filterMap_cons, Call.due?] using due
  · cases stepped

theorem length_of_step {index : Nat} {state next : State Answer}
    (stepped : Tickets.step answer state index = some next) :
    next.calls.length = state.calls.length := by
  unfold Tickets.step at stepped
  split at stepped <;> cases stepped <;> simp

/-- Whatever the order of their steps, calls that have all returned have together
returned the answers to consecutive values. -/
theorem answers_perm {first : UInt64} {calls : Nat} {events : List Nat}
    {final : State Answer}
    (run : Machine.exec (Tickets.step answer) (start first calls) events = some final)
    (returned : ∀ call ∈ final.calls, call.answer?.isSome = true) :
    (final.calls.filterMap Call.answer?).Perm
      ((List.range calls).map fun k => answer (first + .ofNat k)) := by
  have sameLength : final.calls.length = calls := by
    refine Machine.exec_invariant (fun state => state.calls.length = calls) ?_
      (by simp [start]) run
    intro state index next same stepped
    rw [length_of_step stepped, same]
  obtain ⟨draws, drawn⟩ : ∃ draws, Drawn answer first final draws := by
    refine Machine.exec_invariant (fun state => ∃ draws, Drawn answer first state draws) ?_
      ⟨0, by simp [start], ?_⟩ run
    · rintro state index next ⟨draws, drawn⟩ stepped
      exact drawn.step stepped
    · rw [start, List.filterMap_replicate_of_none rfl]
      exact .refl _
  -- All calls have returned, so nothing else is due.
  have due : final.calls.filterMap (Call.due? answer) =
      final.calls.filterMap Call.answer? := by
    apply List.filterMap_congr
    intro call member
    cases call with
    | waiting | drawn => cases returned _ member
    | returned => rfl
  have allDrawn : draws = calls := by
    have lengths := drawn.due.length_eq
    rw [due, List.length_filterMap_eq_countP, List.countP_eq_length.mpr returned, sameLength,
      List.length_map, List.length_range] at lengths
    exact lengths.symm
  rw [← due, ← allDrawn]
  exact drawn.due

end Tickets
