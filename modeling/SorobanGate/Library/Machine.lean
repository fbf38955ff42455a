import Mathlib.Data.List.Induction

/-!
# Finite runs of partial step functions

A machine is a step function that may refuse an event.  A run is a list of
events that are accepted one after the other, and a trace is what an observer
that sees each event together with the state before it collects along a run.

The rules below are the only induction over runs that the rest of the
development performs: an invariant of single steps is an invariant of runs, a
step that follows a specification makes runs that do, a statement about a run and
its history is proved one event at a time, and the view that one component has of
the machine is the fold of what it is told.
-/

namespace Machine

variable {State Event Obs View Msg : Type*}

/-- Execute a list of events, failing at the first one that is refused. -/
def exec (step : State → Event → Option State) : State → List Event → Option State
  | state, [] => some state
  | state, event :: events =>
      (step state event).bind fun next => exec step next events

/-- Everything an observer collects along a run, in order. -/
def trace (step : State → Event → Option State) (observe : State → Event → List Obs) :
    State → List Event → List Obs
  | _, [] => []
  | state, event :: events =>
      observe state event ++
        match step state event with
        | none => []
        | some next => trace step observe next events

/-- Every event of a run is acceptable in the state it finds. -/
def Always (step : State → Event → Option State) (ok : State → Event → Prop)
    (start : State) (events : List Event) : Prop :=
  ∀ before event after state, events = before ++ event :: after →
    exec step start before = some state → ok state event

section Runs

variable {step : State → Event → Option State}

@[simp] theorem exec_nil (state : State) : exec step state [] = some state := rfl

theorem exec_cons (state : State) (event : Event) (events : List Event) :
    exec step state (event :: events) =
      (step state event).bind fun next => exec step next events := rfl

theorem exec_append (state : State) (first second : List Event) :
    exec step state (first ++ second) =
      (exec step state first).bind fun middle => exec step middle second := by
  induction first generalizing state with
  | nil => rfl
  | cons event events ih =>
      simp only [List.cons_append, exec_cons]
      cases step state event with
      | none => rfl
      | some next => exact ih next

/-- A run splits at any position. -/
theorem exec_append_iff {state final : State} {first second : List Event} :
    exec step state (first ++ second) = some final ↔
      ∃ middle, exec step state first = some middle ∧
        exec step middle second = some final := by
  rw [exec_append, Option.bind_eq_some_iff]

theorem exec_cons_iff {state final : State} {event : Event} {events : List Event} :
    exec step state (event :: events) = some final ↔
      ∃ next, step state event = some next ∧ exec step next events = some final := by
  rw [exec_cons, Option.bind_eq_some_iff]

/-- The last event of a run is a single step from the state before it. -/
theorem exec_concat_iff {state final : State} {events : List Event} {event : Event} :
    exec step state (events ++ [event]) = some final ↔
      ∃ middle, exec step state events = some middle ∧ step middle event = some final := by
  simp [exec_append_iff, exec_cons_iff]

theorem exec_total {events : List Event}
    (accepted : ∀ event ∈ events, ∀ state, ∃ next, step state event = some next)
    (state : State) : ∃ final, exec step state events = some final := by
  induction events generalizing state with
  | nil => exact ⟨state, rfl⟩
  | cons event events ih =>
      obtain ⟨next, stepped⟩ := accepted event List.mem_cons_self state
      obtain ⟨final, rest⟩ := ih (fun later member =>
        accepted later (List.mem_cons_of_mem _ member)) next
      exact ⟨final, exec_cons_iff.mpr ⟨next, stepped, rest⟩⟩

/-- A machine that reads its events off labels runs on the events that they stand for. -/
theorem exec_map {Label : Type*} (read : Label → Event) (state : State)
    (labels : List Label) :
    exec (fun state label => step state (read label)) state labels =
      exec step state (labels.map read) := by
  induction labels generalizing state with
  | nil => rfl
  | cons label labels ih =>
      rw [List.map_cons, exec_cons, exec_cons]
      cases step state (read label) with
      | none => rfl
      | some next => exact ih next

/-- What every permitted event preserves, every run of permitted events preserves. -/
theorem exec_invariant_within (Inv : State → Prop) {permitted : Event → Prop}
    (preserved : ∀ state event next, permitted event → Inv state →
      step state event = some next → Inv next)
    {state final : State} {events : List Event}
    (allowed : ∀ event ∈ events, permitted event) (initial : Inv state)
    (run : exec step state events = some final) : Inv final := by
  induction events generalizing state with
  | nil =>
      cases run
      exact initial
  | cons event events ih =>
      obtain ⟨next, stepped, rest⟩ := exec_cons_iff.mp run
      have kept := preserved state event next (allowed event List.mem_cons_self) initial stepped
      exact ih (fun later member => allowed later (List.mem_cons_of_mem _ member)) kept rest

/-- What every step preserves, every run preserves. -/
theorem exec_invariant (Inv : State → Prop)
    (preserved : ∀ state event next, Inv state → step state event = some next → Inv next)
    {state final : State} {events : List Event} (initial : Inv state)
    (run : exec step state events = some final) : Inv final :=
  exec_invariant_within Inv (fun state event next _ => preserved state event next)
    (fun _ _ => trivial) initial run

/-- Forward simulation: when each permitted event keeps the state related to what a
specification makes of it, so does each run of permitted events. -/
theorem exec_simulation {Spec : Type*} {next : Spec → Event → Spec}
    (Rel : State → Spec → Prop) {permitted : Event → Prop}
    (preserved : ∀ state spec event after, permitted event → Rel state spec →
      step state event = some after → Rel after (next spec event))
    {state final : State} {spec : Spec} {events : List Event}
    (allowed : ∀ event ∈ events, permitted event) (initial : Rel state spec)
    (run : exec step state events = some final) : Rel final (events.foldl next spec) := by
  induction events generalizing state spec with
  | nil =>
      cases run
      exact initial
  | cons event events ih =>
      obtain ⟨after, stepped, rest⟩ := exec_cons_iff.mp run
      have related := preserved state spec event after (allowed event List.mem_cons_self)
        initial stepped
      exact ih (fun later member => allowed later (List.mem_cons_of_mem _ member)) related rest

/-- The history rule: a relation between the events so far and the state they
lead to holds of every run when the last event never breaks it. -/
theorem exec_history (Inv : List Event → State → Prop) {start : State}
    (initial : Inv [] start)
    (preserved : ∀ events state event next, exec step start events = some state →
      Inv events state → step state event = some next → Inv (events ++ [event]) next)
    {events : List Event} {final : State}
    (run : exec step start events = some final) : Inv events final := by
  induction events using List.reverseRecOn generalizing final with
  | nil =>
      cases run
      exact initial
  | append_singleton events event ih =>
      obtain ⟨middle, before, stepped⟩ := exec_concat_iff.mp run
      exact preserved events middle event final before (ih before) stepped

theorem Always.init {ok : State → Event → Prop} {start : State} {events : List Event}
    {event : Event} (always : Always step ok start (events ++ [event])) :
    Always step ok start events := by
  intro before found after state split
  exact always before found (after ++ [event]) state (by simp [split])

theorem Always.last {ok : State → Event → Prop} {start state : State} {events : List Event}
    {event : Event} (always : Always step ok start (events ++ [event]))
    (run : exec step start events = some state) : ok state event :=
  always events event [] state rfl run

theorem Always.concat {ok : State → Event → Prop} {start state : State} {events : List Event}
    {event : Event} (always : Always step ok start events)
    (run : exec step start events = some state) (last : ok state event) :
    Always step ok start (events ++ [event]) := by
  intro before found after reached split prior
  rcases List.eq_nil_or_concat after with rfl | ⟨front, other, rfl⟩
  · obtain ⟨rfl, same⟩ := List.append_inj' split rfl
    obtain rfl := (List.cons.inj same).1
    obtain rfl := Option.some.inj (prior.symm.trans run)
    exact last
  · rw [List.concat_eq_append, ← List.cons_append, ← List.append_assoc] at split
    exact always before found front reached (List.append_inj' split rfl).1 prior

theorem always_cons_iff {ok : State → Event → Prop} {start next : State}
    {events : List Event} {event : Event} (stepped : step start event = some next) :
    Always step ok start (event :: events) ↔ ok start event ∧ Always step ok next events := by
  constructor
  · intro always
    refine ⟨always [] event events start rfl rfl, ?_⟩
    intro before found after state split prior
    exact always (event :: before) found after state (by rw [split, List.cons_append])
      (exec_cons_iff.mpr ⟨next, stepped, prior⟩)
  · rintro ⟨first, rest⟩ before found after state split prior
    cases before with
    | nil =>
        cases split
        cases prior
        exact first
    | cons head before =>
        cases split
        obtain ⟨middle, headStep, prior⟩ := exec_cons_iff.mp prior
        obtain rfl := Option.some.inj (headStep.symm.trans stepped)
        exact rest before found after state rfl prior

theorem Always.append {ok : State → Event → Prop} {state middle : State}
    {first second : List Event} (always : Always step ok state first)
    (run : exec step state first = some middle) (rest : Always step ok middle second) :
    Always step ok state (first ++ second) := by
  induction first generalizing state with
  | nil =>
      cases run
      exact rest
  | cons event events ih =>
      obtain ⟨next, stepped, remaining⟩ := exec_cons_iff.mp run
      obtain ⟨head, tail⟩ := (always_cons_iff stepped).mp always
      rw [List.cons_append]
      exact (always_cons_iff stepped).mpr ⟨head, ih tail remaining⟩

theorem always_concat_iff {ok : State → Event → Prop} {start state : State}
    {events : List Event} {event : Event} (run : exec step start events = some state) :
    Always step ok start (events ++ [event]) ↔ Always step ok start events ∧ ok state event :=
  ⟨fun always => ⟨always.init, always.last run⟩, fun always => always.1.concat run always.2⟩

end Runs

section Traces

variable {step : State → Event → Option State} {observe : State → Event → List Obs}

@[simp] theorem trace_nil (state : State) : trace step observe state [] = [] := rfl

/-- The trace of a run in two parts. -/
theorem trace_append {state middle : State} {first second : List Event}
    (run : exec step state first = some middle) :
    trace step observe state (first ++ second) =
      trace step observe state first ++ trace step observe middle second := by
  induction first generalizing state with
  | nil =>
      cases run
      rfl
  | cons head tail ih =>
      obtain ⟨next, stepped, rest⟩ := exec_cons_iff.mp run
      simp only [List.cons_append, trace, stepped, ih rest, List.append_assoc]

@[simp] theorem trace_singleton (state : State) (event : Event) :
    trace step observe state [event] = observe state event := by
  simp only [trace]
  split <;> simp

/-- The last event of a run adds what it shows in the state before it. -/
theorem trace_concat {state middle : State} {events : List Event} {event : Event}
    (run : exec step state events = some middle) :
    trace step observe state (events ++ [event]) =
      trace step observe state events ++ observe middle event := by
  rw [trace_append run, trace_singleton]

theorem mem_trace {start state : State} {before after : List Event} {event : Event}
    {shown : Obs} (run : exec step start before = some state)
    (member : shown ∈ observe state event) :
    shown ∈ trace step observe start (before ++ event :: after) := by
  rw [trace_append run]
  exact List.mem_append_right _ (List.mem_append_left _ member)

/-- What events show in every state alike, a run shows one after the other. -/
theorem trace_eq_flatMap {tell : Event → List Obs} {state final : State} {events : List Event}
    (run : exec step state events = some final) :
    trace step (fun _ event => tell event) state events = events.flatMap tell := by
  induction events generalizing state with
  | nil => rfl
  | cons event events ih =>
      obtain ⟨next, stepped, rest⟩ := exec_cons_iff.mp run
      simp only [trace, stepped, ih rest, List.flatMap_cons]

theorem exists_of_mem_trace {start : State} {events : List Event} {shown : Obs}
    (member : shown ∈ trace step observe start events) :
    ∃ event ∈ events, ∃ state, shown ∈ observe state event := by
  induction events generalizing start with
  | nil => cases member
  | cons event events ih =>
      rcases List.mem_append.mp member with first | rest
      · exact ⟨event, List.mem_cons_self, start, first⟩
      · split at rest
        · cases rest
        next next _ =>
          obtain ⟨later, isLater, state, isShown⟩ := ih rest
          exact ⟨later, List.mem_cons_of_mem _ isLater, state, isShown⟩

/-- A run in which an observer of unacceptable events sees none. -/
theorem always_of_trace {ok : State → Event → Prop} [∀ state event, Decidable (ok state event)]
    {start : State} {events : List Event}
    (silent : trace step (fun state event => if ok state event then [] else [event]) start
      events = []) : Always step ok start events := by
  intro before event after state split prior
  by_contra refused
  have seen : event ∈ trace step (fun state event => if ok state event then [] else [event])
      start (before ++ event :: after) := mem_trace prior (by simp [refused])
  rw [← split, silent] at seen
  cases seen

/-- Component rule: when each step takes a component through the messages it
sends it, a run takes it through the trace of those messages. -/
theorem exec_component {view : State → View} {send : State → Event → List Msg}
    {receive : View → Msg → Option View}
    (acts : ∀ state event next, step state event = some next →
      exec receive (view state) (send state event) = some (view next))
    {state final : State} {events : List Event}
    (run : exec step state events = some final) :
    exec receive (view state) (trace step send state events) = some (view final) := by
  induction events using List.reverseRecOn generalizing final with
  | nil =>
      cases run
      rfl
  | append_singleton events event ih =>
      obtain ⟨middle, prior, stepped⟩ := exec_concat_iff.mp run
      rw [trace_concat prior, exec_append_iff]
      exact ⟨view middle, ih prior, acts middle event final stepped⟩

/-- Refinement rule: when each step of a machine is matched by what its messages make
of a related state of another, a run is matched by what its whole trace makes of it. -/
theorem exec_refines {send : State → Event → List Msg} {receive : View → Msg → Option View}
    (Rel : State → View → Prop)
    (acts : ∀ state view event next, Rel state view → step state event = some next →
      ∃ after, exec receive view (send state event) = some after ∧ Rel next after)
    {state final : State} {view : View} {events : List Event} (related : Rel state view)
    (run : exec step state events = some final) :
    ∃ after, exec receive view (trace step send state events) = some after ∧
      Rel final after := by
  induction events using List.reverseRecOn generalizing final with
  | nil =>
      cases run
      exact ⟨view, rfl, related⟩
  | append_singleton events event ih =>
      obtain ⟨middle, prior, stepped⟩ := exec_concat_iff.mp run
      obtain ⟨reached, before, still⟩ := ih prior
      obtain ⟨after, acted, related⟩ := acts middle reached event final still stepped
      refine ⟨after, ?_, related⟩
      rw [trace_concat prior, exec_append_iff]
      exact ⟨reached, before, acted⟩

/-- When the messages of each step are acceptable to a machine that it refines, so is the
trace of a run. -/
theorem Always.refines {send : State → Event → List Msg} {receive : View → Msg → Option View}
    (Rel : State → View → Prop)
    (acts : ∀ state view event next, Rel state view → step state event = some next →
      ∃ after, exec receive view (send state event) = some after ∧ Rel next after)
    {ok : View → Msg → Prop} {start final : State} {view : View} {events : List Event}
    (good : ∀ before event after state reached next, events = before ++ event :: after →
      exec step start before = some state → Rel state reached → step state event = some next →
      Always receive ok reached (send state event))
    (related : Rel start view) (run : exec step start events = some final) :
    Always receive ok view (trace step send start events) := by
  induction events using List.reverseRecOn generalizing final with
  | nil =>
      intro before event after state split
      cases before <;> cases split
  | append_singleton events event ih =>
      obtain ⟨middle, prior, stepped⟩ := exec_concat_iff.mp run
      obtain ⟨reached, before, still⟩ := exec_refines Rel acts related prior
      have earlier : Always receive ok view (trace step send start events) := by
        refine ih ?_ prior
        intro before found after state reached next split
        exact good before found (after ++ [event]) state reached next (by simp [split])
      rw [trace_concat prior]
      exact earlier.append before
        (good events event [] middle reached final rfl prior still stepped)

/-- A position in a trace is a position in what one step of the run shows. -/
theorem trace_split {state final : State} {events : List Event} {shown : Obs}
    {earlier later : List Obs} (run : exec step state events = some final)
    (split : trace step observe state events = earlier ++ shown :: later) :
    ∃ before event after middle next left right,
      events = before ++ event :: after ∧
      exec step state before = some middle ∧ step middle event = some next ∧
      exec step next after = some final ∧
      observe middle event = left ++ shown :: right ∧
      earlier = trace step observe state before ++ left ∧
      later = right ++ trace step observe next after := by
  induction events generalizing state earlier with
  | nil => simp at split
  | cons event events ih =>
      obtain ⟨next, stepped, rest⟩ := exec_cons_iff.mp run
      simp only [trace, stepped] at split
      -- Either the position lies past what the first step shows, or within it.
      have located :
          (∃ left, earlier = observe state event ++ left ∧
            trace step observe next events = left ++ shown :: later) ∨
          ∃ right, observe state event = earlier ++ shown :: right ∧
            later = right ++ trace step observe next events := by
        rcases List.append_eq_append_iff.mp split with
          ⟨left, earlierSplit, restSplit⟩ | ⟨right, inStep, laterSplit⟩
        · exact Or.inl ⟨left, earlierSplit, restSplit⟩
        · cases right with
          | nil => exact Or.inl ⟨[], by simp [inStep], laterSplit.symm⟩
          | cons head right =>
              obtain ⟨rfl, rfl⟩ := List.cons.inj laterSplit
              exact Or.inr ⟨right, inStep, rfl⟩
      rcases located with ⟨left, rfl, restSplit⟩ | ⟨right, inStep, rfl⟩
      · obtain ⟨before, found, after, middle, reached, inner, outer, rfl, prior, last,
          remaining, shows, rfl, rfl⟩ := ih rest restSplit
        exact ⟨event :: before, found, after, middle, reached, inner, outer, rfl,
          exec_cons_iff.mpr ⟨next, stepped, prior⟩, last, remaining, shows,
          by simp [trace, stepped], rfl⟩
      · exact ⟨[], event, events, state, next, earlier, right, rfl, rfl, stepped, rest,
          inStep, rfl, rfl⟩

/-- Noninterference rule: events that leave a view alone and show nothing may be
removed, when what all other events do to that view, and what they show, depends
on the view only. -/
theorem trace_filter (view : State → View) (keep : Event → Bool)
    (accepted : ∀ state event, ∃ next, step state event = some next)
    (silent : ∀ state event next, keep event = false → step state event = some next →
      view next = view state ∧ observe state event = [])
    (confined : ∀ left right event leftNext rightNext, keep event = true →
      view left = view right → step left event = some leftNext →
      step right event = some rightNext →
      view leftNext = view rightNext ∧ observe left event = observe right event)
    {left right : State} (same : view left = view right) (events : List Event) :
    trace step observe left events = trace step observe right (events.filter keep) := by
  induction events generalizing left right with
  | nil => rfl
  | cons event events ih =>
      obtain ⟨leftNext, leftStep⟩ := accepted left event
      cases kept : keep event with
      | false =>
          obtain ⟨unchanged, nothing⟩ := silent left event leftNext kept leftStep
          rw [List.filter_cons_of_neg (by simp [kept])]
          simp only [trace, leftStep, nothing, List.nil_append]
          exact ih (unchanged.trans same)
      | true =>
          obtain ⟨rightNext, rightStep⟩ := accepted right event
          obtain ⟨sameNext, sameShown⟩ :=
            confined left right event leftNext rightNext kept same leftStep rightStep
          rw [List.filter_cons_of_pos kept]
          simp only [trace, leftStep, rightStep, sameShown]
          rw [ih sameNext]

end Traces

end Machine
