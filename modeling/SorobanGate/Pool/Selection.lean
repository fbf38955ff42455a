import SorobanGate.Pool.RoundRobin

/-!
# Selecting an upstream

A selection returns an available upstream whenever the pool has one, and never
indexes out of bounds.  To say the latter the selection is written once more with
the indexes that the code computes: an index out of bounds panics, and a panic is
the absence of a result.
-/

namespace SorobanGate

/-! ## Indexes that can fail -/

/-- The positions of the virtual list as plain numbers. -/
def weightedIndexes (healthy : List Handle) : List Nat :=
  healthy.zipIdx.flatMap fun entry => List.replicate (max entry.1.1.weight 1).toNat entry.2

/-- `weighted_round_robin` with its two indexing operations. -/
def weightedRoundRobin? (healthy : List Handle) (counter : UInt64) :
    Option (Option Handle × UInt64) :=
  if healthy.isEmpty then some (none, counter)
  else
    let weighted := weightedIndexes healthy
    if weighted.isEmpty then some (none, counter)
    else do
      let idx ← weighted[counter.toNat % weighted.length]?
      let handle ← healthy[idx]?
      some (some handle, counter + 1)

/-- `random` with its indexing operation; `genRange bound` is what the generator returns
when it is asked for a number below the bound. -/
def random? (healthy : List Handle) (genRange : Nat → Nat) : Option (Option Handle) :=
  if healthy.isEmpty then some none
  else (healthy[genRange healthy.length]?).map some

def select? (healthy : List Handle) (algorithm : LoadBalancingAlgorithm)
    (wrrCounter : UInt64) (genRange : Nat → Nat) : Option (Option Handle × UInt64) :=
  match algorithm with
  | .wrr => weightedRoundRobin? healthy wrrCounter
  | .lc => some (leastConnections healthy, wrrCounter)
  | .random => (random? healthy genRange).map fun selected => (selected, wrrCounter)

def UpstreamPool.selectUpstream? (pool : UpstreamPool) (genRange : Nat → Nat) :
    Option (UpstreamPool × Option Handle) :=
  let healthy := pool.healthyUpstreams
  if healthy.isEmpty then some (pool, none)
  else
    (select? healthy pool.algorithm pool.wrrCounter genRange).map fun result =>
      ({ pool with wrrCounter := result.2 }, result.1)

theorem weightedIndexes_eq (healthy : List Handle) :
    weightedIndexes healthy = (weightedPositions healthy).map Fin.val := by
  have entries : healthy.zipIdx =
      (List.finRange healthy.length).map fun i => (healthy.get i, i.val) := by
    refine List.ext_getElem (by simp) fun i inLeft inRight => ?_
    simp
  unfold weightedIndexes weightedPositions
  rw [entries, List.flatMap_map, List.map_flatMap]
  simp only [List.map_replicate]

/-- Both indexes of a round robin selection are within bounds. -/
theorem weightedRoundRobin?_eq {healthy : List Handle} (nonempty : healthy ≠ [])
    (counter : UInt64) :
    weightedRoundRobin? healthy counter = some (weightedRoundRobin healthy counter) := by
  obtain ⟨i, isIndex, selected⟩ := weightedRoundRobin_eq nonempty counter
  have inside : 0 < (weightedPositions healthy).length := by
    rw [length_weightedPositions]
    exact totalShare_pos nonempty
  have first : (weightedIndexes healthy)[counter.toNat % (weightedIndexes healthy).length]? =
      some i.val := by
    unfold weightedIndex at isIndex
    dsimp only at isIndex
    rw [weightedIndexes_eq, List.length_map, List.getElem?_map, isIndex]
    rfl
  have notEmpty : ¬ (weightedIndexes healthy).isEmpty = true := by
    rw [weightedIndexes_eq, List.isEmpty_iff, List.map_eq_nil_iff]
    exact List.ne_nil_of_length_pos inside
  unfold weightedRoundRobin?
  rw [if_neg (by simpa using nonempty)]
  dsimp only
  rw [if_neg notEmpty, first, selected]
  simp

namespace UpstreamPool

variable {pool : UpstreamPool} {genRange : Nat → Nat}

/-- With a generator that stays in its range no selection panics. -/
theorem selectUpstream?_eq (pool : UpstreamPool)
    (inRange : ∀ bound, 0 < bound → genRange bound < bound) :
    pool.selectUpstream? genRange =
      some (pool.selectUpstream (genRange pool.healthyUpstreams.length)) := by
  unfold selectUpstream? selectUpstream
  dsimp only
  split
  · rfl
  next notEmpty =>
    have nonempty : pool.healthyUpstreams ≠ [] := by simpa using notEmpty
    have positive := List.length_pos_iff.mpr nonempty
    have drawn := inRange _ positive
    cases isAlgorithm : pool.algorithm with
    | wrr =>
        simp only [select?, select, weightedRoundRobin?_eq nonempty, Option.map_some]
    | lc => rfl
    | random =>
        simp only [select?, select, random?, random, if_neg notEmpty, dif_pos positive,
          List.getElem?_eq_getElem drawn, Nat.mod_eq_of_lt drawn, Option.map_some]
        rfl

theorem selectUpstream_of_empty (draw : Nat) (empty : pool.healthyUpstreams = []) :
    pool.selectUpstream draw = (pool, none) := by
  simp [selectUpstream, empty]

/-- A selection from upstreams of which some are available returns one of them. -/
theorem exists_selected (draw : Nat) (nonempty : pool.healthyUpstreams ≠ []) :
    ∃ handle, (pool.selectUpstream draw).2 = some handle ∧ handle ∈ pool.healthyUpstreams := by
  have isSome : ∃ handle,
      (select pool.healthyUpstreams pool.algorithm pool.wrrCounter draw).1 = some handle := by
    unfold select
    cases pool.algorithm with
    | wrr =>
        obtain ⟨i, -, chosen⟩ := weightedRoundRobin_eq nonempty pool.wrrCounter
        exact ⟨_, congrArg Prod.fst chosen⟩
    | lc => exact Option.isSome_iff_exists.mp (List.isSome_minOn?_iff.mpr nonempty)
    | random =>
        exact ⟨_, dif_pos (List.length_pos_iff.mpr nonempty)⟩
  obtain ⟨handle, chosen⟩ := isSome
  refine ⟨handle, ?_, mem_of_select chosen⟩
  unfold selectUpstream
  dsimp only
  rw [if_neg (by simpa using nonempty)]
  exact chosen

theorem selectUpstream_eq_none_iff {draw : Nat} :
    (pool.selectUpstream draw).2 = none ↔ pool.healthyUpstreams = [] := by
  constructor
  · intro absent
    by_contra nonempty
    obtain ⟨handle, chosen, -⟩ := pool.exists_selected draw nonempty
    rw [absent] at chosen
    cases chosen
  · intro empty
    rw [selectUpstream_of_empty draw empty]

end UpstreamPool

/-! ## What is selected -/

theorem UpstreamState.isAvailable_iff {upstream : UpstreamState} :
    upstream.isAvailable = true ↔
      upstream.mutable.health = .healthy ∧ upstream.mutable.circuitBreaker.state ≠ .«open» := by
  unfold isAvailable CircuitBreaker.isAvailable
  cases upstream.mutable.circuitBreaker.state <;> simp

/-- The least of the connection counts is found at its first occurrence. -/
theorem leastConnections_first {healthy : List Handle} {selected : Handle}
    (chosen : leastConnections healthy = some selected) :
    ∃ before after, healthy = before ++ selected :: after ∧
      (∀ other ∈ before, selected.1.activeConnections < other.1.activeConnections) ∧
      ∀ other ∈ after, selected.1.activeConnections ≤ other.1.activeConnections := by
  unfold leastConnections at chosen
  induction healthy generalizing selected with
  | nil => cases chosen
  | cons head rest ih =>
      rw [List.minOn?_cons, Option.some.injEq] at chosen
      cases least : rest.minOn? fun handle => handle.1.activeConnections with
      | none =>
          obtain rfl : rest = [] := by
            by_contra nonempty
            have isSome := (List.isSome_minOn?_iff
              (f := fun handle : Handle => handle.1.activeConnections)).mpr nonempty
            rw [least] at isSome
            cases isSome
          rw [least] at chosen
          obtain rfl : head = selected := chosen
          exact ⟨[], [], rfl, by simp, by simp⟩
      | some other =>
          obtain ⟨before, after, rfl, fewer, notMore⟩ := ih least
          rw [least] at chosen
          simp only [Option.elim_some, minOn] at chosen
          split at chosen
          next headLeast =>
            subst chosen
            refine ⟨[], _, rfl, by simp, fun later member => ?_⟩
            rcases List.mem_append.mp member with early | late
            · exact headLeast.trans (fewer later early).le
            · rcases List.mem_cons.mp late with rfl | last
              · exact headLeast
              · exact headLeast.trans (notMore later last)
          next headMore =>
            subst chosen
            refine ⟨head :: before, after, rfl, fun earlier member => ?_, notMore⟩
            rcases List.mem_cons.mp member with rfl | early
            · exact not_le.mp headMore
            · exact fewer earlier early

namespace UpstreamPool

variable {pool : UpstreamPool} {genRange : Nat → Nat}

theorem mem_healthyUpstreams_iff {handle : Handle} :
    handle ∈ pool.healthyUpstreams ↔
      pool.upstreams[handle.2]? = some handle.1 ∧ handle.1.isAvailable = true := by
  rw [healthyUpstreams, List.mem_filter, List.mem_zipIdx_iff_getElem?]

theorem healthyUpstreams_sorted (pool : UpstreamPool) :
    pool.healthyUpstreams.Pairwise fun earlier later => earlier.2 < later.2 := by
  refine List.Pairwise.filter _ (List.pairwise_iff_getElem.mpr fun i j _ _ before => ?_)
  simpa using before

theorem healthyUpstreams_eq_nil_iff :
    pool.healthyUpstreams = [] ↔
      ∀ upstream ∈ pool.upstreams, upstream.isAvailable = false := by
  rw [healthyUpstreams, List.filter_eq_nil_iff]
  constructor
  · intro none upstream member
    obtain ⟨index, found⟩ := List.mem_iff_getElem?.mp member
    simpa using none (upstream, index) (List.mem_zipIdx_iff_getElem?.mpr found)
  · intro none handle member
    have found := List.mem_of_getElem? (List.mem_zipIdx_iff_getElem?.mp member)
    simpa using none handle.1 found

/-- The least-connections selection is the earliest in pool order among the available
upstreams with the fewest connections. -/
theorem least_of_selectUpstream {draw : Nat} {selected : Handle}
    (isLc : pool.algorithm = .lc) (chosen : (pool.selectUpstream draw).2 = some selected)
    {index : Nat} {other : UpstreamState} (found : pool.upstreams[index]? = some other)
    (available : other.isAvailable = true) :
    selected.1.activeConnections ≤ other.activeConnections ∧
      (other.activeConnections = selected.1.activeConnections → selected.2 ≤ index) := by
  have least : leastConnections pool.healthyUpstreams = some selected := by
    unfold selectUpstream at chosen
    dsimp only at chosen
    split at chosen
    · cases chosen
    · simpa [select, isLc] using chosen
  have member : (other, index) ∈ pool.healthyUpstreams :=
    mem_healthyUpstreams_iff.mpr ⟨found, available⟩
  have sorted := pool.healthyUpstreams_sorted
  obtain ⟨before, after, split, fewer, notMore⟩ := leastConnections_first least
  rw [split] at member sorted
  obtain ⟨-, fromSelected, -⟩ := List.pairwise_append.mp sorted
  rcases List.mem_append.mp member with early | late
  · have strict := fewer _ early
    exact ⟨strict.le, fun same => absurd same strict.ne'⟩
  · rcases List.mem_cons.mp late with rfl | last
    · exact ⟨le_rfl, fun _ => le_rfl⟩
    · exact ⟨notMore _ last, fun _ => ((List.pairwise_cons.mp fromSelected).1 _ last).le⟩

/-- Selection is sound, complete and minimal.  Whatever the upstreams of a pool, its
algorithm, its counter and the numbers that the generator draws in its range, a selection
does not panic.  It returns nothing exactly when no upstream is healthy with a breaker
that is not open, and leaves the counter alone then; otherwise it returns such an upstream
of the pool, and with least connections the earliest of those with the fewest. -/
theorem selectUpstream_sound (pool : UpstreamPool)
    (inRange : ∀ bound, 0 < bound → genRange bound < bound) :
    ∃ after selected, pool.selectUpstream? genRange = some (after, selected) ∧
      (selected = none ↔ ∀ upstream ∈ pool.upstreams,
        ¬ (upstream.mutable.health = .healthy ∧
          upstream.mutable.circuitBreaker.state ≠ .«open»)) ∧
      (selected = none → after = pool) ∧
      ∀ handle, selected = some handle →
        (pool.upstreams[handle.2]? = some handle.1 ∧ handle.1.mutable.health = .healthy ∧
          handle.1.mutable.circuitBreaker.state ≠ .«open») ∧
        (pool.algorithm = .lc → ∀ index other, pool.upstreams[index]? = some other →
          other.mutable.health = .healthy → other.mutable.circuitBreaker.state ≠ .«open» →
          handle.1.activeConnections ≤ other.activeConnections ∧
            (other.activeConnections = handle.1.activeConnections → handle.2 ≤ index)) := by
  have unavailable : pool.healthyUpstreams = [] ↔ ∀ upstream ∈ pool.upstreams,
      ¬ (upstream.mutable.health = .healthy ∧
        upstream.mutable.circuitBreaker.state ≠ .«open») := by
    simp only [healthyUpstreams_eq_nil_iff, ← UpstreamState.isAvailable_iff, Bool.not_eq_true]
  refine ⟨(pool.selectUpstream (genRange pool.healthyUpstreams.length)).1,
    (pool.selectUpstream (genRange pool.healthyUpstreams.length)).2,
    pool.selectUpstream?_eq inRange, ?_, ?_, ?_⟩
  · rw [← unavailable]
    exact selectUpstream_eq_none_iff
  · intro absent
    rw [selectUpstream_of_empty _ (selectUpstream_eq_none_iff.mp absent)]
  · intro handle chosen
    obtain ⟨found, available⟩ := isAvailable_of_selectUpstream chosen
    refine ⟨⟨found, UpstreamState.isAvailable_iff.mp available⟩, ?_⟩
    intro isLc index other isOther healthy notOpen
    exact least_of_selectUpstream isLc chosen isOther
      (UpstreamState.isAvailable_iff.mpr ⟨healthy, notOpen⟩)

/-- A healthy upstream with some connections. -/
def connected (url : String) (connections : Int) : UpstreamState :=
  let fresh := UpstreamState.new "main" url 1 none 0
  { fresh with
    mutable := { fresh.mutable with health := .healthy }
    connectionCount := connections }

/-- Behind an upstream without connections that is not healthy, the last two of three
have the fewest. -/
def tiedPool : UpstreamPool where
  name := "main"
  upstreams :=
    [.new "main" "http://node-a:8000" 1 none 0, connected "http://node-b:8000" 2,
      connected "http://node-c:8000" 1, connected "http://node-d:8000" 1]
  algorithm := .lc
  wrrCounter := 18446744073709551615

theorem selectUpstream_sound_tied :
    ∃ after handle, tiedPool.selectUpstream? (fun _ => 0) = some (after, some handle) ∧
      handle.1.mutable.health = .healthy ∧ handle.1.activeConnections ≤ 1 := by
  obtain ⟨after, selected, isSelected, absent, -, sound⟩ :=
    tiedPool.selectUpstream_sound (fun _ positive => positive)
  cases selected with
  | none => exact absurd (absent.mp rfl) (by decide)
  | some handle =>
      obtain ⟨⟨-, healthy, -⟩, least⟩ := sound handle rfl
      exact ⟨after, handle, isSelected, healthy, (least rfl 2 _ rfl rfl (by decide)).1⟩

end UpstreamPool

end SorobanGate
