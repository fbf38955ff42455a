import SorobanGate.RateLimit.TokenBucket

/-!
# Deleting calls from a history

Over the rationals a verdict depends only on the admitted calls of its own key: calls
on other keys use other buckets, and a rejected call only brings its bucket up to date,
which the next call does as well.
-/

namespace SorobanGate

/-- A call of a history, and whether it stays when others are deleted. -/
structure MarkedCall where
  call : RateCall
  kept : Bool
  deriving DecidableEq, Repr

namespace MarkedCall

/-- The whole history. -/
def original (marked : List MarkedCall) : List RateCall := marked.map call

/-- What is left of it. -/
def remaining (marked : List MarkedCall) : List RateCall := (marked.filter kept).map call

/-- The limiter in the whole history. -/
def step (limiter : TokenBucketRateLimiter .rat) (marked : MarkedCall) :
    Option (TokenBucketRateLimiter .rat) :=
  RateCall.step limiter marked.call

end MarkedCall

namespace RateCall

/-- A call on a key with its verdict. -/
def decided (key : String) (limiter : TokenBucketRateLimiter .rat) (call : RateCall) :
    List (RateCall × Bool) :=
  if call.key = key then [(call, admitted limiter call)] else []

/-- The calls of a history on a key, with their verdicts. -/
def verdicts (key : String) (calls : List RateCall) : List (RateCall × Bool) :=
  Machine.trace step (decided key) (.new .rat) calls

end RateCall

namespace MarkedCall

/-- The verdicts that the calls on a key which are kept have in the whole history. -/
def keptVerdicts (key : String) (marked : List MarkedCall) : List (RateCall × Bool) :=
  Machine.trace step
    (fun limiter marked => if marked.kept then RateCall.decided key limiter marked.call else [])
    (.new .rat) marked

/-- Only calls on other keys and calls that were rejected are deleted. -/
def Spares (key : String) (marked : List MarkedCall) : Prop :=
  Machine.Always step
    (fun limiter marked => marked.kept = false →
      marked.call.key ≠ key ∨ RateCall.admitted limiter marked.call = false)
    (.new .rat) marked

/-- Each key is always used with the same rate and burst. -/
def Uniform (calls : List RateCall) : Prop :=
  ∀ left ∈ calls, ∀ right ∈ calls, left.key = right.key →
    left.requestsPerSecond = right.requestsPerSecond ∧ left.burst = right.burst

/-- The calls are made one after the other. -/
def Ordered (calls : List RateCall) : Prop :=
  calls.Pairwise fun earlier later => earlier.now ≤ later.now

end MarkedCall

namespace RateCall

open MarkedCall (Uniform Ordered)

variable {calls : List RateCall} {limiter : TokenBucketRateLimiter .rat} {call : RateCall}

theorem secs_le_secs {earlier later : Instant} (ordered : earlier ≤ later) :
    secs earlier ≤ secs later :=
  div_le_div_of_nonneg_right (Nat.cast_le.mpr ordered) (by norm_num)

theorem history_ordered (key : String)
    (run : Machine.exec step (.new .rat) calls = some limiter) (ordered : Ordered calls) :
    ((history .rat key calls).Pairwise fun earlier later => earlier.1 ≤ later.1) ∧
      ∀ entry ∈ history .rat key calls, ∃ call ∈ calls, entry.1 = secs call.now := by
  refine Machine.exec_history
    (fun calls _ => Ordered calls →
      ((history .rat key calls).Pairwise fun earlier later => earlier.1 ≤ later.1) ∧
        ∀ entry ∈ history .rat key calls, ∃ call ∈ calls, entry.1 = secs call.now)
    (by simp [history]) ?_ run ordered
  intro calls limiter call next prior ih _ ordered
  obtain ⟨before, -, later⟩ := List.pairwise_append.mp ordered
  obtain ⟨sorted, made⟩ := ih before
  have shownNow : ∀ entry ∈ shown key limiter call, entry.1 = secs call.now := by
    intro entry member
    unfold shown at member
    split at member
    · rw [List.mem_singleton.mp member]
    · cases member
  rw [history_concat call prior]
  refine ⟨List.pairwise_append.mpr ⟨sorted, ?_, ?_⟩, ?_⟩
  · unfold shown
    split <;> simp
  · intro entry isEarlier last isLast
    obtain ⟨earlier, member, isTime⟩ := made entry isEarlier
    rw [isTime, shownNow last isLast]
    exact secs_le_secs (later earlier member call List.mem_cons_self)
  · intro entry member
    rcases List.mem_append.mp member with isEarlier | isLast
    · obtain ⟨earlier, isCall, isTime⟩ := made entry isEarlier
      exact ⟨earlier, List.mem_append_left _ isCall, isTime⟩
    · exact ⟨call, by simp, shownNow entry isLast⟩

/-- A call is admitted when one more unit respects the windows of the admitted calls on
its key. -/
theorem admitted_iff_within (run : Machine.exec step (.new .rat) calls = some limiter)
    (ordered : Ordered (calls ++ [call])) (uniform : Uniform (calls ++ [call])) :
    admitted limiter call = true ↔
      Refill.Within (call.burst.toNat : ℚ) call.requestsPerSecond.toNat
        ((history .rat call.key calls).filter Prod.snd) (secs call.now) 1 := by
  have extended : Machine.exec step (.new .rat) (calls ++ [call]) =
      some (limiter.checkRate call.key call.requestsPerSecond call.burst call.now).1 :=
    Machine.exec_concat_iff.mpr ⟨limiter, run, rfl⟩
  have uses : ∀ other ∈ calls ++ [call], other.key = call.key →
      other.requestsPerSecond = call.requestsPerSecond ∧ other.burst = call.burst :=
    fun other member sameKey => uniform other member call (by simp) sameKey
  have tracks := tracks_of_run ordered uses extended
  have split : history .rat call.key (calls ++ [call]) =
      history .rat call.key calls ++ [(secs call.now, admitted limiter call)] := by
    rw [history_concat call run, shown, if_pos rfl]
  obtain ⟨before, -, later⟩ := List.pairwise_append.mp ordered
  obtain ⟨sorted, made⟩ := history_ordered call.key run before
  have past : ∀ entry ∈ history .rat call.key calls, entry.1 ≤ secs call.now := by
    intro entry member
    obtain ⟨earlier, isCall, isTime⟩ := made entry member
    rw [isTime]
    exact secs_le_secs (later earlier isCall call List.mem_cons_self)
  rw [Refill.within_filter (Nat.cast_nonneg _) sorted past]
  exact tracks.exact _ _ [] split

end RateCall

namespace MarkedCall

variable {key : String} {marked : List MarkedCall} {last : MarkedCall}
  {limiter reduced : TokenBucketRateLimiter .rat}

theorem original_concat (marked : List MarkedCall) (last : MarkedCall) :
    original (marked ++ [last]) = original marked ++ [last.call] := by
  simp [original]

theorem remaining_concat (marked : List MarkedCall) (last : MarkedCall) :
    remaining (marked ++ [last]) =
      remaining marked ++ if last.kept then [last.call] else [] := by
  simp only [remaining, List.filter_append, List.map_append]
  cases isKept : last.kept <;> simp [isKept]

theorem remaining_sublist (marked : List MarkedCall) :
    (remaining marked).Sublist (original marked) :=
  List.filter_sublist.map _

theorem Ordered.sublist {calls fewer : List RateCall} (ordered : Ordered calls)
    (isSublist : fewer.Sublist calls) : Ordered fewer :=
  List.Pairwise.sublist isSublist ordered

theorem Uniform.sublist {calls fewer : List RateCall} (uniform : Uniform calls)
    (isSublist : fewer.Sublist calls) : Uniform fewer :=
  fun left isLeft right isRight =>
    uniform left (isSublist.subset isLeft) right (isSublist.subset isRight)

theorem exec_original (run : Machine.exec step (.new .rat) marked = some limiter) :
    Machine.exec RateCall.step (.new .rat) (original marked) = some limiter := by
  rw [← run]
  exact (Machine.exec_map call _ marked).symm

theorem keptVerdicts_concat (run : Machine.exec step (.new .rat) marked = some limiter) :
    keptVerdicts key (marked ++ [last]) = keptVerdicts key marked ++
      if last.kept then RateCall.decided key limiter last.call else [] :=
  Machine.trace_concat run

/-- What is left of a history has the verdicts of the whole, and the same calls admitted. -/
structure Agrees (key : String) (marked : List MarkedCall) : Prop where
  verdicts : RateCall.verdicts key (remaining marked) = keptVerdicts key marked
  admitted : (RateCall.history .rat key (remaining marked)).filter Prod.snd =
    (RateCall.history .rat key (original marked)).filter Prod.snd

/-- One more call that is deleted: it is for another key, or was rejected. -/
theorem Agrees.skip (agrees : Agrees key marked)
    (run : Machine.exec step (.new .rat) marked = some limiter) (isDeleted : last.kept = false)
    (spared : last.call.key ≠ key ∨ RateCall.admitted limiter last.call = false) :
    Agrees key (marked ++ [last]) := by
  have same : remaining (marked ++ [last]) = remaining marked := by
    simp [remaining_concat, isDeleted]
  refine ⟨?_, ?_⟩
  · rw [same, keptVerdicts_concat run, isDeleted, agrees.verdicts]
    simp
  · rw [same, original_concat, RateCall.history_concat _ (exec_original run),
      List.filter_append, agrees.admitted]
    rcases spared with elsewhere | rejected
    · simp [RateCall.shown, elsewhere]
    · unfold RateCall.shown
      split <;> simp [rejected]

/-- One more call that is kept: with and without the deleted calls the limiter decides it
by the same admitted calls. -/
theorem Agrees.keep (agrees : Agrees key marked)
    (run : Machine.exec step (.new .rat) marked = some limiter) (isKept : last.kept = true)
    (ordered : Ordered (original (marked ++ [last])))
    (uniform : Uniform (original (marked ++ [last]))) :
    Agrees key (marked ++ [last]) := by
  have whole := exec_original run
  obtain ⟨reduced, rest⟩ : ∃ reduced,
      Machine.exec RateCall.step (.new .rat) (remaining marked) = some reduced :=
    Machine.exec_total (fun _ _ _ => ⟨_, rfl⟩) _
  have more : remaining (marked ++ [last]) = remaining marked ++ [last.call] := by
    simp [remaining_concat, isKept]
  have sameVerdict : last.call.key = key →
      RateCall.admitted reduced last.call = RateCall.admitted limiter last.call := by
    rintro rfl
    have isSublist := remaining_sublist (marked ++ [last])
    rw [original_concat] at ordered uniform isSublist
    rw [more] at isSublist
    rw [Bool.eq_iff_iff, RateCall.admitted_iff_within whole ordered uniform,
      RateCall.admitted_iff_within rest (ordered.sublist isSublist)
        (uniform.sublist isSublist), agrees.admitted]
  refine ⟨?_, ?_⟩
  · rw [more, RateCall.verdicts, Machine.trace_concat rest, keptVerdicts_concat run, isKept,
      if_pos rfl]
    refine congrArg₂ (· ++ ·) agrees.verdicts ?_
    unfold RateCall.decided
    split
    next onKey => rw [sameVerdict onKey]
    · rfl
  · rw [more, original_concat, RateCall.history_concat _ rest,
      RateCall.history_concat _ whole, List.filter_append, List.filter_append,
      agrees.admitted]
    unfold RateCall.shown
    split
    next onKey => rw [sameVerdict onKey]
    · rfl

theorem Agrees.concat (agrees : Agrees key marked)
    (run : Machine.exec step (.new .rat) marked = some limiter)
    (ordered : Ordered (original (marked ++ [last])))
    (uniform : Uniform (original (marked ++ [last])))
    (spares : last.kept = false →
      last.call.key ≠ key ∨ RateCall.admitted limiter last.call = false) :
    Agrees key (marked ++ [last]) := by
  cases isKept : last.kept with
  | false => exact agrees.skip run isKept (spares isKept)
  | true => exact agrees.keep run isKept ordered uniform

/-- Verdicts depend only on the admitted calls of the same key.  In every history of
calls at non-decreasing times in which each key is always used with one rate and one
burst, deleting any calls on other keys and any rejected calls on a key changes no
verdict of the calls on that key that remain. -/
theorem verdicts_remaining (key : String) (ordered : Ordered (original marked))
    (uniform : Uniform (original marked)) (spares : Spares key marked) :
    RateCall.verdicts key (remaining marked) = keptVerdicts key marked := by
  obtain ⟨limiter, run⟩ : ∃ limiter, Machine.exec step (.new .rat) marked = some limiter :=
    Machine.exec_total (fun _ _ _ => ⟨_, rfl⟩) _
  have agrees : Agrees key marked := by
    refine Machine.exec_history
      (fun marked _ => Ordered (original marked) → Uniform (original marked) →
        Spares key marked → Agrees key marked)
      ?_ ?_ run ordered uniform spares
    · intro _ _ _
      exact ⟨rfl, rfl⟩
    · intro marked limiter last next prior ih _ ordered uniform spares
      have shorter : (original marked).Sublist (original (marked ++ [last])) :=
        (List.sublist_append_left _ _).map _
      exact (ih (ordered.sublist shorter) (uniform.sublist shorter) spares.init).concat prior
        ordered uniform (spares.last prior)
  exact agrees.verdicts

/-- Two calls of a burst of one on a key, a rejected one between them, which is deleted
together with a call on another key. -/
def thinned : List MarkedCall :=
  [⟨⟨"a", 1, 1, 0⟩, true⟩, ⟨⟨"b", 2, 3, 0⟩, false⟩, ⟨⟨"a", 1, 1, 500000000⟩, false⟩,
    ⟨⟨"a", 1, 1, 1000000000⟩, true⟩]

theorem verdicts_remaining_thinned :
    RateCall.verdicts "a" (remaining thinned) =
      [(⟨"a", 1, 1, 0⟩, true), (⟨"a", 1, 1, 1000000000⟩, true)] := by
  have ordered : Ordered (original thinned) := by
    unfold Ordered
    decide
  have uniform : Uniform (original thinned) := by
    unfold Uniform
    decide
  have spares : Spares "a" thinned := Machine.always_of_trace (by decide +kernel)
  rw [verdicts_remaining "a" ordered uniform spares]
  decide +kernel

end MarkedCall

end SorobanGate
