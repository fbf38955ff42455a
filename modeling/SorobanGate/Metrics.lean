import SorobanGate.Basic
import Mathlib.Algebra.Ring.Nat

/-!
# Metrics

The counter families that the request path increments.  The duration histograms
record measurements only and are left out.
-/

namespace SorobanGate

structure RequestLabels where
  method : String
  pool : String
  status : String
  cached : String
  deriving DecidableEq, Repr

structure MethodLabels where
  method : String
  deriving DecidableEq, Repr

structure TierReasonLabels where
  tier : String
  reason : String
  deriving DecidableEq, Repr

/-- A family of counters, one for each set of labels seen so far. -/
abbrev Family (Labels : Type) := HashMap Labels Nat

/-- Increment the counter of a set of labels, creating it at zero. -/
def Family.inc {Labels : Type} [DecidableEq Labels] (family : Family Labels)
    (labels : Labels) : Family Labels :=
  family.insert labels ((family.lookup labels).getD 0 + 1)

/-- What the counter of a set of labels reads, zero before it is first incremented. -/
def Family.count {Labels : Type} [DecidableEq Labels] (family : Family Labels)
    (labels : Labels) : Nat :=
  (family.lookup labels).getD 0

/-- What all counters of a family read together. -/
def Family.total {Labels : Type} (family : Family Labels) : Nat :=
  (family.entries.map fun entry => entry.2).sum

structure Metrics where
  requestsTotal : Family RequestLabels
  cacheHitsTotal : Family MethodLabels
  cacheMissesTotal : Family MethodLabels
  rateLimitRejectionsTotal : Family TierReasonLabels

namespace Metrics

def new : Metrics where
  requestsTotal := ∅
  cacheHitsTotal := ∅
  cacheMissesTotal := ∅
  rateLimitRejectionsTotal := ∅

/-- Count a request under its labels. -/
def countRequest (labels : RequestLabels) (metrics : Metrics) : Metrics :=
  { metrics with requestsTotal := metrics.requestsTotal.inc labels }

def countHit (method : String) (metrics : Metrics) : Metrics :=
  { metrics with cacheHitsTotal := metrics.cacheHitsTotal.inc ⟨method⟩ }

def countMiss (method : String) (metrics : Metrics) : Metrics :=
  { metrics with cacheMissesTotal := metrics.cacheMissesTotal.inc ⟨method⟩ }

def countRejection (labels : TierReasonLabels) (metrics : Metrics) : Metrics :=
  { metrics with
    rateLimitRejectionsTotal := metrics.rateLimitRejectionsTotal.inc labels }

/-- All requests counted so far, whatever their labels. -/
def requests (metrics : Metrics) : Nat := metrics.requestsTotal.total

/-- All lookups in the cache counted so far: `cache_hits_total` plus
`cache_misses_total`. -/
def lookups (metrics : Metrics) : Nat :=
  metrics.cacheHitsTotal.total + metrics.cacheMissesTotal.total

end Metrics

/-! ## Incrementing -/

namespace Family

variable {Labels : Type} [DecidableEq Labels]

theorem count_inc (family : Family Labels) (labels other : Labels) :
    (family.inc labels).count other =
      family.count other + if labels = other then 1 else 0 := by
  unfold count inc
  by_cases same : labels = other
  · subst same
    rw [AList.lookup_insert, Option.getD_some, if_pos rfl]
  · rw [AList.lookup_insert_ne (Ne.symm same), if_neg same, Nat.add_zero]

/-- An entry and the rest of the list add up to the list. -/
theorem sum_kerase (labels : Labels) (entries : List (Sigma fun _ : Labels => Nat)) :
    (entries.dlookup labels).getD 0 +
        ((entries.kerase labels).map fun entry => entry.2).sum =
      (entries.map fun entry => entry.2).sum := by
  induction entries with
  | nil => simp
  | cons entry entries ih =>
      by_cases same : labels = entry.1
      · subst same
        rw [List.kerase_cons_eq rfl, List.dlookup_cons_eq, Option.getD_some, List.map_cons,
          List.sum_cons]
      · rw [List.kerase_cons_ne same, List.dlookup_cons_ne _ _ same, List.map_cons,
          List.map_cons, List.sum_cons, List.sum_cons, ← ih]
        omega

theorem total_inc (family : Family Labels) (labels : Labels) :
    (family.inc labels).total = family.total + 1 := by
  have parts := sum_kerase labels family.entries
  simp only [total, inc, AList.entries_insert, List.map_cons, List.sum_cons, AList.lookup]
  omega

end Family

end SorobanGate
