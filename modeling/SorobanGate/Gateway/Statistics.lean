import SorobanGate.Gateway.Cache
import SorobanGate.Gateway.Counting

/-!
# Two accounts of the cache

The cache counts its own hits and misses for the admin interface and forgets them when it
is flushed; the metrics count the same lookups and never forget.  Over any stretch of a
run without a flush both grow alike, and an eviction is counted nowhere.
-/

namespace SorobanGate

/-! ## What the cache counts -/

namespace MemoryCache

variable {cache middle next : MemoryCache} {hits misses moreHits moreMisses : Nat}

/-- The counters after some hits and misses more. -/
structure Grown (cache next : MemoryCache) (hits misses : Nat) : Prop where
  hits : next.hitCount = cache.hitCount + .ofNat hits
  misses : next.missCount = cache.missCount + .ofNat misses
  evictions : next.evictionCount = cache.evictionCount

theorem Grown.refl (cache : MemoryCache) : Grown cache cache 0 0 :=
  ⟨by simp, by simp, rfl⟩

theorem Grown.trans (first : Grown cache middle hits misses)
    (second : Grown middle next moreHits moreMisses) :
    Grown cache next (hits + moreHits) (misses + moreMisses) := by
  refine ⟨?_, ?_, second.evictions.trans first.evictions⟩
  · rw [second.hits, first.hits, UInt64.ofNat_add, UInt64.add_assoc]
  · rw [second.misses, first.misses, UInt64.ofNat_add, UInt64.add_assoc]

/-- An operation that is neither a lookup nor a flush. -/
def Quiet : CacheOp → Prop
  | .get _ _ | .flush => False
  | .set _ _ _ _ | .delete _ | .evict _ => True

end MemoryCache

/-! ## What the metrics count -/

namespace Count

end Count

/-! ## Both of them -/

variable {settings : Settings}

namespace Gateway

variable {start : Instant} {events rest : List Timed} {gateway next : Gateway} {timed : Timed}

theorem quiet_of_other (noArrival : ∀ body, timed.event ≠ .receive body)
    (noFlush : timed.event ≠ .background .flush) :
    ∀ op ∈ gateway.cacheOps settings timed, MemoryCache.Quiet op := by
  intro op member
  unfold cacheOps at member
  split at member
  next body _ isArrival => exact absurd isArrival (noArrival body)
  · obtain ⟨stored, -, rfl⟩ := List.mem_map.mp member
    trivial
  next event _ isEvent =>
    cases event with
    | flush => exact absurd isEvent noFlush
    | evict slot =>
        obtain rfl := List.mem_singleton.mp member
        trivial
    | _ => cases member
  · cases member

end Gateway

end SorobanGate
