import SorobanGate.Listener.Load
import SorobanGate.Site.Keys

/-!
# What reaches the upstreams

From a connection to the main listener to an upstream, end to end: where a key is
required, what the proxy handler sends to the upstreams are bodies of requests with a key
that the admin interface had created before, each of them is sent at most once, and the
limits of the tiers bound how many there are.
-/

namespace SorobanGate

variable {arith : TokenArith} {deployment : Deployment}

/-- The key that the request of a beat presents. -/
def Beat.presents (deployment : Deployment) (beat : Beat) : Option String :=
  match beat.happening with
  | .request web => extractApiKey deployment.backend.parseQuery web.http
  | _ => none

/-- The request of a beat, if it presents one of some keys. -/
def Beat.keyed (deployment : Deployment) (keys : List String) (beat : Beat) : List WebRequest :=
  match beat.happening with
  | .request web => if (beat.presents deployment).any (· ∈ keys) then [web] else []
  | _ => []

/-- All keys that requests of a run present. -/
def presentedKeys (deployment : Deployment) (beats : List Beat) : List String :=
  beats.filterMap (Beat.presents deployment)

/-- No two of the keys that a run uses collide. -/
def CollisionlessRun (deployment : Deployment) (beats : List Beat) : Prop :=
  deployment.backend.crypto.Collisionless
    (presentedKeys deployment beats ++ Site.askedKeys deployment beats)

namespace CollisionlessRun

variable {beats before after : List Beat} {beat : Beat}

theorem used (collisionless : CollisionlessRun deployment beats) {keys : List String}
    (within : keys ⊆ presentedKeys deployment beats ++ Site.askedKeys deployment beats) :
    deployment.backend.crypto.Collisionless keys :=
  fun left isLeft right isRight => collisionless left (within isLeft) right (within isRight)

theorem init (collisionless : CollisionlessRun deployment (beats ++ after)) :
    CollisionlessRun deployment beats := by
  refine collisionless.used (List.append_subset.mpr ⟨?_, ?_⟩)
  · rw [presentedKeys, presentedKeys, List.filterMap_append]
    exact fun key member => List.mem_append_left _ (List.mem_append_left _ member)
  · simp only [Site.askedKeys, keyOps, List.flatMap_append, KeyOp.rawKeys, List.filterMap_append]
    exact fun key member => List.mem_append_right _ (List.mem_append_left _ member)

theorem at_beat (collisionless : CollisionlessRun deployment (before ++ beat :: after)) :
    deployment.backend.crypto.Collisionless
      ((beat.presents deployment).toList ++ Site.askedKeys deployment before) := by
  refine collisionless.used (List.append_subset.mpr ⟨?_, ?_⟩)
  · intro key member
    have isKey := Option.mem_toList.mp member
    exact List.mem_append_left _ (List.mem_filterMap.mpr ⟨beat, by simp, isKey⟩)
  · simp only [Site.askedKeys, keyOps, List.flatMap_append, KeyOp.rawKeys, List.filterMap_append]
    exact fun key member => List.mem_append_right _ (List.mem_append_left _ member)

end CollisionlessRun

namespace Site

/-- The requests of a run that present a key granted before they came in. -/
def entitled (deployment : Deployment) (arith : TokenArith) (start : Instant)
    (beats : List Beat) : List WebRequest :=
  beats.zipIdx.flatMap fun entry =>
    entry.1.keyed deployment
      ((granted deployment arith start (beats.take entry.2)).map Prod.fst)

/-- The moments of a run at the main listener. -/
def allMoments (deployment : Deployment) (arith : TokenArith) (store : SqliteKeyStore)
    (start : Instant) (beats : List Beat) : List Moment :=
  Machine.trace (step deployment) (moments deployment) (init deployment arith store start) beats

/-- The bodies that the proxy handler sends to the upstreams; probes send others. -/
def forwarded (deployment : Deployment) (arith : TokenArith) (store : SqliteKeyStore)
    (start : Instant) (beats : List Beat) : List Bytes :=
  (Listener.forwarded deployment.backend deployment.settings arith store start
    (allMoments deployment arith store start beats)).map Prod.snd

variable {site : Site arith} {start : Instant} {beats : List Beat}

theorem entitled_concat (beats : List Beat) (beat : Beat) :
    entitled deployment arith start (beats ++ [beat]) =
      entitled deployment arith start beats ++
        beat.keyed deployment ((granted deployment arith start beats).map Prod.fst) := by
  have earlier : ∀ entry ∈ beats.zipIdx,
      (beats ++ [beat]).take entry.2 = beats.take entry.2 := by
    rintro ⟨found, index⟩ member
    have inside := (List.getElem?_eq_some_iff.mp (List.mem_zipIdx_iff_getElem?.mp member)).1
    exact List.take_append_of_le_length inside.le
  rw [entitled, List.zipIdx_append, List.flatMap_append]
  congr 1
  · refine List.flatMap_congr fun entry member => ?_
    rw [earlier entry member]
  · simp

theorem request_of_occurrences {site : Site arith} {beat : Beat} {web : WebRequest}
    (member : .request web ∈ site.occurrences deployment beat) :
    beat.happening = .request web := by
  obtain ⟨time, happening⟩ := beat
  cases happening with
  | request other =>
      cases List.mem_singleton.mp member
      rfl
  | admin request ambient =>
      simp only [occurrences, Deployment.adminOccurrences] at member
      split at member
      next call called =>
        obtain ⟨handler, rfl⟩ := adminCall_plain called
        cases handler with
        | keysCreate => simp [Deployment.callOccurrences] at member
        | _ => simp [Deployment.callOccurrences] at member
      · cases member
  | monitor act =>
      obtain ⟨effect, -, isBackground⟩ := List.mem_map.mp member
      cases isBackground
  | _ => cases List.mem_singleton.mp member

/-- What a beat lets past the middlewares presents a key that was granted. -/
theorem admits_sublist_keyed (enabled : deployment.settings.config.auth.enabled = true)
    (required : deployment.settings.config.auth.allowUnauthenticated = false)
    (exact : deployment.backend.crypto.Argon2Exact)
    (run : Run deployment .new start beats site) {beat : Beat}
    (collisionless : deployment.backend.crypto.Collisionless
      ((beat.presents deployment).toList ++ askedKeys deployment beats))
    {listener : Listener arith} (sameStore : listener.keyStore = site.listener.keyStore) :
    (Machine.trace (Listener.step deployment.backend deployment.settings)
        (Listener.admits deployment.backend deployment.settings) listener
        (site.moments deployment beat)).Sublist
      (beat.keyed deployment ((granted deployment arith start beats).map Prod.fst)) := by
  by_cases isRequest : ∃ web, beat.happening = .request web
  · obtain ⟨web, isRequest⟩ := isRequest
    have single : site.moments deployment beat = [⟨beat.time, .request web⟩] := by
      simp [moments, occurrences, isRequest]
    rw [single, Machine.trace_singleton]
    rcases listener.admits_cases ⟨beat.time, .request web⟩ with
      nothing | ⟨other, passed, isOther, isPassed, -, admits⟩
    · rw [nothing]
      exact List.nil_sublist _
    · cases isOther
      rw [sameStore] at isPassed
      have presents : beat.presents deployment =
          extractApiKey deployment.backend.parseQuery web.http := by
        simp [Beat.presents, isRequest]
      rw [presents] at collisionless
      obtain ⟨key, tier, presented, -, isGranted⟩ :=
        granted_of_passed enabled required exact run collisionless isPassed
      have isKey : key ∈ (granted deployment arith start beats).map Prod.fst :=
        List.mem_map.mpr ⟨(key, tier), isGranted, rfl⟩
      have keyed : beat.keyed deployment
          ((granted deployment arith start beats).map Prod.fst) = [web] := by
        simp only [Beat.keyed, isRequest, presents, presented, Option.any_some]
        rw [if_pos (decide_eq_true isKey)]
      rw [admits, keyed]
  · have silent : Machine.trace (Listener.step deployment.backend deployment.settings)
        (Listener.admits deployment.backend deployment.settings) listener
        (site.moments deployment beat) = [] := by
      refine List.eq_nil_iff_forall_not_mem.mpr fun web member => ?_
      obtain ⟨moment, isMoment, reached, shown⟩ := Machine.exists_of_mem_trace member
      obtain ⟨occurrence, isOccurrence, rfl⟩ := List.mem_map.mp isMoment
      rcases reached.admits_cases ⟨beat.time, occurrence⟩ with
        nothing | ⟨other, passed, isOther, -⟩
      · rw [nothing] at shown
        cases shown
      · obtain rfl : occurrence = .request other := isOther
        exact isRequest ⟨other, request_of_occurrences isOccurrence⟩
    rw [silent]
    exact List.nil_sublist _

/-- What the main listener lets past in a run presents a key that was granted before. -/
theorem admitted_sublist_entitled (enabled : deployment.settings.config.auth.enabled = true)
    (required : deployment.settings.config.auth.allowUnauthenticated = false)
    (exact : deployment.backend.crypto.Argon2Exact)
    (collisionless : CollisionlessRun deployment beats)
    (run : Run deployment .new start beats site) :
    (Listener.admitted deployment.backend deployment.settings arith .new start
        (allMoments deployment arith .new start beats)).Sublist
      (entitled deployment arith start beats) := by
  revert collisionless
  refine Machine.exec_history
    (fun beats (_ : Site arith) => CollisionlessRun deployment beats →
      (Listener.admitted deployment.backend deployment.settings arith .new start
          (allMoments deployment arith .new start beats)).Sublist
        (entitled deployment arith start beats))
    (fun _ => List.nil_sublist _) ?_ run
  intro beats site beat next prior ih stepped collisionless
  obtain ⟨listener, isRun, mirrors⟩ := listener_of_run prior
  have extended : Listener.admitted deployment.backend deployment.settings arith .new start
      (allMoments deployment arith .new start (beats ++ [beat])) =
        Listener.admitted deployment.backend deployment.settings arith .new start
          (allMoments deployment arith .new start beats) ++
        Machine.trace (Listener.step deployment.backend deployment.settings)
          (Listener.admits deployment.backend deployment.settings) listener
          (site.moments deployment beat) := by
    rw [allMoments, Machine.trace_concat prior]
    exact Machine.trace_append isRun
  rw [extended, entitled_concat]
  exact (ih collisionless.init).append (admits_sublist_keyed enabled required exact prior
    collisionless.at_beat mirrors.keyStore)

/-- Nothing reaches an upstream without a key.  In every run of a server that requires
keys, started with an empty store, and however its requests, the admin interface and the
health checks are interleaved, the bodies that the proxy handler sends to the upstreams are,
one for one, bodies of requests with a key that an earlier request to the admin interface
had created. -/
theorem forwarded_subperm_entitled
    (enabled : deployment.settings.config.auth.enabled = true)
    (required : deployment.settings.config.auth.allowUnauthenticated = false)
    (exact : deployment.backend.crypto.Argon2Exact)
    (collisionless : CollisionlessRun deployment beats)
    (run : Run deployment .new start beats site) :
    (forwarded deployment arith .new start beats).Subperm
      ((entitled deployment arith start beats).map WebRequest.body) := by
  obtain ⟨listener, isRun, -⟩ := listener_of_run run
  exact (Listener.custody_of_run isRun).subperm.trans
    ((admitted_sublist_entitled enabled required exact collisionless run).map _).subperm

/-- The one body that the small server sends is that of the request with the key. -/
theorem forwarded_subperm_entitled_keyed :
    forwarded smallDeployment .rat .new 0 keyedBeats = [keyedCall.body] ∧
      (forwarded smallDeployment .rat .new 0 keyedBeats).Subperm
        ((entitled smallDeployment .rat 0 keyedBeats).map WebRequest.body) := by
  obtain ⟨site, run⟩ := keyedBeats_run
  have collisionless : CollisionlessRun smallDeployment keyedBeats := by
    unfold CollisionlessRun
    decide +kernel
  exact ⟨by decide +kernel,
    forwarded_subperm_entitled rfl rfl smallBackend_argon2Exact collisionless run⟩

/-! ## How much -/

/-- The tiers of the keys that a run creates are in the configuration. -/
def TiersConfigured (deployment : Deployment) (arith : TokenArith) (start : Instant)
    (beats : List Beat) : Prop :=
  ∀ entry ∈ granted deployment arith start beats,
    ((authTiers deployment.settings.config.auth).lookup entry.2).isSome = true

theorem tiered_of_run (enabled : deployment.settings.config.auth.enabled = true)
    (required : deployment.settings.config.auth.allowUnauthenticated = false)
    (exact : deployment.backend.crypto.Argon2Exact)
    (collisionless : CollisionlessRun deployment beats)
    (configured : TiersConfigured deployment arith start beats)
    (run : Run deployment .new start beats site) :
    Machine.Always (Listener.step deployment.backend deployment.settings)
      (Listener.Tiered deployment.backend deployment.settings)
      (.init deployment.settings arith .new start)
      (allMoments deployment arith .new start beats) := by
  refine Machine.Always.refines Mirrors
    (fun _ _ _ _ mirrors stepped => mirrors_step mirrors stepped) ?_
    (⟨rfl, le_rfl⟩ : (init deployment arith .new start).Mirrors _) run
  rintro before beat after site listener next rfl prior mirrors stepped
  intro first found rest state split reached web passed isRequest isPassed
  obtain ⟨time, occurrence⟩ := found
  obtain rfl : occurrence = .request web := isRequest
  have isMember : ⟨time, .request web⟩ ∈ site.moments deployment beat := by simp [split]
  obtain ⟨occurrence, isOccurrence, same⟩ := List.mem_map.mp isMember
  cases same
  have isBeat := request_of_occurrences isOccurrence
  -- A request is all that its beat comes to, so the listener is as it was.
  have single : site.moments deployment beat = [⟨beat.time, .request web⟩] := by
    simp [moments, occurrences, isBeat]
  obtain rfl : first = [] := by
    rw [single] at split
    cases first with
    | nil => rfl
    | cons head tail => simp at split
  cases reached
  rw [mirrors.keyStore] at isPassed
  have presents : beat.presents deployment =
      extractApiKey deployment.backend.parseQuery web.http := by
    simp [Beat.presents, isBeat]
  obtain ⟨key, tier, -, isTier, isGranted⟩ := granted_of_passed enabled required exact prior
    (presents ▸ collisionless.at_beat) isPassed
  have whole : (key, tier) ∈ granted deployment arith start (before ++ beat :: after) := by
    rw [granted, Machine.trace_append prior]
    exact List.mem_append_left _ isGranted
  obtain ⟨found, isFound⟩ := Option.isSome_iff_exists.mp (configured _ whole)
  exact ⟨found, by rw [isTier, Option.bind_some, isFound]⟩

/-- The upstreams are protected.  In every run of a server that requires keys and limits
requests, and all of whose keys have a configured tier, the proxy handler sends no more to
the upstreams than the limits of all tiers together allow in the time that has passed. -/
theorem forwarded_le_tiers {site : Site .rat}
    (enabled : deployment.settings.config.auth.enabled = true)
    (required : deployment.settings.config.auth.allowUnauthenticated = false)
    (limited : deployment.settings.config.rateLimit.enabled = true)
    (exact : deployment.backend.crypto.Argon2Exact)
    (collisionless : CollisionlessRun deployment beats)
    (configured : TiersConfigured deployment .rat start beats)
    (run : Run deployment .new start beats site) :
    ((forwarded deployment .rat .new start beats).length : ℚ) ≤
      ((keyTiers deployment.settings.config.auth).map fun tier =>
        (tier.burst.toNat + tier.requestsPerSecond.toNat *
          (RateCall.secs site.clock - RateCall.secs start) : ℚ)).sum := by
  obtain ⟨listener, isRun, mirrors⟩ := listener_of_run run
  have sent : (forwarded deployment .rat .new start beats).length ≤
      (Listener.admitted deployment.backend deployment.settings .rat .new start
        (allMoments deployment .rat .new start beats)).length := by
    rw [← List.length_map WebRequest.body]
    exact (Listener.custody_of_run isRun).subperm.length_le
  refine (Nat.cast_le.mpr sent).trans ((Listener.admitted_le_tiers limited isRun
    (tiered_of_run enabled required exact collisionless configured run)).trans ?_)
  refine List.sum_le_sum fun tier _ => ?_
  have later : RateCall.secs listener.gateway.clock ≤ RateCall.secs site.clock := by
    unfold RateCall.secs
    have := mirrors.2
    gcongr
  gcongr

/-- What the small server sends is within the limits of its one tier. -/
theorem forwarded_le_tiers_keyed :
    ∃ site : Site .rat, Run smallDeployment .new 0 keyedBeats site ∧
      ((forwarded smallDeployment .rat .new 0 keyedBeats).length : ℚ) ≤
        ((keyTiers smallDeployment.settings.config.auth).map fun tier =>
          (tier.burst.toNat + tier.requestsPerSecond.toNat *
            (RateCall.secs site.clock - RateCall.secs 0) : ℚ)).sum := by
  obtain ⟨site, run⟩ := keyedBeats_run
  have collisionless : CollisionlessRun smallDeployment keyedBeats := by
    unfold CollisionlessRun
    decide +kernel
  have configured : TiersConfigured smallDeployment .rat 0 keyedBeats := by
    unfold TiersConfigured
    decide +kernel
  exact ⟨site, run, forwarded_le_tiers rfl rfl rfl smallBackend_argon2Exact collisionless
    configured run⟩

end Site

end SorobanGate
