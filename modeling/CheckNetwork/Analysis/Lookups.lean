import CheckNetwork.Analysis.Emitted
import Mathlib.Algebra.Order.BigOperators.Group.List
import Mathlib.Algebra.Module.NatInt

/-!
# Bounds of the enrichment coverage

A checker makes at most as many lookups as the analysis allows a result, and
a report of at most the allowed number of results merges them without reaching
the bound of the aggregate.
-/

namespace CheckNetwork.Analysis

open Diagnostic Go
open CheckNetwork.Trace (GeoIP Lookup Recorded Shaped geoIPFailureKinds validGeoIPErrorKind
  geoIPFailureRetryable enrichmentFailureCount enrichmentSource coverageOf publicAddresses
  normalizedGeoIPFailure boundedGeoIPAgeMS defaultGeoIPCacheTTLMS)

/-! ## Failures -/

/-- The failures with a positive count, in the order of their kinds. -/
def reported (counts : GeoIPErrorKind → Int) : List EnrichmentFailure :=
  geoIPFailureKinds.filterMap fun kind =>
    if 0 < counts kind then some ⟨kind, counts kind, geoIPFailureRetryable kind⟩ else none

/-- The failures of one kind. -/
def countOf (failures : List EnrichmentFailure) (kind : GeoIPErrorKind) : Int :=
  ((failures.filter fun failure => failure.kind = kind).map EnrichmentFailure.count).sum

section Reported

variable {counts : GeoIPErrorKind → Int}

theorem map_kind_reported :
    (reported counts).map EnrichmentFailure.kind =
      geoIPFailureKinds.filter fun kind => 0 < counts kind := by
  unfold reported
  rw [List.map_filterMap, ← List.filterMap_eq_filter]
  refine List.filterMap_congr fun kind _ => ?_
  by_cases positive : 0 < counts kind <;> simp [positive, Option.guard]

theorem mem_reported {failure : EnrichmentFailure} :
    failure ∈ reported counts ↔ failure.kind ∈ geoIPFailureKinds ∧ 0 < counts failure.kind ∧
      failure.count = counts failure.kind ∧
        failure.retryable = geoIPFailureRetryable failure.kind := by
  unfold reported
  rw [List.mem_filterMap]
  constructor
  · rintro ⟨kind, member, found⟩
    split at found
    · rename_i positive
      cases found
      exact ⟨member, positive, rfl, rfl⟩
    · cases found
  · rintro ⟨member, positive, count_eq, retryable_eq⟩
    refine ⟨failure.kind, member, ?_⟩
    rw [if_pos positive, ← count_eq, ← retryable_eq]

theorem sum_reported (nonneg : ∀ kind, 0 ≤ counts kind) :
    enrichmentFailureCount (reported counts) = (geoIPFailureKinds.map counts).sum := by
  unfold enrichmentFailureCount reported
  induction geoIPFailureKinds with
  | nil => rfl
  | cons kind kinds ih =>
      rw [List.filterMap_cons, List.map_cons, List.sum_cons, ← ih]
      by_cases positive : 0 < counts kind
      · simp [positive]
      · have zero : counts kind = 0 := by
          have := nonneg kind
          omega
        simp [zero]

theorem valid_reported (le : ∀ kind, counts kind ≤ maxGeoIPLookupsPerResult) :
    validEnrichmentFailures (reported counts) = true := by
  have length_le : (reported counts).length ≤ geoIPFailureKinds.length := by
    unfold reported
    exact List.length_filterMap_le _ _
  have nodup : ((reported counts).map EnrichmentFailure.kind).Nodup := by
    rw [map_kind_reported]
    exact List.Nodup.filter _ (by decide)
  simp only [validEnrichmentFailures, Bool.and_eq_true, decide_eq_true_eq, List.all_eq_true]
  refine ⟨⟨length_le, ?_⟩, nodup⟩
  intro failure member
  obtain ⟨known, positive, count_eq, retryable_eq⟩ := mem_reported.mp member
  refine ⟨⟨⟨?_, ?_⟩, ?_⟩, retryable_eq⟩
  · simpa [validGeoIPErrorKind] using known
  · rwa [count_eq]
  · rw [count_eq]
    exact le _

/-- A list that names every kind once counts it once. -/
theorem countOf_reported_le (nonneg : ∀ kind, 0 ≤ counts kind) (kind : GeoIPErrorKind) :
    countOf (reported counts) kind ≤ counts kind := by
  have nodup : ((reported counts).map EnrichmentFailure.kind).Nodup := by
    rw [map_kind_reported]
    exact List.Nodup.filter _ (by decide)
  have known : ∀ failure ∈ reported counts, failure.count = counts failure.kind :=
    fun failure member => (mem_reported.mp member).2.2.1
  revert nodup known
  generalize reported counts = failures
  unfold countOf
  induction failures with
  | nil =>
      intro _ _
      simpa using nonneg kind
  | cons failure failures ih =>
      intro nodup known
      rw [List.map_cons, List.nodup_cons] at nodup
      by_cases same : failure.kind = kind
      · have rest : failures.filter (fun failure => failure.kind = kind) = [] := by
          rw [List.filter_eq_nil_iff]
          intro other member equal
          refine nodup.1 ?_
          rw [same, ← of_decide_eq_true equal]
          exact List.mem_map_of_mem member
        rw [List.filter_cons_of_pos (by simpa using same), rest, List.map_singleton,
          List.sum_singleton, known failure List.mem_cons_self, same]
      · rw [List.filter_cons_of_neg (by simpa using same)]
        exact ih nodup.2 fun other member => known other (List.mem_cons_of_mem _ member)

end Reported

theorem countOf_append (left right : List EnrichmentFailure) (kind : GeoIPErrorKind) :
    countOf (left ++ right) kind = countOf left kind + countOf right kind := by
  simp [countOf]

theorem countOf_perm {left right : List EnrichmentFailure} (perm : left.Perm right)
    (kind : GeoIPErrorKind) : countOf left kind = countOf right kind :=
  ((perm.filter _).map _).sum_eq

theorem countOf_cons (failure : EnrichmentFailure) (rest : List EnrichmentFailure)
    (kind : GeoIPErrorKind) :
    countOf (failure :: rest) kind =
      (if failure.kind = kind then failure.count else 0) + countOf rest kind := by
  unfold countOf
  by_cases same : failure.kind = kind <;> simp [same]

theorem countOf_nonneg {failures : List EnrichmentFailure}
    (nonneg : ∀ failure ∈ failures, 0 ≤ failure.count) (kind : GeoIPErrorKind) :
    0 ≤ countOf failures kind := by
  refine List.sum_nonneg ?_
  intro count member
  obtain ⟨failure, failureMem, rfl⟩ := List.mem_map.mp member
  exact nonneg failure (List.mem_filter.mp failureMem).1

/-- Counting stays within a limit that no kind exceeds. -/
theorem foldlM_countFailure {limit : Int} {failures : List EnrichmentFailure}
    (nonneg : ∀ failure ∈ failures, 0 ≤ failure.count) (start : GeoIPErrorKind → Int)
    (within : ∀ kind, start kind + countOf failures kind ≤ limit) :
    failures.foldlM (countFailure limit) start =
      some fun kind => start kind + countOf failures kind := by
  induction failures generalizing start with
  | nil => simp [countOf]
  | cons failure rest ih =>
      have restNonneg : ∀ other ∈ rest, 0 ≤ other.count := fun other member =>
        nonneg other (List.mem_cons_of_mem _ member)
      have here := within failure.kind
      rw [countOf_cons, if_pos rfl] at here
      have tail := countOf_nonneg restNonneg failure.kind
      have room : ¬limit - failure.count < start failure.kind := by omega
      rw [List.foldlM_cons, countFailure, if_neg room, Option.bind_eq_bind, Option.bind_some]
      have step : ∀ kind, Function.update start failure.kind
          (start failure.kind + failure.count) kind + countOf rest kind =
            start kind + countOf (failure :: rest) kind := by
        intro kind
        rw [countOf_cons]
        by_cases same : kind = failure.kind
        · subst same
          rw [Function.update_self, if_pos rfl, add_assoc]
        · rw [Function.update_of_ne same, if_neg (Ne.symm same), zero_add]
      rw [ih restNonneg _ fun kind => by rw [step]; exact within kind]
      simp only [step]

/-! ## Merging -/

/-- A coverage whose counters and failures stay within a bound. -/
structure Within (bound : Int) (coverage : EnrichmentCoverage) : Prop where
  cacheHits : 0 ≤ coverage.cacheHits ∧ coverage.cacheHits ≤ bound
  upstreamFetches : 0 ≤ coverage.upstreamFetches ∧ coverage.upstreamFetches ≤ bound
  failures : ∃ failures, coverage.failures = some failures ∧
    (∀ failure ∈ failures, 0 ≤ failure.count) ∧ ∀ kind, countOf failures kind ≤ bound

/-- Bounds add up when coverages merge. -/
theorem within_merge {left right : Int} {aggregate addition : EnrichmentCoverage}
    (aggregateWithin : Within left aggregate) (additionWithin : Within right addition)
    (le : left + right ≤ maxTargets * maxGeoIPLookupsPerResult)
    (rest : List EnrichmentCoverage) :
    ∃ merged, mergeEnrichmentCoverage (aggregate :: rest) addition = some (merged :: rest) ∧
      Within (left + right) merged := by
  obtain ⟨hits, upstream, old, old_eq, oldNonneg, oldLe⟩ := aggregateWithin
  obtain ⟨newHits, newUpstream, new, new_eq, newNonneg, newLe⟩ := additionWithin
  have nonneg : ∀ failure ∈ old ++ new, 0 ≤ failure.count := by
    intro failure member
    rcases List.mem_append.mp member with first | last
    · exact oldNonneg failure first
    · exact newNonneg failure last
  have within : ∀ kind, countOf (old ++ new) kind ≤ left + right := by
    intro kind
    rw [countOf_append]
    exact add_le_add (oldLe kind) (newLe kind)
  have counted := foldlM_countFailure nonneg (fun _ => 0) fun kind => by
    rw [zero_add]
    exact (within kind).trans le
  simp only [zero_add] at counted
  have room : ¬(maxTargets * maxGeoIPLookupsPerResult - addition.cacheHits < aggregate.cacheHits ∨
      maxTargets * maxGeoIPLookupsPerResult - addition.upstreamFetches <
        aggregate.upstreamFetches) := by
    omega
  have counts_nonneg := countOf_nonneg nonneg
  have merged_eq : mergeEnrichmentCoverage (aggregate :: rest) addition = some
      ({ aggregate with
          source := enrichmentSource (aggregate.cacheHits + addition.cacheHits)
            (aggregate.upstreamFetches + addition.upstreamFetches)
          cacheHits := aggregate.cacheHits + addition.cacheHits
          upstreamFetches := aggregate.upstreamFetches + addition.upstreamFetches
          maxAgeMS := max aggregate.maxAgeMS addition.maxAgeMS
          failures := some (reported (countOf (old ++ new))) } :: rest) := by
    unfold mergeEnrichmentCoverage
    dsimp only
    rw [if_neg room, old_eq, new_eq, Option.getD_some, Option.getD_some, counted,
      Option.map_some]
    rfl
  refine ⟨_, merged_eq, ⟨by dsimp only; omega, by dsimp only; omega, _, rfl, ?_, ?_⟩⟩
  · intro failure member
    obtain ⟨-, positive, count_eq, -⟩ := mem_reported.mp member
    omega
  · exact fun kind => (countOf_reported_le counts_nonneg kind).trans (within kind)

/-! ## Lookups -/

section Coverage

variable {lookups : List Lookup}

/-- The failed lookups of a kind. -/
def failureCounts (lookups : List Lookup) (kind : GeoIPErrorKind) : Int :=
  (lookups.countP fun lookup => lookup.failure? = some kind : Nat)

theorem failures_coverageOf :
    (coverageOf lookups).failures = some (reported (failureCounts lookups)) := by
  simp [coverageOf, reported, failureCounts]

theorem failure_known (lookup : Lookup) {kind : GeoIPErrorKind}
    (failed : lookup.failure? = some kind) : kind ∈ geoIPFailureKinds := by
  cases lookup with
  | found => cases failed
  | failed typed =>
      simp only [Lookup.failure?, Option.some.injEq] at failed
      subst failed
      unfold normalizedGeoIPFailure
      split
      · rename_i kind filtered
        simpa [validGeoIPErrorKind] using (Option.filter_eq_some_iff.mp filtered).2
      · decide

/-- Every lookup is a hit, a fetch or one failure. -/
theorem sum_lookups :
    (coverageOf lookups).cacheHits + (coverageOf lookups).upstreamFetches +
      enrichmentFailureCount (reported (failureCounts lookups)) = lookups.length := by
  have nonneg : ∀ kind, 0 ≤ failureCounts lookups kind := fun _ => Int.natCast_nonneg _
  rw [sum_reported nonneg]
  simp only [coverageOf]
  clear nonneg
  induction lookups with
  | nil => simp [show failureCounts [] = fun _ => 0 from rfl]
  | cons lookup lookups ih =>
      have cons_eq : ∀ kind, failureCounts (lookup :: lookups) kind =
          (if lookup.failure? = some kind then 1 else 0) + failureCounts lookups kind := by
        intro kind
        unfold failureCounts
        rw [List.countP_cons]
        by_cases here : lookup.failure? = some kind <;> simp [here, add_comm]
      have sum_eq : (geoIPFailureKinds.map (failureCounts (lookup :: lookups))).sum =
          (geoIPFailureKinds.map fun kind =>
            (if lookup.failure? = some kind then (1 : Int) else 0)).sum +
              (geoIPFailureKinds.map (failureCounts lookups)).sum := by
        rw [← List.sum_map_add]
        exact congrArg List.sum (List.map_congr_left fun kind _ => cons_eq kind)
      rw [sum_eq, List.length_cons, List.countP_cons, List.countP_cons]
      cases found : lookup.failure? with
      | none =>
          cases lookup with
          | failed kind => cases found
          | found metadata now =>
              cases cached : metadata.cached <;>
                simp [Lookup.cacheHit, Lookup.upstreamFetch, cached] <;> omega
      | some kind =>
          have known := failure_known lookup found
          cases lookup with
          | found metadata now => cases found
          | failed typed =>
              have once : (geoIPFailureKinds.map fun other =>
                  (if some kind = some other then (1 : Int) else 0)).sum = 1 := by
                revert known
                cases kind <;> simp [geoIPFailureKinds]
              rw [once]
              simp [Lookup.cacheHit, Lookup.upstreamFetch]
              omega

theorem boundedGeoIPAgeMS_range (metadata : Trace.IPMetadata) (now : Time) :
    0 ≤ boundedGeoIPAgeMS metadata now ∧
      boundedGeoIPAgeMS metadata now ≤ defaultGeoIPCacheTTLMS := by
  have ttl : defaultGeoIPCacheTTLMS = 86400000 := rfl
  unfold boundedGeoIPAgeMS
  dsimp only
  split_ifs <;> omega

theorem maxAgeMS_range :
    0 ≤ (coverageOf lookups).maxAgeMS ∧
      (coverageOf lookups).maxAgeMS ≤ defaultGeoIPCacheTTLMS := by
  have range : ∀ lookup : Lookup, 0 ≤ lookup.ageMS ∧ lookup.ageMS ≤ defaultGeoIPCacheTTLMS := by
    rintro (⟨metadata, now⟩ | kind)
    · exact boundedGeoIPAgeMS_range metadata now
    · change (0 : Int) ≤ 0 ∧ 0 ≤ defaultGeoIPCacheTTLMS
      decide
  have fold : ∀ (ages : List Lookup) (start : Int), 0 ≤ start → start ≤ defaultGeoIPCacheTTLMS →
      0 ≤ (ages.map Lookup.ageMS).foldl max start ∧
        (ages.map Lookup.ageMS).foldl max start ≤ defaultGeoIPCacheTTLMS := by
    intro ages
    induction ages with
    | nil => exact fun start nonneg le => ⟨nonneg, le⟩
    | cons lookup ages ih =>
        intro start nonneg le
        exact ih (max start lookup.ageMS) (le_max_of_le_left nonneg) (max_le le (range lookup).2)
  exact fold lookups 0 le_rfl (by decide)

/-- The coverage of a checker passes the checks of the analysis, as long as
the lookups stay within those allowed for a result. -/
theorem normalizedEnrichmentCoverage_coverageOf
    (le : (lookups.length : Int) ≤ maxGeoIPLookupsPerResult) {legacy : Option Int}
    (legacy_eq : ∀ failures ∈ legacy, failures =
      enrichmentFailureCount (reported (failureCounts lookups))) :
    ∃ coverage, normalizedEnrichmentCoverage (.enrichment (coverageOf lookups)) legacy =
        some coverage ∧ Within maxGeoIPLookupsPerResult coverage := by
  have total := @sum_lookups lookups
  have hits : 0 ≤ (coverageOf lookups).cacheHits := Int.natCast_nonneg _
  have upstream : 0 ≤ (coverageOf lookups).upstreamFetches := Int.natCast_nonneg _
  have bound : maxGeoIPLookupsPerResult = 310 := rfl
  have nonneg : ∀ kind, 0 ≤ failureCounts lookups kind := fun _ => Int.natCast_nonneg _
  have counts_le : ∀ kind, failureCounts lookups kind ≤ maxGeoIPLookupsPerResult := by
    intro kind
    refine le_trans ?_ le
    unfold failureCounts
    exact_mod_cast List.countP_le_length
  have failures_nonneg : ∀ failure ∈ reported (failureCounts lookups), 0 ≤ failure.count := by
    intro failure member
    obtain ⟨-, positive, count_eq, -⟩ := mem_reported.mp member
    omega
  have count_nonneg : 0 ≤ enrichmentFailureCount (reported (failureCounts lookups)) := by
    refine List.sum_nonneg ?_
    intro count member
    obtain ⟨failure, failureMem, rfl⟩ := List.mem_map.mp member
    exact failures_nonneg failure failureMem
  set sorted := (reported (failureCounts lookups)).insertionSort
    fun left right => left.kind.text ≤ right.kind.text with sorted_eq
  have perm : sorted.Perm (reported (failureCounts lookups)) := List.perm_insertionSort _ _
  have count_eq : enrichmentFailureCount sorted =
      enrichmentFailureCount (reported (failureCounts lookups)) := (perm.map _).sum_eq
  have normalized : (coverageOf lookups).failures.bind normalizedEnrichmentFailures =
      some sorted := by
    rw [failures_coverageOf, Option.bind_some, normalizedEnrichmentFailures,
      if_pos (valid_reported counts_le)]
  have lookups_eq : wrap64 (wrap64 ((coverageOf lookups).cacheHits +
      (coverageOf lookups).upstreamFetches) + enrichmentFailureCount sorted) = lookups.length := by
    have fetched : wrap64 ((coverageOf lookups).cacheHits + (coverageOf lookups).upstreamFetches) =
        (coverageOf lookups).cacheHits + (coverageOf lookups).upstreamFetches :=
      wrap64_of_lt (by omega) (by omega)
    rw [count_eq, fetched, wrap64_of_lt (by omega) (by omega)]
    exact total
  have age := @maxAgeMS_range lookups
  refine ⟨{ coverageOf lookups with failures := some sorted }, ?_, ?_⟩
  · unfold normalizedEnrichmentCoverage
    simp only [enrichmentValue, normalized, lookups_eq, Option.bind_eq_bind, Option.bind_some]
    rw [if_neg, if_neg, if_neg]
    · simp only [Option.any_eq_true, not_exists, not_and]
      intro failures member
      rw [legacy_eq failures member, count_eq]
      simp
    · exact fun different => different rfl
    · simp only [not_or]
      refine ⟨fun different => different rfl, ?_⟩
      omega
  · refine ⟨⟨hits, by dsimp only; omega⟩, ⟨upstream, by dsimp only; omega⟩, sorted, rfl, ?_, ?_⟩
    · exact fun failure member => failures_nonneg failure (perm.mem_iff.mp member)
    · intro kind
      rw [countOf_perm perm]
      exact (countOf_reported_le nonneg kind).trans (counts_le kind)

end Coverage

/-- The attempts of a result lead to at most as many lookups as allowed. -/
theorem length_publicAddresses_le {library : Trace.Library} (geoIP : GeoIP)
    {attempts : List TraceAttempt} (recorded : ∀ attempt ∈ attempts, Recorded library attempt)
    (le : attempts.length ≤ maxTraceAttempts) :
    ((publicAddresses library geoIP attempts).length : Int) ≤ maxGeoIPLookupsPerResult := by
  have each : ∀ attempt ∈ attempts, (((attempt.topology.map Topology.nodes).getD []).filterMap
      fun node => (library.parseIP node.address).filter geoIP.isPublic).length ≤
        Trace.maxTraceHops + 1 := by
    intro attempt member
    cases route : attempt.topology with
    | none => simp
    | some topology =>
        have shaped := ((recorded attempt member).traced topology route).shaped
        obtain ⟨hops, nodes_eq, -, -⟩ := shaped.nodes_eq
        have length_le := shaped.length_hops.2
        rw [nodes_eq, List.length_cons] at length_le
        rw [Option.map_some, Option.getD_some, nodes_eq, List.filterMap_cons_none]
        · exact (List.length_filterMap_le _ _).trans (by omega)
        · rw [show Trace.localHop.address = GoString.ofString "local" from rfl,
            library.parseIP_local, Option.filter_none]
  have counted : (publicAddresses library geoIP attempts).length ≤
      attempts.length * (Trace.maxTraceHops + 1) := by
    unfold publicAddresses
    refine (List.dedup_sublist _).length_le.trans ?_
    rw [List.filterMap_flatMap, List.length_flatMap]
    refine (List.sum_le_card_nsmul _ (Trace.maxTraceHops + 1) ?_).trans ?_
    · intro count member
      obtain ⟨attempt, attemptMem, rfl⟩ := List.mem_map.mp member
      exact each attempt (List.mem_filter.mp attemptMem).1
    · rw [List.length_map, smul_eq_mul]
      exact Nat.mul_le_mul_right _ (List.length_filter_le _ _)
  have bound : maxGeoIPLookupsPerResult = ((maxTraceAttempts * (Trace.maxTraceHops + 1) : Nat) : Int) :=
    rfl
  rw [bound]
  exact_mod_cast counted.trans (Nat.mul_le_mul_right _ le)

end CheckNetwork.Analysis
