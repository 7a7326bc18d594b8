import CheckNetwork.Analysis.AllClear
import CheckNetwork.Analysis.LookupBounds
import CheckNetwork.Analysis.Places

/-!
# The enrichment coverage of a report

The coverages that the results of a report contribute are added up, one result
after the other.  While no count exceeds the bound of one result, the outcome
is their sum, in whatever order the results come.
-/

namespace CheckNetwork.Analysis

open Diagnostic Go
open CheckNetwork.Trace (geoIPFailureKinds geoIPFailureRetryable enrichmentFailureCount
  enrichmentSource validGeoIPErrorKind)

/-! ## Sums -/

/-- The failures of one kind in several coverages. -/
def countsOf (coverages : List EnrichmentCoverage) (kind : GeoIPErrorKind) : Int :=
  (coverages.map fun coverage => countOf (coverage.failures.getD []) kind).sum

/-- The sum of coverages. -/
def totalOf (coverages : List EnrichmentCoverage) : EnrichmentCoverage where
  provider := "geoip"
  source := enrichmentSource (coverages.map EnrichmentCoverage.cacheHits).sum
    (coverages.map EnrichmentCoverage.upstreamFetches).sum
  cacheHits := (coverages.map EnrichmentCoverage.cacheHits).sum
  upstreamFetches := (coverages.map EnrichmentCoverage.upstreamFetches).sum
  maxAgeMS := (coverages.map EnrichmentCoverage.maxAgeMS).foldr max 0
  failures := some (reported (countsOf coverages))

/-- A report without enrichment has no aggregate. -/
def aggregateOf (coverages : List EnrichmentCoverage) : List EnrichmentCoverage :=
  if coverages = [] then [] else [totalOf coverages]

/-- An accepted coverage. -/
structure Normal (coverage : EnrichmentCoverage) : Prop where
  provider : coverage.provider = "geoip"
  cacheHits : 0 ≤ coverage.cacheHits
  upstreamFetches : 0 ≤ coverage.upstreamFetches
  maxAgeMS : 0 ≤ coverage.maxAgeMS ∧ coverage.maxAgeMS ≤ Trace.defaultGeoIPCacheTTLMS
  source : coverage.source = enrichmentSource coverage.cacheHits coverage.upstreamFetches
  failures : ∃ failures, coverage.failures = some failures ∧
    validEnrichmentFailures failures = true ∧
      failures.Pairwise fun left right => left.kind.text ≤ right.kind.text

theorem ordered_pairwise (failures : List EnrichmentFailure) :
    (ordered failures).Pairwise fun left right => left.kind.text ≤ right.kind.text := by
  have : Std.Total fun left right : EnrichmentFailure => left.kind.text ≤ right.kind.text :=
    ⟨fun left right => le_total left.kind.text right.kind.text⟩
  have : IsTrans EnrichmentFailure fun left right => left.kind.text ≤ right.kind.text :=
    ⟨fun _ _ _ => le_trans⟩
  exact List.pairwise_insertionSort _ failures

theorem validEnrichmentFailures_perm {failures others : List EnrichmentFailure}
    (perm : failures.Perm others) :
    validEnrichmentFailures failures = validEnrichmentFailures others := by
  unfold validEnrichmentFailures
  rw [perm.length_eq, perm.all_eq, decide_eq_decide.mpr (perm.map _).nodup_iff]

theorem normal_of_normalized {value : Detail} {legacyFailures : Option Int}
    {accepted : EnrichmentCoverage}
    (normalized : normalizedEnrichmentCoverage value legacyFailures = some accepted) :
    Normal accepted := by
  obtain ⟨coverage, -, fitting, -, -, rfl⟩ := normalizedEnrichmentCoverage_eq_some_iff.mp normalized
  obtain ⟨failures, present, valid⟩ := fitting.failures
  refine ⟨fitting.provider, fitting.cacheHits, fitting.upstreamFetches, fitting.maxAgeMS,
    fitting.source, ordered failures, ?_, ?_, ordered_pairwise failures⟩
  · rw [sorted, present, Option.map_some]
  · rw [validEnrichmentFailures_perm (ordered_perm failures), valid]

/-! ## Failures of a sum -/

section Failures

variable {failures : List EnrichmentFailure}

theorem mem_kinds_of_valid (valid : validEnrichmentFailures failures = true) :
    (failures.map EnrichmentFailure.kind).Nodup ∧ ∀ failure ∈ failures,
      failure.kind ∈ geoIPFailureKinds ∧ failure.retryable = geoIPFailureRetryable failure.kind := by
  simp only [validEnrichmentFailures, Bool.and_eq_true, decide_eq_true_eq, List.all_eq_true,
    validGeoIPErrorKind] at valid
  exact ⟨valid.2, fun failure member =>
    ⟨(valid.1.2 failure member).1.1.1, (valid.1.2 failure member).2⟩⟩

/-- Of kinds that differ, each is counted where it stands. -/
theorem countOf_of_mem (distinct : (failures.map EnrichmentFailure.kind).Nodup)
    {failure : EnrichmentFailure} (member : failure ∈ failures) :
    countOf failures failure.kind = failure.count := by
  induction failures with
  | nil => cases member
  | cons first rest ih =>
      rw [List.map_cons, List.nodup_cons] at distinct
      rw [countOf_cons]
      rcases List.mem_cons.mp member with rfl | later
      · have none_ : rest.filter (fun other => other.kind = failure.kind) = [] := by
          rw [List.filter_eq_nil_iff]
          intro other otherMem same
          exact distinct.1 (of_decide_eq_true same ▸ List.mem_map_of_mem otherMem)
        rw [if_pos rfl, countOf, none_, List.map_nil, List.sum_nil, add_zero]
      · have different : first.kind ≠ failure.kind := fun same =>
          distinct.1 (same ▸ List.mem_map_of_mem later)
        rw [if_neg different, zero_add, ih distinct.2 later]

theorem exists_mem_of_countOf_ne {kind : GeoIPErrorKind} (counted : countOf failures kind ≠ 0) :
    ∃ failure ∈ failures, failure.kind = kind := by
  by_contra absent
  simp only [not_exists, not_and] at absent
  refine counted ?_
  have none_ : failures.filter (fun failure => failure.kind = kind) = [] := by
    rw [List.filter_eq_nil_iff]
    exact fun failure member same => absent failure member (of_decide_eq_true same)
  rw [countOf, none_, List.map_nil, List.sum_nil]

theorem text_inj_of_known {left right : GeoIPErrorKind} (leftKnown : left ∈ geoIPFailureKinds)
    (rightKnown : right ∈ geoIPFailureKinds) (same : left.text = right.text) : left = right := by
  have table : ∀ one ∈ geoIPFailureKinds, ∀ other ∈ geoIPFailureKinds, one.text = other.text →
      one = other := by decide
  exact table left leftKnown right rightKnown same

theorem pairwise_reported (counts : GeoIPErrorKind → Int) :
    (reported counts).Pairwise fun left right => left.kind.text ≤ right.kind.text := by
  have kinds : geoIPFailureKinds.Pairwise fun left right => left.text ≤ right.text := by decide
  have kept : ((reported counts).map EnrichmentFailure.kind).Pairwise
      fun left right => left.text ≤ right.text := by
    rw [map_kind_reported]
    exact kinds.sublist List.filter_sublist
  rwa [List.pairwise_map] at kept

theorem nodup_reported (counts : GeoIPErrorKind → Int) :
    ((reported counts).map EnrichmentFailure.kind).Nodup := by
  rw [map_kind_reported]
  exact List.Nodup.filter _ (by decide)

/-- Sorted failures are those that their counts report. -/
theorem reported_countOf (valid : validEnrichmentFailures failures = true)
    (sorted_ : failures.Pairwise fun left right => left.kind.text ≤ right.kind.text) :
    reported (countOf failures) = failures := by
  obtain ⟨distinct, known⟩ := mem_kinds_of_valid valid
  have members : ∀ failure, failure ∈ reported (countOf failures) ↔ failure ∈ failures := by
    intro failure
    rw [mem_reported]
    constructor
    · rintro ⟨kindKnown, positive, count_eq, retryable_eq⟩
      obtain ⟨other, otherMem, same⟩ := exists_mem_of_countOf_ne positive.ne'
      have counted := countOf_of_mem distinct otherMem
      have equal : failure = other := by
        cases failure with
        | mk kind count retryable =>
            cases other with
            | mk otherKind otherCount otherRetryable =>
                dsimp only at same count_eq retryable_eq counted
                subst same
                rw [count_eq, counted, retryable_eq, ← (known _ otherMem).2]
      rw [equal]
      exact otherMem
    · intro member
      have counted := countOf_of_mem distinct member
      refine ⟨(known failure member).1, ?_, counted.symm, (known failure member).2⟩
      rw [counted]
      exact (mem_failures_bounded valid failure member).1
  have perm : (reported (countOf failures)).Perm failures :=
    (List.perm_ext_iff_of_nodup (nodup_reported _).of_map distinct.of_map).mpr members
  refine perm.eq_of_pairwise ?_ (pairwise_reported _) sorted_
  intro left right leftMem rightMem le ge
  have leftIn := (members left).mp leftMem
  have same : left.kind = right.kind := text_inj_of_known (known left leftIn).1
    (known right rightMem).1 (le_antisymm le ge)
  exact List.inj_on_of_nodup_map distinct leftIn rightMem same

/-- What is reported of known kinds is what was counted. -/
theorem countOf_reported {counts : GeoIPErrorKind → Int} (nonneg : ∀ kind, 0 ≤ counts kind)
    {kind : GeoIPErrorKind} (known : kind ∈ geoIPFailureKinds) :
    countOf (reported counts) kind = counts kind := by
  rcases (nonneg kind).lt_or_eq with positive | zero
  · have member : (⟨kind, counts kind, geoIPFailureRetryable kind⟩ : EnrichmentFailure) ∈
        reported counts := mem_reported.mpr ⟨known, positive, rfl, rfl⟩
    exact countOf_of_mem (nodup_reported counts) member
  · rw [← zero]
    by_contra counted
    obtain ⟨failure, member, same⟩ := exists_mem_of_countOf_ne counted
    have positive := (mem_reported.mp member).2.1
    rw [same, ← zero] at positive
    exact lt_irrefl _ positive

theorem reported_congr {counts others : GeoIPErrorKind → Int}
    (same : ∀ kind ∈ geoIPFailureKinds, counts kind = others kind) :
    reported counts = reported others :=
  List.filterMap_congr fun kind known => by rw [same kind known]

end Failures

/-! ## Merging -/

section Merging

variable {coverages : List EnrichmentCoverage} {coverage : EnrichmentCoverage}

theorem countOf_failures_nonneg (normal : Normal coverage) (kind : GeoIPErrorKind) :
    0 ≤ countOf (coverage.failures.getD []) kind := by
  obtain ⟨failures, present, valid, -⟩ := normal.failures
  rw [present, Option.getD_some]
  exact countOf_nonneg (fun failure member => (mem_failures_bounded valid failure member).1.le) kind

theorem countsOf_nonneg (normal : ∀ coverage ∈ coverages, Normal coverage)
    (kind : GeoIPErrorKind) : 0 ≤ countsOf coverages kind := by
  refine List.sum_nonneg ?_
  intro count counted
  obtain ⟨coverage, member, rfl⟩ := List.mem_map.mp counted
  exact countOf_failures_nonneg (normal coverage member) kind

theorem countsOf_concat (coverages : List EnrichmentCoverage) (last : EnrichmentCoverage)
    (kind : GeoIPErrorKind) : countsOf (coverages ++ [last]) kind =
      countsOf coverages kind + countOf (last.failures.getD []) kind := by
  simp [countsOf]

theorem totalOf_singleton (normal : Normal coverage) : totalOf [coverage] = coverage := by
  obtain ⟨failures, present, valid, sorted_⟩ := normal.failures
  have counts : countsOf [coverage] = countOf failures := by
    funext kind
    rw [countsOf, List.map_singleton, List.sum_singleton, present, Option.getD_some]
  have reported_eq := reported_countOf valid sorted_
  rw [← counts] at reported_eq
  cases coverage with
  | mk provider source cacheHits upstreamFetches maxAgeMS reportedFailures =>
      have provider_eq := normal.provider
      have source_eq := normal.source
      have age := normal.maxAgeMS.1
      dsimp only at provider_eq source_eq age present
      rw [totalOf, reported_eq]
      simp [provider_eq, source_eq, present, max_eq_left age]

theorem foldr_max_concat {ages : List Int} {last : Int} (nonneg : 0 ≤ last) :
    (ages ++ [last]).foldr max 0 = max (ages.foldr max 0) last := by
  induction ages with
  | nil => simp [nonneg]
  | cons first rest ih => rw [List.cons_append, List.foldr_cons, List.foldr_cons, ih, max_assoc]

/-- The counts of several bounded coverages. -/
theorem sums_le (bounded : ∀ coverage ∈ coverages, Bounded coverage)
    (normal : ∀ coverage ∈ coverages, Normal coverage) :
    (totalOf coverages).cacheHits ≤ coverages.length * maxGeoIPLookupsPerResult ∧
      (totalOf coverages).upstreamFetches ≤ coverages.length * maxGeoIPLookupsPerResult ∧
      ∀ kind, countsOf coverages kind ≤ coverages.length * maxGeoIPLookupsPerResult := by
  have each : ∀ measure : EnrichmentCoverage → Int,
      (∀ coverage ∈ coverages, measure coverage ≤ maxGeoIPLookupsPerResult) →
        (coverages.map measure).sum ≤ coverages.length * maxGeoIPLookupsPerResult := by
    intro measure le
    have sum_le := List.sum_le_card_nsmul (coverages.map measure) maxGeoIPLookupsPerResult
      fun count counted => by
        obtain ⟨coverage, member, rfl⟩ := List.mem_map.mp counted
        exact le coverage member
    rwa [List.length_map, nsmul_eq_mul] at sum_le
  refine ⟨each _ fun coverage member => (bounded coverage member).cacheHits.2,
    each _ fun coverage member => (bounded coverage member).upstreamFetches.2, fun kind => ?_⟩
  refine each (fun coverage => countOf (coverage.failures.getD []) kind) fun coverage member => ?_
  obtain ⟨failures, present, valid, -⟩ := (normal coverage member).failures
  rw [present, Option.getD_some]
  by_cases zero : countOf failures kind = 0
  · rw [zero]
    decide
  · obtain ⟨failure, failureMem, rfl⟩ := exists_mem_of_countOf_ne zero
    rw [countOf_of_mem (mem_kinds_of_valid valid).1 failureMem]
    exact (mem_failures_bounded valid failure failureMem).2

/-- One more coverage is added to the sum. -/
theorem mergeEnrichmentCoverage_total (bounded : ∀ one ∈ coverages ++ [coverage], Bounded one)
    (normal : ∀ one ∈ coverages ++ [coverage], Normal one)
    (few : coverages.length < maxTargets) :
    mergeEnrichmentCoverage (aggregateOf coverages) coverage =
      some (aggregateOf (coverages ++ [coverage])) := by
  have last := normal coverage (by simp)
  have earlier : ∀ one ∈ coverages, Normal one := fun one member => normal one (by simp [member])
  have limits := sums_le bounded normal
  have most : (maxTargets : Int) = 20 := rfl
  have bound : maxGeoIPLookupsPerResult = 310 := rfl
  rw [List.length_append, List.length_singleton] at limits
  cases empty : coverages with
  | nil => rw [aggregateOf, if_pos rfl, List.nil_append, aggregateOf, if_neg (by simp),
      totalOf_singleton last, mergeEnrichmentCoverage]
  | cons head tail =>
      rw [← empty]
      have nonempty : coverages ≠ [] := by simp [empty]
      obtain ⟨failures, present, valid, -⟩ := last.failures
      have hits : (totalOf (coverages ++ [coverage])).cacheHits =
          (totalOf coverages).cacheHits + coverage.cacheHits := by
        simp [totalOf]
      have fetches : (totalOf (coverages ++ [coverage])).upstreamFetches =
          (totalOf coverages).upstreamFetches + coverage.upstreamFetches := by
        simp [totalOf]
      have nonneg : ∀ failure ∈ reported (countsOf coverages) ++ failures, 0 ≤ failure.count := by
        intro failure member
        rcases List.mem_append.mp member with old | new
        · obtain ⟨-, positive, count_eq, -⟩ := mem_reported.mp old
          omega
        · exact (mem_failures_bounded valid failure new).1.le
      have step : ∀ kind, countsOf (coverages ++ [coverage]) kind =
          countsOf coverages kind + countOf failures kind := by
        intro kind
        rw [countsOf_concat, present, Option.getD_some]
      have length_le : (coverages.length : Int) + 1 ≤ 20 := by
        have : coverages.length + 1 ≤ 20 := few
        exact_mod_cast this
      have within : ∀ kind, 0 + countOf (reported (countsOf coverages) ++ failures) kind ≤
          maxTargets * maxGeoIPLookupsPerResult := by
        intro kind
        have old := countOf_reported_le (countsOf_nonneg earlier) kind
        have all := limits.2.2 kind
        rw [step] at all
        rw [zero_add, countOf_append]
        push_cast at all
        rw [most, bound]
        rw [bound] at all
        omega
      have counted := foldlM_countFailure nonneg (fun _ => 0) within
      have room : ¬(maxTargets * maxGeoIPLookupsPerResult - coverage.cacheHits <
            (totalOf coverages).cacheHits ∨
          maxTargets * maxGeoIPLookupsPerResult - coverage.upstreamFetches <
            (totalOf coverages).upstreamFetches) := by
        have hits_le := limits.1
        have fetches_le := limits.2.1
        rw [hits] at hits_le
        rw [fetches] at fetches_le
        push_cast at hits_le fetches_le
        rw [bound] at hits_le fetches_le
        rw [most, bound]
        omega
      have same : ∀ kind ∈ geoIPFailureKinds,
          0 + countOf (reported (countsOf coverages) ++ failures) kind =
            countsOf (coverages ++ [coverage]) kind := by
        intro kind known
        rw [zero_add, countOf_append, countOf_reported (countsOf_nonneg earlier) known, step]
      have ages : (totalOf (coverages ++ [coverage])).maxAgeMS =
          max (totalOf coverages).maxAgeMS coverage.maxAgeMS := by
        simp only [totalOf, List.map_append, List.map_singleton]
        exact foldr_max_concat last.maxAgeMS.1
      rw [aggregateOf, if_neg nonempty, aggregateOf, if_neg (by simp)]
      unfold mergeEnrichmentCoverage
      dsimp only
      rw [if_neg room, present, Option.getD_some, show (totalOf coverages).failures =
        some (reported (countsOf coverages)) from rfl, Option.getD_some, counted, Option.map_some]
      change some [({ (totalOf coverages) with
        source := _
        cacheHits := _
        upstreamFetches := _
        maxAgeMS := _
        failures := some (reported _) } : EnrichmentCoverage)] = _
      rw [reported_congr same, ← ages, ← hits, ← fetches]
      rfl

/-- The failures of a sum are those of its coverages. -/
theorem enrichmentFailureCount_total (normal : ∀ one ∈ coverages, Normal one) :
    enrichmentFailureCount (reported (countsOf coverages)) =
      (coverages.map fun one => enrichmentFailureCount (one.failures.getD [])).sum := by
  rw [sum_reported (countsOf_nonneg normal)]
  induction coverages with
  | nil => decide
  | cons first rest ih =>
      obtain ⟨failures, present, valid, sorted_⟩ :=
        (normal first (List.mem_cons_self ..)).failures
      have nonneg : ∀ kind, 0 ≤ countOf failures kind := countOf_nonneg fun failure member =>
        (mem_failures_bounded valid failure member).1.le
      have counts : countsOf (first :: rest) =
          fun kind => countOf failures kind + countsOf rest kind := by
        funext kind
        rw [countsOf, List.map_cons, List.sum_cons, present, Option.getD_some, ← countsOf]
      rw [counts, List.sum_map_add, ih fun one member => normal one (List.mem_cons_of_mem _ member),
        ← sum_reported nonneg, reported_countOf valid sorted_, List.map_cons, List.sum_cons, present,
        Option.getD_some]

/-- As many lookups as each of the coverages can have. -/
theorem lookups_total_le (bounded : ∀ one ∈ coverages, Bounded one)
    (normal : ∀ one ∈ coverages, Normal one) :
    (totalOf coverages).cacheHits + (totalOf coverages).upstreamFetches +
      enrichmentFailureCount (reported (countsOf coverages)) ≤
        coverages.length * maxGeoIPLookupsPerResult := by
  rw [enrichmentFailureCount_total normal]
  have sum_eq : (totalOf coverages).cacheHits + (totalOf coverages).upstreamFetches +
      (coverages.map fun one => enrichmentFailureCount (one.failures.getD [])).sum =
        (coverages.map lookupsOf).sum := by
    simp only [totalOf, ← List.sum_map_add]
    rfl
  have sum_le := List.sum_le_card_nsmul (coverages.map lookupsOf) maxGeoIPLookupsPerResult
    fun count counted => by
      obtain ⟨one, member, rfl⟩ := List.mem_map.mp counted
      exact (bounded one member).lookups.2
  rw [List.length_map, nsmul_eq_mul] at sum_le
  rw [sum_eq]
  exact sum_le

theorem maxAgeMS_total (normal : ∀ one ∈ coverages, Normal one) :
    0 ≤ (totalOf coverages).maxAgeMS ∧
      (totalOf coverages).maxAgeMS ≤ Trace.defaultGeoIPCacheTTLMS := by
  simp only [totalOf]
  induction coverages with
  | nil => decide
  | cons first rest ih =>
      have age := (normal first (List.mem_cons_self ..)).maxAgeMS
      have ages := ih fun one member => normal one (List.mem_cons_of_mem _ member)
      rw [List.map_cons, List.foldr_cons]
      exact ⟨le_max_of_le_left age.1, max_le age.2 ages.2⟩

end Merging

/-! ## Reports -/

/-- The coverage that the details of a result contribute, if they are
accepted. -/
def contribution (result : Result) : Option EnrichmentCoverage :=
  if result.kind = .traceroute && !isTracerouteUnavailable result then
    (result.detail? "geoip_enrichment").bind fun value =>
      normalizedEnrichmentCoverage value (integerDetail result "geoip_provider_failures")
  else none

def contributions (results : List Result) : List EnrichmentCoverage :=
  results.filterMap contribution

section Reports

variable {results : List Result}

theorem normal_of_mem_contributions {coverage : EnrichmentCoverage}
    (member : coverage ∈ contributions results) : Normal coverage := by
  obtain ⟨result, -, contributed⟩ := List.mem_filterMap.mp member
  unfold contribution at contributed
  split at contributed
  · obtain ⟨value, -, normalized⟩ := Option.bind_eq_some_iff.mp contributed
    exact normal_of_normalized normalized
  · cases contributed

theorem contributions_concat (results : List Result) (last : Result) :
    contributions (results ++ [last]) = contributions results ++ (contribution last).toList := by
  rw [contributions, List.filterMap_append, ← contributions]
  cases contributed : contribution last <;> simp [contributed]

theorem length_contributions_le (results : List Result) :
    (contributions results).length ≤ results.length :=
  List.length_filterMap_le _ _

/-- A result adds what it contributes, and nothing else. -/
theorem enrichmentOf_getD {index : Nat} {result : Result} (place : index < maxTargets)
    (enrichment : List EnrichmentCoverage) :
    (enrichmentOf index result enrichment).getD enrichment =
      match contribution result with
      | none => enrichment
      | some coverage => (mergeEnrichmentCoverage enrichment coverage).getD enrichment := by
  unfold enrichmentOf contribution
  split
  · cases result.detail? "geoip_enrichment" with
    | none => rfl
    | some value =>
        rw [Option.bind_some]
        dsimp only
        cases normalizedEnrichmentCoverage value
            (integerDetail result "geoip_provider_failures") with
        | none => rfl
        | some coverage =>
            rw [Option.bind_some]
  · rfl

/-- The enrichment of a report of bounded coverages is their sum. -/
theorem enrichment_normalizeResults (library : Library) (now : Time)
    (small : results.length ≤ maxTargets)
    (bounded : ∀ coverage ∈ contributions results, Bounded coverage) :
    (normalizeResults library now results emptyCoverage).1.enrichment =
      aggregateOf (contributions results) := by
  induction results using List.reverseRecOn with
  | nil => rfl
  | append_singleton earlier last ih =>
      rw [List.length_append, List.length_singleton] at small
      rw [contributions_concat] at bounded ⊢
      rw [normalizeResults_concat]
      dsimp only
      rw [enrichment_normalizeResult, ih (by omega) fun coverage member =>
        bounded coverage (List.mem_append_left _ member), enrichmentOf_getD small]
      cases contributed : contribution last with
      | none => simp
      | some coverage =>
          rw [contributed, Option.toList_some] at bounded
          have few := length_contributions_le earlier
          dsimp only
          rw [mergeEnrichmentCoverage_total bounded ?_ (by omega), Option.getD_some,
            Option.toList_some]
          intro one member
          refine @normal_of_mem_contributions (earlier ++ [last]) one ?_
          rwa [contributions_concat, contributed, Option.toList_some]

theorem enrichment_analyze (library : Library) (results : List Result) (now : Time) :
    (analyze library results now).coverage.enrichment =
      (normalizeResults library now.utc results emptyCoverage).1.enrichment := by
  obtain ⟨limitations, coverage_eq⟩ := Builder.coverage_explained library now.utc
    (normalizeResults library now.utc results emptyCoverage).1
    (normalizeResults library now.utc results emptyCoverage).2
  rw [analyze_eq]
  unfold reportBuilder finalize sortCoverageIssues
  dsimp only
  rw [coverage_eq]

/-! ## Order -/

theorem foldr_max_perm {ages others : List Int} (perm : ages.Perm others) :
    ages.foldr max 0 = others.foldr max 0 :=
  perm.foldr_eq 0

theorem aggregateOf_perm {coverages others : List EnrichmentCoverage}
    (perm : coverages.Perm others) : aggregateOf coverages = aggregateOf others := by
  have counts : countsOf coverages = countsOf others := by
    funext kind
    exact (perm.map _).sum_eq
  have total : totalOf coverages = totalOf others := by
    unfold totalOf
    rw [counts, (perm.map EnrichmentCoverage.cacheHits).sum_eq,
      (perm.map EnrichmentCoverage.upstreamFetches).sum_eq,
      foldr_max_perm (perm.map EnrichmentCoverage.maxAgeMS)]
  unfold aggregateOf
  rw [total]
  by_cases empty : coverages = []
  · subst empty
    rw [if_pos rfl, if_pos perm.nil_eq.symm]
  · rw [if_neg empty, if_neg]
    rintro rfl
    exact empty (List.perm_nil.mp perm)

end Reports

end CheckNetwork.Analysis
