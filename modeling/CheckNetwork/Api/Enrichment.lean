import CheckNetwork.Analysis.Accepts
import CheckNetwork.Analysis.Merging
import CheckNetwork.Frontend.Enrichment

/-!
# The enrichment coverage of a report in the browser

The coverage that the analysis merged is written as JSON and read again by the
browser, which allows as many lookups as the most results can make.
-/

namespace CheckNetwork.Api

open CheckNetwork.Diagnostic
open CheckNetwork.Analysis
open CheckNetwork.Frontend
open CheckNetwork.Go
open CheckNetwork.Trace (geoIPFailureKinds geoIPFailureRetryable enrichmentFailureCount
  enrichmentSource)

/-! ## JSON -/

def failureJSON (failure : EnrichmentFailure) : JsonValue :=
  .object [("kind", .string (GoString.ofString failure.kind.text)),
    ("count", .number (.ofInt failure.count)), ("retryable", .bool failure.retryable)]

/-- `EnrichmentSource`. -/
def sourceText : EnrichmentSource → String
  | .upstream => "upstream"
  | .cache => "cache"
  | .mixed => "mixed"
  | .none => "none"
  | .other name => name

def coverageJSON (coverage : EnrichmentCoverage) : JsonValue :=
  .object [("provider", .string (GoString.ofString coverage.provider)),
    ("source", .string (GoString.ofString (sourceText coverage.source))),
    ("cache_hits", .number (.ofInt coverage.cacheHits)),
    ("upstream_fetches", .number (.ofInt coverage.upstreamFetches)),
    ("max_age_ms", .number (.ofInt coverage.maxAgeMS)),
    ("failures", match coverage.failures with
      | none => .null
      | some failures => .array (failures.map failureJSON))]

/-- The member of the coverage, which is left out when it is empty. -/
def enrichmentJSON (enrichment : List EnrichmentCoverage) : Option JsonValue :=
  if enrichment = [] then none else some (.array (enrichment.map coverageJSON))

/-- What the browser makes of the enrichment of a report. -/
def shownEnrichment (enrichment : List EnrichmentCoverage) :
    Checked (List NormalizedEnrichment) :=
  coverageEnrichment ((enrichmentJSON enrichment).map JsValue.ofJson)

/-! ## Failures are accepted -/

section Failures

variable {failure : EnrichmentFailure} {path : String} {progress : FailureProgress} {index : Nat}

/-- The members of a failure, as the browser has them. -/
def failureMembers (failure : EnrichmentFailure) : List (String × JsValue) :=
  [("kind", .string failure.kind.text), ("count", .number (toNumber (.ofInt failure.count))),
    ("retryable", .bool failure.retryable)]

theorem ofJson_failureJSON (failure : EnrichmentFailure) :
    JsValue.ofJson (failureJSON failure) = .object (failureMembers failure) := by
  refine (JsValue.ofJson_object ?_).trans ?_
  · change (["kind", "count", "retryable"] : List String).Nodup
    decide
  · simp [JsValue.ofJson, failureMembers]

/-- Exactly the members that are expected. -/
theorem exactFields_of_keys {members : List (String × JsValue)} {expected : List String}
    (keys : members.map Prod.fst = expected) (path : String) :
    exactFields members expected path = .ok () := by
  have inside : ∀ member ∈ members, member.1 ∈ expected := fun member present =>
    keys ▸ List.mem_map_of_mem present
  have found : ∀ field ∈ expected, ((members.lookup field).isNone) = false := by
    intro field listed
    obtain ⟨member, present, rfl⟩ := List.mem_map.mp (keys ▸ listed)
    rw [Option.isNone_eq_false_iff, Option.isSome_iff_ne_none, Ne, List.lookup_eq_none_iff]
    intro absent
    simpa using absent member present
  rw [exactFields, allowedFields, if_neg, requireFields, List.find?_eq_none.mpr]
  · intro field listed
    simp [found field listed]
  · simp only [List.any_eq_true, not_exists, not_and, decide_eq_true_eq, not_not, List.append_nil]
    exact inside

theorem lookup_retryable {kind : GeoIPErrorKind} (known : kind ∈ geoIPFailureKinds) :
    enrichmentFailureRetryable.lookup kind.text = some (geoIPFailureRetryable kind) := by
  have table : ∀ one ∈ geoIPFailureKinds,
      enrichmentFailureRetryable.lookup one.text = some (geoIPFailureRetryable one) := by decide
  exact table kind known

/-- A failure that the analysis reports. -/
structure Reported (failure : EnrichmentFailure) : Prop where
  known : failure.kind ∈ geoIPFailureKinds
  retryable : failure.retryable = geoIPFailureRetryable failure.kind
  positive : 0 < failure.count

def shownFailure (failure : EnrichmentFailure) : NormalizedFailure :=
  ⟨failure.kind.text, failure.count, failure.retryable⟩

theorem normalizeFailure_failureJSON (known : Reported failure)
    (later : progress.previous.toList < failure.kind.text.toList) (nonneg : 0 ≤ progress.total)
    (room : progress.total + failure.count ≤ maxLookups) :
    normalizeFailure path progress (JsValue.ofJson (failureJSON failure), index) =
      .ok ⟨progress.total + failure.count, failure.kind.text,
        progress.failures ++ [shownFailure failure]⟩ := by
  have positive := known.positive
  have exact_ := @exactFields_of_keys (failureMembers failure) ["kind", "count", "retryable"] rfl
  have kind : JsValue.get (failureMembers failure) "kind" = .string failure.kind.text := rfl
  have count : JsValue.get (failureMembers failure) "count" =
    .number (toNumber (.ofInt failure.count)) := rfl
  have retryable : JsValue.get (failureMembers failure) "retryable" = .bool failure.retryable := rfl
  have expected : ∀ path, failureKind (.string failure.kind.text) path =
      .ok (failure.kind.text, failure.retryable) := by
    intro path
    rw [failureKind, lookup_retryable known.known, known.retryable]
  have counted : ∀ path, integer (.number (toNumber (.ofInt failure.count))) path 1 maxLookups =
      .ok failure.count := by
    intro path
    rw [integer_toNumber positive.le (by decide), if_neg (by omega)]
  unfold normalizeFailure
  rw [ofJson_failureJSON]
  simp only [object, exact_, kind, count, retryable, expected, counted, boolean, bind, Except.bind]
  rw [if_neg (by simpa using later), if_neg (not_not.mpr rfl), if_neg (not_lt.mpr room)]
  rfl

/-- Failures in the order of their kinds are accepted, as long as they leave
the bound unbroken. -/
theorem foldlM_normalizeFailure {failures : List EnrichmentFailure} {start : Nat}
    (known : ∀ failure ∈ failures, Reported failure)
    (later : ∀ failure ∈ failures, progress.previous.toList < failure.kind.text.toList)
    (sorted_ : failures.Pairwise fun left right =>
      left.kind.text.toList < right.kind.text.toList)
    (nonneg : 0 ≤ progress.total)
    (room : progress.total + enrichmentFailureCount failures ≤ maxLookups) :
    ∃ last, ((failures.map fun failure => JsValue.ofJson (failureJSON failure)).zipIdx start).foldlM
      (normalizeFailure path) progress = .ok ⟨progress.total + enrichmentFailureCount failures, last,
        progress.failures ++ failures.map shownFailure⟩ := by
  induction failures generalizing progress start with
  | nil => exact ⟨progress.previous, by simp [enrichmentFailureCount]; rfl⟩
  | cons first rest ih =>
      rw [List.pairwise_cons] at sorted_
      have counted : enrichmentFailureCount (first :: rest) =
          first.count + enrichmentFailureCount rest := by
        simp [enrichmentFailureCount]
      have restNonneg : 0 ≤ enrichmentFailureCount rest := by
        refine List.sum_nonneg ?_
        intro count member
        obtain ⟨failure, failureMem, rfl⟩ := List.mem_map.mp member
        exact (known failure (List.mem_cons_of_mem _ failureMem)).positive.le
      have positive := (known first (List.mem_cons_self ..)).positive
      rw [counted] at room ⊢
      have step := @normalizeFailure_failureJSON first path progress start
        (known first (List.mem_cons_self ..)) (later first (List.mem_cons_self ..)) nonneg (by omega)
      obtain ⟨last, fold⟩ := @ih ⟨progress.total + first.count, first.kind.text,
        progress.failures ++ [shownFailure first]⟩ (start + 1)
        (fun failure member => known failure (List.mem_cons_of_mem _ member))
        (fun failure member => sorted_.1 failure member) sorted_.2
        (by dsimp only; omega) (by dsimp only; omega)
      refine ⟨last, ?_⟩
      rw [List.map_cons, List.zipIdx_cons, List.foldlM_cons, step]
      refine fold.trans ?_
      rw [List.map_cons, add_assoc, List.append_assoc, List.singleton_append]

end Failures

/-! ## Coverages are accepted -/

section Coverages

variable {coverage : EnrichmentCoverage} {path : String} {index : Nat}

/-- The members of a coverage, as the browser has them. -/
def coverageMembers (coverage : EnrichmentCoverage) (failures : JsValue) :
    List (String × JsValue) :=
  [("provider", .string coverage.provider), ("source", .string (sourceText coverage.source)),
    ("cache_hits", .number (toNumber (.ofInt coverage.cacheHits))),
    ("upstream_fetches", .number (toNumber (.ofInt coverage.upstreamFetches))),
    ("max_age_ms", .number (toNumber (.ofInt coverage.maxAgeMS))), ("failures", failures)]

theorem ofJson_coverageJSON {failures : List EnrichmentFailure}
    (present : coverage.failures = some failures) :
    JsValue.ofJson (coverageJSON coverage) = .object (coverageMembers coverage
      (.array (failures.map fun failure => JsValue.ofJson (failureJSON failure)))) := by
  refine (JsValue.ofJson_object ?_).trans ?_
  · change (["provider", "source", "cache_hits", "upstream_fetches", "max_age_ms", "failures"] :
      List String).Nodup
    decide
  · simp [JsValue.ofJson, coverageMembers, present, JsValue.ofElements_eq, Function.comp_def]

theorem sourceText_enrichmentSource (cacheHits upstreamFetches : Int) :
    sourceText (enrichmentSource cacheHits upstreamFetches) =
      expectedSource cacheHits upstreamFetches := by
  unfold enrichmentSource expectedSource
  by_cases hits : 0 < cacheHits <;> by_cases fetches : 0 < upstreamFetches <;>
    simp [hits, fetches, sourceText]

theorem expectedSource_mem (cacheHits upstreamFetches : Int) :
    expectedSource cacheHits upstreamFetches ∈ enrichmentSources := by
  unfold expectedSource
  split_ifs <;> decide

/-- What the browser shows of a coverage. -/
def shownCoverage (coverage : EnrichmentCoverage) (failures : List EnrichmentFailure) :
    NormalizedEnrichment :=
  ⟨sourceText coverage.source, coverage.cacheHits, coverage.upstreamFetches, coverage.maxAgeMS,
    failures.map shownFailure⟩

/-- A coverage of as many lookups as a report can make. -/
structure Showable (coverage : EnrichmentCoverage) (failures : List EnrichmentFailure) : Prop where
  provider : coverage.provider = "geoip"
  cacheHits : 0 ≤ coverage.cacheHits
  upstreamFetches : 0 ≤ coverage.upstreamFetches
  source : coverage.source = enrichmentSource coverage.cacheHits coverage.upstreamFetches
  maxAgeMS : 0 ≤ coverage.maxAgeMS ∧ coverage.maxAgeMS ≤ Trace.defaultGeoIPCacheTTLMS
  present : coverage.failures = some failures
  few : failures.length ≤ enrichmentFailureRetryable.length
  known : ∀ failure ∈ failures, Reported failure
  sorted : failures.Pairwise fun left right => left.kind.text.toList < right.kind.text.toList
  lookups : coverage.cacheHits + coverage.upstreamFetches + enrichmentFailureCount failures ≤
    maxLookups

theorem normalizeEnrichmentEntry_coverageJSON {failures : List EnrichmentFailure}
    (showable : Showable coverage failures) :
    normalizeEnrichmentEntry path (JsValue.ofJson (coverageJSON coverage), index) =
      .ok (shownCoverage coverage failures) := by
  have hits := showable.cacheHits
  have fetches := showable.upstreamFetches
  have lookups := showable.lookups
  have failed : 0 ≤ enrichmentFailureCount failures := by
    refine List.sum_nonneg ?_
    intro count member
    obtain ⟨failure, failureMem, rfl⟩ := List.mem_map.mp member
    exact (showable.known failure failureMem).positive.le
  have bounded : ∀ (value max : Int) (path : String), 0 ≤ value → value ≤ max →
      max ≤ maxSafeInteger →
      integer (.number (toNumber (.ofInt value))) path 0 max = .ok value := by
    intro value max path nonneg le small
    rw [integer_toNumber nonneg small, if_neg (by omega)]
  have hits_eq := fun path => bounded _ maxLookups path hits (by omega) (by decide)
  have fetches_eq := fun path => bounded _ maxLookups path fetches (by omega) (by decide)
  have age_eq := fun path => bounded _ 86400000 path showable.maxAgeMS.1 showable.maxAgeMS.2
    (by decide)
  have first : ∀ failure ∈ failures, "".toList < failure.kind.text.toList := by
    intro failure member
    have table : ∀ kind ∈ geoIPFailureKinds, "".toList < kind.text.toList := by decide
    exact table _ (showable.known failure member).known
  obtain ⟨last, fold⟩ := @foldlM_normalizeFailure (path ++ "[" ++ toString index ++ "]")
    ⟨coverage.cacheHits + coverage.upstreamFetches, "", []⟩ failures 0 showable.known first
    showable.sorted (by dsimp only; omega) lookups
  set shown := failures.map fun failure => JsValue.ofJson (failureJSON failure) with shown_eq
  have fields := @exactFields_of_keys (coverageMembers coverage (.array shown))
    ["provider", "source", "cache_hits", "upstream_fetches", "max_age_ms", "failures"] rfl
  have provider : JsValue.get (coverageMembers coverage (.array shown)) "provider" =
    .string coverage.provider := rfl
  have source : JsValue.get (coverageMembers coverage (.array shown)) "source" =
    .string (sourceText coverage.source) := rfl
  have cacheHits : JsValue.get (coverageMembers coverage (.array shown)) "cache_hits" =
    .number (toNumber (.ofInt coverage.cacheHits)) := rfl
  have upstreamFetches : JsValue.get (coverageMembers coverage (.array shown)) "upstream_fetches" =
    .number (toNumber (.ofInt coverage.upstreamFetches)) := rfl
  have maxAgeMS : JsValue.get (coverageMembers coverage (.array shown)) "max_age_ms" =
    .number (toNumber (.ofInt coverage.maxAgeMS)) := rfl
  have failuresSource : JsValue.get (coverageMembers coverage (.array shown)) "failures" =
    .array shown := rfl
  have provided : ∀ path, requireProvider (.string coverage.provider) path = .ok () := fun path => by
    rw [requireProvider, if_pos showable.provider]
  have listed : ∀ path, array (.array shown) path enrichmentFailureRetryable.length = .ok shown := by
    intro path
    rw [array, if_neg]
    rw [shown_eq, List.length_map]
    exact not_lt.mpr showable.few
  have given : sourceText coverage.source =
      expectedSource coverage.cacheHits coverage.upstreamFetches := by
    rw [showable.source, sourceText_enrichmentSource]
  have known : ∀ path, enumValue (.string (sourceText coverage.source)) enrichmentSources path =
      .ok (sourceText coverage.source) := by
    intro path
    rw [enumValue, if_pos (given ▸ expectedSource_mem _ _)]
  unfold normalizeEnrichmentEntry
  rw [ofJson_coverageJSON showable.present, ← shown_eq]
  simp only [object, fields, provider, source, cacheHits, upstreamFetches, maxAgeMS,
    failuresSource, provided, hits_eq, fetches_eq, age_eq, listed, known, bind, Except.bind]
  rw [if_neg (by omega), fold]
  dsimp only
  rw [if_neg (not_not.mpr given)]
  rfl

/-- A browser that accepts a coverage has read a count within its bound. -/
theorem cacheHits_le_of_normalized {failures : List EnrichmentFailure}
    (present : coverage.failures = some failures) (hits : 0 ≤ coverage.cacheHits)
    {normalized : NormalizedEnrichment}
    (accepted : normalizeEnrichmentEntry path (JsValue.ofJson (coverageJSON coverage), index) =
      .ok normalized) : coverage.cacheHits ≤ maxLookups := by
  by_contra excess
  set shown := failures.map fun failure => JsValue.ofJson (failureJSON failure) with shown_eq
  have fields := @exactFields_of_keys (coverageMembers coverage (.array shown))
    ["provider", "source", "cache_hits", "upstream_fetches", "max_age_ms", "failures"] rfl
  have cacheHits : JsValue.get (coverageMembers coverage (.array shown)) "cache_hits" =
    .number (toNumber (.ofInt coverage.cacheHits)) := rfl
  have refused : ∀ path, integer (.number (toNumber (.ofInt coverage.cacheHits))) path 0
      maxLookups = schemaError path "expected bounded integer" := by
    intro path
    rw [integer_toNumber hits (by decide), if_pos (.inr (not_le.mp excess))]
  unfold normalizeEnrichmentEntry at accepted
  rw [ofJson_coverageJSON present, ← shown_eq] at accepted
  simp only [object, fields, cacheHits, refused, bind, Except.bind, schemaError] at accepted
  split at accepted <;> cases accepted

end Coverages

/-! ## Reports -/

section Reports

variable {coverages : List EnrichmentCoverage}

theorem mapM_singleton_ok {A B : Type} {check : A × Nat → Checked B} {entry : A} {out : List B}
    (mapped : ([entry].zipIdx).mapM check = .ok out) : ∃ one, check (entry, 0) = .ok one := by
  rw [List.zipIdx_singleton, List.mapM_cons, List.mapM_nil] at mapped
  cases checked : check (entry, 0) with
  | error failure =>
      rw [checked] at mapped
      cases mapped
  | ok one => exact ⟨one, rfl⟩

theorem normalizeEnrichment_singleton (value : JsValue) (path : String) :
    normalizeEnrichment (.array [value]) path =
      ([value].zipIdx).mapM (normalizeEnrichmentEntry path) := by
  rw [normalizeEnrichment, array, if_neg (by simp)]
  rfl

theorem shownEnrichment_singleton (coverage : EnrichmentCoverage) :
    shownEnrichment [coverage] = ([JsValue.ofJson (coverageJSON coverage)].zipIdx).mapM
      (normalizeEnrichmentEntry "analysis.coverage.enrichment") := by
  rw [shownEnrichment, enrichmentJSON, if_neg (by simp), Option.map_some, JsValue.ofJson_array,
    List.map_singleton, List.map_singleton, coverageEnrichment]
  exact normalizeEnrichment_singleton _ _

theorem showable_totalOf (bounded : ∀ one ∈ coverages, Bounded one)
    (normal : ∀ one ∈ coverages, Normal one) (few : coverages.length ≤ maxTargets) :
    Showable (totalOf coverages) (reported (countsOf coverages)) := by
  have nonneg : ∀ measure : EnrichmentCoverage → Int,
      (∀ one ∈ coverages, 0 ≤ measure one) → 0 ≤ (coverages.map measure).sum := by
    intro measure each
    refine List.sum_nonneg ?_
    intro count counted
    obtain ⟨one, member, rfl⟩ := List.mem_map.mp counted
    exact each one member
  have kinds : geoIPFailureKinds.Pairwise fun left right =>
      left.text.toList < right.text.toList := by decide
  have kept : ((reported (countsOf coverages)).map EnrichmentFailure.kind).Pairwise
      fun left right => left.text.toList < right.text.toList := by
    rw [map_kind_reported]
    exact kinds.sublist List.filter_sublist
  refine ⟨rfl, nonneg _ fun one member => (normal one member).cacheHits,
    nonneg _ fun one member => (normal one member).upstreamFetches, rfl, maxAgeMS_total normal, rfl,
    ?_, ?_, ?_, ?_⟩
  · exact List.length_filterMap_le _ _
  · intro failure member
    obtain ⟨known, positive, count_eq, retryable_eq⟩ := mem_reported.mp member
    exact ⟨known, retryable_eq, count_eq ▸ positive⟩
  · rwa [List.pairwise_map] at kept
  · have length_le : (coverages.length : Int) ≤ 20 := by exact_mod_cast few
    have bound : maxGeoIPLookupsPerResult = 310 := rfl
    have most : maxLookups = 6200 := rfl
    have total := lookups_total_le bounded normal
    rw [bound] at total
    rw [most]
    omega

/-- The browser accepts the sum of bounded coverages. -/
theorem shownEnrichment_aggregateOf (bounded : ∀ one ∈ coverages, Bounded one)
    (normal : ∀ one ∈ coverages, Normal one) (few : coverages.length ≤ maxTargets) :
    ∃ normalized, shownEnrichment (aggregateOf coverages) = .ok normalized := by
  unfold aggregateOf
  split
  · exact ⟨[], rfl⟩
  · have entry := @normalizeEnrichmentEntry_coverageJSON _ "analysis.coverage.enrichment" 0 _
      (showable_totalOf bounded normal few)
    refine ⟨[shownCoverage (totalOf coverages) (reported (countsOf coverages))], ?_⟩
    rw [shownEnrichment_singleton, List.zipIdx_singleton, List.mapM_cons, List.mapM_nil, entry]
    rfl

/-- What a report promises of its enrichment: the sum of what its results
contribute, in any order, as the browser accepts it. -/
structure Sums (library : Analysis.Library) (results : List Result) (now : Time) : Prop where
  enrichment_eq : (analyze library results now).coverage.enrichment =
    aggregateOf (contributions results)
  kinds : ∀ coverage ∈ (analyze library results now).coverage.enrichment,
    ∃ failures, coverage.failures = some failures ∧
      (failures.map EnrichmentFailure.kind).Sublist geoIPFailureKinds ∧
        enrichmentFailureCount failures = ((contributions results).map fun one =>
          enrichmentFailureCount (one.failures.getD [])).sum
  order : ∀ others : List Result, others.Perm results →
    (analyze library others now).coverage.enrichment =
      (analyze library results now).coverage.enrichment
  accepted : ∃ normalized,
    shownEnrichment (analyze library results now).coverage.enrichment = .ok normalized

/-- No coverage that a result carries is plausible and goes round. -/
def Straight (result : Result) : Prop :=
  (result.kind = .traceroute && !isTracerouteUnavailable result) = true →
    ∀ value, result.detail? "geoip_enrichment" = some value →
      ∀ coverage, enrichmentValue value = some coverage →
        Plausible coverage (integerDetail result "geoip_provider_failures") → ¬Wrapped coverage

/-- The integers of a result are of 64 bits. -/
def SizedDetails (result : Result) : Prop :=
  ∀ value, result.detail? "geoip_enrichment" = some value →
    ∀ coverage, enrichmentValue value = some coverage → Sized coverage

theorem bounded_of_straight {result : Result} (sized : SizedDetails result)
    (straight : Straight result) {coverage : EnrichmentCoverage}
    (contributed : contribution result = some coverage) : Bounded coverage := by
  unfold contribution at contributed
  split at contributed
  · rename_i traced
    obtain ⟨value, found, normalized⟩ := Option.bind_eq_some_iff.mp contributed
    obtain ⟨read, read_eq, fitting, least, greatest, rfl⟩ :=
      normalizedEnrichmentCoverage_eq_some_iff.mp normalized
    rcases (lookupCount_range_iff (sized value found read read_eq) fitting).mp
      ⟨least, greatest⟩ with le | wrapped
    · exact bounded_sorted (sized value found read read_eq) fitting le
    · exact absurd wrapped (straight traced value found read read_eq fitting)
  · cases contributed

/-- A coverage that goes round is accepted, with more hits than a browser
allows. -/
theorem exists_contribution_of_not_straight {result : Result} (sized : SizedDetails result)
    (crooked : ¬Straight result) :
    ∃ coverage, contribution result = some coverage ∧ maxLookups < coverage.cacheHits := by
  unfold Straight at crooked
  push Not at crooked
  obtain ⟨traced, value, found, coverage, read, fitting, wrapped⟩ := crooked
  have counts := sized value found coverage read
  obtain ⟨least, greatest⟩ := (lookupCount_range_iff counts fitting).mpr (.inr wrapped)
  have normalized := normalizedEnrichmentCoverage_eq_some_iff.mpr
    ⟨coverage, read, fitting, least, greatest, rfl⟩
  obtain ⟨failures, present, valid⟩ := fitting.failures
  have failed := (enrichmentFailureCount_range valid).2
  have total := wrapped.1
  have fetches := counts.upstreamFetches
  have most : maxLookups = 6200 := rfl
  rw [lookupsOf, present, Option.getD_some] at total
  refine ⟨sorted coverage, ?_, ?_⟩
  · rw [contribution, if_pos traced, found, Option.bind_some, normalized]
  · change maxLookups < coverage.cacheHits
    omega

theorem not_sums_of_not_straight {library : Analysis.Library} {results : List Result} {now : Time}
    {result : Result} (member : result ∈ results) (sized : SizedDetails result)
    (crooked : ¬Straight result) : ¬Sums library results now := by
  intro sums
  obtain ⟨coverage, contributed, excess⟩ := exists_contribution_of_not_straight sized crooked
  have inside : coverage ∈ contributions results := List.mem_filterMap.mpr ⟨result, member, contributed⟩
  have nonempty : contributions results ≠ [] := List.ne_nil_of_mem inside
  obtain ⟨normalized, accepted⟩ := sums.accepted
  rw [sums.enrichment_eq, aggregateOf, if_neg nonempty, shownEnrichment_singleton] at accepted
  obtain ⟨one, entry⟩ := mapM_singleton_ok accepted
  have each : ∀ count ∈ (contributions results).map EnrichmentCoverage.cacheHits, 0 ≤ count := by
    intro count counted
    obtain ⟨other, otherMem, rfl⟩ := List.mem_map.mp counted
    exact (normal_of_mem_contributions otherMem).cacheHits
  have hits : coverage.cacheHits ≤ (totalOf (contributions results)).cacheHits :=
    List.single_le_sum each _ (List.mem_map_of_mem inside)
  have le := cacheHits_le_of_normalized rfl (List.sum_nonneg each) entry
  omega

/-- A traceroute result whose counts go round. -/
def roundResult : Result where
  kind := .traceroute
  address := "example.com"
  status := .healthy
  latencyMS := 1
  startedAt := ⟨1, 0⟩
  errorCode := []
  message := []
  details := some [("geoip_enrichment", .enrichment roundCoverage)]

theorem sizedDetails_roundResult : SizedDetails roundResult := by
  intro value found coverage read
  cases found
  cases read
  exact ⟨by decide, by decide⟩

/-- The browser refuses a report with a coverage that went round. -/
theorem round_not_sums : ¬Sums plainReading [roundResult] ⟨1, 0⟩ := by
  refine not_sums_of_not_straight (List.mem_singleton.mpr rfl) sizedDetails_roundResult ?_
  intro straight
  refine straight (by decide) _ rfl roundCoverage rfl ?_ ⟨by decide, by decide⟩
  refine ⟨rfl, by decide, by decide, by decide, by decide, ⟨_, rfl, by decide⟩, ?_⟩
  intro legacy member
  cases member

/-- The enrichment of a report keeps its promise exactly when no count of its
results goes round. -/
theorem sums_iff (library : Analysis.Library) (results : List Result) (now : Time)
    (small : results.length ≤ maxTargets) (sized : ∀ result ∈ results, SizedDetails result) :
    Sums library results now ↔ ∀ result ∈ results, Straight result := by
  constructor
  · intro sums result member
    by_contra crooked
    exact not_sums_of_not_straight member (sized result member) crooked sums
  · intro straight
    have bounded : ∀ one ∈ contributions results, Bounded one := by
      intro one contributed
      obtain ⟨result, member, found⟩ := List.mem_filterMap.mp contributed
      exact bounded_of_straight (sized result member) (straight result member) found
    have normal : ∀ one ∈ contributions results, Normal one := fun one member =>
      normal_of_mem_contributions member
    have few := (length_contributions_le results).trans small
    have merged : (analyze library results now).coverage.enrichment =
        aggregateOf (contributions results) := by
      rw [enrichment_analyze, enrichment_normalizeResults library now.utc small bounded]
    refine ⟨merged, ?_, ?_, ?_⟩
    · rw [merged, aggregateOf]
      split
      · simp
      · intro coverage listed
        rw [List.mem_singleton.mp listed]
        refine ⟨reported (countsOf (contributions results)), rfl, ?_,
          enrichmentFailureCount_total normal⟩
        rw [map_kind_reported]
        exact List.filter_sublist
    · intro others perm
      have same : (contributions others).Perm (contributions results) := perm.filterMap _
      rw [merged, enrichment_analyze, enrichment_normalizeResults library now.utc
        (perm.length_eq.trans_le small) fun one listed => bounded one (same.mem_iff.mp listed)]
      exact aggregateOf_perm same
    · rw [merged]
      exact shownEnrichment_aggregateOf bounded normal few

theorem sums_iff_round : Sums plainReading [roundResult] ⟨1, 0⟩ ↔
    ∀ result ∈ [roundResult], Straight result :=
  sums_iff _ _ _ (by decide) fun result member =>
    List.mem_singleton.mp member ▸ sizedDetails_roundResult

end Reports

end CheckNetwork.Api
