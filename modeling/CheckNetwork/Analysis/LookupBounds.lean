import CheckNetwork.Analysis.Lookups

/-!
# Bounds of an accepted coverage

A coverage is accepted when the wrapped sum of its counts lies within the
lookups of one result.  The exact sum then lies there as well, unless it went
round once.
-/

namespace CheckNetwork.Analysis

open Diagnostic Go
open CheckNetwork.Trace (geoIPFailureKinds enrichmentFailureCount enrichmentSource)

/-- The hits, the fetches and the failures, without wraparound. -/
def lookupsOf (coverage : EnrichmentCoverage) : Int :=
  coverage.cacheHits + coverage.upstreamFetches +
    enrichmentFailureCount (coverage.failures.getD [])

/-- Every count, and the sum of all, is possible for one result. -/
structure Bounded (coverage : EnrichmentCoverage) : Prop where
  cacheHits : 0 ≤ coverage.cacheHits ∧ coverage.cacheHits ≤ maxGeoIPLookupsPerResult
  upstreamFetches : 0 ≤ coverage.upstreamFetches ∧
    coverage.upstreamFetches ≤ maxGeoIPLookupsPerResult
  failures : ∃ failures, coverage.failures = some failures ∧
    ∀ failure ∈ failures, 0 ≤ failure.count ∧ failure.count ≤ maxGeoIPLookupsPerResult
  lookups : 0 ≤ lookupsOf coverage ∧
    lookupsOf coverage ≤ maxGeoIPLookupsPerResult

/-- The counts are integers of 64 bits. -/
structure Sized (coverage : EnrichmentCoverage) : Prop where
  cacheHits : coverage.cacheHits < 2 ^ 63
  upstreamFetches : coverage.upstreamFetches < 2 ^ 63

/-- What is asked of a coverage apart from the sum of its counts. -/
structure Plausible (coverage : EnrichmentCoverage) (legacyFailures : Option Int) : Prop where
  provider : coverage.provider = "geoip"
  cacheHits : 0 ≤ coverage.cacheHits
  upstreamFetches : 0 ≤ coverage.upstreamFetches
  maxAgeMS : 0 ≤ coverage.maxAgeMS ∧ coverage.maxAgeMS ≤ Trace.defaultGeoIPCacheTTLMS
  source : coverage.source = enrichmentSource coverage.cacheHits coverage.upstreamFetches
  failures : ∃ failures, coverage.failures = some failures ∧ validEnrichmentFailures failures = true
  legacy : ∀ legacy ∈ legacyFailures, 0 ≤ legacy →
    legacy = enrichmentFailureCount (coverage.failures.getD [])

/-- The failures in the order of their kinds. -/
def ordered (failures : List EnrichmentFailure) : List EnrichmentFailure :=
  failures.insertionSort fun left right => left.kind.text ≤ right.kind.text

def sorted (coverage : EnrichmentCoverage) : EnrichmentCoverage :=
  { coverage with failures := coverage.failures.map ordered }

/-- The sum of the counts, as the analysis adds them. -/
def lookupCount (coverage : EnrichmentCoverage) : Int :=
  wrap64 (wrap64 (coverage.cacheHits + coverage.upstreamFetches) +
    enrichmentFailureCount (coverage.failures.getD []))

section Bounds

variable {coverage : EnrichmentCoverage} {legacyFailures : Option Int}

theorem ordered_perm (failures : List EnrichmentFailure) : (ordered failures).Perm failures :=
  List.perm_insertionSort _ _

theorem enrichmentFailureCount_sorted (coverage : EnrichmentCoverage) :
    enrichmentFailureCount ((sorted coverage).failures.getD []) =
      enrichmentFailureCount (coverage.failures.getD []) := by
  cases present : coverage.failures with
  | none => simp [sorted, present]
  | some failures =>
      simpa [sorted, present, enrichmentFailureCount] using
        ((ordered_perm failures).map EnrichmentFailure.count).sum_eq

/-- A value is accepted if its coverage is plausible and the wrapped sum is
within the lookups of a result. -/
theorem normalizedEnrichmentCoverage_eq_some_iff {value : Detail}
    {accepted : EnrichmentCoverage} :
    normalizedEnrichmentCoverage value legacyFailures = some accepted ↔
      ∃ coverage, enrichmentValue value = some coverage ∧ Plausible coverage legacyFailures ∧
        0 ≤ lookupCount coverage ∧ lookupCount coverage ≤ maxGeoIPLookupsPerResult ∧
          accepted = sorted coverage := by
  unfold normalizedEnrichmentCoverage
  cases read : enrichmentValue value with
  | none => simp
  | some coverage =>
      simp only [Option.bind_eq_bind, Option.bind_some, Option.some.injEq, exists_eq_left']
      cases present : coverage.failures with
      | none =>
          constructor
          · intro impossible
            simp at impossible
          · rintro ⟨fitting, -⟩
            obtain ⟨failures, failures_eq, -⟩ := fitting.failures
            rw [present] at failures_eq
            cases failures_eq
      | some failures =>
          have counted := enrichmentFailureCount_sorted coverage
          simp only [sorted, present, Option.map_some, Option.getD_some] at counted
          have lookups : lookupCount coverage =
              wrap64 (wrap64 (coverage.cacheHits + coverage.upstreamFetches) +
                enrichmentFailureCount failures) := by
            rw [lookupCount, present, Option.getD_some]
          have sorted_eq : sorted coverage = { coverage with failures := some (ordered failures) } := by
            rw [sorted, present, Option.map_some]
          rw [Option.bind_some, normalizedEnrichmentFailures, ← ordered]
          by_cases valid : validEnrichmentFailures failures = true
          · rw [if_pos valid, Option.bind_some, counted, ← lookups, ← sorted_eq]
            constructor
            · intro found
              split_ifs at found with outside source legacy
              simp only [not_or, not_not, not_lt] at outside source
              obtain ⟨provider, hits, fetches, age, recent, least, greatest⟩ := outside
              refine ⟨⟨provider, hits, fetches, ⟨age, recent⟩, source, ⟨failures, present, valid⟩,
                ?_⟩, least, greatest, (Option.some.inj found).symm⟩
              intro failed member nonneg
              rw [present, Option.getD_some]
              by_contra different
              exact legacy (by simp [Option.mem_def.mp member, nonneg, different])
            · rintro ⟨fitting, least, greatest, rfl⟩
              rw [if_neg, if_neg, if_neg]
              · simp only [Option.any_eq_true, not_exists, not_and, Bool.and_eq_true,
                  decide_eq_true_eq]
                intro failed member nonneg different
                refine different ?_
                rw [fitting.legacy failed member nonneg, present, Option.getD_some]
              · exact not_not.mpr fitting.source
              · simp only [not_or, not_not, not_lt]
                exact ⟨fitting.provider, fitting.cacheHits, fitting.upstreamFetches,
                  fitting.maxAgeMS.1, fitting.maxAgeMS.2, least, greatest⟩
          · rw [if_neg valid, Option.bind_none]
            constructor
            · intro impossible
              cases impossible
            · rintro ⟨fitting, -⟩
              obtain ⟨others, failures_eq, othersValid⟩ := fitting.failures
              rw [present, Option.some.injEq] at failures_eq
              exact absurd (failures_eq ▸ othersValid) valid

/-! ## Failures -/

/-- A valid failure breakdown has a count for each kind at most. -/
theorem enrichmentFailureCount_range {failures : List EnrichmentFailure}
    (valid : validEnrichmentFailures failures = true) :
    0 ≤ enrichmentFailureCount failures ∧ enrichmentFailureCount failures ≤ 2480 := by
  simp only [validEnrichmentFailures, Bool.and_eq_true, decide_eq_true_eq, List.all_eq_true]
    at valid
  obtain ⟨⟨length_le, each⟩, -⟩ := valid
  have positive : ∀ count ∈ failures.map EnrichmentFailure.count, 0 ≤ count := by
    intro count member
    obtain ⟨failure, failureMem, rfl⟩ := List.mem_map.mp member
    exact (each failure failureMem).1.1.2.le
  have bounded : ∀ count ∈ failures.map EnrichmentFailure.count,
      count ≤ maxGeoIPLookupsPerResult := by
    intro count member
    obtain ⟨failure, failureMem, rfl⟩ := List.mem_map.mp member
    exact (each failure failureMem).1.2
  have sum_le := List.sum_le_card_nsmul _ _ bounded
  have bound : maxGeoIPLookupsPerResult = 310 := rfl
  have kinds : geoIPFailureKinds.length = 8 := rfl
  rw [List.length_map, bound, nsmul_eq_mul] at sum_le
  refine ⟨List.sum_nonneg positive, sum_le.trans ?_⟩
  have : (failures.length : Int) ≤ 8 := by
    rw [kinds] at length_le
    exact_mod_cast length_le
  omega

theorem mem_failures_bounded {failures : List EnrichmentFailure}
    (valid : validEnrichmentFailures failures = true) :
    ∀ failure ∈ failures, 0 < failure.count ∧ failure.count ≤ maxGeoIPLookupsPerResult := by
  simp only [validEnrichmentFailures, Bool.and_eq_true, decide_eq_true_eq, List.all_eq_true]
    at valid
  intro failure member
  exact ⟨(valid.1.2 failure member).1.1.2, (valid.1.2 failure member).1.2⟩

/-! ## Wraparound -/

/-- The sum that the analysis sees is that of the counts, less a multiple of
the integers there are. -/
theorem lookupCount_eq (coverage : EnrichmentCoverage) :
    lookupCount coverage = wrap64 (lookupsOf coverage) := by
  rw [lookupCount, wrap64, wrap64, Int.bmod_add_bmod]
  rfl

/-- The sum went round once and came back to the bound. -/
def Wrapped (coverage : EnrichmentCoverage) : Prop :=
  2 ^ 64 ≤ lookupsOf coverage ∧ lookupsOf coverage ≤ 2 ^ 64 + maxGeoIPLookupsPerResult

variable (sized : Sized coverage) (fitting : Plausible coverage legacyFailures)

include sized fitting

theorem lookups_range : 0 ≤ lookupsOf coverage ∧ lookupsOf coverage < 2 ^ 64 + 2480 := by
  obtain ⟨failures, present, valid⟩ := fitting.failures
  have range := enrichmentFailureCount_range valid
  have hits := fitting.cacheHits
  have fetches := fitting.upstreamFetches
  have hits_lt := sized.cacheHits
  have fetches_lt := sized.upstreamFetches
  rw [lookupsOf, present, Option.getD_some]
  omega

theorem lookupCount_range_iff :
    (0 ≤ lookupCount coverage ∧ lookupCount coverage ≤ maxGeoIPLookupsPerResult) ↔
      lookupsOf coverage ≤ maxGeoIPLookupsPerResult ∨ Wrapped coverage := by
  have range := lookups_range sized fitting
  have bound : maxGeoIPLookupsPerResult = 310 := rfl
  rw [lookupCount_eq, wrap64, Wrapped, bound]
  generalize lookupsOf coverage = lookups at range
  have turn : lookups < 2 ^ 63 ∧ lookups.bmod (2 ^ 64) = lookups ∨
      2 ^ 63 ≤ lookups ∧ lookups.bmod (2 ^ 64) = lookups - 2 ^ 64 := by
    rcases lt_or_ge lookups (2 ^ 63) with low | high
    · exact .inl ⟨low, wrap64_of_lt (by omega) low⟩
    · refine .inr ⟨high, ?_⟩
      have shifted := Int.sub_bmod_right lookups (2 ^ 64)
      rw [← shifted, Nat.cast_pow, Nat.cast_ofNat]
      exact wrap64_of_lt (by omega) (by omega)
  constructor
  · rintro ⟨least, greatest⟩
    rcases turn with ⟨low, same⟩ | ⟨high, less⟩ <;> omega
  · intro outcome
    rcases turn with ⟨low, same⟩ | ⟨high, less⟩ <;> omega

/-- A sum that did not go round bounds every count. -/
theorem bounded_sorted (le : lookupsOf coverage ≤ maxGeoIPLookupsPerResult) :
    Bounded (sorted coverage) := by
  have range := lookups_range sized fitting
  obtain ⟨failures, present, valid⟩ := fitting.failures
  have failed := enrichmentFailureCount_range valid
  have hits := fitting.cacheHits
  have fetches := fitting.upstreamFetches
  have same : lookupsOf (sorted coverage) = lookupsOf coverage := by
    rw [lookupsOf, enrichmentFailureCount_sorted]
    rfl
  have total : lookupsOf coverage = coverage.cacheHits + coverage.upstreamFetches +
      enrichmentFailureCount failures := by
    rw [lookupsOf, present, Option.getD_some]
  refine ⟨⟨hits, ?_⟩, ⟨fetches, ?_⟩, ?_, ?_⟩
  · change coverage.cacheHits ≤ _
    omega
  · change coverage.upstreamFetches ≤ _
    omega
  · refine ⟨ordered failures, ?_, ?_⟩
    · rw [sorted, present, Option.map_some]
    · intro failure member
      obtain ⟨positive, le⟩ := mem_failures_bounded valid failure
        ((ordered_perm failures).mem_iff.mp member)
      exact ⟨positive.le, le⟩
  · rw [same]
    exact ⟨range.1, le⟩

omit sized fitting in
theorem not_bounded_of_wrapped (wrapped : Wrapped coverage) : ¬Bounded (sorted coverage) := by
  intro bounded
  have same : lookupsOf (sorted coverage) = lookupsOf coverage := by
    rw [lookupsOf, enrichmentFailureCount_sorted]
    rfl
  have le := bounded.lookups.2
  have bound : maxGeoIPLookupsPerResult = 310 := rfl
  have least := wrapped.1
  rw [same] at le
  omega

end Bounds

/-! ## The accepted coverage -/

/-- Only bounded coverage is accepted if and only if no plausible coverage is
read whose sum goes round into the bound. -/
theorem accepted_bounded_iff (value : Detail) (legacyFailures : Option Int)
    (sized : ∀ coverage, enrichmentValue value = some coverage → Sized coverage) :
    (∀ accepted, normalizedEnrichmentCoverage value legacyFailures = some accepted →
      Bounded accepted) ↔
    ∀ coverage, enrichmentValue value = some coverage → Plausible coverage legacyFailures →
      ¬Wrapped coverage := by
  constructor
  · intro bounded coverage read fitting wrapped
    obtain ⟨least, greatest⟩ :=
      (lookupCount_range_iff (sized coverage read) fitting).mpr (.inr wrapped)
    have accepted := normalizedEnrichmentCoverage_eq_some_iff.mpr
      ⟨coverage, read, fitting, least, greatest, rfl⟩
    exact not_bounded_of_wrapped wrapped (bounded _ accepted)
  · intro straight accepted normalized
    obtain ⟨coverage, read, fitting, least, greatest, rfl⟩ :=
      normalizedEnrichmentCoverage_eq_some_iff.mp normalized
    rcases (lookupCount_range_iff (sized coverage read) fitting).mp ⟨least, greatest⟩ with
      le | wrapped
    · exact bounded_sorted (sized coverage read) fitting le
    · exact absurd wrapped (straight coverage read fitting)

/-- Every hit and fetch that an integer can count, and two failures. -/
def roundCoverage : EnrichmentCoverage where
  provider := "geoip"
  source := .mixed
  cacheHits := 2 ^ 63 - 1
  upstreamFetches := 2 ^ 63 - 1
  maxAgeMS := 0
  failures := some [⟨.busy, 2, true⟩]

theorem accepted_bounded_iff_round :
    (∀ accepted, normalizedEnrichmentCoverage (.enrichment roundCoverage) none = some accepted →
      Bounded accepted) ↔
    ∀ coverage, enrichmentValue (.enrichment roundCoverage) = some coverage →
      Plausible coverage none → ¬Wrapped coverage := by
  refine accepted_bounded_iff _ _ fun coverage read => ?_
  cases read
  exact ⟨by decide, by decide⟩

/-- Counts far above the bound are accepted once their sum has gone round. -/
theorem roundCoverage_accepted :
    normalizedEnrichmentCoverage (.enrichment roundCoverage) none = some roundCoverage ∧
      ¬Bounded roundCoverage := by
  refine ⟨by decide, fun bounded => ?_⟩
  have le := bounded.cacheHits.2
  revert le
  decide

end CheckNetwork.Analysis
