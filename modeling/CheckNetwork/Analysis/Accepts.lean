import CheckNetwork.Analysis.Lookups

/-!
# The analysis accepts what the checker emits

A result of the checker that carries attempts passes every check of the
analysis on traceroute evidence, in any report of such results.
-/

namespace CheckNetwork.Analysis

open Diagnostic Go
open CheckNetwork.Trace (GeoIP CheckRun Lookup Recorded Tally coverageOf enrichAttempt
  enrichTopologies enrichmentFailureCount)

/-- A result of the checker for a target within the validated bounds. -/
def Emitted (library : Trace.Library) (result : Result) : Prop :=
  ∃ (run : CheckRun) (target : Target), 0 ≤ target.attempts ∧
    target.attempts ≤ maxTraceAttempts ∧ Trace.check library run target = some result

/-- A result with attempts, as the loop and the enrichment leave them. -/
structure Concluded (library : Trace.Library) (result : Result) (rounds : Nat) (tally : Tally)
    (attempts : List TraceAttempt) (enrichment : Option EnrichmentCoverage) : Prop where
  agrees : Tally.Agrees library rounds tally
  pos : 0 < rounds
  le : rounds ≤ maxTraceAttempts
  status_eq : result.status = tally.status rounds
  errorCode_eq : result.errorCode = tally.errorCode rounds
  details_eq : result.details = some (tally.details rounds attempts enrichment)
  recorded : ∀ attempt ∈ attempts, Recorded library attempt
  observed : attempts.map observe = tally.attempts.map observe
  numbers : attempts.map TraceAttempt.attempt = tally.attempts.map TraceAttempt.attempt
  represented : ∀ place ∈ tally.representative, ∃ attempt,
    attempts[place]? = some attempt ∧ attempt.errorCode = []
  enrichment_eq : ∀ coverage ∈ enrichment, ∃ lookups : List Lookup,
    coverage = coverageOf lookups ∧ (lookups.length : Int) ≤ maxGeoIPLookupsPerResult

@[simp]
theorem errorCode_enrichAttempt {library : Trace.Library} (geoIP : GeoIP)
    (attempt : TraceAttempt) :
    (enrichAttempt library geoIP attempt).errorCode = attempt.errorCode := by
  unfold enrichAttempt
  split <;> rfl

/-- A checker either leaves without details or concludes its attempts. -/
theorem Emitted.cases {library : Trace.Library} {result : Result}
    (emitted : Emitted library result) :
    result.details = none ∨
      ∃ rounds tally attempts enrichment,
        Concluded library result rounds tally attempts enrichment := by
  obtain ⟨run, target, nonneg, le, checked⟩ := emitted
  unfold Trace.check at checked
  split at checked
  · cases checked
    exact .inl rfl
  · split at checked
    · cases checked
      exact .inl rfl
    · rename_i destination _
      dsimp only at checked
      set attemptCount := if target.attempts = 0 then (defaultTraceAttempts : Int) else
        target.attempts with attemptCount_eq
      have range : 0 < attemptCount ∧ attemptCount ≤ maxTraceAttempts := by
        rw [attemptCount_eq]
        split
        · decide
        · omega
      rw [if_neg (by omega)] at checked
      split at checked
      · rename_i failure _
        cases checked
        left
        unfold Trace.networkPolicyResult
        dsimp only
        split <;> rfl
      · rename_i tally folded
        cases checked
        have agrees := Tally.Agrees.of_foldlM folded
        have length_eq := agrees.length_attempts
        refine .inr ⟨attemptCount.toNat, tally, _, _,
          { agrees := agrees
            pos := by omega
            le := by omega
            status_eq := rfl
            errorCode_eq := rfl
            details_eq := rfl
            recorded := ?_
            observed := ?_
            numbers := ?_
            represented := ?_
            enrichment_eq := ?_ }⟩
        · cases run.geoIP with
          | none => exact agrees.recorded
          | some geoIP =>
              intro attempt member
              obtain ⟨plain, plainMem, rfl⟩ := List.mem_map.mp member
              exact (agrees.recorded plain plainMem).enrich geoIP
        · cases run.geoIP with
          | none => rfl
          | some geoIP => simp [enrichTopologies]
        · cases run.geoIP with
          | none => rfl
          | some geoIP => simp [enrichTopologies]
        · intro place member
          obtain ⟨attempt, attempt_eq, completed⟩ := agrees.represented place member
          cases run.geoIP with
          | none => exact ⟨attempt, attempt_eq, completed⟩
          | some geoIP =>
              refine ⟨enrichAttempt library geoIP attempt, ?_, by simpa using completed⟩
              simp [enrichTopologies, attempt_eq]
        · cases run.geoIP with
          | none => simp
          | some geoIP =>
              rintro coverage ⟨⟩
              refine ⟨_, rfl, ?_⟩
              rw [List.length_map]
              exact length_publicAddresses_le geoIP agrees.recorded (by omega)

namespace Concluded

variable {library : Trace.Library} {result : Result} {rounds : Nat} {tally : Tally}
  {attempts : List TraceAttempt} {enrichment : Option EnrichmentCoverage}

/-- The counters of a result. -/
def counters (rounds : Nat) (tally : Tally) : Counters :=
  ⟨rounds, tally.reached, (rounds : Int) - tally.reached, tally.unreached,
    tally.executionFailed, tally.timedOut, tally.cancelled⟩

variable (concluded : Concluded library result rounds tally attempts enrichment)

include concluded

theorem detail_attempts : result.detail? "attempts" = some (.attempts attempts) := by
  simp [Result.detail?, concluded.details_eq, Tally.details, Details.get?]

theorem readCounters_eq : readCounters result = some (counters rounds tally) := by
  simp [readCounters, integerDetail, reflectedDetail, Result.detail?, concluded.details_eq,
    Tally.details, Details.get?, counters, Detail.int, integerOf, isNamed, GoType.predeclared]

theorem detail_enrichment :
    result.detail? "geoip_enrichment" = enrichment.map Detail.enrichment := by
  simp only [Result.detail?, concluded.details_eq, Tally.details, Details.get?, Option.bind_some]
  cases enrichment with
  | none => cases tally.representative.bind fun place =>
      attempts[place]?.bind TraceAttempt.topology <;> simp
  | some coverage => split_ifs <;> simp

theorem detail_topology :
    result.detail? "topology" = (tally.representative.bind fun place =>
      attempts[place]?.bind TraceAttempt.topology).map Detail.topology := by
  simp only [Result.detail?, concluded.details_eq, Tally.details, Details.get?, Option.bind_some]
  generalize (tally.representative.bind fun place =>
    attempts[place]?.bind TraceAttempt.topology) = representative
  cases enrichment with
  | none => cases representative <;> simp
  | some coverage =>
      split_ifs
      · cases representative <;> simp
      · cases representative <;> simp

/-- The legacy count of provider failures is that of the coverage. -/
theorem integerDetail_failures {coverage : EnrichmentCoverage} (present : enrichment = some coverage) :
    ∀ failures ∈ integerDetail result "geoip_provider_failures",
      failures = enrichmentFailureCount (coverage.failures.getD []) := by
  intro failures member
  simp only [integerDetail, reflectedDetail, Result.detail?, concluded.details_eq, Tally.details,
    Details.get?, Option.bind_some, present, Option.elim_some] at member
  split_ifs at member with positive
  · simp [Detail.int, integerOf, isNamed, GoType.predeclared] at member
    exact member.symm
  · revert member
    cases tally.representative.bind fun place => attempts[place]?.bind TraceAttempt.topology <;> simp

end Concluded

/-! ## Steps -/

/-- The signals of traceroute evidence that contradicts itself. -/
def evidenceSignals : List String :=
  ["trace_attempts", "trace_paths", "trace_error", "geoip_enrichment"]

/-- The enrichment of a report so far. -/
def MergedWithin (bound : Int) (enrichment : List EnrichmentCoverage) : Prop :=
  enrichment = [] ∨ ∃ aggregate, enrichment = [aggregate] ∧ Within bound aggregate

theorem Within.mono {bound other : Int} {coverage : EnrichmentCoverage}
    (within : Within bound coverage) (le : bound ≤ other) : Within other coverage := by
  obtain ⟨hits, upstream, failures, failures_eq, nonneg, counted⟩ := within
  exact ⟨⟨hits.1, hits.2.trans le⟩, ⟨upstream.1, upstream.2.trans le⟩, failures, failures_eq,
    nonneg, fun kind => (counted kind).trans le⟩

theorem MergedWithin.mono {bound other : Int} {enrichment : List EnrichmentCoverage}
    (within : MergedWithin bound enrichment) (le : bound ≤ other) :
    MergedWithin other enrichment := by
  rcases within with none_ | ⟨aggregate, enrichment_eq, aggregateWithin⟩
  · exact .inl none_
  · exact .inr ⟨aggregate, enrichment_eq, aggregateWithin.mono le⟩

section Steps

variable {library : Trace.Library} {result : Result} {rounds : Nat} {tally : Tally}
  {attempts : List TraceAttempt} {enrichment : Option EnrichmentCoverage} {draft : Draft}
  {bound : Int}

/-- Nothing is merged for a result without enrichment. -/
theorem enrichmentStep_of_absent (absent : result.detail? "geoip_enrichment" = none) :
    enrichmentStep result draft = draft := by
  simp [enrichmentStep, absent]

/-- The enrichment of a checker merges into that of the report. -/
theorem enrichmentStep_of_concluded
    (concluded : Concluded library result rounds tally attempts enrichment)
    (within : MergedWithin bound draft.coverage.enrichment)
    (le : bound + maxGeoIPLookupsPerResult ≤ maxTargets * maxGeoIPLookupsPerResult)
    (nonneg : 0 ≤ bound) (place : draft.facts.index < maxTargets) (allowed : String → Prop) :
    Draft.Limits allowed draft (enrichmentStep result draft) ∧
      MergedWithin (bound + maxGeoIPLookupsPerResult)
        (enrichmentStep result draft).coverage.enrichment := by
  have more : bound ≤ bound + maxGeoIPLookupsPerResult := le_add_of_nonneg_right (by decide)
  cases present : enrichment with
  | none =>
      have absent : result.detail? "geoip_enrichment" = none := by
        rw [concluded.detail_enrichment, present, Option.map_none]
      rw [enrichmentStep_of_absent absent]
      exact ⟨Draft.Limits.refl draft, within.mono more⟩
  | some coverage =>
      obtain ⟨lookups, coverage_eq, length_le⟩ := concluded.enrichment_eq coverage present
      have found : result.detail? "geoip_enrichment" = some (.enrichment coverage) := by
        rw [concluded.detail_enrichment, present, Option.map_some]
      have legacy_eq := concluded.integerDetail_failures present
      rw [coverage_eq, failures_coverageOf, Option.getD_some] at legacy_eq
      obtain ⟨normalized, normalized_eq, normalizedWithin⟩ :=
        normalizedEnrichmentCoverage_coverageOf length_le legacy_eq
      have merged : ∃ whole, mergeEnrichmentCoverage draft.coverage.enrichment normalized =
          some whole ∧ MergedWithin (bound + maxGeoIPLookupsPerResult) whole := by
        rcases within with none_ | ⟨aggregate, enrichment_eq, aggregateWithin⟩
        · rw [none_]
          exact ⟨[normalized], rfl, .inr ⟨normalized, rfl,
            normalizedWithin.mono (le_add_of_nonneg_left nonneg)⟩⟩
        · rw [enrichment_eq]
          obtain ⟨whole, whole_eq, wholeWithin⟩ :=
            within_merge aggregateWithin normalizedWithin le []
          exact ⟨[whole], whole_eq, .inr ⟨whole, rfl, wholeWithin⟩⟩
      obtain ⟨whole, whole_eq, wholeWithin⟩ := merged
      rw [← coverage_eq] at normalized_eq
      have step_eq : enrichmentStep result draft =
          { draft with coverage :=
              { draft.coverage with enrichment := whole } }.available
            "details.geoip_enrichment" := by
        simp [enrichmentStep, found, normalized_eq, place, whole_eq]
      rw [step_eq]
      exact ⟨⟨rfl, [], by simp [Draft.available], by simp⟩, wholeWithin⟩

/-- The attempts of a checker pass for themselves. -/
theorem Concluded.normalized (reading : Library)
    (concluded : Concluded library result rounds tally attempts enrichment) :
    normalizedTraceAttempts reading (.attempts attempts) = some attempts := by
  have valid := validateTraceAttempts_of_recorded concluded.pos concluded.le
    (concluded.numbers.trans concluded.agrees.numbers) concluded.recorded
  rw [normalizedTraceAttempts, if_pos valid]

/-- The aggregate topology of a checker is degraded with one of its attempts. -/
theorem Concluded.consistent {reading : Library}
    (concluded : Concluded library result rounds tally attempts enrichment) {topology : Topology}
    (known : normalizedTopology reading (result.detail? "topology") = some topology)
    (degraded : topologyDegraded topology = true) :
    traceAttemptsDegraded (attempts.filter fun attempt => attempt.errorCode = []) = true := by
  rw [concluded.detail_topology] at known
  cases chosen : tally.representative with
  | none => simp [chosen, normalizedTopology] at known
  | some place =>
      obtain ⟨attempt, attempt_eq, completed⟩ := concluded.represented place chosen
      rw [chosen, Option.bind_some, attempt_eq, Option.bind_some] at known
      have member := List.mem_of_getElem? attempt_eq
      cases route : attempt.topology with
      | none => simp [route, normalizedTopology] at known
      | some aggregate =>
          rw [route, Option.map_some, normalizedTopology] at known
          split at known
          · cases known
          · cases known
            rw [traceAttemptsDegraded, List.any_eq_true]
            refine ⟨attempt, List.mem_filter.mpr ⟨member, by simpa using completed⟩, ?_⟩
            simp [completed, route, degraded]

/-- The counters of a checker limit at most the topology. -/
theorem grows_countersStep_of_concluded (reading : Library)
    (concluded : Concluded library result rounds tally attempts enrichment)
    {allowed : String → Prop} (fine : allowed "trace_topology") :
    Draft.Grows allowed draft (countersStep reading result draft) := by
  have agrees := concluded.agrees
  refine grows_countersStep_of_confirmed concluded.readCounters_eq ?_ concluded.detail_attempts
    (concluded.normalized reading) (confirmedAttempts_of_recorded agrees concluded.pos
      concluded.recorded concluded.observed) (fun _ => concluded.consistent) ?_ fine
  · rw [concluded.status_eq]
    exact agrees.counters_valid concluded.pos concluded.le
  · rw [concluded.errorCode_eq, concluded.status_eq]
    exact agrees.errorCode_matches concluded.pos

end Steps

/-! ## Reports -/

/-- A result that the enrichment of a report can account for: one of the
checker, or one that brings no enrichment. -/
def Accountable (library : Trace.Library) (result : Result) : Prop :=
  Emitted library result ∨
    (result.kind = .traceroute → result.detail? "geoip_enrichment" = none)

section Results

variable {library : Trace.Library} {reading : Library} {now : Time} {index : Nat}
  {result : Result} {coverage : Coverage}

theorem checkSteps_enrichment :
    (checkSteps reading now result ⟨coverage, initialFacts index result⟩).coverage.enrichment =
      coverage.enrichment := by
  have checks : Draft.Grows (fun _ => True) ⟨coverage, initialFacts index result⟩
      (checkSteps reading now result ⟨coverage, initialFacts index result⟩) :=
    grows_checkSteps fun _ _ => trivial
  exact checks.enrichment_eq

theorem normalizeResult_enrichment_of_absent
    (absent : result.kind = .traceroute → result.detail? "geoip_enrichment" = none) :
    (normalizeResult reading now index result coverage).coverage.enrichment =
      coverage.enrichment := by
  unfold normalizeResult tracerouteStep Draft.when
  split
  · rename_i traced
    have traceroute : result.kind = .traceroute := by
      rw [Bool.and_eq_true, decide_eq_true_eq] at traced
      exact traced.1
    dsimp only
    rw [enrichmentStep_of_absent (absent traceroute)]
    have counted : ∀ draft, Draft.Grows (fun _ => True) draft (countersStep reading result draft) :=
      fun _ => grows_countersStep fun _ _ => trivial
    have failed : ∀ draft, Draft.Grows (fun _ => True) draft (providerFailureStep result draft) :=
      fun _ => grows_providerFailureStep
    rw [(counted _).enrichment_eq, (failed _).enrichment_eq, checkSteps_enrichment]
  · exact checkSteps_enrichment

/-- A place in a report leaves room for the lookups of one result more. -/
theorem room_of_place (place : index < maxTargets) :
    (index : Int) * maxGeoIPLookupsPerResult + maxGeoIPLookupsPerResult ≤
        maxTargets * maxGeoIPLookupsPerResult ∧
      0 ≤ (index : Int) * maxGeoIPLookupsPerResult := by
  constructor
  · rw [show maxGeoIPLookupsPerResult = 310 from rfl]
    omega
  · exact mul_nonneg (Int.natCast_nonneg _) (by decide)

/-- A concluded result adds no issue about traceroute evidence. -/
theorem normalizeResult_of_concluded {rounds : Nat} {tally : Tally}
    {attempts : List TraceAttempt} {enrichment : Option EnrichmentCoverage}
    (concluded : Concluded library result rounds tally attempts enrichment)
    (within : MergedWithin (index * maxGeoIPLookupsPerResult) coverage.enrichment)
    (place : index < maxTargets) :
    Draft.Limits (· ∉ evidenceSignals) ⟨coverage, initialFacts index result⟩
        (normalizeResult reading now index result coverage) ∧
      MergedWithin ((index + 1 : Nat) * maxGeoIPLookupsPerResult)
        (normalizeResult reading now index result coverage).coverage.enrichment := by
  obtain ⟨room, nonneg⟩ := room_of_place place
  have next : ((index + 1 : Nat) : Int) * maxGeoIPLookupsPerResult =
      index * maxGeoIPLookupsPerResult + maxGeoIPLookupsPerResult := by
    push_cast
    ring
  have checks : Draft.Grows (· ∉ evidenceSignals) ⟨coverage, initialFacts index result⟩
      (checkSteps reading now result ⟨coverage, initialFacts index result⟩) :=
    grows_checkSteps fun signal member => by
      revert signal
      decide
  unfold normalizeResult tracerouteStep Draft.when
  split
  · have failed : Draft.Grows (· ∉ evidenceSignals) _ (providerFailureStep result
        (checkSteps reading now result ⟨coverage, initialFacts index result⟩)) :=
      grows_providerFailureStep
    have before := checks.trans failed
    rw [next]
    obtain ⟨enriched, merged⟩ := @enrichmentStep_of_concluded _ result _ _ _ _
      (providerFailureStep result
        (checkSteps reading now result ⟨coverage, initialFacts index result⟩)) _ concluded
      (by rwa [before.enrichment_eq]) room nonneg (by rwa [before.index_eq]) (· ∉ evidenceSignals)
    have counted := @grows_countersStep_of_concluded _ result _ _ _ _ (enrichmentStep result
      (providerFailureStep result
        (checkSteps reading now result ⟨coverage, initialFacts index result⟩))) reading concluded
      (· ∉ evidenceSignals) (by decide)
    refine ⟨(before.toLimits.trans enriched).trans counted.toLimits, ?_⟩
    rwa [counted.enrichment_eq]
  · refine ⟨checks.toLimits, ?_⟩
    rw [checks.enrichment_eq, next]
    exact within.mono (le_add_of_nonneg_right (by decide))

theorem merged_normalizeResult (accountable : Accountable library result)
    (within : MergedWithin (index * maxGeoIPLookupsPerResult) coverage.enrichment)
    (place : index < maxTargets) :
    MergedWithin ((index + 1 : Nat) * maxGeoIPLookupsPerResult)
      (normalizeResult reading now index result coverage).coverage.enrichment := by
  have kept : (result.kind = .traceroute → result.detail? "geoip_enrichment" = none) →
      MergedWithin ((index + 1 : Nat) * maxGeoIPLookupsPerResult)
        (normalizeResult reading now index result coverage).coverage.enrichment := by
    intro absent
    rw [normalizeResult_enrichment_of_absent absent]
    exact within.mono (mul_le_mul_of_nonneg_right (by omega) (by decide))
  rcases accountable with emitted | absent
  · rcases emitted.cases with bare | ⟨rounds, tally, attempts, enrichment, concluded⟩
    · exact kept fun _ => by simp [Result.detail?, bare]
    · exact (normalizeResult_of_concluded concluded within place).2
  · exact kept absent

end Results

/-- The coverage after a part of the results. -/
structure Sifted (library : Trace.Library) (results : List Result) (coverage : Coverage) :
    Prop where
  merged : MergedWithin (results.length * maxGeoIPLookupsPerResult) coverage.enrichment
  index_lt : ∀ issue ∈ coverage.limitations, issue.resultIndex < results.length
  signals : ∀ issue ∈ coverage.limitations, ∀ result, results[issue.resultIndex]? = some result →
    Emitted library result → (result.detail? "attempts").isSome → issue.signal ∉ evidenceSignals

theorem sifted_normalizeResults (library : Trace.Library) (reading : Library) (now : Time)
    {results : List Result} (small : results.length ≤ maxTargets)
    (accountable : ∀ result ∈ results, Accountable library result) :
    Sifted library results (normalizeResults reading now results emptyCoverage).1 := by
  induction results using List.reverseRecOn with
  | nil => exact ⟨.inl rfl, by simp [normalizeResults, emptyCoverage],
      by simp [normalizeResults, emptyCoverage]⟩
  | append_singleton results last ih =>
      rw [List.length_append, List.length_singleton] at small
      have before := ih (by omega) fun result member =>
        accountable result (List.mem_append_left _ member)
      have lastAccountable := accountable last (by simp)
      rw [normalizeResults_concat]
      obtain ⟨-, issues, issues_eq, known⟩ := limits_normalizeResult reading now results.length last
        (normalizeResults reading now results emptyCoverage).1
      refine ⟨?_, ?_, ?_⟩
      · rw [List.length_append, List.length_singleton]
        exact merged_normalizeResult lastAccountable before.merged (by omega)
      · intro issue member
        rw [issues_eq] at member
        rw [List.length_append, List.length_singleton]
        rcases List.mem_append.mp member with old | new
        · have lt := before.index_lt issue old
          omega
        · have index_eq : issue.resultIndex = results.length := (known issue new).1
          omega
      · intro issue member result found emitted carrying
        rcases emitted.cases with bare | ⟨rounds, tally, attempts, enrichment, concluded⟩
        · simp [Result.detail?, bare] at carrying
        · by_cases earlier : issue.resultIndex < results.length
          · rw [List.getElem?_append_left earlier] at found
            rw [issues_eq] at member
            rcases List.mem_append.mp member with old | new
            · exact before.signals issue old result found emitted carrying
            · have index_eq : issue.resultIndex = results.length := (known issue new).1
              omega
          · have here : issue.resultIndex = results.length := by
              have lt := (List.getElem?_eq_some_iff.mp found).1
              rw [List.length_append, List.length_singleton] at lt
              omega
            rw [here, List.getElem?_concat_length, Option.some.injEq] at found
            subst found
            obtain ⟨-, clean, clean_eq, clear⟩ :=
              (normalizeResult_of_concluded concluded before.merged (by omega)).1
            rw [clean_eq] at member
            rcases List.mem_append.mp member with old | new
            · have lt := before.index_lt issue old
              omega
            · exact (clear issue new).2

/-- The checks of the analysis on traceroute evidence. -/
structure PassesChecks (reading : Library) (result : Result) : Prop where
  attempts_valid : ∃ attempts, (result.detail? "attempts").bind
    (normalizedTraceAttempts reading) = some attempts ∧
      ∃ counters, readCounters result = some counters ∧
        validCounters result.status counters = true ∧
        traceAttemptsMatchCounters attempts counters.total counters.reached counters.unreached
          counters.executionFailed counters.timedOut counters.cancelled = true ∧
        (eligibleCompletedTraceAttempts attempts counters.reached counters.unreached).isSome ∧
        traceOuterErrorMatches result.errorCode result.status counters.total counters.reached
          counters.unreached counters.executionFailed counters.timedOut counters.cancelled = true
  enrichment_valid : ∀ value, result.detail? "geoip_enrichment" = some value →
    (normalizedEnrichmentCoverage value
      (integerDetail result "geoip_provider_failures")).isSome

theorem Concluded.passesChecks {library : Trace.Library} {result : Result} {rounds : Nat}
    {tally : Tally} {attempts : List TraceAttempt} {enrichment : Option EnrichmentCoverage}
    (concluded : Concluded library result rounds tally attempts enrichment) (reading : Library) :
    PassesChecks reading result := by
  have agrees := concluded.agrees
  have confirmed := confirmedAttempts_of_recorded agrees concluded.pos concluded.recorded
    concluded.observed
  have matched : traceAttemptsMatchCounters attempts rounds tally.reached tally.unreached
      tally.executionFailed tally.timedOut tally.cancelled = true := by
    by_contra different
    rw [confirmedAttempts, if_neg different] at confirmed
    cases confirmed
  rw [confirmedAttempts, if_pos matched] at confirmed
  refine ⟨⟨attempts, ?_, Concluded.counters rounds tally, concluded.readCounters_eq, ?_, matched,
    ?_, ?_⟩, ?_⟩
  · rw [concluded.detail_attempts, Option.bind_some, concluded.normalized]
  · rw [concluded.status_eq]
    exact agrees.counters_valid concluded.pos concluded.le
  · exact Option.isSome_of_eq_some confirmed
  · rw [concluded.errorCode_eq, concluded.status_eq]
    exact agrees.errorCode_matches concluded.pos
  · intro value found
    rw [concluded.detail_enrichment] at found
    obtain ⟨coverage, present, rfl⟩ := Option.map_eq_some_iff.mp found
    obtain ⟨lookups, coverage_eq, length_le⟩ := concluded.enrichment_eq coverage present
    have legacy_eq := concluded.integerDetail_failures present
    rw [coverage_eq, failures_coverageOf, Option.getD_some] at legacy_eq
    obtain ⟨normalized, normalized_eq, -⟩ :=
      normalizedEnrichmentCoverage_coverageOf length_le legacy_eq
    rw [coverage_eq, normalized_eq]
    rfl

/-- A result with attempts that the checker emits passes the checks, and in a
report of accountable results the analysis records no limitation of its
traceroute evidence. -/
theorem analyze_accepts_emitted (library : Trace.Library) (reading : Library) (now : Time)
    {results : List Result} (small : results.length ≤ maxTargets)
    (accountable : ∀ result ∈ results, Accountable library result) {index : Nat}
    {result : Result} (found : results[index]? = some result) (emitted : Emitted library result)
    (carrying : (result.detail? "attempts").isSome) :
    PassesChecks reading result ∧
      ∀ issue ∈ (analyze reading results now).coverage.limitations,
        issue.resultIndex = index → issue.signal ∉ evidenceSignals := by
  constructor
  · rcases emitted.cases with bare | ⟨rounds, tally, attempts, enrichment, concluded⟩
    · simp [Result.detail?, bare] at carrying
    · exact concluded.passesChecks reading
  · intro issue member index_eq
    rcases mem_limitations_analyze member with normalized | explained
    · have sifted := sifted_normalizeResults library reading now.utc small accountable
      exact sifted.signals issue normalized result (index_eq ▸ found) emitted carrying
    · intro known
      revert explained known
      generalize issue.signal = signal
      simp only [Builder.factSignals, evidenceSignals, List.mem_cons, List.not_mem_nil, or_false]
      rintro (rfl | rfl | rfl) <;> decide

/-- A library that knows the texts of a route to one address. -/
def gatewayLibrary : Trace.Library where
  parseIP := fun text => if text = GoString.ofString "10.0.0.1" then some text else none
  parseFloat := fun text => if text = GoString.ofString "0.5" then some (.finite (1 / 2)) else none
  toLower := fun text => text
  quote := fun text => GoString.ofString "\"" ++ text ++ GoString.ofString "\""
  parseIP_local := by decide

/-- A run whose first attempt reaches the address and whose second one times
out without output. -/
def gatewayRun : CheckRun where
  startedAt := ⟨1, 0⟩
  baseLatencyMS := 0
  latencyMS := 5
  available := true
  attempt := fun number =>
    { resolveFailure := none
      contextErr := none
      commandErr := if number = 1 then none else
        some ⟨true, false, GoString.ofString "context deadline exceeded"⟩
      output := if number = 1 then
        GoString.ofString "traceroute to 10.0.0.1 (10.0.0.1), 30 hops max\n 1  10.0.0.1  0.5 ms\n"
        else [] }
  geoIP := none

def gatewayTarget : Target := ⟨.traceroute, GoString.ofString "10.0.0.1", 0, 2⟩

/-- The check of the gateway finds attempts, and a degraded route. -/
theorem any_gatewayCheck : ((Trace.check gatewayLibrary gatewayRun gatewayTarget).any fun result =>
    decide (result.status = .degraded ∧ (result.detail? "attempts").isSome)) = true := by
  decide +kernel

theorem isSome_gatewayResult :
    (Trace.check gatewayLibrary gatewayRun gatewayTarget).isSome = true := by
  obtain ⟨result, found, -⟩ := (Option.any_eq_true _ _).mp any_gatewayCheck
  exact Option.isSome_of_eq_some found

def gatewayResult : Result :=
  (Trace.check gatewayLibrary gatewayRun gatewayTarget).get isSome_gatewayResult

theorem gatewayResult_degraded :
    gatewayResult.status = .degraded ∧ (gatewayResult.detail? "attempts").isSome := by
  obtain ⟨result, found, degraded⟩ := (Option.any_eq_true _ _).mp any_gatewayCheck
  have result_eq : gatewayResult = result := Option.get_of_eq_some _ found
  rw [result_eq]
  exact of_decide_eq_true degraded

theorem emitted_gatewayResult : Emitted gatewayLibrary gatewayResult :=
  ⟨gatewayRun, gatewayTarget, by decide, by decide, (Option.some_get _).symm⟩

/-- A reading that converts nothing. -/
def plainReading : Library where
  parseTime := fun _ => none
  formatTime := fun _ => []
  convertAttempts := fun _ => none
  convertTopology := fun _ => none

theorem analyze_accepts_emitted_gateway :
    PassesChecks plainReading gatewayResult ∧
      ∀ issue ∈ (analyze plainReading [gatewayResult] ⟨2, 0⟩).coverage.limitations,
        issue.resultIndex = 0 → issue.signal ∉ evidenceSignals :=
  analyze_accepts_emitted gatewayLibrary plainReading ⟨2, 0⟩ (by decide)
    (fun result member => .inl (List.mem_singleton.mp member ▸ emitted_gatewayResult)) rfl
    emitted_gatewayResult gatewayResult_degraded.2

end CheckNetwork.Analysis
