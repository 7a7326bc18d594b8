import CheckNetwork.Analysis.Accepts
import CheckNetwork.Analysis.Issues
import CheckNetwork.Analysis.Twins

/-!
# Degraded routes

The checker calls a route degraded when a node of it did not answer; the
analysis looks for a node or a link that is degraded itself.  A degraded result
is explained exactly when its attempts carry a signal the analysis knows.
-/

namespace CheckNetwork.Analysis

open Diagnostic Go
open CheckNetwork.Trace (CheckRun Tally)

/-- What the analysis takes for the degradation of a route. -/
def Signalled (attempts : List TraceAttempt) : Prop :=
  (∃ attempt ∈ attempts, attempt.errorCode ≠ []) ∨ traceAttemptsDegraded attempts = true ∨
    tracePathsUnstable attempts = true

/-! ## Normalization -/

section Normalization

variable {library : Trace.Library} {reading : Library} {now : Time} {result : Result}
  {rounds : Nat} {tally : Tally} {attempts : List TraceAttempt}
  {enrichment : Option EnrichmentCoverage} {draft : Draft}

/-- The checks of other kinds leave a traceroute result alone. -/
theorem checkSteps_of_traceroute (kind : result.kind = .traceroute)
    (detailed : result.details.isSome = true) (valid : validStatus result.status = true) :
    (checkSteps reading now result draft).facts = draft.facts ∧
      (checkSteps reading now result draft).coverage.limitations = draft.coverage.limitations := by
  have status : statusStep result draft = draft.available "status" := by
    simp [statusStep, Draft.when, valid]
  have code : ∀ draft : Draft, (errorCodeStep result draft).facts = draft.facts ∧
      (errorCodeStep result draft).coverage.limitations = draft.coverage.limitations := by
    intro draft
    unfold errorCodeStep Draft.when
    split_ifs <;> exact ⟨rfl, rfl⟩
  have rest : ∀ draft : Draft, tlsStep reading result (httpStep result (endpointStep result
      (dnsStep result (greetingStep reading result (tlsFailureStep reading now result
        (detailsStep result (kindStep result draft))))))) = draft := by
    intro draft
    have present : result.details.isNone = false := by
      rw [← Option.not_isSome, detailed]
      rfl
    simp [tlsStep, httpStep, endpointStep, dnsStep, greetingStep, tlsFailureStep, detailsStep,
      kindStep, Draft.when, kind, isTLSKind, isConnectionDetailKind, isServiceGreetingKind,
      isTLSFailure, isGreetingFailure, supportedKind, present]
  unfold checkSteps
  dsimp only
  rw [rest, status]
  exact code _

theorem traceAttemptsDegraded_filter (attempts : List TraceAttempt) :
    traceAttemptsDegraded (attempts.filter fun attempt => attempt.errorCode = []) =
      traceAttemptsDegraded attempts := by
  simp only [traceAttemptsDegraded, List.any_filter]
  congr 1
  funext attempt
  rw [← Bool.and_assoc, Bool.and_self]

theorem tracePathsUnstable_filter (attempts : List TraceAttempt) :
    tracePathsUnstable (attempts.filter fun attempt => attempt.errorCode = []) =
      tracePathsUnstable attempts := by
  simp only [tracePathsUnstable, List.filter_filter, Bool.and_self]

/-- The facts of a result that the checker concludes. -/
def routeFacts (rounds : Nat) (tally : Tally) (attempts : List TraceAttempt) (facts : Facts) :
    Facts :=
  { countersFacts (Concluded.counters rounds tally) facts with
    tracePathCompleted := (attempts.filter fun attempt => attempt.errorCode = []).length
    tracePathReached := tally.reached
    tracePathDegraded := traceAttemptsDegraded attempts
    tracePathUnstable := tracePathsUnstable attempts }

/-- The limitation of a degradation without a known signal. -/
def unsignalledIssue (facts : Facts) : CoverageIssue :=
  ⟨.malformedDetails, facts.index, facts.kind, "trace_topology",
    "degraded traceroute attempts did not contain an observable degradation signal"⟩

theorem degradationStep_of_attempts (present : hasDetail result "attempts" = true) :
    (degradationStep result draft).facts = draft.facts ∧
      (degradationStep result draft).coverage.limitations = draft.coverage.limitations ++
        if result.status = .degraded ∧ draft.facts.traceExecutionFail = 0 ∧
            draft.facts.tracePathUnstable = false ∧ draft.facts.tracePathDegraded = false
        then [unsignalledIssue draft.facts] else [] := by
  unfold degradationStep Draft.when
  simp only [Bool.and_eq_true, decide_eq_true_eq, Bool.not_eq_true', present, if_true, and_assoc]
  split_ifs
  · exact ⟨rfl, rfl⟩
  · exact ⟨rfl, (List.append_nil _).symm⟩

/-- The counters of a checker become the facts, and only a degradation without
a known signal is limited. -/
theorem countersStep_of_concluded (reading : Library)
    (concluded : Concluded library result rounds tally attempts enrichment) :
    (countersStep reading result draft).facts = routeFacts rounds tally attempts draft.facts ∧
      (countersStep reading result draft).coverage.limitations = draft.coverage.limitations ++
        if result.status = .degraded ∧ tally.executionFailed = 0 ∧
            tracePathsUnstable attempts = false ∧ traceAttemptsDegraded attempts = false
        then [unsignalledIssue draft.facts] else [] := by
  have agrees := concluded.agrees
  have valid : validCounters result.status (Concluded.counters rounds tally) = true := by
    rw [concluded.status_eq]
    exact agrees.counters_valid concluded.pos concluded.le
  have outer : traceOuterErrorMatches result.errorCode result.status rounds tally.reached
      tally.unreached tally.executionFailed tally.timedOut tally.cancelled = true := by
    rw [concluded.errorCode_eq, concluded.status_eq]
    exact agrees.errorCode_matches concluded.pos
  have known : (readCounters result).filter (validCounters result.status) =
      some (Concluded.counters rounds tally) := by
    simp [concluded.readCounters_eq, valid]
  have confirmed := confirmedAttempts_of_recorded agrees concluded.pos concluded.recorded
    concluded.observed
  have agreed : ((normalizedTopology reading (result.detail? "topology")).any fun topology =>
      topologyDegraded topology && !traceAttemptsDegraded attempts) = false := by
    rw [← traceAttemptsDegraded_filter]
    cases route : normalizedTopology reading (result.detail? "topology") with
    | none => rfl
    | some topology =>
        cases degraded : topologyDegraded topology with
        | false => simp [degraded]
        | true => simp [concluded.consistent route degraded]
  have present : hasDetail result "attempts" = true := by
    simp [hasDetail, concluded.detail_attempts]
  have evidence : ∀ draft : Draft, attemptsStep reading result draft
      (Concluded.counters rounds tally) (.attempts attempts) =
        Draft.available { draft with facts :=
          { draft.facts with
            tracePathCompleted := (attempts.filter fun attempt => attempt.errorCode = []).length
            tracePathReached := tally.reached
            tracePathDegraded := traceAttemptsDegraded attempts
            tracePathUnstable := tracePathsUnstable attempts } } "details.trace_paths" := by
    intro draft
    have same : confirmedAttempts (Concluded.counters rounds tally) attempts =
        some (attempts.filter fun attempt => attempt.errorCode = []) := confirmed
    simp only [attemptsStep, concluded.normalized reading, Option.bind_some, same,
      traceAttemptsDegraded_filter, tracePathsUnstable_filter, agreed, Draft.when,
      Bool.false_eq_true, if_false]
    rfl
  have outer_eq : ∀ draft : Draft,
      outerErrorStep result draft (Concluded.counters rounds tally) = draft := by
    intro draft
    simp [outerErrorStep, Concluded.counters, outer, Draft.when]
  have route_eq : ∀ draft : Draft, topologyStep reading result draft = draft := by
    intro draft
    simp [topologyStep, present, Draft.when]
  simp only [countersStep, known, concluded.detail_attempts, outer_eq, route_eq, evidence]
  unfold Draft.when
  obtain ⟨facts_eq, limitations_eq⟩ := @degradationStep_of_attempts result
    (Draft.available ⟨draft.coverage, routeFacts rounds tally attempts draft.facts⟩
      "details.trace_paths") present
  constructor
  · split_ifs
    · exact facts_eq
    · exact facts_eq
  · have whole : ∀ (condition : Bool) (draft : Draft) (signal : String),
        (if condition then draft.available signal else draft).coverage.limitations =
          draft.coverage.limitations := by
      intro condition draft signal
      cases condition <;> rfl
    rw [whole]
    refine limitations_eq.trans ?_
    simp only [Draft.available, routeFacts, countersFacts, Concluded.counters, Int.natCast_eq_zero]
    rfl

theorem facts_enrichmentStep : (enrichmentStep result draft).facts = draft.facts := by
  unfold enrichmentStep
  split
  · rfl
  · dsimp only
    split <;> rfl

theorem providerFailureStep_eq : (providerFailureStep result draft).facts = draft.facts ∧
    (providerFailureStep result draft).coverage.limitations = draft.coverage.limitations := by
  unfold providerFailureStep Draft.when
  split
  · split_ifs <;> exact ⟨rfl, rfl⟩
  · exact ⟨rfl, rfl⟩

/-- A degraded result has no error code. -/
theorem Concluded.errorCode_of_degraded
    (concluded : Concluded library result rounds tally attempts enrichment)
    (degraded : result.status = .degraded) : result.errorCode = [] := by
  have status := concluded.status_eq.symm.trans degraded
  rw [concluded.errorCode_eq, Tally.errorCode, if_pos (by rw [status]; decide)]
  rfl

/-- What the normalization makes of a degraded result. -/
theorem normalizeResult_of_degraded {index : Nat} {coverage : Coverage}
    (concluded : Concluded library result rounds tally attempts enrichment)
    (kind : result.kind = .traceroute) (degraded : result.status = .degraded)
    (within : MergedWithin (index * maxGeoIPLookupsPerResult) coverage.enrichment)
    (place : index < maxTargets) :
    (normalizeResult reading now index result coverage).facts =
        routeFacts rounds tally attempts (initialFacts index result) ∧
      (normalizeResult reading now index result coverage).coverage.limitations =
        coverage.limitations ++
          if tally.executionFailed = 0 ∧ tracePathsUnstable attempts = false ∧
              traceAttemptsDegraded attempts = false
          then [unsignalledIssue (initialFacts index result)] else [] := by
  have available : isTracerouteUnavailable result = false := by
    simp [isTracerouteUnavailable, degraded]
  have detailed : result.details.isSome = true := Option.isSome_of_eq_some concluded.details_eq
  have valid : validStatus result.status = true := by
    rw [degraded]
    rfl
  obtain ⟨checked, unlimited⟩ := @checkSteps_of_traceroute reading now result
    ⟨coverage, initialFacts index result⟩ kind detailed valid
  set middle := checkSteps reading now result ⟨coverage, initialFacts index result⟩
    with middle_eq
  obtain ⟨failed, unfailed⟩ := @providerFailureStep_eq result middle
  have enriched := @facts_enrichmentStep result (providerFailureStep result middle)
  have normalized : normalizeResult reading now index result coverage =
      countersStep reading result (enrichmentStep result (providerFailureStep result middle)) := by
    simp [normalizeResult, tracerouteStep, kind, available, Draft.when, middle_eq]
  have index_eq : (providerFailureStep result middle).facts.index = index := by
    rw [failed, checked]
    rfl
  have merged_eq : (providerFailureStep result middle).coverage.enrichment =
      coverage.enrichment := by
    have grown : Draft.Grows (fun _ => True) middle (providerFailureStep result middle) :=
      grows_providerFailureStep
    rw [grown.enrichment_eq, middle_eq, checkSteps_enrichment]
  obtain ⟨room, nonneg⟩ := room_of_place place
  obtain ⟨-, issues, issues_eq, none_⟩ := (enrichmentStep_of_concluded concluded
    (merged_eq ▸ within) room nonneg (index_eq.symm ▸ place) fun _ => False).1
  have issues_nil : issues = [] :=
    List.eq_nil_iff_forall_not_mem.mpr fun issue member => (none_ issue member).2
  obtain ⟨facts_eq, limitations_eq⟩ := @countersStep_of_concluded _ result _ _ _ _
    (enrichmentStep result (providerFailureStep result middle)) reading concluded
  rw [normalized]
  constructor
  · rw [facts_eq, enriched, failed, checked]
  · rw [limitations_eq, issues_eq, issues_nil, List.append_nil, enriched, failed, checked,
      unfailed, unlimited]
    simp only [degraded, true_and]

end Normalization

/-! ## Signals -/

section Signals

variable {library : Trace.Library} {reading : Library} {now : Time} {result : Result}
  {rounds : Nat} {tally : Tally} {attempts : List TraceAttempt}
  {enrichment : Option EnrichmentCoverage}

theorem Concluded.executionFailed_pos_iff
    (concluded : Concluded library result rounds tally attempts enrichment) :
    0 < tally.executionFailed ↔ ∃ attempt ∈ attempts, attempt.errorCode ≠ [] := by
  rw [concluded.agrees.executionFailed_eq, ← concluded.observed, List.countP_pos_iff]
  constructor
  · rintro ⟨observed, member, failed⟩
    obtain ⟨attempt, attemptMem, rfl⟩ := List.mem_map.mp member
    refine ⟨attempt, attemptMem, ?_⟩
    intro completed
    unfold observe at failed
    rw [if_neg (not_not.mpr completed)] at failed
    split at failed <;> cases failed
  · rintro ⟨attempt, attemptMem, failed⟩
    refine ⟨_, List.mem_map_of_mem attemptMem, ?_⟩
    unfold observe
    rw [if_pos failed]
    rfl

theorem Concluded.two_le_reached_of_unstable
    (concluded : Concluded library result rounds tally attempts enrichment)
    (unstable : tracePathsUnstable attempts = true) : 2 ≤ tally.reached := by
  unfold tracePathsUnstable at unstable
  dsimp only at unstable
  rw [Bool.and_eq_true, decide_eq_true_eq, List.length_filterMap_eq_countP, List.countP_filter]
    at unstable
  rw [concluded.agrees.reached_eq, ← concluded.observed, List.count, List.countP_map]
  refine unstable.1.trans (List.countP_mono_left fun attempt _ counted => ?_)
  rw [Bool.and_eq_true, decide_eq_true_eq, Option.isSome_filter] at counted
  rw [Function.comp_apply, beq_iff_eq, observe_eq_reached_iff]
  exact ⟨counted.2, counted.1⟩

/-- Signals are told. -/
theorem exists_traceRule_of_signalled
    (concluded : Concluded library result rounds tally attempts enrichment)
    (signalled : Signalled attempts) (facts : Facts) :
    ∃ rule, rule ∈ traceRules (routeFacts rounds tally attempts facts) := by
  have path : ∀ {attempt : TraceAttempt}, attempt ∈ attempts → attempt.errorCode = [] →
      (tracePathsUnstable attempts = true ∨ traceAttemptsDegraded attempts = true) →
      ∃ rule, rule ∈ traceRules (routeFacts rounds tally attempts facts) := by
    intro attempt member completed seen
    have pos : 0 < (routeFacts rounds tally attempts facts).tracePathCompleted := by
      have length_pos : 0 < (attempts.filter fun attempt => attempt.errorCode = []).length :=
        List.length_pos_of_mem (List.mem_filter.mpr ⟨member, by simpa using completed⟩)
      exact Int.natCast_pos.mpr length_pos
    have told : ∃ rule, rule ∈ tracePathRules (routeFacts rounds tally attempts facts) := by
      unfold tracePathRules
      rw [if_pos pos]
      by_cases unstable : tracePathsUnstable attempts = true
      · rw [if_pos ⟨unstable, Int.ofNat_le.mpr (concluded.two_le_reached_of_unstable unstable)⟩]
        exact ⟨_, List.mem_singleton_self _⟩
      · have degraded : (routeFacts rounds tally attempts facts).tracePathDegraded = true :=
          seen.resolve_left unstable
        rw [if_neg fun both => unstable both.1, if_pos degraded]
        exact ⟨_, List.mem_singleton_self _⟩
    obtain ⟨rule, ruleMem⟩ := told
    exact ⟨rule, List.mem_append_right _ ruleMem⟩
  rcases signalled with failed | degraded | unstable
  · have pos : 0 < (routeFacts rounds tally attempts facts).traceExecutionFail :=
      Int.natCast_pos.mpr (concluded.executionFailed_pos_iff.mpr failed)
    have told : ∃ rule, rule ∈ traceFailureRules (routeFacts rounds tally attempts facts) := by
      unfold traceFailureRules
      rw [if_pos pos]
      split_ifs <;> exact ⟨_, List.mem_singleton_self _⟩
    obtain ⟨rule, ruleMem⟩ := told
    exact ⟨rule, List.mem_append_left _ (List.mem_append_left _ ruleMem)⟩
  · obtain ⟨attempt, member, seen⟩ := List.any_eq_true.mp degraded
    rw [Bool.and_eq_true, decide_eq_true_eq] at seen
    exact path member seen.1 (.inr degraded)
  · obtain ⟨attempt, member, completed⟩ : ∃ attempt ∈ attempts, attempt.errorCode = [] := by
      have two := concluded.two_le_reached_of_unstable unstable
      rw [concluded.agrees.reached_eq, ← concluded.observed] at two
      have pos : 0 < (attempts.map observe).count .reached := by omega
      obtain ⟨attempt, member, reached⟩ := List.mem_map.mp (List.count_pos_iff.mp pos)
      exact ⟨attempt, member, (observe_eq_reached_iff.mp reached).1⟩
    exact path member completed (.inl unstable)

/-- The facts of a degraded route are told as a route. -/
theorem routed_of_degraded (index : Nat)
    (concluded : Concluded library result rounds tally attempts enrichment)
    (kind : result.kind = .traceroute) (degraded : result.status = .degraded) :
    Heard (routeFacts rounds tally attempts (initialFacts index result)) ∧
      Routed (routeFacts rounds tally attempts (initialFacts index result)) := by
  have code := concluded.errorCode_of_degraded degraded
  constructor
  · constructor
    · change validStatus result.status = true
      rw [degraded]
      rfl
    · exact .inl rfl
    · simp [validErrorCode, routeFacts, countersFacts, initialFacts, code, degraded, kind]
  · constructor
    · exact kind
    · rfl
    · change result.errorCode ≠ _ ∧ isTLSFailureErrorCode result.errorCode = false
      rw [code]
      decide
    · change if result.status = .healthy then _ else ∀ code ∈ checkerCodes, result.errorCode ≠ _
      rw [degraded, if_neg (by decide), code]
      decide

end Signals

/-! ## Reports -/

section Reports

variable {library : Trace.Library} {result : Result}

/-- A result of the checker is one of a route, and one without details is
unreachable. -/
theorem Emitted.kind_status (emitted : Emitted library result) :
    result.kind = .traceroute ∧ (result.details = none → result.status = .unreachable) := by
  obtain ⟨run, target, nonneg, le, checked⟩ := emitted
  unfold Trace.check at checked
  dsimp only at checked
  split at checked
  · cases checked
    exact ⟨rfl, fun _ => rfl⟩
  · split at checked
    · cases checked
      exact ⟨rfl, fun _ => rfl⟩
    · generalize (if target.attempts = 0 then (defaultTraceAttempts : Int) else
        target.attempts) = attemptCount at checked
      split at checked
      · cases checked
      · split at checked
        · cases checked
          unfold Trace.networkPolicyResult
          dsimp only
          split <;> exact ⟨rfl, fun _ => rfl⟩
        · cases checked
          exact ⟨rfl, nofun⟩

/-- What a report says of a degraded route: a finding that refers to it, and no
complaint about its details. -/
def Explained (report : Analysis) (index : Nat) : Prop :=
  (∃ finding ∈ report.findings, RefersTo report finding index) ∧
    ∀ issue ∈ report.coverage.limitations, issue.resultIndex = index →
      issue.code ≠ .malformedDetails

/-- What the normalization of a report makes of a degraded route. -/
theorem Emitted.degraded_cases {reading : Library} {now : Time} {results : List Result}
    {index : Nat} (emitted : Emitted library result) (degraded : result.status = .degraded)
    (small : results.length ≤ maxTargets)
    (accountable : ∀ result ∈ results, Accountable library result)
    (found : results[index]? = some result) :
    ∃ rounds tally attempts enrichment, Concluded library result rounds tally attempts enrichment ∧
      resultFacts reading now 0 result = routeFacts rounds tally attempts (initialFacts 0 result) ∧
      (normalizeResult reading now index result
          (coverageBefore reading now results index)).coverage.limitations =
        (coverageBefore reading now results index).limitations ++
          if tally.executionFailed = 0 ∧ tracePathsUnstable attempts = false ∧
              traceAttemptsDegraded attempts = false
          then [unsignalledIssue (initialFacts index result)] else [] := by
  obtain ⟨kind, bare⟩ := emitted.kind_status
  obtain ⟨rounds, tally, attempts, enrichment, concluded⟩ : ∃ rounds tally attempts enrichment,
      Concluded library result rounds tally attempts enrichment := by
    refine emitted.cases.resolve_left fun none_ => ?_
    rw [bare none_] at degraded
    cases degraded
  have lt := (List.getElem?_eq_some_iff.mp found).1
  have merged : MergedWithin (index * maxGeoIPLookupsPerResult)
      (coverageBefore reading now results index).enrichment := by
    have few : (results.take index).length ≤ maxTargets := by
      rw [List.length_take]
      omega
    have sifted := sifted_normalizeResults library reading now few
      fun result member => accountable result (List.mem_of_mem_take member)
    have within := sifted.merged
    rw [List.length_take, min_eq_left lt.le] at within
    exact within
  refine ⟨rounds, tally, attempts, enrichment, concluded, ?_, ?_⟩
  · exact (normalizeResult_of_degraded concluded kind degraded (.inl rfl) (by decide)).1
  · exact (normalizeResult_of_degraded concluded kind degraded merged (by omega)).2

theorem Concluded.silent_iff {rounds : Nat} {tally : Tally} {attempts : List TraceAttempt}
    {enrichment : Option EnrichmentCoverage}
    (concluded : Concluded library result rounds tally attempts enrichment) :
    (tally.executionFailed = 0 ∧ tracePathsUnstable attempts = false ∧
      traceAttemptsDegraded attempts = false) ↔
        ¬∃ attempts, result.detail? "attempts" = some (.attempts attempts) ∧
          Signalled attempts := by
  have same : (∃ attempts, result.detail? "attempts" = some (.attempts attempts) ∧
      Signalled attempts) ↔ Signalled attempts := by
    rw [concluded.detail_attempts]
    constructor
    · rintro ⟨others, same, signalled⟩
      cases same
      exact signalled
    · exact fun signalled => ⟨attempts, rfl, signalled⟩
  rw [same, Signalled, ← concluded.executionFailed_pos_iff]
  simp only [not_or, Bool.not_eq_true, Nat.pos_iff_ne_zero, not_not]
  tauto

section Explained

variable {reading : Library} {now : Time} {results : List Result} {index : Nat}

/-- Without a signal, the details of a degraded route are called malformed. -/
theorem limited_of_unsignalled (small : results.length ≤ maxTargets)
    (accountable : ∀ result ∈ results, Accountable library result)
    (found : results[index]? = some result) (emitted : Emitted library result)
    (degraded : result.status = .degraded)
    (silent : ¬∃ attempts, result.detail? "attempts" = some (.attempts attempts) ∧
      Signalled attempts) :
    unsignalledIssue (initialFacts index result) ∈
      (analyze reading results now).coverage.limitations := by
  obtain ⟨rounds, tally, attempts, enrichment, concluded, -, limitations_eq⟩ :=
    @Emitted.degraded_cases _ _ reading now.utc _ _ emitted degraded small accountable found
  rw [if_pos (concluded.silent_iff.mpr silent)] at limitations_eq
  rw [mem_limitations_analyze_iff CoverageIssueCode.noConfusion]
  exact ⟨result, found, _, limitations_eq, List.mem_singleton_self _⟩

theorem explained_of_signalled (small : results.length ≤ maxTargets)
    (accountable : ∀ result ∈ results, Accountable library result)
    (found : results[index]? = some result) (emitted : Emitted library result)
    (degraded : result.status = .degraded)
    (signalled : ∃ attempts, result.detail? "attempts" = some (.attempts attempts) ∧
      Signalled attempts) : Explained (analyze reading results now) index := by
  obtain ⟨rounds, tally, attempts, enrichment, concluded, facts_eq, limitations_eq⟩ :=
    @Emitted.degraded_cases _ _ reading now.utc _ _ emitted degraded small accountable found
  rw [if_neg fun silent => concluded.silent_iff.mp silent signalled] at limitations_eq
  constructor
  · obtain ⟨others, others_eq, told⟩ := signalled
    rw [concluded.detail_attempts] at others_eq
    cases others_eq
    obtain ⟨rule, ruleMem⟩ := exists_traceRule_of_signalled concluded told (initialFacts 0 result)
    obtain ⟨heard, routed⟩ := routed_of_degraded 0 concluded emitted.kind_status.1 degraded
    have known : rule ∈ rulesOf reading now.utc result := by
      rw [rulesOf, facts_eq]
      exact mem_of_routed heard routed ruleMem
    obtain ⟨finding, member, -, refers⟩ := exists_refersTo found known
    exact ⟨finding, member, refers⟩
  · intro issue member index_eq malformed
    rw [mem_limitations_analyze_iff (by rw [malformed]; decide)] at member
    obtain ⟨other, other_eq, issues, issues_eq, issueMem⟩ := member
    rw [index_eq, found, Option.some.injEq] at other_eq
    subst other_eq
    rw [index_eq, limitations_eq] at issues_eq
    rw [← List.append_cancel_left issues_eq] at issueMem
    cases issueMem

end Explained

/-- A degraded route of the checker is explained exactly when an attempt failed,
a completed one met a degraded node or link, or the completed ones took
different paths. -/
theorem explained_iff_signalled (library : Trace.Library) (reading : Library) (now : Time)
    {results : List Result} (small : results.length ≤ maxTargets)
    (accountable : ∀ result ∈ results, Accountable library result) {index : Nat}
    {result : Result} (found : results[index]? = some result) (emitted : Emitted library result)
    (degraded : result.status = .degraded) :
    Explained (analyze reading results now) index ↔
      ∃ attempts, result.detail? "attempts" = some (.attempts attempts) ∧
        Signalled attempts := by
  refine ⟨fun explained => ?_, explained_of_signalled small accountable found emitted degraded⟩
  by_contra silent
  exact explained.2 _ (limited_of_unsignalled small accountable found emitted degraded silent) rfl
    rfl

theorem explained_iff_signalled_gateway :
    Explained (analyze plainReading [gatewayResult] ⟨2, 0⟩) 0 ↔
      ∃ attempts, gatewayResult.detail? "attempts" = some (.attempts attempts) ∧
        Signalled attempts :=
  explained_iff_signalled gatewayLibrary plainReading ⟨2, 0⟩ (by decide)
    (fun result member => .inl (List.mem_singleton.mp member ▸ emitted_gatewayResult)) rfl
    emitted_gatewayResult gatewayResult_degraded.1

end Reports

/-! ## A silent hop -/

/-- A run whose only attempt reaches the address behind a hop that is silent. -/
def silentRun : CheckRun where
  startedAt := ⟨1, 0⟩
  baseLatencyMS := 0
  latencyMS := 5
  available := true
  attempt := fun _ =>
    { resolveFailure := none
      contextErr := none
      commandErr := none
      output := "traceroute to 10.0.0.1 (10.0.0.1), 30 hops max\n 1  *\n 2  10.0.0.1  0.5 ms\n" }
  geoIP := none

def silentTarget : Target := ⟨.traceroute, GoString.ofString "10.0.0.1", 0, 1⟩

/-- Whether a result is degraded without a signal. -/
def unsignalled (result : Result) : Bool :=
  result.status = .degraded && match result.detail? "attempts" with
    | some (.attempts attempts) =>
        attempts.all (fun attempt => attempt.errorCode = []) && !traceAttemptsDegraded attempts &&
          !tracePathsUnstable attempts
    | _ => false

theorem not_signalled_of_unsignalled {result : Result} (silent : unsignalled result = true) :
    result.status = .degraded ∧
      ¬∃ attempts, result.detail? "attempts" = some (.attempts attempts) ∧ Signalled attempts := by
  rw [unsignalled, Bool.and_eq_true, decide_eq_true_eq] at silent
  refine ⟨silent.1, ?_⟩
  rintro ⟨attempts, attempts_eq, signalled⟩
  have quiet := silent.2
  rw [attempts_eq] at quiet
  simp only [Bool.and_eq_true, Bool.not_eq_true', List.all_eq_true, decide_eq_true_eq] at quiet
  obtain ⟨⟨completed, notDegraded⟩, stable⟩ := quiet
  rcases signalled with ⟨attempt, member, failed⟩ | degraded | unstable
  · exact failed (completed attempt member)
  · rw [notDegraded] at degraded
    cases degraded
  · rw [stable] at unstable
    cases unstable

theorem check_silentRun :
    (Trace.check gatewayLibrary silentRun silentTarget).any unsignalled = true := by
  decide +kernel

/-- A route behind a silent hop is degraded, and its details are called
malformed. -/
theorem silentResult_unexplained : ∃ result, Emitted gatewayLibrary result ∧
    result.status = .degraded ∧ ¬Explained (analyze plainReading [result] ⟨2, 0⟩) 0 := by
  obtain ⟨result, checked, silent⟩ := Option.any_eq_true _ _ |>.mp check_silentRun
  obtain ⟨degraded, quiet⟩ := not_signalled_of_unsignalled silent
  have emitted : Emitted gatewayLibrary result :=
    ⟨silentRun, silentTarget, by decide, by decide, checked⟩
  have accountable : ∀ other ∈ [result], Accountable gatewayLibrary other :=
    fun other member => .inl (List.mem_singleton.mp member ▸ emitted)
  have small : [result].length ≤ maxTargets := by
    rw [List.length_singleton]
    decide
  refine ⟨result, emitted, degraded, fun explained => ?_⟩
  exact explained.2 _ (limited_of_unsignalled small accountable rfl emitted degraded quiet) rfl rfl

end CheckNetwork.Analysis
