import CheckNetwork.Analysis.Analyze

/-!
# Where limitations come from

Every step of the analysis appends to the limitations, with the index of the
result it looks at and with signals of its own.
-/

namespace CheckNetwork.Analysis

open Diagnostic Go

/-- A step that appends limitations of the result at hand with allowed
signals. -/
structure Draft.Limits (allowed : String → Prop) (before after : Draft) : Prop where
  index_eq : after.facts.index = before.facts.index
  limitations : ∃ issues, after.coverage.limitations = before.coverage.limitations ++ issues ∧
    ∀ issue ∈ issues, issue.resultIndex = before.facts.index ∧ allowed issue.signal

/-- A step that also leaves the enrichment of the report alone. -/
structure Draft.Grows (allowed : String → Prop) (before after : Draft) : Prop
    extends Draft.Limits allowed before after where
  enrichment_eq : after.coverage.enrichment = before.coverage.enrichment

namespace Draft

variable {allowed : String → Prop} {before middle after draft : Draft}

theorem Limits.refl (draft : Draft) : Limits allowed draft draft :=
  ⟨rfl, [], by simp, by simp⟩

theorem Limits.trans (first : Limits allowed before middle) (last : Limits allowed middle after) :
    Limits allowed before after := by
  obtain ⟨early, early_eq, earlyAllowed⟩ := first.limitations
  obtain ⟨late, late_eq, lateAllowed⟩ := last.limitations
  refine ⟨last.index_eq.trans first.index_eq, early ++ late, ?_, ?_⟩
  · rw [late_eq, early_eq, List.append_assoc]
  · intro issue member
    rcases List.mem_append.mp member with old | new
    · exact earlyAllowed issue old
    · rw [← first.index_eq]
      exact lateAllowed issue new

theorem Grows.refl (draft : Draft) : Grows allowed draft draft :=
  ⟨Limits.refl draft, rfl⟩

theorem Grows.trans (first : Grows allowed before middle) (last : Grows allowed middle after) :
    Grows allowed before after :=
  ⟨first.toLimits.trans last.toLimits, last.enrichment_eq.trans first.enrichment_eq⟩

theorem grows_available (signal : String) : Grows allowed draft (draft.available signal) :=
  ⟨⟨rfl, [], by simp [available], by simp⟩, rfl⟩

theorem grows_missing (signal : String) : Grows allowed draft (draft.missing signal) :=
  ⟨⟨rfl, [], by simp [missing], by simp⟩, rfl⟩

theorem grows_invalid : Grows allowed draft draft.invalid :=
  ⟨⟨rfl, [], by simp [invalid], by simp⟩, rfl⟩

/-- Facts are not limitations. -/
theorem grows_facts {facts : Facts} (index_eq : facts.index = draft.facts.index) :
    Grows allowed draft { draft with facts := facts } :=
  ⟨⟨index_eq, [], by simp, by simp⟩, rfl⟩

theorem grows_limit {signal : String} (code : CoverageIssueCode) (reason : String)
    (fine : allowed signal) : Grows allowed draft (draft.limit code signal reason) :=
  ⟨⟨rfl, [⟨code, draft.facts.index, draft.facts.kind, signal, reason⟩], rfl, by simp [fine]⟩, rfl⟩

theorem Grows.when {condition : Bool} {change : Draft → Draft}
    (grows : ∀ draft, condition = true → Grows allowed draft (change draft)) :
    Grows allowed draft (draft.when condition change) := by
  unfold Draft.when
  split
  · rename_i held
    exact grows draft held
  · exact Grows.refl draft

end Draft

/-! ## Checks -/

section Checks

open Draft

variable {allowed : String → Prop} {library : Library} {now : Time} {result : Result}
  {draft : Draft}

/-- The signals of the checks before the traceroute evidence. -/
def checkSignals : List String :=
  ["status", "kind", "details", "tls_failure_details", "service_verification_details",
    "service_verification_scope", "dns_answers", "endpoint", "http_status", "tls",
    "tls_certificate", "certificate_expires_at"]

variable (fine : ∀ signal ∈ checkSignals, allowed signal)

include fine

theorem grows_statusStep : Grows allowed draft (statusStep result draft) :=
  (grows_available _).trans (.when fun _ _ => grows_limit _ _ (fine _ (by decide)))

omit fine in
theorem grows_errorCodeStep : Grows allowed draft (errorCodeStep result draft) := by
  unfold errorCodeStep
  split
  · exact grows_available _
  · exact .when fun _ _ => grows_missing _

theorem grows_kindStep : Grows allowed draft (kindStep result draft) :=
  .when fun _ _ => grows_limit _ _ (fine _ (by decide))

theorem grows_detailsStep : Grows allowed draft (detailsStep result draft) :=
  .when fun _ _ => (grows_missing _).trans (grows_limit _ _ (fine _ (by decide)))

theorem grows_tlsFailureStep : Grows allowed draft (tlsFailureStep library now result draft) :=
  .when fun _ _ => .when fun _ _ =>
    (grows_invalid.trans (.when fun _ _ => grows_missing _)).trans
      (grows_limit _ _ (fine _ (by decide)))

theorem grows_greetingStep : Grows allowed draft (greetingStep library result draft) := by
  refine .when fun draft _ => ?_
  split
  · exact (grows_invalid.trans (.when fun _ _ => grows_missing _)).trans
      (grows_limit _ _ (fine _ (by decide)))
  · exact .when fun _ _ => (grows_available _).trans (grows_limit _ _ (fine _ (by decide)))

theorem grows_dnsStep : Grows allowed draft (dnsStep result draft) := by
  refine .when fun draft _ => ?_
  split
  · exact grows_available _
  · exact (grows_invalid.trans (.when fun _ _ => grows_missing _)).trans
      (grows_limit _ _ (fine _ (by decide)))

theorem grows_endpointStep : Grows allowed draft (endpointStep result draft) := by
  refine .when fun draft _ => ?_
  split
  · exact grows_available _
  · exact (grows_invalid.trans (.when fun _ _ => grows_missing _)).trans
      (grows_limit _ _ (fine _ (by decide)))

theorem grows_httpStatusStep : Grows allowed draft (httpStatusStep result draft) := by
  unfold httpStatusStep
  split
  · exact (grows_facts (by rfl)).trans (grows_available _)
  · exact .when fun _ _ => (Grows.when fun _ _ => grows_missing _).trans
      (grows_limit _ _ (fine _ (by decide)))

theorem grows_httpStep : Grows allowed draft (httpStep result draft) :=
  .when fun _ _ => (grows_httpStatusStep fine).trans
    (.when fun _ _ => (grows_invalid.trans (.when fun _ _ => grows_missing _)).trans
      (grows_limit _ _ (fine _ (by decide))))

theorem grows_tlsHandshakeStep : Grows allowed draft (tlsHandshakeStep result draft) :=
  .when fun _ _ =>
    (Grows.when fun _ _ => (grows_invalid.trans (grows_missing _)).trans
      (grows_limit _ _ (fine _ (by decide)))).trans
    (.when fun _ _ => (grows_invalid.trans (grows_missing _)).trans
      (grows_limit _ _ (fine _ (by decide))))

theorem grows_certificateStep : Grows allowed draft (certificateStep library result draft) := by
  unfold certificateStep
  split
  · exact (grows_facts (by rfl)).trans (grows_available _)
  · exact .when fun _ _ => grows_limit _ _ (fine _ (by decide))

theorem grows_tlsStep : Grows allowed draft (tlsStep library result draft) :=
  .when fun _ _ => (grows_tlsHandshakeStep fine).trans (grows_certificateStep fine)

theorem grows_checkSteps : Grows allowed draft (checkSteps library now result draft) :=
  ((((((((grows_statusStep fine).trans grows_errorCodeStep).trans (grows_kindStep fine)).trans
    (grows_detailsStep fine)).trans (grows_tlsFailureStep fine)).trans
      (grows_greetingStep fine)).trans (grows_dnsStep fine)).trans (grows_endpointStep fine)).trans
        ((grows_httpStep fine).trans (grows_tlsStep fine))

end Checks

/-! ## Traceroute evidence -/

section Traceroute

open Draft

variable {allowed : String → Prop} {library : Library} {result : Result} {draft : Draft}
  {counters : Counters}

theorem grows_providerFailureStep : Grows allowed draft (providerFailureStep result draft) := by
  unfold providerFailureStep
  split
  · exact .when fun _ _ => ⟨⟨rfl, [], by simp, by simp⟩, rfl⟩
  · exact Grows.refl draft

theorem limits_enrichmentStep (fine : allowed "geoip_enrichment") :
    Limits allowed draft (enrichmentStep result draft) := by
  unfold enrichmentStep
  split
  · exact Limits.refl draft
  · dsimp only
    split
    · exact ⟨rfl, [], by simp [available], by simp⟩
    · exact (grows_limit _ _ fine).toLimits

theorem grows_attemptsStep (fine : allowed "trace_paths") (value : Detail) :
    Grows allowed draft (attemptsStep library result draft counters value) := by
  unfold attemptsStep
  dsimp only
  split
  · exact (Grows.when fun _ _ => grows_limit _ _ fine).trans
      ((grows_facts (by rfl)).trans (grows_available _))
  · exact (grows_facts (by rfl)).trans (grows_limit _ _ fine)

theorem grows_aggregateStep : Grows allowed draft (aggregateStep library result draft counters) := by
  unfold aggregateStep
  split
  · exact .when fun _ _ => grows_facts rfl
  · exact Grows.refl draft

theorem grows_outerErrorStep (fine : allowed "trace_error") :
    Grows allowed draft (outerErrorStep result draft counters) :=
  .when fun _ _ => (grows_facts (by rfl)).trans (grows_limit _ _ fine)

theorem grows_topologyStep (fine : allowed "trace_topology") :
    Grows allowed draft (topologyStep library result draft) := by
  refine .when fun draft _ => ?_
  split
  · exact grows_limit _ _ fine
  · exact (grows_missing _).trans (grows_limit _ _ fine)

theorem grows_degradationStep (fine : allowed "trace_topology") :
    Grows allowed draft (degradationStep result draft) :=
  .when fun _ _ => grows_limit _ _ fine

/-- The signals of the traceroute evidence. -/
def traceSignals : List String :=
  ["geoip_enrichment", "trace_paths", "trace_error", "trace_topology", "trace_attempts"]

theorem grows_countersStep (fine : ∀ signal ∈ traceSignals, allowed signal) :
    Grows allowed draft (countersStep library result draft) := by
  unfold countersStep
  split
  · rename_i counters _
    have chain : ∀ evidence : Draft,
        Grows allowed { draft with facts := countersFacts counters draft.facts } evidence →
        let last := degradationStep result (topologyStep library result
          (outerErrorStep result evidence counters))
        Grows allowed draft (last.when last.facts.hasTraceCounters fun draft =>
          draft.available "details.trace_attempts") := by
      intro evidence grown
      exact (((((grows_facts (by rfl)).trans grown).trans
        (grows_outerErrorStep (fine _ (by decide)))).trans
        (grows_topologyStep (fine _ (by decide)))).trans
        (grows_degradationStep (fine _ (by decide)))).trans (.when fun _ _ => grows_available _)
    cases result.detail? "attempts" with
    | some value => exact chain _ (grows_attemptsStep (fine _ (by decide)) _)
    | none => exact chain _ grows_aggregateStep
  · exact (grows_invalid.trans (.when fun _ _ => grows_missing _)).trans (grows_limit _ _ (fine _ (by decide)))

/-- Evidence that confirms its counters limits at most the topology. -/
theorem grows_countersStep_of_confirmed (read : readCounters result = some counters)
    (valid : validCounters result.status counters = true) {value : Detail}
    (found : result.detail? "attempts" = some value) {attempts eligible : List TraceAttempt}
    (normalized : normalizedTraceAttempts library value = some attempts)
    (confirmed : confirmedAttempts counters attempts = some eligible)
    (consistent : ∀ topology, normalizedTopology library (result.detail? "topology") =
      some topology → topologyDegraded topology = true → traceAttemptsDegraded eligible = true)
    (outer : traceOuterErrorMatches result.errorCode result.status counters.total counters.reached
      counters.unreached counters.executionFailed counters.timedOut counters.cancelled = true)
    (fine : allowed "trace_topology") : Grows allowed draft (countersStep library result draft) := by
  have evidence : ∀ draft : Draft,
      Grows allowed draft (attemptsStep library result draft counters value) := by
    intro draft
    have agreed : ((normalizedTopology library (result.detail? "topology")).any fun topology =>
        topologyDegraded topology && !traceAttemptsDegraded eligible) = false := by
      cases known : normalizedTopology library (result.detail? "topology") with
      | none => rfl
      | some topology =>
          cases degraded : topologyDegraded topology with
          | false => simp [degraded]
          | true => simp [consistent topology known degraded]
    simp only [attemptsStep, normalized, Option.bind_some, confirmed, agreed, Draft.when,
      Bool.false_eq_true, if_false]
    exact (grows_facts (by rfl)).trans (grows_available _)
  have outer_eq : ∀ draft : Draft, outerErrorStep result draft counters = draft := by
    intro draft
    simp [outerErrorStep, outer, Draft.when]
  have known : (readCounters result).filter (validCounters result.status) = some counters := by
    simp [read, valid]
  simp only [countersStep, known, found, outer_eq]
  exact ((((grows_facts (by rfl)).trans (evidence _)).trans (grows_topologyStep fine)).trans
    (grows_degradationStep fine)).trans (.when fun _ _ => grows_available _)

end Traceroute

/-! ## Results -/

/-- Normalizing a result limits this result only. -/
theorem limits_normalizeResult (library : Library) (now : Time) (index : Nat) (result : Result)
    (coverage : Coverage) :
    Draft.Limits (· ∈ checkSignals ++ traceSignals) ⟨coverage, initialFacts index result⟩
      (normalizeResult library now index result coverage) := by
  have checks : Draft.Grows (· ∈ checkSignals ++ traceSignals) ⟨coverage, initialFacts index result⟩
      (checkSteps library now result ⟨coverage, initialFacts index result⟩) :=
    grows_checkSteps fun _ member => List.mem_append_left _ member
  unfold normalizeResult
  refine checks.toLimits.trans ?_
  unfold tracerouteStep Draft.when
  split
  · exact (grows_providerFailureStep.toLimits.trans (limits_enrichmentStep (by decide))).trans
      (grows_countersStep fun _ member => List.mem_append_right _ member).toLimits
  · exact Draft.Limits.refl _

/-- The last result is normalized on the coverage of those before it. -/
theorem normalizeResults_concat (library : Library) (now : Time) (results : List Result)
    (result : Result) (coverage : Coverage) :
    normalizeResults library now (results ++ [result]) coverage =
      ((normalizeResult library now results.length result
          (normalizeResults library now results coverage).1).coverage,
        (normalizeResults library now results coverage).2 ++
          [(normalizeResult library now results.length result
            (normalizeResults library now results coverage).1).facts]) := by
  simp [normalizeResults, List.zipIdx_append]

/-! ## Findings -/

namespace Builder

variable {builder : Builder} {facts : Facts}

@[simp]
theorem coverage_unexplained : builder.unexplained.analysis.coverage = builder.analysis.coverage :=
  rfl

@[simp]
theorem coverage_add (rule : Rule) :
    (builder.add facts rule).analysis.coverage = builder.analysis.coverage := by
  have action : ∀ builder : Builder,
      (builder.withAction facts rule).1.analysis.coverage = builder.analysis.coverage := by
    intro builder
    unfold withAction
    dsimp only
    split <;> rfl
  unfold add
  dsimp only
  split
  · exact action _
  · exact action _

@[simp]
theorem coverage_analyzeTrace :
    (builder.analyzeTrace facts).analysis.coverage = builder.analysis.coverage := by
  have failures : ∀ builder : Builder,
      (builder.traceFailures facts).analysis.coverage = builder.analysis.coverage := by
    intro builder
    unfold traceFailures
    split_ifs <;> simp
  have reachability : ∀ builder : Builder,
      (builder.traceReachability facts).analysis.coverage = builder.analysis.coverage := by
    intro builder
    unfold traceReachability
    split_ifs <;> simp
  have path : ∀ builder : Builder,
      (builder.tracePath facts).analysis.coverage = builder.analysis.coverage := by
    intro builder
    unfold tracePath
    split_ifs <;> simp
  unfold analyzeTrace
  dsimp only
  split_ifs
  · rfl
  · rw [coverage_unexplained, path, reachability, failures]
  · rw [path, reachability, failures]

@[simp]
theorem coverage_addCertificate (library : Library) (now : Time) :
    (addCertificate library now facts builder).analysis.coverage = builder.analysis.coverage := by
  unfold addCertificate
  split_ifs <;> simp

/-- The signals of limitations that explain no finding. -/
def factSignals : List String := ["error_code", "response_body", "result"]

/-- Explaining facts limits with signals of its own. -/
def Explains (before after : Builder) : Prop :=
  ∃ issues, after.analysis.coverage.limitations =
    before.analysis.coverage.limitations ++ issues ∧
      ∀ issue ∈ issues, issue.signal ∈ factSignals

theorem explains_of_coverage {before after : Builder}
    (same : after.analysis.coverage = before.analysis.coverage) : Explains before after :=
  ⟨[], by simp [same], by simp⟩

theorem explains_limit (code : CoverageIssueCode) {signal : String} (reason : String)
    (known : signal ∈ factSignals) :
    Explains builder (builder.unexplained.limit facts code signal reason) :=
  ⟨[⟨code, facts.index, facts.kind, signal, reason⟩], rfl, by simpa using known⟩

theorem explains_analyzeOutcome : Explains builder (builder.analyzeOutcome facts) := by
  unfold analyzeOutcome
  split_ifs
  all_goals first
    | exact explains_limit _ _ (by decide)
    | exact explains_of_coverage (by simp)

theorem explains_analyzeCode : Explains builder (builder.analyzeCode facts) := by
  unfold analyzeCode
  dsimp only
  split_ifs
  all_goals first
    | exact explains_limit _ _ (by decide)
    | exact explains_analyzeOutcome
    | exact explains_of_coverage (by simp)

theorem Explains.congr {before other after : Builder} (explains : Explains other after)
    (same : other.analysis.coverage = before.analysis.coverage) : Explains before after := by
  unfold Explains at explains ⊢
  rwa [same] at explains

theorem explains_analyzeFact (library : Library) (now : Time) :
    Explains builder (builder.analyzeFact library now facts) := by
  unfold analyzeFact
  split
  · exact explains_of_coverage rfl
  · split
    · exact explains_of_coverage rfl
    · dsimp only
      have same : (if facts.detailsValid then builder else
          builder.unexplained).analysis.coverage = builder.analysis.coverage := by
        split <;> rfl
      generalize (if facts.detailsValid then builder else builder.unexplained) = known at same ⊢
      refine Explains.congr ?_ same
      split
      · exact explains_limit _ _ (by decide : "error_code" ∈ factSignals)
      · split
        · exact explains_of_coverage (by simp)
        · split
          · exact explains_of_coverage (by simp)
          · split
            · split
              · exact explains_of_coverage (by simp)
              · exact explains_of_coverage (by simp)
            · exact Explains.congr explains_analyzeCode (by simp)

end Builder

/-- The limitations of an analysis are those of its normalization and those of
unexplained facts. -/
theorem mem_limitations_analyze {library : Library} {results : List Result} {now : Time}
    {issue : CoverageIssue}
    (member : issue ∈ (analyze library results now).coverage.limitations) :
    issue ∈ (normalizeResults library now.utc results emptyCoverage).1.limitations ∨
      issue.signal ∈ Builder.factSignals := by
  unfold analyze finalize sortCoverageIssues at member
  dsimp only at member
  rw [List.mem_insertionSort] at member
  revert member
  generalize normalizeResults library now.utc results emptyCoverage = normalized
  have fold : ∀ (facts : List Facts) (builder : Builder),
      Builder.Explains builder (facts.foldl (fun builder fact =>
        builder.analyzeFact library now.utc fact) builder) := by
    intro facts
    induction facts with
    | nil => exact fun builder => Builder.explains_of_coverage rfl
    | cons fact facts ih =>
        intro builder
        obtain ⟨early, early_eq, earlyKnown⟩ :=
          @Builder.explains_analyzeFact builder fact library now.utc
        obtain ⟨late, late_eq, lateKnown⟩ := ih (builder.analyzeFact library now.utc fact)
        refine ⟨early ++ late, ?_, ?_⟩
        · rw [List.foldl_cons, late_eq, early_eq, List.append_assoc]
        · intro issue member
          rcases List.mem_append.mp member with old | new
          · exact earlyKnown issue old
          · exact lateKnown issue new
  intro member
  obtain ⟨issues, issues_eq, known⟩ := fold normalized.2
    { analysis := ⟨.healthy, [], [], [], normalized.1⟩
      findingByKey := fun _ => none
      actionByKey := fun _ => none
      hasUnexplained := false }
  rw [issues_eq] at member
  rcases List.mem_append.mp member with old | new
  · exact .inl old
  · exact .inr (known issue new)

end CheckNetwork.Analysis
