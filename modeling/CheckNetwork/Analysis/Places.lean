import CheckNetwork.Analysis.Closed

/-!
# Where the coverage looks

Every place of the coverage is the place of a result and a signal of a fixed
set, with one exception: a failure of TLS whose validity times were not both
observed.
-/

namespace CheckNetwork.Analysis

open Diagnostic Go

/-- A step that appends places of the result at hand with known signals, and
failures of providers. -/
structure Draft.Reports (known : String → Prop) (before after : Draft) : Prop where
  index_eq : after.facts.index = before.facts.index
  available : ∃ signals : List String, after.coverage.available =
    before.coverage.available ++ signals.map before.place ∧ ∀ signal ∈ signals, known signal
  missing : ∃ signals : List String, after.coverage.missing =
    before.coverage.missing ++ signals.map before.place ∧ ∀ signal ∈ signals, known signal
  providerFailures : ∃ issues : List CoverageIssue, after.coverage.providerFailures =
    before.coverage.providerFailures ++ issues ∧ ∀ issue ∈ issues, issue.signal = "geoip"

namespace Draft

variable {known : String → Prop} {before middle after draft : Draft}

theorem place_congr (index_eq : after.facts.index = before.facts.index) :
    after.place = before.place := by
  funext signal
  rw [place, place, index_eq]

theorem Reports.refl (draft : Draft) : Reports known draft draft :=
  ⟨rfl, ⟨[], by simp⟩, ⟨[], by simp⟩, ⟨[], by simp⟩⟩

theorem Reports.trans (first : Reports known before middle) (last : Reports known middle after) :
    Reports known before after := by
  have place_eq := place_congr first.index_eq
  obtain ⟨index_eq, ⟨shown, shown_eq, shownKnown⟩, ⟨lost, lost_eq, lostKnown⟩,
    ⟨failed, failed_eq, failedKnown⟩⟩ := first
  obtain ⟨index_eq', ⟨shown', shown_eq', shownKnown'⟩, ⟨lost', lost_eq', lostKnown'⟩,
    ⟨failed', failed_eq', failedKnown'⟩⟩ := last
  refine ⟨index_eq'.trans index_eq, ⟨shown ++ shown', ?_, ?_⟩, ⟨lost ++ lost', ?_, ?_⟩,
    ⟨failed ++ failed', ?_, ?_⟩⟩
  · rw [shown_eq', shown_eq, place_eq, List.map_append, List.append_assoc]
  · exact fun signal member => (List.mem_append.mp member).elim (shownKnown _) (shownKnown' _)
  · rw [lost_eq', lost_eq, place_eq, List.map_append, List.append_assoc]
  · exact fun signal member => (List.mem_append.mp member).elim (lostKnown _) (lostKnown' _)
  · rw [failed_eq', failed_eq, List.append_assoc]
  · exact fun issue member => (List.mem_append.mp member).elim (failedKnown _) (failedKnown' _)

/-- Facts, limitations and enrichment are not places. -/
theorem reports_of_eq (index_eq : after.facts.index = before.facts.index)
    (available_eq : after.coverage.available = before.coverage.available)
    (missing_eq : after.coverage.missing = before.coverage.missing)
    (failures_eq : after.coverage.providerFailures = before.coverage.providerFailures) :
    Reports known before after :=
  ⟨index_eq, ⟨[], by simpa using available_eq⟩, ⟨[], by simpa using missing_eq⟩,
    ⟨[], by simpa using failures_eq⟩⟩

theorem reports_facts {facts : Facts} (index_eq : facts.index = draft.facts.index) :
    Reports known draft { draft with facts := facts } :=
  reports_of_eq index_eq rfl rfl rfl

theorem reports_available {signal : String} (fine : known signal) :
    Reports known draft (draft.available signal) :=
  ⟨rfl, ⟨[signal], rfl, by simpa using fine⟩, ⟨[], by simp [available]⟩,
    ⟨[], by simp [available]⟩⟩

theorem reports_missing {signal : String} (fine : known signal) :
    Reports known draft (draft.missing signal) :=
  ⟨rfl, ⟨[], by simp [missing]⟩, ⟨[signal], rfl, by simpa using fine⟩,
    ⟨[], by simp [missing]⟩⟩

theorem reports_invalid : Reports known draft draft.invalid :=
  reports_of_eq rfl rfl rfl rfl

theorem reports_limit (code : CoverageIssueCode) (signal reason : String) :
    Reports known draft (draft.limit code signal reason) :=
  reports_of_eq rfl rfl rfl rfl

theorem Reports.when {condition : Bool} {change : Draft → Draft}
    (reports : ∀ draft, condition = true → Reports known draft (change draft)) :
    Reports known draft (draft.when condition change) := by
  unfold Draft.when
  split
  · rename_i held
    exact reports draft held
  · exact Reports.refl draft

/-- A refusal of the details that may miss a place. -/
theorem reports_refuse {condition : Bool} {place : String} (code : CoverageIssueCode)
    (signal reason : String) (fine : condition = true → known place) :
    Reports known draft
      ((draft.invalid.when condition fun draft => draft.missing place).limit code signal reason) :=
  (reports_invalid.trans (.when fun _ held => reports_missing (fine held))).trans
    (reports_limit _ _ _)

end Draft

/-! ## Checks -/

/-- A failure of TLS that concerns the validity times, with details other than
the two times and without one of them. -/
def missesValidity (result : Result) : Bool :=
  isTLSFailure result && !tlsFailurePermitsNoDetails result.errorCode && detailCount result ≠ 2 &&
    (!hasDetail result "certificate_not_before" || !hasDetail result "certificate_not_after")

/-- The signals of places. -/
def placeSignals : List String :=
  ["status", "error_code", "details", "details.verification_scope", "details.dns_answers",
    "details.endpoint", "details.http_status", "details.tls", "details.tls_certificate",
    "details.geoip_enrichment", "details.trace_paths", "details.trace_topology",
    "details.trace_attempts"]

/-- The signals of the places of a result. -/
def PlaceSignal (result : Result) (signal : String) : Prop :=
  signal ∈ placeSignals ∨ signal = "details.tls_validity" ∧ missesValidity result = true

/-- A time is missed by the failures that concern the validity times only. -/
theorem validTLSFailureDetails_missing {library : Library} {now : Time} {result : Result}
    (failure : isTLSFailure result = true) :
    (validTLSFailureDetails library result now).2 = missesValidity result := by
  have coded : isTLSFailureErrorCode result.errorCode = true := by
    simp only [isTLSFailure, Bool.and_eq_true] at failure
    exact failure.2
  unfold validTLSFailureDetails missesValidity
  rw [failure]
  dsimp only
  split
  · rename_i permitted
    simp [permitted]
  · rename_i limited
    rw [Bool.not_eq_true] at limited
    split
    · rename_i other
      simp only [isTLSFailureErrorCode, tlsFailurePermitsNoDetails] at coded limited
      simp_all
    · split
      · rename_i count
        simp [limited, count]
      · rename_i count
        simp only [ne_eq, Decidable.not_not] at count
        simp only [count, ne_eq, not_true_eq_false, decide_false, Bool.and_false, Bool.false_and]
        repeat' split
        all_goals rfl

/-- A missing time is no valid detail. -/
theorem validTLSFailureDetails_of_missing {library : Library} {now : Time} {result : Result}
    (missing : (validTLSFailureDetails library result now).2 = true) :
    (validTLSFailureDetails library result now).1 = false := by
  revert missing
  unfold validTLSFailureDetails
  dsimp only
  repeat' split
  all_goals simp

section Checks

open Draft

variable {library : Library} {now : Time} {result : Result} {draft : Draft}

theorem PlaceSignal.of_mem {signal : String} (member : signal ∈ placeSignals) :
    PlaceSignal result signal :=
  .inl member

theorem reports_statusStep : Reports (PlaceSignal result) draft (statusStep result draft) :=
  (reports_available (.of_mem (by decide))).trans (.when fun _ _ => reports_limit _ _ _)

theorem reports_errorCodeStep : Reports (PlaceSignal result) draft (errorCodeStep result draft) := by
  unfold errorCodeStep
  split
  · exact reports_available (.of_mem (by decide))
  · exact .when fun _ _ => reports_missing (.of_mem (by decide))

theorem reports_kindStep : Reports (PlaceSignal result) draft (kindStep result draft) :=
  .when fun _ _ => reports_limit _ _ _

theorem reports_detailsStep : Reports (PlaceSignal result) draft (detailsStep result draft) :=
  .when fun _ _ => (reports_missing (.of_mem (by decide))).trans (reports_limit _ _ _)

theorem reports_tlsFailureStep :
    Reports (PlaceSignal result) draft (tlsFailureStep library now result draft) := by
  apply Reports.when
  intro draft failure
  apply Reports.when
  intro draft _
  have known := @validTLSFailureDetails_missing library now result failure
  exact reports_refuse _ _ _ fun missing => .inr ⟨rfl, known ▸ missing⟩

theorem reports_greetingStep :
    Reports (PlaceSignal result) draft (greetingStep library result draft) := by
  apply Reports.when
  intro draft _
  split
  · exact reports_refuse _ _ _ fun _ => .of_mem (by decide)
  · exact .when fun _ _ => (reports_available (.of_mem (by decide))).trans (reports_limit _ _ _)

theorem reports_dnsStep : Reports (PlaceSignal result) draft (dnsStep result draft) := by
  apply Reports.when
  intro draft _
  split
  · exact reports_available (.of_mem (by decide))
  · exact reports_refuse _ _ _ fun _ => .of_mem (by decide)

theorem reports_endpointStep : Reports (PlaceSignal result) draft (endpointStep result draft) := by
  apply Reports.when
  intro draft _
  split
  · exact reports_available (.of_mem (by decide))
  · exact reports_refuse _ _ _ fun _ => .of_mem (by decide)

theorem reports_httpStatusStep :
    Reports (PlaceSignal result) draft (httpStatusStep result draft) := by
  unfold httpStatusStep
  split
  · exact (reports_facts (by rfl)).trans (reports_available (.of_mem (by decide)))
  · exact .when fun _ _ => (Reports.when fun _ _ =>
      reports_missing (.of_mem (by decide))).trans (reports_limit _ _ _)

theorem reports_httpStep : Reports (PlaceSignal result) draft (httpStep result draft) := by
  apply Reports.when
  intro draft _
  apply reports_httpStatusStep.trans
  apply Reports.when
  intro draft _
  exact reports_refuse _ _ _ fun _ => .of_mem (by decide)

theorem reports_tlsHandshakeStep :
    Reports (PlaceSignal result) draft (tlsHandshakeStep result draft) := by
  apply Reports.when
  intro draft _
  refine Reports.trans (.when fun _ _ => ?_) (.when fun _ _ => ?_)
  · exact (reports_invalid.trans (reports_missing (.of_mem (by decide)))).trans
      (reports_limit _ _ _)
  · exact (reports_invalid.trans (reports_missing (.of_mem (by decide)))).trans
      (reports_limit _ _ _)

theorem reports_certificateStep :
    Reports (PlaceSignal result) draft (certificateStep library result draft) := by
  unfold certificateStep
  split
  · exact (reports_facts (by rfl)).trans (reports_available (.of_mem (by decide)))
  · exact .when fun _ _ => reports_limit _ _ _

theorem reports_tlsStep : Reports (PlaceSignal result) draft (tlsStep library result draft) :=
  .when fun _ _ => reports_tlsHandshakeStep.trans reports_certificateStep

/-- The checks before the one of TLS failures. -/
theorem reports_before : Reports (PlaceSignal result) draft (detailsStep result
    (kindStep result (errorCodeStep result (statusStep result draft)))) :=
  ((reports_statusStep.trans reports_errorCodeStep).trans reports_kindStep).trans
    reports_detailsStep

/-- The checks after the one of TLS failures. -/
theorem reports_after : Reports (PlaceSignal result) draft (tlsStep library result (httpStep result
    (endpointStep result (dnsStep result (greetingStep library result draft))))) :=
  (((reports_greetingStep.trans reports_dnsStep).trans reports_endpointStep).trans
    reports_httpStep).trans reports_tlsStep

theorem reports_checkSteps :
    Reports (PlaceSignal result) draft (checkSteps library now result draft) :=
  (reports_before.trans reports_tlsFailureStep).trans reports_after

end Checks

/-! ## Traceroute evidence -/

section Traceroute

open Draft

variable {library : Library} {result : Result} {draft : Draft} {counters : Counters}

theorem reports_providerFailureStep :
    Reports (PlaceSignal result) draft (providerFailureStep result draft) := by
  unfold providerFailureStep
  split
  · exact .when fun draft _ => ⟨rfl, ⟨[], by simp⟩, ⟨[], by simp⟩, ⟨[_], rfl, by simp⟩⟩
  · exact Reports.refl draft

theorem reports_enrichmentStep :
    Reports (PlaceSignal result) draft (enrichmentStep result draft) := by
  unfold enrichmentStep
  split
  · exact Reports.refl draft
  · dsimp only
    split
    · exact ⟨rfl, ⟨[_], rfl, by simp [PlaceSignal, placeSignals]⟩, ⟨[], by simp [available]⟩,
        ⟨[], by simp [available]⟩⟩
    · exact reports_limit _ _ _

theorem reports_attemptsStep (value : Detail) :
    Reports (PlaceSignal result) draft (attemptsStep library result draft counters value) := by
  unfold attemptsStep
  dsimp only
  split
  · exact (Reports.when fun _ _ => reports_limit _ _ _).trans
      ((reports_facts (by rfl)).trans (reports_available (.of_mem (by decide))))
  · exact (reports_facts (by rfl)).trans (reports_limit _ _ _)

theorem reports_aggregateStep :
    Reports (PlaceSignal result) draft (aggregateStep library result draft counters) := by
  unfold aggregateStep
  split
  · exact .when fun _ _ => reports_facts rfl
  · exact Reports.refl draft

theorem reports_outerErrorStep :
    Reports (PlaceSignal result) draft (outerErrorStep result draft counters) :=
  .when fun _ _ => (reports_facts (by rfl)).trans (reports_limit _ _ _)

theorem reports_topologyStep :
    Reports (PlaceSignal result) draft (topologyStep library result draft) := by
  apply Reports.when
  intro draft _
  split
  · exact reports_limit _ _ _
  · exact (reports_missing (.of_mem (by decide))).trans (reports_limit _ _ _)

theorem reports_degradationStep :
    Reports (PlaceSignal result) draft (degradationStep result draft) :=
  .when fun _ _ => reports_limit _ _ _

theorem reports_countersStep :
    Reports (PlaceSignal result) draft (countersStep library result draft) := by
  unfold countersStep
  split
  · rename_i counters _
    have chain : ∀ evidence : Draft, Reports (PlaceSignal result)
        { draft with facts := countersFacts counters draft.facts } evidence →
        let last := degradationStep result (topologyStep library result
          (outerErrorStep result evidence counters))
        Reports (PlaceSignal result) draft (last.when last.facts.hasTraceCounters fun draft =>
          draft.available "details.trace_attempts") := by
      intro evidence reports
      exact (((((reports_facts (by rfl)).trans reports).trans reports_outerErrorStep).trans
        reports_topologyStep).trans reports_degradationStep).trans
          (.when fun _ _ => reports_available (.of_mem (by decide)))
    cases result.detail? "attempts" with
    | some value => exact chain _ (reports_attemptsStep _)
    | none => exact chain _ reports_aggregateStep
  · exact reports_refuse _ _ _ fun _ => .of_mem (by decide)

theorem reports_tracerouteStep :
    Reports (PlaceSignal result) draft (tracerouteStep library result draft) :=
  .when fun _ _ => (reports_providerFailureStep.trans reports_enrichmentStep).trans
    reports_countersStep

end Traceroute

/-! ## Results -/

section Results

open Draft

variable {library : Library} {now : Time} {index : Nat} {result : Result} {coverage : Coverage}

theorem reports_normalizeResult : Reports (PlaceSignal result) ⟨coverage, initialFacts index result⟩
    (normalizeResult library now index result coverage) :=
  reports_checkSteps.trans reports_tracerouteStep

/-- The place of a signal of a result. -/
def resultPlace (index : Nat) (signal : String) : String := s!"results[{index}].{signal}"

/-- What is missing before a step stays missing. -/
theorem Draft.Reports.missing_subset {known : String → Prop} {before after : Draft}
    (reports : Reports known before after) {place : String}
    (member : place ∈ before.coverage.missing) : place ∈ after.coverage.missing := by
  obtain ⟨signals, signals_eq, _⟩ := reports.missing
  rw [signals_eq]
  exact List.mem_append_left _ member

theorem missing_tlsFailureStep {draft : Draft} (misses : missesValidity result = true) :
    draft.place "details.tls_validity" ∈
      (tlsFailureStep library now result draft).coverage.missing := by
  have failure : isTLSFailure result = true := by
    simp only [missesValidity, Bool.and_eq_true] at misses
    exact misses.1.1.1
  rw [← @validTLSFailureDetails_missing library now result failure] at misses
  have invalid := validTLSFailureDetails_of_missing misses
  simp [tlsFailureStep, Draft.when, failure, misses, invalid, limit, missing, place, Draft.invalid]

/-- The place of the validity times is reported where they are missed. -/
theorem missing_normalizeResult (misses : missesValidity result = true) :
    resultPlace index "details.tls_validity" ∈
      (normalizeResult library now index result coverage).coverage.missing := by
  have before : Reports (PlaceSignal result) ⟨coverage, initialFacts index result⟩
      (detailsStep result (kindStep result (errorCodeStep result (statusStep result
        ⟨coverage, initialFacts index result⟩)))) := reports_before
  have place_eq := congrFun (place_congr before.index_eq) "details.tls_validity"
  have found := @missing_tlsFailureStep library now result (detailsStep result (kindStep result
    (errorCodeStep result (statusStep result ⟨coverage, initialFacts index result⟩)))) misses
  rw [place_eq] at found
  exact (reports_after.trans reports_tracerouteStep).missing_subset found

end Results

/-! ## Reports -/

/-- What the coverage of some results may name. -/
structure Placed (results : List Result) (coverage : Coverage) : Prop where
  places : ∀ place ∈ coverage.available ++ coverage.missing, ∃ index result signal,
    results[index]? = some result ∧ PlaceSignal result signal ∧ place = resultPlace index signal
  missed : ∀ index result, results[index]? = some result → missesValidity result = true →
    resultPlace index "details.tls_validity" ∈ coverage.missing
  providerFailures : ∀ issue ∈ coverage.providerFailures, issue.signal = "geoip"
  limitations : ∀ issue ∈ coverage.limitations, issue.signal ∈ checkSignals ++ traceSignals

/-- One result more on a coverage. -/
theorem Placed.concat {library : Library} {now : Time} {results : List Result} {coverage : Coverage}
    (placed : Placed results coverage) (result : Result) :
    Placed (results ++ [result])
      (normalizeResult library now results.length result coverage).coverage := by
  have reports := @reports_normalizeResult library now results.length result coverage
  obtain ⟨shown, shown_eq, shownKnown⟩ := reports.available
  obtain ⟨lost, lost_eq, lostKnown⟩ := reports.missing
  obtain ⟨failed, failed_eq, failedKnown⟩ := reports.providerFailures
  obtain ⟨issues, issues_eq, issuesKnown⟩ :=
    (limits_normalizeResult library now results.length result coverage).limitations
  have old : ∀ place ∈ coverage.available ++ coverage.missing, ∃ index other signal,
      (results ++ [result])[index]? = some other ∧ PlaceSignal other signal ∧
        place = resultPlace index signal := by
    intro place member
    obtain ⟨index, other, signal, found, known, place_eq⟩ := placed.places place member
    refine ⟨index, other, signal, ?_, known, place_eq⟩
    rw [List.getElem?_append_left (List.getElem?_eq_some_iff.mp found).1]
    exact found
  have new : ∀ (signals : List String), (∀ signal ∈ signals, PlaceSignal result signal) →
      ∀ place ∈ signals.map (Draft.place ⟨coverage, initialFacts results.length result⟩),
        ∃ index other signal, (results ++ [result])[index]? = some other ∧
          PlaceSignal other signal ∧ place = resultPlace index signal := by
    intro signals known place member
    obtain ⟨signal, signalMem, rfl⟩ := List.mem_map.mp member
    exact ⟨results.length, result, signal, List.getElem?_concat_length, known signal signalMem, rfl⟩
  constructor
  · intro place member
    rw [shown_eq, lost_eq] at member
    simp only [List.mem_append] at member
    rcases member with (before | after) | before | after
    · exact old place (List.mem_append_left _ before)
    · exact new shown shownKnown place after
    · exact old place (List.mem_append_right _ before)
    · exact new lost lostKnown place after
  · intro index other found misses
    by_cases lt : index < results.length
    · rw [List.getElem?_append_left lt] at found
      exact reports.missing_subset (placed.missed index other found misses)
    · have here : index = results.length := by
        have bound := (List.getElem?_eq_some_iff.mp found).1
        rw [List.length_append, List.length_singleton] at bound
        omega
      subst here
      rw [List.getElem?_concat_length, Option.some.injEq] at found
      subst found
      exact missing_normalizeResult misses
  · intro issue member
    rw [failed_eq] at member
    exact (List.mem_append.mp member).elim (placed.providerFailures issue) (failedKnown issue)
  · intro issue member
    rw [issues_eq] at member
    rcases List.mem_append.mp member with before | after
    · exact placed.limitations issue before
    · exact (issuesKnown issue after).2

theorem placed_normalizeResults (library : Library) (now : Time) (results : List Result) :
    Placed results (normalizeResults library now results emptyCoverage).1 := by
  induction results using List.reverseRecOn with
  | nil => exact ⟨nofun, nofun, nofun, nofun⟩
  | append_singleton earlier last ih =>
      rw [normalizeResults_concat]
      exact ih.concat last

/-- Explaining facts only limits the coverage. -/
theorem Builder.coverage_explained (library : Library) (now : Time) (coverage : Coverage)
    (facts : List Facts) : ∃ limitations,
      (explained library now coverage facts).analysis.coverage =
        { coverage with limitations := limitations } := by
  induction facts using List.reverseRecOn with
  | nil => exact ⟨coverage.limitations, rfl⟩
  | append_singleton earlier fact ih =>
      obtain ⟨limitations, coverage_eq⟩ := ih
      rw [explained_concat, analysis_give, coverage_eq]
      exact ⟨_, rfl⟩

end CheckNetwork.Analysis
