import CheckNetwork.Analysis.Frame

/-!
# No problem is dropped

Facts that are not healthy get an answer with a rule or a limitation, or the
normalization of their result has left a limitation already.
-/

namespace CheckNetwork.Analysis

open Diagnostic Go

/-- The normalization of a result: whatever the analysis may leave unexplained
is limited. -/
structure Draft.Noted (result : Result) (before after : Draft) : Prop
    extends Draft.Notes before after where
  coherent : after.facts.Coherent
  supported : after.facts.statusValid = true ∨ Draft.Limited before after
  counted : result.kind = .traceroute → isTracerouteUnavailable result = true ∨
    after.facts.hasTraceCounters = true ∨ Draft.Limited before after
  eventful : result.kind = .traceroute → isTracerouteUnavailable result = true ∨
    after.facts.status = .healthy ∨ traceUneventful after.facts = false ∨
      Draft.Limited before after

theorem initialFacts_coherent (index : Nat) (result : Result) :
    (initialFacts index result).Coherent :=
  ⟨nofun, nofun, le_rfl, le_rfl, le_rfl⟩

section

open Draft

variable {library : Library} {now : Time} {index : Nat} {result : Result} {coverage : Coverage}

theorem noted_normalizeResult :
    Noted result ⟨coverage, initialFacts index result⟩
      (normalizeResult library now index result coverage) := by
  have checked : Checks ⟨coverage, initialFacts index result⟩
      (checkSteps library now result ⟨coverage, initialFacts index result⟩) := checks_checkSteps
  have coherent := (initialFacts_coherent index result).congr checked.traced_eq
  have supported : (initialFacts index result).statusValid = true ∨
      Limited ⟨coverage, initialFacts index result⟩
        (checkSteps library now result ⟨coverage, initialFacts index result⟩) := by
    cases known : validStatus result.status with
    | true => exact .inl known
    | false => exact .inr (limited_checkSteps known)
  unfold normalizeResult tracerouteStep Draft.when
  split
  · rename_i traced
    generalize checkSteps library now result ⟨coverage, initialFacts index result⟩ = middle
      at checked coherent supported ⊢
    dsimp only
    have enriched : Checks ⟨coverage, initialFacts index result⟩
        (enrichmentStep result (providerFailureStep result middle)) :=
      (checked.trans checks_providerFailureStep).trans checks_enrichmentStep
    have later : Checks middle (enrichmentStep result (providerFailureStep result middle)) :=
      checks_providerFailureStep.trans checks_enrichmentStep
    generalize enrichmentStep result (providerFailureStep result middle) = start
      at enriched later ⊢
    have asked := enriched.asked_eq
    have traced_eq := enriched.traced_eq
    simp only [Facts.asked, initialFacts, Prod.mk.injEq] at asked
    simp only [Facts.traced, initialFacts, Prod.mk.injEq] at traced_eq
    have examined : Examined start (countersStep library result start) :=
      examined_countersStep asked.2.2.2.1 (coherent.congr later.traced_eq) traced_eq.2.2.2
    have notes := enriched.toNotes.trans examined.toNotes
    have grown : ∀ {after : Draft}, Limited start after →
        Limited ⟨coverage, initialFacts index result⟩ after := fun limited =>
      enriched.toLimits.length_le.trans_lt limited
    refine ⟨notes, examined.coherent, ?_, fun _ => .inr ?_, fun _ => .inr ?_⟩
    · rcases supported with valid | limited
      · have asked_eq := notes.asked_eq
        simp only [Facts.asked, Prod.mk.injEq] at asked_eq
        left
        rw [asked_eq.2.2.2.2.1]
        exact valid
      · exact .inr ((limited.trans_le later.toLimits.length_le).trans_le
          examined.toLimits.length_le)
    · exact examined.counted.imp_right grown
    · exact examined.eventful.imp_right (Or.imp_right grown)
  · rename_i untraced
    have unavailable : result.kind = .traceroute → isTracerouteUnavailable result = true := by
      intro kind
      simpa [kind] using untraced
    refine ⟨checked.toNotes, coherent, ?_, fun kind => .inl (unavailable kind),
      fun kind => .inl (unavailable kind)⟩
    rcases supported with valid | limited
    · have asked_eq := checked.asked_eq
      simp only [Facts.asked, Prod.mk.injEq] at asked_eq
      left
      rw [asked_eq.2.2.2.2.1]
      exact valid
    · exact .inr limited

end

/-! ## Certificates -/

section

open Draft

variable {library : Library} {now : Time} {result : Result} {draft : Draft}

theorem hasCertificate_when {condition : Bool} {change : Draft → Draft}
    (keeps : ∀ draft, (change draft).facts.hasCertificate = draft.facts.hasCertificate) :
    (draft.when condition change).facts.hasCertificate = draft.facts.hasCertificate := by
  unfold Draft.when
  split
  · exact keeps draft
  · rfl

theorem hasCertificate_refuse (condition : Bool) (place : String) (code : CoverageIssueCode)
    (signal reason : String) :
    ((draft.invalid.when condition fun draft => draft.missing place).limit code signal
      reason).facts.hasCertificate = draft.facts.hasCertificate :=
  hasCertificate_when fun _ => rfl

/-- Traceroute evidence holds no certificate. -/
theorem hasCertificate_countersStep :
    (countersStep library result draft).facts.hasCertificate = draft.facts.hasCertificate := by
  have attempts : ∀ (draft : Draft) (counters : Counters) (value : Detail),
      (attemptsStep library result draft counters value).facts.hasCertificate =
        draft.facts.hasCertificate := by
    intro draft counters value
    unfold attemptsStep
    dsimp only
    split
    · exact hasCertificate_when fun _ => rfl
    · rfl
  have aggregate : ∀ (draft : Draft) (counters : Counters),
      (aggregateStep library result draft counters).facts.hasCertificate =
        draft.facts.hasCertificate := by
    intro draft counters
    unfold aggregateStep
    split
    · exact hasCertificate_when fun _ => rfl
    · rfl
  have outer : ∀ (draft : Draft) (counters : Counters),
      (outerErrorStep result draft counters).facts.hasCertificate = draft.facts.hasCertificate :=
    fun _ _ => hasCertificate_when fun _ => rfl
  have topology : ∀ draft : Draft,
      (topologyStep library result draft).facts.hasCertificate = draft.facts.hasCertificate := by
    intro draft
    apply hasCertificate_when
    intro draft
    split <;> rfl
  have degradation : ∀ draft : Draft,
      (degradationStep result draft).facts.hasCertificate = draft.facts.hasCertificate :=
    fun _ => hasCertificate_when fun _ => rfl
  have available : ∀ (draft : Draft) (condition : Bool),
      (draft.when condition fun draft =>
        draft.available "details.trace_attempts").facts.hasCertificate =
          draft.facts.hasCertificate :=
    fun _ _ => hasCertificate_when fun _ => rfl
  unfold countersStep
  split
  · refine (available _ _).trans ((degradation _).trans ((topology _).trans
      ((outer _ _).trans ?_)))
    split
    · exact attempts _ _ _
    · exact aggregate _ _
  · exact hasCertificate_refuse _ _ _ _ _

/-- Only the kinds with TLS read a certificate. -/
theorem hasCertificate_checkSteps (plain : isTLSKind result.kind = false) :
    (checkSteps library now result draft).facts.hasCertificate = draft.facts.hasCertificate := by
  have status : ∀ draft : Draft,
      (statusStep result draft).facts.hasCertificate = draft.facts.hasCertificate :=
    fun _ => hasCertificate_when fun _ => rfl
  have errorCode : ∀ draft : Draft,
      (errorCodeStep result draft).facts.hasCertificate = draft.facts.hasCertificate := by
    intro draft
    unfold errorCodeStep
    split
    · rfl
    · exact hasCertificate_when fun _ => rfl
  have kind : ∀ draft : Draft,
      (kindStep result draft).facts.hasCertificate = draft.facts.hasCertificate :=
    fun _ => hasCertificate_when fun _ => rfl
  have details : ∀ draft : Draft,
      (detailsStep result draft).facts.hasCertificate = draft.facts.hasCertificate :=
    fun _ => hasCertificate_when fun _ => rfl
  have greeting : ∀ draft : Draft,
      (greetingStep library result draft).facts.hasCertificate = draft.facts.hasCertificate := by
    intro draft
    apply hasCertificate_when
    intro draft
    split
    · exact hasCertificate_refuse _ _ _ _ _
    · exact hasCertificate_when fun _ => rfl
  have dns : ∀ draft : Draft,
      (dnsStep result draft).facts.hasCertificate = draft.facts.hasCertificate := by
    intro draft
    apply hasCertificate_when
    intro draft
    split
    · rfl
    · exact hasCertificate_refuse _ _ _ _ _
  have endpoint : ∀ draft : Draft,
      (endpointStep result draft).facts.hasCertificate = draft.facts.hasCertificate := by
    intro draft
    apply hasCertificate_when
    intro draft
    split
    · rfl
    · exact hasCertificate_refuse _ _ _ _ _
  have httpStatus : ∀ draft : Draft,
      (httpStatusStep result draft).facts.hasCertificate = draft.facts.hasCertificate := by
    intro draft
    unfold httpStatusStep
    split
    · rfl
    · apply hasCertificate_when
      intro draft
      exact hasCertificate_when fun _ => rfl
  have http : ∀ draft : Draft,
      (httpStep result draft).facts.hasCertificate = draft.facts.hasCertificate := by
    intro draft
    apply hasCertificate_when
    intro draft
    exact (hasCertificate_when fun _ => hasCertificate_refuse _ _ _ _ _).trans (httpStatus draft)
  have tlsFailure : ∀ draft : Draft,
      (tlsFailureStep library now result draft).facts.hasCertificate =
        draft.facts.hasCertificate := by
    intro draft
    apply hasCertificate_when
    intro draft
    exact hasCertificate_when fun _ => hasCertificate_refuse _ _ _ _ _
  have tls : ∀ draft : Draft,
      (tlsStep library result draft).facts.hasCertificate = draft.facts.hasCertificate := by
    intro draft
    rw [tlsStep, plain]
    rfl
  exact (tls _).trans ((http _).trans ((endpoint _).trans ((dns _).trans ((greeting _).trans
    ((tlsFailure _).trans ((details _).trans ((kind _).trans
      ((errorCode _).trans (status _)))))))))

end

/-! ## Answers -/

section

variable {library : Library} {now : Time} {facts : Facts}

/-- A sign of a problem in the counters is a rule to report. -/
theorem traceRules_ne_nil (coherent : facts.Coherent) (eventful : traceUneventful facts = false) :
    traceRules facts ≠ [] := by
  intro none
  obtain ⟨before, path⟩ := List.append_eq_nil_iff.mp none
  obtain ⟨failures, reachability⟩ := List.append_eq_nil_iff.mp before
  have notFailed : facts.traceExecutionFail = 0 := by
    have nonneg := coherent.failed
    unfold traceFailureRules at failures
    split_ifs at failures
    omega
  have notUnreached : facts.traceUnreached = 0 := by
    have nonneg := coherent.unreached
    have reached := coherent.reached
    unfold traceReachabilityRules at reachability
    split_ifs at reachability
    omega
  have stable : facts.tracePathUnstable = false := by
    cases unstable : facts.tracePathUnstable with
    | false => rfl
    | true =>
        obtain ⟨completed, two⟩ := coherent.unstable unstable
        simp [tracePathRules, completed, unstable, two] at path
  have undegraded : facts.tracePathDegraded = false := by
    cases degraded : facts.tracePathDegraded with
    | false => rfl
    | true => simp [tracePathRules, coherent.degraded degraded, stable, degraded] at path
  simp [traceUneventful, notFailed, notUnreached, stable, undegraded] at eventful

/-- Only traceroute evidence may be left without a rule or a limitation. -/
theorem codeAnswer_cases (facts : Facts) :
    ((codeAnswer facts).rules ≠ [] ∧ (codeAnswer facts).unexplained = false) ∨
      (codeAnswer facts).unexplained = true ∧ (codeAnswer facts).issue ≠ none ∨
      facts.kind = .traceroute ∧ facts.errorCode ≠ GoString.ofString "traceroute_unavailable" ∧
        codeAnswer facts = traceAnswer facts := by
  have outcome : ((outcomeAnswer facts).rules ≠ [] ∧ (outcomeAnswer facts).unexplained = false) ∨
      (outcomeAnswer facts).unexplained = true ∧ (outcomeAnswer facts).issue ≠ none ∨
      facts.kind = .traceroute ∧ outcomeAnswer facts = traceAnswer facts := by
    unfold outcomeAnswer
    split_ifs with traced
    · exact .inr (.inr ⟨traced, rfl⟩)
    all_goals simp [Answer.report, Answer.unexplainedWith]
  unfold codeAnswer
  dsimp only
  split_ifs with h₁ h₂ unavailable
  all_goals first
    | exact .inl ⟨List.cons_ne_nil _ _, rfl⟩
    | exact .inr (.inl ⟨rfl, by simp [Answer.unexplainedWith]⟩)
    | exact outcome.imp_right (Or.imp_right fun traced => ⟨traced.1, unavailable, traced.2⟩)

theorem errorCode_eq_nil (healthy : facts.status = .healthy)
    (valid : validErrorCode facts = true) : facts.errorCode = [] := by
  simpa [validErrorCode, healthy] using valid

/-- Facts that are not healthy are answered with a rule or a limitation, unless
normalization has limited them. -/
theorem answer_speaks (coherent : facts.Coherent) (statusValid : facts.statusValid = true)
    (detailsValid : facts.detailsValid = true) (troubled : facts.status ≠ .healthy)
    (counted : facts.kind = .traceroute →
      facts.errorCode ≠ GoString.ofString "traceroute_unavailable" →
        facts.hasTraceCounters = true ∧ traceUneventful facts = false) :
    (answer library now facts).rules ≠ [] ∨ (answer library now facts).issue ≠ none := by
  unfold answer
  rw [statusValid, detailsValid]
  simp only [Bool.not_true, Bool.false_and, Bool.false_eq_true, if_false]
  unfold validAnswer
  split
  · exact .inr (by simp [Answer.unexplainedWith])
  · split
    · exact .inl (by simp [Answer.report])
    · split
      · exact .inl (by simp [Answer.report])
      · dsimp only
        unfold observationAnswer
        rw [if_neg troubled]
        rcases codeAnswer_cases facts with ⟨rules, _⟩ | ⟨_, issue⟩ | ⟨kind, code, same⟩
        · exact .inl fun none => rules (List.append_eq_nil_iff.mp none).2
        · exact .inr issue
        · obtain ⟨counters, eventful⟩ := counted kind code
          left
          intro none
          have rules := (List.append_eq_nil_iff.mp none).2
          rw [same, traceAnswer, counters] at rules
          exact traceRules_ne_nil coherent eventful rules

end

end CheckNetwork.Analysis
