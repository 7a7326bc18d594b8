import CheckNetwork.Analysis.Integrity

/-!
# When the verdict is healthy

The analysis of a report ends healthy exactly when every result is quiet: its
status is healthy, its details are valid, and nothing in them is due.
-/

namespace CheckNetwork.Analysis

open Diagnostic Go

/-! ## Quiet results -/

section Results

variable (library : Library) (now : Time) (result : Result)

def nonBlankDetail (key : String) : Bool :=
  (stringDetail result key).any fun text => text.trimSpace ≠ []

def observedHTTPStatus : Bool :=
  ((integerDetail result "status_code").filter validHTTPStatus).isSome &&
    ((integerDetail result "expected_status").filter validHTTPStatus).isSome

def validTLSFacts : Bool :=
  nonBlankDetail result "tls_version" &&
    (timeDetail library result "certificate_expires_at").isSome

/-- The completed attempts that confirm the counters of a result. -/
def completedAttempts (counters : Counters) : Option (List TraceAttempt) :=
  (result.detail? "attempts").bind fun value =>
    (normalizedTraceAttempts library value).bind (confirmedAttempts counters)

/-- A topology that is degraded although no completed attempt is. -/
def contradictsAttempts (completed : List TraceAttempt) : Bool :=
  (normalizedTopology library (result.detail? "topology")).any fun topology =>
    topologyDegraded topology && !traceAttemptsDegraded completed

def validTraceDetails : Bool :=
  ((readCounters result).filter (validCounters result.status)).any fun counters =>
    if hasDetail result "attempts" then
      (completedAttempts library result counters).any fun completed =>
        !contradictsAttempts library result completed
    else (normalizedTopology library (result.detail? "topology")).isSome

/-- Whether the details are what a healthy result of the kind has. -/
def validDetails : Bool :=
  result.details.isSome &&
    match result.kind with
    | .dns => validDNSAnswers result
    | .tcp => nonBlankDetail result "remote_address"
    | .http => observedHTTPStatus result
    | .https => observedHTTPStatus result && validTLSFacts library result
    | .traceroute => validTraceDetails library result
    | .other _ => false
    | _ => validServiceGreetingDetails library result

/-- The certificate has expired or expires within the renewal window. -/
def certificateDue : Bool :=
  isTLSKind result.kind &&
    (timeDetail library result "certificate_expires_at").any fun expires =>
      !expires.after now ||
        !expires.after { now with nanoseconds := now.nanoseconds + Builder.renewalWindow }

def pathsUnstable : Bool :=
  result.kind = .traceroute &&
    ((readCounters result).filter (validCounters result.status)).any fun counters =>
      (completedAttempts library result counters).any tracePathsUnstable

/-- A result that gives the analysis nothing to say. -/
structure Quiet : Prop where
  healthy : result.status = .healthy
  noError : result.errorCode = []
  verified : isServiceGreetingKind result.kind = false
  valid : validDetails library result = true
  notDue : certificateDue library now result = false
  stable : pathsUnstable library result = false

end Results

/-! ## Quiet answers -/

/-- An answer that reports nothing and leaves nothing unexplained. -/
structure Answer.Silent (answer : Answer) : Prop where
  rules_eq : answer.rules = []
  unexplained_eq : answer.unexplained = false
  issue_eq : answer.issue = none

section Answers

variable {library : Library} {now : Time} {facts : Facts}

theorem not_silent_codeAnswer (coherent : facts.Coherent) : ¬(codeAnswer facts).Silent := by
  rintro ⟨rules_eq, unexplained_eq, issue_eq⟩
  rcases codeAnswer_cases facts with ⟨rules, _⟩ | ⟨unexplained, _⟩ | ⟨_, _, same⟩
  · exact rules rules_eq
  · rw [unexplained] at unexplained_eq
    cases unexplained_eq
  · rw [same, traceAnswer] at rules_eq unexplained_eq
    split at rules_eq
    · rename_i missing
      rw [if_pos missing] at unexplained_eq
      cases unexplained_eq
    · rename_i present
      rw [if_neg present] at unexplained_eq
      exact traceRules_ne_nil coherent unexplained_eq rules_eq

/-- Unstable paths on enough attempts are reported. -/
theorem not_silent_traceAnswer (coherent : facts.Coherent)
    (unstable : facts.tracePathUnstable = true) : ¬(traceAnswer facts).Silent := by
  rintro ⟨rules_eq, unexplained_eq, _⟩
  rw [traceAnswer] at rules_eq unexplained_eq
  split at rules_eq
  · rename_i missing
    rw [if_pos missing] at unexplained_eq
    cases unexplained_eq
  · refine traceRules_ne_nil coherent ?_ rules_eq
    simp [traceUneventful, unstable]

theorem certificateRules_eq_nil_iff : certificateRules library now facts = [] ↔
    facts.hasCertificate = false ∨ facts.certificateExpires.after now = true ∧
      facts.certificateExpires.after
        { now with nanoseconds := now.nanoseconds + Builder.renewalWindow } = true := by
  unfold certificateRules
  cases facts.hasCertificate with
  | false => simp
  | true =>
      cases facts.certificateExpires.after now with
      | false => simp
      | true => simp

/-- Facts are answered with silence exactly when they are healthy, valid,
stable and without a certificate that is due. -/
theorem silent_answer_iff (coherent : facts.Coherent) : (answer library now facts).Silent ↔
    facts.statusValid = true ∧ facts.detailsValid = true ∧ facts.status = .healthy ∧
      facts.errorCode = [] ∧ certificateRules library now facts = [] ∧
      (facts.kind = .traceroute && facts.tracePathUnstable) = false := by
  constructor
  · rintro ⟨rules_eq, unexplained_eq, issue_eq⟩
    unfold answer at rules_eq unexplained_eq issue_eq
    cases statusValid : facts.statusValid with
    | false =>
        rw [statusValid] at unexplained_eq
        simp [Answer.unexplainedWith] at unexplained_eq
    | true =>
        cases detailsValid : facts.detailsValid with
        | false =>
            rw [statusValid, detailsValid] at unexplained_eq
            simp only [Bool.not_true, Bool.false_eq_true, if_false, Bool.not_false,
              Bool.true_and, Bool.true_or] at unexplained_eq
            split at unexplained_eq <;> cases unexplained_eq
        | true =>
            rw [statusValid, detailsValid] at rules_eq unexplained_eq issue_eq
            simp only [Bool.not_true, Bool.false_eq_true, if_false, Bool.false_and,
              Bool.false_or] at rules_eq unexplained_eq issue_eq
            unfold validAnswer at rules_eq unexplained_eq issue_eq
            split at rules_eq
            · rename_i invalid
              rw [if_pos invalid] at unexplained_eq
              cases unexplained_eq
            · rename_i valid
              rw [if_neg valid] at unexplained_eq issue_eq
              split at rules_eq
              · cases rules_eq
              · rename_i notDowngraded
                rw [if_neg notDowngraded] at unexplained_eq issue_eq
                split at rules_eq
                · cases rules_eq
                · rename_i noFailure
                  rw [noFailure] at unexplained_eq issue_eq
                  dsimp only at rules_eq unexplained_eq issue_eq
                  obtain ⟨certificates, observed⟩ := List.append_eq_nil_iff.mp rules_eq
                  have silent : (observationAnswer facts).Silent :=
                    ⟨observed, unexplained_eq, issue_eq⟩
                  have validCode : validErrorCode facts = true := by simpa using valid
                  unfold observationAnswer at silent
                  by_cases healthy : facts.status = .healthy
                  · rw [if_pos healthy] at silent
                    refine ⟨rfl, rfl, healthy, errorCode_eq_nil healthy validCode, certificates, ?_⟩
                    by_contra unstable
                    rw [Bool.not_eq_false] at unstable
                    rw [if_pos unstable] at silent
                    exact not_silent_traceAnswer coherent (by simp_all) silent
                  · rw [if_neg healthy] at silent
                    exact absurd silent (not_silent_codeAnswer coherent)
  · rintro ⟨statusValid, detailsValid, healthy, noError, certificates, stable⟩
    have validCode : validErrorCode facts = true := by simp [validErrorCode, healthy, noError]
    have noFailure : (tlsFailures.find? fun failure =>
        facts.errorCode = GoString.ofString failure.errorCode) = none := by
      rw [noError]
      decide
    have notDowngraded : facts.errorCode ≠ GoString.ofString "tls_downgrade" := by
      rw [noError]
      decide
    have same : answer library now facts = .silence := by
      unfold answer
      rw [statusValid, detailsValid]
      simp only [Bool.not_true, Bool.false_eq_true, if_false, Bool.false_and, Bool.false_or]
      unfold validAnswer
      rw [validCode, noFailure, certificates, if_neg notDowngraded]
      simp [observationAnswer, healthy, stable, Answer.silence]
    rw [same]
    exact ⟨rfl, rfl, rfl⟩

end Answers

/-! ## Quiet normalization -/

section Checks

variable {library : Library} {now : Time} {result : Result} {draft : Draft}

/-- The facts of the details that do not concern traceroute evidence. -/
def Facts.observed (facts : Facts) : Bool × Bool × Time :=
  (facts.hasHTTPStatus, facts.hasCertificate, facts.certificateExpires)

theorem unlimited_detailsStep (healthy : result.status = .healthy) (noError : result.errorCode = []) :
    (detailsStep result draft).coverage.limitations = [] ↔
      draft.coverage.limitations = [] ∧ result.details.isSome = true := by
  have notTLS : isTLSFailure result = false := by simp [isTLSFailure, healthy]
  have notGreeting : isGreetingFailure result = false := by
    simp only [isGreetingFailure, noError, Bool.and_eq_false_imp]
    exact fun _ => by decide
  have available : isTracerouteUnavailable result = false := by
    simp [isTracerouteUnavailable, healthy]
  unfold detailsStep Draft.when
  rw [notTLS, notGreeting, available]
  cases result.details with
  | none => simp [Draft.limit, Draft.missing]
  | some details => simp

theorem observed_detailsStep : (detailsStep result draft).facts = draft.facts := by
  unfold detailsStep Draft.when
  split <;> rfl

theorem unlimited_kindStep : (kindStep result draft).coverage.limitations = [] ↔
    draft.coverage.limitations = [] ∧ supportedKind result.kind = true := by
  unfold kindStep Draft.when
  cases supportedKind result.kind with
  | true => simp
  | false => simp [Draft.limit]

theorem observed_kindStep : (kindStep result draft).facts = draft.facts := by
  unfold kindStep Draft.when
  split <;> rfl

theorem tlsFailureStep_eq (healthy : result.status = .healthy) :
    tlsFailureStep library now result draft = draft := by
  simp [tlsFailureStep, Draft.when, isTLSFailure, healthy]

theorem unlimited_greetingStep (healthy : result.status = .healthy) :
    (greetingStep library result draft).coverage.limitations = [] ↔
      draft.coverage.limitations = [] ∧ isServiceGreetingKind result.kind = false := by
  unfold greetingStep Draft.when
  cases isServiceGreetingKind result.kind with
  | false => simp
  | true =>
      simp only [healthy, decide_true, Bool.true_or, Bool.and_true, if_true]
      split <;> simp [Draft.limit]

theorem greetingStep_eq (verified : isServiceGreetingKind result.kind = false) :
    greetingStep library result draft = draft := by
  simp [greetingStep, Draft.when, verified]

theorem unlimited_dnsStep (healthy : result.status = .healthy) :
    (dnsStep result draft).coverage.limitations = [] ↔
      draft.coverage.limitations = [] ∧ (result.kind = .dns → validDNSAnswers result = true) := by
  unfold dnsStep Draft.when
  by_cases kind : result.kind = .dns
  · cases valid : validDNSAnswers result with
    | true => simp [healthy, kind, Draft.available]
    | false => simp [healthy, kind, Draft.limit]
  · simp [kind]

theorem observed_dnsStep : (dnsStep result draft).facts.observed = draft.facts.observed := by
  unfold dnsStep Draft.when
  split
  · split
    · rfl
    · split <;> rfl
  · rfl

theorem unlimited_endpointStep (healthy : result.status = .healthy) :
    (endpointStep result draft).coverage.limitations = [] ↔
      draft.coverage.limitations = [] ∧
        (result.kind = .tcp → nonBlankDetail result "remote_address" = true) := by
  unfold endpointStep Draft.when isConnectionDetailKind
  by_cases kind : result.kind = .tcp
  · change (if _ then if nonBlankDetail result "remote_address" = true then _ else _
      else draft).coverage.limitations = [] ↔ _
    cases nonBlankDetail result "remote_address" with
    | true => simp [healthy, kind, Draft.available]
    | false => simp [healthy, kind, Draft.limit]
  · simp [kind]

theorem observed_endpointStep :
    (endpointStep result draft).facts.observed = draft.facts.observed := by
  unfold endpointStep Draft.when
  split
  · split
    · rfl
    · split <;> rfl
  · rfl

theorem httpStatusStep_cases (noError : result.errorCode = [])
    (fresh : draft.facts.hasHTTPStatus = false) :
    (httpStatusStep result draft).coverage.limitations = draft.coverage.limitations ∧
      (httpStatusStep result draft).facts.hasHTTPStatus = observedHTTPStatus result ∧
      (httpStatusStep result draft).facts.observed.2 = draft.facts.observed.2 := by
  have expected : result.errorCode ≠ GoString.ofString "unexpected_status" := by
    rw [noError]
    decide
  unfold httpStatusStep observedHTTPStatus
  split
  · rename_i status expected statusFound expectedFound
    rw [statusFound, expectedFound]
    exact ⟨rfl, rfl, rfl⟩
  · rename_i missing
    simp only [Draft.when, expected, decide_false, Bool.false_eq_true, if_false, true_and, and_true]
    rw [fresh]
    cases statusFound : (integerDetail result "status_code").filter validHTTPStatus with
    | none => rfl
    | some status =>
        cases expectedFound : (integerDetail result "expected_status").filter validHTTPStatus with
        | none => rfl
        | some expected => exact absurd expectedFound (missing status expected statusFound)

theorem unlimited_httpStep (healthy : result.status = .healthy) (noError : result.errorCode = [])
    (fresh : draft.facts.hasHTTPStatus = false) :
    (httpStep result draft).coverage.limitations = [] ↔
      draft.coverage.limitations = [] ∧
        (result.kind = .http ∨ result.kind = .https → observedHTTPStatus result = true) := by
  obtain ⟨limitations_eq, has_eq, _⟩ := httpStatusStep_cases noError fresh
  unfold httpStep Draft.when
  by_cases kind : result.kind = .http ∨ result.kind = .https
  · simp only [kind, decide_eq_true_eq, Bool.or_eq_true, if_true, healthy, decide_true,
      Bool.true_and, has_eq, forall_const]
    cases observedHTTPStatus result with
    | true => simp [limitations_eq]
    | false => simp [Draft.limit]
  · simp [kind]

theorem observed_httpStep (noError : result.errorCode = [])
    (fresh : draft.facts.hasHTTPStatus = false) :
    (httpStep result draft).facts.observed.2 = draft.facts.observed.2 := by
  obtain ⟨_, _, observed_eq⟩ := httpStatusStep_cases noError fresh
  unfold httpStep Draft.when
  split
  · dsimp only
    split
    · rw [← observed_eq]
      split <;> rfl
    · exact observed_eq
  · rfl

theorem hasDetail_of_timeDetail {key : String} (found : (timeDetail library result key).isSome = true) :
    hasDetail result key = true := by
  unfold timeDetail reflectedDetail at found
  unfold hasDetail
  cases known : result.detail? key with
  | none => simp [known] at found
  | some detail => rfl

theorem unlimited_tlsStep (healthy : result.status = .healthy)
    (present : result.details.isSome = true) :
    (tlsStep library result draft).coverage.limitations = [] ↔
      draft.coverage.limitations = [] ∧
        (isTLSKind result.kind = true → validTLSFacts library result = true) := by
  unfold tlsStep Draft.when
  cases isTLSKind result.kind with
  | false => simp
  | true =>
      have handshake : (tlsHandshakeStep result draft).coverage.limitations = [] ↔
          draft.coverage.limitations = [] ∧ nonBlankDetail result "tls_version" = true ∧
            hasDetail result "certificate_expires_at" = true := by
        unfold tlsHandshakeStep Draft.when nonBlankDetail
        rw [healthy]
        cases (stringDetail result "tls_version").any fun version => version.trimSpace ≠ [] with
        | false =>
            cases hasDetail result "certificate_expires_at" with
            | false => simp [Draft.limit]
            | true => simp [Draft.limit]
        | true =>
            cases hasDetail result "certificate_expires_at" with
            | false => simp [Draft.limit]
            | true => simp
      simp only [present, Bool.and_true, if_true, forall_const]
      unfold validTLSFacts certificateStep
      cases found : timeDetail library result "certificate_expires_at" with
      | some expires =>
          have held := @hasDetail_of_timeDetail library result "certificate_expires_at"
            (by rw [found]; rfl)
          simp [Draft.available, handshake, held]
      | none =>
          unfold Draft.when
          cases held : hasDetail result "certificate_expires_at" with
          | false => simp [handshake, held]
          | true => simp [Draft.limit]

/-- The certificate that the facts hold after the checks. -/
theorem certificateRules_tlsStep (present : result.details.isSome = true)
    (fresh : draft.facts.hasCertificate = false) :
    certificateRules library now (tlsStep library result draft).facts = [] ↔
      certificateDue library now result = false := by
  have handshake : (tlsHandshakeStep result draft).facts.hasCertificate = false := by
    unfold tlsHandshakeStep Draft.when
    split_ifs <;> exact fresh
  rw [certificateRules_eq_nil_iff]
  unfold tlsStep certificateDue Draft.when
  cases isTLSKind result.kind with
  | false => simp [fresh]
  | true =>
      simp only [present, Bool.and_true, if_true, Bool.true_and]
      unfold certificateStep
      cases timeDetail library result "certificate_expires_at" with
      | some expires => simp [Draft.available]
      | none =>
          unfold Draft.when
          cases hasDetail result "certificate_expires_at" with
          | true => simp [Draft.limit, handshake]
          | false => simp [handshake]

/-- What the checks ask of a healthy result without an error code. -/
structure Checked (library : Library) (result : Result) : Prop where
  present : result.details.isSome = true
  supported : supportedKind result.kind = true
  verified : isServiceGreetingKind result.kind = false
  dns : result.kind = .dns → validDNSAnswers result = true
  endpoint : result.kind = .tcp → nonBlankDetail result "remote_address" = true
  http : result.kind = .http ∨ result.kind = .https → observedHTTPStatus result = true
  tls : isTLSKind result.kind = true → validTLSFacts library result = true

theorem checkSteps_eq (healthy : result.status = .healthy) (noError : result.errorCode = []) :
    checkSteps library now result draft =
      tlsStep library result (httpStep result (endpointStep result (dnsStep result
        (greetingStep library result (detailsStep result (kindStep result
          (draft.available "status"))))))) := by
  simp [checkSteps, statusStep, errorCodeStep, tlsFailureStep_eq, Draft.when, validStatus, healthy,
    noError]

/-- Without a limitation afterwards there was none before. -/
theorem Draft.Limits.unlimited {allowed : String → Prop} {before after : Draft}
    (limits : Draft.Limits allowed before after) (unlimited : after.coverage.limitations = []) :
    before.coverage.limitations = [] := by
  obtain ⟨issues, issues_eq, _⟩ := limits.limitations
  rw [unlimited] at issues_eq
  exact (List.append_eq_nil_iff.mp issues_eq.symm).1

theorem unlimited_checkSteps (healthy : result.status = .healthy) (noError : result.errorCode = [])
    (fresh : draft.facts.hasHTTPStatus = false) :
    (checkSteps library now result draft).coverage.limitations = [] ↔
      draft.coverage.limitations = [] ∧ Checked library result := by
  rw [checkSteps_eq healthy noError]
  set opened := detailsStep result (kindStep result (draft.available "status")) with opened_eq
  have opened_iff : opened.coverage.limitations = [] ↔ draft.coverage.limitations = [] ∧
      supportedKind result.kind = true ∧ result.details.isSome = true := by
    rw [opened_eq, unlimited_detailsStep healthy noError, unlimited_kindStep, and_assoc]
    rfl
  have openedFresh : opened.facts.hasHTTPStatus = false := by
    rw [opened_eq, observed_detailsStep, observed_kindStep]
    exact fresh
  by_cases present : result.details.isSome = true
  · by_cases verified : isServiceGreetingKind result.kind = false
    · have laterFresh : (endpointStep result (dnsStep result opened)).facts.hasHTTPStatus = false := by
        have same := (@observed_endpointStep result (dnsStep result opened)).trans
          (@observed_dnsStep result opened)
        rw [← openedFresh]
        exact congrArg Prod.fst same
      rw [greetingStep_eq verified, unlimited_tlsStep healthy present,
        unlimited_httpStep healthy noError laterFresh, unlimited_endpointStep healthy,
        unlimited_dnsStep healthy, opened_iff]
      constructor
      · rintro ⟨⟨⟨⟨⟨clean, supported, _⟩, dns⟩, endpoint⟩, http⟩, tls⟩
        exact ⟨clean, present, supported, verified, dns, endpoint, http, tls⟩
      · rintro ⟨clean, checked⟩
        exact ⟨⟨⟨⟨⟨clean, checked.supported, present⟩, checked.dns⟩, checked.endpoint⟩,
          checked.http⟩, checked.tls⟩
    · constructor
      · intro unlimited
        have rest : Draft.Checks (greetingStep library result opened)
            (tlsStep library result (httpStep result (endpointStep result (dnsStep result
              (greetingStep library result opened))))) :=
          ((checks_dnsStep.trans checks_endpointStep).trans checks_httpStep).trans checks_tlsStep
        have greeting := rest.toLimits.unlimited unlimited
        rw [unlimited_greetingStep healthy] at greeting
        exact absurd greeting.2 verified
      · rintro ⟨_, checked⟩
        exact absurd checked.verified verified
  · constructor
    · intro unlimited
      have rest : Draft.Checks opened
          (tlsStep library result (httpStep result (endpointStep result (dnsStep result
            (greetingStep library result opened))))) :=
        (((checks_greetingStep.trans checks_dnsStep).trans checks_endpointStep).trans
          checks_httpStep).trans checks_tlsStep
      exact absurd (opened_iff.mp (rest.toLimits.unlimited unlimited)).2.2 present
    · rintro ⟨_, checked⟩
      exact absurd checked.present present

/-- After the checks of a checked result, its certificate is reported exactly
when it is due. -/
theorem certificateRules_checkSteps (healthy : result.status = .healthy)
    (noError : result.errorCode = []) (checked : Checked library result)
    (freshStatus : draft.facts.hasHTTPStatus = false)
    (freshCertificate : draft.facts.hasCertificate = false) :
    certificateRules library now (checkSteps library now result draft).facts = [] ↔
      certificateDue library now result = false := by
  rw [checkSteps_eq healthy noError, greetingStep_eq checked.verified]
  apply certificateRules_tlsStep checked.present
  set opened := detailsStep result (kindStep result (draft.available "status")) with opened_eq
  have opened_facts : opened.facts = draft.facts := by
    rw [opened_eq, observed_detailsStep, observed_kindStep]
    rfl
  have same := (@observed_endpointStep result (dnsStep result opened)).trans
    (@observed_dnsStep result opened)
  rw [opened_facts] at same
  have laterFresh : (endpointStep result (dnsStep result opened)).facts.hasHTTPStatus = false :=
    (congrArg Prod.fst same).trans freshStatus
  have observed := @observed_httpStep result _ noError laterFresh
  rw [same] at observed
  exact (congrArg Prod.fst observed).trans freshCertificate

end Checks

/-! ## Quiet evidence -/

section Traceroute

variable {library : Library} {result : Result} {draft : Draft} {counters : Counters}

theorem outerErrorStep_of_healthy (healthy : result.status = .healthy)
    (noError : result.errorCode = []) : outerErrorStep result draft counters = draft := by
  have empty : result.errorCode = GoString.ofString "" := by
    rw [noError]
    decide
  rw [outerErrorStep, traceOuterErrorMatches, if_pos empty, healthy]
  rfl

theorem degradationStep_of_healthy (healthy : result.status = .healthy) :
    degradationStep result draft = draft := by
  simp [degradationStep, Draft.when, healthy]

theorem executionFailed_of_healthy (valid : validCounters .healthy counters = true) :
    counters.executionFailed = 0 := by
  simp only [validCounters, traceCountersMatchStatus, Bool.and_eq_true, decide_eq_true_eq] at valid
  omega

theorem unlimited_when_available {condition : Bool} {place : String} :
    (draft.when condition fun draft => draft.available place).coverage.limitations =
      draft.coverage.limitations := by
  unfold Draft.when
  split <;> rfl

theorem facts_when_available {condition : Bool} {place : String} :
    (draft.when condition fun draft => draft.available place).facts = draft.facts := by
  unfold Draft.when
  split <;> rfl

theorem unlimited_topologyStep : (topologyStep library result draft).coverage.limitations = [] ↔
    draft.coverage.limitations = [] ∧ (draft.facts.traceExecutionFail = 0 →
      hasDetail result "attempts" = true ∨
        (normalizedTopology library (result.detail? "topology")).isSome = true) := by
  unfold topologyStep Draft.when
  by_cases failed : draft.facts.traceExecutionFail = 0
  · cases hasDetail result "attempts" with
    | true => simp
    | false =>
        cases normalizedTopology library (result.detail? "topology") with
        | none =>
            cases hasDetail result "topology" with
            | true => simp [failed, Draft.limit]
            | false => simp [failed, Draft.limit]
        | some topology => simp
  · simp [failed]

theorem facts_topologyStep : (topologyStep library result draft).facts = draft.facts := by
  unfold topologyStep Draft.when
  split
  · dsimp only
    split <;> rfl
  · rfl

theorem attemptsStep_of_none {value : Detail}
    (refuted : (normalizedTraceAttempts library value).bind (confirmedAttempts counters) = none) :
    (attemptsStep library result draft counters value).coverage.limitations ≠ [] := by
  unfold attemptsStep
  dsimp only
  rw [refuted]
  simp [Draft.limit]

theorem attemptsStep_of_some {value : Detail} {completed : List TraceAttempt}
    (confirmed : (normalizedTraceAttempts library value).bind (confirmedAttempts counters) =
      some completed) :
    ((attemptsStep library result draft counters value).coverage.limitations = [] ↔
        draft.coverage.limitations = [] ∧ contradictsAttempts library result completed = false) ∧
      (attemptsStep library result draft counters value).facts.tracePathUnstable =
        tracePathsUnstable completed := by
  unfold attemptsStep
  dsimp only
  rw [confirmed]
  refine ⟨?_, rfl⟩
  change (draft.when (contradictsAttempts library result completed) fun draft => draft.limit _ _
    _).coverage.limitations = [] ↔ _
  unfold Draft.when
  cases contradictsAttempts library result completed with
  | true => simp [Draft.limit]
  | false => simp

theorem aggregateStep_keeps :
    (aggregateStep library result draft counters).coverage = draft.coverage ∧
      (aggregateStep library result draft counters).facts.traceExecutionFail =
        draft.facts.traceExecutionFail ∧
      (aggregateStep library result draft counters).facts.tracePathUnstable =
        draft.facts.tracePathUnstable := by
  unfold aggregateStep
  split
  · unfold Draft.when
    split <;> exact ⟨rfl, rfl, rfl⟩
  · exact ⟨rfl, rfl, rfl⟩

/-- The evidence of a healthy result leaves no limitation exactly when it is
valid, and then its paths are as stable as the attempts show. -/
theorem quiet_countersStep (healthy : result.status = .healthy) (noError : result.errorCode = [])
    (kind : result.kind = .traceroute) (fresh : draft.facts.tracePathUnstable = false) :
    ((countersStep library result draft).coverage.limitations = [] ↔
        draft.coverage.limitations = [] ∧ validTraceDetails library result = true) ∧
      (validTraceDetails library result = true →
        (countersStep library result draft).facts.tracePathUnstable =
          pathsUnstable library result) := by
  unfold countersStep validTraceDetails pathsUnstable
  cases read : (readCounters result).filter (validCounters result.status) with
  | none => simp [Draft.limit]
  | some counters =>
      have valid := (Option.filter_eq_some_iff.mp read).2
      rw [healthy] at valid
      have noFailure := executionFailed_of_healthy valid
      dsimp only
      rw [outerErrorStep_of_healthy healthy noError, degradationStep_of_healthy healthy,
        unlimited_when_available, facts_when_available, unlimited_topologyStep, facts_topologyStep,
        Option.any_some, Option.any_some, kind]
      unfold completedAttempts hasDetail
      set start : Draft := { draft with facts := countersFacts counters draft.facts }
      have coverage_start : start.coverage = draft.coverage := rfl
      have failed : start.facts.traceExecutionFail = 0 := noFailure
      have unstable : start.facts.tracePathUnstable = false := fresh
      clear_value start
      cases found : result.detail? "attempts" with
      | none =>
          obtain ⟨coverage_eq, failed_eq, unstable_eq⟩ :=
            @aggregateStep_keeps library result start counters
          simp [coverage_eq, failed_eq, unstable_eq, failed, unstable, coverage_start]
      | some value =>
          dsimp only
          rw [Option.bind_some]
          cases confirmed : (normalizedTraceAttempts library value).bind
              (confirmedAttempts counters) with
          | none =>
              have limited := @attemptsStep_of_none library result start counters value confirmed
              simp [limited]
          | some completed =>
              obtain ⟨limits_iff, unstable_eq⟩ :=
                @attemptsStep_of_some library result start counters value completed confirmed
              simp [limits_iff, unstable_eq, coverage_start]

/-! ## Enrichment -/

/-- The enrichment coverage of a report after one more result. -/
def enrichmentOf (index : Nat) (result : Result) (enrichment : List EnrichmentCoverage) :
    Option (List EnrichmentCoverage) :=
  if result.kind = .traceroute && !isTracerouteUnavailable result then
    match result.detail? "geoip_enrichment" with
    | none => some enrichment
    | some value =>
        (normalizedEnrichmentCoverage value
          (integerDetail result "geoip_provider_failures")).bind fun addition =>
            if index < maxTargets then mergeEnrichmentCoverage enrichment addition else none
  else some enrichment

theorem providerFailureStep_keeps :
    (providerFailureStep result draft).coverage.limitations = draft.coverage.limitations ∧
      (providerFailureStep result draft).coverage.enrichment = draft.coverage.enrichment ∧
      (providerFailureStep result draft).facts = draft.facts := by
  unfold providerFailureStep
  split
  · unfold Draft.when
    split <;> exact ⟨rfl, rfl, rfl⟩
  · exact ⟨rfl, rfl, rfl⟩

theorem enrichmentStep_cases (traced : (result.kind = .traceroute &&
      !isTracerouteUnavailable result) = true) :
    ((enrichmentStep result draft).coverage.limitations = [] ↔
        draft.coverage.limitations = [] ∧
          (enrichmentOf draft.facts.index result draft.coverage.enrichment).isSome = true) ∧
      (enrichmentStep result draft).coverage.enrichment =
        (enrichmentOf draft.facts.index result draft.coverage.enrichment).getD
          draft.coverage.enrichment ∧
      (enrichmentStep result draft).facts = draft.facts := by
  unfold enrichmentStep enrichmentOf
  rw [if_pos traced]
  cases result.detail? "geoip_enrichment" with
  | none => simp
  | some value =>
      dsimp only
      cases (normalizedEnrichmentCoverage value
          (integerDetail result "geoip_provider_failures")).bind fun enrichment =>
            if draft.facts.index < maxTargets then
              mergeEnrichmentCoverage draft.coverage.enrichment enrichment
            else none with
      | none => simp [Draft.limit]
      | some enrichment => simp [Draft.available]

end Traceroute

/-! ## Quiet reports -/

section Reports

variable {library : Library} {now : Time} {result : Result} {index : Nat} {coverage : Coverage}

/-- Valid details are what the checks and the evidence steps ask for. -/
theorem validDetails_iff : (isServiceGreetingKind result.kind = false ∧
      validDetails library result = true) ↔
    Checked library result ∧ (result.kind = .traceroute → validTraceDetails library result = true) := by
  constructor
  · rintro ⟨verified, valid⟩
    rw [validDetails, Bool.and_eq_true] at valid
    obtain ⟨present, valid⟩ := valid
    cases kind : result.kind with
    | dns | tcp | http | https | traceroute | other =>
        rw [kind] at valid
        constructor
        · constructor <;> simp_all [isTLSKind, supportedKind]
        · simp_all
    | ssh | smtp | submission | smtps | imap | imaps | pop3 | pop3s =>
        rw [kind] at verified
        cases verified
  · rintro ⟨checked, traced⟩
    refine ⟨checked.verified, ?_⟩
    have verified := checked.verified
    have supported := checked.supported
    have dns := checked.dns
    have endpoint := checked.endpoint
    have http := checked.http
    have tls := checked.tls
    rw [validDetails, checked.present, Bool.true_and]
    cases kind : result.kind with
    | dns => exact dns kind
    | tcp => exact endpoint kind
    | http => exact http (.inl kind)
    | https =>
        rw [kind] at tls
        exact Bool.and_eq_true_iff.mpr ⟨http (.inr kind), tls rfl⟩
    | traceroute => exact traced kind
    | other name =>
        rw [kind] at supported
        cases supported
    | ssh | smtp | submission | smtps | imap | imaps | pop3 | pop3s =>
        rw [kind] at verified
        cases verified

theorem enrichment_checkSteps {draft : Draft} :
    (checkSteps library now result draft).coverage.enrichment = draft.coverage.enrichment :=
  (@grows_checkSteps (fun _ => True) library now result draft fun _ _ => trivial).enrichment_eq

theorem enrichment_countersStep {draft : Draft} :
    (countersStep library result draft).coverage.enrichment = draft.coverage.enrichment :=
  (@grows_countersStep (fun _ => True) library result draft fun _ _ => trivial).enrichment_eq

/-- One more result adds its enrichment where it can. -/
theorem enrichment_normalizeResult :
    (normalizeResult library now index result coverage).coverage.enrichment =
      (enrichmentOf index result coverage.enrichment).getD coverage.enrichment := by
  unfold normalizeResult tracerouteStep Draft.when
  set checked := checkSteps library now result ⟨coverage, initialFacts index result⟩ with checked_eq
  have enrichment_eq : checked.coverage.enrichment = coverage.enrichment := enrichment_checkSteps
  have index_eq : checked.facts.index = index := checks_checkSteps.index_eq
  by_cases traced : (result.kind = .traceroute && !isTracerouteUnavailable result) = true
  · obtain ⟨-, provided, facts_eq⟩ := @providerFailureStep_keeps result checked
    obtain ⟨-, enriched, -⟩ := @enrichmentStep_cases result (providerFailureStep result checked) traced
    rw [if_pos traced, enrichment_countersStep, enriched, provided, facts_eq, enrichment_eq, index_eq]
  · rw [if_neg traced, enrichment_eq, enrichmentOf, if_neg traced]
    rfl

/-- A result is normalized without a limitation and answered with silence
exactly when it is quiet and its enrichment can be added. -/
theorem quiet_normalizeResult :
    ((normalizeResult library now index result coverage).coverage.limitations = [] ∧
        (answer library now (normalizeResult library now index result coverage).facts).Silent) ↔
      coverage.limitations = [] ∧ Quiet library now result ∧
        (enrichmentOf index result coverage.enrichment).isSome = true := by
  have noted := @noted_normalizeResult library now index result coverage
  rw [silent_answer_iff noted.coherent]
  have asked_eq := noted.asked_eq
  simp only [Facts.asked, initialFacts, Prod.mk.injEq] at asked_eq
  obtain ⟨-, kind_eq, -, status_eq, statusValid_eq, errorCode_eq⟩ := asked_eq
  rw [kind_eq, status_eq, statusValid_eq, errorCode_eq]
  by_cases usable : result.status = .healthy ∧ result.errorCode = []
  · obtain ⟨healthy, noError⟩ := usable
    have detailsValid : (normalizeResult library now index result coverage).coverage.limitations =
        [] → (normalizeResult library now index result coverage).facts.detailsValid = true := by
      intro unlimited
      rcases noted.details with valid | invalid | limited
      · exact valid
      · cases invalid
      · rw [Draft.Limited, unlimited] at limited
        cases limited
    have statusValid : validStatus result.status = true := by simp [validStatus, healthy]
    set start : Draft := ⟨coverage, initialFacts index result⟩ with start_eq
    have checks := @unlimited_checkSteps library now result start healthy noError rfl
    by_cases kind : result.kind = .traceroute
    · have available : isTracerouteUnavailable result = false := by
        simp [isTracerouteUnavailable, healthy]
      have traced : (result.kind = .traceroute && !isTracerouteUnavailable result) = true := by
        simp [kind, available]
      have normalized : normalizeResult library now index result coverage =
          countersStep library result (enrichmentStep result (providerFailureStep result
            (checkSteps library now result start))) := by
        rw [normalizeResult, tracerouteStep, Draft.when, if_pos traced]
      obtain ⟨provided, enrichment_eq, facts_eq⟩ :=
        @providerFailureStep_keeps result (checkSteps library now result start)
      obtain ⟨enriched, -, same⟩ := @enrichmentStep_cases result
        (providerFailureStep result (checkSteps library now result start)) traced
      have traced_eq := (@checks_checkSteps library now result start).traced_eq
      simp only [Facts.traced, Prod.mk.injEq] at traced_eq
      have fresh : (enrichmentStep result (providerFailureStep result
          (checkSteps library now result start))).facts.tracePathUnstable = false := by
        rw [same, facts_eq]
        exact traced_eq.2.2.2
      obtain ⟨evidence, unstable⟩ := @quiet_countersStep library result _ healthy noError kind fresh
      have index_eq : (checkSteps library now result start).facts.index = index :=
        checks_checkSteps.index_eq
      have enrichmentStart : (checkSteps library now result start).coverage.enrichment =
          coverage.enrichment := enrichment_checkSteps
      rw [← normalized, enriched, provided, enrichment_eq, facts_eq, enrichmentStart, index_eq, checks]
        at evidence
      rw [← normalized] at unstable
      have certificates : certificateRules library now
          (normalizeResult library now index result coverage).facts = [] := by
        rw [certificateRules_eq_nil_iff, normalized]
        left
        rw [hasCertificate_countersStep, same, facts_eq, hasCertificate_checkSteps (by rw [kind]; rfl)]
        rfl
      have notDue : certificateDue library now result = false := by
        simp [certificateDue, kind, isTLSKind]
      constructor
      · rintro ⟨unlimited, -, -, -, -, -, stable⟩
        obtain ⟨⟨⟨clean, checked⟩, merged⟩, valid⟩ := evidence.mp unlimited
        have validity := validDetails_iff.mpr ⟨checked, fun _ => valid⟩
        refine ⟨clean, ⟨healthy, noError, validity.1, validity.2, notDue, ?_⟩, merged⟩
        rw [← unstable valid]
        simpa [kind] using stable
      · rintro ⟨clean, quiet, merged⟩
        obtain ⟨checked, valid⟩ := validDetails_iff.mp ⟨quiet.verified, quiet.valid⟩
        have unlimited := evidence.mpr ⟨⟨⟨clean, checked⟩, merged⟩, valid kind⟩
        refine ⟨unlimited, statusValid, detailsValid unlimited, healthy, noError, certificates, ?_⟩
        rw [unstable (valid kind), quiet.stable, Bool.and_false]
    · have untraced : (result.kind = .traceroute && !isTracerouteUnavailable result) = false := by
        simp [kind]
      have normalized : normalizeResult library now index result coverage =
          checkSteps library now result start := by
        rw [normalizeResult, tracerouteStep, Draft.when, untraced]
        rfl
      have merged : (enrichmentOf index result coverage.enrichment).isSome = true := by
        rw [enrichmentOf, untraced]
        rfl
      have stable : pathsUnstable library result = false := by simp [pathsUnstable, kind]
      constructor
      · rintro ⟨unlimited, -, -, -, -, certificates, -⟩
        rw [normalized] at unlimited certificates
        obtain ⟨clean, checked⟩ := checks.mp unlimited
        have validity := validDetails_iff.mpr ⟨checked, fun traced => absurd traced kind⟩
        have notDue := (certificateRules_checkSteps healthy noError checked rfl rfl).mp certificates
        exact ⟨clean, ⟨healthy, noError, validity.1, validity.2, notDue, stable⟩, merged⟩
      · rintro ⟨clean, quiet, -⟩
        obtain ⟨checked, -⟩ := validDetails_iff.mp ⟨quiet.verified, quiet.valid⟩
        have unlimited := checks.mpr ⟨clean, checked⟩
        have certificates := (@certificateRules_checkSteps library now result start healthy noError
          checked rfl rfl).mpr quiet.notDue
        rw [← normalized] at unlimited certificates
        refine ⟨unlimited, statusValid, detailsValid unlimited, healthy, noError, certificates, ?_⟩
        simp [kind]
  · constructor
    · rintro ⟨_, _, _, healthy, noError, _⟩
      exact absurd ⟨healthy, noError⟩ usable
    · rintro ⟨_, quiet, _⟩
      exact absurd ⟨quiet.healthy, quiet.noError⟩ usable

end Reports

end CheckNetwork.Analysis
