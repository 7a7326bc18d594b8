import CheckNetwork.Analysis.Growth

/-!
# What the analysis answers

Explaining the facts of a result comes down to an answer that depends on the
facts alone: rules to report, whether something stays unexplained, and a
limitation.  The builder only carries the answer out.
-/

namespace CheckNetwork.Analysis

open Go

/-- What the analysis says about the facts of a result. -/
structure Answer where
  rules : List Rule
  unexplained : Bool
  issue : Option (String × String)

namespace Answer

def silence : Answer := ⟨[], false, none⟩

def report (rule : Rule) : Answer := ⟨[rule], false, none⟩

/-- An answer without any rule. -/
def unexplainedWith (issue : Option (String × String)) : Answer := ⟨[], true, issue⟩

end Answer

/-! ## Routes -/

def traceFailureRules (facts : Facts) : List Rule :=
  if 0 < facts.traceExecutionFail then
    if facts.traceTimedOut = facts.traceExecutionFail then [traceTimedOut facts]
    else if facts.traceCancelled = facts.traceExecutionFail then [traceCancelled facts]
    else if facts.genericFailed = facts.traceExecutionFail then [traceCommandFailed facts]
    else [traceMixedFailures facts]
  else []

def traceReachabilityRules (facts : Facts) : List Rule :=
  if facts.traceReached = 0 ∧ 0 < facts.traceUnreached then [traceUnreachable facts]
  else if 0 < facts.traceReached ∧ 0 < facts.traceUnreached then [tracePartialReachability facts]
  else []

def tracePathRules (facts : Facts) : List Rule :=
  if 0 < facts.tracePathCompleted then
    if facts.tracePathUnstable ∧ 2 ≤ facts.tracePathReached then [tracePathUnstable facts]
    else if facts.tracePathDegraded then [tracePathDegraded facts]
    else []
  else []

def traceRules (facts : Facts) : List Rule :=
  traceFailureRules facts ++ traceReachabilityRules facts ++ tracePathRules facts

/-- Counters without any sign of a problem. -/
def traceUneventful (facts : Facts) : Bool :=
  facts.traceExecutionFail = 0 && facts.traceUnreached = 0 && !facts.tracePathUnstable &&
    !facts.tracePathDegraded

def traceAnswer (facts : Facts) : Answer :=
  if !facts.hasTraceCounters then .unexplainedWith none
  else ⟨traceRules facts, traceUneventful facts, none⟩

/-! ## Results -/

def outcomeAnswer (facts : Facts) : Answer :=
  if facts.kind = .traceroute then traceAnswer facts
  else if (facts.kind = .http ∨ facts.kind = .https) ∧ facts.errorCode = "unexpected_status" then
    if facts.hasHTTPStatus then .report (httpUnexpectedStatus facts)
    else .report (httpUnexpectedStatusUnobserved facts)
  else if facts.kind = .dns then .report (dnsResolutionFailed facts)
  else if isEndpointKind facts.kind then .report (endpointConnectFailed facts)
  else .unexplainedWith (some ("result", "no analysis rule supports this non-healthy result"))

def codeAnswer (facts : Facts) : Answer :=
  let code := facts.errorCode
  if code = "checker_panic" then .report (checkerPanic facts)
  else if code = "checker_capacity_unavailable" then .report (checkerCapacityUnavailable facts)
  else if code = "traceroute_unavailable" then .report (tracerouteUnavailable facts)
  else if code = "network_policy_blocked" then .report (targetPolicyBlocked facts)
  else if code = "invalid_url" ∨ code = "invalid_address" then .report (invalidTarget facts)
  else if code = "timeout" ∧ facts.kind ≠ .traceroute then .report (executionTimeout facts)
  else if code = "cancelled" ∧ facts.kind ≠ .traceroute then .report (executionCancelled facts)
  else if code = "response_read_failed" then
    .unexplainedWith (some ("response_body",
      "the bounded HTTP response sample could not be completed"))
  else if code = "service_greeting_unverified" then .report (serviceGreetingUnverified facts)
  else outcomeAnswer facts

def certificateRules (library : Library) (now : Time) (facts : Facts) : List Rule :=
  if facts.hasCertificate && !facts.certificateExpires.after now then
    [certificateRule library facts "tls_certificate_expired" "critical"
      "TLS certificate is expired"
      "The observed peer certificate expiry is at or before the analysis time."]
  else if facts.hasCertificate && !facts.certificateExpires.after
      { now with nanoseconds := now.nanoseconds + Builder.renewalWindow } then
    [certificateRule library facts "tls_certificate_expiring" "warning"
      "TLS certificate is near expiry"
      "The observed peer certificate expires within 30 days of the analysis time."]
  else []

/-- The answer to facts with a valid status and a valid error code that is no
failure of TLS. -/
def observationAnswer (facts : Facts) : Answer :=
  if facts.status = .healthy then
    if facts.kind = .traceroute && facts.tracePathUnstable then traceAnswer facts else .silence
  else codeAnswer facts

/-- The answer to facts with a valid status and usable details. -/
def validAnswer (library : Library) (now : Time) (facts : Facts) : Answer :=
  if !validErrorCode facts then
    .unexplainedWith (some ("error_code",
      "error code is unknown or contradicts the result status"))
  else if facts.errorCode = "tls_downgrade" then .report (tlsDowngrade facts)
  else
    match tlsFailures.find? fun failure => facts.errorCode = GoString.ofString failure.errorCode with
    | some failure => .report (tlsFailureRule failure facts)
    | none =>
        { observationAnswer facts with
          rules := certificateRules library now facts ++ (observationAnswer facts).rules }

def answer (library : Library) (now : Time) (facts : Facts) : Answer :=
  if !facts.statusValid then .unexplainedWith none
  else if !facts.detailsValid && Builder.detailsRequired facts then .unexplainedWith none
  else
    { validAnswer library now facts with
      unexplained := !facts.detailsValid || (validAnswer library now facts).unexplained }

/-! ## The builder -/

namespace Builder

variable (builder : Builder) (facts : Facts)

def report (rules : List Rule) : Builder :=
  rules.foldl (fun builder rule => builder.add facts rule) builder

/-- Carry an answer out. -/
def give (answer : Answer) : Builder :=
  let reported := builder.report facts answer.rules
  let marked := if answer.unexplained then reported.unexplained else reported
  match answer.issue with
  | some (signal, reason) => marked.limit facts .unsupportedDetails signal reason
  | none => marked

variable {builder facts}

@[simp]
theorem report_nil : builder.report facts [] = builder := rfl

@[simp]
theorem report_cons (rule : Rule) (rules : List Rule) :
    builder.report facts (rule :: rules) = (builder.add facts rule).report facts rules := rfl

theorem report_append (first second : List Rule) :
    builder.report facts (first ++ second) = (builder.report facts first).report facts second :=
  List.foldl_append

@[simp]
theorem unexplained_unexplained : builder.unexplained.unexplained = builder.unexplained := rfl

theorem add_unexplained (rule : Rule) :
    builder.unexplained.add facts rule = (builder.add facts rule).unexplained := by
  unfold add withAction unexplained
  dsimp only
  cases builder.actionByKey (GoString.ofString rule.code ++ separator ++ facts.address) with
  | none =>
      dsimp only
      split <;> rfl
  | some index =>
      dsimp only
      split <;> rfl

theorem report_unexplained (rules : List Rule) :
    builder.unexplained.report facts rules = (builder.report facts rules).unexplained := by
  induction rules generalizing builder with
  | nil => rfl
  | cons rule rules ih => rw [report_cons, add_unexplained, ih, report_cons]

@[simp]
theorem give_silence : builder.give facts .silence = builder := rfl

@[simp]
theorem give_report (rule : Rule) : builder.give facts (.report rule) = builder.add facts rule :=
  rfl

/-- What is unexplained before an answer stays so. -/
theorem give_of_unexplained (given : Answer) :
    builder.unexplained.give facts given =
      builder.give facts { given with unexplained := true } := by
  unfold give
  dsimp only
  rw [report_unexplained, if_pos rfl]
  cases given.unexplained <;> rfl

theorem give_after_rules (rules : List Rule) (given : Answer) :
    (builder.report facts rules).give facts given =
      builder.give facts { given with rules := rules ++ given.rules } := by
  unfold give
  dsimp only
  rw [report_append]

theorem traceFailures_eq : builder.traceFailures facts =
    builder.report facts (traceFailureRules facts) := by
  unfold traceFailures traceFailureRules
  split_ifs <;> rfl

theorem traceReachability_eq : builder.traceReachability facts =
    builder.report facts (traceReachabilityRules facts) := by
  unfold traceReachability traceReachabilityRules
  split_ifs <;> rfl

theorem tracePath_eq : builder.tracePath facts = builder.report facts (tracePathRules facts) := by
  unfold tracePath tracePathRules
  split_ifs <;> rfl

theorem analyzeTrace_eq : builder.analyzeTrace facts = builder.give facts (traceAnswer facts) := by
  unfold analyzeTrace traceAnswer
  split
  · rfl
  · dsimp only
    rw [traceFailures_eq, traceReachability_eq, tracePath_eq, ← report_append, ← report_append]
    unfold give traceRules traceUneventful
    simp [and_assoc]

theorem analyzeOutcome_eq :
    builder.analyzeOutcome facts = builder.give facts (outcomeAnswer facts) := by
  unfold analyzeOutcome outcomeAnswer
  split_ifs
  · exact analyzeTrace_eq
  all_goals rfl

theorem analyzeCode_eq : builder.analyzeCode facts = builder.give facts (codeAnswer facts) := by
  unfold analyzeCode codeAnswer
  dsimp only
  split_ifs
  all_goals first
    | exact analyzeOutcome_eq
    | rfl

theorem addCertificate_eq (library : Library) (now : Time) :
    addCertificate library now facts builder =
      builder.report facts (certificateRules library now facts) := by
  unfold addCertificate certificateRules
  split_ifs <;> rfl

/-- Explaining facts is giving the answer to them. -/
theorem analyzeFact_eq (library : Library) (now : Time) :
    builder.analyzeFact library now facts = builder.give facts (answer library now facts) := by
  have valid : ∀ builder : Builder,
      (if !validErrorCode facts then
        builder.unexplained.limit facts .unsupportedDetails "error_code"
          "error code is unknown or contradicts the result status"
      else if facts.errorCode = "tls_downgrade" then builder.add facts (tlsDowngrade facts)
      else
        match tlsFailures.find? fun failure =>
            facts.errorCode = GoString.ofString failure.errorCode with
        | some failure => builder.add facts (tlsFailureRule failure facts)
        | none =>
            let builder := addCertificate library now facts builder
            if facts.status = .healthy then
              if facts.kind = .traceroute && facts.tracePathUnstable then
                builder.analyzeTrace facts
              else builder
            else builder.analyzeCode facts) =
        builder.give facts (validAnswer library now facts) := by
    intro builder
    unfold validAnswer
    split
    · rfl
    · split
      · rfl
      · cases tlsFailures.find? fun failure =>
            facts.errorCode = GoString.ofString failure.errorCode with
        | some failure => rfl
        | none =>
            dsimp only
            rw [← give_after_rules, ← addCertificate_eq]
            unfold observationAnswer
            split
            · split
              · exact analyzeTrace_eq
              · rfl
            · exact analyzeCode_eq
  unfold analyzeFact answer
  split
  · rfl
  · split
    · rfl
    · refine (valid _).trans ?_
      cases facts.detailsValid with
      | true => rfl
      | false => exact give_of_unexplained _

end Builder

end CheckNetwork.Analysis
