import CheckNetwork.Analysis.Findings
import Mathlib.Data.List.Destutter

/-!
# The analysis of a report

`Analyze`: the facts of every result are explained by findings with their
evidence and actions, and the verdict weighs what was found against what could
not be explained.
-/

namespace CheckNetwork.Analysis

open Diagnostic Go

/-- `analysisBuilder`. -/
structure Builder where
  analysis : Analysis
  findingByKey : GoString → Option Nat
  actionByKey : GoString → Option Nat
  hasUnexplained : Bool

/-- `fmt.Sprintf("%03d", number)` after a letter and a dash. -/
def numberedID (letter : String) (number : Nat) : String :=
  letter ++ "-" ++ F64.zeros (3 - (toString number).length) ++ toString number

def separator : GoString := GoString.ofString "\x00"

namespace Builder

variable (builder : Builder) (facts : Facts)

def unexplained : Builder := { builder with hasUnexplained := true }

def limit (code : CoverageIssueCode) (signal reason : String) : Builder :=
  { builder with analysis :=
      { builder.analysis with coverage :=
          { builder.analysis.coverage with limitations :=
              builder.analysis.coverage.limitations ++
                [⟨code, facts.index, facts.kind, signal, reason⟩] } } }

/-- The action of a rule, which rules with the same key share. -/
def withAction (rule : Rule) : Builder × Nat :=
  let actionKey := GoString.ofString rule.code ++ separator ++ facts.address
  match builder.actionByKey actionKey with
  | some index => (builder, index)
  | none =>
      let index := builder.analysis.actions.length
      ({ builder with
          actionByKey := Function.update builder.actionByKey actionKey (some index)
          analysis :=
            { builder.analysis with actions := builder.analysis.actions ++
                [⟨numberedID "a" (index + 1), rule.actionTitle, rule.step, rule.expectedResult,
                  rule.escalation⟩] } }, index)

def add (rule : Rule) : Builder :=
  let evidence : Evidence :=
    { id := numberedID "e" (builder.analysis.evidence.length + 1)
      resultIndex := facts.index
      kind := facts.kind
      attempt := 0
      address := facts.address
      signal := rule.signal
      observed := rule.observed
      expected := rule.expected
      provenance := rule.provenance }
  let builder := { builder with analysis :=
      { builder.analysis with evidence := builder.analysis.evidence ++ [evidence] } }
  let key := GoString.ofString rule.code ++ separator ++ GoString.ofString facts.kind.text ++
    separator ++ facts.address
  let (builder, actionIndex) := builder.withAction facts rule
  match builder.findingByKey key with
  | some index =>
      let extend := fun finding : Finding =>
        { finding with evidenceIDs := finding.evidenceIDs ++ [evidence.id] }
      { builder with analysis :=
          { builder.analysis with findings := builder.analysis.findings.modify index extend } }
  | none =>
      let index := builder.analysis.findings.length
      { builder with
        findingByKey := Function.update builder.findingByKey key (some index)
        analysis :=
          { builder.analysis with findings := builder.analysis.findings ++
              [{ id := numberedID "f" (index + 1)
                 code := rule.code
                 severity := rule.severity
                 category := rule.category
                 title := rule.title
                 summary := rule.summary
                 confidence := rule.confidence
                 evidenceIDs := [evidence.id]
                 actionIDs := (builder.analysis.actions[actionIndex]?.map Action.id).toList }] } }

def traceFailures : Builder :=
  if 0 < facts.traceExecutionFail then
    if facts.traceTimedOut = facts.traceExecutionFail then builder.add facts (traceTimedOut facts)
    else if facts.traceCancelled = facts.traceExecutionFail then
      builder.add facts (traceCancelled facts)
    else if facts.genericFailed = facts.traceExecutionFail then
      builder.add facts (traceCommandFailed facts)
    else builder.add facts (traceMixedFailures facts)
  else builder

def traceReachability : Builder :=
  if facts.traceReached = 0 ∧ 0 < facts.traceUnreached then
    builder.add facts (traceUnreachable facts)
  else if 0 < facts.traceReached ∧ 0 < facts.traceUnreached then
    builder.add facts (tracePartialReachability facts)
  else builder

def tracePath : Builder :=
  if 0 < facts.tracePathCompleted then
    if facts.tracePathUnstable ∧ 2 ≤ facts.tracePathReached then
      builder.add facts (tracePathUnstable facts)
    else if facts.tracePathDegraded then builder.add facts (tracePathDegraded facts)
    else builder
  else builder

def analyzeTrace : Builder :=
  if !facts.hasTraceCounters then builder.unexplained
  else
    let builder := ((builder.traceFailures facts).traceReachability facts).tracePath facts
    if facts.traceExecutionFail = 0 ∧ facts.traceUnreached = 0 ∧ !facts.tracePathUnstable ∧
        !facts.tracePathDegraded then builder.unexplained
    else builder

end Builder

/-! ## Codes -/

def traceDetailsRequired (errorCode : GoString) : Bool :=
  ["", "timeout", "cancelled", "destination_unreached", "traceroute_failed",
    "traceroute_execution_incomplete"].any fun code => errorCode = GoString.ofString code

def commonErrorCodes : List String :=
  ["network_policy_blocked", "invalid_url", "invalid_address", "timeout", "cancelled",
    "connection_failed", "response_read_failed", "checker_panic", "checker_capacity_unavailable"]

def validErrorCode (facts : Facts) : Bool :=
  let code := facts.errorCode
  if facts.status = .healthy then code = []
  else if code = [] then
    facts.kind = .traceroute && facts.status = .degraded && facts.hasTraceCounters
  else if commonErrorCodes.any fun common => code = GoString.ofString common then true
  else if code = "traceroute_unavailable" then facts.kind = .traceroute
  else if code = "service_greeting_unverified" then
    facts.status = .degraded && isServiceGreetingKind facts.kind
  else if code = "tls_downgrade" ∨ code = "unexpected_status" then
    facts.kind = .http || facts.kind = .https
  else if isTLSFailureErrorCode code then facts.status = .unreachable && isTLSKind facts.kind
  else if code = "destination_unreached" ∨ code = "traceroute_failed" ∨
      code = "traceroute_execution_incomplete" then facts.kind = .traceroute
  else false

/-! ## Facts -/

namespace Builder

variable (library : Library) (now : Time) (facts : Facts) (builder : Builder)

/-- Thirty days, in nanoseconds. -/
def renewalWindow : Int := 2592000000000000

def addCertificate : Builder :=
  if facts.hasCertificate && !facts.certificateExpires.after now then
    builder.add facts (certificateRule library facts "tls_certificate_expired" "critical"
      "TLS certificate is expired"
      "The observed peer certificate expiry is at or before the analysis time.")
  else if facts.hasCertificate && !facts.certificateExpires.after
      { now with nanoseconds := now.nanoseconds + renewalWindow } then
    builder.add facts (certificateRule library facts "tls_certificate_expiring" "warning"
      "TLS certificate is near expiry"
      "The observed peer certificate expires within 30 days of the analysis time.")
  else builder

/-- The rules for results without a code of their own. -/
def analyzeOutcome : Builder :=
  if facts.kind = .traceroute then builder.analyzeTrace facts
  else if (facts.kind = .http ∨ facts.kind = .https) ∧ facts.errorCode = "unexpected_status" then
    if facts.hasHTTPStatus then builder.add facts (httpUnexpectedStatus facts)
    else builder.add facts (httpUnexpectedStatusUnobserved facts)
  else if facts.kind = .dns then builder.add facts (dnsResolutionFailed facts)
  else if isEndpointKind facts.kind then builder.add facts (endpointConnectFailed facts)
  else builder.unexplained.limit facts .unsupportedDetails "result"
    "no analysis rule supports this non-healthy result"

/-- The switch on the error code. -/
def analyzeCode : Builder :=
  let code := facts.errorCode
  if code = "checker_panic" then builder.add facts (checkerPanic facts)
  else if code = "checker_capacity_unavailable" then
    builder.add facts (checkerCapacityUnavailable facts)
  else if code = "traceroute_unavailable" then builder.add facts (tracerouteUnavailable facts)
  else if code = "network_policy_blocked" then builder.add facts (targetPolicyBlocked facts)
  else if code = "invalid_url" ∨ code = "invalid_address" then
    builder.add facts (invalidTarget facts)
  else if code = "timeout" ∧ facts.kind ≠ .traceroute then
    builder.add facts (executionTimeout facts)
  else if code = "cancelled" ∧ facts.kind ≠ .traceroute then
    builder.add facts (executionCancelled facts)
  else if code = "response_read_failed" then
    builder.unexplained.limit facts .unsupportedDetails "response_body"
      "the bounded HTTP response sample could not be completed"
  else if code = "service_greeting_unverified" then
    builder.add facts (serviceGreetingUnverified facts)
  else builder.analyzeOutcome facts

/-- Whether invalid details leave nothing to explain. -/
def detailsRequired : Bool :=
  isTLSFailureErrorCode facts.errorCode ||
    (isServiceGreetingKind facts.kind &&
      (facts.status = .healthy || facts.errorCode = "service_greeting_unverified")) ||
    (facts.kind = .traceroute && traceDetailsRequired facts.errorCode)

def analyzeFact : Builder :=
  if !facts.statusValid then builder.unexplained
  else if !facts.detailsValid && detailsRequired facts then builder.unexplained
  else
    let builder := if facts.detailsValid then builder else builder.unexplained
    if !validErrorCode facts then
      builder.unexplained.limit facts .unsupportedDetails "error_code"
        "error code is unknown or contradicts the result status"
    else if facts.errorCode = "tls_downgrade" then builder.add facts (tlsDowngrade facts)
    else
      match tlsFailures.find? fun failure => facts.errorCode = GoString.ofString failure.errorCode with
      | some failure => builder.add facts (tlsFailureRule failure facts)
      | none =>
          let builder := addCertificate library now facts builder
          if facts.status = .healthy then
            if facts.kind = .traceroute && facts.tracePathUnstable then builder.analyzeTrace facts
            else builder
          else builder.analyzeCode facts

end Builder

/-! ## The report -/

def onlyInconclusiveFindings (findings : List Finding) : Bool :=
  findings ≠ [] && findings.all fun finding =>
    ["execution_cancelled", "checker_capacity_unavailable", "traceroute_unavailable"].contains
      finding.code

def verdictOf (resultCount : Nat) (builder : Builder) : Verdict :=
  let findings := builder.analysis.findings
  if resultCount = 0 ∨ findings = [] ∧
      (builder.hasUnexplained ∨ builder.analysis.coverage.limitations ≠ []) then .inconclusive
  else if findings ≠ [] ∧ !onlyInconclusiveFindings findings then .attention
  else if findings ≠ [] then .inconclusive
  else builder.analysis.verdict

def severityRank (severity : String) : Nat :=
  if severity = "critical" then 0 else if severity = "warning" then 1 else 2

/-- The family of a finding with traceroute evidence. -/
def tracerouteFindingFamily (evidence : List Evidence) (finding : Finding) : Option Nat :=
  let traced := finding.evidenceIDs.any fun id =>
    evidence.any fun item => item.id = id && item.kind = .traceroute
  if !traced then none
  else if ["execution_timeout", "execution_cancelled", "traceroute_execution_failed"].contains
      finding.code then some 0
  else if ["traceroute_unreachable", "traceroute_partial_reachability"].contains finding.code then
    some 1
  else if ["traceroute_path_degraded", "traceroute_path_unstable"].contains finding.code then some 2
  else none

def findingBefore (evidence : List Evidence) (left right : Finding) : Bool :=
  let leftFamily := tracerouteFindingFamily evidence left
  let rightFamily := tracerouteFindingFamily evidence right
  if leftFamily.isSome ≠ rightFamily.isSome then leftFamily.isSome
  else if leftFamily ≠ rightFamily then leftFamily.getD 0 < rightFamily.getD 0
  else if severityRank left.severity ≠ severityRank right.severity then
    severityRank left.severity < severityRank right.severity
  else if left.code ≠ right.code then left.code < right.code
  else left.id < right.id

def issueCodeText : CoverageIssueCode → String
  | .missingDetails => "missing_details"
  | .malformedDetails => "malformed_details"
  | .unsupportedDetails => "unsupported_details"

def issueBefore (left right : CoverageIssue) : Bool :=
  if left.resultIndex ≠ right.resultIndex then left.resultIndex < right.resultIndex
  else if left.code ≠ right.code then issueCodeText left.code < issueCodeText right.code
  else left.signal < right.signal

def sortCoverageIssues (issues : List CoverageIssue) : List CoverageIssue :=
  issues.insertionSort fun left right => !issueBefore right left

def sortedUnique (values : List String) : List String :=
  (values.insertionSort (· ≤ ·)).destutter (· ≠ ·)

def finalize (analysis : Analysis) : Analysis :=
  { analysis with
    coverage :=
      { analysis.coverage with
        available := sortedUnique analysis.coverage.available
        missing := sortedUnique analysis.coverage.missing
        limitations := sortCoverageIssues analysis.coverage.limitations
        providerFailures := sortCoverageIssues analysis.coverage.providerFailures }
    findings := analysis.findings.insertionSort fun left right =>
      !findingBefore analysis.evidence right left }

def emptyCoverage : Coverage where
  available := []
  missing := []
  providerFailures := []
  limitations := []
  enrichment := []

def analyze (library : Library) (results : List Result) (now : Time) : Analysis :=
  let (coverage, facts) := normalizeResults library now.utc results emptyCoverage
  let initial : Builder :=
    { analysis := ⟨.healthy, [], [], [], coverage⟩
      findingByKey := fun _ => none
      actionByKey := fun _ => none
      hasUnexplained := false }
  let builder := facts.foldl (fun builder fact => builder.analyzeFact library now.utc fact) initial
  finalize { builder.analysis with verdict := verdictOf results.length builder }

end CheckNetwork.Analysis
