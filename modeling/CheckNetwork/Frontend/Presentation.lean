import CheckNetwork.Analysis.Analyze

/-!
# The presentation contract of the browser

The registries of `app.js` that hold the wording of a report, and
`validatePresentationContract`, which refuses an analysis that names anything
outside of them.  The wording itself is left out: only the names decide.
-/

namespace CheckNetwork.Frontend

open CheckNetwork.Diagnostic
open CheckNetwork.Analysis

/-! ## Registries -/

/-- A finding that the browser can present, with the signals of its evidence. -/
structure FindingPresentation where
  key : String
  signals : List String

def findingPresentation (code : String) (signals : List String) : FindingPresentation :=
  ⟨"finding." ++ code, signals⟩

/-- `FINDING_PRESENTATION_REGISTRY`. -/
def findingPresentationRegistry : List FindingPresentation :=
  [findingPresentation "checker_capacity_unavailable" ["error_code"],
    findingPresentation "checker_panic" ["error_code"],
    findingPresentation "dns_resolution_failed" ["error_code"],
    findingPresentation "endpoint_connect_failed" ["error_code"],
    findingPresentation "execution_cancelled" ["error_code", "traceroute.attempts_cancelled"],
    findingPresentation "execution_timeout" ["error_code", "traceroute.attempts_timed_out"],
    findingPresentation "http_unexpected_status" ["http.status_code", "error_code"],
    findingPresentation "invalid_target" ["error_code"],
    findingPresentation "service_greeting_unverified" ["error_code"],
    findingPresentation "target_policy_blocked" ["error_code"],
    findingPresentation "tls_certificate_expired" ["error_code", "tls.certificate_expires_at"],
    findingPresentation "tls_certificate_expiring" ["tls.certificate_expires_at"],
    findingPresentation "tls_certificate_not_yet_valid" ["error_code"],
    findingPresentation "tls_downgrade" ["error_code"],
    findingPresentation "tls_handshake_failed" ["error_code"],
    findingPresentation "tls_hostname_mismatch" ["error_code"],
    findingPresentation "tls_untrusted" ["error_code"],
    findingPresentation "traceroute_execution_failed"
      ["traceroute.attempts_execution_failed", "traceroute.execution_failures"],
    findingPresentation "traceroute_partial_reachability" ["traceroute.attempts_reached"],
    findingPresentation "traceroute_path_degraded" ["traceroute.path_status"],
    findingPresentation "traceroute_path_unstable" ["traceroute.path_signatures"],
    findingPresentation "traceroute_unavailable" ["error_code"],
    findingPresentation "traceroute_unreachable" ["traceroute.attempts_reached"]]

/-- `EVIDENCE_SIGNAL_PRESENTATION_REGISTRY`. -/
def evidenceSignalPresentationRegistry : List String :=
  ["error_code", "http.status_code", "tls.certificate_expires_at", "traceroute.attempts_cancelled",
    "traceroute.attempts_execution_failed", "traceroute.attempts_reached",
    "traceroute.attempts_timed_out", "traceroute.execution_failures", "traceroute.path_signatures",
    "traceroute.path_status"]

/-- `COVERAGE_SIGNAL_PRESENTATION_REGISTRY`. -/
def coverageSignalPresentationRegistry : List String :=
  ["certificate_expires_at", "details", "dns_answers", "endpoint", "error_code", "geoip",
    "geoip_enrichment", "http_status", "kind", "response_body", "result",
    "service_verification_details", "service_verification_scope", "status", "tls",
    "tls_certificate", "tls_failure_details", "trace_attempts", "trace_error", "trace_paths",
    "trace_topology"]

/-- `COVERAGE_CODE_PRESENTATION_REGISTRY`. -/
def coverageCodePresentationRegistry : List String :=
  ["missing_details", "malformed_details", "unsupported_details"]

/-- The names that a registry inherits as an object. -/
def objectPrototype : List String :=
  ["constructor", "__defineGetter__", "__defineSetter__", "hasOwnProperty", "__lookupGetter__",
    "__lookupSetter__", "isPrototypeOf", "propertyIsEnumerable", "toString", "valueOf",
    "__proto__", "toLocaleString"]

/-- Whether looking a name up in a registry finds anything. -/
def registered (registry : List String) (name : String) : Bool :=
  registry.contains name || objectPrototype.contains name

/-- No inherited name starts like the keys of findings. -/
def presentationOf (code : String) : Option FindingPresentation :=
  findingPresentationRegistry.find? fun presentation => presentation.key = "finding." ++ code

/-! ## Coverage paths -/

/-- `results\[(\d|1\d)\]` after its opening bracket: the index, and what
follows. -/
def pathIndex (text : List Char) : Option (Nat × List Char) :=
  match text with
  | digit :: ']' :: rest =>
      if digit.isDigit then some (digit.toNat - '0'.toNat, rest) else none
  | '1' :: digit :: ']' :: rest =>
      if digit.isDigit then some (10 + (digit.toNat - '0'.toNat), rest) else none
  | _ => none

/-- `[a-z_]+`, to the end of the text. -/
def isSignalName (text : List Char) : Bool :=
  !text.isEmpty && text.all fun c => ('a' ≤ c && c ≤ 'z') || c = '_'

/-- `(?:\.(details)(?:\.([a-z_]+))?|\.([a-z_]+))?$`: the signal that the path
ends with. -/
def pathSignal (rest : List Char) : Option String :=
  match rest with
  | [] => some "result"
  | '.' :: name =>
      match "details.".toList.isPrefixOf name with
      | true =>
          let inner := name.drop "details.".length
          if isSignalName inner then some (String.ofList inner) else none
      | false => if isSignalName name then some (String.ofList name) else none
  | _ => none

/-- `coveragePath`. -/
def coveragePath (value : String) : Option (Nat × String) :=
  if "results[".toList.isPrefixOf value.toList then do
    let (index, rest) ← pathIndex (value.toList.drop "results[".length)
    let signal ← pathSignal rest
    let signal := if signal = "verification_scope" then "service_verification_scope" else signal
    if registered coverageSignalPresentationRegistry signal then some (index, signal) else none
  else none

/-! ## The contract -/

/-- Whether a finding and its evidence can be presented. -/
def presentableFinding (evidence : List Evidence) (finding : Finding) : Bool :=
  match presentationOf finding.code with
  | none => false
  | some presentation =>
      finding.evidenceIDs.all fun id =>
        match evidence.find? fun item => item.id = id with
        | none => false
        | some item =>
            registered evidenceSignalPresentationRegistry item.signal &&
              presentation.signals.contains item.signal

def presentableIssue (issue : CoverageIssue) : Bool :=
  registered coverageSignalPresentationRegistry issue.signal &&
    registered coverageCodePresentationRegistry (issueCodeText issue.code)

/-- `validatePresentationContract`: whether it returns without a presentation
failure. -/
def validatePresentationContract (analysis : Option Analysis) : Bool :=
  match analysis with
  | none => true
  | some analysis =>
      analysis.findings.all (presentableFinding analysis.evidence) &&
        (analysis.evidence.all fun item =>
          registered evidenceSignalPresentationRegistry item.signal) &&
        ((analysis.coverage.available ++ analysis.coverage.missing).all fun value =>
          (coveragePath value).isSome) &&
        (analysis.coverage.providerFailures ++ analysis.coverage.limitations).all presentableIssue

/-- Everything that an analysis names is in the registries. -/
structure Presentable (analysis : Analysis) : Prop where
  findings : ∀ finding ∈ analysis.findings, ∃ presentation,
    presentationOf finding.code = some presentation ∧ ∀ item ∈ analysis.evidence,
      item.id ∈ finding.evidenceIDs → presentation.signals.contains item.signal = true
  evidence : ∀ item ∈ analysis.evidence,
    registered evidenceSignalPresentationRegistry item.signal = true
  paths : ∀ value ∈ analysis.coverage.available ++ analysis.coverage.missing,
    (coveragePath value).isSome = true
  issues : ∀ issue ∈ analysis.coverage.providerFailures ++ analysis.coverage.limitations,
    presentableIssue issue = true

end CheckNetwork.Frontend
