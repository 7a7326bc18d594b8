import CheckNetwork.Analysis.Details

/-!
# Normalized facts of a result

`normalizeResults`: every result becomes a record of facts, and what is
available, missing or malformed in its details goes to the coverage.
-/

namespace CheckNetwork.Analysis

open Diagnostic Go

/-- `normalizedResultFacts`. -/
structure Facts where
  index : Nat
  kind : Kind
  address : GoString
  status : Status
  statusValid : Bool
  detailsValid : Bool
  errorCode : GoString
  httpStatus : Int
  httpExpected : Int
  hasHTTPStatus : Bool
  certificateExpires : Time
  hasCertificate : Bool
  traceTotal : Int
  traceReached : Int
  traceFailed : Int
  traceUnreached : Int
  traceExecutionFail : Int
  traceTimedOut : Int
  traceCancelled : Int
  hasTraceCounters : Bool
  tracePathCompleted : Int
  tracePathReached : Int
  tracePathDegraded : Bool
  tracePathUnstable : Bool

/-- The coverage so far and the facts of the result at hand. -/
structure Draft where
  coverage : Coverage
  facts : Facts

namespace Draft

variable (draft : Draft)

/-- The place of a signal. -/
def place (signal : String) : String := s!"results[{draft.facts.index}].{signal}"

def available (signal : String) : Draft :=
  { draft with coverage :=
      { draft.coverage with available := draft.coverage.available ++ [draft.place signal] } }

def missing (signal : String) : Draft :=
  { draft with coverage :=
      { draft.coverage with missing := draft.coverage.missing ++ [draft.place signal] } }

def limit (code : CoverageIssueCode) (signal reason : String) : Draft :=
  { draft with coverage :=
      { draft.coverage with
        limitations := draft.coverage.limitations ++
          [⟨code, draft.facts.index, draft.facts.kind, signal, reason⟩] } }

def invalid : Draft := { draft with facts := { draft.facts with detailsValid := false } }

/-- A change that is made under a condition. -/
def when (condition : Bool) (change : Draft → Draft) : Draft :=
  if condition then change draft else draft

end Draft

/-! ## Kinds and codes -/

def supportedKind : Kind → Bool
  | .other _ => false
  | _ => true

def isTLSKind : Kind → Bool
  | .https | .smtps | .imaps | .pop3s => true
  | _ => false

def isServiceGreetingKind : Kind → Bool
  | .ssh | .smtp | .submission | .smtps | .imap | .imaps | .pop3 | .pop3s => true
  | _ => false

def isEndpointKind (kind : Kind) : Bool :=
  kind = .tcp || kind = .http || kind = .https || isServiceGreetingKind kind

def isConnectionDetailKind (kind : Kind) : Bool := kind = .tcp

def isTLSFailureErrorCode (code : GoString) : Bool :=
  code = "tls_certificate_expired" || code = "tls_certificate_not_yet_valid" ||
    code = "tls_hostname_mismatch" || code = "tls_untrusted" || code = "tls_handshake_failed"

def tlsFailurePermitsNoDetails (code : GoString) : Bool :=
  code = "tls_hostname_mismatch" || code = "tls_untrusted" || code = "tls_handshake_failed"

def isTLSFailure (result : Result) : Bool :=
  result.status = .unreachable && isTLSKind result.kind && isTLSFailureErrorCode result.errorCode

def isGreetingFailure (result : Result) : Bool :=
  isServiceGreetingKind result.kind && result.errorCode = "service_greeting_unverified"

def isTracerouteUnavailable (result : Result) : Bool :=
  result.kind = .traceroute && result.status = .unreachable &&
    result.errorCode = "traceroute_unavailable"

def detailCount (result : Result) : Nat := (result.details.getD []).length

/-- Whether the details of a TLS failure are valid, and whether one is
missing. -/
def validTLSFailureDetails (library : Library) (result : Result) (now : Time) : Bool × Bool :=
  let code := result.errorCode
  if tlsFailurePermitsNoDetails code then (detailCount result = 0, false)
  else if code ≠ "tls_certificate_expired" && code ≠ "tls_certificate_not_yet_valid" then
    (false, false)
  else if detailCount result ≠ 2 then
    (false, !hasDetail result "certificate_not_before" ||
      !hasDetail result "certificate_not_after")
  else
    match canonicalUTCRFC3339Detail library result "certificate_not_before",
        canonicalUTCRFC3339Detail library result "certificate_not_after" with
    | some before, some after =>
        if !before.before after then (false, false)
        else if code = "tls_certificate_expired" then (!now.before after, false)
        else (now.before before, false)
    | _, _ => (false, false)

def tlsDetailKeys : List String :=
  ["tls_version", "cipher_suite", "certificate_subject", "certificate_expires_at"]

def validServiceGreetingDetails (library : Library) (result : Result) : Bool :=
  if result.errorCode = "service_greeting_unverified" then
    result.status = .degraded && detailCount result = 0
  else if result.status ≠ .healthy || result.errorCode ≠ "" || result.details.isNone then false
  else
    let allowed := "verification_scope" :: if isTLSKind result.kind then tlsDetailKeys else []
    let tlsValid := !isTLSKind result.kind ||
      ((!hasDetail result "tls_version" ||
          (stringDetail result "tls_version").any fun text => text.trimSpace ≠ []) &&
        (["cipher_suite", "certificate_subject"].all fun key =>
          !hasDetail result key || (stringDetail result key).isSome) &&
        (!hasDetail result "certificate_expires_at" ||
          (timeDetail library result "certificate_expires_at").isSome))
    stringDetail result "verification_scope" = some "server_greeting" && tlsValid &&
      (result.details.getD []).all fun entry =>
        allowed.any fun key => entry.1 = GoString.ofString key

/-! ## Steps -/

section Steps

variable (library : Library) (now : Time) (result : Result) (draft : Draft)

def statusStep : Draft :=
  (draft.available "status").when (!validStatus result.status) fun draft =>
    draft.limit .malformedDetails "status" "result status is not a supported value"

def errorCodeStep : Draft :=
  if result.errorCode ≠ [] then draft.available "error_code"
  else draft.when (result.status ≠ .healthy) fun draft => draft.missing "error_code"

def kindStep : Draft :=
  draft.when (!supportedKind result.kind) fun draft =>
    draft.limit .unsupportedDetails "kind"
      "result kind is unsupported by this analysis version"

def detailsStep : Draft :=
  draft.when (result.details.isNone &&
      !(isTLSFailure result && tlsFailurePermitsNoDetails result.errorCode) &&
      !isGreetingFailure result && !isTracerouteUnavailable result) fun draft =>
    (draft.missing "details").limit .missingDetails "details"
      "checker details were not observed"

def tlsFailureStep : Draft :=
  draft.when (isTLSFailure result) fun draft =>
    let (valid, missing) := validTLSFailureDetails library result now
    draft.when (!valid) fun draft =>
      (draft.invalid.when missing fun draft => draft.missing "details.tls_validity").limit
        .malformedDetails "tls_failure_details"
        "TLS failure details did not match the closed error-code contract"

def greetingStep : Draft :=
  draft.when (isServiceGreetingKind result.kind &&
      (result.status = .healthy || isGreetingFailure result)) fun draft =>
    if !validServiceGreetingDetails library result then
      (draft.invalid.when (result.status = .healthy && !hasDetail result "verification_scope")
        fun draft => draft.missing "details.verification_scope").limit
          .malformedDetails "service_verification_details"
          ("service greeting status, error code, scope, or details did not match the closed " ++
            "result contract")
    else draft.when (result.status = .healthy) fun draft =>
      (draft.available "details.verification_scope").limit .unsupportedDetails
        "service_verification_scope"
        ("only the expected server-first greeting was observed; command, authentication, " ++
          "STARTTLS, mailbox, and end-to-end service behavior were not tested")

def validDNSAnswers : Bool :=
  match stringSliceDetail result "addresses", integerDetail result "answer_count" with
  | some addresses, some count => 1 ≤ count && (addresses.length : Int) = count
  | _, _ => false

def dnsStep : Draft :=
  draft.when (result.status = .healthy && result.kind = .dns) fun draft =>
    if validDNSAnswers result then draft.available "details.dns_answers"
    else
      (draft.invalid.when (!hasDetail result "addresses" || !hasDetail result "answer_count")
        fun draft => draft.missing "details.dns_answers").limit .malformedDetails "dns_answers"
          "DNS answers were missing, empty, malformed, or inconsistent"

def endpointStep : Draft :=
  draft.when (result.status = .healthy && isConnectionDetailKind result.kind) fun draft =>
    if (stringDetail result "remote_address").any fun remote => remote.trimSpace ≠ [] then
      draft.available "details.endpoint"
    else
      (draft.invalid.when (!hasDetail result "remote_address") fun draft =>
        draft.missing "details.endpoint").limit .malformedDetails "endpoint"
          "connected endpoint details were missing or malformed"

def validHTTPStatus (status : Int) : Bool := 100 ≤ status && status ≤ 599

def httpDetailsMissing : Bool :=
  !hasDetail result "status_code" || !hasDetail result "expected_status"

def httpStatusStep : Draft :=
  match (integerDetail result "status_code").filter validHTTPStatus,
      (integerDetail result "expected_status").filter validHTTPStatus with
  | some status, some expected =>
      { draft with facts :=
          { draft.facts with
            httpStatus := status
            httpExpected := expected
            hasHTTPStatus := true } }.available "details.http_status"
  | _, _ =>
      draft.when (result.errorCode = "unexpected_status") fun draft =>
        (draft.when (httpDetailsMissing result) fun draft =>
          draft.missing "details.http_status").limit .malformedDetails "http_status"
            "HTTP status details were missing or malformed"

def httpStep : Draft :=
  draft.when (result.kind = .http || result.kind = .https) fun draft =>
    let draft := httpStatusStep result draft
    draft.when (result.status = .healthy && !draft.facts.hasHTTPStatus) fun draft =>
      (draft.invalid.when (httpDetailsMissing result) fun draft =>
        draft.missing "details.http_status").limit .malformedDetails "http_status"
          "healthy HTTP result lacked valid observed and expected status details"

def tlsHandshakeStep : Draft :=
  draft.when (result.status = .healthy) fun draft =>
    let draft := draft.when
      (!(stringDetail result "tls_version").any fun version => version.trimSpace ≠ []) fun draft =>
        (draft.invalid.missing "details.tls").limit .missingDetails "tls"
          "healthy TLS result lacked handshake facts"
    draft.when (!hasDetail result "certificate_expires_at") fun draft =>
      (draft.invalid.missing "details.tls_certificate").limit .missingDetails "tls_certificate"
        "healthy TLS result lacked certificate expiry facts"

def certificateStep : Draft :=
  match timeDetail library result "certificate_expires_at" with
  | some expires =>
      { draft with facts :=
          { draft.facts with
            certificateExpires := expires
            hasCertificate := true } }.available "details.tls_certificate"
  | none =>
      draft.when (hasDetail result "certificate_expires_at") fun draft =>
        draft.limit .malformedDetails "certificate_expires_at"
          "certificate expiry detail was malformed"

def tlsStep : Draft :=
  draft.when (isTLSKind result.kind && result.details.isSome) fun draft =>
    certificateStep library result (tlsHandshakeStep result draft)

/-! ## Traceroute -/

def providerFailureStep : Draft :=
  match integerDetail result "geoip_provider_failures" with
  | some failures =>
      draft.when (0 < failures) fun draft =>
        { draft with coverage :=
            { draft.coverage with
              providerFailures := draft.coverage.providerFailures ++
                [⟨.missingDetails, draft.facts.index, result.kind, "geoip",
                  s!"{failures} GeoIP enrichment lookups failed"⟩] } }
  | none => draft

def enrichmentStep : Draft :=
  match result.detail? "geoip_enrichment" with
  | none => draft
  | some value =>
      let merged := (normalizedEnrichmentCoverage value
          (integerDetail result "geoip_provider_failures")).bind fun enrichment =>
        if draft.facts.index < maxTargets then
          mergeEnrichmentCoverage draft.coverage.enrichment enrichment
        else none
      match merged with
      | some enrichment =>
          { draft with coverage :=
              { draft.coverage with enrichment := enrichment } }.available
            "details.geoip_enrichment"
      | none =>
          draft.limit .malformedDetails "geoip_enrichment"
            "GeoIP enrichment coverage was malformed, contradictory, or exceeded its bound"

/-- The counters of a traceroute result. -/
structure Counters where
  total : Int
  reached : Int
  failed : Int
  unreached : Int
  executionFailed : Int
  timedOut : Int
  cancelled : Int
  deriving DecidableEq

def counterKeys : List String :=
  ["attempts_total", "attempts_reached", "attempts_failed", "attempts_unreached",
    "attempts_execution_failed", "attempts_timed_out", "attempts_cancelled"]

def readCounters : Option Counters := do
  return {
    total := ← integerDetail result "attempts_total"
    reached := ← integerDetail result "attempts_reached"
    failed := ← integerDetail result "attempts_failed"
    unreached := ← integerDetail result "attempts_unreached"
    executionFailed := ← integerDetail result "attempts_execution_failed"
    timedOut := ← integerDetail result "attempts_timed_out"
    cancelled := ← integerDetail result "attempts_cancelled" }

def validCounters (status : Status) (counters : Counters) : Bool :=
  0 < counters.total && counters.total ≤ maxTraceAttempts &&
    0 ≤ counters.reached && counters.reached ≤ counters.total &&
    0 ≤ counters.failed && counters.failed ≤ counters.total &&
    0 ≤ counters.unreached && counters.unreached ≤ counters.total &&
    0 ≤ counters.executionFailed && counters.executionFailed ≤ counters.total &&
    0 ≤ counters.timedOut && counters.timedOut ≤ counters.executionFailed &&
    0 ≤ counters.cancelled && counters.cancelled ≤ counters.executionFailed &&
    counters.failed = counters.unreached + counters.executionFailed &&
    counters.total - counters.reached = counters.failed &&
    counters.timedOut ≤ counters.executionFailed - counters.cancelled &&
    traceCountersMatchStatus status counters.total counters.reached

variable (counters : Counters)

def countersFacts (facts : Facts) : Facts :=
  { facts with
    traceTotal := counters.total
    traceReached := counters.reached
    traceFailed := counters.failed
    hasTraceCounters := true
    traceUnreached := counters.unreached
    traceExecutionFail := counters.executionFailed
    traceTimedOut := counters.timedOut
    traceCancelled := counters.cancelled }

def withoutCounters : Draft :=
  { draft with facts :=
      { draft.facts with
        hasTraceCounters := false
        detailsValid := false } }

/-- The attempts that confirm the counters. -/
def confirmedAttempts (attempts : List TraceAttempt) : Option (List TraceAttempt) :=
  if traceAttemptsMatchCounters attempts counters.total counters.reached counters.unreached
      counters.executionFailed counters.timedOut counters.cancelled then
    eligibleCompletedTraceAttempts attempts counters.reached counters.unreached
  else none

def attemptsStep (value : Detail) : Draft :=
  let attempts := normalizedTraceAttempts library value
  match attempts.bind (confirmedAttempts counters) with
  | some eligible =>
      let degraded := traceAttemptsDegraded eligible
      let contradicted := (normalizedTopology library (result.detail? "topology")).any fun topology =>
        topologyDegraded topology && !degraded
      let draft := draft.when contradicted fun draft =>
        draft.limit .malformedDetails "trace_paths"
          "traceroute aggregate topology contradicted completed attempt path evidence"
      { draft with facts :=
          { draft.facts with
            tracePathCompleted := eligible.length
            tracePathReached := counters.reached
            tracePathDegraded := degraded
            tracePathUnstable := tracePathsUnstable eligible } }.available "details.trace_paths"
  | none =>
      (withoutCounters draft).limit .malformedDetails "trace_paths"
        (if attempts.isSome then
          "traceroute attempts contradicted aggregate counters or completed path evidence"
        else "traceroute attempts were malformed")

/-- Without attempts, the aggregate topology stands for one of them. -/
def aggregateStep : Draft :=
  match normalizedTopology library (result.detail? "topology") with
  | some topology =>
      draft.when (counters.executionFailed = 0 &&
          ((topology.reached && 0 < counters.reached) ||
            (!topology.reached && 0 < counters.unreached))) fun draft =>
        { draft with facts :=
            { draft.facts with
              tracePathCompleted := 1
              tracePathReached := if topology.reached then 1 else draft.facts.tracePathReached
              tracePathDegraded := topologyDegraded topology } }
  | none => draft

def outerErrorStep : Draft :=
  draft.when (!traceOuterErrorMatches result.errorCode result.status counters.total
      counters.reached counters.unreached counters.executionFailed counters.timedOut
      counters.cancelled) fun draft =>
    (withoutCounters draft).limit .malformedDetails "trace_error"
      "traceroute top-level error contradicted aggregate counters"

def topologyStep : Draft :=
  draft.when (draft.facts.traceExecutionFail = 0 &&
      (normalizedTopology library (result.detail? "topology")).isNone &&
      !hasDetail result "attempts") fun draft =>
    if hasDetail result "topology" then
      draft.limit .malformedDetails "trace_topology" "traceroute route topology was malformed"
    else
      (draft.missing "details.trace_topology").limit .missingDetails "trace_topology"
        "traceroute route topology was not observed"

def degradationStep : Draft :=
  draft.when (result.status = .degraded && draft.facts.traceExecutionFail = 0 &&
      !draft.facts.tracePathUnstable && !draft.facts.tracePathDegraded) fun draft =>
    draft.limit .malformedDetails "trace_topology"
      (if hasDetail result "attempts" then
        "degraded traceroute attempts did not contain an observable degradation signal"
      else "degraded traceroute lacked a valid degraded topology or path variation")

def countersStep : Draft :=
  match (readCounters result).filter (validCounters result.status) with
  | some counters =>
      let draft := { draft with facts := countersFacts counters draft.facts }
      let draft :=
        match result.detail? "attempts" with
        | some value => attemptsStep library result draft counters value
        | none => aggregateStep library result draft counters
      let draft := outerErrorStep result draft counters
      let draft := topologyStep library result draft
      let draft := degradationStep result draft
      draft.when draft.facts.hasTraceCounters fun draft => draft.available "details.trace_attempts"
  | none =>
      (draft.invalid.when (!counterKeys.all (hasDetail result)) fun draft =>
        draft.missing "details.trace_attempts").limit .malformedDetails "trace_attempts"
          "traceroute counters were missing, malformed, or inconsistent"

def tracerouteStep : Draft :=
  draft.when (result.kind = .traceroute && !isTracerouteUnavailable result) fun draft =>
    countersStep library result (enrichmentStep result (providerFailureStep result draft))

end Steps

/-! ## Results -/

def initialFacts (index : Nat) (result : Result) : Facts where
  index := index
  kind := result.kind
  address := result.address
  status := result.status
  statusValid := validStatus result.status
  detailsValid := true
  errorCode := result.errorCode
  httpStatus := 0
  httpExpected := 0
  hasHTTPStatus := false
  certificateExpires := ⟨0, 0⟩
  hasCertificate := false
  traceTotal := 0
  traceReached := 0
  traceFailed := 0
  traceUnreached := 0
  traceExecutionFail := 0
  traceTimedOut := 0
  traceCancelled := 0
  hasTraceCounters := false
  tracePathCompleted := 0
  tracePathReached := 0
  tracePathDegraded := false
  tracePathUnstable := false

/-- The checks that do not look at traceroute evidence. -/
def checkSteps (library : Library) (now : Time) (result : Result) (draft : Draft) : Draft :=
  let draft := detailsStep result (kindStep result (errorCodeStep result (statusStep result draft)))
  let draft := greetingStep library result (tlsFailureStep library now result draft)
  tlsStep library result (httpStep result (endpointStep result (dnsStep result draft)))

def normalizeResult (library : Library) (now : Time) (index : Nat) (result : Result)
    (coverage : Coverage) : Draft :=
  tracerouteStep library result
    (checkSteps library now result ⟨coverage, initialFacts index result⟩)

def normalizeResults (library : Library) (now : Time) (results : List Result)
    (coverage : Coverage) : Coverage × List Facts :=
  results.zipIdx.foldl (fun (coverage, facts) (result, index) =>
    let draft := normalizeResult library now index result coverage
    (draft.coverage, facts ++ [draft.facts])) (coverage, [])

end CheckNetwork.Analysis
