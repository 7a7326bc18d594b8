import CheckNetwork.Analysis.Normalize

/-!
# Finding rules

What each rule of the analysis reports: the finding, its evidence and the
action it asks for.
-/

namespace CheckNetwork.Analysis

open Diagnostic Go

/-- The arguments of `add` after the facts. -/
structure Rule where
  code : String
  severity : String
  category : String
  title : String
  summary : String
  confidence : String
  signal : String
  observed : GoString
  expected : GoString
  provenance : String
  actionTitle : String
  step : String
  expectedResult : String
  escalation : String

/-- Completed attempts by the counters. -/
def Facts.completed (facts : Facts) : Int := facts.traceReached + facts.traceUnreached

/-- Execution failures that are neither timeouts nor cancellations. -/
def Facts.genericFailed (facts : Facts) : Int :=
  facts.traceExecutionFail - facts.traceTimedOut - facts.traceCancelled

def completedPathEvidenceCount (count : Int) : String :=
  let noun := if count = 1 then "attempt" else "attempts"
  s!"degraded segment observed among {count} completed {noun}"

/-! ## Results -/

def tlsDowngrade (facts : Facts) : Rule where
  code := "tls_downgrade"
  severity := "critical"
  category := "security"
  title := "TLS was not preserved"
  summary := "The HTTPS observation reported a TLS downgrade."
  confidence := "direct"
  signal := "error_code"
  observed := facts.errorCode
  expected := "verified TLS for every HTTPS response"
  provenance := "result"
  actionTitle := "Verify TLS end to end"
  step := "Inspect each redirect and the final endpoint and verify that HTTPS is preserved " ++
    "throughout."
  expectedResult := "Every redirect and the final response use verified TLS."
  escalation := "Escalate to the endpoint owner if any redirect or final response still leaves TLS."

def checkerPanic (facts : Facts) : Rule where
  code := "checker_panic"
  severity := "warning"
  category := "execution"
  title := "Checker execution failed"
  summary := "The checker stopped unexpectedly, so service health was not established."
  confidence := "direct"
  signal := "error_code"
  observed := facts.errorCode
  expected := "completed checker execution"
  provenance := "result"
  actionTitle := "Repeat the failed check"
  step := "Repeat the bounded check and verify the checker runtime remains available."
  expectedResult := "The repeated checker completes with an observation."
  escalation := "Escalate to the runtime owner if the checker repeatedly stops unexpectedly."

def checkerCapacityUnavailable (facts : Facts) : Rule where
  code := "checker_capacity_unavailable"
  severity := "info"
  category := "execution"
  title := "Checker capacity was unavailable"
  summary := "The bounded checker supervisor had no execution slot, so service health was not " ++
    "established."
  confidence := "direct"
  signal := "error_code"
  observed := facts.errorCode
  expected := "available checker execution capacity"
  provenance := "result"
  actionTitle := "Retry after capacity is available"
  step := "Repeat the check after existing checker work has completed."
  expectedResult := "The repeated check is admitted and completes with an observation."
  escalation := "Escalate to the runtime owner if checker capacity remains unavailable."

def tracerouteUnavailable (facts : Facts) : Rule where
  code := "traceroute_unavailable"
  severity := "info"
  category := "execution"
  title := "Traceroute is unavailable"
  summary := "No functional traceroute capability was established at startup, so route health was " ++
    "not observed."
  confidence := "direct"
  signal := "error_code"
  observed := facts.errorCode
  expected := "functional traceroute capability established at startup"
  provenance := "result"
  actionTitle := "Restore traceroute capability"
  step := "Install or repair the supported traceroute executable, then restart the service so " ++
    "startup can probe it."
  expectedResult := "The restarted service reports ready and a traceroute check produces an " ++
    "observation."
  escalation := "Escalate to the runtime owner if the startup capability probe remains unavailable."

def targetPolicyBlocked (facts : Facts) : Rule where
  code := "target_policy_blocked"
  severity := "warning"
  category := "input"
  title := "Target is blocked by deployment policy"
  summary := "The public deployment policy rejected the target before a network connection was " ++
    "attempted."
  confidence := "direct"
  signal := "error_code"
  observed := facts.errorCode
  expected := "target permitted by the selected deployment policy"
  provenance := "result"
  actionTitle := "Verify the deployment policy"
  step := "Use an approved public target, or run an explicitly trusted-local deployment for " ++
    "authorized private-network diagnostics."
  expectedResult := "The target is either approved or intentionally diagnosed from a " ++
    "trusted-local deployment."
  escalation := "Escalate to the deployment owner instead of weakening the public-mode address " ++
    "policy."

def invalidTarget (facts : Facts) : Rule where
  code := "invalid_target"
  severity := "critical"
  category := "input"
  title := "Target is invalid"
  summary := "The checker rejected the target before a network observation was possible."
  confidence := "direct"
  signal := "error_code"
  observed := facts.errorCode
  expected := "valid target syntax"
  provenance := "result"
  actionTitle := "Correct the target"
  step := "Verify the target syntax, scheme, hostname, and port, then run the check again."
  expectedResult := "The corrected target is accepted and produces an observation."
  escalation := "Escalate to the client or configuration owner if a valid target is still rejected."

def executionTimeout (facts : Facts) : Rule where
  code := "execution_timeout"
  severity := "warning"
  category := "execution"
  title := "Check timed out"
  summary := "The check did not complete within its execution deadline."
  confidence := "direct"
  signal := "error_code"
  observed := facts.errorCode
  expected := "completion before the configured deadline"
  provenance := "result"
  actionTitle := "Verify the timeout"
  step := "Retry once with the same bounded timeout and verify endpoint responsiveness from the " ++
    "same vantage point."
  expectedResult := "The check completes before the configured deadline."
  escalation := "Escalate if repeated bounded checks time out after endpoint availability is " ++
    "independently verified."

def executionCancelled (facts : Facts) : Rule where
  code := "execution_cancelled"
  severity := "info"
  category := "execution"
  title := "Check was cancelled"
  summary := "The check ended after cancellation, so service health was not established."
  confidence := "direct"
  signal := "error_code"
  observed := facts.errorCode
  expected := "completed observation"
  provenance := "result"
  actionTitle := "Repeat the cancelled check"
  step := "Run the check again when the request can remain active through completion."
  expectedResult := "The repeated check completes with an observed result."
  escalation := "Escalate if checks are repeatedly cancelled without an intentional caller " ++
    "cancellation."

def serviceGreetingUnverified (facts : Facts) : Rule where
  code := "service_greeting_unverified"
  severity := "warning"
  category := "application"
  title := "Service greeting was not verified"
  summary := "The transport connected, but the expected server-first service greeting was not " ++
    "verified."
  confidence := "direct"
  signal := "error_code"
  observed := facts.errorCode
  expected := "expected server-first greeting"
  provenance := "result"
  actionTitle := "Verify the service greeting"
  step := "Verify that the intended service is listening and returns its expected server-first " ++
    "greeting without client input, then repeat the check."
  expectedResult := "The endpoint returns the expected bounded server-first greeting."
  escalation := "Escalate to the service owner if the expected greeting is still not verified " ++
    "after listener and protocol configuration are confirmed."

def httpUnexpectedStatus (facts : Facts) : Rule where
  code := "http_unexpected_status"
  severity := "warning"
  category := "application"
  title := "Application returned an unexpected status"
  summary := "The observed HTTP status differs from the configured expectation."
  confidence := "direct"
  signal := "http.status_code"
  observed := s!"{facts.httpStatus}"
  expected := s!"{facts.httpExpected}"
  provenance := "details"
  actionTitle := "Verify the application response"
  step := "Request the same URL and verify the health endpoint, routing, and configured expected " ++
    "status."
  expectedResult := "The endpoint returns the configured expected HTTP status."
  escalation := "Escalate to the application owner if the response remains unexpected after route " ++
    "and expectation configuration are verified."

def httpUnexpectedStatusUnobserved (facts : Facts) : Rule where
  code := "http_unexpected_status"
  severity := "warning"
  category := "application"
  title := "Application returned an unexpected status"
  summary := "The checker reported an HTTP status mismatch, but the status details were " ++
    "unavailable."
  confidence := "limited"
  signal := "error_code"
  observed := facts.errorCode
  expected := "matching HTTP status details"
  provenance := "result"
  actionTitle := "Verify the application response"
  step := "Repeat the request and capture the observed and expected HTTP status."
  expectedResult := "The repeated result contains both status values."
  escalation := "Escalate if the mismatch persists after the expected status is verified."

def dnsResolutionFailed (facts : Facts) : Rule where
  code := "dns_resolution_failed"
  severity := "critical"
  category := "name_resolution"
  title := "Name resolution did not complete"
  summary := "The DNS check did not resolve the requested name."
  confidence := "direct"
  signal := "error_code"
  observed := facts.errorCode
  expected := "successful DNS resolution"
  provenance := "result"
  actionTitle := "Verify DNS resolution"
  step := "Resolve the same hostname with the configured resolver and one known-good resolver."
  expectedResult := "The hostname returns at least one intended address consistently."
  escalation := "Escalate to the DNS owner if the configured resolver still fails while the " ++
    "known-good resolver succeeds."

def endpointConnectFailed (facts : Facts) : Rule where
  code := "endpoint_connect_failed"
  severity := "critical"
  category := "connectivity"
  title := "Endpoint connection did not complete"
  summary := "The endpoint or service connection check failed."
  confidence := "direct"
  signal := "error_code"
  observed := facts.errorCode
  expected := "successful endpoint connection"
  provenance := "result"
  actionTitle := "Verify endpoint reachability"
  step := "Retry the endpoint from the same vantage point and verify that the intended service is " ++
    "listening on the configured port."
  expectedResult := "A connection is accepted by the intended endpoint."
  escalation := "Escalate to the network or service owner if the endpoint remains unreachable " ++
    "after the listener and access policy are verified."

/-! ## Certificates -/

def certificateRule (library : Library) (facts : Facts) (code severity title summary : String) :
    Rule where
  code := code
  severity := severity
  category := "security"
  title := title
  summary := summary
  confidence := "direct"
  signal := "tls.certificate_expires_at"
  observed := library.formatTime facts.certificateExpires.utc
  expected := "certificate valid beyond the 30-day renewal window"
  provenance := "details"
  actionTitle := "Verify certificate renewal"
  step := "Confirm the deployed certificate chain and renewal schedule on the observed endpoint."
  expectedResult := "The endpoint presents a currently valid certificate with adequate renewal " ++
    "margin."
  escalation := "Escalate to the certificate owner if renewal or deployment cannot be confirmed " ++
    "before expiry."

/-- The part of a rule that a TLS failure decides. -/
structure TLSFailure where
  errorCode : String
  title : String
  summary : String
  actionTitle : String
  step : String
  expectedResult : String
  escalation : String

def tlsCertificateExpired : TLSFailure where
  errorCode := "tls_certificate_expired"
  title := "TLS certificate is expired"
  summary := "The TLS certificate was expired at the verification time."
  actionTitle := "Renew the TLS certificate"
  step := "Renew and deploy the intended certificate chain, then repeat the check."
  expectedResult := "The endpoint presents a certificate that is valid at verification time."
  escalation := "Escalate to the certificate owner if a current certificate cannot be deployed."

def tlsCertificateNotYetValid : TLSFailure where
  errorCode := "tls_certificate_not_yet_valid"
  title := "TLS certificate is not yet valid"
  summary := "The TLS certificate was not yet valid at the verification time."
  actionTitle := "Verify certificate activation"
  step := "Verify the endpoint certificate deployment and system clocks, then repeat the check."
  expectedResult := "The endpoint presents a certificate that is valid at verification time."
  escalation := "Escalate to the certificate owner if the validity window or deployment remains " ++
    "incorrect."

def tlsHostnameMismatch : TLSFailure where
  errorCode := "tls_hostname_mismatch"
  title := "TLS certificate name does not match"
  summary := "The TLS certificate did not match the requested server name."
  actionTitle := "Correct the TLS server identity"
  step := "Deploy a certificate for the requested server name and verify endpoint routing, then " ++
    "repeat the check."
  expectedResult := "Certificate verification succeeds for the requested server name."
  escalation := "Escalate to the TLS endpoint owner if the intended name still does not verify."

def tlsUntrusted : TLSFailure where
  errorCode := "tls_untrusted"
  title := "TLS certificate is not trusted"
  summary := "The TLS certificate chain did not verify to a trusted authority."
  actionTitle := "Correct the TLS trust chain"
  step := "Deploy the intended complete certificate chain and verify its trust anchor, then " ++
    "repeat the check."
  expectedResult := "The endpoint certificate chain verifies to an approved trust anchor."
  escalation := "Escalate to the certificate owner if the intended chain remains untrusted."

def tlsHandshakeFailed : TLSFailure where
  errorCode := "tls_handshake_failed"
  title := "TLS handshake did not complete"
  summary := "The transport connected, but the TLS handshake failed."
  actionTitle := "Verify the TLS endpoint"
  step := "Check the certificate chain, server name, protocol versions, and cipher compatibility, " ++
    "then repeat the check."
  expectedResult := "The TLS handshake completes with the intended endpoint."
  escalation := "Escalate to the TLS endpoint owner if the handshake still fails with a valid " ++
    "trust chain and server name."

def tlsFailures : List TLSFailure :=
  [tlsCertificateExpired, tlsCertificateNotYetValid, tlsHostnameMismatch, tlsUntrusted,
    tlsHandshakeFailed]

def tlsFailureRule (failure : TLSFailure) (facts : Facts) : Rule where
  code := failure.errorCode
  severity := "critical"
  category := "security"
  title := failure.title
  summary := failure.summary
  confidence := "direct"
  signal := "error_code"
  observed := facts.errorCode
  expected := "verified TLS handshake"
  provenance := "result"
  actionTitle := failure.actionTitle
  step := failure.step
  expectedResult := failure.expectedResult
  escalation := failure.escalation

/-! ## Routes -/

def traceTimedOut (facts : Facts) : Rule where
  code := "execution_timeout"
  severity := "warning"
  category := "execution"
  title := "Traceroute attempts timed out"
  summary := "One or more traceroute attempts did not complete within their execution deadline."
  confidence := "direct"
  signal := "traceroute.attempts_timed_out"
  observed := s!"{facts.traceTimedOut}"
  expected := "0"
  provenance := "details"
  actionTitle := "Repeat the timed-out trace"
  step := "Repeat the bounded trace from the same vantage point."
  expectedResult := "Every attempt completes before its deadline."
  escalation := "Escalate if bounded attempts repeatedly time out after runtime availability is " ++
    "verified."

def traceCancelled (facts : Facts) : Rule where
  code := "execution_cancelled"
  severity := "info"
  category := "execution"
  title := "Traceroute attempts were cancelled"
  summary := "One or more traceroute attempts ended after cancellation."
  confidence := "direct"
  signal := "traceroute.attempts_cancelled"
  observed := s!"{facts.traceCancelled}"
  expected := "0"
  provenance := "details"
  actionTitle := "Repeat the cancelled trace"
  step := "Run the trace again when the request can remain active."
  expectedResult := "The repeated trace completes."
  escalation := "Escalate if traces are cancelled without caller cancellation."

def traceCommandFailed (facts : Facts) : Rule where
  code := "traceroute_execution_failed"
  severity := "warning"
  category := "execution"
  title := "Traceroute command attempts failed"
  summary := "One or more traceroute command attempts did not produce a completed route " ++
    "observation."
  confidence := "direct"
  signal := "traceroute.attempts_execution_failed"
  observed := s!"{facts.traceExecutionFail}"
  expected := "0"
  provenance := "details"
  actionTitle := "Verify traceroute execution"
  step := "Verify the traceroute executable and permissions, then repeat the bounded check."
  expectedResult := "Every command attempt completes and produces a parseable route observation."
  escalation := "Escalate to the runtime owner if traceroute command attempts still cannot " ++
    "complete."

def traceMixedFailures (facts : Facts) : Rule where
  code := "traceroute_execution_failed"
  severity := "warning"
  category := "execution"
  title := "Traceroute attempts had multiple execution failures"
  summary := "Traceroute attempts ended with more than one recorded execution-failure class."
  confidence := "direct"
  signal := "traceroute.execution_failures"
  observed :=
    s!"{facts.traceExecutionFail} execution failures: {facts.traceTimedOut} timed out, " ++
      s!"{facts.traceCancelled} cancelled, {facts.genericFailed} command errors"
  expected := "0 execution failures"
  provenance := "details"
  actionTitle := "Verify traceroute execution"
  step := "Repeat the bounded trace and verify each execution-failure class separately."
  expectedResult := "Every command attempt completes and produces a parseable route observation."
  escalation := "Escalate to the runtime owner if execution failures recur."

def traceUnreachable (facts : Facts) : Rule where
  code := "traceroute_unreachable"
  severity := "critical"
  category := "routing"
  title := "No completed traceroute attempt reached the destination"
  summary := "The destination was not observed as reached in any completed traceroute attempt."
  confidence := "direct"
  signal := "traceroute.attempts_reached"
  observed := s!"{facts.traceReached}/{facts.completed} completed attempts reached"
  expected := s!"{facts.completed}/{facts.completed} completed attempts reached"
  provenance := "details"
  actionTitle := "Verify the route from the same vantage point"
  step := "Repeat the bounded trace and compare the last responsive hop and destination " ++
    "reachability."
  expectedResult := "At least one completed trace reaches the destination or identifies a stable " ++
    "last responsive hop."
  escalation := "Escalate with the recorded hops if repeated completed traces still do not reach " ++
    "the destination."

def tracePartialReachability (facts : Facts) : Rule where
  code := "traceroute_partial_reachability"
  severity := "warning"
  category := "routing"
  title := "Traceroute reachability varied across completed attempts"
  summary := "Some completed traceroute attempts reached the destination and others did not."
  confidence := "direct"
  signal := "traceroute.attempts_reached"
  observed := s!"{facts.traceReached}/{facts.completed} completed attempts reached"
  expected := s!"{facts.completed}/{facts.completed} completed attempts reached"
  provenance := "details"
  actionTitle := "Compare repeated routes"
  step := "Compare reached and unreached completed attempts for the first stable divergence while " ++
    "preserving the same vantage point."
  expectedResult := "Repeated completed attempts show consistent reachability or a reproducible " ++
    "divergence."
  escalation := "Escalate with both route sets if the variation persists."

def tracePathUnstable (facts : Facts) : Rule where
  code := "traceroute_path_unstable"
  severity := "warning"
  category := "routing"
  title := "Traceroute paths varied across attempts"
  summary := "Successful completed attempts observed more than one hop sequence from the same " ++
    "vantage point."
  confidence := "direct"
  signal := "traceroute.path_signatures"
  observed :=
    s!"multiple successful completed path signatures among {facts.tracePathReached} reached " ++
      s!"completed attempts"
  expected := "one stable successful completed path signature"
  provenance := "details"
  actionTitle := "Compare path variants"
  step := "Repeat the bounded trace and compare the first hop where successful completed paths " ++
    "diverge."
  expectedResult := "The path stabilizes or the same divergence is reproduced."
  escalation := "Escalate with the successful completed path variants if the divergence persists."

def tracePathDegraded (facts : Facts) : Rule where
  code := "traceroute_path_degraded"
  severity := "warning"
  category := "routing"
  title := "A degraded route segment was observed"
  summary := "The traceroute producer classified at least one completed route hop or link as " ++
    "degraded."
  confidence := "limited"
  signal := "traceroute.path_status"
  observed := completedPathEvidenceCount facts.tracePathCompleted
  expected := "no producer-classified degraded segment in completed path evidence"
  provenance := "details"
  actionTitle := "Verify the degraded segment"
  step := "Repeat the trace and compare the same hop transition across completed attempts and " ++
    "another approved vantage point."
  expectedResult := "The repeated observations show whether the segment status remains degraded."
  escalation := "Escalate with the repeated hop and route observations if the segment status " ++
    "remains degraded."

end CheckNetwork.Analysis
