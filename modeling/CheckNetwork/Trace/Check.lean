import CheckNetwork.Trace.Parse

/-!
# The traceroute checker

`TracerouteChecker.Check` over what its environment answers: policy
resolutions, command outputs and errors, and lookups of geolocation metadata.
Attempts run one after another; their failures are counted by class, and the
aggregate status and error follow from the counters.
-/

namespace CheckNetwork.Trace

open Diagnostic Go

/-! ## Enrichment -/

structure IPMetadata where
  geolocation : Option GeoLocation
  asn : Option ASNInfo
  cached : Bool
  fetchedAt : Time
  expiresAt : Time
  deriving DecidableEq

/-- What a lookup answers, with the time of the answer, or with the kind of a
typed error. -/
inductive Lookup
  | found (metadata : IPMetadata) (now : Time)
  | failed (kind : Option GeoIPErrorKind)
  deriving DecidableEq

/-- The lookup of a deployment, and `isPublicIP`, both on the canonical text of
an address. -/
structure GeoIP where
  isPublic : GoString → Bool
  lookup : GoString → Lookup

def geoIPFailureKinds : List GeoIPErrorKind :=
  [.busy, .cancelled, .malformed, .notFound, .policy, .rateLimited, .timeout, .unavailable]

def validGeoIPErrorKind (kind : GeoIPErrorKind) : Bool := kind ∈ geoIPFailureKinds

def geoIPFailureRetryable : GeoIPErrorKind → Bool
  | .rateLimited | .timeout | .unavailable | .busy => true
  | _ => false

def normalizedGeoIPFailure (kind : Option GeoIPErrorKind) : GeoIPErrorKind :=
  match kind.filter validGeoIPErrorKind with
  | some kind => kind
  | none => .unavailable

def defaultGeoIPCacheTTLMS : Int := 86400000

/-- The age of metadata in milliseconds, within its time to live. -/
def boundedGeoIPAgeMS (metadata : IPMetadata) (now : Time) : Int :=
  if metadata.fetchedAt.isZero || now.before metadata.fetchedAt then 0
  else
    let limit :=
      if !metadata.expiresAt.isZero && metadata.expiresAt.after metadata.fetchedAt then
        min (defaultGeoIPCacheTTLMS * 1000000)
          (metadata.expiresAt.nanoseconds - metadata.fetchedAt.nanoseconds)
      else defaultGeoIPCacheTTLMS * 1000000
    let age := min (now.nanoseconds - metadata.fetchedAt.nanoseconds) limit
    if age ≤ 0 then 0 else age / 1000000

def enrichmentSource (cacheHits upstreamFetches : Int) : EnrichmentSource :=
  if 0 < cacheHits ∧ 0 < upstreamFetches then .mixed
  else if 0 < cacheHits then .cache
  else if 0 < upstreamFetches then .upstream
  else .none

def enrichmentFailureCount (failures : List EnrichmentFailure) : Int :=
  (failures.map EnrichmentFailure.count).sum

namespace Lookup

def cacheHit : Lookup → Bool
  | found metadata _ => metadata.cached
  | failed _ => false

def upstreamFetch : Lookup → Bool
  | found metadata _ => !metadata.cached
  | failed _ => false

def ageMS : Lookup → Int
  | found metadata now => boundedGeoIPAgeMS metadata now
  | failed _ => 0

def failure? : Lookup → Option GeoIPErrorKind
  | found _ _ => none
  | failed kind => some (normalizedGeoIPFailure kind)

end Lookup

/-- The public addresses on eligible routes, each once. -/
def publicAddresses (library : Library) (geoIP : GeoIP) (attempts : List TraceAttempt) :
    List GoString :=
  (((attempts.filter traceAttemptEligible).flatMap fun attempt =>
    (attempt.topology.map Topology.nodes).getD []).filterMap fun node =>
      (library.parseIP node.address).filter geoIP.isPublic).dedup

/-- The coverage of a set of lookups, in whatever order they end. -/
def coverageOf (lookups : List Lookup) : EnrichmentCoverage :=
  let cacheHits := lookups.countP Lookup.cacheHit
  let upstreamFetches := lookups.countP Lookup.upstreamFetch
  { provider := "geoip"
    source := enrichmentSource cacheHits upstreamFetches
    cacheHits := cacheHits
    upstreamFetches := upstreamFetches
    maxAgeMS := (lookups.map Lookup.ageMS).foldl max 0
    failures := some (geoIPFailureKinds.filterMap fun kind =>
      let count := lookups.countP fun lookup => lookup.failure? = some kind
      if 0 < count then some ⟨kind, count, geoIPFailureRetryable kind⟩ else none) }

def enrichNode (library : Library) (geoIP : GeoIP) (node : TopologyNode) : TopologyNode :=
  match library.parseIP node.address with
  | none => node
  | some address =>
      if geoIP.isPublic address then
        match geoIP.lookup address with
        | .found metadata _ =>
            { node with
              publicIP := true
              geolocation := metadata.geolocation
              asn := metadata.asn }
        | .failed _ => { node with publicIP := true, geolocation := none, asn := none }
      else { node with publicIP := false, geolocation := none, asn := none }

def enrichAttempt (library : Library) (geoIP : GeoIP) (attempt : TraceAttempt) : TraceAttempt :=
  if traceAttemptEligible attempt then
    { attempt with
      topology := attempt.topology.map fun topology =>
        { topology with nodes := topology.nodes.map (enrichNode library geoIP) } }
  else attempt

def enrichTopologies (library : Library) (geoIP : GeoIP) (attempts : List TraceAttempt) :
    List TraceAttempt × EnrichmentCoverage :=
  (attempts.map (enrichAttempt library geoIP),
    coverageOf ((publicAddresses library geoIP attempts).map geoIP.lookup))

/-! ## Attempts -/

/-- An error as `errors.Is` sees it, with its text. -/
structure TraceError where
  deadlineExceeded : Bool
  canceled : Bool
  text : GoString
  deriving DecidableEq

def traceCommandErrorCode (error : TraceError) : String :=
  if error.deadlineExceeded then "timeout"
  else if error.canceled then "cancelled"
  else "traceroute_failed"

/-- A failed resolution; `blocked` is `ErrNetworkPolicyBlocked`. -/
structure PolicyFailure where
  blocked : Bool
  error : TraceError
  deriving DecidableEq

/-- What the environment answers to one attempt: a failed resolution by the
policy, the error of the attempt's context where it is asked for, and the
error and the output of the command. -/
structure AttemptRun where
  resolveFailure : Option PolicyFailure
  contextErr : Option TraceError
  commandErr : Option TraceError
  output : GoString

/-- The variables of the attempt loop.  `representative` is the place of the
attempt whose topology the pointer shares. -/
structure Tally where
  attempts : List TraceAttempt
  representative : Option Nat
  representativeReached : Bool
  reached : Nat
  unreached : Nat
  degraded : Bool
  executionFailed : Nat
  timedOut : Nat
  cancelled : Nat

namespace Tally

def initial : Tally where
  attempts := []
  representative := none
  representativeReached := false
  reached := 0
  unreached := 0
  degraded := false
  executionFailed := 0
  timedOut := 0
  cancelled := 0

/-- Count an execution failure under its code. -/
def countFailure (tally : Tally) (errorCode : String) : Tally :=
  { tally with
    executionFailed := tally.executionFailed + 1
    timedOut := if errorCode = "timeout" then tally.timedOut + 1 else tally.timedOut
    cancelled := if errorCode = "cancelled" then tally.cancelled + 1 else tally.cancelled }

def append (tally : Tally) (attempt : TraceAttempt) : Tally :=
  { tally with attempts := tally.attempts ++ [attempt] }

/-- An attempt without a topology. -/
def fail (tally : Tally) (number : Nat) (errorCode : String) (message : GoString) : Tally :=
  (tally.countFailure errorCode).append
    { attempt := number
      status := .unreachable
      topology := none
      errorCode := errorCode
      message := message }

/-- Count a completed route. -/
def complete (tally : Tally) (place : Nat) (topology : Topology) : Tally :=
  let chosen := tally.representative.isNone ||
    (!tally.representativeReached && topology.reached)
  { tally with
    representative := if chosen then some place else tally.representative
    representativeReached := if chosen then topology.reached else tally.representativeReached
    reached := if topology.reached then tally.reached + 1 else tally.reached
    unreached := if topology.reached then tally.unreached else tally.unreached + 1
    degraded := tally.degraded || topologyStatus topology = .degraded }

/-- An attempt whose output was read. -/
def observe (tally : Tally) (number : Nat) (topology : Topology)
    (commandErr : Option TraceError) : Tally :=
  match commandErr with
  | some error =>
      let errorCode := traceCommandErrorCode error
      (tally.countFailure errorCode).append
        { attempt := number
          status := .unreachable
          topology := some topology
          errorCode := errorCode
          message := error.text }
  | none =>
      let attempt : TraceAttempt :=
        { attempt := number
          status := topologyStatus topology
          topology := some topology
          errorCode := []
          message := [] }
      let tally := tally.append attempt
      if traceAttemptEligible attempt then tally.complete (tally.attempts.length - 1) topology
      else tally

/-- One round of the loop; an error leaves the function. -/
def attempt (library : Library) (destination : GoString) (run : Nat → AttemptRun) (tally : Tally)
    (number : Nat) : Except PolicyFailure Tally :=
  match (run number).resolveFailure with
  | some failure =>
      if tally.attempts = [] ∨ failure.blocked then .error failure
      else
        let error := (run number).contextErr.getD failure.error
        .ok (tally.fail number (traceCommandErrorCode error)
          "traceroute target resolution did not complete")
  | none =>
      let commandErr := (run number).contextErr.or (run number).commandErr
      match parseTraceroute library (run number).output destination with
      | .ok topology => .ok (tally.observe number topology commandErr)
      | .error parseErr =>
          match commandErr with
          | none => .ok (tally.fail number "traceroute_failed" (parseErr.text library))
          | some error =>
              .ok (tally.fail number (traceCommandErrorCode error)
                (GoString.ofString "traceroute 실행 실패: " ++ error.text))

end Tally

/-! ## The result -/

def summarizeTraceExecutionErrors (total timedOut cancelled : Int) : String :=
  if total ≤ 0 then ""
  else if timedOut = total then "timeout"
  else if cancelled = total then "cancelled"
  else if total - timedOut - cancelled = total then "traceroute_failed"
  else "traceroute_execution_incomplete"

def validLabel (label : GoString) : Bool :=
  label ≠ [] && label.byteLength ≤ 63 && label.head? ≠ some (.scalar '-') &&
    label.getLast? ≠ some (.scalar '-') &&
    label.all fun rune => match rune with
      | .scalar char => char.isAlphanum || char = '-'
      | .invalid _ => false

def traceDestination (library : Library) (address : GoString) : Option GoString :=
  let address := (address.withoutSuffix ".").trimSpace
  if (library.parseIP address).isSome then some address
  else if address = [] ∨ 253 < address.byteLength then none
  else if (address.splitAt '.').all validLabel then some address
  else none

/-- `baseResult` for an error. -/
def failedResult (kind : Kind) (address : GoString) (startedAt : Time) (latencyMS : Int)
    (error : TraceError) : Result where
  kind := kind
  address := address
  status := .unreachable
  latencyMS := latencyMS
  startedAt := startedAt
  errorCode :=
    if error.deadlineExceeded then "timeout"
    else if error.canceled then "cancelled"
    else "connection_failed"
  message := error.text
  details := none

def networkPolicyResult (kind : Kind) (address : GoString) (startedAt : Time) (latencyMS : Int)
    (failure : PolicyFailure) : Result :=
  let result := failedResult kind address startedAt latencyMS failure.error
  if failure.blocked then
    { result with
      errorCode := "network_policy_blocked"
      message := "target is not allowed in public mode" }
  else result

/-- What a run of the checker meets. -/
structure CheckRun where
  startedAt : Time
  baseLatencyMS : Int
  latencyMS : Int
  available : Bool
  attempt : Nat → AttemptRun
  geoIP : Option GeoIP

namespace Tally

variable (tally : Tally) (attemptCount : Nat)

def status : Status :=
  if tally.reached = 0 then .unreachable
  else if tally.reached < attemptCount || tally.degraded then .degraded
  else .healthy

def errorCode : String :=
  if tally.status attemptCount ≠ .unreachable then ""
  else if 0 < tally.executionFailed then
    summarizeTraceExecutionErrors tally.executionFailed tally.timedOut tally.cancelled
  else if tally.representative = none then "traceroute_failed"
  else "destination_unreached"

def message : String :=
  match tally.status attemptCount with
  | .healthy => s!"traceroute {attemptCount}회 모두 대상에 정상 도달했습니다."
  | .degraded =>
      s!"traceroute {attemptCount}회 중 {tally.reached}회 도달했습니다. 경로 분기와 품질을 확인하세요."
  | _ =>
      if 0 < tally.executionFailed then s!"traceroute {attemptCount}회 실행이 완료되지 않았습니다."
      else if tally.representative = none then
        s!"traceroute {attemptCount}회 모두 실행 결과를 해석하지 못했습니다."
      else s!"traceroute {attemptCount}회 모두 대상에 도달하지 못했습니다."

/-- The details of a result, from the attempts after enrichment. -/
def details (attempts : List TraceAttempt) (enrichment : Option EnrichmentCoverage) : Details :=
  let failures := enrichment.elim 0 fun coverage =>
    enrichmentFailureCount (coverage.failures.getD [])
  let representative := tally.representative.bind fun place =>
    attempts[place]?.bind TraceAttempt.topology
  let counters : Details :=
    [("attempts", .attempts attempts),
      ("attempts_total", .int attemptCount),
      ("attempts_reached", .int tally.reached),
      ("attempts_failed", .int ((attemptCount : Int) - tally.reached)),
      ("attempts_unreached", .int tally.unreached),
      ("attempts_execution_failed", .int tally.executionFailed),
      ("attempts_timed_out", .int tally.timedOut),
      ("attempts_cancelled", .int tally.cancelled)]
  let geoIPFailures : Details :=
    if 0 < failures then [("geoip_provider_failures", .int failures)] else []
  let geoIPEnrichment : Details :=
    match enrichment with
    | some coverage => [("geoip_enrichment", .enrichment coverage)]
    | none => []
  let topology : Details :=
    match representative with
    | some topology => [("topology", .topology topology)]
    | none => []
  counters ++ geoIPFailures ++ geoIPEnrichment ++ topology

end Tally

/-- `Check`.  There is no result where `make` panics on a negative capacity. -/
def check (library : Library) (run : CheckRun) (target : Target) : Option Result :=
  if !run.available then
    some
      { kind := .traceroute
        address := target.address
        status := .unreachable
        latencyMS := 0
        startedAt := run.startedAt
        errorCode := "traceroute_unavailable"
        message := "traceroute is unavailable"
        details := none }
  else
    match traceDestination library target.address with
    | none =>
        some { failedResult .traceroute target.address run.startedAt run.baseLatencyMS
            ⟨false, false, "traceroute address must be an IP address or hostname"⟩ with
          errorCode := "invalid_address" }
    | some destination =>
        let attemptCount := if target.attempts = 0 then (defaultTraceAttempts : Int) else
          target.attempts
        if attemptCount < 0 then none
        else
          match ((List.range attemptCount.toNat).map (· + 1)).foldlM
              (Tally.attempt library destination run.attempt) Tally.initial with
          | .error failure =>
              some (networkPolicyResult .traceroute target.address run.startedAt
                run.baseLatencyMS failure)
          | .ok tally =>
              let enriched := run.geoIP.map fun geoIP =>
                enrichTopologies library geoIP tally.attempts
              some
                { kind := .traceroute
                  address := target.address
                  status := tally.status attemptCount.toNat
                  latencyMS := run.latencyMS
                  startedAt := run.startedAt
                  errorCode := tally.errorCode attemptCount.toNat
                  message := tally.message attemptCount.toNat
                  details := some (tally.details attemptCount.toNat
                    ((enriched.map Prod.fst).getD tally.attempts) (enriched.map Prod.snd)) }

end CheckNetwork.Trace
