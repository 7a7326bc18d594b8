import CheckNetwork.Go.Value

/-!
# Diagnostic data model

Targets, results and the traceroute evidence that results carry in their
details.  The open string types of the source keep a constructor for each
value it names and one for any other text.
-/

namespace CheckNetwork.Diagnostic

open Go

inductive Kind
  | dns | tcp | http | https | ssh | smtp | submission | smtps | imap | imaps | pop3 | pop3s
  | traceroute
  | other (name : String)
  deriving DecidableEq, Repr

def Kind.text : Kind → String
  | dns => "dns"
  | tcp => "tcp"
  | http => "http"
  | https => "https"
  | ssh => "ssh"
  | smtp => "smtp"
  | submission => "submission"
  | smtps => "smtps"
  | imap => "imap"
  | imaps => "imaps"
  | pop3 => "pop3"
  | pop3s => "pop3s"
  | traceroute => "traceroute"
  | other name => name

inductive Status
  | healthy | degraded | unreachable
  | other (name : String)
  deriving DecidableEq, Repr

structure Target where
  kind : Kind
  address : GoString
  expectedStatus : Int
  attempts : Int
  deriving DecidableEq

def maxTargets : Nat := 20

def defaultTraceAttempts : Nat := 5

def maxTraceAttempts : Nat := 10

/-! ## Geolocation metadata -/

structure GeoLocation where
  city : GoString
  region : GoString
  country : GoString
  countryCode : GoString
  latitude : F64
  longitude : F64
  deriving DecidableEq

structure ASNInfo where
  number : Nat
  organization : GoString
  deriving DecidableEq

/-! ## Traceroute evidence -/

/-- Status text of a topology node or link. -/
inductive TopologyStatus
  | healthy | degraded | unknown | failure | unreachable
  | other (name : String)
  deriving DecidableEq, Repr

def TopologyStatus.text : TopologyStatus → String
  | healthy => "healthy"
  | degraded => "degraded"
  | unknown => "unknown"
  | failure => "failure"
  | unreachable => "unreachable"
  | other name => name

structure TopologyNode where
  id : GoString
  hop : Int
  address : GoString
  latencyMS : F64
  status : TopologyStatus
  publicIP : Bool
  geolocation : Option GeoLocation
  asn : Option ASNInfo
  deriving DecidableEq

structure TopologyLink where
  source : GoString
  target : GoString
  status : TopologyStatus
  latencyDeltaMS : F64
  deriving DecidableEq

structure Topology where
  reached : Bool
  nodes : List TopologyNode
  links : List TopologyLink
  deriving DecidableEq

structure TraceAttempt where
  attempt : Int
  status : Status
  topology : Option Topology
  errorCode : GoString
  message : GoString
  deriving DecidableEq

/-! ## Enrichment coverage -/

inductive GeoIPErrorKind
  | busy | cancelled | malformed | notFound | policy | rateLimited | timeout | unavailable
  | other (name : String)
  deriving DecidableEq, Repr

def GeoIPErrorKind.text : GeoIPErrorKind → String
  | busy => "busy"
  | cancelled => "cancelled"
  | malformed => "malformed"
  | notFound => "not_found"
  | policy => "policy"
  | rateLimited => "rate_limited"
  | timeout => "timeout"
  | unavailable => "unavailable"
  | other name => name

inductive EnrichmentSource
  | upstream | cache | mixed | none
  | other (name : String)
  deriving DecidableEq, Repr

structure EnrichmentFailure where
  kind : GeoIPErrorKind
  count : Int
  retryable : Bool
  deriving DecidableEq

/-- `failures` is `none` for a nil slice. -/
structure EnrichmentCoverage where
  provider : String
  source : EnrichmentSource
  cacheHits : Int
  upstreamFetches : Int
  maxAgeMS : Int
  failures : Option (List EnrichmentFailure)
  deriving DecidableEq

/-! ## Results -/

/-- A value of the details map.  Values of the package's own types keep their
type, which type assertions recognize; any other value is kept as reflected. -/
inductive Detail
  | attempts (value : List TraceAttempt)
  | topology (value : Topology)
  | topologyPointer (value : Option Topology)
  | enrichment (value : EnrichmentCoverage)
  | enrichmentPointer (value : Option EnrichmentCoverage)
  | reflected (value : GoValue)

def Detail.int (value : Int) : Detail :=
  .reflected (.int (.predeclared .int "int") value)

def Detail.string (value : GoString) : Detail :=
  .reflected (.string (.predeclared .string "string") value)

/-- A details map, as its entries in iteration order. -/
abbrev Details := List (GoString × Detail)

/-- `details[key]`. -/
def Details.get? (details : Details) (key : String) : Option Detail :=
  (details.find? fun entry => entry.1 = GoString.ofString key).map Prod.snd

/-- `details` is `none` for a nil map. -/
structure Result where
  kind : Kind
  address : GoString
  status : Status
  latencyMS : Int
  startedAt : Time
  errorCode : GoString
  message : GoString
  details : Option Details

/-- `result.Details[key]`, absent on a nil map. -/
def Result.detail? (result : Result) (key : String) : Option Detail :=
  result.details.bind (Details.get? · key)

/-! ## Analysis -/

inductive Verdict
  | healthy | attention | inconclusive
  deriving DecidableEq, Repr

structure Finding where
  id : String
  code : String
  severity : String
  category : String
  title : String
  summary : String
  confidence : String
  evidenceIDs : List String
  actionIDs : List String
  deriving DecidableEq

structure Evidence where
  id : String
  resultIndex : Nat
  kind : Kind
  attempt : Int
  address : GoString
  signal : String
  observed : GoString
  expected : GoString
  provenance : String
  deriving DecidableEq

structure Action where
  id : String
  title : String
  step : String
  expectedResult : String
  escalationCondition : String
  deriving DecidableEq

inductive CoverageIssueCode
  | missingDetails | malformedDetails | unsupportedDetails
  deriving DecidableEq, Repr

structure CoverageIssue where
  code : CoverageIssueCode
  resultIndex : Nat
  kind : Kind
  signal : String
  reason : String
  deriving DecidableEq

structure Coverage where
  available : List String
  missing : List String
  providerFailures : List CoverageIssue
  limitations : List CoverageIssue
  enrichment : List EnrichmentCoverage
  deriving DecidableEq

structure Analysis where
  verdict : Verdict
  findings : List Finding
  evidence : List Evidence
  actions : List Action
  coverage : Coverage
  deriving DecidableEq

/-! ## Status of a traced route -/

/-- `topologyStatus`. -/
def topologyStatus (topology : Topology) : Status :=
  if !topology.reached then .unreachable
  else if topology.nodes.any fun node => node.status = .unknown || node.status = .degraded then
    .degraded
  else .healthy

/-- `traceAttemptEligible`: the command ran to its end and its output parsed. -/
def traceAttemptEligible (attempt : TraceAttempt) : Bool :=
  attempt.errorCode = [] && match attempt.topology with
    | none => false
    | some topology => attempt.status = topologyStatus topology

end CheckNetwork.Diagnostic
