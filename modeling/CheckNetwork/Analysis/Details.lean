import CheckNetwork.Diagnostic.Transport
import CheckNetwork.Trace.Check
import Mathlib.Data.List.Sort

/-!
# Reading details

A detail is a value of any type.  The analysis reads integers, texts, instants
and traceroute evidence out of it, and treats a value of another type as
malformed.
-/

namespace CheckNetwork.Analysis

open Diagnostic Go
open CheckNetwork.Trace (geoIPFailureKinds validGeoIPErrorKind geoIPFailureRetryable
  enrichmentFailureCount enrichmentSource maxTraceHops)

/-- What the analysis takes from the standard library: RFC 3339 instants, their
canonical text, and the conversion of a value of another type through JSON. -/
structure Library where
  parseTime : GoString → Option Time
  formatTime : Time → GoString
  convertAttempts : Detail → Option (List TraceAttempt)
  convertTopology : Detail → Option Topology

/-- A type without a package that has the given name. -/
def isNamed (type : GoType) (names : List String) : Bool :=
  type.package = "" && names.contains type.name

/-- The `any` that a container holds. -/
def dynamic : GoValue → GoValue
  | .interface value => value
  | value => value

/-! ## Scalars -/

/-- The type switch of `integerDetail`. -/
def integerOf : GoValue → Option Int
  | .int type value =>
      if isNamed type ["int", "int8", "int16", "int32", "int64"] then some value else none
  | .uint type value =>
      if isNamed type ["uint", "uint64"] && value < 2 ^ 63 then some value else none
  | .float type value =>
      if isNamed type ["float64"] && value.isInteger then
        match value.value? with
        | some rational =>
            if (-2 ^ 63 : ℚ) ≤ rational ∧ rational < 2 ^ 63 then some rational.floor else none
        | none => none
      else none
  | .string type text => if type = GoType.jsonNumber then GoString.atoi text else none
  | _ => none

def stringOf : GoValue → Option GoString
  | .string type text => if isNamed type ["string"] then some text else none
  | _ => none

def boolOf : GoValue → Option Bool
  | .bool type value => if isNamed type ["bool"] then some value else none
  | _ => none

def reflectedDetail (result : Result) (key : String) : Option GoValue :=
  match result.detail? key with
  | some (.reflected value) => some value
  | _ => none

def hasDetail (result : Result) (key : String) : Bool := (result.detail? key).isSome

def integerDetail (result : Result) (key : String) : Option Int :=
  (reflectedDetail result key).bind integerOf

def stringDetail (result : Result) (key : String) : Option GoString :=
  (reflectedDetail result key).bind stringOf

def isAny (type : GoType) : Bool := type.kind = .interface && type.name = ""

/-- A value of type `[]any`; a nil slice is empty. -/
def anySlice : GoValue → Option (List GoValue)
  | .nilSlice type elem => if type.name = "" && isAny elem then some [] else none
  | .slice type elem _ elements =>
      if type.name = "" && isAny elem then some (elements.map dynamic) else none
  | _ => none

/-- A value of type `[]string`. -/
def stringSlice : GoValue → Option (List GoString)
  | .nilSlice type elem => if type.name = "" && isNamed elem ["string"] then some [] else none
  | .slice type elem _ elements =>
      if type.name = "" && isNamed elem ["string"] then elements.mapM stringOf else none
  | _ => none

def stringSliceDetail (result : Result) (key : String) : Option (List GoString) :=
  (reflectedDetail result key).bind fun value =>
    (stringSlice value).or ((anySlice value).bind fun values =>
      values.mapM fun value => (stringOf value).filter fun text => text.trimSpace ≠ [])

def timeDetail (library : Library) (result : Result) (key : String) : Option Time :=
  match reflectedDetail result key with
  | some (.time time) => if time.isZero then none else some time.utc
  | some value => ((stringOf value).bind library.parseTime).map Time.utc
  | none => none

def canonicalUTCRFC3339Detail (library : Library) (result : Result) (key : String) :
    Option Time :=
  (stringDetail result key).bind fun text =>
    ((library.parseTime text).filter fun time => library.formatTime time.utc = text).map Time.utc

/-! ## Traceroute evidence -/

def normalizedTopology (library : Library) : Option Detail → Option Topology
  | none | some (.reflected .nilInterface) => none
  | some (.topology topology) => if topology.nodes = [] then none else some topology
  | some (.topologyPointer (some topology)) =>
      if topology.nodes = [] then none else some topology
  | some other => (library.convertTopology other).filter fun topology => topology.nodes ≠ []

def validStatus (status : Status) : Bool :=
  status = .healthy || status = .degraded || status = .unreachable

def validTraceAttemptError (code : GoString) : Bool :=
  code = "timeout" || code = "cancelled" || code = "traceroute_failed"

/-- One round of `validateTraceAttempts`. -/
def validTraceAttempt (count : Nat) (attempt : TraceAttempt) : Bool :=
  1 ≤ attempt.attempt && attempt.attempt ≤ count && validStatus attempt.status &&
    if attempt.errorCode ≠ [] then
      attempt.status = .unreachable && validTraceAttemptError attempt.errorCode
    else
      match attempt.topology with
      | none => false
      | some topology => attempt.status = topologyStatus topology

def validateTraceAttempts (attempts : List TraceAttempt) : Bool :=
  attempts ≠ [] && attempts.length ≤ maxTraceAttempts &&
    (attempts.map TraceAttempt.attempt).Nodup && attempts.all (validTraceAttempt attempts.length)

def normalizedTraceAttempts (library : Library) (value : Detail) : Option (List TraceAttempt) :=
  match value with
  | .attempts attempts => if validateTraceAttempts attempts then some attempts else none
  | other => (library.convertAttempts other).filter validateTraceAttempts

def traceCountersMatchStatus (status : Status) (total reached : Int) : Bool :=
  match status with
  | .healthy => reached = total
  | .degraded => 0 < reached
  | .unreachable => reached = 0
  | .other _ => false

/-- The class of an attempt that `traceAttemptsMatchCounters` counts. -/
inductive Observed
  | execution (code : GoString)
  | reached
  | unreached
  deriving DecidableEq

def observe (attempt : TraceAttempt) : Observed :=
  if attempt.errorCode ≠ [] then .execution attempt.errorCode
  else if attempt.topology.any Topology.reached then .reached
  else .unreached

def traceAttemptsMatchCounters (attempts : List TraceAttempt)
    (total reached unreached executionFailed timedOut cancelled : Int) : Bool :=
  let observed := attempts.map observe
  attempts.length = total && observed.count .reached = reached &&
    observed.count .unreached = unreached &&
    (observed.countP fun entry => match entry with
      | .execution _ => true
      | _ => false) = executionFailed &&
    observed.count (.execution "timeout") = timedOut &&
    observed.count (.execution "cancelled") = cancelled

/-- The completed attempts, when all of them are eligible and counted. -/
def eligibleCompletedTraceAttempts (attempts : List TraceAttempt) (reached unreached : Int) :
    Option (List TraceAttempt) :=
  let completed := attempts.filter fun attempt => attempt.errorCode = []
  let observedReached := completed.countP fun attempt => attempt.topology.any Topology.reached
  if attempts = [] ∨ reached < 0 ∨ unreached < 0 then none
  else if !completed.all traceAttemptEligible then none
  else if completed.length = reached + unreached ∧ observedReached = reached ∧
      (completed.length : Int) - observedReached = unreached then some completed
  else none

def topologyDegraded (topology : Topology) : Bool :=
  (topology.nodes.any fun node => node.status = .degraded) ||
    topology.links.any fun link => link.status = .degraded

def traceAttemptsDegraded (attempts : List TraceAttempt) : Bool :=
  attempts.any fun attempt => attempt.errorCode = [] && attempt.topology.any topologyDegraded

/-- The signature of a route: its hops and trimmed addresses in hop order. -/
def pathSignature (topology : Topology) : GoString :=
  let parts := (topology.nodes.insertionSort fun left right => left.hop ≤ right.hop).map
    fun node => GoString.ofString s!"{node.hop}:" ++ node.address.trimSpace
  List.intercalate (GoString.ofString "|") parts

def tracePathsUnstable (attempts : List TraceAttempt) : Bool :=
  let reached := (attempts.filter fun attempt => attempt.errorCode = []).filterMap fun attempt =>
    attempt.topology.filter Topology.reached
  2 ≤ reached.length && 1 < (reached.map pathSignature).dedup.length

def traceOuterErrorMatches (errorCode : GoString) (status : Status)
    (total reached unreached executionFailed timedOut cancelled : Int) : Bool :=
  if errorCode = "" then status = .healthy || status = .degraded
  else if errorCode = "timeout" then
    status = .unreachable && reached = 0 && 0 < executionFailed && timedOut = executionFailed
  else if errorCode = "cancelled" then
    status = .unreachable && reached = 0 && 0 < executionFailed && cancelled = executionFailed
  else if errorCode = "traceroute_failed" then
    status = .unreachable && reached = 0 && 0 < executionFailed && timedOut = 0 && cancelled = 0
  else if errorCode = "traceroute_execution_incomplete" then
    let genericFailed := executionFailed - timedOut - cancelled
    let categories := [genericFailed, timedOut, cancelled].countP fun count => 0 < count
    status = .unreachable && reached = 0 && 0 < executionFailed && 2 ≤ categories
  else if errorCode = "destination_unreached" then
    status = .unreachable && reached = 0 && unreached = total && executionFailed = 0
  else true

/-! ## Enrichment coverage -/

def maxGeoIPLookupsPerResult : Int := maxTraceAttempts * (maxTraceHops + 1)

def parseGeoIPErrorKind (text : GoString) : GeoIPErrorKind :=
  match geoIPFailureKinds.find? fun kind => GoString.ofString kind.text = text with
  | some kind => kind
  | none => .other text.text

def validEnrichmentFailures (failures : List EnrichmentFailure) : Bool :=
  failures.length ≤ geoIPFailureKinds.length &&
    (failures.all fun failure =>
      validGeoIPErrorKind failure.kind && 0 < failure.count &&
        failure.count ≤ maxGeoIPLookupsPerResult &&
        failure.retryable = geoIPFailureRetryable failure.kind) &&
    (failures.map EnrichmentFailure.kind).Nodup

/-- `normalizedEnrichmentFailures` on a typed slice. -/
def normalizedEnrichmentFailures (failures : List EnrichmentFailure) :
    Option (List EnrichmentFailure) :=
  if validEnrichmentFailures failures then
    some (failures.insertionSort fun left right => left.kind.text ≤ right.kind.text)
  else none

def isDynamic : GoValue → Bool
  | .interface _ | .nilInterface => true
  | _ => false

/-- `hasOnlyKeys`, and the entries of a `map[string]any`. -/
def closedObject (keys : List String) : GoValue → Option (String → GoValue)
  | .map type key _ entries =>
      if type.name = "" && isNamed key ["string"] &&
          (entries.all fun entry => isDynamic entry.2) && entries.length = keys.length &&
          keys.all fun key => entries.any fun entry => entry.1 = GoString.ofString key then
        some fun key =>
          ((entries.find? fun entry => entry.1 = GoString.ofString key).map
            fun entry => dynamic entry.2).getD .nilInterface
      else none
  | _ => none

def enrichmentFailureOf (value : GoValue) : Option EnrichmentFailure := do
  let entry ← closedObject ["kind", "count", "retryable"] value
  let kind ← stringOf (entry "kind")
  let count ← integerOf (entry "count")
  let retryable ← boolOf (entry "retryable")
  return ⟨parseGeoIPErrorKind kind, count, retryable⟩

/-- The failure that a struct of the diagnostic package holds. -/
def enrichmentFailureStruct : GoValue → Option EnrichmentFailure
  | .struct type fields =>
      match fields.map Prod.snd with
      | [.string _ kind, .int _ count, .bool _ retryable] =>
          if type = structType "EnrichmentFailure" then
            some ⟨parseGeoIPErrorKind kind, count, retryable⟩
          else none
      | _ => none
  | _ => none

/-- A value of type `[]EnrichmentFailure`. -/
def typedEnrichmentFailures : GoValue → Option (List EnrichmentFailure)
  | .slice type elem _ elements =>
      if type.name = "" && elem = structType "EnrichmentFailure" then
        elements.mapM enrichmentFailureStruct
      else none
  | _ => none

/-- The failures of a `[]any` that JSON could have left. -/
def decodedEnrichmentFailures (value : GoValue) : Option (List EnrichmentFailure) := do
  let values ← match value with
    | .nilSlice _ _ => none
    | value => anySlice value
  if geoIPFailureKinds.length < values.length then none
  values.mapM enrichmentFailureOf

def parseEnrichmentSource (text : GoString) : EnrichmentSource :=
  if text = "upstream" then .upstream
  else if text = "cache" then .cache
  else if text = "mixed" then .mixed
  else if text = "none" then .none
  else .other text.text

/-- The coverage a decoded object stands for. -/
def enrichmentObject (value : GoValue) : Option EnrichmentCoverage := do
  let entry ← closedObject
    ["provider", "source", "cache_hits", "upstream_fetches", "max_age_ms", "failures"] value
  let provider ← stringOf (entry "provider")
  let source ← stringOf (entry "source")
  let cacheHits ← integerOf (entry "cache_hits")
  let upstreamFetches ← integerOf (entry "upstream_fetches")
  let maxAge ← integerOf (entry "max_age_ms")
  let failures ← ((typedEnrichmentFailures (entry "failures")).or
    (decodedEnrichmentFailures (entry "failures"))).bind normalizedEnrichmentFailures
  return ⟨provider.text, parseEnrichmentSource source, cacheHits, upstreamFetches, maxAge,
    some failures⟩

def enrichmentValue : Detail → Option EnrichmentCoverage
  | .enrichment coverage => some coverage
  | .enrichmentPointer coverage => coverage
  | .reflected value => enrichmentObject value
  | _ => none

def normalizedEnrichmentCoverage (value : Detail) (legacyFailures : Option Int) :
    Option EnrichmentCoverage := do
  let coverage ← enrichmentValue value
  let failures ← coverage.failures.bind normalizedEnrichmentFailures
  let failureCount := enrichmentFailureCount failures
  let lookupCount := wrap64 (wrap64 (coverage.cacheHits + coverage.upstreamFetches) + failureCount)
  if coverage.provider ≠ "geoip" ∨ coverage.cacheHits < 0 ∨ coverage.upstreamFetches < 0 ∨
      coverage.maxAgeMS < 0 ∨ Trace.defaultGeoIPCacheTTLMS < coverage.maxAgeMS ∨
      lookupCount < 0 ∨ maxGeoIPLookupsPerResult < lookupCount then none
  else if coverage.source ≠ enrichmentSource coverage.cacheHits coverage.upstreamFetches then none
  else if legacyFailures.any fun legacy => 0 ≤ legacy && legacy ≠ failureCount then none
  else some { coverage with failures := some failures }

/-- Add a failure to the counts within a limit. -/
def countFailure (limit : Int) (counts : GeoIPErrorKind → Int) (failure : EnrichmentFailure) :
    Option (GeoIPErrorKind → Int) :=
  if limit - failure.count < counts failure.kind then none
  else some (Function.update counts failure.kind (counts failure.kind + failure.count))

/-- `mergeEnrichmentCoverage` on the aggregate of a report. -/
def mergeEnrichmentCoverage (enrichment : List EnrichmentCoverage)
    (addition : EnrichmentCoverage) : Option (List EnrichmentCoverage) :=
  let limit : Int := maxTargets * maxGeoIPLookupsPerResult
  match enrichment with
  | [] => some [addition]
  | aggregate :: rest =>
      if limit - addition.cacheHits < aggregate.cacheHits ∨
          limit - addition.upstreamFetches < aggregate.upstreamFetches then none
      else
        let cacheHits := aggregate.cacheHits + addition.cacheHits
        let upstreamFetches := aggregate.upstreamFetches + addition.upstreamFetches
        let groups := aggregate.failures.getD [] ++ addition.failures.getD []
        (groups.foldlM (countFailure limit) fun _ => 0).map fun counts : GeoIPErrorKind → Int =>
          { aggregate with
            source := enrichmentSource cacheHits upstreamFetches
            cacheHits := cacheHits
            upstreamFetches := upstreamFetches
            maxAgeMS := max aggregate.maxAgeMS addition.maxAgeMS
            failures := some (geoIPFailureKinds.filterMap fun kind =>
              if 0 < counts kind then some ⟨kind, counts kind, geoIPFailureRetryable kind⟩
              else none) } :: rest

end CheckNetwork.Analysis
