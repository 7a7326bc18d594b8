import CheckNetwork.Context.Request
import CheckNetwork.Runner.Request
import CheckNetwork.Telemetry.Finish
import CheckNetwork.Transition.Program

/-!
# Serving a request

`serveHTTP` routes a request, hands it to `createReport`, `createIPContext` or a plain answer,
and closes its record whatever happened, a panic included.  Everything that the handler does to
the world is an operation, and its environment decides what comes of it: slots may be taken,
bodies malformed, clients gone, and most operations may panic.
-/

namespace CheckNetwork.Api.Serving

open Diagnostic Go Runner Telemetry Transition

/-! ## The error contract -/

inductive ApiErrorKey
  | bodyDecodeCapacity | compactTooLarge | fullTooLarge | internal | invalidJSON | invalidRequest
  | methodNotAllowed | networkPolicy | rateLimited | requestTooLarge | routeNotFound
  | serialization | serverBusy | serverDraining | unauthorized | writeCapacity
  deriving DecidableEq

structure ApiErrorDefinition where
  status : Int
  code : String
  retryable : Bool
  retryAfter : Bool
  message : String
  outcome : TelemetryOutcome

/-- `apiErrorRegistry`. -/
def apiErrorDefinitionFor : ApiErrorKey → ApiErrorDefinition
  | .bodyDecodeCapacity => ⟨503, "body_decode_capacity_unavailable", true, true,
      "request body decode capacity is temporarily unavailable", .bodyCapacity⟩
  | .compactTooLarge => ⟨500, "compact_response_too_large", true, false,
      "compact report response exceeds the size limit", .compactSize⟩
  | .fullTooLarge => ⟨500, "full_response_too_large", true, false,
      "full report response exceeds the size limit", .fullSize⟩
  | .internal => ⟨500, "internal_error", true, false, "report could not be generated",
      .panicSafeFailure⟩
  | .invalidJSON => ⟨400, "invalid_json", false, false,
      "request body must be a valid JSON report request", .invalidJSON⟩
  | .invalidRequest => ⟨422, "invalid_request", false, false, "request is invalid",
      .invalidRequest⟩
  | .methodNotAllowed => ⟨405, "unmatched", false, false, "route not found", .unmatched⟩
  | .networkPolicy => ⟨422, "network_policy_blocked", false, false,
      "target is not allowed in public mode", .policy⟩
  | .rateLimited => ⟨429, "rate_limited", true, true, "per-client request limit exceeded",
      .rateLimited⟩
  | .requestTooLarge => ⟨413, "request_too_large", false, false,
      "request body exceeds the size limit", .requestTooLarge⟩
  | .routeNotFound => ⟨404, "unmatched", false, false, "route not found", .unmatched⟩
  | .serialization => ⟨500, "response_serialization_failed", true, false,
      "report response could not be serialized", .serialization⟩
  | .serverBusy => ⟨503, "server_busy", true, true, "report capacity is temporarily unavailable",
      .serverCapacity⟩
  | .serverDraining => ⟨503, "server_draining", true, true,
      "server is draining and temporarily unavailable", .serverDraining⟩
  | .unauthorized => ⟨401, "unauthorized", false, false, "valid API credentials are required",
      .unauthorized⟩
  | .writeCapacity => ⟨503, "write_capacity_unavailable", true, false,
      "report response write capacity is temporarily unavailable", .writeCapacity⟩

/-- `marshalAPIError`. -/
def marshalAPIError (key : ApiErrorKey) : GoString :=
  let definition := apiErrorDefinitionFor key
  (Json.encode (.object [("error", .object [("code", .string definition.code),
    ("message", .string definition.message)])]) ++ ['\n']).map .scalar

inductive ApiAllowMethods
  | options | get | post
  deriving DecidableEq

structure ApiErrorMetadata where
  retryAfter : Int := 0
  allow : Option ApiAllowMethods := none

/-- `canonicalRetryAfter`.  The division of `Duration.Seconds` does not round across a whole
number of seconds where the result is not clamped. -/
def canonicalRetryAfter (duration : Int) : String :=
  toString (max 1 (min 3600 (-(-duration / 1000000000))))

/-! ## Records -/

inductive TelemetryRoute
  | health | checks | ipContext | reports | options | unmatched
  deriving DecidableEq

/-- A record with all its fields. -/
structure FullRecord extends TelemetryRecord where
  requestID : GoString
  reportID : GoString
  method : String
  route : TelemetryRoute
  active : Int
  capacity : Int
  requestBytes : Int
  duration : Int
  runnerDuration : Int
  marshalDuration : Int
  writeDuration : Int

def maxTelemetryCount : Int := 1048576
def maxTelemetryBytes : Int := 1073741824
def maxTelemetryDuration : Int := 86400000000000

def validLowerHex (value : GoString) : Bool :=
  value.all fun
    | .scalar char => ('0' ≤ char ∧ char ≤ '9') ∨ ('a' ≤ char ∧ char ≤ 'f')
    | .invalid _ => false

def validRequestID (id : GoString) : Bool :=
  id.byteLength = 36 ∧ id.take 4 = GoString.ofString "req_" ∧ validLowerHex (id.drop 4)

def validTelemetryMethod (method : String) : Bool :=
  method ∈ ["GET", "HEAD", "POST", "PUT", "PATCH", "DELETE", "CONNECT", "OPTIONS", "TRACE", "OTHER"]

def validTerminalRouteMethod (route : TelemetryRoute) (method : String) : Bool :=
  match route with
  | .health | .checks => method = "GET"
  | .reports | .ipContext => method = "POST"
  | .options => method = "OPTIONS"
  | .unmatched => true

/-- `validTelemetrySemantics`, of the events within the work on a report. -/
def validReportOutcome (event : TelemetryEvent) (outcome : TelemetryOutcome) : Bool :=
  match event with
  | .reportSubmit | .reportAdmit | .reportStart | .reportComputed => outcome = .ok
  | .reportCancel => outcome = .cancel
  | .reportReject => outcome ∈ [.unauthorized, .rateLimited, .invalidJSON, .invalidRequest,
      .requestTooLarge, .serverCapacity, .bodyCapacity, .serverDraining, .policy]
  | .reportFinish => outcome ∈ [.ok, .panicSafeFailure, .writeCapacity, .serialization, .fullSize,
      .compactSize, .writeFailedZero, .writeFailedPartial]
  | .httpTerminal => false

/-- `validTelemetrySemantics`, of the record that closes a request. -/
def validTerminalOutcome (route : TelemetryRoute) (outcome : TelemetryOutcome) (status : Int) :
    Bool :=
  match outcome with
  | .ok => status = 200 ∨ status = 204
  | .invalidJSON => status = 400
  | .unauthorized => status = 401
  | .unmatched => status = 404 ∨ status = 405
  | .requestTooLarge => status = 413
  | .invalidRequest | .policy => status = 422
  | .rateLimited => status = 429
  | .panicSafeFailure => true
  | .serialization | .fullSize | .compactSize => status = 500
  | .serverCapacity | .serverDraining | .bodyCapacity | .writeCapacity => status = 503
  | .cancel => (route = .reports ∨ route = .ipContext) ∧ status = 499
  | .writeFailedZero | .writeFailedPartial => true
  | .checkerCapacity | .timeout => false

def validTelemetrySemantics (record : FullRecord) : Bool :=
  if record.event ≠ .httpTerminal then
    if record.method ≠ "POST" ∨ record.route ≠ .reports ∨ record.status ≠ 0 then false
    else validReportOutcome record.event record.outcome
  else if record.status < 100 ∨ 599 < record.status ∨
      !validTerminalRouteMethod record.route record.method then false
  else validTerminalOutcome record.route record.outcome record.status

/-- The bounds of `validateTelemetryRecord`. -/
def FullRecord.bounded (record : FullRecord) : FullRecord :=
  { record with
    active := min record.active maxTelemetryCount
    capacity := min record.capacity maxTelemetryCount
    requestBytes := min record.requestBytes maxTelemetryBytes
    responseAttemptedBytes := min record.responseAttemptedBytes maxTelemetryBytes
    responseBytes := min record.responseBytes maxTelemetryBytes
    duration := min record.duration maxTelemetryDuration
    runnerDuration := min record.runnerDuration maxTelemetryDuration
    marshalDuration := min record.marshalDuration maxTelemetryDuration
    writeDuration := min record.writeDuration maxTelemetryDuration }

/-- `validateTelemetryRecord`: the bounded record, or the field that is invalid. -/
def validateTelemetryRecord (record : FullRecord) : Except String FullRecord :=
  if !validRequestID record.requestID then .error "request_id"
  else if record.event = .httpTerminal ∧ record.reportID ≠ [] ∧ !validReportID record.reportID then
    .error "report_id"
  else if record.event ≠ .httpTerminal ∧ !validReportID record.reportID then .error "report_id"
  else if !validTelemetryMethod record.method then .error "method"
  else if !validTelemetrySemantics record then .error "event contract"
  else if !validReportDiagnostics record.toTelemetryRecord then .error "report diagnostics"
  else if record.active < 0 ∨ record.capacity < 0 ∨ record.requestBytes < 0 ∨
      record.responseAttemptedBytes < 0 ∨ record.responseBytes < 0 then .error "negative counter"
  else if record.duration < 0 ∨ record.runnerDuration < 0 ∨ record.marshalDuration < 0 ∨
      record.writeDuration < 0 then .error "negative duration"
  else if record.capacity < record.active then .error "active exceeds capacity"
  else if record.responseAttemptedBytes < record.responseBytes then
    .error "response bytes exceed attempted bytes"
  else .ok record.bounded

/-! ## Requests and servers -/

/-- What the handlers read of a request.  A query that does not parse is `none`. -/
structure HttpRequest where
  method : String
  path : String
  origin : String
  authorization : String
  remoteAddr : String
  contentLength : Int
  rawQuery : String
  forceQuery : Bool
  query : Option (List (String × List String))

inductive Slot
  | admission | bodyDecodes | responseWrites | contextHandlers
  deriving DecidableEq

/-- The fields of a server that do not change.  `draining` and `ipContext` say whether a
provider and a service were configured. -/
structure Server where
  version : String
  revision : String
  allowedOrigins : List String
  busyRetryAfter : Int
  isPublic : Bool
  sha256 : String → List UInt8
  apiKeyHash : List UInt8
  maxConcurrentReports : Nat
  maxConcurrentBodyDecodes : Nat
  maxConcurrentResponseWrites : Nat
  draining : Bool
  ipContext : Bool
  supported : Kind → Bool
  net : Context.NetLibrary
  splitHost : String → Option String

def Server.capacity (server : Server) : Slot → Nat
  | .admission => server.maxConcurrentReports
  | .bodyDecodes => server.maxConcurrentBodyDecodes
  | .responseWrites => server.maxConcurrentResponseWrites
  | .contextHandlers => 4

def Server.originAllowed (server : Server) (origin : String) : Bool :=
  "*" ∈ server.allowedOrigins ∨ origin ∈ server.allowedOrigins

def maxBodyBytes : Int := 1048576

def hasPrefix (text start : String) : Bool := start.toList.isPrefixOf text.toList

/-- The route of a request, and the status of one that has none. -/
def classifyRequest (request : HttpRequest) : TelemetryRoute × Int :=
  if request.method = "OPTIONS" ∧ hasPrefix request.path "/api/v1/" then (.options, 0)
  else if request.path = "/api/v1/health" then
    if request.method = "GET" then (.health, 0) else (.unmatched, 405)
  else if request.path = "/api/v1/checks" then
    if request.method = "GET" then (.checks, 0) else (.unmatched, 405)
  else if request.path = "/api/v1/ip-context" then
    if request.method = "POST" then (.ipContext, 0) else (.unmatched, 405)
  else if request.path = "/api/v1/reports" then
    if request.method = "POST" then (.reports, 0) else (.unmatched, 405)
  else (.unmatched, 404)

def apiAllowForPath (path : String) : ApiAllowMethods :=
  if path = "/api/v1/health" ∨ path = "/api/v1/checks" then .get
  else if path = "/api/v1/reports" ∨ path = "/api/v1/ip-context" then .post
  else .options

def telemetryMethod (method : String) : String :=
  if method ∈ ["GET", "HEAD", "POST", "PUT", "PATCH", "DELETE", "CONNECT", "OPTIONS", "TRACE"] then
    method
  else "OTHER"

/-- A report of the runner, with the results that the handler looks at. -/
structure ComputedReport extends FinishedReport where
  results : List Result

def reportHasResultCode (report : ComputedReport) (code : String) : Bool :=
  report.results.any fun result => result.errorCode = GoString.ofString code

/-! ## What the world does -/

/-- Errors of reading a body.  `isRequestTooLarge` tells them apart. -/
inductive BodyError
  | tooLarge | malformed
  deriving DecidableEq

def BodyError.key : BodyError → ApiErrorKey
  | .tooLarge => .requestTooLarge
  | .malformed => .invalidJSON

/-- Errors of `marshalReportResponse`.  `isFullResponseBudgetError` accepts `fullBudget`. -/
inductive MarshalError
  | compactTooLarge | fullBudget | other
  deriving DecidableEq

def MarshalError.key : MarshalError → ApiErrorKey
  | .compactTooLarge => .compactTooLarge
  | .fullBudget => .fullTooLarge
  | .other => .serialization

/-- Errors of `IPContextService.Lookup`. -/
inductive LookupError
  | busy | other
  deriving DecidableEq

inductive TypedResponse
  | health (version revision : String)
  | checks

/-- Operations on the world. -/
inductive Op
  | entropy (byteCount : Nat)
  | length (slot : Slot)
  | elapsed
  | requestBytes
  | log (record : FullRecord)
  | discard (field : String)
  | tryAcquire (slot : Slot)
  | release (slot : Slot)
  | setHeader (name value : String)
  | delHeader (name : String)
  | writeHeader (status : Int)
  | write (payload : GoString)
  | setIPContextDeadlines
  | setReportWriteDeadline
  | cancelled
  | allowClient (client : String)
  | isDraining
  | decode
  | decodeExtra
  | run (reportID : GoString) (request : Runner.Request)
  | marshalReport (report : ComputedReport) (mode : TopologyMode) (geoDetails : Bool)
  | marshalTyped (response : TypedResponse)
  | readBody
  | lookup (address : GoString)

/-- What an operation yields.  A write yields its count and whether it failed, and the second
decoding of a body yields its error, or nothing at the end of the body. -/
@[reducible]
def Value : Op → Type
  | .entropy byteCount => Vector UInt8 byteCount
  | .length _ => Nat
  | .elapsed | .requestBytes => Int
  | .tryAcquire _ | .cancelled | .isDraining => Bool
  | .write _ => Int × Bool
  | .allowClient _ => Bool × Int
  | .decode => Except BodyError Runner.Request
  | .decodeExtra => Option BodyError
  | .run .. => Option ComputedReport
  | .marshalReport .. => Except MarshalError GoString
  | .marshalTyped _ => Option GoString
  | .readBody => Except BodyError GoString
  | .lookup _ => Except LookupError Context.IPContext
  | _ => Unit

/-- An operation that does not yield a value has panicked. -/
abbrev Answer (op : Op) := Option (Value op)

/-- Operations of the runtime that do not panic here. -/
def Op.isTotal : Op → Bool
  | .entropy _ | .length _ | .elapsed | .requestBytes | .discard _ | .tryAcquire _ | .release _
  | .cancelled => true
  | _ => false

/-! ## Local variables -/

/-- `requestObservation`, of what a handler writes.  An outcome that was not set is `none`. -/
structure RequestObservation where
  requestID : GoString := []
  reportID : GoString := []
  method : String := ""
  route : TelemetryRoute := .unmatched
  status : Int := 0
  outcome : Option TelemetryOutcome := none
  responseAttempted : Int := 0
  responseActual : Int := 0
  runnerDuration : Int := 0
  marshalDuration : Int := 0
  writeDuration : Int := 0
  reportTerminal : Bool := false
  contextAdmitted : Bool := false

/-- The state of `responseWriter`. -/
structure ResponseWriter where
  attempted : Bool := false
  committed : Bool := false
  status : Int := 0

/-- The variables of a request; `admissionHeld` is that of `createReport`. -/
structure Locals where
  observation : RequestObservation := {}
  writer : ResponseWriter := {}
  admissionHeld : Bool := false

abbrev Serve := Handler Locals Op Answer

/-- Change the observation. -/
def observe (change : RequestObservation → RequestObservation) : Serve Unit :=
  Handler.modify fun locals => { locals with observation := change locals.observation }

/-- Change the state of the writer. -/
def track (change : ResponseWriter → ResponseWriter) : Serve Unit :=
  Handler.modify fun locals => { locals with writer := change locals.writer }

/-- Perform an operation, and panic where it does. -/
def attempt (op : Op) : Serve (Value op) := do
  let answer ← Handler.ask op
  Handler.orPanic answer

/-! ## Telemetry -/

/-- `EmitTelemetry`.  The error that its callers ignore becomes an operation. -/
def emitTelemetry (record : FullRecord) : Serve Unit :=
  match validateTelemetryRecord record with
  | .error field => attempt (.discard field)
  | .ok bounded => do
      let _ ← Handler.recovering (attempt (.log bounded))

/-- `telemetryRecord`, of what validation reads of a report. -/
def telemetryRecord (server : Server) (record : TelemetryRecord) : Serve FullRecord := do
  let observation := (← Handler.locals).observation
  let requestBytes ← attempt .requestBytes
  let slot : Slot := if observation.route = .ipContext then .contextHandlers else .admission
  let active ← attempt (.length slot)
  let duration ← attempt .elapsed
  return { record with
    requestID := observation.requestID
    reportID := observation.reportID
    method := observation.method
    route := observation.route
    active := active
    capacity := server.capacity slot
    requestBytes := requestBytes
    duration := duration
    runnerDuration := observation.runnerDuration
    marshalDuration := observation.marshalDuration
    writeDuration := observation.writeDuration }

def isReportTerminal (event : TelemetryEvent) : Bool :=
  event = .reportFinish ∨ event = .reportReject ∨ event = .reportCancel

/-- `emit`.  A record without an outcome is invalid. -/
def emit (server : Server) (event : TelemetryEvent) (outcome : Option TelemetryOutcome)
    (status : Int) : Serve Unit := do
  Handler.provided (isReportTerminal event)
    (observe fun observation => { observation with reportTerminal := true })
  let observation := (← Handler.locals).observation
  match outcome with
  | none => attempt (.discard "outcome")
  | some outcome => do
      let record ← telemetryRecord server
        { event := event
          outcome := outcome
          status := status
          responseAttemptedBytes := observation.responseAttempted
          responseBytes := observation.responseActual
          reportStatus := none
          analysisVerdict := none
          totalResults := 0
          failedResults := 0
          findingCount := 0
          reportDiagnosticsPresent := false }
      emitTelemetry record

def emitReportFinish (server : Server) (outcome : Option TelemetryOutcome)
    (report : ComputedReport) : Serve Unit := do
  observe fun observation => { observation with reportTerminal := true }
  let observation := (← Handler.locals).observation
  match outcome with
  | none => attempt (.discard "outcome")
  | some outcome => do
      let record ← telemetryRecord server (reportFinishRecord outcome
        observation.responseAttempted observation.responseActual report.toFinishedReport)
      emitTelemetry record

/-! ## Responses -/

/-- `WriteHeader`. -/
def writeHeader (status : Int) : Serve Unit := do
  track fun writer =>
    if writer.attempted then writer else { writer with attempted := true, status := status }
  attempt (.writeHeader status)
  track fun writer => { writer with committed := true }

/-- `Write`. -/
def write (payload : GoString) : Serve (Int × Bool) := do
  track fun writer =>
    if writer.attempted then writer else { writer with attempted := true, status := 200 }
  let (count, failed) ← attempt (.write payload)
  track fun writer => if 0 < count ∨ !failed then { writer with committed := true } else writer
  return (count, failed)

def setSecurityHeaders : Serve Unit := do
  attempt (.setHeader "X-Content-Type-Options" "nosniff")
  attempt (.setHeader "Cache-Control" "no-store")

def setCORSHeaders (origin : String) : Serve Unit := do
  attempt (.setHeader "Access-Control-Allow-Origin" origin)
  attempt (.setHeader "Vary" "Origin")
  attempt (.setHeader "Access-Control-Allow-Headers" "Content-Type, Authorization")
  attempt (.setHeader "Access-Control-Allow-Methods" "GET, POST, OPTIONS")
  attempt (.setHeader "Access-Control-Expose-Headers" "Retry-After")

def setReportWriteDeadline : Serve Unit := do
  let _ ← Handler.recovering (attempt .setReportWriteDeadline)

/-- `writePayload`: how much there was to write, how much was written, and whether that failed. -/
def writePayload (status : Int) (payload : GoString) : Serve (Int × Int × Bool) := do
  let attempted : Int := payload.byteLength
  let written ← Handler.recovering do
    attempt (.setHeader "Content-Type" "application/json; charset=utf-8")
    attempt (.setHeader "Content-Length" (toString payload.byteLength))
    writeHeader status
    write payload
  match written with
  | none => return (attempted, 0, true)
  | some (count, failed) =>
      let actual := max 0 (min count attempted)
      return (attempted, actual, failed || actual ≠ attempted)

def writeJSONPayload (status : Int) (outcome : TelemetryOutcome) (payload : GoString) :
    Serve Unit := do
  observe fun observation => { observation with status := status, outcome := some outcome }
  let (attempted, actual, failed) ← writePayload status payload
  let spent ← attempt .elapsed
  observe fun observation => { observation with
    writeDuration := observation.writeDuration + spent
    responseAttempted := observation.responseAttempted + attempted
    responseActual := observation.responseActual + actual
    outcome :=
      if failed then some (if actual = 0 then .writeFailedZero else .writeFailedPartial)
      else observation.outcome }

def writeEmpty (status : Int) (outcome : TelemetryOutcome) : Serve Unit := do
  observe fun observation => { observation with status := status, outcome := some outcome }
  let written ← Handler.recovering (writeHeader status)
  Handler.provided written.isNone
    (observe fun observation => { observation with outcome := some .writeFailedZero })

def allowText : Option ApiAllowMethods → String
  | some .get => "GET, OPTIONS"
  | some .post => "POST, OPTIONS"
  | _ => "OPTIONS"

def applyAPIErrorHeaders (definition : ApiErrorDefinition) (metadata : ApiErrorMetadata) :
    Serve Unit := do
  attempt (.delHeader "Retry-After")
  attempt (.delHeader "Allow")
  Handler.provided definition.retryAfter
    (attempt (.setHeader "Retry-After" (canonicalRetryAfter metadata.retryAfter)))
  Handler.provided (definition.status = 405) (attempt (.setHeader "Allow" (allowText metadata.allow)))

def writeAPIError (key : ApiErrorKey) (metadata : ApiErrorMetadata) : Serve Unit := do
  let definition := apiErrorDefinitionFor key
  let written ← Handler.recovering do
    applyAPIErrorHeaders definition metadata
    writeJSONPayload definition.status definition.outcome (marshalAPIError key)
  Handler.provided written.isNone
    (observe fun observation => { observation with
      status := definition.status
      outcome := some .writeFailedZero })

def writeTypedOK (response : TypedResponse) : Serve Unit := do
  let payload ← attempt (.marshalTyped response)
  let spent ← attempt .elapsed
  observe fun observation => { observation with
    marshalDuration := observation.marshalDuration + spent }
  match payload with
  | none => writeAPIError .serialization {}
  | some payload => writeJSONPayload 200 .ok (payload ++ "\n")

/-! ## Reports -/

def rejectReport (server : Server) (key : ApiErrorKey) (metadata : ApiErrorMetadata) :
    Serve Unit := do
  emit server .reportReject (some (apiErrorDefinitionFor key).outcome) 0
  writeAPIError key metadata

/-- The body of a report request, which is one JSON value. -/
def decodeBody : Serve (Except BodyError Runner.Request) := do
  match ← attempt .decode with
  | .error failure => return .error failure
  | .ok decoded =>
      match ← attempt .decodeExtra with
      | none => return .ok decoded
      | some failure => return .error failure

def decodeReportRequest (server : Server) (request : HttpRequest) :
    Serve (Option Runner.Request) := do
  if maxBodyBytes < request.contentLength then
    rejectReport server .requestTooLarge {}
    return none
  else if ← attempt (.tryAcquire .bodyDecodes) then
    match ← Handler.deferring (attempt (.release .bodyDecodes)) decodeBody with
    | .error failure =>
        rejectReport server failure.key {}
        return none
    | .ok decoded => return some decoded
  else
    rejectReport server .bodyDecodeCapacity { retryAfter := server.busyRetryAfter }
    return none

def releaseAdmission : Serve Unit := do
  let locals ← Handler.locals
  Handler.provided locals.admissionHeld do
    attempt (.release .admission)
    Handler.modify fun locals => { locals with admissionHeld := false }

/-- `createReport` once it gives up on a report: others may run theirs while this answer is
written. -/
def failReport (server : Server) (key : ApiErrorKey) : Serve Unit := do
  releaseAdmission
  setReportWriteDeadline
  writeAPIError key {}
  emit server .reportFinish (← Handler.locals).observation.outcome 0

/-- `createReport` with a serialized report. -/
def deliverReport (server : Server) (report : ComputedReport) (payload : GoString) :
    Serve Unit := do
  if ← attempt (.tryAcquire .responseWrites) then
    releaseAdmission
    Handler.deferring (attempt (.release .responseWrites)) do
      setReportWriteDeadline
      writeJSONPayload 200 .ok payload
      emitReportFinish server (← Handler.locals).observation.outcome report
  else failReport server .writeCapacity

/-- `createReport` with a report. -/
def presentReport (server : Server) (mode : TopologyMode) (geoDetails : Bool)
    (report : ComputedReport) : Serve Unit := do
  if ← attempt .cancelled then
    releaseAdmission
    observe fun observation => { observation with status := 499, outcome := some .cancel }
    emit server .reportCancel (some .cancel) 0
  else
    emit server .reportComputed (some .ok) 0
    if server.isPublic ∧ reportHasResultCode report "network_policy_blocked" then
      releaseAdmission
      setReportWriteDeadline
      emit server .reportReject (some .policy) 0
      writeAPIError .networkPolicy {}
    else
      let marshalled ← attempt (.marshalReport report mode geoDetails)
      let spent ← attempt .elapsed
      observe fun observation => { observation with marshalDuration := spent }
      match marshalled with
      | .error failure => failReport server failure.key
      | .ok payload => deliverReport server report payload

/-- `createReport` with an admission. -/
def runReport (server : Server) (decoded : Runner.Request) (geoDetails : Bool) : Serve Unit := do
  emit server .reportStart (some .ok) 0
  let report ← attempt (.run (← Handler.locals).observation.reportID decoded)
  let spent ← attempt .elapsed
  observe fun observation => { observation with runnerDuration := spent }
  match report with
  | none => failReport server .internal
  | some report => presentReport server decoded.topologyMode geoDetails report

/-- Whether a query asks for details, or `none` where it is invalid. -/
def geoDetails? (request : HttpRequest) : Option Bool :=
  match request.query with
  | none => none
  | some query =>
      match query.lookup "geo_details" with
      | none => some false
      | some values => if values = ["1"] then some true else none

def createReport (server : Server) (request : HttpRequest) : Serve Unit := do
  match geoDetails? request with
  | none => rejectReport server .invalidRequest {}
  | some geoDetails =>
      match ← decodeReportRequest server request with
      | none => pure ()
      | some decoded =>
          if (decoded.validate server.supported).isSome then
            rejectReport server .invalidRequest {}
          else if ← attempt (.tryAcquire .admission) then
            Handler.modify fun locals => { locals with admissionHeld := true }
            emit server .reportAdmit (some .ok) 0
            Handler.deferring releaseAdmission (runReport server decoded geoDetails)
          else rejectReport server .serverBusy { retryAfter := server.busyRetryAfter }

/-! ## Address contexts -/

def cancelContext : Serve Unit :=
  observe fun observation => { observation with status := 499, outcome := some .cancel }

/-- `fail`. -/
def failContext (server : Server) (key : ApiErrorKey) : Serve Unit := do
  if ← attempt .cancelled then cancelContext
  else writeAPIError key { retryAfter := server.busyRetryAfter }

/-- `createIPContext` with a record. -/
def deliverContext (server : Server) (value : Context.IPContext) : Serve Unit := do
  match Context.MarshalIPContext server.net value with
  | none => failContext server .serialization
  | some payload =>
      if ← attempt (.tryAcquire .responseWrites) then
        Handler.deferring (attempt (.release .responseWrites)) (writeJSONPayload 200 .ok payload)
      else failContext server .writeCapacity

/-- `createIPContext` with a body. -/
def lookupContext (server : Server) (request : HttpRequest) (body : GoString) : Serve Unit := do
  match Context.ParseIPContextRequest server.net body with
  | .error .json => failContext server .invalidJSON
  | .error .invalid => failContext server .invalidRequest
  | .ok address =>
      if request.rawQuery ≠ "" ∨ request.forceQuery then failContext server .invalidRequest
      else if !server.ipContext then failContext server .serverBusy
      else
        let found ← attempt (.lookup address)
        if ← attempt .cancelled then cancelContext
        else
          match found with
          | .error .busy => failContext server .serverBusy
          | .error .other => failContext server .internal
          | .ok value => deliverContext server value

/-- `createIPContext` with its handler slot. -/
def readContext (server : Server) (request : HttpRequest) : Serve Unit := do
  if 256 < request.contentLength then failContext server .requestTooLarge
  else if ← attempt (.tryAcquire .bodyDecodes) then
    match ← Handler.deferring (attempt (.release .bodyDecodes)) (attempt .readBody) with
    | .error failure => failContext server failure.key
    | .ok body => lookupContext server request body
  else failContext server .bodyDecodeCapacity

def createIPContext (server : Server) (request : HttpRequest) : Serve Unit := do
  if ← attempt .cancelled then cancelContext
  else if ← attempt (.tryAcquire .contextHandlers) then
    observe fun observation => { observation with contextAdmitted := true }
    readContext server request
  else failContext server .serverBusy

/-! ## Requests -/

def isDraining (server : Server) (route : TelemetryRoute) : Serve Bool :=
  if route ≠ .options ∧ server.draining then attempt .isDraining else pure false

/-- What a draining server answers. -/
def refuseDraining (server : Server) (route : TelemetryRoute) : Serve Unit :=
  if route = .reports then
    rejectReport server .serverDraining { retryAfter := server.busyRetryAfter }
  else writeAPIError .serverDraining { retryAfter := server.busyRetryAfter }

/-- `serveHTTP` from the request that may be served. -/
def dispatch (server : Server) (request : HttpRequest) : Serve Unit := do
  let (route, unmatchedStatus) := classifyRequest request
  if unmatchedStatus ≠ 0 then
    if unmatchedStatus = 405 then
      writeAPIError .methodNotAllowed { allow := some (apiAllowForPath request.path) }
    else writeAPIError .routeNotFound {}
  else
    if ← isDraining server route then refuseDraining server route
    else
      match route with
      | .health => writeTypedOK (.health server.version server.revision)
      | .checks => writeTypedOK .checks
      | .ipContext => createIPContext server request
      | .reports => createReport server request
      | .options => writeEmpty 204 .ok
      | .unmatched => pure ()

/-- Turn a client away. -/
def refuseClient (server : Server) (route : TelemetryRoute) (outcome : TelemetryOutcome)
    (key : ApiErrorKey) (metadata : ApiErrorMetadata) : Serve Unit := do
  Handler.provided (route = .reports) (emit server .reportReject (some outcome) 0)
  writeAPIError key metadata

def hasAPIKey (server : Server) (authorization : String) : Bool :=
  hasPrefix authorization "Bearer " ∧
    server.sha256 (String.ofList (authorization.toList.drop 7)) = server.apiKeyHash

def clientAddress (server : Server) (remoteAddress : String) : String :=
  (server.splitHost remoteAddress).getD remoteAddress

/-- `serveHTTP` for a client with the key, where one is asked for. -/
def admitClient (server : Server) (request : HttpRequest) (route : TelemetryRoute) : Serve Unit := do
  let (allowed, retryAfter) ← attempt (.allowClient (clientAddress server request.remoteAddr))
  if allowed then dispatch server request
  else refuseClient server route .rateLimited .rateLimited { retryAfter := retryAfter }

/-- `serveHTTP` between its deferred work and the request that may be served. -/
def authorize (server : Server) (request : HttpRequest) : Serve Unit := do
  let route := (classifyRequest request).1
  Handler.provided (route = .ipContext) (attempt .setIPContextDeadlines)
  setSecurityHeaders
  Handler.provided (request.origin ≠ "" ∧ server.originAllowed request.origin)
    (setCORSHeaders request.origin)
  Handler.provided (route = .reports) (emit server .reportSubmit (some .ok) 0)
  if server.isPublic ∧ request.method ≠ "OPTIONS" then
    if hasAPIKey server request.authorization then admitClient server request route
    else refuseClient server route .unauthorized .unauthorized {}
  else dispatch server request

/-- Take the status from the writer, or answer a failure where nothing was sent. -/
def answerPanic : Serve Unit := do
  observe fun observation => { observation with outcome := some .panicSafeFailure }
  let writer := (← Handler.locals).writer
  if writer.attempted ∧ writer.status ≠ 0 then
    observe fun observation => { observation with status := writer.status }
  else
    observe fun observation => { observation with status := 500 }
    writeAPIError .internal {}
    observe fun observation => { observation with outcome := some .panicSafeFailure }

def containPanic (server : Server) : Serve Unit := do
  let _ ← Handler.recovering do
    answerPanic
    let observation := (← Handler.locals).observation
    Handler.provided (observation.route = .reports ∧ !observation.reportTerminal)
      (emit server .reportFinish (some .panicSafeFailure) 0)

/-- A status for a request that has none. -/
def settleStatus : Serve Unit := do
  let ⟨observation, writer, _⟩ ← Handler.locals
  Handler.provided (observation.status = 0)
    (if writer.attempted ∧ writer.status ≠ 0 then
      observe fun observation => { observation with status := writer.status }
    else
      observe fun observation => { observation with
        status := 500
        outcome := some .panicSafeFailure })

/-- Log the request, and then let the next one in. -/
def closeRequest (server : Server) : Serve Unit := do
  settleStatus
  let observation := (← Handler.locals).observation
  emit server .httpTerminal observation.outcome observation.status
  Handler.provided observation.contextAdmitted (attempt (.release .contextHandlers))

/-- The deferred work of `serveHTTP`. -/
def finish (server : Server) (panicked : Bool) : Serve Unit := do
  Handler.provided panicked (containPanic server)
  closeRequest server

def hexDigit (value : Nat) : Rune := .scalar (Nat.digitChar value)

/-- `hex.EncodeToString`. -/
def hexText (bytes : List UInt8) : GoString :=
  bytes.flatMap fun byte => [hexDigit (byte.toNat / 16), hexDigit (byte.toNat % 16)]

/-- `opaqueHexID`.  Its bytes are random, or those of a digest where there is no randomness. -/
def opaqueHexID (start : GoString) (byteCount : Nat) : Serve GoString := do
  let bytes ← attempt (.entropy byteCount)
  return start ++ hexText bytes.toList

/-- Only a report request has one. -/
def newReportID (route : TelemetryRoute) : Serve GoString :=
  if route = .reports then opaqueHexID [] 12 else pure []

/-- The observation of a new request. -/
def bindObservation (request : HttpRequest) : Serve Unit := do
  let route := (classifyRequest request).1
  let requestID ← opaqueHexID "req_" 16
  let reportID ← newReportID route
  observe fun _ =>
    { requestID := requestID
      reportID := reportID
      method := telemetryMethod request.method
      route := route }

def serveHTTP (server : Server) (request : HttpRequest) : Serve Unit := do
  bindObservation request
  let served ← Handler.recovering (authorize server request)
  finish server served.isNone

/-- Serving a request from its start. -/
def serve (server : Server) (request : HttpRequest) : Program Op Answer (Option Unit × Locals) :=
  serveHTTP server request {}

end CheckNetwork.Api.Serving
