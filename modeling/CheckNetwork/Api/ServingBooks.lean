import CheckNetwork.Api.Serving

/-!
# The books of a request

What the operations of a request add up to, and what each of them may do.  The file supplies the
rules for single operations, for records and for responses.
-/

namespace CheckNetwork.Api.Serving

open Go Runner Telemetry Transition

/-! ## What a request may do -/

/-- What the operations of a request add up to. -/
structure Ledger where
  held : Slot → Bool := fun _ => false
  sent : List Int := []
  reports : List FullRecord := []
  closings : List FullRecord := []

namespace Ledger

def take (ledger : Ledger) (slot : Slot) : Ledger :=
  { ledger with held := Function.update ledger.held slot true }

def drop (ledger : Ledger) (slot : Slot) : Ledger :=
  { ledger with held := Function.update ledger.held slot false }

@[simp]
theorem held_take (ledger : Ledger) (slot : Slot) :
    (ledger.take slot).held = Function.update ledger.held slot true := rfl

@[simp]
theorem held_drop (ledger : Ledger) (slot : Slot) :
    (ledger.drop slot).held = Function.update ledger.held slot false := rfl

theorem drop_of_free {ledger : Ledger} {slot : Slot} (free : ledger.held slot = false) :
    ledger.drop slot = ledger := by
  unfold drop
  rw [← free, Function.update_eq_self]

def record (ledger : Ledger) (record : FullRecord) : Ledger :=
  if record.event = .httpTerminal then { ledger with closings := ledger.closings ++ [record] }
  else if isReportTerminal record.event then { ledger with reports := ledger.reports ++ [record] }
  else ledger

theorem record_held (ledger : Ledger) (record : FullRecord) :
    (ledger.record record).held = ledger.held := by
  unfold Ledger.record
  split
  · rfl
  · split <;> rfl

theorem record_sent (ledger : Ledger) (record : FullRecord) :
    (ledger.record record).sent = ledger.sent := by
  unfold Ledger.record
  split
  · rfl
  · split <;> rfl

def add (ledger : Ledger) : (op : Op) → Answer op → Ledger
  | .tryAcquire slot, some true => ledger.take slot
  | .release slot, some _ => ledger.drop slot
  | .writeHeader status, _ => { ledger with sent := ledger.sent ++ [status] }
  | .log record, _ => ledger.record record
  | _, _ => ledger

/-- A slot is taken once and returned once, a status is sent once, nothing is logged after the
record that closes a request, work on a report ends once, and no record is turned away. -/
def May (ledger : Ledger) : Op → Prop
  | .tryAcquire slot => ledger.held slot = false
  | .release slot => ledger.held slot = true
  | .writeHeader _ => ledger.sent = []
  | .log record => ledger.closings = [] ∧ (isReportTerminal record.event → ledger.reports = []) ∧
      validateTelemetryRecord record = .ok record
  | .discard _ => False
  | _ => True

end Ledger

/-- Answers that the environment may give. -/
def credible (server : Server) : (op : Op) → Answer op → Bool
  | .length slot, some length => length ≤ server.capacity slot
  | .elapsed, some duration => 0 ≤ duration
  | .requestBytes, some count => 0 ≤ count
  | op, answer => answer.isSome || !op.isTotal

def serving (server : Server) : Contract Op Answer Ledger where
  may := Ledger.May
  answers _ op answer := credible server op answer
  after := Ledger.add

variable {server : Server} {locals : Locals} {ledger : Ledger} {route : TelemetryRoute}

/-! ## Operations -/

section Operations

@[simp]
theorem meets_observe {change : RequestObservation → RequestObservation}
    {post : Option Unit → Locals → Ledger → Prop} :
    (observe change).Meets (serving server) post locals ledger ↔
      post (some ()) { locals with observation := change locals.observation } ledger := .rfl

@[simp]
theorem meets_track {change : ResponseWriter → ResponseWriter}
    {post : Option Unit → Locals → Ledger → Prop} :
    (track change).Meets (serving server) post locals ledger ↔
      post (some ()) { locals with writer := change locals.writer } ledger := .rfl

theorem meets_attempt (op : Op) {post : Option (Value op) → Locals → Ledger → Prop} :
    (attempt op).Meets (serving server) post locals ledger ↔
      ledger.May op ∧ ∀ answer, credible server op answer →
        post answer locals (ledger.add op answer) := by
  unfold attempt
  rw [Handler.meets_bind, Handler.meets_ask]
  simp only [Handler.then_some, Handler.meets_orPanic]
  rfl

/-- Operations that leave no trace. -/
def Op.isQuiet : Op → Bool
  | .log _ | .discard _ | .tryAcquire _ | .release _ | .writeHeader _ => false
  | _ => true

theorem meets_quiet {op : Op} (quiet : op.isQuiet = true)
    {post : Option (Value op) → Locals → Ledger → Prop} :
    (attempt op).Meets (serving server) post locals ledger ↔
      ∀ answer, credible server op answer → post answer locals ledger := by
  rw [meets_attempt]
  cases op <;> cases quiet <;> exact and_iff_right trivial

theorem meets_total {op : Op} (quiet : op.isQuiet = true) (total : op.isTotal = true)
    {post : Option (Value op) → Locals → Ledger → Prop} :
    (attempt op).Meets (serving server) post locals ledger ↔
      ∀ value, credible server op (some value) → post (some value) locals ledger := by
  rw [meets_quiet quiet]
  constructor
  · intro met value given
    exact met (some value) given
  · rintro met (_ | value) given
    · cases op <;> cases total <;> cases given
    · exact met value given

@[simp]
theorem meets_elapsed {post : Option Int → Locals → Ledger → Prop} :
    (attempt .elapsed).Meets (serving server) post locals ledger ↔
      ∀ spent : Int, 0 ≤ spent → post (some spent) locals ledger :=
  (meets_total rfl rfl).trans (by simp [credible])

@[simp]
theorem meets_requestBytes {post : Option Int → Locals → Ledger → Prop} :
    (attempt .requestBytes).Meets (serving server) post locals ledger ↔
      ∀ count : Int, 0 ≤ count → post (some count) locals ledger :=
  (meets_total rfl rfl).trans (by simp [credible])

@[simp]
theorem meets_length {slot : Slot} {post : Option Nat → Locals → Ledger → Prop} :
    (attempt (.length slot)).Meets (serving server) post locals ledger ↔
      ∀ length : Nat, length ≤ server.capacity slot → post (some length) locals ledger :=
  (meets_total rfl rfl).trans (by simp [credible])

@[simp]
theorem meets_entropy {byteCount : Nat}
    {post : Option (Vector UInt8 byteCount) → Locals → Ledger → Prop} :
    (attempt (.entropy byteCount)).Meets (serving server) post locals ledger ↔
      ∀ bytes, post (some bytes) locals ledger :=
  (meets_total rfl rfl).trans (by simp [credible])

@[simp]
theorem meets_cancelled {post : Option Bool → Locals → Ledger → Prop} :
    (attempt .cancelled).Meets (serving server) post locals ledger ↔
      ∀ cancelled, post (some cancelled) locals ledger :=
  (meets_total rfl rfl).trans (by simp [credible])

@[simp]
theorem meets_tryAcquire {slot : Slot} {post : Option Bool → Locals → Ledger → Prop} :
    (attempt (.tryAcquire slot)).Meets (serving server) post locals ledger ↔
      ledger.held slot = false ∧ post (some true) locals (ledger.take slot) ∧
        post (some false) locals ledger := by
  refine (meets_attempt _).trans ?_
  constructor
  · intro met
    exact ⟨met.1, met.2 (some true) rfl, met.2 (some false) rfl⟩
  · rintro ⟨free, taken, refused⟩
    refine ⟨free, ?_⟩
    rintro (_ | _ | _) given
    · cases given
    · exact refused
    · exact taken

@[simp]
theorem meets_release {slot : Slot} {post : Option Unit → Locals → Ledger → Prop} :
    (attempt (.release slot)).Meets (serving server) post locals ledger ↔
      ledger.held slot = true ∧ post (some ()) locals (ledger.drop slot) := by
  refine (meets_attempt _).trans ?_
  constructor
  · intro met
    exact ⟨met.1, met.2 (some ()) rfl⟩
  · rintro ⟨held, dropped⟩
    refine ⟨held, ?_⟩
    rintro (_ | _) given
    · cases given
    · exact dropped

end Operations

/-! ## Work without a trace -/

/-- A handler that changes nothing, whether it panics or not. -/
def Silent {A : Type} (server : Server) (body : Serve A) : Prop :=
  ∀ locals ledger, body.Meets (serving server) (fun _ after later =>
    after = locals ∧ later = ledger) locals ledger

namespace Silent

variable {A B : Type} {body : Serve A}

theorem pure (value : A) : Silent server (Pure.pure value) := by
  intro locals ledger
  exact ⟨rfl, rfl⟩

theorem attempt {op : Op} (quiet : op.isQuiet = true) : Silent server (attempt op) := by
  intro locals ledger
  rw [meets_quiet quiet]
  intro answer _
  exact ⟨rfl, rfl⟩

theorem andThen {next : A → Serve B} (first : Silent server body)
    (second : ∀ value, Silent server (next value)) : Silent server (body >>= next) := by
  intro locals ledger
  apply (first locals ledger).andThen
  · exact fun _ _ kept => kept
  · rintro value _ _ ⟨rfl, rfl⟩
    exact second value _ _

theorem provided {condition : Prop} [Decidable condition] {body : Serve Unit}
    (silent : Silent server body) : Silent server (Handler.provided condition body) := by
  intro locals ledger
  rw [Handler.meets_provided]
  split
  · exact silent locals ledger
  · exact ⟨rfl, rfl⟩

theorem recovering (silent : Silent server body) : Silent server (Handler.recovering body) := by
  intro locals ledger
  rw [Handler.meets_recovering]
  exact silent locals ledger

theorem meets {post : Option A → Locals → Ledger → Prop} (silent : Silent server body)
    (met : ∀ value, post value locals ledger) :
    body.Meets (serving server) post locals ledger := by
  apply (silent locals ledger).mono
  rintro value _ _ ⟨rfl, rfl⟩
  exact met value

/-- A handler that changes nothing before another one. -/
theorem before {next : A → Serve B} {post : Option B → Locals → Ledger → Prop}
    (silent : Silent server body) (panicked : post none locals ledger)
    (met : ∀ value, (next value).Meets (serving server) post locals ledger) :
    (body >>= next).Meets (serving server) post locals ledger := by
  apply (silent locals ledger).andThen
  · rintro _ _ ⟨rfl, rfl⟩
    exact panicked
  · rintro value _ _ ⟨rfl, rfl⟩
    exact met value

end Silent

theorem silent_setSecurityHeaders : Silent server setSecurityHeaders :=
  (Silent.attempt rfl).andThen fun _ => .attempt rfl

theorem silent_setCORSHeaders (origin : String) : Silent server (setCORSHeaders origin) :=
  (Silent.attempt rfl).andThen fun _ => (Silent.attempt rfl).andThen fun _ =>
    (Silent.attempt rfl).andThen fun _ => (Silent.attempt rfl).andThen fun _ => .attempt rfl

theorem silent_setReportWriteDeadline : Silent server setReportWriteDeadline :=
  (Silent.attempt rfl).recovering.andThen fun _ => .pure ()

theorem silent_applyAPIErrorHeaders (definition : ApiErrorDefinition)
    (metadata : ApiErrorMetadata) : Silent server (applyAPIErrorHeaders definition metadata) :=
  (Silent.attempt rfl).andThen fun _ => (Silent.attempt rfl).andThen fun _ =>
    (Silent.attempt rfl).provided.andThen fun _ => (Silent.attempt rfl).provided

theorem silent_decodeBody : Silent server decodeBody := by
  refine .andThen (.attempt rfl) ?_
  rintro (failure | decoded)
  · exact .pure _
  refine .andThen (.attempt rfl) ?_
  rintro (_ | failure)
  · exact .pure _
  · exact .pure _

theorem silent_isDraining (route : TelemetryRoute) : Silent server (isDraining server route) := by
  unfold isDraining
  split
  · exact .attempt rfl
  · exact .pure false

/-! ## Records -/

/-- What validation asks of the event of a record. -/
def EventValid (route : TelemetryRoute) (event : TelemetryEvent) (outcome : TelemetryOutcome)
    (status : Int) : Prop :=
  if event = .httpTerminal then
    100 ≤ status ∧ status ≤ 599 ∧ validTerminalOutcome route outcome status = true
  else route = .reports ∧ status = 0 ∧ validReportOutcome event outcome = true

/-- What an observation keeps while its request is served. -/
structure Observed (route : TelemetryRoute) (observation : RequestObservation) : Prop where
  routed : observation.route = route
  requestID : validRequestID observation.requestID = true
  reportID : if route = .reports then validReportID observation.reportID = true
    else observation.reportID = []
  method : validTelemetryMethod observation.method = true
  routeMethod : validTerminalRouteMethod route observation.method = true
  actual : 0 ≤ observation.responseActual
  attempted : observation.responseActual ≤ observation.responseAttempted
  runnerDuration : 0 ≤ observation.runnerDuration
  marshalDuration : 0 ≤ observation.marshalDuration
  writeDuration : 0 ≤ observation.writeDuration

/-- The parts of a record that validation compares. -/
structure Recorded (server : Server) (observation : RequestObservation) (core : TelemetryRecord)
    (record : FullRecord) : Prop where
  core : record.toTelemetryRecord = core
  requestID : record.requestID = observation.requestID
  reportID : record.reportID = observation.reportID
  method : record.method = observation.method
  routed : record.route = observation.route
  runnerDuration : record.runnerDuration = observation.runnerDuration
  marshalDuration : record.marshalDuration = observation.marshalDuration
  writeDuration : record.writeDuration = observation.writeDuration
  active : 0 ≤ record.active ∧ record.active ≤ record.capacity
  requestBytes : 0 ≤ record.requestBytes
  duration : 0 ≤ record.duration

theorem meets_telemetryRecord (core : TelemetryRecord) :
    (telemetryRecord server core).Meets (serving server) (fun value after later =>
      after = locals ∧ later = ledger ∧
        ∃ record, value = some record ∧ Recorded server locals.observation core record)
      locals ledger := by
  unfold telemetryRecord
  simp only [Handler.meets_bind, Handler.meets_locals, Handler.then_some, meets_requestBytes,
    meets_length, meets_elapsed, Handler.meets_pure]
  intro count counted length within spent nonneg
  refine ⟨trivial, trivial, _, rfl, ?_⟩
  exact
    { core := rfl
      requestID := rfl
      reportID := rfl
      method := rfl
      routed := rfl
      runnerDuration := rfl
      marshalDuration := rfl
      writeDuration := rfl
      active := ⟨Int.natCast_nonneg length, Int.ofNat_le.mpr within⟩
      requestBytes := counted
      duration := nonneg }

/-- A record that keeps its counters in order is accepted. -/
theorem validTelemetrySemantics_ok {observation : RequestObservation} {core : TelemetryRecord}
    {record : FullRecord} (observed : Observed route observation)
    (recorded : Recorded server observation core record)
    (valid : EventValid route core.event core.outcome core.status) :
    validTelemetrySemantics record = true := by
  obtain ⟨rfl, -, -, method, routed, -⟩ := recorded
  unfold EventValid at valid
  unfold validTelemetrySemantics
  split at valid
  · rename_i terminal
    rw [if_neg (not_not.mpr terminal), routed, method, observed.routed, observed.routeMethod]
    rw [if_neg (by simp; omega)]
    exact valid.2.2
  · rename_i report
    obtain ⟨rfl, unset, accepted⟩ := valid
    have post : record.method = "POST" := by
      simpa [validTerminalRouteMethod, method] using observed.routeMethod
    rw [if_pos report, if_neg (by simp [post, routed, observed.routed, unset])]
    exact accepted

theorem validateTelemetryRecord_ok {observation : RequestObservation} {core : TelemetryRecord}
    {record : FullRecord} (observed : Observed route observation)
    (recorded : Recorded server observation core record)
    (valid : EventValid route core.event core.outcome core.status)
    (diagnostics : validReportDiagnostics core = true)
    (attempted : core.responseAttemptedBytes = observation.responseAttempted)
    (actual : core.responseBytes = observation.responseActual) :
    ∃ bounded, validateTelemetryRecord record = .ok bounded ∧ bounded.event = core.event ∧
      bounded.outcome = core.outcome ∧ bounded.status = core.status := by
  have semantics := validTelemetrySemantics_ok observed recorded valid
  obtain ⟨rfl, requestID, reportID, method, -, runner, marshal, write, active, bytes, spent⟩ :=
    recorded
  have named : (record.event = .httpTerminal → record.reportID ≠ [] →
      validReportID record.reportID = true) ∧
      (record.event ≠ .httpTerminal → validReportID record.reportID = true) := by
    have known := observed.reportID
    rw [reportID]
    unfold EventValid at valid
    split at known
    · exact ⟨fun _ _ => known, fun _ => known⟩
    · rename_i other
      refine ⟨fun _ given => absurd known given, fun report => ?_⟩
      rw [if_neg report] at valid
      exact absurd valid.1 other
  have counters := observed.actual
  have ordered := observed.attempted
  have ran := observed.runnerDuration
  have marshalled := observed.marshalDuration
  have written := observed.writeDuration
  unfold validateTelemetryRecord
  rw [if_neg (by simp [requestID, observed.requestID]),
    if_neg (by
      rintro ⟨terminal, given, invalid⟩
      simp [named.1 terminal given] at invalid),
    if_neg (by
      rintro ⟨report, invalid⟩
      simp [named.2 report] at invalid),
    if_neg (by simp [method, observed.method]),
    if_neg (by simp [semantics]),
    if_neg (by simp [diagnostics]),
    if_neg (by omega),
    if_neg (by omega),
    if_neg (by omega),
    if_neg (by omega)]
  exact ⟨_, rfl, rfl, rfl, rfl⟩

theorem guard_eq_ok_iff {condition : Prop} [Decidable condition] {field : String}
    {rest : Except String FullRecord} {record : FullRecord} :
    (if condition then .error field else rest) = .ok record ↔
      ¬ condition ∧ rest = .ok record := by
  split <;> simp [*]

theorem bounded_bounded (record : FullRecord) : record.bounded.bounded = record.bounded := by
  simp [FullRecord.bounded]

/-- Bounds leave a body that was written in full so. -/
theorem bounded_diagnostics {record : FullRecord}
    (valid : validReportDiagnostics record.toTelemetryRecord = true) :
    validReportDiagnostics record.bounded.toTelemetryRecord = true := by
  have positive : 0 < maxTelemetryBytes := by decide
  have small : min record.responseAttemptedBytes maxTelemetryBytes ≤ 0 ↔
      record.responseAttemptedBytes ≤ 0 := by omega
  have full : record.responseBytes = record.responseAttemptedBytes →
      min record.responseBytes maxTelemetryBytes =
        min record.responseAttemptedBytes maxTelemetryBytes := by
    rintro same
    rw [same]
  simp only [validReportDiagnostics, FullRecord.bounded, small] at valid ⊢
  grind

/-- What was accepted is accepted again, and is within its bounds. -/
theorem validateTelemetryRecord_idem {record bounded : FullRecord}
    (accepted : validateTelemetryRecord record = .ok bounded) :
    validateTelemetryRecord bounded = .ok bounded := by
  unfold validateTelemetryRecord at accepted
  simp only [guard_eq_ok_iff] at accepted
  obtain ⟨requestID, closing, report, method, semantics, diagnostics, counters, durations, active,
    actual, same⟩ := accepted
  cases same
  have positive : 0 < maxTelemetryCount ∧ 0 < maxTelemetryBytes ∧ 0 < maxTelemetryDuration := by
    decide
  unfold validateTelemetryRecord
  simp only [guard_eq_ok_iff]
  rw [bounded_bounded, bounded_diagnostics (by simpa using diagnostics)]
  refine ⟨requestID, closing, report, method, semantics, by decide, ?_, ?_, ?_, ?_, rfl⟩
  all_goals
    dsimp only [FullRecord.bounded]
    omega

theorem meets_emitTelemetry {observation : RequestObservation} {core : TelemetryRecord}
    {record : FullRecord} (observed : Observed route observation)
    (recorded : Recorded server observation core record)
    (valid : EventValid route core.event core.outcome core.status)
    (diagnostics : validReportDiagnostics core = true)
    (attempted : core.responseAttemptedBytes = observation.responseAttempted)
    (actual : core.responseBytes = observation.responseActual)
    (unclosed : ledger.closings = [])
    (once : isReportTerminal core.event = true → ledger.reports = []) :
    (emitTelemetry record).Meets (serving server) (fun value after later =>
      value = some () ∧ after = locals ∧ ∃ logged : FullRecord, logged.event = core.event ∧
        logged.outcome = core.outcome ∧ logged.status = core.status ∧
          later = ledger.record logged) locals ledger := by
  obtain ⟨bounded, accepted, event, outcome, status⟩ :=
    validateTelemetryRecord_ok observed recorded valid diagnostics attempted actual
  unfold emitTelemetry
  rw [accepted]
  rw [Handler.meets_bind, Handler.meets_recovering]
  refine (meets_attempt _).mpr ⟨⟨unclosed, ?_, validateTelemetryRecord_idem accepted⟩, ?_⟩
  · rw [event]
    exact once
  · intro answer _
    exact ⟨rfl, rfl, bounded, event, outcome, status, rfl⟩

/-! ## Invariants -/

/-- What holds of a request that is being served. -/
structure Working (route : TelemetryRoute) (locals : Locals) (ledger : Ledger) : Prop where
  observed : Observed route locals.observation
  sent : ledger.sent = if locals.writer.attempted then [locals.writer.status] else []
  status : locals.writer.attempted = true → 100 ≤ locals.writer.status ∧ locals.writer.status ≤ 599
  reports : ledger.reports.length = if locals.observation.reportTerminal then 1 else 0
  terminal : locals.observation.reportTerminal = true → route = .reports
  closings : ledger.closings = []
  admission : ledger.held .admission = locals.admissionHeld
  contextHandlers : ledger.held .contextHandlers = locals.observation.contextAdmitted

/-- Whether an event has been told to the observation. -/
def Locals.told (locals : Locals) (event : TelemetryEvent) : Locals :=
  { locals with observation :=
      { locals.observation with
        reportTerminal := locals.observation.reportTerminal || isReportTerminal event } }

theorem Working.told {event : TelemetryEvent} {record : FullRecord}
    (working : Working route locals ledger) (reports : route = .reports)
    (open' : event ≠ .httpTerminal) (same : record.event = event)
    (once : isReportTerminal event = true → locals.observation.reportTerminal = false) :
    Working route (locals.told event) (ledger.record record) := by
  subst same
  unfold Ledger.record
  rw [if_neg open']
  cases ends : isReportTerminal record.event with
  | false =>
      have told : locals.told record.event = locals := by
        simp [Locals.told, ends]
      rw [told]
      exact working
  | true =>
      have fresh := once ends
      exact
        { observed := { working.observed with }
          sent := working.sent
          status := working.status
          reports := by simp [Locals.told, ends, working.reports, fresh]
          terminal := fun _ => reports
          closings := working.closings
          admission := working.admission
          contextHandlers := working.contextHandlers }

theorem meets_emitRecord {event : TelemetryEvent} {outcome : TelemetryOutcome} {status : Int}
    (working : Working route locals ledger) (valid : EventValid route event outcome status)
    (once : isReportTerminal event = true → locals.observation.reportTerminal = false) :
    (emit server event (some outcome) status).Meets (serving server) (fun value after later =>
      value = some () ∧ after = locals.told event ∧ ∃ logged : FullRecord, logged.event = event ∧
        logged.outcome = outcome ∧ logged.status = status ∧ later = ledger.record logged)
      locals ledger := by
  have told : (Handler.provided (isReportTerminal event = true) (observe fun observation =>
      { observation with reportTerminal := true })).Meets (serving server)
      (fun value after later => value = some () ∧ after = locals.told event ∧ later = ledger)
      locals ledger := by
    rw [Handler.meets_provided]
    split <;> rename_i ends <;> simp [Locals.told, ends]
  have fresh : isReportTerminal event = true → ledger.reports = [] := by
    intro ends
    simpa [once ends] using working.reports
  have observed : Observed route (locals.told event).observation := { working.observed with }
  unfold emit
  apply told.andThen
  · simp
  rintro _ _ _ ⟨-, rfl, rfl⟩
  rw [Handler.meets_bind, Handler.meets_locals, Handler.then_some]
  apply (meets_telemetryRecord _).andThen
  · simp
  rintro _ _ _ ⟨rfl, rfl, record, ⟨rfl⟩, recorded⟩
  exact meets_emitTelemetry observed recorded valid rfl rfl rfl working.closings fresh

theorem meets_emit {event : TelemetryEvent} {outcome : TelemetryOutcome}
    (working : Working route locals ledger) (reports : route = .reports)
    (open' : event ≠ .httpTerminal) (valid : validReportOutcome event outcome = true)
    (once : isReportTerminal event = true → locals.observation.reportTerminal = false) :
    (emit server event (some outcome) 0).Meets (serving server) (fun value after later =>
      value = some () ∧ after = locals.told event ∧ Working route after later ∧
        later.held = ledger.held) locals ledger := by
  have accepted : EventValid route event outcome 0 := by
    rw [EventValid, if_neg open']
    exact ⟨reports, rfl, valid⟩
  refine (meets_emitRecord working accepted once).mono ?_
  rintro _ _ _ ⟨rfl, rfl, record, same, _, _, rfl⟩
  exact ⟨rfl, rfl, working.told reports open' same once, Ledger.record_held _ _⟩

theorem reportFinishRecord_spec (outcome : TelemetryOutcome) (attempted actual : Int)
    (report : FinishedReport) :
    let record := reportFinishRecord outcome attempted actual report
    record.event = .reportFinish ∧ record.outcome = outcome ∧ record.status = 0 ∧
      record.responseAttemptedBytes = attempted ∧ record.responseBytes = actual ∧
        validReportDiagnostics record = true := by
  unfold reportFinishRecord
  split
  · exact ⟨rfl, rfl, rfl, rfl, rfl, rfl⟩
  · dsimp only
    split
    · split
      · rename_i valid
        exact ⟨rfl, rfl, rfl, rfl, rfl, valid⟩
      · exact ⟨rfl, rfl, rfl, rfl, rfl, rfl⟩
    · exact ⟨rfl, rfl, rfl, rfl, rfl, rfl⟩

theorem meets_emitReportFinish {outcome : TelemetryOutcome} {report : ComputedReport}
    (working : Working route locals ledger) (reports : route = .reports)
    (valid : validReportOutcome .reportFinish outcome = true)
    (once : locals.observation.reportTerminal = false) :
    (emitReportFinish server (some outcome) report).Meets (serving server)
      (fun value after later => value = some () ∧ after = locals.told .reportFinish ∧
        Working route after later ∧ later.held = ledger.held) locals ledger := by
  obtain ⟨event, same, status, attempted, actual, diagnostics⟩ :=
    reportFinishRecord_spec outcome (locals.told .reportFinish).observation.responseAttempted
      (locals.told .reportFinish).observation.responseActual report.toFinishedReport
  have fresh : ledger.reports = [] := by
    simpa [once] using working.reports
  have told : Locals.told locals .reportFinish = { locals with observation :=
      { locals.observation with reportTerminal := true } } := by
    simp [Locals.told, isReportTerminal]
  have observed : Observed route (locals.told .reportFinish).observation :=
    { working.observed with }
  unfold emitReportFinish
  rw [Handler.meets_bind, meets_observe, Handler.then_some, Handler.meets_bind,
    Handler.meets_locals, Handler.then_some, ← told]
  apply (meets_telemetryRecord _).andThen
  · simp
  rintro _ _ _ ⟨rfl, rfl, record, ⟨rfl⟩, recorded⟩
  refine (meets_emitTelemetry observed recorded ?_ diagnostics attempted actual working.closings
    fun _ => fresh).mono ?_
  · rw [event, same, status, EventValid, if_neg (by decide)]
    exact ⟨reports, rfl, valid⟩
  · rintro _ _ _ ⟨rfl, rfl, logged, last, _, _, rfl⟩
    exact ⟨rfl, rfl, working.told reports (by decide) (last.trans event) fun _ => once,
      Ledger.record_held _ _⟩

/-! ## Responses -/

/-- At most the head of a response was sent. -/
structure Sent (status : Int) (locals : Locals) (ledger : Ledger) (after : Locals)
    (later : Ledger) : Prop where
  observation : after.observation = locals.observation
  admissionHeld : after.admissionHeld = locals.admissionHeld
  written : after.writer = locals.writer ∧ later = ledger ∨
    after.writer.attempted = true ∧ after.writer.status = status ∧
      later = { ledger with sent := ledger.sent ++ [status] }

theorem Sent.refl (status : Int) : Sent status locals ledger locals ledger :=
  ⟨rfl, rfl, .inl ⟨rfl, rfl⟩⟩

theorem meets_writeHeader {status : Int} (fresh : locals.writer.attempted = false)
    (unsent : ledger.sent = []) :
    (writeHeader status).Meets (serving server) (fun _ after later =>
      after.writer.attempted = true ∧ Sent status locals ledger after later) locals ledger := by
  unfold writeHeader
  rw [Handler.meets_bind, meets_track, Handler.then_some, Handler.meets_bind, fresh]
  refine (meets_attempt _).mpr ⟨unsent, ?_⟩
  rintro (_ | _) _
  · exact ⟨rfl, rfl, rfl, .inr ⟨rfl, rfl, rfl⟩⟩
  · rw [Handler.then_some, meets_track]
    exact ⟨rfl, rfl, rfl, .inr ⟨rfl, rfl, rfl⟩⟩

theorem meets_write {payload : GoString} (begun : locals.writer.attempted = true) :
    (write payload).Meets (serving server) (fun _ after later =>
      after.observation = locals.observation ∧ after.admissionHeld = locals.admissionHeld ∧
        after.writer.attempted = true ∧ after.writer.status = locals.writer.status ∧
          later = ledger) locals ledger := by
  unfold write
  rw [Handler.meets_bind, meets_track, Handler.then_some, Handler.meets_bind, begun]
  refine (meets_quiet rfl).mpr ?_
  rintro (_ | ⟨count, failed⟩) _
  · exact ⟨rfl, rfl, begun, rfl, rfl⟩
  · rw [Handler.then_some, Handler.meets_bind, meets_track, Handler.then_some, Handler.meets_pure]
    refine ⟨rfl, rfl, ?_⟩
    dsimp only
    split <;> exact ⟨begun, rfl, rfl⟩

theorem meets_writePayload {status : Int} {payload : GoString}
    (fresh : locals.writer.attempted = false) (unsent : ledger.sent = []) :
    (writePayload status payload).Meets (serving server) (fun value after later =>
      Sent status locals ledger after later ∧ ∃ (actual : Int) (failed : Bool),
        value = some ((payload.byteLength : Int), actual, failed) ∧
          0 ≤ actual ∧ actual ≤ payload.byteLength) locals ledger := by
  have body : (do
      attempt (.setHeader "Content-Type" "application/json; charset=utf-8")
      attempt (.setHeader "Content-Length" (toString payload.byteLength))
      writeHeader status
      write payload : Serve (Int × Bool)).Meets (serving server)
      (fun _ after later => Sent status locals ledger after later) locals ledger := by
    refine Silent.before (.attempt rfl) (.refl status) fun _ => ?_
    refine Silent.before (.attempt rfl) (.refl status) fun _ => ?_
    apply (meets_writeHeader fresh unsent).andThen
    · rintro after later ⟨_, sent⟩
      exact sent
    · rintro _ after later ⟨begun, sent⟩
      refine (meets_write begun).mono ?_
      rintro value last final ⟨observation, admission, still, same, rfl⟩
      obtain written | ⟨_, status, sending⟩ := sent.written
      · rw [written.1, fresh] at begun
        cases begun
      · exact ⟨observation.trans sent.observation, admission.trans sent.admissionHeld,
          .inr ⟨still, same.trans status, sending⟩⟩
  unfold writePayload
  rw [Handler.meets_bind, Handler.meets_recovering]
  refine body.mono ?_
  rintro (_ | ⟨count, failed⟩) after later sent
  · exact ⟨sent, _, _, rfl, le_rfl, Int.natCast_nonneg _⟩
  · refine ⟨sent, _, _, rfl, le_max_left _ _, ?_⟩
    simp

/-- A response was sent, or sending it failed. -/
structure Answered (route : TelemetryRoute) (status : Int) (outcome : TelemetryOutcome)
    (locals : Locals) (ledger : Ledger) (after : Locals) (later : Ledger) : Prop where
  working : Working route after later
  held : later.held = ledger.held
  told : after.observation.reportTerminal = locals.observation.reportTerminal
  code : after.observation.status = status
  head : after.writer.attempted = true → after.writer.status = status
  admissionHeld : after.admissionHeld = locals.admissionHeld
  ended : ∃ ended, after.observation.outcome = some ended ∧
    (ended = outcome ∨ ended = .writeFailedZero ∨ ended = .writeFailedPartial)

theorem Answered.of_written {status : Int} {outcome : TelemetryOutcome} {after : Locals}
    {later : Ledger} (working : Working route locals ledger) (low : 100 ≤ status)
    (high : status ≤ 599) (fresh : locals.writer.attempted = false)
    (written : after.writer = locals.writer ∧ later = ledger ∨
      after.writer.attempted = true ∧ after.writer.status = status ∧
        later = { ledger with sent := ledger.sent ++ [status] })
    (admission : after.admissionHeld = locals.admissionHeld)
    (observed : Observed route after.observation)
    (told : after.observation.reportTerminal = locals.observation.reportTerminal)
    (admitted : after.observation.contextAdmitted = locals.observation.contextAdmitted)
    (code : after.observation.status = status)
    (ended : ∃ ended, after.observation.outcome = some ended ∧
      (ended = outcome ∨ ended = .writeFailedZero ∨ ended = .writeFailedPartial)) :
    Answered route status outcome locals ledger after later := by
  have unsent : ledger.sent = [] := by
    simpa [fresh] using working.sent
  have reports := working.reports
  have kept := working.admission
  have context := working.contextHandlers
  rw [← told] at reports
  rw [← admission] at kept
  rw [← admitted] at context
  have terminal : after.observation.reportTerminal = true → route = .reports :=
    fun given => working.terminal (told ▸ given)
  obtain ⟨same, rfl⟩ | ⟨begun, known, rfl⟩ := written
  · have idle : after.writer.attempted = false := by rw [same, fresh]
    exact ⟨⟨observed, by simp [idle, unsent], by simp [idle], reports, terminal, working.closings,
      kept, context⟩, rfl, told, code, by simp [idle], admission, ended⟩
  · exact ⟨⟨observed, by simp [begun, known, unsent], by simp [known, low, high], reports, terminal,
      working.closings, kept, context⟩, rfl, told, code, fun _ => known, admission, ended⟩

theorem meets_writeJSONPayload {status : Int} {outcome : TelemetryOutcome} {payload : GoString}
    (working : Working route locals ledger) (fresh : locals.writer.attempted = false)
    (low : 100 ≤ status) (high : status ≤ 599) :
    (writeJSONPayload status outcome payload).Meets (serving server) (fun value after later =>
      value = some () ∧ Answered route status outcome locals ledger after later) locals ledger := by
  have unsent : ledger.sent = [] := by
    simpa [fresh] using working.sent
  unfold writeJSONPayload
  rw [Handler.meets_bind, meets_observe, Handler.then_some]
  refine .andThen (meets_writePayload fresh unsent) ?_ ?_
  · rintro _ _ ⟨_, _, _, given, _⟩
    cases given
  rintro _ after later ⟨sent, actual, failed, ⟨rfl⟩, nonneg, within⟩
  dsimp only
  rw [Handler.meets_bind, meets_elapsed]
  intro spent elapsed
  rw [Handler.then_some, meets_observe, sent.observation]
  have observed := working.observed
  have counters := observed.actual
  have ordered := observed.attempted
  have written := observed.writeDuration
  refine ⟨rfl, .of_written working low high fresh sent.written sent.admissionHeld ?_ rfl rfl rfl ?_⟩
  · exact { observed with
      actual := add_nonneg counters nonneg
      attempted := add_le_add ordered within
      writeDuration := add_nonneg written elapsed }
  · cases failed with
    | false => exact ⟨outcome, rfl, .inl rfl⟩
    | true =>
        by_cases nothing : actual = 0
        · exact ⟨.writeFailedZero, by simp [nothing], .inr (.inl rfl)⟩
        · exact ⟨.writeFailedPartial, by simp [nothing], .inr (.inr rfl)⟩

/-- Every error is told apart by an outcome that goes with its status. -/
theorem apiErrorDefinitionFor_valid (route : TelemetryRoute) (key : ApiErrorKey) :
    100 ≤ (apiErrorDefinitionFor key).status ∧ (apiErrorDefinitionFor key).status ≤ 599 ∧
      validTerminalOutcome route (apiErrorDefinitionFor key).outcome
        (apiErrorDefinitionFor key).status = true := by
  cases key <;> exact ⟨by decide, by decide, rfl⟩

theorem meets_writeAPIError {key : ApiErrorKey} {metadata : ApiErrorMetadata}
    (working : Working route locals ledger) (fresh : locals.writer.attempted = false) :
    (writeAPIError key metadata).Meets (serving server) (fun value after later =>
      value = some () ∧ Answered route (apiErrorDefinitionFor key).status
        (apiErrorDefinitionFor key).outcome locals ledger after later) locals ledger := by
  obtain ⟨low, high, -⟩ := apiErrorDefinitionFor_valid route key
  unfold writeAPIError
  dsimp only
  rw [Handler.meets_bind, Handler.meets_recovering]
  refine Silent.before (silent_applyAPIErrorHeaders _ _) ?_ fun _ => ?_
  · refine ⟨rfl, .of_written working low high fresh (.inl ⟨rfl, rfl⟩) rfl ?_ rfl rfl rfl
      ⟨_, rfl, .inr (.inl rfl)⟩⟩
    exact { working.observed with }
  · refine (meets_writeJSONPayload working fresh low high).mono ?_
    rintro _ after later ⟨rfl, answered⟩
    exact ⟨rfl, answered⟩

end CheckNetwork.Api.Serving
