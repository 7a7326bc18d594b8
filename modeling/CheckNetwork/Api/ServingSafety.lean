import CheckNetwork.Api.ServingBooks
import CheckNetwork.Collection.Census

/-!
# Requests keep their books

Whatever the environment answers, every path through `serveHTTP` gives back the slots that it
took, tells the end of work on a report once, and is closed by one record that agrees with what
was sent.
-/

namespace CheckNetwork.Api.Serving

open Go Runner Telemetry Transition

variable {server : Server} {locals : Locals} {ledger : Ledger} {route : TelemetryRoute}
  {admitted : Bool}

/-! ## Ends of the work -/

/-- A request that the record that closes it describes. -/
structure Settled (route : TelemetryRoute) (locals : Locals) : Prop where
  low : 100 ≤ locals.observation.status
  high : locals.observation.status ≤ 599
  ended : ∃ outcome, locals.observation.outcome = some outcome ∧
    validTerminalOutcome route outcome locals.observation.status = true
  head : locals.writer.attempted = true → locals.writer.status = locals.observation.status
  terminal : route = .reports → locals.observation.reportTerminal = true

/-- Nothing is held that is only borrowed. -/
structure Idle (route : TelemetryRoute) (admitted : Bool) (locals : Locals) (ledger : Ledger) : Prop where
  working : Working route locals ledger
  bodyDecodes : ledger.held .bodyDecodes = false
  responseWrites : ledger.held .responseWrites = false
  admission : locals.admissionHeld = true → admitted = true

/-- A request before anything is answered. -/
structure Ready (route : TelemetryRoute) (admitted : Bool) (locals : Locals) (ledger : Ledger) : Prop
    extends Idle route admitted locals ledger where
  fresh : locals.writer.attempted = false
  untold : locals.observation.reportTerminal = false

/-- Work that has given back what it took, and settled the request unless it panicked. -/
structure Ends {A : Type} (route : TelemetryRoute) (admitted : Bool) (value : Option A) (locals : Locals)
    (ledger : Ledger) : Prop extends Idle route admitted locals ledger where
  settled : value.isSome = true → Settled route locals

theorem Idle.of_held {after : Locals} {later : Ledger} (idle : Idle route admitted locals ledger)
    (working : Working route after later) (held : later.held = ledger.held)
    (admission : after.admissionHeld = locals.admissionHeld) : Idle route admitted after later :=
  ⟨working, by rw [held, idle.bodyDecodes], by rw [held, idle.responseWrites],
    admission ▸ idle.admission⟩

theorem Ready.panicked {A : Type} (ready : Ready route admitted locals ledger) :
    Ends route admitted (none : Option A) locals ledger :=
  ⟨ready.toIdle, nofun⟩

theorem Answered.settled {status : Int} {outcome : TelemetryOutcome} {after last : Locals}
    {later : Ledger} (answered : Answered route status outcome locals ledger after later)
    (low : 100 ≤ status) (high : status ≤ 599)
    (valid : validTerminalOutcome route outcome status = true)
    (code : last.observation.status = after.observation.status)
    (sameOutcome : last.observation.outcome = after.observation.outcome)
    (writer : last.writer = after.writer)
    (terminal : route = .reports → last.observation.reportTerminal = true) :
    Settled route last := by
  obtain ⟨ended, known, cases⟩ := answered.ended
  have settled := code.trans answered.code
  refine ⟨by omega, by omega, ⟨ended, sameOutcome.trans known, ?_⟩, ?_, terminal⟩
  · obtain rfl | rfl | rfl := cases
    · rwa [settled]
    · rfl
    · rfl
  · intro begun
    rw [writer] at begun ⊢
    rw [answered.head begun, settled]

theorem Answered.ends {A : Type} {value : A} {status : Int} {outcome : TelemetryOutcome}
    {after : Locals} {later : Ledger}
    (answered : Answered route status outcome locals ledger after later)
    (ready : Ready route admitted locals ledger) (low : 100 ≤ status) (high : status ≤ 599)
    (valid : validTerminalOutcome route outcome status = true) (others : route ≠ .reports) :
    Ends route admitted (some value) after later :=
  ⟨ready.of_held answered.working answered.held answered.admissionHeld, fun _ =>
    answered.settled low high valid rfl rfl rfl fun reports => absurd reports others⟩

theorem meets_writeAPIError_ends {key : ApiErrorKey} {metadata : ApiErrorMetadata}
    (ready : Ready route admitted locals ledger) (others : route ≠ .reports) :
    (writeAPIError key metadata).Meets (serving server) (Ends route admitted) locals ledger := by
  obtain ⟨low, high, valid⟩ := apiErrorDefinitionFor_valid route key
  apply (meets_writeAPIError ready.working ready.fresh).mono
  rintro _ after later ⟨rfl, answered⟩
  exact answered.ends ready low high valid others

/-- Work that is refused is told once, and answered. -/
theorem meets_rejectReport {key : ApiErrorKey} {metadata : ApiErrorMetadata}
    (ready : Ready .reports admitted locals ledger)
    (rejects : validReportOutcome .reportReject (apiErrorDefinitionFor key).outcome = true) :
    (rejectReport server key metadata).Meets (serving server) (Ends .reports admitted) locals ledger := by
  obtain ⟨low, high, valid⟩ := apiErrorDefinitionFor_valid .reports key
  unfold rejectReport
  apply (meets_emit ready.working rfl (by decide) rejects fun _ => ready.untold).andThen
  · simp
  rintro _ _ later ⟨-, rfl, working, held⟩
  apply (meets_writeAPIError working ready.fresh).mono
  rintro _ last final ⟨rfl, answered⟩
  refine ⟨ready.of_held answered.working (answered.held.trans held) answered.admissionHeld, fun _ => ?_⟩
  exact answered.settled low high valid rfl rfl rfl fun _ => answered.told.trans (by
    simp [Locals.told, isReportTerminal])

/-! ## Reports -/

theorem Working.releaseAdmission (working : Working route locals ledger) :
    Working route { locals with admissionHeld := false } (ledger.drop .admission) :=
  { working with
    admission := by simp
    contextHandlers := by simpa using working.contextHandlers }

theorem meets_releaseAdmission (held : ledger.held .admission = locals.admissionHeld) :
    releaseAdmission.Meets (serving server) (fun value after later => value = some () ∧
      after = { locals with admissionHeld := false } ∧ later = ledger.drop .admission)
      locals ledger := by
  unfold releaseAdmission
  rw [Handler.meets_bind, Handler.meets_locals, Handler.then_some, Handler.meets_provided]
  split
  · rename_i taken
    rw [Handler.meets_bind, meets_release]
    exact ⟨held.trans taken, rfl, rfl, rfl⟩
  · rename_i free
    have none : locals.admissionHeld = false := by simpa using free
    refine ⟨rfl, ?_, ?_⟩
    · rw [← none]
    · rw [Ledger.drop_of_free (held.trans none)]

theorem Idle.releaseAdmission (idle : Idle route admitted locals ledger) :
    Idle route false { locals with admissionHeld := false } (ledger.drop .admission) :=
  { working := idle.working.releaseAdmission
    bodyDecodes := by simpa using idle.bodyDecodes
    responseWrites := by simpa using idle.responseWrites
    admission := nofun }

theorem Ready.releaseAdmission (ready : Ready route admitted locals ledger) :
    Ready route admitted { locals with admissionHeld := false } (ledger.drop .admission) :=
  { ready.toIdle.releaseAdmission with
    fresh := ready.fresh
    untold := ready.untold
    admission := nofun }

theorem meets_failReport {key : ApiErrorKey} (ready : Ready .reports admitted locals ledger)
    (finishes : validReportOutcome .reportFinish (apiErrorDefinitionFor key).outcome = true) :
    (failReport server key).Meets (serving server) (Ends .reports admitted) locals ledger := by
  obtain ⟨low, high, valid⟩ := apiErrorDefinitionFor_valid .reports key
  have freed := ready.releaseAdmission
  unfold failReport
  apply (meets_releaseAdmission ready.working.admission).andThen
  · simp
  rintro _ _ _ ⟨-, rfl, rfl⟩
  refine Silent.before silent_setReportWriteDeadline freed.panicked fun _ => ?_
  apply (meets_writeAPIError freed.working freed.fresh).andThen
  · simp
  rintro _ after later ⟨-, answered⟩
  obtain ⟨ended, known, cases⟩ := answered.ended
  have untold : after.observation.reportTerminal = false := answered.told.trans freed.untold
  have accepted : validReportOutcome .reportFinish ended = true := by
    obtain rfl | rfl | rfl := cases
    · exact finishes
    · rfl
    · rfl
  rw [Handler.meets_bind, Handler.meets_locals, Handler.then_some, known]
  apply (meets_emit answered.working rfl (by decide) accepted fun _ => untold).mono
  rintro _ _ last ⟨rfl, rfl, working, held⟩
  refine ⟨freed.of_held working (held.trans answered.held) answered.admissionHeld, fun _ => ?_⟩
  exact answered.settled low high valid rfl rfl rfl fun _ => by
    simp [Locals.told, isReportTerminal]

/-- A slot that the work does not count is taken or given back. -/
theorem Working.lend {slot : Slot} (taken : Bool) (working : Working route locals ledger)
    (apart : slot = .bodyDecodes ∨ slot = .responseWrites) :
    Working route locals { ledger with held := Function.update ledger.held slot taken } :=
  { working with
    admission := by
      obtain rfl | rfl := apart <;> simpa using working.admission
    contextHandlers := by
      obtain rfl | rfl := apart <;> simpa using working.contextHandlers }

/-- Work that gives its slot for a response back. -/
theorem meets_sending {body : Serve Unit}
    (met : body.Meets (serving server) (fun value after later => Working route after later ∧
      later.held .bodyDecodes = false ∧ later.held .responseWrites = true ∧
        (after.admissionHeld = true → admitted = true) ∧
          (value.isSome = true → Settled route after)) locals ledger) :
    (Handler.deferring (attempt (.release .responseWrites)) body).Meets (serving server)
      (Ends route admitted) locals ledger := by
  rw [Handler.meets_deferring]
  apply met.mono
  rintro value after later ⟨working, decoding, sending, admission, settled⟩
  rw [meets_release]
  refine ⟨sending, ?_⟩
  exact
    { working := working.lend false (.inr rfl)
      bodyDecodes := by simpa using decoding
      responseWrites := by simp
      admission := admission
      settled := settled }

theorem meets_deliverReport {report : ComputedReport} {payload : GoString}
    (ready : Ready .reports admitted locals ledger) :
    (deliverReport server report payload).Meets (serving server) (Ends .reports admitted) locals ledger := by
  unfold deliverReport
  rw [Handler.meets_bind, meets_tryAcquire]
  refine ⟨ready.responseWrites, ?_, ?_⟩
  · rw [Handler.then_some, if_pos rfl]
    have taken : Working _ _ (ledger.take _) := ready.working.lend true (.inr rfl)
    apply (meets_releaseAdmission taken.admission).andThen
    · simp
    rintro _ _ _ ⟨-, rfl, rfl⟩
    have working := taken.releaseAdmission
    have decoding : ((ledger.take .responseWrites).drop .admission).held .bodyDecodes = false := by
      simpa using ready.bodyDecodes
    have sending : ((ledger.take .responseWrites).drop .admission).held .responseWrites = true := by
      simp
    apply meets_sending
    refine Silent.before silent_setReportWriteDeadline ⟨working, decoding, sending, nofun, nofun⟩
      fun _ => ?_
    refine .andThen (meets_writeJSONPayload working ready.fresh (by decide) (by decide)) ?_ ?_
    · simp
    rintro _ after later ⟨-, answered⟩
    obtain ⟨ended, known, cases⟩ := answered.ended
    have accepted : validReportOutcome .reportFinish ended = true := by
      obtain rfl | rfl | rfl := cases <;> rfl
    rw [Handler.meets_bind, Handler.meets_locals, Handler.then_some, known]
    refine (meets_emitReportFinish answered.working rfl accepted
      (answered.told.trans ready.untold)).mono ?_
    rintro _ _ last ⟨rfl, rfl, still, held⟩
    refine ⟨still, ?_, ?_, ?_, fun _ => ?_⟩
    · rw [held, answered.held, decoding]
    · rw [held, answered.held, sending]
    · exact fun given => absurd given (by simp [Locals.told, answered.admissionHeld])
    · exact answered.settled (by decide) (by decide) rfl rfl rfl rfl fun _ => by
        simp [Locals.told, isReportTerminal]
  · exact meets_failReport ready rfl

theorem Ready.told {event : TelemetryEvent} {later : Ledger} (ready : Ready route admitted locals ledger)
    (working : Working route (locals.told event) later) (held : later.held = ledger.held)
    (open' : isReportTerminal event = false) : Ready route admitted (locals.told event) later :=
  { ready.of_held working held rfl with
    fresh := ready.fresh
    untold := by simp [Locals.told, open', ready.untold] }

/-- A record of the progress of a report. -/
theorem meets_progress {A : Type} {event : TelemetryEvent} {next : Serve A}
    {post : Option A → Locals → Ledger → Prop} (ready : Ready route admitted locals ledger)
    (reports : route = .reports) (open' : isReportTerminal event = false)
    (progress : validReportOutcome event .ok = true)
    (met : ∀ later, Ready route admitted (locals.told event) later → later.held = ledger.held →
      next.Meets (serving server) post (locals.told event) later) :
    (do emit server event (some .ok) 0; next).Meets (serving server) post locals ledger := by
  have other : event ≠ .httpTerminal := by
    rintro rfl
    cases progress
  have closed : isReportTerminal event = true → locals.observation.reportTerminal = false := by
    simp [open']
  apply (meets_emit ready.working reports other progress closed).andThen
  · simp
  · rintro _ _ later ⟨-, rfl, working, held⟩
    exact met later (ready.told working held open') held

theorem Ready.observe {changed : RequestObservation} (ready : Ready route admitted locals ledger)
    (observed : Observed route changed)
    (told : changed.reportTerminal = locals.observation.reportTerminal)
    (context : changed.contextAdmitted = locals.observation.contextAdmitted) :
    Ready route admitted { locals with observation := changed } ledger :=
  { ready with
    working := { ready.working with
      observed := observed
      reports := by simpa [told] using ready.working.reports
      terminal := fun given => ready.working.terminal (told ▸ given)
      contextHandlers := ready.working.contextHandlers.trans context.symm }
    untold := told.trans ready.untold }

theorem Ready.ran (ready : Ready route admitted locals ledger) {spent : Int} (nonneg : 0 ≤ spent) :
    Ready route admitted { locals with observation :=
      { locals.observation with runnerDuration := spent } } ledger :=
  ready.observe { ready.working.observed with runnerDuration := nonneg } rfl rfl

theorem Ready.marshalled (ready : Ready route admitted locals ledger) {spent : Int} (nonneg : 0 ≤ spent) :
    Ready route admitted { locals with observation :=
      { locals.observation with marshalDuration := spent } } ledger :=
  ready.observe { ready.working.observed with marshalDuration := nonneg } rfl rfl

/-- A request that was given up by its client. -/
def Locals.cancel (locals : Locals) : Locals :=
  { locals with observation :=
      { locals.observation with status := 499, outcome := some .cancel } }

theorem Ready.cancel (ready : Ready route admitted locals ledger) : Ready route admitted locals.cancel ledger :=
  ready.observe { ready.working.observed with } rfl rfl

theorem settled_of_cancel (fresh : locals.writer.attempted = false)
    (code : locals.observation.status = 499) (ended : locals.observation.outcome = some .cancel)
    (known : route = .reports ∨ route = .ipContext)
    (terminal : route = .reports → locals.observation.reportTerminal = true) :
    Settled route locals := by
  refine ⟨by omega, by omega, ⟨.cancel, ended, ?_⟩, ?_, terminal⟩
  · rw [code]
    simpa [validTerminalOutcome] using known
  · simp [fresh]

theorem meets_presentReport {mode : TopologyMode} {geoDetails : Bool} {report : ComputedReport}
    (ready : Ready .reports admitted locals ledger) :
    (presentReport server mode geoDetails report).Meets (serving server) (Ends .reports admitted) locals
      ledger := by
  unfold presentReport
  rw [Handler.meets_bind, meets_cancelled]
  rintro (_ | _)
  · rw [Handler.then_some, if_neg (by decide)]
    apply meets_progress ready rfl rfl rfl
    intro later ready _
    split
    · -- The policy turns the report away after it was computed.
      apply (meets_releaseAdmission ready.working.admission).andThen
      · simp
      rintro _ _ _ ⟨-, rfl, rfl⟩
      have freed := ready.releaseAdmission
      refine Silent.before silent_setReportWriteDeadline freed.panicked fun _ => ?_
      have rejected : (rejectReport server .networkPolicy {}).Meets (serving server)
        (Ends .reports admitted) _ _ := meets_rejectReport freed rfl
      exact rejected
    · refine Silent.before (.attempt rfl) ready.panicked fun marshalled => ?_
      rw [Handler.meets_bind, meets_elapsed]
      intro spent nonneg
      rw [Handler.then_some, Handler.meets_bind, meets_observe, Handler.then_some]
      have timed := ready.marshalled nonneg
      match marshalled with
      | .error failure =>
          apply meets_failReport timed
          cases failure <;> rfl
      | .ok payload => exact meets_deliverReport timed
  · rw [Handler.then_some, if_pos rfl]
    apply (meets_releaseAdmission ready.working.admission).andThen
    · simp
    rintro _ _ _ ⟨-, rfl, rfl⟩
    have freed := ready.releaseAdmission.cancel
    rw [Handler.meets_bind, meets_observe, Handler.then_some]
    apply (meets_emit freed.working rfl (by decide) rfl fun _ => freed.untold).mono
    rintro _ _ last ⟨rfl, rfl, working, held⟩
    refine ⟨freed.of_held working held rfl, fun _ => ?_⟩
    exact settled_of_cancel freed.fresh rfl rfl (.inl rfl) fun _ => by
      simp [Locals.told, isReportTerminal]

theorem meets_runReport {decoded : Runner.Request} {geoDetails : Bool}
    (ready : Ready .reports admitted locals ledger) :
    (runReport server decoded geoDetails).Meets (serving server) (Ends .reports admitted) locals ledger := by
  unfold runReport
  apply meets_progress ready rfl rfl rfl
  intro later ready _
  rw [Handler.meets_bind, Handler.meets_locals, Handler.then_some]
  refine Silent.before (.attempt rfl) ready.panicked fun report => ?_
  rw [Handler.meets_bind, meets_elapsed]
  intro spent nonneg
  rw [Handler.then_some, Handler.meets_bind, meets_observe, Handler.then_some]
  have timed := ready.ran nonneg
  match report with
  | none => exact meets_failReport timed rfl
  | some report => exact meets_presentReport timed

/-- A body was read, or the request is settled. -/
def Decodes : Option (Option Runner.Request) → Locals → Ledger → Prop
  | some (some _), locals, ledger => Ready .reports false locals ledger
  | value, locals, ledger => Ends .reports false value locals ledger

theorem Ends.refused {A B : Type} {value : A} {other : B}
    (ends : Ends route admitted (some value) locals ledger) :
    Ends route admitted (some other) locals ledger :=
  { ends with settled := fun _ => ends.settled rfl }

theorem meets_refuseDecoding {key : ApiErrorKey} {metadata : ApiErrorMetadata}
    (ready : Ready .reports false locals ledger)
    (rejects : validReportOutcome .reportReject (apiErrorDefinitionFor key).outcome = true) :
    (do rejectReport server key metadata; return none).Meets (serving server) Decodes
      locals ledger := by
  apply (meets_rejectReport ready rejects).andThen
  · exact fun _ _ ends => { ends with settled := nofun }
  · exact fun _ _ _ ends => ends.refused

theorem Ready.returned {slot : Slot} (ready : Ready route admitted locals ledger)
    (free : ledger.held slot = false) :
    Ready route admitted locals ((ledger.take slot).drop slot) := by
  have same : (ledger.take slot).drop slot = ledger := by
    unfold Ledger.take Ledger.drop
    rw [Function.update_idem, ← free, Function.update_eq_self]
  rw [same]
  exact ready

/-- Work that borrows a slot and leaves no other trace. -/
theorem meets_borrowing {A : Type} {slot : Slot} {body : Serve A} (silent : Silent server body)
    {post : Option A → Locals → Ledger → Prop}
    (met : ∀ value, post value locals ((ledger.take slot).drop slot)) :
    (Handler.deferring (attempt (.release slot)) body).Meets (serving server) post locals
      (ledger.take slot) := by
  rw [Handler.meets_deferring]
  refine silent.meets fun value => ?_
  rw [meets_release]
  exact ⟨by simp, met value⟩

theorem meets_decodeReportRequest {request : HttpRequest}
    (ready : Ready .reports false locals ledger) :
    (decodeReportRequest server request).Meets (serving server) Decodes locals ledger := by
  unfold decodeReportRequest
  split
  · exact meets_refuseDecoding ready rfl
  rw [Handler.meets_bind, meets_tryAcquire]
  refine ⟨ready.bodyDecodes, ?_, ?_⟩
  · rw [Handler.then_some, if_pos rfl, Handler.meets_bind]
    have returned := ready.returned ready.bodyDecodes
    refine meets_borrowing silent_decodeBody ?_
    rintro (_ | failure | decoded)
    · exact returned.panicked
    · apply meets_refuseDecoding returned
      cases failure <;> rfl
    · exact returned
  · exact meets_refuseDecoding ready rfl

theorem Ready.admit (ready : Ready route admitted locals ledger) :
    Ready route true { locals with admissionHeld := true } (ledger.take .admission) :=
  { working := { ready.working with
      admission := by simp
      contextHandlers := by simpa using ready.working.contextHandlers }
    fresh := ready.fresh
    untold := ready.untold
    bodyDecodes := by simpa using ready.bodyDecodes
    responseWrites := by simpa using ready.responseWrites
    admission := fun _ => rfl }

theorem meets_createReport {request : HttpRequest} (ready : Ready .reports false locals ledger) :
    (createReport server request).Meets (serving server) (Ends .reports false) locals ledger := by
  unfold createReport
  split
  · exact meets_rejectReport ready rfl
  apply (meets_decodeReportRequest ready).andThen
  · exact fun _ _ ends => { ends with settled := nofun }
  rintro (_ | decoded) after later decodes
  · exact Ends.refused decodes
  have ready : Ready .reports false after later := decodes
  dsimp only
  split
  · exact meets_rejectReport ready rfl
  have free : later.held .admission = false := by
    rw [ready.working.admission]
    exact Bool.eq_false_iff.mpr fun held => Bool.false_ne_true (ready.admission held)
  rw [Handler.meets_bind, meets_tryAcquire]
  refine ⟨free, ?_, ?_⟩
  · rw [Handler.then_some, if_pos rfl, Handler.meets_bind, Handler.meets_modify, Handler.then_some]
    apply meets_progress ready.admit rfl rfl rfl
    intro final begun _
    rw [Handler.meets_deferring]
    apply (meets_runReport begun).mono
    intro value last ended ends
    apply (meets_releaseAdmission ends.working.admission).mono
    rintro _ _ _ ⟨rfl, rfl, rfl⟩
    exact ⟨ends.releaseAdmission, fun given => { ends.settled given with }⟩
  · exact meets_rejectReport ready rfl

/-! ## Address contexts -/

theorem meets_cancelContext (ready : Ready .ipContext admitted locals ledger) :
    cancelContext.Meets (serving server) (Ends .ipContext admitted) locals ledger := by
  have moved := ready.cancel
  unfold cancelContext
  rw [meets_observe]
  exact ⟨moved.toIdle, fun _ => settled_of_cancel moved.fresh rfl rfl (.inr rfl) nofun⟩

theorem meets_failContext {key : ApiErrorKey} (ready : Ready .ipContext admitted locals ledger) :
    (failContext server key).Meets (serving server) (Ends .ipContext admitted) locals ledger := by
  unfold failContext
  rw [Handler.meets_bind, meets_cancelled]
  rintro (_ | _)
  · exact meets_writeAPIError_ends ready (by decide)
  · exact meets_cancelContext ready

theorem meets_deliverContext {value : Context.IPContext}
    (ready : Ready .ipContext admitted locals ledger) :
    (deliverContext server value).Meets (serving server) (Ends .ipContext admitted) locals
      ledger := by
  unfold deliverContext
  split
  · exact meets_failContext ready
  rw [Handler.meets_bind, meets_tryAcquire]
  refine ⟨ready.responseWrites, ?_, ?_⟩
  · rw [Handler.then_some, if_pos rfl]
    apply meets_sending
    have working : Working _ _ (ledger.take _) := ready.working.lend true (.inr rfl)
    apply (meets_writeJSONPayload working ready.fresh (by decide) (by decide)).mono
    rintro _ after later ⟨rfl, answered⟩
    refine ⟨answered.working, ?_, ?_, ?_, fun _ => ?_⟩
    · rw [answered.held]
      simpa using ready.bodyDecodes
    · rw [answered.held]
      simp
    · rw [answered.admissionHeld]
      exact ready.admission
    · exact answered.settled (by decide) (by decide) rfl rfl rfl rfl nofun
  · exact meets_failContext ready

theorem meets_lookupContext {request : HttpRequest} {body : GoString}
    (ready : Ready .ipContext admitted locals ledger) :
    (lookupContext server request body).Meets (serving server) (Ends .ipContext admitted) locals
      ledger := by
  unfold lookupContext
  split
  · exact meets_failContext ready
  · exact meets_failContext ready
  split
  · exact meets_failContext ready
  split
  · exact meets_failContext ready
  refine Silent.before (.attempt rfl) ready.panicked fun found => ?_
  rw [Handler.meets_bind, meets_cancelled]
  rintro (_ | _)
  · match found with
    | .error .busy => exact meets_failContext ready
    | .error .other => exact meets_failContext ready
    | .ok value => exact meets_deliverContext ready
  · exact meets_cancelContext ready

theorem meets_readContext {request : HttpRequest} (ready : Ready .ipContext admitted locals ledger) :
    (readContext server request).Meets (serving server) (Ends .ipContext admitted) locals
      ledger := by
  unfold readContext
  split
  · exact meets_failContext ready
  rw [Handler.meets_bind, meets_tryAcquire]
  refine ⟨ready.bodyDecodes, ?_, ?_⟩
  · rw [Handler.then_some, if_pos rfl, Handler.meets_bind]
    have returned := ready.returned ready.bodyDecodes
    refine meets_borrowing (.attempt rfl) ?_
    rintro (_ | failure | body)
    · exact returned.panicked
    · exact meets_failContext returned
    · exact meets_lookupContext returned
  · exact meets_failContext ready

theorem meets_createIPContext {request : HttpRequest}
    (ready : Ready .ipContext admitted locals ledger)
    (outside : locals.observation.contextAdmitted = false) :
    (createIPContext server request).Meets (serving server) (Ends .ipContext admitted) locals
      ledger := by
  unfold createIPContext
  rw [Handler.meets_bind, meets_cancelled]
  rintro (_ | _)
  · rw [Handler.then_some, if_neg (by decide), Handler.meets_bind, meets_tryAcquire]
    refine ⟨ready.working.contextHandlers.trans outside, ?_, ?_⟩
    · rw [Handler.then_some, if_pos rfl, Handler.meets_bind, meets_observe, Handler.then_some]
      apply meets_readContext
      exact
        { working := { ready.working with
            observed := { ready.working.observed with }
            admission := by simpa using ready.working.admission
            contextHandlers := by simp }
          fresh := ready.fresh
          untold := ready.untold
          bodyDecodes := by simpa using ready.bodyDecodes
          responseWrites := by simpa using ready.responseWrites
          admission := ready.admission }
    · exact meets_failContext ready
  · exact meets_cancelContext ready

/-! ## Routes -/

theorem meets_writeTypedOK {response : TypedResponse} (ready : Ready route admitted locals ledger)
    (others : route ≠ .reports) :
    (writeTypedOK response).Meets (serving server) (Ends route admitted) locals ledger := by
  unfold writeTypedOK
  refine Silent.before (.attempt rfl) ready.panicked fun payload => ?_
  rw [Handler.meets_bind, meets_elapsed]
  intro spent nonneg
  rw [Handler.then_some, Handler.meets_bind, meets_observe, Handler.then_some]
  have timed := ready.marshalled (add_nonneg ready.working.observed.marshalDuration nonneg)
  match payload with
  | none => exact meets_writeAPIError_ends timed others
  | some payload =>
      apply (meets_writeJSONPayload timed.working timed.fresh (by decide) (by decide)).mono
      rintro _ after later ⟨rfl, answered⟩
      exact answered.ends timed (by decide) (by decide) rfl others

theorem meets_writeEmpty (ready : Ready route admitted locals ledger) (others : route ≠ .reports) :
    (writeEmpty 204 .ok).Meets (serving server) (Ends route admitted) locals ledger := by
  have unsent : ledger.sent = [] := by
    simpa [ready.fresh] using ready.working.sent
  unfold writeEmpty
  rw [Handler.meets_bind, meets_observe, Handler.then_some, Handler.meets_bind,
    Handler.meets_recovering]
  refine .mono (meets_writeHeader ready.fresh unsent) ?_
  rintro value ⟨observation, writer, held⟩ later ⟨_, same, admission, written⟩
  dsimp only at same
  subst same
  have answered : ∀ ended, (ended = .ok ∨ ended = .writeFailedZero ∨ ended = .writeFailedPartial) →
      Answered route 204 .ok locals ledger
        ⟨{ locals.observation with status := 204, outcome := some ended }, writer, held⟩ later := by
    intro ended cases
    exact .of_written ready.working (by decide) (by decide) ready.fresh written admission
      { ready.working.observed with } rfl rfl rfl ⟨ended, rfl, cases⟩
  rw [Handler.then_some, Handler.meets_provided]
  split
  · rw [meets_observe]
    exact (answered .writeFailedZero (.inr (.inl rfl))).ends ready (by decide) (by decide) rfl others
  · exact (answered .ok (.inl rfl)).ends ready (by decide) (by decide) rfl others

/-- Only routes without a status are served. -/
theorem classifyRequest_served {request : HttpRequest} (served : (classifyRequest request).2 = 0) :
    (classifyRequest request).1 ≠ .unmatched := by
  intro unmatched
  unfold classifyRequest at served unmatched
  grind

theorem classifyRequest_unserved {request : HttpRequest}
    (unserved : (classifyRequest request).2 ≠ 0) : (classifyRequest request).1 = .unmatched := by
  unfold classifyRequest at unserved ⊢
  grind

theorem meets_refuseDraining (ready : Ready route false locals ledger) :
    (refuseDraining server route).Meets (serving server) (Ends route false) locals ledger := by
  unfold refuseDraining
  split
  · rename_i reports
    subst reports
    exact meets_rejectReport ready rfl
  · rename_i others
    exact meets_writeAPIError_ends ready others

theorem meets_refuseClient {outcome : TelemetryOutcome} {key : ApiErrorKey}
    {metadata : ApiErrorMetadata} (ready : Ready route false locals ledger)
    (same : outcome = (apiErrorDefinitionFor key).outcome)
    (rejects : validReportOutcome .reportReject outcome = true) :
    (refuseClient server route outcome key metadata).Meets (serving server) (Ends route false)
      locals ledger := by
  subst same
  unfold refuseClient Handler.provided
  split
  · rename_i reports
    subst reports
    have rejected : (rejectReport server key metadata).Meets (serving server)
      (Ends .reports false) locals ledger := meets_rejectReport ready rejects
    exact rejected
  · rename_i others
    refine Silent.before (.pure ()) ready.panicked fun _ => ?_
    exact meets_writeAPIError_ends ready others

theorem meets_dispatch {request : HttpRequest}
    (ready : Ready (classifyRequest request).1 false locals ledger)
    (outside : locals.observation.contextAdmitted = false) :
    (dispatch server request).Meets (serving server) (Ends (classifyRequest request).1 false) locals
      ledger := by
  unfold dispatch
  dsimp only
  split
  · rename_i unserved
    have others : (classifyRequest request).1 ≠ .reports := by
      rw [classifyRequest_unserved unserved]
      decide
    split
    · exact meets_writeAPIError_ends ready others
    · exact meets_writeAPIError_ends ready others
  rename_i served
  have served := classifyRequest_served (not_not.mp served)
  refine Silent.before (silent_isDraining _) ready.panicked ?_
  rintro (_ | _)
  · generalize (classifyRequest request).1 = route at *
    cases route with
    | health => exact meets_writeTypedOK ready (by decide)
    | checks => exact meets_writeTypedOK ready (by decide)
    | ipContext => exact meets_createIPContext ready outside
    | reports => exact meets_createReport ready
    | options => exact meets_writeEmpty ready (by decide)
    | unmatched => exact absurd rfl served
  · exact meets_refuseDraining ready

theorem meets_admitClient {request : HttpRequest}
    (ready : Ready (classifyRequest request).1 false locals ledger)
    (outside : locals.observation.contextAdmitted = false) :
    (admitClient server request (classifyRequest request).1).Meets (serving server)
      (Ends (classifyRequest request).1 false) locals ledger := by
  unfold admitClient
  refine Silent.before (.attempt rfl) ready.panicked ?_
  rintro ⟨_ | _, retryAfter⟩
  · exact meets_refuseClient ready rfl rfl
  · exact meets_dispatch ready outside

theorem meets_authorize {request : HttpRequest}
    (ready : Ready (classifyRequest request).1 false locals ledger)
    (outside : locals.observation.contextAdmitted = false) :
    (authorize server request).Meets (serving server) (Ends (classifyRequest request).1 false)
      locals ledger := by
  have served : ∀ locals ledger, Ready (classifyRequest request).1 false locals ledger →
      locals.observation.contextAdmitted = false →
      (if server.isPublic ∧ request.method ≠ "OPTIONS" then
        if hasAPIKey server request.authorization then
          admitClient server request (classifyRequest request).1
        else refuseClient server (classifyRequest request).1 .unauthorized .unauthorized {}
      else dispatch server request).Meets (serving server) (Ends (classifyRequest request).1 false)
        locals ledger := by
    intro locals ledger ready outside
    split
    · split
      · exact meets_admitClient ready outside
      · exact meets_refuseClient ready rfl rfl
    · exact meets_dispatch ready outside
  unfold authorize
  dsimp only
  refine Silent.before (.provided (.attempt rfl)) ready.panicked fun _ => ?_
  refine Silent.before silent_setSecurityHeaders ready.panicked fun _ => ?_
  refine Silent.before (.provided (silent_setCORSHeaders _)) ready.panicked fun _ => ?_
  by_cases reports : (classifyRequest request).1 = .reports
  · unfold Handler.provided
    rw [if_pos reports]
    exact meets_progress ready reports rfl rfl fun later told _ => served _ later told outside
  · unfold Handler.provided
    rw [if_neg reports]
    exact Silent.before (.pure ()) ready.panicked fun _ => served locals ledger ready outside

/-! ## The end of a request -/

theorem meets_answerPanic (working : Working route locals ledger) :
    answerPanic.Meets (serving server) (fun value after later =>
      value = some () ∧ 100 ≤ after.observation.status ∧ after.observation.status ≤ 599 ∧
        Answered route after.observation.status .panicSafeFailure locals ledger after later)
      locals ledger := by
  unfold answerPanic
  rw [Handler.meets_bind, meets_observe, Handler.then_some, Handler.meets_bind,
    Handler.meets_locals, Handler.then_some]
  have marked : Working route { locals with observation :=
      { locals.observation with outcome := some .panicSafeFailure } } ledger :=
    { working with observed := { working.observed with } }
  dsimp only
  split
  · rename_i sending
    obtain ⟨low, high⟩ := working.status sending.1
    rw [meets_observe]
    exact ⟨rfl, low, high,
      { working := { working with observed := { working.observed with } }
        held := rfl
        told := rfl
        code := rfl
        head := fun _ => rfl
        admissionHeld := rfl
        ended := ⟨_, rfl, .inl rfl⟩ }⟩
  · rename_i idle
    have fresh : locals.writer.attempted = false := by
      rw [Bool.eq_false_iff]
      intro begun
      have low := (working.status begun).1
      exact idle ⟨begun, by omega⟩
    rw [Handler.meets_bind, meets_observe, Handler.then_some]
    have failing : Working route { locals with observation :=
        { locals.observation with status := 500, outcome := some .panicSafeFailure } } ledger :=
      { working with observed := { working.observed with } }
    apply (meets_writeAPIError failing fresh).andThen
    · simp
    rintro _ after later ⟨-, answered⟩
    rw [meets_observe]
    have code : after.observation.status = 500 := answered.code
    exact ⟨rfl, by simp [code], by simp [code],
      { answered with
        working := { answered.working with observed := { answered.working.observed with } }
        code := rfl
        head := fun begun => (answered.head begun).trans code.symm
        ended := ⟨_, rfl, .inl rfl⟩ }⟩

/-- Everything but the slot of a handler was given back, and the request is settled. -/
def Done (route : TelemetryRoute) (locals : Locals) (ledger : Ledger) : Prop :=
  Ends route false (some ()) locals ledger

theorem meets_containPanic (ends : Ends route false (none : Option Unit) locals ledger) :
    (containPanic server).Meets (serving server) (fun value after later =>
      value = some () ∧ Done route after later) locals ledger := by
  unfold containPanic
  rw [Handler.meets_bind, Handler.meets_recovering]
  apply (meets_answerPanic ends.working).andThen
  · simp
  rintro _ after later ⟨-, low, high, answered⟩
  have idle := ends.of_held answered.working answered.held answered.admissionHeld
  rw [Handler.meets_bind, Handler.meets_locals, Handler.then_some, Handler.meets_provided,
    answered.working.observed.routed]
  split
  · rename_i untold
    obtain ⟨reports, fresh⟩ := untold
    have fresh : after.observation.reportTerminal = false := by simpa using fresh
    apply (meets_emit answered.working reports (by decide) rfl fun _ => fresh).mono
    rintro _ _ last ⟨rfl, rfl, working, held⟩
    refine ⟨rfl, idle.of_held working held rfl, fun _ => ?_⟩
    exact answered.settled low high rfl rfl rfl rfl fun _ => by simp [Locals.told, isReportTerminal]
  · rename_i told
    refine ⟨rfl, idle, fun _ => answered.settled low high rfl rfl rfl rfl fun reports => ?_⟩
    simpa [reports] using told

/-- A settled request keeps its status. -/
theorem meets_settleStatus (settled : Settled route locals) :
    settleStatus.Meets (serving server) (fun value after later =>
      value = some () ∧ after = locals ∧ later = ledger) locals ledger := by
  have low := settled.low
  unfold settleStatus
  rw [Handler.meets_bind, Handler.meets_locals, Handler.then_some]
  dsimp only
  rw [Handler.meets_provided, if_neg (by omega)]
  exact ⟨rfl, rfl, rfl⟩

/-- The books of a request that was served. -/
structure Ledger.Balanced (route : TelemetryRoute) (ledger : Ledger) : Prop where
  held : ∀ slot, ledger.held slot = false
  closed : ∃ closing : FullRecord, ledger.closings = [closing] ∧
    (ledger.sent = [] ∨ ledger.sent = [closing.status])
  reports : ledger.reports.length = if route = .reports then 1 else 0

theorem Done.sent (done : Done route locals ledger) :
    ledger.sent = [] ∨ ledger.sent = [locals.observation.status] := by
  rw [done.working.sent]
  split
  · rename_i begun
    rw [(done.settled rfl).head begun]
    exact .inr rfl
  · exact .inl rfl

theorem Done.reports (done : Done route locals ledger) :
    ledger.reports.length = if route = .reports then 1 else 0 := by
  rw [done.working.reports]
  by_cases same : route = .reports
  · rw [if_pos same, if_pos ((done.settled rfl).terminal same)]
  · rw [if_neg same, if_neg fun told => same (done.working.terminal told)]

theorem Done.free (done : Done route locals ledger) :
    ∀ slot ≠ .contextHandlers, ledger.held slot = false := by
  intro slot other
  cases slot with
  | admission =>
      rw [done.working.admission, Bool.eq_false_iff]
      exact fun held => Bool.false_ne_true (done.admission held)
  | bodyDecodes => exact done.bodyDecodes
  | responseWrites => exact done.responseWrites
  | contextHandlers => exact absurd rfl other

theorem meets_closeRequest (done : Done route locals ledger) :
    (closeRequest server).Meets (serving server) (fun value _ later =>
      value = some () ∧ later.Balanced route) locals ledger := by
  have working := done.working
  have settled := done.settled rfl
  obtain ⟨outcome, ended, valid⟩ := settled.ended
  have accepted : EventValid route .httpTerminal outcome locals.observation.status := by
    rw [EventValid, if_pos rfl]
    exact ⟨settled.low, settled.high, valid⟩
  unfold closeRequest
  apply (meets_settleStatus settled).andThen
  · simp
  rintro _ locals ledger ⟨-, rfl, rfl⟩
  rw [Handler.meets_bind, Handler.meets_locals, Handler.then_some]
  dsimp only
  rw [ended]
  apply (meets_emitRecord working accepted fun report => absurd report (by decide)).andThen
  · simp
  rintro _ _ _ ⟨-, rfl, closing, event, _, status, rfl⟩
  have logged : ledger.record closing = { ledger with closings := [closing] } := by
    rw [Ledger.record, if_pos event, working.closings, List.nil_append]
  have closed : ∃ last : FullRecord, [closing] = [last] ∧
      (ledger.sent = [] ∨ ledger.sent = [last.status]) := ⟨closing, rfl, status ▸ done.sent⟩
  rw [Handler.meets_provided, logged]
  split
  · rename_i inside
    rw [meets_release]
    refine ⟨working.contextHandlers.trans inside, rfl, fun slot => ?_, closed, done.reports⟩
    by_cases same : slot = .contextHandlers
    · simp [same]
    · simpa [same] using done.free slot same
  · rename_i outside
    refine ⟨rfl, fun slot => ?_, closed, done.reports⟩
    by_cases same : slot = .contextHandlers
    · rw [same]
      exact working.contextHandlers.trans (Bool.eq_false_iff.mpr outside)
    · exact done.free slot same

theorem meets_finish {value : Option Unit} (ends : Ends route false value locals ledger) :
    (finish server value.isNone).Meets (serving server) (fun value _ later =>
      value = some () ∧ later.Balanced route) locals ledger := by
  unfold finish Handler.provided
  cases value with
  | none =>
      apply (meets_containPanic ends).andThen
      · simp
      · exact fun _ _ _ done => meets_closeRequest done.2
  | some value =>
      refine Handler.meets_bind.mpr ?_
      exact meets_closeRequest ends

/-! ## A request from its start -/

theorem hexDigit_valid {value : Nat} (small : value < 16) :
    (hexDigit value).bytes.length = 1 ∧ validLowerHex [hexDigit value] = true := by
  interval_cases value <;> exact ⟨rfl, rfl⟩

theorem hexText_valid (bytes : List UInt8) :
    (hexText bytes).byteLength = 2 * bytes.length ∧ validLowerHex (hexText bytes) = true := by
  induction bytes with
  | nil => exact ⟨rfl, rfl⟩
  | cons byte bytes ih =>
      have bounded : byte.toNat / 16 < 16 := Nat.div_lt_of_lt_mul byte.toNat_lt
      obtain ⟨highLength, high⟩ := hexDigit_valid bounded
      obtain ⟨lowLength, low⟩ := hexDigit_valid (Nat.mod_lt byte.toNat (by decide))
      have text : hexText (byte :: bytes) =
          hexDigit (byte.toNat / 16) :: hexDigit (byte.toNat % 16) :: hexText bytes := rfl
      rw [text]
      constructor
      · have length := ih.1
        unfold GoString.byteLength at length ⊢
        simp only [List.map_cons, List.sum_cons, highLength, lowLength, List.length_cons, length]
        omega
      · unfold validLowerHex at high low ih ⊢
        simp only [List.all_cons, List.all_nil, Bool.and_true] at high low ⊢
        rw [high, low, ih.2]
        rfl

theorem validRequestID_hexText (bytes : Vector UInt8 16) :
    validRequestID ("req_" ++ hexText bytes.toList) = true := by
  obtain ⟨length, valid⟩ := hexText_valid bytes.toList
  have four : GoString.ofString "req_" = [.scalar 'r', .scalar 'e', .scalar 'q', .scalar '_'] := rfl
  have size : (GoString.ofString "req_" ++ hexText bytes.toList).byteLength = 36 := by
    unfold GoString.byteLength at length ⊢
    rw [List.map_append, List.sum_append, length, Vector.length_toList]
    rfl
  rw [validRequestID, decide_eq_true_iff]
  refine ⟨size, ?_, ?_⟩
  · rw [four]
    rfl
  · rw [four]
    exact valid

theorem validReportID_hexText (bytes : Vector UInt8 12) :
    validReportID ([] ++ hexText bytes.toList) = true := by
  obtain ⟨length, valid⟩ := hexText_valid bytes.toList
  rw [List.nil_append, validReportID, decide_eq_true_iff]
  constructor
  · rw [length, Vector.length_toList]
    rfl
  · exact valid

theorem telemetryMethod_valid (method : String) :
    validTelemetryMethod (telemetryMethod method) = true := by
  unfold telemetryMethod validTelemetryMethod
  split
  · rename_i known
    simp only [List.mem_cons] at known ⊢
    simp only [decide_eq_true_eq]
    tauto
  · rfl

theorem classifyRequest_method (request : HttpRequest) :
    validTerminalRouteMethod (classifyRequest request).1 (telemetryMethod request.method) =
      true := by
  have known : ∀ method, request.method = method → telemetryMethod method = method →
      telemetryMethod request.method = method := by
    rintro _ rfl same
    exact same
  unfold classifyRequest
  split_ifs with options <;> try rfl
  · exact decide_eq_true (known "OPTIONS" options.1 rfl)
  all_goals exact decide_eq_true (known _ (by assumption) rfl)

theorem meets_bindObservation {request : HttpRequest} :
    (bindObservation request).Meets (serving server) (fun value after later =>
      value = some () ∧ later = {} ∧ after.observation.contextAdmitted = false ∧
        Ready (classifyRequest request).1 false after later) {} {} := by
  have bound : ∀ requestID reportID, validRequestID requestID = true →
      (if (classifyRequest request).1 = .reports then validReportID reportID = true
        else reportID = []) →
      Ready (classifyRequest request).1 false
        { observation :=
          { requestID := requestID
            reportID := reportID
            method := telemetryMethod request.method
            route := (classifyRequest request).1 } } {} := by
    intro requestID reportID named reported
    exact
      { working :=
          { observed :=
              { routed := rfl
                requestID := named
                reportID := reported
                method := telemetryMethod_valid request.method
                routeMethod := classifyRequest_method request
                actual := le_rfl
                attempted := le_rfl
                runnerDuration := le_rfl
                marshalDuration := le_rfl
                writeDuration := le_rfl }
            sent := rfl
            status := nofun
            reports := rfl
            terminal := nofun
            closings := rfl
            admission := rfl
            contextHandlers := rfl }
        fresh := rfl
        untold := rfl
        bodyDecodes := rfl
        responseWrites := rfl
        admission := nofun }
  unfold bindObservation newReportID opaqueHexID
  dsimp only
  rw [Handler.meets_bind, Handler.meets_bind, meets_entropy]
  intro bytes
  rw [Handler.then_some, Handler.meets_pure, Handler.then_some]
  have named := validRequestID_hexText bytes
  split
  · rename_i reports
    rw [Handler.meets_bind, Handler.meets_bind, meets_entropy]
    intro more
    rw [Handler.then_some, Handler.meets_pure, Handler.then_some, meets_observe]
    refine ⟨rfl, rfl, rfl, bound _ _ named ?_⟩
    rw [if_pos reports]
    exact validReportID_hexText more
  · rename_i others
    rw [Handler.meets_bind, Handler.meets_pure, Handler.then_some, meets_observe]
    refine ⟨rfl, rfl, rfl, bound _ _ named ?_⟩
    rw [if_neg others]

/-- Whatever its environment does, a request takes and gives, logs and answers as it may, does
not panic, and leaves its books balanced. -/
theorem meets_serve (server : Server) (request : HttpRequest) :
    (serve server request).Meets (serving server) (fun result later =>
      result.1 = some () ∧ later.Balanced (classifyRequest request).1) {} := by
  have met : (serveHTTP server request).Meets (serving server) (fun value _ later =>
      value = some () ∧ later.Balanced (classifyRequest request).1) {} {} := by
    unfold serveHTTP
    apply meets_bindObservation.andThen
    · simp
    rintro _ after _ ⟨-, rfl, outside, ready⟩
    rw [Handler.meets_bind, Handler.meets_recovering]
    apply (meets_authorize ready outside).mono
    intro value last later ends
    exact meets_finish ends
  exact met

/-! ## Runs -/

/-- The records that were logged. -/
def logged (events : List (Event Op Answer)) : List FullRecord :=
  events.filterMap fun
    | ⟨.log record, _⟩ => some record
    | _ => none

/-- The statuses that were sent. -/
def statuses (events : List (Event Op Answer)) : List Int :=
  events.filterMap fun
    | ⟨.writeHeader status, _⟩ => some status
    | _ => none

/-- How often a slot was taken. -/
def timesTaken (slot : Slot) (events : List (Event Op Answer)) : Nat :=
  events.countP fun
    | ⟨.tryAcquire other, some true⟩ => other = slot
    | _ => false

/-- How often a slot was given back. -/
def timesReturned (slot : Slot) (events : List (Event Op Answer)) : Nat :=
  events.countP fun
    | ⟨.release other, some _⟩ => other = slot
    | _ => false

/-- A ledger that tells what was done. -/
structure Ledger.Tells (ledger : Ledger) (events : List (Event Op Answer)) : Prop where
  sent : statuses events = ledger.sent
  logs : ∃ others, logged events = others ++ ledger.closings ∧
    (∀ record ∈ others, record.event ≠ .httpTerminal) ∧
      others.filter (fun record => isReportTerminal record.event) = ledger.reports
  closings : ∀ record ∈ ledger.closings, record.event = .httpTerminal
  held : ∀ slot, timesTaken slot events = timesReturned slot events + (ledger.held slot).toNat

/-- What a quiet operation adds. -/
theorem tells_quiet (ledger : Ledger) {op : Op} (quiet : op.isQuiet = true) (answer : Answer op) :
    ledger.add op answer = ledger ∧ statuses [⟨op, answer⟩] = [] ∧ logged [⟨op, answer⟩] = [] ∧
      ∀ slot, timesTaken slot [⟨op, answer⟩] = 0 ∧ timesReturned slot [⟨op, answer⟩] = 0 := by
  cases op <;> cases quiet <;> exact ⟨rfl, rfl, rfl, fun _ => ⟨rfl, rfl⟩⟩

theorem timesTaken_append (slot : Slot) (events more : List (Event Op Answer)) :
    timesTaken slot (events ++ more) = timesTaken slot events + timesTaken slot more :=
  List.countP_append

theorem timesReturned_append (slot : Slot) (events more : List (Event Op Answer)) :
    timesReturned slot (events ++ more) = timesReturned slot events + timesReturned slot more :=
  List.countP_append

theorem logged_append (events more : List (Event Op Answer)) :
    logged (events ++ more) = logged events ++ logged more :=
  List.filterMap_append

theorem statuses_append (events more : List (Event Op Answer)) :
    statuses (events ++ more) = statuses events ++ statuses more :=
  List.filterMap_append

/-- An operation that logs nothing is entered. -/
theorem Ledger.Tells.enter {events : List (Event Op Answer)} {event : Event Op Answer}
    {after : Ledger} (tells : ledger.Tells events) (sent : after.sent = ledger.sent ++ statuses [event])
    (told : logged [event] = []) (reports : after.reports = ledger.reports)
    (closings : after.closings = ledger.closings)
    (slots : ∀ slot, timesTaken slot [event] + (ledger.held slot).toNat =
      timesReturned slot [event] + (after.held slot).toNat) : after.Tells (events ++ [event]) := by
  obtain ⟨others, known, rest⟩ := tells.logs
  refine ⟨?_, ⟨others, ?_, reports ▸ rest⟩, closings ▸ tells.closings, fun slot => ?_⟩
  · rw [statuses_append, tells.sent, sent]
  · rw [logged_append, told, List.append_nil, known, closings]
  · have counted := tells.held slot
    have moved := slots slot
    rw [timesTaken_append, timesReturned_append]
    omega

theorem Ledger.Tells.take {events : List (Event Op Answer)} {slot : Slot}
    (tells : ledger.Tells events) (free : ledger.held slot = false) :
    (ledger.take slot).Tells (events ++ [⟨.tryAcquire slot, some true⟩]) := by
  refine tells.enter (List.append_nil _).symm rfl rfl rfl fun other => ?_
  by_cases same : slot = other
  · subst same
    simp [timesTaken, timesReturned, free]
  · simp [timesTaken, timesReturned, same, Ne.symm same]

theorem Ledger.Tells.drop {events : List (Event Op Answer)} {slot : Slot}
    (tells : ledger.Tells events) (taken : ledger.held slot = true) :
    (ledger.drop slot).Tells (events ++ [⟨.release slot, some ()⟩]) := by
  refine tells.enter (List.append_nil _).symm rfl rfl rfl fun other => ?_
  by_cases same : slot = other
  · subst same
    simp [timesTaken, timesReturned, taken]
  · simp [timesTaken, timesReturned, same, Ne.symm same]

theorem Ledger.Tells.log {events : List (Event Op Answer)} {record : FullRecord}
    {answer : Answer (.log record)} (tells : ledger.Tells events)
    (unclosed : ledger.closings = []) :
    (ledger.record record).Tells (events ++ [⟨.log record, answer⟩]) := by
  obtain ⟨others, told, open', reports⟩ := tells.logs
  rw [unclosed, List.append_nil] at told
  have grown : logged (events ++ [⟨.log record, answer⟩]) = others ++ [record] := by
    rw [logged_append, told]
    rfl
  refine ⟨?_, ?_, ?_, fun slot => ?_⟩
  · rw [statuses_append, ledger.record_sent]
    exact (List.append_nil _).trans tells.sent
  · rw [grown]
    unfold Ledger.record
    split
    · exact ⟨others, by rw [unclosed]; rfl, open', reports⟩
    · rename_i other
      have still : ∀ member ∈ others ++ [record], member.event ≠ .httpTerminal := by
        intro member inside
        rcases List.mem_append.mp inside with old | new
        · exact open' member old
        · rwa [List.mem_singleton.mp new]
      split <;> rename_i ends <;>
        exact ⟨others ++ [record], by rw [unclosed, List.append_nil], still, by
          simp [List.filter_append, reports, ends]⟩
  · unfold Ledger.record
    split
    · rename_i closes
      rw [unclosed]
      exact fun member inside => List.mem_singleton.mp inside ▸ closes
    · split <;> exact tells.closings
  · rw [timesTaken_append, timesReturned_append, tells.held, ledger.record_held]
    rfl

theorem Ledger.Tells.still {events : List (Event Op Answer)} {event : Event Op Answer}
    (tells : ledger.Tells events) (sent : statuses [event] = []) (told : logged [event] = [])
    (slots : ∀ slot, timesTaken slot [event] = 0 ∧ timesReturned slot [event] = 0) :
    ledger.Tells (events ++ [event]) := by
  refine tells.enter ?_ told rfl rfl fun slot => ?_
  · rw [sent, List.append_nil]
  · rw [(slots slot).1, (slots slot).2]

/-- Every operation is entered into the ledger. -/
theorem Ledger.Tells.add {events : List (Event Op Answer)} {op : Op} (tells : ledger.Tells events)
    (may : ledger.May op) (answer : Answer op) :
    (ledger.add op answer).Tells (events ++ [⟨op, answer⟩]) := by
  cases quiet : op.isQuiet with
  | true =>
      obtain ⟨same, sent, told, slots⟩ := tells_quiet ledger quiet answer
      rw [same]
      exact tells.still sent told slots
  | false =>
      cases op with
      | log record => exact tells.log may.1
      | discard field => exact may.elim
      | tryAcquire slot =>
          match answer with
          | none => exact tells.still rfl rfl fun _ => ⟨rfl, rfl⟩
          | some false => exact tells.still rfl rfl fun _ => ⟨rfl, rfl⟩
          | some true => exact tells.take may
      | release slot =>
          match answer with
          | none => exact tells.still rfl rfl fun _ => ⟨rfl, rfl⟩
          | some () => exact tells.drop may
      | writeHeader status => exact tells.enter rfl rfl rfl rfl fun _ => rfl
      | _ => cases quiet

theorem Ledger.Tells.moved {past events : List (Event Op Answer)} (tells : ledger.Tells past)
    (permits : (serving server).Permits ledger events) :
    ((serving server).moved ledger events).Tells (past ++ events) := by
  induction events generalizing ledger past with
  | nil => simpa [Contract.moved] using tells
  | cons event events ih =>
      obtain ⟨may, later⟩ := permits
      have told := ih (tells.add may event.2) later
      rwa [List.append_assoc] at told

theorem conforms_of_credible {events : List (Event Op Answer)}
    (answered : ∀ event ∈ events, credible server event.1 event.2 = true) :
    (serving server).Conforms ledger events := by
  induction events generalizing ledger with
  | nil => trivial
  | cons event events ih =>
      constructor
      · exact answered event List.mem_cons_self
      · exact ih fun later inside => answered later (List.mem_cons_of_mem _ inside)

theorem tells_nil : Ledger.Tells {} [] := by
  refine ⟨rfl, ⟨[], rfl, by simp, rfl⟩, by simp, fun slot => ?_⟩
  simp [timesTaken, timesReturned]

/-- A request is served to its end without a panic, whatever its environment does.  It logs the
record that closes it once and last, the end of work on a report once if it is a report request
and not at all otherwise, sends one status or none, which the closing record tells, and gives
back every slot as often as it took it. -/
theorem serveHTTP_completes (server : Server) (request : HttpRequest)
    (events : List (Event Op Answer)) (result : Option Unit × Locals)
    (run : (serve server request).Leads events (.done result))
    (answered : ∀ event ∈ events, credible server event.1 event.2 = true) :
    result.1 = some () ∧
      (∃ others closing, logged events = others ++ [closing] ∧ closing.event = .httpTerminal ∧
        (∀ record ∈ others, record.event ≠ .httpTerminal) ∧
        others.countP (fun record => isReportTerminal record.event) =
          (if (classifyRequest request).1 = .reports then 1 else 0) ∧
        (statuses events = [] ∨ statuses events = [closing.status])) ∧
      ∀ slot, timesTaken slot events = timesReturned slot events := by
  obtain ⟨permits, returned, held, ⟨closing, closings, sent⟩, reports⟩ :=
    (meets_serve server request).leads run (conforms_of_credible answered)
  have tells := tells_nil.moved permits
  rw [List.nil_append] at tells
  obtain ⟨others, told, open', ends⟩ := tells.logs
  rw [closings] at told
  refine ⟨returned, ⟨others, closing, told, ?_, open', ?_, ?_⟩, fun slot => ?_⟩
  · exact tells.closings closing (by simp [closings])
  · rw [List.countP_eq_length_filter, ends, reports]
  · rwa [tells.sent]
  · rw [tells.held, held slot]
    rfl

def sampleServer : Server :=
  { version := "1.0"
    revision := "dev"
    allowedOrigins := ["*"]
    busyRetryAfter := 1000000000
    isPublic := false
    sha256 := fun text => text.toList.map fun char => char.toNat.toUInt8
    apiKeyHash := []
    maxConcurrentReports := 4
    maxConcurrentBodyDecodes := 4
    maxConcurrentResponseWrites := 4
    draining := true
    ipContext := false
    supported := fun _ => true
    net := ⟨fun _ => none, fun _ => none, fun _ => false⟩
    splitHost := fun _ => none }

def sampleRequest : HttpRequest :=
  { method := "POST"
    path := "/api/v1/reports"
    origin := ""
    authorization := ""
    remoteAddr := "192.0.2.1:4711"
    contentLength := 2
    rawQuery := ""
    forceQuery := false
    query := some [] }

/-- A calm environment in which the runner panics. -/
def sampleOracle : (op : Op) → Answer op
  | .entropy byteCount => some (Vector.replicate byteCount 7)
  | .length _ => some 1
  | .elapsed | .requestBytes => some 2
  | .tryAcquire _ => some true
  | .cancelled | .isDraining => some false
  | .write payload => some ((payload.byteLength : Int), false)
  | .allowClient _ => some (true, 0)
  | .decode => some (.ok ⟨[⟨.tcp, "192.0.2.9", 0, 0⟩], 0, .unset, false⟩)
  | .decodeExtra => some none
  | .run .. | .marshalReport .. | .marshalTyped _ | .readBody | .lookup _ => none
  | .log _ | .discard _ | .release _ | .setHeader .. | .delHeader _ | .writeHeader _
  | .setIPContextDeadlines | .setReportWriteDeadline => some ()

theorem credible_sampleOracle (op : Op) : credible sampleServer op (sampleOracle op) = true := by
  cases op with
  | length slot => cases slot <;> rfl
  | _ => rfl

theorem serveHTTP_completes_sample :
    let run := (serve sampleServer sampleRequest).play sampleOracle
    run.2.1 = some () ∧
      (∃ others closing, logged run.1 = others ++ [closing] ∧ closing.event = .httpTerminal ∧
        (∀ record ∈ others, record.event ≠ .httpTerminal) ∧
        others.countP (fun record => isReportTerminal record.event) = 1 ∧
        (statuses run.1 = [] ∨ statuses run.1 = [closing.status])) ∧
      ∀ slot, timesTaken slot run.1 = timesReturned slot run.1 :=
  serveHTTP_completes sampleServer sampleRequest _ _ (Program.leads_play sampleOracle _)
    (Program.forall_play (fun op answer => credible sampleServer op answer = true)
      credible_sampleOracle _)

example : statuses ((serve sampleServer sampleRequest).play sampleOracle).1 = [500] := by decide +kernel
example : timesTaken .admission ((serve sampleServer sampleRequest).play sampleOracle).1 = 1 := by decide +kernel

/-- What may follow: no record is turned away, what is logged is valid and within its bounds,
nothing is logged after the closing record nor the end of a report twice, no second status is
sent, and a slot is given back where it is held and asked for where it is not. -/
def Orderly (before : List (Event Op Answer)) : Op → Prop
  | .discard _ => False
  | .log record => validateTelemetryRecord record = .ok record ∧
      (∀ other ∈ logged before, other.event ≠ .httpTerminal) ∧
        (isReportTerminal record.event → ∀ other ∈ logged before, !isReportTerminal other.event)
  | .writeHeader _ => statuses before = []
  | .tryAcquire slot => timesTaken slot before = timesReturned slot before
  | .release slot => timesTaken slot before = timesReturned slot before + 1
  | _ => True

theorem Ledger.Tells.orderly {before : List (Event Op Answer)} {op : Op}
    (tells : ledger.Tells before) (may : ledger.May op) : Orderly before op := by
  cases op with
  | discard field => exact may
  | log record =>
      obtain ⟨unclosed, once, valid⟩ := may
      obtain ⟨others, told, open', ends⟩ := tells.logs
      rw [unclosed, List.append_nil] at told
      refine ⟨valid, ?_⟩
      rw [told]
      refine ⟨open', fun terminal other inside => ?_⟩
      rw [once terminal, List.filter_eq_nil_iff] at ends
      simpa using ends other inside
  | writeHeader status => exact tells.sent.trans may
  | tryAcquire slot =>
      have counted := tells.held slot
      rwa [show ledger.held slot = false from may] at counted
  | release slot =>
      have counted := tells.held slot
      rwa [show ledger.held slot = true from may] at counted
  | _ => trivial

/-- Every operation of every run, finished or not, is in order. -/
theorem serveHTTP_orderly (server : Server) (request : HttpRequest)
    (events : List (Event Op Answer)) (rest : Program Op Answer (Option Unit × Locals))
    (run : (serve server request).Leads events rest)
    (answered : ∀ event ∈ events, credible server event.1 event.2 = true) :
    ∀ before op answer after, events = before ++ ⟨op, answer⟩ :: after → Orderly before op := by
  rintro before op answer after rfl
  obtain ⟨permits, -⟩ := (meets_serve server request).leads run (conforms_of_credible answered)
  obtain ⟨earlier, may⟩ := permits.at
  have tells := tells_nil.moved earlier
  rw [List.nil_append] at tells
  exact tells.orderly may

theorem serveHTTP_orderly_sample :
    let run := (serve sampleServer sampleRequest).play sampleOracle
    0 < run.1.length ∧ ∀ before op answer after, run.1 = before ++ ⟨op, answer⟩ :: after →
      Orderly before op :=
  ⟨by decide +kernel, serveHTTP_orderly sampleServer sampleRequest _ _
    (Program.leads_play sampleOracle _)
    (Program.forall_play (fun op answer => credible sampleServer op answer = true)
      credible_sampleOracle _)⟩

/-! ## Requests that take turns -/

/-- What an operation with its answer does to the lengths of the channels. -/
def grant (server : Server) (lengths : Slot → Nat) : (op : Op) → Answer op → Option (Slot → Nat)
  | .tryAcquire slot, some true =>
      if lengths slot < server.capacity slot then
        some (Function.update lengths slot (lengths slot + 1))
      else none
  | .tryAcquire slot, some false =>
      if server.capacity slot ≤ lengths slot then some lengths else none
  | .release slot, some _ =>
      if 0 < lengths slot then some (Function.update lengths slot (lengths slot - 1)) else none
  | .length slot, some length => if length = lengths slot then some lengths else none
  | op, answer => if credible server op answer then some lengths else none

/-- The length of a channel is the number of requests that hold one of its slots. -/
def Counts (server : Server) (lengths : Slot → Nat) (ledgers : List Ledger) : Prop :=
  ∀ slot, lengths slot = ledgers.countP (fun ledger => ledger.held slot) ∧
    lengths slot ≤ server.capacity slot

theorem countP_held {ledgers : List Ledger} {index : Nat} (found : ledgers[index]? = some ledger)
    (after : Ledger) (slot : Slot) :
    (ledgers.set index after).countP (fun ledger => ledger.held slot) +
        (ledger.held slot).toNat =
      ledgers.countP (fun ledger => ledger.held slot) + (after.held slot).toNat :=
  Collection.countP_set_add found

/-- A request changes what it holds, and the channels with it. -/
theorem Counts.move {lengths later : Slot → Nat} {ledgers : List Ledger} {index : Nat}
    {after : Ledger} (counts : Counts server lengths ledgers) (found : ledgers[index]? = some ledger)
    (moves : ∀ slot, later slot + (ledger.held slot).toNat = lengths slot + (after.held slot).toNat)
    (within : ∀ slot, later slot ≤ server.capacity slot) :
    Counts server later (ledgers.set index after) := by
  intro slot
  have moved := countP_held found after slot
  have counted := (counts slot).1
  have same := moves slot
  exact ⟨by omega, within slot⟩

theorem Counts.set {lengths : Slot → Nat} {ledgers : List Ledger} {index : Nat} {after : Ledger}
    (counts : Counts server lengths ledgers) (found : ledgers[index]? = some ledger)
    (same : after.held = ledger.held) : Counts server lengths (ledgers.set index after) :=
  counts.move found (fun _ => by rw [same]) fun slot => (counts slot).2

theorem Counts.take {lengths : Slot → Nat} {ledgers : List Ledger} {index : Nat} {slot : Slot}
    (counts : Counts server lengths ledgers) (found : ledgers[index]? = some ledger)
    (free : ledger.held slot = false) (room : lengths slot < server.capacity slot) :
    Counts server (Function.update lengths slot (lengths slot + 1))
      (ledgers.set index (ledger.take slot)) := by
  apply counts.move found <;> intro other <;> by_cases same : other = slot
  · simp [same, free]
  · simp [same]
  · simpa [same] using room
  · simpa [same] using (counts other).2

theorem Counts.drop {lengths : Slot → Nat} {ledgers : List Ledger} {index : Nat} {slot : Slot}
    (counts : Counts server lengths ledgers) (found : ledgers[index]? = some ledger)
    (held : ledger.held slot = true) :
    Counts server (Function.update lengths slot (lengths slot - 1))
      (ledgers.set index (ledger.drop slot)) := by
  have moved := countP_held found (ledger.drop slot) slot
  have counted := counts slot
  apply counts.move found <;> intro other <;> by_cases same : other = slot
  · simp [same, held] at moved ⊢
    omega
  · simp [same]
  · simp [same]
    omega
  · simpa [same] using (counts other).2

/-- Operations that do not touch the channels. -/
def Op.isApart : Op → Bool
  | .tryAcquire _ | .release _ => false
  | _ => true

theorem held_add {op : Op} (apart : op.isApart = true) (answer : Answer op) :
    (ledger.add op answer).held = ledger.held := by
  cases op <;> cases apart <;> try rfl
  exact ledger.record_held _

theorem grant_apart {lengths later : Slot → Nat} {op : Op} {answer : Answer op}
    (apart : op.isApart = true) (granted : grant server lengths op answer = some later)
    (within : ∀ slot, lengths slot ≤ server.capacity slot) :
    credible server op answer = true ∧ later = lengths := by
  have plain : (if credible server op answer then some lengths else none) = some later →
      credible server op answer = true ∧ later = lengths := by
    intro given
    obtain ⟨ok, same⟩ := Option.ite_none_right_eq_some.mp given
    exact ⟨ok, (Option.some.inj same).symm⟩
  cases op <;> cases apart <;> try exact plain granted
  cases answer with
  | none => cases granted
  | some length =>
      obtain ⟨known, same⟩ := Option.ite_none_right_eq_some.mp granted
      refine ⟨?_, (Option.some.inj same).symm⟩
      rw [known]
      exact decide_eq_true (within _)

/-- The channels answer as the contract says, and keep count. -/
theorem agreement (server : Server) :
    Agreement (serving server) {} (grant server) (Counts server) := by
  constructor
  · intro lengths ledgers counts slot
    rw [Collection.countP_concat]
    exact counts slot
  · intro lengths later ledgers index ledger op answer counts found may granted
    cases apart : op.isApart with
    | true =>
        obtain ⟨answered, rfl⟩ := grant_apart apart granted fun slot => (counts slot).2
        exact ⟨answered, counts.set found (held_add apart answer)⟩
    | false =>
        cases op with
        | tryAcquire slot =>
            match answer with
            | none => cases granted
            | some true =>
                obtain ⟨room, same⟩ := Option.ite_none_right_eq_some.mp granted
                cases same
                exact ⟨rfl, counts.take found may room⟩
            | some false =>
                obtain ⟨_, same⟩ := Option.ite_none_right_eq_some.mp granted
                cases same
                exact ⟨rfl, counts.set found rfl⟩
        | release slot =>
            match answer with
            | none => cases granted
            | some () =>
                obtain ⟨_, same⟩ := Option.ite_none_right_eq_some.mp granted
                cases same
                exact ⟨rfl, counts.drop found may⟩
        | _ => cases apart

/-- A request that holds a slot of a channel. -/
def holds (slot : Slot) (thread : Thread HttpRequest Op Answer (Option Unit × Locals)) : Bool :=
  timesReturned slot thread.events < timesTaken slot thread.events

/-- Two requests have come in, and the second of them has begun. -/
def sampleTurns : List (Turn HttpRequest Op Answer) :=
  [.start sampleRequest, .start sampleRequest, .take 1 sampleOracle, .take 1 sampleOracle]

def samplePool : Pool (Slot → Nat) HttpRequest Op Answer (Option Unit × Locals) :=
  (execute (Pool.next (serve sampleServer) (grant sampleServer)) ⟨fun _ => 0, []⟩
    sampleTurns).getD ⟨fun _ => 0, []⟩

theorem execute_sampleTurns : execute (Pool.next (serve sampleServer) (grant sampleServer))
    ⟨fun _ => 0, []⟩ sampleTurns = some samplePool := rfl

end CheckNetwork.Api.Serving
