import CheckNetwork.Go.Entries
import CheckNetwork.Transition.Core

/-!
# Request lanes of the browser

`transitionRequest` is the reducer of one purpose of the page.  Its callers send
the events of overlapping requests in any order, start every request with an
owner of its own, and finalize a request after they have ended it.
-/

namespace CheckNetwork.Frontend

open Transition

universe u

/-- A property of an event.  `other` is neither a string nor nullish and has the
given `String`. -/
inductive Field
  | undefined
  | null
  | text (shown : String)
  | other (shown : String)
  deriving DecidableEq

/-- `String(first ?? second ?? '')`. -/
def Field.string : Field → Field → String
  | .text shown, _ => shown
  | .other shown, _ => shown
  | _, .text shown => shown
  | _, .other shown => shown
  | _, _ => ""

inductive Purpose
  | diagnostics | topology
  deriving DecidableEq

inductive Phase
  | idle | loading | ready | error | cancelled
  deriving DecidableEq

/-- What the reducer distinguishes of `eventType(event.type)`. -/
inductive EventKind
  | inputChanged | requestStarted | requestFinalized | requestSucceeded | requestFailed
  | requestCancelled | unsupported
  deriving DecidableEq

def EventKind.ofType : String → EventKind
  | "INPUT_CHANGED" | "INPUT_INVALIDATED" => .inputChanged
  | "REQUEST_STARTED" | "START" => .requestStarted
  | "REQUEST_FINALIZED" | "FINALIZE" => .requestFinalized
  | "REQUEST_SUCCEEDED" | "SUCCESS" => .requestSucceeded
  | "REQUEST_FAILED" | "FAILURE" | "ERROR" => .requestFailed
  | "REQUEST_CANCELLED" | "CANCEL" => .requestCancelled
  | _ => .unsupported

/-- Moments, reports, failures as they arrive, and failures as they are kept. -/
structure Contents where
  Moment : Type u
  Report : Type u
  Failure : Type u
  RequestError : Type u
  normalizeRequestError : Failure → RequestError

variable {contents : Contents.{u}}

/-- `type` is `eventType(event.type)`, and `moment` the finite number of
`startedAt` or `completedAt`, or of the clock where they are missing. -/
structure Event (contents : Contents.{u}) where
  type : String
  ownerId : Field
  inputSignature : Field
  signature : Field
  moment : Option contents.Moment
  report : contents.Report
  error : contents.Failure
  reason : Field

structure ActiveRequest (contents : Contents.{u}) where
  ownerId : String
  inputSignature : String
  startedAt : contents.Moment

structure LaneResult (contents : Contents.{u}) where
  ownerId : String
  inputSignature : String
  report : contents.Report
  completedAt : contents.Moment

structure RequestLane (contents : Contents.{u}) where
  purpose : Purpose
  phase : Phase
  inputSignature : String
  active : Option (ActiveRequest contents)
  result : Option (LaneResult contents)
  error : Option contents.RequestError
  cancellation : Option String

def createRequestLane (purpose : Purpose) : RequestLane contents :=
  ⟨purpose, .idle, "", none, none, none, none⟩

inductive TransitionError
  | startRequiresOwnerAndSignature
  | notFinite (path : String)
  | unsupportedReason
  | unsupportedEvent (type : String)
  deriving DecidableEq

namespace Event

variable (event : Event contents)

def kind : EventKind := .ofType event.type

/-- The signature that the event names. -/
def signatureText : String := event.inputSignature.string event.signature

end Event

/-- `finite`. -/
def finite (moment : Option contents.Moment) (path : String) :
    Except TransitionError contents.Moment :=
  match moment with
  | some moment => .ok moment
  | none => .error (.notFinite path)

def ownsRequest (state : RequestLane contents) (ownerId : Field) (signature : String) : Bool :=
  state.phase = .loading ∧ state.active.any fun active =>
    .text active.ownerId = ownerId ∧ active.inputSignature = signature ∧
      state.inputSignature = signature

def cancellationReasons : List String := ["user", "navigation", "input-change"]

def cancellationReason : Field → Except TransitionError String
  | .undefined | .null => .ok "user"
  | .text reason =>
      if reason ∈ cancellationReasons then .ok reason else .error .unsupportedReason
  | .other _ => .error .unsupportedReason

/-- A finalized request is no longer active. -/
def finalizeRequest (state : RequestLane contents) (event : Event contents) : RequestLane contents :=
  match state.active with
  | none => state
  | some active =>
      if .text active.ownerId ≠ event.ownerId then state
      else if event.inputSignature ≠ .undefined ∧
          .text active.inputSignature ≠ event.inputSignature then state
      else { state with active := none }

def transitionRequest (state : RequestLane contents) (event : Event contents) :
    Except TransitionError (RequestLane contents) :=
  match event.kind with
  | .inputChanged => .ok { state with
      phase := .idle
      inputSignature := event.signatureText
      active := none
      result := none
      error := none
      cancellation := none }
  | .requestStarted =>
      let ownerId := event.ownerId.string .undefined
      let signature := event.signatureText
      if ownerId = "" ∨ signature = "" then .error .startRequiresOwnerAndSignature
      else (finite event.moment "event.startedAt").map fun startedAt => { state with
        phase := .loading
        inputSignature := signature
        active := some ⟨ownerId, signature, startedAt⟩
        result := none
        error := none
        cancellation := none }
  | .requestFinalized => .ok (finalizeRequest state event)
  | kind =>
      let signature := event.signatureText
      if !ownsRequest state event.ownerId signature then .ok state
      else match kind with
        | .requestSucceeded =>
            (finite event.moment "event.completedAt").map fun completedAt => { state with
              phase := .ready
              result := some ⟨event.ownerId.string .undefined, signature, event.report, completedAt⟩
              error := none
              cancellation := none }
        | .requestFailed => .ok { state with
            phase := .error
            result := none
            error := some (contents.normalizeRequestError event.error)
            cancellation := none }
        | .requestCancelled =>
            (cancellationReason event.reason).map fun reason => { state with
              phase := .cancelled
              result := none
              error := none
              cancellation := some reason }
        | _ => .error (.unsupportedEvent event.type)

/-! ## Runs -/

/-- The request that an event starts, by its owner and signature. -/
def Event.starts (event : Event contents) : Option (String × String) :=
  if event.kind = .requestStarted then some (event.ownerId.string .undefined, event.signatureText)
  else none

/-- The request that a success, a failure or a cancellation ends. -/
def Event.ends (event : Event contents) : Option (String × String) :=
  match event.kind, event.ownerId with
  | .requestSucceeded, .text owner | .requestFailed, .text owner
  | .requestCancelled, .text owner => some (owner, event.signatureText)
  | _, _ => none

/-- A lane with the events that it has taken. -/
structure LaneRun (contents : Contents.{u}) where
  lane : RequestLane contents
  history : List (Event contents)

/-- The requests that were started. -/
def started (history : List (Event contents)) : List (String × String) :=
  history.filterMap Event.starts

/-- Whether a request was ended after its owner was started. -/
def ended (history : List (Event contents)) (owner signature : String) : Bool :=
  (history.dropWhile fun event => event.starts.all fun request => request.1 ≠ owner).any fun event =>
    event.ends = some (owner, signature)

/-- What callers send: starts of new owners, and finalizations of requests that
they have ended. -/
def permitted (history : List (Event contents)) (event : Event contents) : Bool :=
  match event.kind, event.ownerId, event.inputSignature with
  | .requestStarted, ownerId, _ =>
      ownerId.string .undefined ∉ (started history).map Prod.fst
  | .requestFinalized, .text owner, .text signature =>
      owner ∉ (started history).map Prod.fst || ended history owner signature
  | .requestFinalized, .text owner, .undefined =>
      ((started history).lookup owner).all fun signature => ended history owner signature
  | _, _, _ => true

/-- An event of the callers.  One that throws leaves the lane as it was. -/
def nextLane : Step (LaneRun contents) (Event contents)
  | run, event =>
      if permitted run.history event then
        match transitionRequest run.lane event with
        | .ok lane => some ⟨lane, run.history ++ [event]⟩
        | .error _ => some run
      else none

def startLane (purpose : Purpose) : LaneRun contents := ⟨createRequestLane purpose, []⟩

/-! ## What an event does -/

section Moves

variable {lane after : RequestLane contents} {event : Event contents}

theorem ownsRequest_iff {ownerId : Field} {signature : String} :
    ownsRequest lane ownerId signature = true ↔ lane.phase = .loading ∧
      ∃ active, lane.active = some active ∧ .text active.ownerId = ownerId ∧
        active.inputSignature = signature ∧ lane.inputSignature = signature := by
  rw [ownsRequest, decide_eq_true_iff, Option.any_eq_true]
  simp only [decide_eq_true_eq]

/-- What an event that returns leaves. -/
inductive Moved (lane : RequestLane contents) (event : Event contents) :
    RequestLane contents → Prop
  | inputChanged (kind : event.kind = .inputChanged) :
      Moved lane event ⟨lane.purpose, .idle, event.signatureText, none, none, none, none⟩
  | started (kind : event.kind = .requestStarted) (startedAt : contents.Moment) :
      Moved lane event ⟨lane.purpose, .loading, event.signatureText,
        some ⟨event.ownerId.string .undefined, event.signatureText, startedAt⟩, none, none, none⟩
  | finalized (kind : event.kind = .requestFinalized) :
      Moved lane event (finalizeRequest lane event)
  | ignored (notChanged : event.kind ≠ .inputChanged) (notStarted : event.kind ≠ .requestStarted)
      (notOwned : ownsRequest lane event.ownerId event.signatureText = false) : Moved lane event lane
  | succeeded (kind : event.kind = .requestSucceeded) (completedAt : contents.Moment)
      (owned : ownsRequest lane event.ownerId event.signatureText = true) :
      Moved lane event ⟨lane.purpose, .ready, lane.inputSignature, lane.active,
        some ⟨event.ownerId.string .undefined, event.signatureText, event.report, completedAt⟩,
        none, none⟩
  | failed (kind : event.kind = .requestFailed)
      (owned : ownsRequest lane event.ownerId event.signatureText = true) :
      Moved lane event ⟨lane.purpose, .error, lane.inputSignature, lane.active, none,
        some (contents.normalizeRequestError event.error), none⟩
  | cancelled (kind : event.kind = .requestCancelled) (reason : String)
      (owned : ownsRequest lane event.ownerId event.signatureText = true) :
      Moved lane event ⟨lane.purpose, .cancelled, lane.inputSignature, lane.active, none, none,
        some reason⟩

theorem map_eq_ok {ε A B : Type _} {result : Except ε A} {f : A → B} {value : B}
    (mapped : result.map f = .ok value) : ∃ inner, result = .ok inner ∧ f inner = value := by
  cases result with
  | error failure => cases mapped
  | ok inner => exact ⟨inner, rfl, Except.ok.inj mapped⟩

theorem moved_of_transitionRequest (returned : transitionRequest lane event = .ok after) :
    Moved lane event after := by
  unfold transitionRequest at returned
  cases kind : event.kind <;> rw [kind] at returned <;> dsimp only at returned
  case inputChanged =>
    cases returned
    exact .inputChanged kind
  case requestStarted =>
    rcases ite_eq_iff.mp returned with ⟨_, thrown⟩ | ⟨_, mapped⟩
    · cases thrown
    · obtain ⟨startedAt, _, rfl⟩ := map_eq_ok mapped
      exact .started kind startedAt
  case requestFinalized =>
    cases returned
    exact .finalized kind
  all_goals
    rcases ite_eq_iff.mp returned with ⟨notOwned, same⟩ | ⟨owned, ends⟩
  case requestSucceeded.inl | requestFailed.inl | requestCancelled.inl | unsupported.inl =>
    cases same
    refine .ignored ?_ ?_ (Bool.not_eq_true' _ ▸ notOwned) <;> rw [kind] <;> decide
  case requestSucceeded.inr =>
    obtain ⟨completedAt, _, rfl⟩ := map_eq_ok ends
    exact .succeeded kind completedAt (by simpa using owned)
  case requestFailed.inr =>
    cases ends
    exact .failed kind (by simpa using owned)
  case requestCancelled.inr =>
    obtain ⟨reason, _, rfl⟩ := map_eq_ok ends
    exact .cancelled kind reason (by simpa using owned)
  case unsupported.inr =>
    cases ends

end Moves

/-! ## Requests of a run -/

section History

variable {history before since : List (Event contents)} {event start : Event contents}
  {owner signature : String}

/-- Events between which the input and the request stay the same. -/
def Quiet (events : List (Event contents)) : Prop :=
  ∀ event ∈ events, event.kind ≠ .inputChanged ∧ event.kind ≠ .requestStarted

theorem Quiet.append (quiet : Quiet since) (notChanged : event.kind ≠ .inputChanged)
    (notStarted : event.kind ≠ .requestStarted) : Quiet (since ++ [event]) := by
  intro other member
  rcases List.mem_append.mp member with old | new
  · exact quiet other old
  · rw [List.mem_singleton.mp new]
    exact ⟨notChanged, notStarted⟩

theorem starts_eq_some (kind : event.kind = .requestStarted) :
    event.starts = some (event.ownerId.string .undefined, event.signatureText) := if_pos kind

theorem starts_eq_none (kind : event.kind ≠ .requestStarted) : event.starts = none := if_neg kind

theorem kind_of_starts {request : String × String} (starts : event.starts = some request) :
    event.kind = .requestStarted := by
  by_contra other
  rw [starts_eq_none other] at starts
  cases starts

theorem ends_eq_none (kind : event.kind ∉ [.requestSucceeded, .requestFailed, .requestCancelled]) :
    event.ends = none := by
  unfold Event.ends
  split <;> simp_all

theorem started_append (history : List (Event contents)) (event : Event contents) :
    started (history ++ [event]) = started history ++ event.starts.toList := by
  rw [started, List.filterMap_append, started]
  cases starts : event.starts <;> simp [starts]

theorem ends_eq_some (kind : event.kind ∈ [.requestSucceeded, .requestFailed, .requestCancelled])
    (named : event.ownerId = .text owner) : event.ends = some (owner, event.signatureText) := by
  simp only [List.mem_cons, List.not_mem_nil, or_false] at kind
  rcases kind with kind | kind | kind <;> rw [Event.ends, kind, named]

theorem exists_of_ends {request : String × String} (ends : event.ends = some request) :
    event.ownerId = .text request.1 ∧ event.signatureText = request.2 := by
  unfold Event.ends at ends
  split at ends
  case h_4 => cases ends
  all_goals
    cases ends
    exact ⟨by assumption, rfl⟩

/-- Of distinct owners, an ended one was ended after its start. -/
theorem exists_of_ended (starts : start.starts = some (owner, signature))
    (distinct : ((started (before ++ start :: since)).map Prod.fst).Nodup)
    {found : String} (isEnded : ended (before ++ start :: since) owner found = true) :
    ∃ event ∈ since, event.ends = some (owner, found) := by
  have earlier : ∀ event ∈ before, (event.starts.all fun request => request.1 ≠ owner) = true := by
    intro event member
    rw [Option.all_eq_true]
    intro request requested
    rw [decide_eq_true_iff]
    rintro rfl
    rw [started, List.filterMap_append, List.map_append, List.nodup_append] at distinct
    refine distinct.2.2 request.1 ?_ request.1 ?_ rfl
    · exact List.mem_map.mpr ⟨request, List.mem_filterMap.mpr ⟨event, member, requested⟩, rfl⟩
    · exact List.mem_map.mpr ⟨_, List.mem_filterMap.mpr ⟨start, List.mem_cons_self, starts⟩, rfl⟩
  have notEarlier : ¬ (start.starts.all fun request => decide (request.1 ≠ owner)) = true := by
    rw [starts]
    simp
  rw [ended, List.dropWhile_append_of_pos earlier, List.dropWhile_cons,
    if_neg notEarlier, List.any_eq_true] at isEnded
  obtain ⟨event, member, ends⟩ := isEnded
  rcases List.mem_cons.mp member with rfl | later
  · have none_eq := @ends_eq_none _ event (by rw [kind_of_starts starts]; decide)
    rw [none_eq] at ends
    simp at ends
  · exact ⟨event, later, of_decide_eq_true ends⟩

end History

/-! ## Invariant -/

/-- The result of a lane was delivered after the last start, by its owner. -/
def Delivered (history : List (Event contents)) (result : LaneResult contents) : Prop :=
  ∃ before start between success after,
    history = before ++ start :: (between ++ success :: after) ∧
    start.starts = some (result.ownerId, result.inputSignature) ∧
    success.kind = .requestSucceeded ∧
    success.ends = some (result.ownerId, result.inputSignature) ∧
    success.report = result.report ∧ Quiet between ∧ Quiet after

/-- The active request is the last that was started. -/
structure Current (run : LaneRun contents) (active : ActiveRequest contents) : Prop where
  signature : run.lane.inputSignature = active.inputSignature
  started : ∃ before start since, run.history = before ++ start :: since ∧
    start.starts = some (active.ownerId, active.inputSignature) ∧ Quiet since ∧
    (run.lane.phase = .loading →
      ∀ event ∈ since, event.ends ≠ some (active.ownerId, active.inputSignature))

structure LaneInv (run : LaneRun contents) : Prop where
  distinct : ((started run.history).map Prod.fst).Nodup
  loading : run.lane.phase = .loading → ∃ active, run.lane.active = some active
  active : ∀ active, run.lane.active = some active → Current run active
  result : ∀ result, run.lane.result = some result → run.lane.phase = .ready ∧
    run.lane.inputSignature = result.inputSignature ∧ Delivered run.history result

section Invariant

variable {run : LaneRun contents} {event : Event contents} {after : RequestLane contents}

theorem Delivered.append {history : List (Event contents)} {result : LaneResult contents}
    (delivered : Delivered history result) (notChanged : event.kind ≠ .inputChanged)
    (notStarted : event.kind ≠ .requestStarted) : Delivered (history ++ [event]) result := by
  obtain ⟨before, start, between, success, later, rfl, starts, kind, ends, report, quiet, quietLater⟩ :=
    delivered
  refine ⟨before, start, between, success, later ++ [event], ?_, starts, kind, ends, report, quiet,
    quietLater.append notChanged notStarted⟩
  simp

theorem laneInv_start (purpose : Purpose) : LaneInv (@startLane contents purpose) := by
  constructor
  · exact List.nodup_nil
  · intro loading
    cases loading
  · intro active isActive
    cases isActive
  · intro result isResult
    cases isResult

theorem distinct_append (distinct : ((started run.history).map Prod.fst).Nodup)
    (allowed : permitted run.history event = true) :
    ((started (run.history ++ [event])).map Prod.fst).Nodup := by
  rw [started_append, List.map_append, List.nodup_append]
  by_cases kind : event.kind = .requestStarted
  · rw [starts_eq_some kind]
    rw [permitted, kind, decide_eq_true_iff] at allowed
    refine ⟨distinct, by simp, ?_⟩
    rintro owner earlier other new rfl
    rw [Option.toList_some, List.map_cons, List.map_nil, List.mem_singleton] at new
    rw [new] at earlier
    exact allowed earlier
  · rw [starts_eq_none kind]
    exact ⟨distinct, by simp, by simp⟩

/-- A finalized request has been ended, so that the lane is not loading. -/
theorem not_loading_of_finalized (inv : LaneInv run) (kind : event.kind = .requestFinalized)
    (allowed : permitted run.history event = true) {active : ActiveRequest contents}
    (isActive : run.lane.active = some active) (owner : .text active.ownerId = event.ownerId)
    (signature : event.inputSignature = .undefined ∨
      .text active.inputSignature = event.inputSignature) : run.lane.phase ≠ .loading := by
  intro loading
  obtain ⟨_, before, start, since, history_eq, starts, _, running⟩ := inv.active active isActive
  have member : (active.ownerId, active.inputSignature) ∈ started run.history := by
    rw [history_eq]
    exact List.mem_filterMap.mpr ⟨start, List.mem_append_right _ List.mem_cons_self, starts⟩
  have isEnded : ended run.history active.ownerId active.inputSignature = true := by
    rw [permitted, kind, ← owner] at allowed
    rcases signature with missing | same
    · rw [missing] at allowed
      dsimp only at allowed
      rw [Go.Entries.lookup_of_mem inv.distinct member, Option.all_some] at allowed
      exact allowed
    · rw [← same] at allowed
      dsimp only at allowed
      rw [Bool.or_eq_true, decide_eq_true_iff] at allowed
      exact allowed.resolve_left fun absent => absent (List.mem_map.mpr ⟨_, member, rfl⟩)
  have distinct := inv.distinct
  rw [history_eq] at isEnded distinct
  obtain ⟨other, inside, ends⟩ := exists_of_ended starts distinct isEnded
  exact running loading other inside ends

/-- A request that is still active after an event that is no start. -/
theorem Current.append {active : ActiveRequest contents} (current : Current run active)
    (signature : after.inputSignature = run.lane.inputSignature)
    (notChanged : event.kind ≠ .inputChanged) (notStarted : event.kind ≠ .requestStarted)
    (running : after.phase = .loading → run.lane.phase = .loading ∧
      event.ends ≠ some (active.ownerId, active.inputSignature)) :
    Current ⟨after, run.history ++ [event]⟩ active := by
  obtain ⟨same, before, start, since, history_eq, starts, quiet, unended⟩ := current
  refine ⟨signature.trans same, before, start, since ++ [event], ?_, starts,
    quiet.append notChanged notStarted, ?_⟩
  · rw [history_eq]
    simp
  · intro loading other member
    obtain ⟨wasLoading, unendedNow⟩ := running loading
    rcases List.mem_append.mp member with old | new
    · exact unended wasLoading other old
    · rw [List.mem_singleton.mp new]
      exact unendedNow

/-- An event after which an unfinished lane is as it was. -/
theorem laneInv_unchanged (inv : LaneInv run) (allowed : permitted run.history event = true)
    (notChanged : event.kind ≠ .inputChanged) (notStarted : event.kind ≠ .requestStarted)
    (unended : ∀ active, run.lane.active = some active → run.lane.phase = .loading →
      event.ends ≠ some (active.ownerId, active.inputSignature)) :
    LaneInv ⟨run.lane, run.history ++ [event]⟩ where
  distinct := distinct_append inv.distinct allowed
  loading := inv.loading
  active active isActive := (inv.active active isActive).append rfl notChanged notStarted
    fun loading => ⟨loading, unended active isActive loading⟩
  result result isResult := by
    obtain ⟨ready, same, delivered⟩ := inv.result result isResult
    exact ⟨ready, same, delivered.append notChanged notStarted⟩

theorem laneInv_finalized (inv : LaneInv run) (allowed : permitted run.history event = true)
    (kind : event.kind = .requestFinalized) :
    LaneInv ⟨finalizeRequest run.lane event, run.history ++ [event]⟩ := by
  have notChanged : event.kind ≠ .inputChanged := by rw [kind]; decide
  have notStarted : event.kind ≠ .requestStarted := by rw [kind]; decide
  have unended : event.ends = none := ends_eq_none (by rw [kind]; decide)
  have unchanged : LaneInv ⟨run.lane, run.history ++ [event]⟩ :=
    laneInv_unchanged inv allowed notChanged notStarted fun _ _ _ => by rw [unended]; simp
  unfold finalizeRequest
  split
  · exact unchanged
  · rename_i active isActive
    split
    · exact unchanged
    · rename_i owner
      split
      · exact unchanged
      · rename_i signature
        have settled := not_loading_of_finalized inv kind allowed isActive (not_not.mp owner)
          (by rwa [not_and_or, not_not, not_not] at signature)
        refine ⟨distinct_append inv.distinct allowed, fun loading => absurd loading settled,
          fun _ isNone => (by cases isNone), unchanged.result⟩

/-- A success, a failure or a cancellation of the active request. -/
theorem laneInv_ended (inv : LaneInv run) (allowed : permitted run.history event = true)
    (kind : event.kind ∈ [.requestSucceeded, .requestFailed, .requestCancelled])
    (active_eq : after.active = run.lane.active)
    (signature_eq : after.inputSignature = run.lane.inputSignature)
    (settled : after.phase ≠ .loading)
    (delivers : ∀ result, after.result = some result → after.phase = .ready ∧
      after.inputSignature = result.inputSignature ∧
        Delivered (run.history ++ [event]) result) :
    LaneInv ⟨after, run.history ++ [event]⟩ := by
  have notChanged : event.kind ≠ .inputChanged := by
    intro same
    rw [same] at kind
    revert kind
    decide
  have notStarted : event.kind ≠ .requestStarted := by
    intro same
    rw [same] at kind
    revert kind
    decide
  refine ⟨distinct_append inv.distinct allowed, fun loading => absurd loading settled, ?_, delivers⟩
  intro active isActive
  dsimp only at isActive
  rw [active_eq] at isActive
  exact (inv.active active isActive).append signature_eq notChanged notStarted
    fun loading => absurd loading settled

theorem laneInv_moved (inv : LaneInv run) (allowed : permitted run.history event = true)
    (moved : Moved run.lane event after) : LaneInv ⟨after, run.history ++ [event]⟩ := by
  cases moved with
  | inputChanged kind =>
      exact ⟨distinct_append inv.distinct allowed, fun loading => (by cases loading),
        fun _ isActive => (by cases isActive), fun _ isResult => (by cases isResult)⟩
  | started kind startedAt =>
      refine ⟨distinct_append inv.distinct allowed, fun _ => ⟨_, rfl⟩, ?_,
        fun _ isResult => (by cases isResult)⟩
      rintro active ⟨⟩
      exact ⟨rfl, run.history, event, [], rfl, starts_eq_some kind,
        fun _ member => (by cases member), fun _ _ member => (by cases member)⟩
  | finalized kind => exact laneInv_finalized inv allowed kind
  | ignored notChanged notStarted notOwned =>
      apply laneInv_unchanged inv allowed notChanged notStarted
      intro active isActive loading ends
      obtain ⟨owner, signature⟩ := exists_of_ends ends
      have owned : ownsRequest run.lane event.ownerId event.signatureText = true :=
        ownsRequest_iff.mpr ⟨loading, active, isActive, owner.symm, signature.symm,
          (inv.active active isActive).signature.trans signature.symm⟩
      rw [notOwned] at owned
      cases owned
  | succeeded kind completedAt owned =>
      obtain ⟨loading, active, isActive, owner, signature, input⟩ := ownsRequest_iff.mp owned
      obtain ⟨_, before, start, since, history_eq, starts, quiet, _⟩ := inv.active active isActive
      refine laneInv_ended inv allowed (by rw [kind]; decide) ?_ ?_ ?_ ?_
      · rfl
      · rfl
      · exact Phase.noConfusion
      rintro result ⟨⟩
      have named : event.ownerId.string .undefined = active.ownerId := by
        rw [← owner]
        rfl
      rw [named, ← signature]
      refine ⟨rfl, input.trans signature.symm, before, start, since, event, [], ?_, starts, kind, ?_,
        rfl, quiet, fun _ member => (by cases member)⟩
      · rw [history_eq]
        simp
      · rw [ends_eq_some (by rw [kind]; decide) owner.symm, ← signature]
  | failed kind owned =>
      refine laneInv_ended inv allowed (by rw [kind]; decide) ?_ ?_ ?_ ?_
      · rfl
      · rfl
      · exact Phase.noConfusion
      · exact fun _ isResult => (by cases isResult)
  | cancelled kind reason owned =>
      refine laneInv_ended inv allowed (by rw [kind]; decide) ?_ ?_ ?_ ?_
      · rfl
      · rfl
      · exact Phase.noConfusion
      · exact fun _ isResult => (by cases isResult)

/-- Every reachable lane. -/
theorem laneInv_reachable {purpose : Purpose}
    (reachable : Reachable nextLane (@startLane contents purpose) run) :
    LaneInv run := by
  apply reachable.invariant LaneInv (laneInv_start purpose)
  intro run event next inv stepped
  rcases ite_eq_iff.mp stepped with ⟨allowed, taken⟩ | ⟨_, rejected⟩
  · cases returned : transitionRequest run.lane event with
    | ok after =>
        rw [returned] at taken
        cases taken
        exact laneInv_moved inv allowed (moved_of_transitionRequest returned)
    | error failure =>
        rw [returned] at taken
        cases taken
        exact inv
  · cases rejected

end Invariant

section Integrity

variable {purpose : Purpose} {run : LaneRun contents}

/-- Events of other owners do nothing. -/
theorem transitionRequest_of_other {lane : RequestLane contents} {event : Event contents}
    (notChanged : event.kind ≠ .inputChanged) (notStarted : event.kind ≠ .requestStarted)
    (other : ∀ active, lane.active = some active → event.ownerId ≠ .text active.ownerId) :
    transitionRequest lane event = .ok lane := by
  have notOwned : ownsRequest lane event.ownerId event.signatureText = false := by
    rw [Bool.eq_false_iff]
    intro owned
    obtain ⟨_, active, isActive, owner, _⟩ := ownsRequest_iff.mp owned
    exact other active isActive owner.symm
  have kept : finalizeRequest lane event = lane := by
    unfold finalizeRequest
    split
    · rfl
    · rename_i active isActive
      exact if_pos fun same => other active isActive same.symm
  unfold transitionRequest
  cases kind : event.kind with
  | inputChanged => exact absurd kind notChanged
  | requestStarted => exact absurd kind notStarted
  | requestFinalized => exact congrArg Except.ok kept
  | requestSucceeded | requestFailed | requestCancelled | unsupported =>
      dsimp only
      rw [notOwned]
      rfl

/-- In every reachable lane a result is there only while it is ready, and was
delivered by the owner of the last start, since which the input has not changed;
other owners do nothing; and a loading lane has an active request, the last that
was started, which nothing has ended. -/
theorem requestLane_integrity
    (reachable : Reachable nextLane (@startLane contents purpose) run) :
    (∀ result, run.lane.result = some result → run.lane.phase = .ready ∧
      run.lane.inputSignature = result.inputSignature ∧ Delivered run.history result) ∧
    (∀ event : Event contents, event.kind ≠ .inputChanged → event.kind ≠ .requestStarted →
      (∀ active, run.lane.active = some active → event.ownerId ≠ .text active.ownerId) →
        transitionRequest run.lane event = .ok run.lane) ∧
    (run.lane.phase = .loading → ∃ active, run.lane.active = some active ∧ Current run active) := by
  have inv := laneInv_reachable reachable
  refine ⟨inv.result, fun event => transitionRequest_of_other, fun loading => ?_⟩
  obtain ⟨active, isActive⟩ := inv.loading loading
  exact ⟨active, isActive, inv.active active isActive⟩

def sampleContents : Contents := ⟨Nat, Nat, Nat, Nat, id⟩

/-- An event of one owner with one signature. -/
def sampleEvent (type : String) : Event sampleContents :=
  ⟨type, .text "a", .text "s", .undefined, some (0 : Nat), (7 : Nat), (0 : Nat), .undefined⟩

/-- A request that succeeds and is finalized. -/
def sampleEvents : List (Event sampleContents) :=
  ["START", "SUCCESS", "FINALIZE"].map sampleEvent

theorem requestLane_integrity_sample : ∃ run : LaneRun sampleContents,
    execute nextLane (startLane .topology) sampleEvents = some run ∧ run.lane.active = none ∧
      ∃ result, run.lane.result = some result ∧ Delivered run.history result := by
  refine ⟨_, rfl, rfl, _, rfl, ?_⟩
  have runs : execute nextLane (startLane .topology) sampleEvents = some _ := rfl
  exact ((requestLane_integrity (Reachable.of_execute runs)).1 _ rfl).2.2

end Integrity

end CheckNetwork.Frontend
