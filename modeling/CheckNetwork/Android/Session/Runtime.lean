import CheckNetwork.Transition.Core
import Mathlib

/-!
# The session of report requests

`RequestCoordinator` replaces one request by the next, `DiagnosticsSession` tells
the attached listener of it, and a call of `ProductionFactory` runs it on a worker.
A step here is one access to what the threads share.  What a method does after it
left its lock is a task, and tasks run in any order.
-/

namespace CheckNetwork.Android.Session

open Transition

/-! ## Data -/

/-- Objects that are compared by identity. -/
abbrev Owner := Nat

abbrev Listener := Nat

abbrev Report := Nat

inductive Phase
  | idle
  | loading
  | ready
  | error
  | cancelled
  deriving DecidableEq

/-- `TransportException.Kind`. -/
inductive Kind
  | network
  | timeout
  | cancelled
  | responseTooLarge
  | invalidResponse
  | api
  | unsupportedCapability
  deriving DecidableEq

/-- A snapshot.  Every object has another `identity`, so that equality is identity. -/
structure RequestState where
  identity : Nat
  phase : Phase
  ownerId : Nat
  signature : String
  rawJson : Option String
  report : Option Report
  error : Option Kind
  deriving DecidableEq

namespace RequestState

def idle (identity ownerId : Nat) (signature : String) : RequestState :=
  ⟨identity, .idle, ownerId, signature, none, none, none⟩

def loading (identity ownerId : Nat) (signature : String) : RequestState :=
  ⟨identity, .loading, ownerId, signature, none, none, none⟩

def ready (identity ownerId : Nat) (signature rawJson : String) (report : Report) : RequestState :=
  ⟨identity, .ready, ownerId, signature, some rawJson, some report, none⟩

def failed (identity ownerId : Nat) (signature : String) (kind : Kind) : RequestState :=
  ⟨identity, .error, ownerId, signature, none, none, some kind⟩

def cancelled (identity ownerId : Nat) (signature : String) : RequestState :=
  ⟨identity, .cancelled, ownerId, signature, none, none, none⟩

end RequestState

/-- What a call tells its callback. -/
inductive Outcome
  | success (rawJson : String) (report : Report)
  | error (kind : Kind)
  | finally
  deriving DecidableEq

/-- The network calls of a request. -/
inductive Network
  | capabilities
  | report
  deriving DecidableEq

/-- Where the worker of a call is. -/
inductive Stage
  | created
  | submitted
  | opening (network : Network)
  | activating (network : Network)
  | executing (network : Network)
  | checking
  | rechecking
  | completing (outcome : Outcome)
  | clearing
  | finalizing
  | finished
  deriving DecidableEq

/-- Where the cancellation of a call is. -/
inductive Cancelling
  | unasked
  | asked
  | flagged
  | looked
  | done
  deriving DecidableEq

/-- Where the future of a submitted task is. -/
inductive Future
  | unset
  | returned
  | assigned
  deriving DecidableEq

/-- A `CancellableCall` with the request it was made for; the last three fields
say which network calls were activated, cancelled and ended. -/
structure Call where
  ownerId : Nat
  signature : String
  cancelled : Bool
  activeCall : Option Network
  future : Future
  stage : Stage
  cancelling : Cancelling
  activated : List Network
  stopped : List Network
  returned : List Network
  deriving DecidableEq

def Call.create (ownerId : Nat) (signature : String) : Call where
  ownerId := ownerId
  signature := signature
  cancelled := false
  activeCall := none
  future := .unset
  stage := .created
  cancelling := .unasked
  activated := []
  stopped := []
  returned := []

/-- What a method has yet to do. -/
inductive Task
  | publish (snapshot : RequestState)
  | inform (snapshot : RequestState)
  | dispatch (owner : Owner) (listener : Listener) (snapshot : RequestState)
  | unlisten
  | destroy
  | shutdown
  deriving DecidableEq

/-- A delivery that waits for the main thread. -/
structure Post where
  owner : Owner
  listener : Listener
  snapshot : RequestState
  deriving DecidableEq

/-- What a run has done. -/
inductive Event
  | started (call : Nat) (snapshot : RequestState)
  | invalidated (snapshot : RequestState)
  | cancelled (snapshot : RequestState)
  | destroyed (snapshot : RequestState)
  | completed (call : Nat) (snapshot : RequestState)
  | attached (owner : Owner) (listener : Listener)
  | detached
  | checked (owner : Owner) (listener : Listener) (snapshot : RequestState)
  | received (listener : Listener) (snapshot : RequestState)
  deriving DecidableEq

/-- The fields of the coordinator and of the session, the calls that were created,
what is still to be done, and what happened, the last event first. -/
structure State where
  ownerSequence : Nat
  current : RequestState
  active : Option Nat
  destroyed : Bool
  listening : Bool
  attachment : Option (Owner × Listener)
  sessionDestroyed : Bool
  isShutdown : Bool
  calls : List Call
  identities : Nat
  tasks : List Task
  posted : List Post
  receiving : Option (Listener × RequestState)
  history : List Event
  deriving DecidableEq

def initial : State where
  ownerSequence := 0
  current := .idle 0 0 ""
  active := none
  destroyed := false
  listening := true
  attachment := none
  sessionDestroyed := false
  isShutdown := false
  calls := []
  identities := 1
  tasks := []
  posted := []
  receiving := none
  history := []

/-! ## The coordinator -/

def maxLong : Nat := 2 ^ 63 - 1

/-- The previous call is to be cancelled. -/
def askCancel (previous : Option Nat) (calls : List Call) : List Call :=
  match previous with
  | none => calls
  | some call => calls.modify call fun call => { call with cancelling := .asked }

/-- A new snapshot, which is still to be published. -/
def State.update (active : Option Nat) (snapshot : RequestState) (event : Event) (state : State) :
    State :=
  { state with
    active := active
    current := snapshot
    identities := state.identities + 1
    tasks := state.tasks ++ [.publish snapshot]
    history := event :: state.history }

/-- The factory may fail to create the call. -/
def start (signature : String) (creates : Bool) (state : State) : State :=
  if state.destroyed ∨ state.ownerSequence = maxLong then state
  else
    let owner := state.ownerSequence + 1
    if !creates then { state with ownerSequence := owner }
    else
      let call := state.calls.length
      let snapshot := RequestState.loading state.identities owner signature
      { state.update (some call) snapshot (.started call snapshot) with
        ownerSequence := owner
        calls := askCancel state.active state.calls ++ [.create owner signature] }

def invalidateInput (signature : String) (state : State) : State :=
  if state.destroyed then state
  else
    let snapshot := RequestState.idle state.identities state.ownerSequence signature
    { state.update none snapshot (.invalidated snapshot) with
      calls := askCancel state.active state.calls }

def cancel (state : State) : State :=
  if state.destroyed ∨ state.current.phase = .cancelled then state
  else
    let snapshot :=
      RequestState.cancelled state.identities state.ownerSequence state.current.signature
    { state.update none snapshot (.cancelled snapshot) with
      calls := askCancel state.active state.calls }

/-- `RequestCoordinator.destroy`. -/
def destroyCoordinator (state : State) : State :=
  if state.destroyed then state
  else
    let snapshot :=
      RequestState.cancelled state.identities state.ownerSequence state.current.signature
    { state.update none snapshot (.destroyed snapshot) with
      destroyed := true
      calls := askCancel state.active state.calls }

def Owns (state : State) (index : Nat) (call : Call) : Prop :=
  state.destroyed = false ∧ state.active = some index ∧ state.current.phase = .loading ∧
    state.current.ownerId = call.ownerId ∧ state.current.signature = call.signature

instance (state : State) (index : Nat) (call : Call) : Decidable (Owns state index call) :=
  inferInstanceAs (Decidable (_ ∧ _ ∧ _ ∧ _ ∧ _))

/-- The snapshot of `completeSuccess`, `completeError` and `finalizeOwned`. -/
def Outcome.snapshot (identity ownerId : Nat) (signature : String) : Outcome → RequestState
  | .success rawJson report => .ready identity ownerId signature rawJson report
  | .error .cancelled => .cancelled identity ownerId signature
  | .error kind => .failed identity ownerId signature kind
  | .finally => .failed identity ownerId signature .invalidResponse

def complete (index : Nat) (call : Call) (outcome : Outcome) (state : State) : State :=
  if Owns state index call then
    let snapshot := outcome.snapshot state.identities call.ownerId call.signature
    state.update none snapshot (.completed index snapshot)
  else state

/-! ## The session -/

def attach (owner : Owner) (listener : Listener) (state : State) : State :=
  if state.sessionDestroyed then state
  else
    { state with
      attachment := some (owner, listener)
      tasks := state.tasks ++ [.dispatch owner listener state.current]
      history := .attached owner listener :: state.history }

def detach (owner : Option Owner) (state : State) : State :=
  if state.attachment.map Prod.fst = owner then
    { state with attachment := none, history := .detached :: state.history }
  else state

/-- `DiagnosticsSession.destroy`, under the lock. -/
def destroySession (state : State) : State :=
  if state.sessionDestroyed then state
  else
    { state with
      sessionDestroyed := true
      attachment := none
      tasks := state.tasks ++ [.unlisten]
      history := .detached :: state.history }

/-- A task that has not begun is dropped. -/
def Call.drop (call : Call) : Call :=
  if call.stage = .submitted then { call with stage := .finished } else call

def State.todo (task : Task) (state : State) : State :=
  { state with tasks := state.tasks ++ [task] }

def runTask (state : State) : Task → State
  | .publish snapshot => if state.listening then state.todo (.inform snapshot) else state
  | .inform snapshot =>
      if state.sessionDestroyed then state
      else
        match state.attachment with
        | none => state
        | some (owner, listener) => state.todo (.dispatch owner listener snapshot)
  | .dispatch owner listener snapshot =>
      { state with posted := state.posted ++ [⟨owner, listener, snapshot⟩] }
  | .unlisten => { state with listening := false }.todo .destroy
  | .destroy => (destroyCoordinator state).todo .shutdown
  | .shutdown => { state with isShutdown := true, calls := state.calls.map Call.drop }

/-- The main thread checks a delivery. -/
def deliver (post : Post) (state : State) : State :=
  if state.sessionDestroyed ∨ state.attachment ≠ some (post.owner, post.listener) then state
  else if state.current ≠ post.snapshot then state
  else
    { state with
      receiving := some (post.listener, post.snapshot)
      history := .checked post.owner post.listener post.snapshot :: state.history }

/-! ## The calls -/

/-- `cancel` of a call goes on. -/
def Call.stop (call : Call) : Option Call :=
  match call.cancelling with
  | .asked => some { call with cancelled := true, cancelling := .flagged }
  | .flagged => some
      { call with stopped := call.activeCall.toList ++ call.stopped, cancelling := .looked }
  | .looked =>
      let call := if call.future = .assigned then call.drop else call
      some { call with cancelling := .done }
  | _ => none

/-- How the transports, the deadline and the checks of the capabilities answer. -/
structure Answers where
  failure : Option Kind
  response : Except Kind (String × Report)

def Call.fail (kind : Kind) (call : Call) : Call :=
  { call with stage := .completing (.error kind) }

/-- `throwIfCancelled`, and what may fail after it. -/
def Call.check (answers : Answers) (next : Stage) (call : Call) : Call :=
  if call.cancelled then call.fail .cancelled
  else
    match answers.failure with
    | some kind => call.fail kind
    | none => { call with stage := next }

/-- `activate`, after it has set the active call. -/
def Call.activate (network : Network) (call : Call) : Call :=
  if call.cancelled then
    { call with stopped := network :: call.stopped }.fail .cancelled
  else { call with stage := .executing network }

/-- The worker goes on with what concerns the call alone. -/
def Call.work (answers : Answers) (call : Call) : Call :=
  match call.stage with
  | .submitted => { call with stage := .opening .capabilities }
  | .opening network =>
      match answers.failure with
      | some kind => call.fail kind
      | none =>
          { call with
            activeCall := some network
            activated := network :: call.activated
            stage := .activating network }
  | .activating network => call.activate network
  | .executing network =>
      let call := { call with returned := network :: call.returned }
      match answers.response, network with
      | .error kind, _ => call.fail kind
      | .ok _, .capabilities => { call with stage := .checking }
      | .ok (rawJson, report), .report =>
          { call with stage := .completing (.success rawJson report) }
  | .checking => call.check answers .rechecking
  | .rechecking => call.check answers (.opening .report)
  | .clearing => { call with activeCall := none, stage := .finalizing }
  | _ => call

/-! ## Runs -/

def State.setCall (index : Nat) (call : Call) (state : State) : State :=
  { state with calls := state.calls.set index call }

/-- `start` of a call: the executor takes its task, or rejects it. -/
def launch (index : Nat) (accepts : Bool) (state : State) : Option State :=
  match state.calls[index]? with
  | none => none
  | some call =>
      if call.stage ≠ .created then none
      else if accepts ∧ state.isShutdown = false then
        some (state.setCall index { call with stage := .submitted, future := .returned })
      else
        some (complete index call (.error .network)
          (state.setCall index { call with stage := .finished }))

def assign (index : Nat) (state : State) : Option State :=
  match state.calls[index]? with
  | none => none
  | some call =>
      if call.future = .returned then some (state.setCall index { call with future := .assigned })
      else none

def stop (index : Nat) (state : State) : Option State :=
  match state.calls[index]? with
  | none => none
  | some call => call.stop.map (state.setCall index ·)

/-- The worker of a call goes on. -/
def work (index : Nat) (answers : Answers) (state : State) : Option State :=
  match state.calls[index]? with
  | none => none
  | some call =>
      match call.stage with
      | .created | .finished => none
      | .completing outcome =>
          some (complete index call outcome (state.setCall index { call with stage := .clearing }))
      | .finalizing =>
          some (complete index call .finally (state.setCall index { call with stage := .finished }))
      | _ => some (state.setCall index (call.work answers))

inductive Action
  | start (signature : String) (creates : Bool)
  | invalidateInput (signature : String)
  | cancel
  | destroy
  | attach (owner : Owner) (listener : Listener)
  | detach (owner : Option Owner)
  | run (task : Nat)
  | launch (call : Nat) (accepts : Bool)
  | assign (call : Nat)
  | stop (call : Nat)
  | work (call : Nat) (answers : Answers)
  | deliver (post : Nat)
  | receive

/-- The main thread takes a delivery when it has no other, in any order. -/
def takePost (index : Nat) (state : State) : Option State :=
  match state.receiving, state.posted[index]? with
  | none, some post => some (deliver post { state with posted := state.posted.eraseIdx index })
  | _, _ => none

def takeTask (index : Nat) (state : State) : Option State :=
  state.tasks[index]?.map (runTask { state with tasks := state.tasks.eraseIdx index })

/-- The listener is called. -/
def receive (state : State) : Option State :=
  state.receiving.map fun (listener, snapshot) =>
    { state with receiving := none, history := .received listener snapshot :: state.history }

def next : Step State Action
  | state, .start signature creates => some (start signature creates state)
  | state, .invalidateInput signature => some (invalidateInput signature state)
  | state, .cancel => some (cancel state)
  | state, .destroy => some (destroySession state)
  | state, .attach owner listener => some (attach owner listener state)
  | state, .detach owner => some (detach owner state)
  | state, .run task => takeTask task state
  | state, .launch call accepts => launch call accepts state
  | state, .assign call => assign call state
  | state, .stop call => stop call state
  | state, .work call answers => work call answers state
  | state, .deliver post => takePost post state
  | state, .receive => receive state

end CheckNetwork.Android.Session
