import CheckNetwork.Transition.Core
import Mathlib

/-!
# The runtime of the raw share

`RawShareRuntime` writes one sensitive file at a time for the main thread.  The
calls of the main thread and the steps of the single worker share fields under
one lock.  A step here is one such access, with what follows it up to the next:
the fields of names, tokens and reconciliation belong to the worker alone.
-/

namespace CheckNetwork.Android.RawShare

open Transition

/-! ## Data -/

/-- Objects that are compared by identity. -/
abbrev Owner := Nat

abbrev Listener := Nat

abbrev Uri := Nat

inductive Phase
  | cleaning
  | idle
  | preparing
  | materialized
  | granted
  | retired
  | cleanupFailed
  | disposed
  deriving DecidableEq

inductive Admission
  | accepted
  | busy
  | closed
  deriving DecidableEq

structure Snapshot where
  phase : Phase
  uri : Option Uri
  failure : Option String
  leaseExpiresAt : Int
  deriving DecidableEq

structure Notification where
  owner : Option Owner
  listenerGeneration : Nat
  snapshot : Snapshot
  deriving DecidableEq

/-- The names of one token. -/
inductive Name
  | final (token : String)
  | temporary (token : String)
  deriving DecidableEq

/-- What a reconciliation runs when it succeeds. -/
inductive Success
  | materialize (operation : Nat)
  | finishIdle
  | finishDisposal
  deriving DecidableEq

inductive Job
  | startup
  | prepare (operation : Nat)
  | retryCleanup
  | dispose
  | reconcile
  deriving DecidableEq

inductive WorkerStep
  | startup
  | retire (success : Success)
  | retiring (oldUri : Option Uri) (failure : Option String) (success : Success)
  | reconcile
  | materialize (operation : Nat)
  | allocate (operation : Nat) (raw : Option String)
  | write (operation : Nat) (token : String)
  | cleanupStale (uri : Uri)
  | terminalFailure (problem : String)
  | finishTerminal (problem : Option String)
  | finishIdle
  | finishCleanupFailure (problem : String)
  | finishDisposal
  | publish
  | dispatch (notification : Notification)
  | shutdownIfRequested
  | shutdown
  deriving DecidableEq

inductive MainStep
  | publish
  | dispatch (notification : Notification)
  | execute (job : Job)
  deriving DecidableEq

/-- What a run has done. -/
inductive Event
  | admitted (owner : Owner) (operation : Nat)
  | detached (owner : Option Owner)
  | disposed
  | cleaned
  | cleanupFailed
  | writing (token : String)
  | written (token : String)
  | deleted (name : Name)
  | revoking (uri : Uri)
  | materialized (owner : Owner) (operation : Nat) (uri : Uri)
  | granted (owner : Option Owner) (uri : Uri)
  | captured (snapshot : Snapshot)
  | delivered (notification : Notification)
  deriving DecidableEq

/-- The fields of the runtime, what its threads have yet to do, and what
happened, the last event first. -/
structure State where
  phase : Phase
  listener : Option Listener
  listenerOwner : Option Owner
  listenerGeneration : Nat
  operationOwner : Option Owner
  pendingRaw : Option String
  generation : Nat
  slotOwned : Bool
  disposalRequested : Bool
  finalName : Option Name
  temporaryName : Option Name
  uri : Option Uri
  revoked : Bool
  leaseExpiresAt : Int
  failure : Option String
  disposalFailure : Option String
  reconciliation : Option Success
  usedTokens : List String
  todo : List MainStep
  posted : List Notification
  queue : List Job
  program : List WorkerStep
  isShutdown : Bool
  history : List Event
  deriving DecidableEq

/-- The application's runtime, once its cleanup is scheduled. -/
def initial : State where
  phase := .cleaning
  listener := none
  listenerOwner := none
  listenerGeneration := 0
  operationOwner := none
  pendingRaw := none
  generation := 0
  slotOwned := true
  disposalRequested := false
  finalName := none
  temporaryName := none
  uri := none
  revoked := false
  leaseExpiresAt := 0
  failure := none
  disposalFailure := none
  reconciliation := none
  usedTokens := []
  todo := []
  posted := []
  queue := [.startup]
  program := []
  isShutdown := false
  history := []

namespace State

def snapshot (state : State) : Snapshot :=
  ⟨state.phase, state.uri, state.failure, state.leaseExpiresAt⟩

/-- `notificationLocked`. -/
def notification (state : State) : Option Notification :=
  state.listener.map fun _ => ⟨state.listenerOwner, state.listenerGeneration, state.snapshot⟩

def record (event : Event) (state : State) : State :=
  { state with history := event :: state.history }

/-- `dropOperationLocked`. -/
def dropOperation (state : State) : State :=
  { state with operationOwner := none, pendingRaw := none }

/-- `markRetireLocked`. -/
def markRetire (reason : String) (state : State) : Option State :=
  if state.disposalRequested ∨ state.slotOwned then none
  else some
    { state with
      slotOwned := true
      phase := .retired
      failure := some reason
      generation := state.generation + 1
      pendingRaw := none
      operationOwner := none }

/-- `markExpiryLocked`. -/
def markExpiry (now : Int) (state : State) : Option State :=
  if state.phase = .granted ∧ state.leaseExpiresAt ≤ now then state.markRetire "lease expired"
  else none

def scheduleRetire (state : State) : State :=
  { state with todo := [.publish, .execute .retryCleanup] }

end State

/-! ## Calls of the main thread -/

def attach (owner : Owner) (listener : Listener) (state : State) : State :=
  if state.disposalRequested then state
  else
    let state := { state with
      listenerOwner := some owner
      listener := some listener
      listenerGeneration := state.listenerGeneration + 1 }
    { state.record (.captured state.snapshot) with
      todo := state.notification.toList.map .dispatch }

def detach (owner : Option Owner) (state : State) : State :=
  let state := if state.listenerOwner = owner then
      { state with
        listenerOwner := none
        listener := none
        listenerGeneration := state.listenerGeneration + 1 }
    else state
  let state := state.record (.detached owner)
  if state.operationOwner = owner ∧ (state.phase = .cleaning ∨ state.phase = .preparing) then
    { state.dropOperation with generation := state.generation + 1 }
  else if state.operationOwner = owner ∧ state.phase = .materialized then
    match state.markRetire "detached" with
    | some retired => retired.scheduleRetire
    | none => state
  else state

def prepare (owner : Owner) (raw : String) (now : Int) (state : State) : State × Admission :=
  match state.markExpiry now with
  | some expired => (expired.scheduleRetire, .busy)
  | none =>
      if state.disposalRequested ∨ state.phase = .cleanupFailed ∨ state.phase = .disposed then
        (state, .closed)
      else if state.slotOwned ∨ state.phase = .cleaning ∨ state.phase = .preparing ∨
          state.phase = .retired then (state, .busy)
      else
        let operation := state.generation + 1
        ({ state.record (.admitted owner operation) with
            slotOwned := true
            phase := .cleaning
            failure := none
            pendingRaw := some raw
            operationOwner := some owner
            generation := operation
            todo := [.publish, .execute (.prepare operation)] }, .accepted)

def leaseMillis : Int := 15 * 60 * 1000

def maxLong : Int := 2 ^ 63 - 1

def safeAdd (left right : Int) : Int := if maxLong - right < left then maxLong else left + right

def grant (owner : Option Owner) (now : Int) (state : State) : State × Option Uri :=
  match state.markExpiry now with
  | some expired => (expired.scheduleRetire, none)
  | none =>
      match state.uri with
      | none => (state, none)
      | some uri =>
          if state.disposalRequested ∨ state.phase ≠ .materialized ∨
              state.operationOwner ≠ owner then (state, none)
          else
            ({ state.record (.granted owner uri) with
                phase := .granted
                leaseExpiresAt := safeAdd now leaseMillis }, some uri)

def observe (now : Int) (state : State) : State :=
  match state.markExpiry now with
  | some expired => expired.scheduleRetire
  | none => state

def retire (owner : Option Owner) (state : State) : State :=
  if state.operationOwner = owner then
    match state.markRetire "retired" with
    | some retired => retired.scheduleRetire
    | none => state
  else state

def retryCleanup (state : State) : State × Admission :=
  if state.disposalRequested then (state, .closed)
  else if state.phase ≠ .cleanupFailed ∨ state.slotOwned then (state, .busy)
  else
    ({ state with
        slotOwned := true
        phase := .cleaning
        failure := none
        todo := [.publish, .execute .retryCleanup] }, .accepted)

def dispose (state : State) : State :=
  if state.disposalRequested then state
  else
    let state := { state.dropOperation.record .disposed with
      disposalRequested := true
      listener := none
      listenerOwner := none
      listenerGeneration := state.listenerGeneration + 1
      generation := state.generation + 1 }
    if state.slotOwned then state
    else { state with slotOwned := true, phase := .retired, todo := [.execute .dispose] }

inductive Call
  | attach (owner : Owner) (listener : Listener)
  | detach (owner : Option Owner)
  | prepare (owner : Owner) (raw : String)
  | grant (owner : Option Owner)
  | observe
  | retire (owner : Option Owner)
  | retryCleanup
  | dispose
  deriving DecidableEq

/-- What a call does under the lock, when the clock shows `now`. -/
def invoke (now : Int) (state : State) : Call → State
  | .attach owner listener => attach owner listener state
  | .detach owner => detach owner state
  | .prepare owner raw => (prepare owner raw now state).1
  | .grant owner => (grant owner now state).1
  | .observe => observe now state
  | .retire owner => retire owner state
  | .retryCleanup => (retryCleanup state).1
  | .dispose => dispose state

/-- The main thread goes on with its call. -/
def runMain (state : State) : Option State :=
  match state.todo with
  | [] => none
  | .publish :: rest =>
      match state.notification with
      | none => some { state with todo := rest }
      | some notification => some
          { state.record (.captured notification.snapshot) with
            todo := .dispatch notification :: rest }
  | .dispatch notification :: rest => some
      { state with todo := rest, posted := state.posted ++ [notification] }
  | .execute job :: rest => some { state with todo := rest, queue := state.queue ++ [job] }

def deliver (notification : Notification) (state : State) : State :=
  if state.disposalRequested ∨ state.listenerOwner ≠ notification.owner ∨
      state.listenerGeneration ≠ notification.listenerGeneration ∨ state.listener = none then state
  else state.record (.delivered notification)

/-! ## Steps of the worker -/

def maxTokenAttempts : Nat := 8

def maxTransportBytes : Nat := 8 * 1024 * 1024

/-- A token, and whether its names exist. -/
structure TokenAttempt where
  token : String
  destination : Except String Bool
  temporary : Except String Bool

/-- How a step of the reconciliation ends. -/
inductive Scan
  | failed (problem : String)
  | again
  | clean
  deriving DecidableEq

/-- How the file system, the token source and the content provider answer the
worker; a text is a failure. -/
structure Answers where
  directory : Option String
  attempts : List TokenAttempt
  write : Option String
  uri : Except String Uri
  revoke : Option String
  deleteTemporary : Option String
  deleteFinal : Option String
  scan : Scan

def isToken (token : String) : Bool :=
  16 ≤ token.length ∧ token.length ≤ 128 ∧
    token.toList.all fun char => char.isAlphanum || char = '_' || char = '-'

def allocateToken (used : List String) : Nat → List TokenAttempt → Except String String
  | 0, _ => .error "Could not allocate a unique raw report name"
  | _ + 1, [] => .error "raw share token"
  | attempts + 1, attempt :: rest =>
      if !isToken attempt.token then .error "Raw share token is invalid"
      else if attempt.token ∈ used then allocateToken used attempts rest
      else match attempt.destination, attempt.temporary with
        | .error problem, _ => .error problem
        | .ok true, _ => allocateToken used attempts rest
        | .ok false, .error problem => .error problem
        | .ok false, .ok true => allocateToken used attempts rest
        | .ok false, .ok false => .ok attempt.token

/-- The token of a new file, once its text has a size that is allowed. -/
def newToken (raw : Option String) (answers : Answers) (used : List String) :
    Except String String :=
  match raw, answers.directory with
  | none, _ => .error "NullPointerException"
  | some raw, directory =>
      if maxTransportBytes < raw.utf8ByteSize then
        .error "Raw report exceeds the UTF-8 transport byte limit"
      else match directory with
        | some problem => .error problem
        | none => allocateToken used maxTokenAttempts answers.attempts

/-- `fs.delete` of a name, where there is one: the name that is left. -/
def remaining (name : Option Name) (failure : Option String) : Option Name :=
  if failure = none then none else name

/-- What deletes, and what fails. -/
def deletion (name : Option Name) (failure : Option String) : List Event × Option String :=
  match name, failure with
  | none, _ => ([], none)
  | some name, none => ([.deleted name], none)
  | some _, some problem => ([], some problem)

/-- The deletions of both names, their number, and the failure that is reported. -/
def deleteNames (answers : Answers) (failure : Option String) (state : State) :
    State × Nat × Option String :=
  let temporary := deletion state.temporaryName answers.deleteTemporary
  let final := deletion state.finalName answers.deleteFinal
  ({ state with
      temporaryName := remaining state.temporaryName temporary.2
      finalName := remaining state.finalName final.2
      history := final.1 ++ temporary.1 ++ state.history },
    temporary.1.length + final.1.length, (failure.or temporary.2).or final.2)

def rejected : String := "RejectedExecutionException"

def beginReconciliation (success : Success) (defer : Bool) (rest : List WorkerStep)
    (state : State) : State :=
  if state.reconciliation.isSome then
    { state with program := .finishCleanupFailure "Reconciliation already active" :: rest }
  else
    let state := { state with reconciliation := some success }
    if !defer then { state with program := .reconcile :: rest }
    else if state.isShutdown then { state with program := .finishCleanupFailure rejected :: rest }
    else { state with queue := state.queue ++ [.reconcile], program := rest }

/-- `retireOwnedOnWorker` reads the fields and revokes. -/
def retireOwned (answers : Answers) (success : Success) (rest : List WorkerStep)
    (state : State) : State :=
  match state.uri with
  | none => { state with program := .retiring none none success :: rest }
  | some uri =>
      if state.revoked then { state with program := .retiring (some uri) none success :: rest }
      else
        { state.record (.revoking uri) with
          revoked := true
          program := .retiring (some uri) answers.revoke success :: rest }

/-- `retireOwnedOnWorker` forgets the address and deletes. -/
def retireNames (answers : Answers) (oldUri : Option Uri) (failure : Option String)
    (success : Success) (rest : List WorkerStep) (state : State) : State :=
  let cleared := if oldUri ≠ none ∧ state.uri = oldUri then
      { state with uri := none, leaseExpiresAt := 0 }
    else state
  let deleted := deleteNames answers failure cleared
  match deleted.2.2 with
  | some problem => { deleted.1 with program := .finishCleanupFailure problem :: rest }
  | none => beginReconciliation success (0 < deleted.2.1) rest { deleted.1 with revoked := false }

def Success.first : Success → WorkerStep
  | .materialize operation => .materialize operation
  | .finishIdle => .finishIdle
  | .finishDisposal => .finishDisposal

def reconcileStep (answers : Answers) (rest : List WorkerStep) (state : State) : State :=
  match state.reconciliation with
  | none => { state with program := rest }
  | some success =>
      match answers.scan with
      | .failed problem =>
          { state with
            reconciliation := none
            program := .finishCleanupFailure problem :: rest }
      | .again =>
          if state.isShutdown then
            { state with
              reconciliation := none
              program := .finishCleanupFailure rejected :: rest }
          else { state with queue := state.queue ++ [.reconcile], program := rest }
      | .clean =>
          { state.record .cleaned with
            reconciliation := none
            program := success.first :: rest }

def stale : String := "StaleOperationException"

/-- `materializeOnWorker`, up to its first publication. -/
def materialize (operation : Nat) (rest : List WorkerStep) (state : State) : State :=
  if operation ≠ state.generation then
    { state with program := .terminalFailure stale :: rest }
  else
    { state with
      phase := .preparing
      program := .publish :: .allocate operation state.pendingRaw :: rest }

def allocate (answers : Answers) (operation : Nat) (raw : Option String) (rest : List WorkerStep)
    (state : State) : State :=
  match newToken raw answers state.usedTokens with
  | .error problem => { state with program := .terminalFailure problem :: rest }
  | .ok token =>
      let state := { state with usedTokens := token :: state.usedTokens }
      if operation ≠ state.generation then
        { state with program := .terminalFailure stale :: rest }
      else
        { state with
          finalName := some (.final token)
          temporaryName := some (.temporary token)
          program := .write operation token :: rest }

def commit (operation : Nat) (uri : Uri) (rest : List WorkerStep) (state : State) : State :=
  match state.operationOwner with
  | none => { state with program := .cleanupStale uri :: rest }
  | some owner =>
      if operation ≠ state.generation ∨ state.disposalRequested then
        { state with program := .cleanupStale uri :: rest }
      else
        { state.record (.materialized owner operation uri) with
          uri := some uri
          temporaryName := none
          phase := .materialized
          pendingRaw := none
          slotOwned := false
          program := .publish :: rest }

def write (answers : Answers) (operation : Nat) (token : String) (rest : List WorkerStep)
    (state : State) : State :=
  let state := state.record (.writing token)
  match answers.write, answers.uri with
  | some problem, _ => { state with program := .terminalFailure problem :: rest }
  | none, .error problem =>
      { state.record (.written token) with program := .terminalFailure problem :: rest }
  | none, .ok uri => commit operation uri rest (state.record (.written token))

/-- `cleanupCandidate`. -/
def cleanupCandidate (answers : Answers) (candidate : Option Uri) (state : State) :
    State × Nat × Option String :=
  match candidate with
  | none => deleteNames answers none state
  | some uri => deleteNames answers answers.revoke (state.record (.revoking uri))

def cleanupStale (answers : Answers) (uri : Uri) (rest : List WorkerStep) (state : State) : State :=
  let cleaned := cleanupCandidate answers (some uri) state
  match cleaned.2.2 with
  | some problem => { cleaned.1 with program := .terminalFailure problem :: rest }
  | none => { cleaned.1 with program := .finishTerminal none :: rest }

def terminalFailure (answers : Answers) (problem : String) (rest : List WorkerStep)
    (state : State) : State :=
  let cleaned := cleanupCandidate answers state.uri state
  match cleaned.2.2 with
  | some cleanup => { cleaned.1 with program := .finishCleanupFailure cleanup :: rest }
  | none => { cleaned.1 with program := .finishTerminal (some problem) :: rest }

/-- The end of `terminalFailure`, or of `finishAfterTerminalCleanup` when there is
no problem. -/
def finishTerminal (problem : Option String) (rest : List WorkerStep) (state : State) : State :=
  { state.dropOperation with
    temporaryName := none
    finalName := none
    uri := none
    leaseExpiresAt := 0
    slotOwned := false
    phase := if state.disposalRequested then .disposed else .idle
    failure := if state.disposalRequested then state.failure else problem.or state.failure
    program := .publish :: .shutdownIfRequested :: rest }

/-- The steps after a publication that ends an operation. -/
def closing (state : State) (rest : List WorkerStep) : List WorkerStep :=
  .publish :: if state.disposalRequested then .shutdown :: rest else rest

def finishIdle (rest : List WorkerStep) (state : State) : State :=
  { state.dropOperation with
    slotOwned := false
    phase := if state.disposalRequested then .disposed else .idle
    failure := none
    program := closing state rest }

def finishCleanupFailure (problem : String) (rest : List WorkerStep) (state : State) : State :=
  { state.dropOperation.record .cleanupFailed with
    slotOwned := false
    phase := if state.disposalRequested then .disposed else .cleanupFailed
    failure := some problem
    disposalFailure := if state.disposalRequested then some problem else state.disposalFailure
    program := closing state rest }

def finishDisposal (rest : List WorkerStep) (state : State) : State :=
  { state.dropOperation with slotOwned := false, phase := .disposed, program := .shutdown :: rest }

def publish (rest : List WorkerStep) (state : State) : State :=
  match state.notification with
  | none => { state with program := rest }
  | some notification =>
      { state.record (.captured notification.snapshot) with
        program := .dispatch notification :: rest }

def work (answers : Answers) (rest : List WorkerStep) (state : State) : WorkerStep → State
  | .startup => beginReconciliation .finishIdle false rest state
  | .retire success => retireOwned answers success rest state
  | .retiring oldUri failure success => retireNames answers oldUri failure success rest state
  | .reconcile => reconcileStep answers rest state
  | .materialize operation => materialize operation rest state
  | .allocate operation raw => allocate answers operation raw rest state
  | .write operation token => write answers operation token rest state
  | .cleanupStale uri => cleanupStale answers uri rest state
  | .terminalFailure problem => terminalFailure answers problem rest state
  | .finishTerminal problem => finishTerminal problem rest state
  | .finishIdle => finishIdle rest state
  | .finishCleanupFailure problem => finishCleanupFailure problem rest state
  | .finishDisposal => finishDisposal rest state
  | .publish => publish rest state
  | .dispatch notification =>
      { state with posted := state.posted ++ [notification], program := rest }
  | .shutdownIfRequested =>
      { state with program := if state.disposalRequested then .shutdown :: rest else rest }
  | .shutdown => { state with isShutdown := true, program := rest }

/-- How a job begins. -/
def Job.first : Job → WorkerStep
  | .startup => .startup
  | .prepare operation => .retire (.materialize operation)
  | .retryCleanup => .retire .finishIdle
  | .dispose => .retire .finishDisposal
  | .reconcile => .reconcile

/-! ## Runs -/

inductive Action
  | call (now : Int) (call : Call)
  | main
  | deliver
  | take
  | work (answers : Answers)

/-- The main thread delivers what was posted first. -/
def runPosted (state : State) : Option State :=
  match state.todo, state.posted with
  | [], notification :: rest => some (deliver notification { state with posted := rest })
  | _, _ => none

/-- The worker takes a job. -/
def take (state : State) : Option State :=
  match state.program, state.queue with
  | [], job :: rest => some { state with queue := rest, program := [job.first] }
  | _, _ => none

/-- The worker goes on with its job. -/
def runWorker (answers : Answers) (state : State) : Option State :=
  match state.program with
  | step :: rest => some (work answers rest state step)
  | [] => none

def next : Step State Action
  | state, .call now call => if state.todo = [] then some (invoke now state call) else none
  | state, .main => runMain state
  | state, .deliver => runPosted state
  | state, .take => take state
  | state, .work answers => runWorker answers state

end CheckNetwork.Android.RawShare
