import CheckNetwork.Runner.Request
import CheckNetwork.Runner.Supervisor
import CheckNetwork.Transition.Delivery

/-!
# One report run

The goroutines of `Runner.RunWithID` as one labelled step function.  Each read
of a context error, each use of a `sync.Once`, each supervisor call and each
channel operation is its own step, so that completions, panics, deadlines, the
report cutoff, cancellation and shutdown interleave as they can in the source.
A context becomes done in a step of its own, and a callback registered on it
fires at any later point.
-/

namespace CheckNetwork.Runner

open Diagnostic Go Transition

inductive ContextError
  | canceled | deadlineExceeded
  deriving DecidableEq, Repr

/-- Error codes that the runner itself publishes for a started target. -/
inductive CutoffCode
  | timeout | cancelled
  deriving DecidableEq, Repr

def CutoffCode.text : CutoffCode → String
  | timeout => "timeout"
  | cancelled => "cancelled"

/-- The two contexts whose end calls `cutoff`. -/
inductive CutoffSource
  | run | server
  deriving DecidableEq, Repr

/-- Who sends an outcome: the launching loop, the checker's goroutine, or one
of the two cutoff callbacks. -/
inductive Party
  | refusal | completion
  | cutoff (source : CutoffSource)
  deriving DecidableEq, Repr

/-- How a published result came about. -/
inductive Exit
  | capacity | checker | panic
  | cutoff (code : CutoffCode)
  deriving DecidableEq, Repr

/-- What held when a path began to observe the contexts. -/
structure Observation where
  time : Int
  parentDone : Bool
  serverDone : Bool
  deriving DecidableEq

/-- The result the deferred function of `runChecker` passes to `complete`. -/
structure Completion where
  result : Result
  panicked : Bool
  observation : Observation

def Completion.exit (completion : Completion) : Exit :=
  if completion.panicked then .panic else .checker

/-- Reads of `complete`, in the order of its switch. -/
inductive Reading
  | parent | server | run | check | checkCancelled
  deriving DecidableEq, Repr

inductive Worker
  | absent | spawned | checking
  | completing (completion : Completion) (reading : Reading)
  | claiming (completion : Completion) (code : Option CutoffCode)
  | stopping | releasing | sending | exited

/-- Its contexts exist. -/
def Worker.running : Worker → Bool
  | absent | spawned => false
  | _ => true

inductive Cutoff
  | unregistered | armed | stopped
  | readingParent (observation : Observation)
  | readingServer (observation : Observation)
  | claiming (observation : Observation) (code : CutoffCode)
  | sending | finished

/-- The stop function of a callback: one that has started is not stopped. -/
def Cutoff.stop : Cutoff → Cutoff
  | armed => stopped
  | other => other

/-- The outcome recorded by the `sync.Once` of a `targetTerminal`. -/
structure Claim where
  party : Party
  exit : Exit
  result : Result
  observation : Observation

/-- `publishing` holds an outcome that a goroutine has to send and has not
sent yet.  `releases` counts the calls of `release` for the lease. -/
structure Task where
  lease : Option LeaseID
  refused : Option Result
  worker : Worker
  cutoff : CutoffSource → Cutoff
  claim : Option Claim
  publishing : Party → Option Result
  workerErr : Option ContextError
  checkErr : Option ContextError
  checkStarted : Int
  checkDeadline : Int
  checkTimed : Bool
  releases : Nat

def Task.initial : Task where
  lease := none
  refused := none
  worker := .absent
  cutoff _ := .unregistered
  claim := none
  publishing _ := none
  workerErr := none
  checkErr := none
  checkStarted := 0
  checkDeadline := 0
  checkTimed := false
  releases := 0

/-- The goroutine of `RunWithID`. -/
inductive Main
  | starting
  | rejected (error : String)
  | launching
  | refusing (slot : Nat)
  | collecting
  | returned (results : List Result)

/-- The arguments of `RunWithID` and what its `Runner` was built with:
`returns` says which results the registered checkers may return. -/
structure RunConfig where
  reportID : GoString
  request : Request
  supported : Kind → Bool
  parentDeadline : Option Int
  started : Int
  returns : Target → Result → Bool

/-- `runTimed` and `Task.checkTimed` tell whether a context has a timer of its
own, which it has not when its parent's deadline comes first. -/
structure RunState where
  now : Int
  parentErr : Option ContextError
  runErr : Option ContextError
  runDeadline : Int
  runTimed : Bool
  supervisor : CheckerSupervisor
  tasks : Nat → Task
  launched : Nat
  main : Main
  channel : List (Nat × Result)
  results : Nat → Option Result
  received : Nat

namespace RunConfig

variable (config : RunConfig)

def slots : Nat := config.request.targets.length

def target (slot : Nat) : Target :=
  config.request.targets.getD slot ⟨.dns, [], 0, 0⟩

/-- First error of `RunWithID`. -/
def rejection : Option String :=
  if validReportID config.reportID then config.request.validate config.supported
  else some "report ID must be 24 lowercase hexadecimal characters"

/-- `runCtx.Deadline()` of a run context created at `now`. -/
def runDeadline (now : Int) : Int :=
  match config.parentDeadline with
  | none => now + config.request.budget
  | some deadline => min deadline (now + config.request.budget)

def runTimed (now : Int) : Bool :=
  match config.parentDeadline with
  | none => true
  | some deadline => now + config.request.budget ≤ deadline

/-- `checkCtx.Deadline()` of a checker started at `now`.  Traceroute gets a
timeout for each attempt instead of a deadline. -/
def checkDeadline (slot : Nat) (runDeadline now : Int) : Int :=
  if (config.target slot).kind = .traceroute then runDeadline
  else min runDeadline (now + config.request.timeout)

def checkTimed (slot : Nat) (runDeadline now : Int) : Bool :=
  (config.target slot).kind ≠ .traceroute ∧ now + config.request.timeout ≤ runDeadline

def executionMessage (code : String) : String :=
  if code = "timeout" then "checker execution timed out"
  else if code = "cancelled" then "checker execution cancelled"
  else "checker execution capacity unavailable"

/-- `executionResult`. -/
def executionResult (slot : Nat) (code : String) (now : Int) : Result where
  kind := (config.target slot).kind
  address := (config.target slot).address
  status := .unreachable
  latencyMS := (now - config.started) / millisecond
  startedAt := ⟨config.started, 0⟩
  errorCode := code
  message := executionMessage code
  details := none

/-- The result of a recovered panic. -/
def panicResult (slot : Nat) (started now : Int) : Result where
  kind := (config.target slot).kind
  address := []
  status := .unreachable
  latencyMS := (now - started) / millisecond
  startedAt := ⟨started, 0⟩
  errorCode := ("checker_panic" : String)
  message := ("checker execution failed" : String)
  details := none

end RunConfig

inductive RunAction
  | tick (elapsed : Nat)
  | cancelParent (error : ContextError)
  | inheritRun
  | expireRun
  | shutdown
  | otherAcquire
  | otherRelease (lease : LeaseID)
  | otherMark (lease : LeaseID)
  | begin
  | launch
  | startCheck (slot : Nat)
  | inheritWorker (slot : Nat)
  | cancelWorker (slot : Nat)
  | inheritCheck (slot : Nat)
  | expireCheck (slot : Nat)
  | returnCheck (slot : Nat) (result : Result)
  | panicCheck (slot : Nat)
  | observe (slot : Nat)
  | claim (slot : Nat)
  | stopCutoffs (slot : Nat)
  | release (slot : Nat)
  | fireCutoff (slot : Nat) (source : CutoffSource)
  | observeCutoff (slot : Nat) (source : CutoffSource)
  | claimCutoff (slot : Nat) (source : CutoffSource)
  | send (slot : Nat) (party : Party)
  | receive
  | finish

namespace RunState

def initial (config : RunConfig) (supervisor : CheckerSupervisor) : RunState where
  now := config.started
  parentErr := none
  runErr := none
  runDeadline := 0
  runTimed := false
  supervisor := supervisor
  tasks _ := Task.initial
  launched := 0
  main := .starting
  channel := []
  results _ := none
  received := 0

variable (config : RunConfig)

def setTask (state : RunState) (slot : Nat) (task : Task) : RunState :=
  { state with tasks := Function.update state.tasks slot task }

/-- What an observer would see of cancellation at this moment. -/
def observation (state : RunState) : Observation :=
  ⟨state.now, state.parentErr.isSome, state.supervisor.cancelled⟩

/-- `deadlineReached(ctx, completedAt)` for a context with a deadline. -/
def deadlineReached (error : Option ContextError) (deadline completedAt : Int) : Bool :=
  error = some .deadlineExceeded || deadline ≤ completedAt

def setWorker (task : Task) (worker : Worker) : Task :=
  { task with worker := worker }

def setCutoff (task : Task) (source : CutoffSource) (cutoff : Cutoff) : Task :=
  { task with cutoff := Function.update task.cutoff source cutoff }

def setPublishing (task : Task) (party : Party) (result : Option Result) : Task :=
  { task with publishing := Function.update task.publishing party result }

/-- Leases of this run, which other holders of the supervisor do not have. -/
def Owns (state : RunState) (lease : LeaseID) : Prop :=
  ∃ slot, slot < config.slots ∧ (state.tasks slot).lease = some lease

instance (state : RunState) (lease : LeaseID) : Decidable (state.Owns config lease) :=
  decidable_of_iff (∃ slot ∈ List.range config.slots, (state.tasks slot).lease = some lease)
    (by simp [Owns])

/-- `targetTerminal.claim` for a task whose `sync.Once` may already be done.
The winner has an outcome to send; a cutoff code marks the lease stuck. -/
def commit (state : RunState) (slot : Nat) (task : Task) (claim : Claim) : RunState :=
  match task.claim with
  | some _ => state.setTask slot task
  | none =>
      let marked := match claim.exit with
        | .cutoff _ => state.supervisor.markStuck task.lease
        | _ => state.supervisor
      { state with supervisor := marked }.setTask slot
        (setPublishing { task with claim := some claim } claim.party (some claim.result))

/-- The next read of `complete`. -/
def observeStep (state : RunState) (slot : Nat) (task : Task) (completion : Completion) :
    Reading → Worker
  | .parent =>
      if state.parentErr.isSome then .claiming completion (some .cancelled)
      else .completing completion .server
  | .server =>
      if state.supervisor.cancelled then .claiming completion (some .cancelled)
      else .completing completion .run
  | .run =>
      if deadlineReached state.runErr state.runDeadline completion.observation.time then
        .claiming completion (some .timeout)
      else .completing completion .check
  | .check =>
      if (config.target slot).kind ≠ .traceroute ∧
          deadlineReached task.checkErr task.checkDeadline completion.observation.time then
        .claiming completion (some .timeout)
      else .completing completion .checkCancelled
  | .checkCancelled =>
      if task.checkErr = some .canceled then .claiming completion (some .cancelled)
      else .claiming completion none

/-- The outcome `complete` tries to claim. -/
def completionClaim (state : RunState) (slot : Nat) (completion : Completion)
    (code : Option CutoffCode) : Claim :=
  match code with
  | none => ⟨.completion, completion.exit, completion.result, completion.observation⟩
  | some code => ⟨.completion, .cutoff code,
      config.executionResult slot code.text state.now, completion.observation⟩

def cutoffClaim (state : RunState) (slot : Nat) (source : CutoffSource)
    (observation : Observation) (code : CutoffCode) : Claim :=
  ⟨.cutoff source, .cutoff code, config.executionResult slot code.text state.now, observation⟩

/-- One iteration of the launching loop up to its channel send. -/
def launchSlot (state : RunState) : RunState :=
  let slot := state.launched
  match state.supervisor.acquire with
  | (supervisor, none) =>
      let result := config.executionResult slot "checker_capacity_unavailable" state.now
      { state with supervisor := supervisor, launched := slot + 1, main := .refusing slot }.setTask
        slot (setPublishing { Task.initial with refused := some result } .refusal (some result))
  | (supervisor, some lease) =>
      { state with supervisor := supervisor, launched := slot + 1 }.setTask slot
        { Task.initial with lease := some lease, worker := .spawned, cutoff := fun _ => .armed }

/-- Which goroutine is at its channel send. -/
def atSend (state : RunState) (slot : Nat) : Party → Bool
  | .refusal => match state.main with
      | .refusing other => other = slot
      | _ => false
  | .completion => match (state.tasks slot).worker with
      | .sending => true
      | _ => false
  | .cutoff source => match (state.tasks slot).cutoff source with
      | .sending => true
      | _ => false

/-- After its send a goroutine continues or ends. -/
def afterSend (state : RunState) (slot : Nat) : Party → RunState
  | .refusal => { state with main := .launching }
  | .completion => state.setTask slot (setWorker (state.tasks slot) .exited)
  | .cutoff source => state.setTask slot (setCutoff (state.tasks slot) source .finished)

/-- The results array when `RunWithID` returns. -/
def collected (state : RunState) : List Result :=
  (List.range config.slots).map fun slot =>
    (state.results slot).getD (config.executionResult slot "" state.now)

def sourceDone (state : RunState) : CutoffSource → Bool
  | .run => state.runErr.isSome
  | .server => state.supervisor.cancelled

def next : Step RunState RunAction
  | state, .tick elapsed => some { state with now := state.now + elapsed }
  | state, .cancelParent error =>
      let expired := match config.parentDeadline with
        | none => false
        | some deadline => decide (deadline ≤ state.now)
      if state.parentErr.isNone ∧ (error = .canceled ∨ expired = true) then
        some { state with parentErr := some error }
      else none
  | state, .inheritRun =>
      if state.runErr.isNone ∧ state.parentErr.isSome then
        some { state with runErr := state.parentErr }
      else none
  | state, .expireRun =>
      if state.runErr.isNone ∧ state.runTimed = true ∧ state.runDeadline ≤ state.now then
        some { state with runErr := some .deadlineExceeded }
      else none
  | state, .shutdown => some { state with supervisor := state.supervisor.beginShutdown.1 }
  | state, .otherAcquire => some { state with supervisor := state.supervisor.acquire.1 }
  | state, .otherRelease lease =>
      if state.Owns config lease ∨ state.supervisor.nextLease ≤ lease then none
      else some { state with supervisor := state.supervisor.release (some lease) }
  | state, .otherMark lease =>
      if state.Owns config lease ∨ state.supervisor.nextLease ≤ lease then none
      else some { state with supervisor := state.supervisor.markStuck (some lease) }
  | state, .begin =>
      match state.main with
      | .starting =>
          match config.rejection with
          | some error => some { state with main := .rejected error }
          | none =>
              if state.parentErr.isSome then
                some { state with main := .returned ((List.range config.slots).map fun slot =>
                  config.executionResult slot "cancelled" state.now) }
              else some { state with
                main := .launching
                runDeadline := config.runDeadline state.now
                runTimed := config.runTimed state.now }
      | _ => none
  | state, .launch =>
      match state.main with
      | .launching =>
          if state.launched < config.slots then some (state.launchSlot config)
          else some { state with main := .collecting }
      | _ => none
  | state, .startCheck slot =>
      match (state.tasks slot).worker with
      | .spawned => some (state.setTask slot { state.tasks slot with
          worker := .checking
          checkStarted := state.now
          checkDeadline := config.checkDeadline slot state.runDeadline state.now
          checkTimed := config.checkTimed slot state.runDeadline state.now })
      | _ => none
  | state, .inheritWorker slot =>
      let task := state.tasks slot
      if task.worker.running ∧ task.workerErr.isNone ∧ state.runErr.isSome then
        some (state.setTask slot { task with workerErr := state.runErr })
      else none
  | state, .cancelWorker slot =>
      let task := state.tasks slot
      if task.worker.running ∧ task.workerErr.isNone ∧ state.supervisor.cancelled then
        some (state.setTask slot { task with workerErr := some .canceled })
      else none
  | state, .inheritCheck slot =>
      let task := state.tasks slot
      if task.worker.running ∧ task.checkErr.isNone ∧ task.workerErr.isSome then
        some (state.setTask slot { task with checkErr := task.workerErr })
      else none
  | state, .expireCheck slot =>
      let task := state.tasks slot
      if task.worker.running ∧ task.checkErr.isNone ∧ task.checkTimed = true ∧
          task.checkDeadline ≤ state.now then
        some (state.setTask slot { task with checkErr := some .deadlineExceeded })
      else none
  | state, .returnCheck slot result =>
      match (state.tasks slot).worker with
      | .checking =>
          if config.returns (config.target slot) result then
            some (state.setTask slot (setWorker (state.tasks slot)
              (.completing ⟨result, false, state.observation⟩ .parent)))
          else none
      | _ => none
  | state, .panicCheck slot =>
      match (state.tasks slot).worker with
      | .checking =>
          let result := config.panicResult slot (state.tasks slot).checkStarted state.now
          some (state.setTask slot (setWorker (state.tasks slot)
            (.completing ⟨result, true, state.observation⟩ .parent)))
      | _ => none
  | state, .observe slot =>
      match (state.tasks slot).worker with
      | .completing completion reading =>
          some (state.setTask slot (setWorker (state.tasks slot)
            (state.observeStep config slot (state.tasks slot) completion reading)))
      | _ => none
  | state, .claim slot =>
      match (state.tasks slot).worker with
      | .claiming completion code =>
          some (state.commit slot (setWorker (state.tasks slot) .stopping)
            (state.completionClaim config slot completion code))
      | _ => none
  | state, .stopCutoffs slot =>
      match (state.tasks slot).worker with
      | .stopping => some (state.setTask slot { state.tasks slot with
          worker := .releasing
          cutoff := fun source => ((state.tasks slot).cutoff source).stop })
      | _ => none
  | state, .release slot =>
      match (state.tasks slot).worker with
      | .releasing =>
          let task := state.tasks slot
          some ({ state with supervisor := state.supervisor.release task.lease }.setTask slot
            { task with
              worker := if (task.publishing .completion).isSome then .sending else .exited
              releases := task.releases + 1 })
      | _ => none
  | state, .fireCutoff slot source =>
      match (state.tasks slot).cutoff source with
      | .armed =>
          if state.sourceDone source then
            some (state.setTask slot (setCutoff (state.tasks slot) source
              (.readingParent state.observation)))
          else none
      | _ => none
  | state, .observeCutoff slot source =>
      match (state.tasks slot).cutoff source with
      | .readingParent observation =>
          some (state.setTask slot (setCutoff (state.tasks slot) source
            (if state.parentErr.isSome then .claiming observation .cancelled
              else .readingServer observation)))
      | .readingServer observation =>
          some (state.setTask slot (setCutoff (state.tasks slot) source
            (.claiming observation
              (if state.supervisor.cancelled then .cancelled else .timeout))))
      | _ => none
  | state, .claimCutoff slot source =>
      match (state.tasks slot).cutoff source with
      | .claiming observation code =>
          some (state.commit slot
            (setCutoff (state.tasks slot) source
              (if (state.tasks slot).claim.isNone then .sending else .finished))
            (state.cutoffClaim config slot source observation code))
      | _ => none
  | state, .send slot party =>
      if state.atSend slot party then
        match (state.tasks slot).publishing party with
        | none => none
        | some result =>
            if state.channel.length < config.slots then
              let sent := state.setTask slot (setPublishing (state.tasks slot) party none)
              some ({ sent with channel := sent.channel ++ [(slot, result)] }.afterSend slot party)
            else none
      else none
  | state, .receive =>
      match state.main, state.channel with
      | .collecting, (slot, result) :: rest =>
          if state.received < config.slots then
            some { state with
              channel := rest
              results := Function.update state.results slot (some result)
              received := state.received + 1 }
          else none
      | _, _ => none
  | state, .finish =>
      match state.main with
      | .collecting =>
          if state.received = config.slots then
            some { state with
              main := .returned (state.collected config)
              runErr := if state.runErr.isSome then state.runErr else some .canceled }
          else none
      | _ => none

end RunState
end CheckNetwork.Runner
