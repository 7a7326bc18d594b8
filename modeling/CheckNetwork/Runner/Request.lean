import CheckNetwork.Diagnostic.Model

/-!
# Report requests

The request checks of `Runner.Validate` and the time budget of a request.
Durations are in nanoseconds.
-/

namespace CheckNetwork.Runner

open Diagnostic Go

def millisecond : Int := 1000000

def second : Int := 1000 * millisecond

def defaultTimeout : Int := 5 * second

def minTimeoutMS : Int := 100

def maxTimeoutMS : Int := 30000

def requestBudgetGrace : Int := second

def reportIDEncodedByteLength : Nat := 12

/-- `validReportID`. -/
def validReportID (id : GoString) : Bool :=
  id.byteLength = reportIDEncodedByteLength * 2 ∧ id.all fun
    | .scalar c => ('0' ≤ c ∧ c ≤ '9') ∨ ('a' ≤ c ∧ c ≤ 'f')
    | .invalid _ => false

inductive TopologyMode
  | unset | full | compact
  | other (name : String)
  deriving DecidableEq, Repr

structure Request where
  targets : List Target
  timeoutMS : Int
  topologyMode : TopologyMode
  topologyModeSet : Bool
  deriving DecidableEq

namespace Request

/-- The per-attempt timeout. -/
def timeout (request : Request) : Int :=
  if request.timeoutMS ≠ 0 then request.timeoutMS * millisecond else defaultTimeout

/-- `RequestBudget`: the longest target, traceroute attempts being sequential,
and a grace period. -/
def budget (request : Request) : Int :=
  let longest := request.targets.foldl (fun longest target =>
    if target.kind ≠ .traceroute then longest
    else
      let attempts : Int :=
        if target.attempts = 0 then defaultTraceAttempts else target.attempts
      let candidate := request.timeout * attempts
      if candidate > longest then candidate else longest) request.timeout
  longest + requestBudgetGrace

/-- First failing check of one target, with the text of its error. -/
def validateTarget (supported : Kind → Bool) (mode : TopologyMode) (index : Nat)
    (target : Target) : Option String :=
  if mode = .compact ∧ target.kind ≠ .traceroute then
    some s!"targets[{index}].kind must be traceroute when topology_mode is compact"
  else if target.address.trimSpace = [] then
    some s!"targets[{index}].address is required"
  else if !supported target.kind then
    some s!"targets[{index}].kind is unsupported"
  else if target.attempts < 0 ∨ target.attempts > maxTraceAttempts then
    some s!"targets[{index}].attempts must be between 1 and {maxTraceAttempts}"
  else if target.attempts ≠ 0 ∧ target.kind ≠ .traceroute then
    some s!"targets[{index}].attempts is only supported for traceroute"
  else if target.expectedStatus ≠ 0 then
    if target.kind ≠ .http ∧ target.kind ≠ .https then
      some s!"targets[{index}].expected_status is only supported for HTTP and HTTPS"
    else if target.expectedStatus < 100 ∨ target.expectedStatus > 599 then
      some s!"targets[{index}].expected_status must be between 100 and 599"
    else none
  else none

/-- `Runner.Validate`; `none` is a nil error. -/
def validate (supported : Kind → Bool) (request : Request) : Option String :=
  if request.topologyModeSet ∧ request.topologyMode = .unset then
    some "topology_mode must be full or compact"
  else if request.topologyMode ≠ .unset ∧ request.topologyMode ≠ .full ∧
      request.topologyMode ≠ .compact then
    some "topology_mode must be full or compact"
  else if request.targets.length < 1 ∨ request.targets.length > maxTargets then
    some s!"targets must contain 1 to {maxTargets} items"
  else if request.timeoutMS ≠ 0 ∧
      (request.timeoutMS < minTimeoutMS ∨ request.timeoutMS > maxTimeoutMS) then
    some s!"timeout_ms must be between {minTimeoutMS} and {maxTimeoutMS}"
  else
    request.targets.zipIdx.findSome? fun (target, index) =>
      validateTarget supported request.topologyMode index target

end Request
end CheckNetwork.Runner
