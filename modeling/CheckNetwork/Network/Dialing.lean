import CheckNetwork.Network.Policy

/-!
# Concurrent dials

Any number of calls of `DialContext` share the slots of one policy.  Every dial
is a goroutine of its own, which may outlive the call that started it, and its
result changes hands only while both sides wait for that.
-/

namespace CheckNetwork.Network

open Go

universe u

variable {E : Type u}

def maxDetachedPolicyDials : Nat := 32

/-! ## Dials -/

/-- Where the goroutine of a dial is.  A completed dial has what the dialer
returned and waits to hand it over. -/
inductive DialPhase (E : Type u)
  | running
  | completed (conn : Bool) (error : Option E)
  | releasing
  | finished

/-- The goroutine of a dial; `expired` is the error of its context.  What its
connection and its slot went through is counted. -/
structure Dial (E : Type u) where
  ip : IP
  index : Nat
  phase : DialPhase E
  expired : Option E
  produced : Bool
  returns : Nat
  closes : Nat
  releases : Nat

namespace Dial

def start (ip : IP) (index : Nat) (expired : Option E) : Dial E :=
  ⟨ip, index, .running, expired, false, 0, 0, 0⟩

def complete (conn : Bool) (error : Option E) (dial : Dial E) : Dial E :=
  { dial with phase := .completed conn error, produced := conn }

/-- The first error of a context stays. -/
def expire (error : E) (dial : Dial E) : Dial E :=
  { dial with expired := dial.expired.or (some error) }

def handOver (dial : Dial E) : Dial E := { dial with phase := .releasing }

/-- The other branch of the `select`, which closes the connection. -/
def abandon (conn : Bool) (dial : Dial E) : Dial E :=
  { dial with phase := .releasing, closes := dial.closes + conn.toNat }

/-- The deferred receive. -/
def release (dial : Dial E) : Dial E :=
  { dial with phase := .finished, releases := dial.releases + 1 }

def close (dial : Dial E) : Dial E := { dial with closes := dial.closes + 1 }

def give (dial : Dial E) : Dial E := { dial with returns := dial.returns + 1 }

def isRunning (dial : Dial E) : Bool :=
  match dial.phase with
  | .running => true
  | _ => false

def isFinished (dial : Dial E) : Bool :=
  match dial.phase with
  | .finished => true
  | _ => false

end Dial

/-! ## Calls -/

/-- Where a call is.  It knows a dial, and the connection of a dial, by the
place of the dial among its own. -/
inductive CallPhase (E : Type u)
  | resolved
  | next
  | acquiring (expired : Option E)
  | waiting (dial : Nat)
  | refused (error : E)
  | left (dial : Nat) (error : E)
  | answered (dial : Nat) (conn : Bool) (error : Option E)
  | examined (conn : Option Nat) (error attemptErr : Option E)
  | returned (result : Except (NetError E) Nat)

/-- A call of `DialContext` with the dials that it started. -/
structure Call (E : Type u) where
  candidates : List IP
  index : Nat
  ctxErr : Option E
  failures : List (NetError E)
  dials : List (Dial E)
  phase : CallPhase E

namespace Call

/-- A call whose host was resolved, or was not. -/
def start (resolution : Except (NetError E) (List IP)) (ctxErr : Option E) : Call E where
  candidates := (resolution.toOption.getD []).take maxDialDiagnosticAddresses
  index := 0
  ctxErr := ctxErr
  failures := []
  dials := []
  phase :=
    match resolution, ctxErr with
    | .ok _, _ => .resolved
    | .error _, some failure => .returned (.error (.cause failure))
    | .error failure, none => .returned (.error failure)

def onDial (call : Call E) (dial : Nat) (change : Dial E → Dial E) : Call E :=
  { call with dials := call.dials.modify dial change }

def enter (call : Call E) (phase : CallPhase E) : Call E := { call with phase }

/-- The check before the loop. -/
def begin (call : Call E) : Call E :=
  match call.ctxErr with
  | some failure => call.enter (.returned (.error (.cause failure)))
  | none => call.enter .next

/-- The head of the loop, or what follows it. -/
def loop (call : Call E) : Call E :=
  match call.candidates, call.ctxErr with
  | _ :: _, _ => call.enter (.acquiring call.ctxErr)
  | [], some failure => call.enter (.returned (.error (.cause failure)))
  | [], none => call.enter (.returned (.error (.failures call.failures)))

/-- A slot is taken and a dial started for the current candidate. -/
def acquire (call : Call E) (expired : Option E) : Call E :=
  { call with
    dials := call.dials ++ [Dial.start (call.candidates.headD []) call.index expired]
    phase := .waiting call.dials.length }

/-- The attempt context is read and then cancelled. -/
def examine (canceled : E) (call : Call E) (dial : Nat) (conn : Bool) (error attemptErr : Option E) :
    Call E :=
  (call.onDial dial (Dial.expire canceled)).enter
    (.examined (if conn then some dial else none) error attemptErr)

def closeConn (call : Call E) : Option Nat → Call E
  | some dial => call.onDial dial Dial.close
  | none => call

/-- On to the next candidate. -/
def retry (call : Call E) (failure : NetError E) : Call E :=
  { call with
    candidates := call.candidates.tail
    index := call.index + 1
    failures := recordFailure call.failures failure
    phase := .next }

/-- What the loop does with the outcome of an attempt. -/
def decide (call : Call E) (conn : Option Nat) (error attemptErr : Option E) : Call E :=
  match call.ctxErr, attemptErr, error, conn with
  | some failure, _, _, conn =>
      (call.closeConn conn).enter (.returned (.error (.cause failure)))
  | none, some failure, _, conn => (call.closeConn conn).retry (.cause failure)
  | none, none, none, some dial => (call.onDial dial Dial.give).enter (.returned (.ok dial))
  | none, none, some failure, conn => (call.closeConn conn).retry (.cause failure)
  | none, none, none, none => call.retry .noConnection

end Call

/-! ## Steps -/

/-- What happens to a call from outside: its context is cancelled, the context
of an attempt ends, or the dialer returns. -/
inductive Event : Call E → Call E → Prop
  | cancel {call : Call E} {error : E} (active : call.ctxErr = none) :
      Event call { call with ctxErr := some error }
  | expireAcquiring {call : Call E} {error : E} (acquiring : call.phase = .acquiring none) :
      Event call (call.enter (.acquiring (some error)))
  | expire {call : Call E} (dial : Nat) (error : E) : Event call (call.onDial dial (Dial.expire error))
  | complete {call : Call E} {dial : Nat} {goroutine : Dial E} {conn : Bool} {error : Option E}
      (found : call.dials[dial]? = some goroutine) (running : goroutine.phase = .running) :
      Event call (call.onDial dial (Dial.complete conn error))

/-- What a call or one of its dials does, with the slots in use before and
after it. -/
inductive Move (canceled : E) : Nat → Call E → Nat → Call E → Prop
  | begin {slots : Nat} {call : Call E} (phase : call.phase = .resolved) :
      Move canceled slots call slots call.begin
  | loop {slots : Nat} {call : Call E} (phase : call.phase = .next) :
      Move canceled slots call slots call.loop
  | acquire {slots : Nat} {call : Call E} {expired : Option E}
      (phase : call.phase = .acquiring expired) (free : slots < maxDetachedPolicyDials) :
      Move canceled slots call (slots + 1) (call.acquire expired)
  | refuse {slots : Nat} {call : Call E} {error : E} (phase : call.phase = .acquiring (some error)) :
      Move canceled slots call slots (call.enter (.refused error))
  | handOver {slots : Nat} {call : Call E} {dial : Nat} {goroutine : Dial E} {conn : Bool}
      {error : Option E} (phase : call.phase = .waiting dial)
      (found : call.dials[dial]? = some goroutine)
      (completed : goroutine.phase = .completed conn error) :
      Move canceled slots call slots
        ((call.onDial dial Dial.handOver).enter (.answered dial conn error))
  | abandon {slots : Nat} {call : Call E} {dial : Nat} {goroutine : Dial E} {conn : Bool}
      {error : Option E} (found : call.dials[dial]? = some goroutine)
      (completed : goroutine.phase = .completed conn error)
      (expired : goroutine.expired.isSome = true) :
      Move canceled slots call slots (call.onDial dial (Dial.abandon conn))
  | release {slots : Nat} {call : Call E} {dial : Nat} {goroutine : Dial E}
      (found : call.dials[dial]? = some goroutine) (releasing : goroutine.phase = .releasing) :
      Move canceled (slots + 1) call slots (call.onDial dial Dial.release)
  | leave {slots : Nat} {call : Call E} {dial : Nat} {goroutine : Dial E} {error : E}
      (phase : call.phase = .waiting dial) (found : call.dials[dial]? = some goroutine)
      (expired : goroutine.expired = some error) :
      Move canceled slots call slots (call.enter (.left dial error))
  | examineRefused {slots : Nat} {call : Call E} {error : E} (phase : call.phase = .refused error) :
      Move canceled slots call slots (call.enter (.examined none (some error) (some error)))
  | examineLeft {slots : Nat} {call : Call E} {dial : Nat} {goroutine : Dial E} {error : E}
      (phase : call.phase = .left dial error) (found : call.dials[dial]? = some goroutine) :
      Move canceled slots call slots
        (call.examine canceled dial false (some error) goroutine.expired)
  | examineAnswered {slots : Nat} {call : Call E} {dial : Nat} {goroutine : Dial E} {conn : Bool}
      {error : Option E} (phase : call.phase = .answered dial conn error)
      (found : call.dials[dial]? = some goroutine) :
      Move canceled slots call slots (call.examine canceled dial conn error goroutine.expired)
  | decide {slots : Nat} {call : Call E} {conn : Option Nat} {error attemptErr : Option E}
      (phase : call.phase = .examined conn error attemptErr) :
      Move canceled slots call slots (call.decide conn error attemptErr)

/-- The policy: its slots in use, and the calls that were made. -/
structure Dialing (E : Type u) where
  slots : Nat
  calls : List (Call E)

inductive Step (canceled : E) : Dialing E → Dialing E → Prop
  | call {state : Dialing E} (resolution : Except (NetError E) (List IP)) (ctxErr : Option E) :
      Step canceled state { state with calls := state.calls ++ [Call.start resolution ctxErr] }
  | event {state : Dialing E} {place : Nat} {call call' : Call E}
      (found : state.calls[place]? = some call) (event : Event call call') :
      Step canceled state { state with calls := state.calls.set place call' }
  | move {state : Dialing E} {place slots : Nat} {call call' : Call E}
      (found : state.calls[place]? = some call)
      (move : Move canceled state.slots call slots call') :
      Step canceled state ⟨slots, state.calls.set place call'⟩

/-- What a policy comes to, from no calls. -/
inductive Reachable (canceled : E) : Dialing E → Prop
  | start : Reachable canceled ⟨0, []⟩
  | step {state state' : Dialing E} (before : Reachable canceled state)
      (step : Step canceled state state') : Reachable canceled state'

/-- Every dialer has returned, and there is nothing left to do. -/
def Quiescent (canceled : E) (state : Dialing E) : Prop :=
  ∀ call ∈ state.calls, (∀ dial ∈ call.dials, dial.isRunning = false) ∧
    ∀ slots call', ¬ Move canceled state.slots call slots call'

end CheckNetwork.Network
