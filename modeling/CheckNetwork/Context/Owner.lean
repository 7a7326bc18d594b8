import CheckNetwork.Collection.Recency
import CheckNetwork.Context.Contract
import CheckNetwork.Transition.Core

/-!
# The owner of lookups

`IPContextService` acquires the record of an address once for all who ask for it at the
same time, and keeps the record until it expires.  The calls of `Lookup` and the goroutines
of a flight take turns; a critical section is one step.
-/

namespace CheckNetwork.Context.Owner

open Collection Go Transition

/-! ## Flights -/

/-- What `Err` returns of a context that has ended. -/
inductive ContextError
  | canceled
  | deadlineExceeded
  deriving DecidableEq

inductive LookupError
  | invalid
  | busy
  | context (err : ContextError)
  deriving DecidableEq

/-- A generation.  Its context has ended if `ctxDone`, and `ready` is closed or not.  Each of
the three components sends one result; `primitives` of theirs are running, and `returning` of
them have sent but not returned.  `exited` is the end of `acquire`. -/
structure IPContextFlight where
  address : GoString
  waiters : Nat
  waiterContexts : List Nat
  abandoned : Bool
  published : Bool
  value : IPContext
  err : Option LookupError
  ctxDone : Bool
  ready : Bool
  exited : Bool
  work : Nat
  reverse : Option IPContextReverse
  registration : Option IPContextRegistration
  routing : Option IPContextRouting
  primitives : Nat
  returning : Nat

/-- What the goroutines of a flight do without the lock, and the deadline of its context. -/
inductive Work
  | own
  | finish
  | reverse (result : IPContextReverse)
  | registration (result : IPContextRegistration)
  | routing (result : IPContextRouting)
  | return
  | expire

namespace IPContextFlight

/-- A flight that takes off with its first waiter. -/
def launched (address : GoString) (waiter : Nat) : IPContextFlight :=
  ⟨address, 1, [waiter], false, false, .zero, none, false, false, false, 3, none, none, none,
    0, 0⟩

/-- `abandoned` is set and the context is cancelled. -/
def abandon (flight : IPContextFlight) : IPContextFlight :=
  { flight with abandoned := true, ctxDone := true }

def joined (flight : IPContextFlight) (waiter : Nat) : IPContextFlight :=
  { flight with
    waiters := flight.waiters + 1
    waiterContexts := waiter :: flight.waiterContexts }

/-- The deferred function of `Lookup`. -/
def departed (flight : IPContextFlight) (waiter : Nat) : IPContextFlight :=
  let left := { flight with
    waiters := flight.waiters - 1
    waiterContexts := flight.waiterContexts.erase waiter }
  if left.waiters = 0 ∧ left.published = false then left.abandon else left

/-- The components that have not sent their results. -/
def unsent (flight : IPContextFlight) : Nat :=
  flight.reverse.isNone.toNat + flight.registration.isNone.toNat + flight.routing.isNone.toNat

/-- One step of the components and of `contextOwnedCall`, whose primitive the flight owns until
it finishes, also when the component has gone on without it.  The context may end between the
check and the start of a primitive, which therefore does not depend on it. -/
def working (flight : IPContextFlight) : Work → Option IPContextFlight
  | .own =>
      if 0 < flight.unsent then
        some { flight with work := flight.work + 1, primitives := flight.primitives + 1 }
      else none
  | .finish =>
      if 0 < flight.primitives then
        some { flight with work := flight.work - 1, primitives := flight.primitives - 1 }
      else none
  | .reverse result =>
      if flight.reverse = none then
        some { flight with reverse := some result, returning := flight.returning + 1 }
      else none
  | .registration result =>
      if flight.registration = none then
        some { flight with registration := some result, returning := flight.returning + 1 }
      else none
  | .routing result =>
      if flight.routing = none then
        some { flight with routing := some result, returning := flight.returning + 1 }
      else none
  | .return =>
      if 0 < flight.returning then
        some { flight with work := flight.work - 1, returning := flight.returning - 1 }
      else none
  | .expire => some { flight with ctxDone := true }

end IPContextFlight

/-! ## Records -/

def ipContextTime (time : Time) : GoString :=
  (Stamp.format { time.utc with nanoseconds :=
    time.nanoseconds - time.nanoseconds % Time.nanosecondsPerMillisecond }).map .scalar

/-- The latest of an instant and the texts that are instants. -/
def latest (now : Time) (stamps : List GoString) : Time :=
  stamps.foldl (fun now stamp =>
    (((stampText stamp).filter fun fetched => fetched.after now).getD now)) now

/-- The record that `acquire` joins from the three results. -/
def acquired (address : GoString) (reverse : IPContextReverse)
    (registration : IPContextRegistration) (routing : IPContextRouting) (now : Time) : IPContext :=
  let fetched := latest now [reverse.fetchedAt, registration.fetchedAt, routing.fetchedAt]
  let checked := latest fetched ((routing.origins.getD []).map fun origin => origin.rpki.checkedAt)
  let value : IPContext := ⟨1, address, GoString.ofString "upstream", ipContextTime checked, [],
    reverse, registration, routing⟩
  { value with expiresAt := ipContextTime (checked.add (contextSnapshotTTL value)) }

def cloneIPContext (value : IPContext) : IPContext :=
  { value with
    reverseDNS := { value.reverseDNS with names := some (value.reverseDNS.names.getD []) }
    routing := { value.routing with origins := some (value.routing.origins.getD []) } }

structure IPContextCacheEntry where
  value : IPContext
  expires : Time
  used : Nat

/-- The loop of `cacheSnapshot` over the cache. -/
def oldestSnapshot (entries : List (Sigma fun _ : GoString => IPContextCacheEntry)) :
    GoString × Nat :=
  entries.foldl (fun oldest entry =>
    if oldest.1 = [] ∨ entry.2.used < oldest.2 ∨
        (entry.2.used = oldest.2 ∧ before entry.1 oldest.1) then (entry.1, entry.2.used)
    else oldest) ([], 0)

/-! ## Callers -/

abbrev Answer := Except LookupError IPContext

/-- What a waiter does: it waits in the `select`, or it goes on with the result of the flight,
or it leaves with its answer. -/
inductive Phase
  | waiting
  | collecting
  | leaving (answer : Answer)

/-- Where a call of `Lookup` stands. -/
inductive Stage
  | entering
  | aboard (flight : Nat) (phase : Phase)
  | answered (answer : Answer)

/-- The flight that a call is a waiter of. -/
def Stage.flight? : Stage → Option Nat
  | .aboard flight _ => some flight
  | _ => none

/-- A call of `Lookup`, with the reading of the service clock and what `Err` returns of its
context. -/
structure Caller where
  address : GoString
  started : Time
  now : Time
  ended : Option ContextError
  stage : Stage

/-! ## The service -/

/-- `board` is the map of flights and holds places of the list. -/
structure IPContextService where
  flights : List IPContextFlight
  board : Store GoString Nat
  cache : Store GoString IPContextCacheEntry
  sequence : Nat
  active : Nat
  draining : Bool
  callers : List Caller

/-- What a call of `Lookup` does, or the end of its context. -/
inductive CallerStep
  | cancel (err : ContextError)
  | enter (clock : Time)
  | giveUp
  | wake
  | collect
  | leave

inductive FlightStep
  | work (work : Work)
  | publish (now : Time)
  | exit

inductive Action
  | call (address : GoString) (started now : Time) (ended : Option ContextError)
  | beginDrain
  | caller (id : Nat) (step : CallerStep)
  | flight (place : Nat) (step : FlightStep)

namespace IPContextService

def initial : IPContextService := ⟨[], ∅, ∅, 0, 0, false, []⟩

variable (net : NetLibrary) (state : IPContextService)

def setFlight (id : Nat) (flight : IPContextFlight) : IPContextService :=
  { state with flights := state.flights.set id flight }

def setCaller (id : Nat) (caller : Caller) : IPContextService :=
  { state with callers := state.callers.set id caller }

/-- A call goes on to a stage. -/
def stand (id : Nat) (caller : Caller) (stage : Stage) : IPContextService :=
  state.setCaller id { caller with stage := stage }

def contextFlightHasLiveWaiter (flight : IPContextFlight) : Bool :=
  flight.waiterContexts.any fun waiter =>
    state.callers[waiter]?.any fun caller => caller.ended.isNone

/-- `Lookup` before it takes the lock. -/
def begin (address : GoString) (now : Time) : Option ContextError → Stage
  | some err =>
      if validContextAddress net address then .answered (.error (.context err))
      else .answered (.error .invalid)
  | none =>
      if validContextAddress net address ∧ 1 ≤ now.year ∧ now.year ≤ 9999 then .entering
      else .answered (.error .invalid)

def lookupBudget : Int := 6000000000

/-- A flight takes off. -/
def launch (id : Nat) (caller : Caller) : IPContextService :=
  stand { state with
    flights := state.flights ++ [.launched caller.address id]
    board := state.board.insert caller.address state.flights.length
    active := state.active + 1 } id caller (.aboard state.flights.length .waiting)

/-- A call that finds no record joins the flight of its address, or launches one. -/
def seek (id : Nat) (caller : Caller) (clock : Time) : Option IPContextService :=
  match state.board.lookup caller.address with
  | some place => do
      let found ← state.flights[place]?
      let flight := if !found.published && !state.contextFlightHasLiveWaiter found then
        found.abandon else found
      if flight.abandoned ∨ 4 ≤ flight.waiters then
        pure ((state.setFlight place flight).stand id caller (.answered (.error .busy)))
      else
        pure ((state.setFlight place (flight.joined id)).stand id caller (.aboard place .waiting))
  | none =>
      if 2 ≤ state.active then some (state.stand id caller (.answered (.error .busy)))
      else if clock.before (caller.started.add lookupBudget) then some (state.launch id caller)
      else some (state.stand id caller (.answered (.error (.context .deadlineExceeded))))

/-- The first critical section of `Lookup`. -/
def enter (id : Nat) (caller : Caller) (clock : Time) : Option IPContextService :=
  if state.draining then some (state.stand id caller (.answered (.error .busy)))
  else
    match state.cache.lookup caller.address with
    | some cached =>
        if caller.now.before cached.expires then
          let touched := { state with
            sequence := state.sequence + 1
            cache := state.cache.insert caller.address
              { cached with used := state.sequence + 1 } }
          some (touched.stand id caller (.answered (.ok
            { cloneIPContext cached.value with source := GoString.ofString "cache" })))
        else seek { state with cache := state.cache.erase caller.address } id caller clock
    | none => state.seek id caller clock

/-- The answer that a waiter takes from its flight. -/
def answer (flight : IPContextFlight) : Answer :=
  if flight.abandoned then .error (.context .canceled)
  else
    match flight.err with
    | some err => .error err
    | none => .ok (cloneIPContext flight.value)

def cacheSnapshot (value : IPContext) : IPContextService :=
  let room := if 256 ≤ Store.size state.cache then
      state.cache.erase (oldestSnapshot state.cache.entries).1
    else state.cache
  { state with
    sequence := state.sequence + 1
    cache := room.insert value.address ⟨cloneIPContext value,
      (Stamp.parse value.expiresAt).getD ⟨0, 0⟩, state.sequence + 1⟩ }

/-- `delete(s.flights, address)`, if the flight is there. -/
def clear (place : Nat) (address : GoString) : Store GoString Nat :=
  if state.board.lookup address = some place then state.board.erase address else state.board

/-- What waits for the flight gets its record or its error, and who comes later does not find it. -/
def land (place : Nat) (flight : IPContextFlight) (value : IPContext) (err : Option LookupError) :
    IPContextService :=
  { state with
    flights := state.flights.set place
      { flight with value := value, published := true, err := err, ready := true }
    board := state.clear place flight.address }

/-- The critical section of `acquire` in which it publishes its record. -/
def publish (place : Nat) (flight : IPContextFlight) (value : IPContext) : IPContextService :=
  let live := state.contextFlightHasLiveWaiter flight
  let flight := if live then flight else flight.abandon
  if flight.abandoned = false ∧ live ∧ state.draining = false then
    if (MarshalIPContext net value).isSome then
      (state.land place flight value none).cacheSnapshot value
    else state.land place flight value (some .invalid)
  else state.setFlight place { flight with ready := true }

/-- The end of `acquire`, when the work of the flight has ended. -/
def exit (place : Nat) (flight : IPContextFlight) : IPContextService :=
  { state with
    flights := state.flights.set place { flight with ctxDone := true, exited := true }
    board := state.clear place flight.address
    active := state.active - 1 }

def beginDrain : IPContextService :=
  { state with
    draining := true
    flights := state.flights.mapIdx fun place flight =>
      if state.board.entries.any fun entry => entry.2 = place then flight.abandon else flight }

def callerNext (id : Nat) (caller : Caller) (step : CallerStep) : Option IPContextService :=
  match step, caller.stage with
  | .cancel err, _ =>
      if caller.ended = none then some (state.setCaller id { caller with ended := some err })
      else none
  | .enter clock, .entering => state.enter id caller clock
  | .giveUp, .aboard place .waiting => caller.ended.map fun err =>
      state.stand id caller (.aboard place (.leaving (.error (.context err))))
  | .wake, .aboard place .waiting =>
      if caller.ended = none ∧ state.flights[place]?.any fun flight => flight.ready then
        some (state.stand id caller (.aboard place .collecting))
      else none
  | .collect, .aboard place .collecting => state.flights[place]?.map fun flight =>
      state.stand id caller (.aboard place (.leaving (answer flight)))
  | .leave, .aboard place (.leaving given) => state.flights[place]?.map fun flight =>
      (state.setFlight place (flight.departed id)).stand id caller (.answered given)
  | _, _ => none

def flightNext (place : Nat) (flight : IPContextFlight) : FlightStep → Option IPContextService
  | .work work => (flight.working work).map (state.setFlight place)
  | .publish now =>
      match flight.ready, flight.reverse, flight.registration, flight.routing with
      | false, some reverse, some registration, some routing =>
          some (state.publish net place flight
            (acquired flight.address reverse registration routing now))
      | _, _, _, _ => none
  | .exit =>
      if flight.ready ∧ flight.exited = false ∧ flight.work = 0 then some (state.exit place flight)
      else none

def next : Step IPContextService Action
  | state, .call address started now ended =>
      some { state with callers := state.callers ++
        [⟨address, started, now, ended, begin net address now ended⟩] }
  | state, .beginDrain => some state.beginDrain
  | state, .caller id step => state.callers[id]?.bind (state.callerNext id · step)
  | state, .flight place step => state.flights[place]?.bind (state.flightNext net place · step)

end IPContextService
end CheckNetwork.Context.Owner
