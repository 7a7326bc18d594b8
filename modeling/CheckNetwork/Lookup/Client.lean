import CheckNetwork.Collection.Recency
import CheckNetwork.Go.Address
import CheckNetwork.Lookup.Metadata
import CheckNetwork.Transition.Core

/-!
# The geolocation client

`IPWhoIsLookup` shares one provider call among the concurrent lookups of an
address.  A run interleaves the critical sections of its lookups and of the
goroutines that serve its flights; contexts end, providers answer and clocks
read whatever they do.  A caller may write through what it was given.
-/

namespace CheckNetwork.Lookup

open Collection Diagnostic Go Transition

/-! ## Settings -/

structure GeoIPCacheConfig where
  maxEntries : Int
  ttl : Int
  maxActive : Int
  maxQueued : Int

def defaultGeoIPMaxEntries : Int := 2048
def defaultGeoIPCacheTTL : Int := 86400000000000
def DefaultGeoIPMaxActive : Int := 8
def DefaultGeoIPMaxQueued : Int := 64
def MaxGeoIPActive : Int := 64
def MaxGeoIPQueued : Int := 4096

def boundedGeoIPLimit (value fallback hardMaximum : Int) : Int :=
  if value ≤ 0 then fallback else if hardMaximum < value then hardMaximum else value

/-- The fields of the client that never change. -/
structure IPWhoIsLookup where
  cacheMaxEntries : Int
  cacheTTL : Int
  maxActive : Int
  maxQueued : Int

def newIPWhoIsLookupWithConfig (config : GeoIPCacheConfig) : IPWhoIsLookup where
  cacheMaxEntries := if config.maxEntries ≤ 0 then defaultGeoIPMaxEntries else config.maxEntries
  cacheTTL := if config.ttl ≤ 0 then defaultGeoIPCacheTTL else config.ttl
  maxActive := boundedGeoIPLimit config.maxActive DefaultGeoIPMaxActive MaxGeoIPActive
  maxQueued := boundedGeoIPLimit config.maxQueued DefaultGeoIPMaxQueued MaxGeoIPQueued

/-! ## State -/

structure GeoIPError where
  kind : GeoIPErrorKind
  retryable : Bool
  deriving DecidableEq

inductive ContextError
  | canceled | deadlineExceeded
  deriving DecidableEq, Repr

def geoIPContextError : ContextError → GeoIPError
  | .deadlineExceeded => ⟨.timeout, true⟩
  | .canceled => ⟨.cancelled, false⟩

structure GeoIPCacheEntry where
  metadata : Held
  expiresAt : Time
  lastAccess : Nat

/-- Where `runFlight` stands: before it has an active token, with one before its
critical section, inside `callProvider`, with an outcome before it gives the
token back, before `completeFlight`, or at its end. -/
inductive Stage
  | queued
  | admitted
  | calling
  | leaving (metadata : Held) (err : Option GeoIPError)
  | completing (metadata : Held) (err : Option GeoIPError)
  | ended

/-- A flight.  `ctxDone` and `closes` stand for its context and for how often
its channel was closed.  The fields after `stage` record what the code does not:
queue leases and tokens given and given back, what the provider answered, and
whether the flight was the current one when it completed. -/
structure GeoIPFlight where
  generation : Nat
  address : GoString
  ctxDone : Bool
  closes : Nat
  waiters : Int
  terminal : Bool
  abandoned : Bool
  cancelled : Bool
  queueLease : Bool
  started : Bool
  metadata : Held
  err : Option GeoIPError
  stage : Stage
  leases : Nat
  leasesReturned : Nat
  tokens : Nat
  tokensReturned : Nat
  fetched : Option (Seen × Option GeoIPError)
  wasCurrent : Bool

/-- Progress of one call of `Lookup`.  A call that has returned records what its
metadata looked like at that moment. -/
inductive Call
  | entering (now : Time)
  | waiting (flight : Nat)
  | returned (metadata : Held) (err : Option GeoIPError) (seen : Seen)

structure Caller where
  ip : IP
  ctxErr : Option ContextError
  call : Call

structure State where
  heap : Heap
  cache : Store GoString GeoIPCacheEntry
  inflight : GoString → Option Nat
  accessSequence : Nat
  nextGeneration : Nat
  active : Int
  queued : Int
  flights : List GeoIPFlight
  callers : List Caller

def Caller.address (caller : Caller) : GoString := caller.ip.string

def State.initial (heap : Heap) : State where
  heap := heap
  cache := ∅
  inflight _ := none
  accessSequence := 0
  nextGeneration := 0
  active := 0
  queued := 0
  flights := []
  callers := []

/-! ## Flights -/

namespace GeoIPFlight

/-- `releaseQueueLocked`, on the counter of the client and the flight. -/
def releaseQueueLocked (flight : GeoIPFlight) (queued : Int) : Int × GeoIPFlight :=
  if flight.queueLease then
    (queued - 1,
      { flight with queueLease := false, leasesReturned := flight.leasesReturned + 1 })
  else (queued, flight)

def cancelFlightLocked (flight : GeoIPFlight) : GeoIPFlight :=
  if flight.cancelled then flight else { flight with cancelled := true, ctxDone := true }

end GeoIPFlight

def cancelledError : GeoIPError := ⟨.cancelled, false⟩

namespace State

variable (client : IPWhoIsLookup) (state : State)

def setFlight (id : Nat) (flight : GeoIPFlight) : State :=
  { state with flights := state.flights.set id flight }

def setCall (index : Nat) (caller : Caller) (call : Call) : State :=
  { state with callers := state.callers.set index { caller with call := call } }

def answer (index : Nat) (caller : Caller) (metadata : Held) (err : Option GeoIPError) : State :=
  state.setCall index caller (.returned metadata err (state.heap.read metadata))

def fail (index : Nat) (caller : Caller) (err : GeoIPError) : State :=
  state.answer index caller .zero (some err)

/-! ## `Lookup` -/

/-- A call of `Lookup` up to the lock. -/
def begin (ip : IP) (ctxErr : Option ContextError) (now : Time) : State :=
  let call : Call := match ctxErr with
    | some err => .returned .zero (some (geoIPContextError err)) .zero
    | none =>
        if ip.to4.isNone && ip.to16.isNone then
          .returned .zero (some ⟨.malformed, false⟩) .zero
        else .entering now
  { state with callers := state.callers ++ [⟨ip, ctxErr, call⟩] }

/-- A fresh entry is served. -/
def hit (index : Nat) (caller : Caller) (entry : GeoIPCacheEntry) : State :=
  let cloned := state.heap.cloneIPMetadata entry.metadata
  let touched : State := { state with
    heap := cloned.1
    accessSequence := state.accessSequence + 1
    cache := state.cache.insert caller.address
      { entry with lastAccess := state.accessSequence + 1 } }
  touched.answer index caller cloned.2.fromCache none

/-- The flight that a lookup of an address may join. -/
def joinable (address : GoString) : Option (Nat × GeoIPFlight) :=
  (state.inflight address).bind fun id => (state.flights[id]?).bind fun flight =>
    if flight.abandoned || flight.terminal then none else some (id, flight)

def join (index : Nat) (caller : Caller) (id : Nat) (flight : GeoIPFlight) : State :=
  (state.setFlight id { flight with waiters := flight.waiters + 1 }).setCall index caller
    (.waiting id)

def newFlight (address : GoString) (hasActive : Bool) : GeoIPFlight where
  generation := state.nextGeneration + 1
  address := address
  ctxDone := false
  closes := 0
  waiters := 1
  terminal := false
  abandoned := false
  cancelled := false
  queueLease := !hasActive
  started := false
  metadata := .zero
  err := none
  stage := if hasActive then .admitted else .queued
  leases := if hasActive then 0 else 1
  leasesReturned := 0
  tokens := if hasActive then 1 else 0
  tokensReturned := 0
  fetched := none
  wasCurrent := false

/-- A new flight takes off, with an active token or with a queue lease. -/
def launch (index : Nat) (caller : Caller) (hasActive : Bool) : State :=
  let launched : State := { state with
    nextGeneration := state.nextGeneration + 1
    active := if hasActive then state.active + 1 else state.active
    queued := if hasActive then state.queued else state.queued + 1
    inflight := Function.update state.inflight caller.address (some state.flights.length)
    flights := state.flights ++ [state.newFlight caller.address hasActive] }
  launched.setCall index caller (.waiting state.flights.length)

/-- The flight of an address that the cache does not serve. -/
def board (index : Nat) (caller : Caller) : State :=
  match state.joinable caller.address with
  | some (id, flight) => state.join index caller id flight
  | none =>
      let hasActive : Bool := state.active < client.maxActive
      if !hasActive && client.maxQueued ≤ state.queued then
        state.fail index caller ⟨.busy, true⟩
      else state.launch index caller hasActive

/-- The critical section of `Lookup`. -/
def lookup (index : Nat) (caller : Caller) (now : Time) : State :=
  match state.cache.lookup caller.address with
  | some entry =>
      if now.before entry.expiresAt then state.hit index caller entry
      else { state with cache := state.cache.erase caller.address }.board client index caller
  | none => state.board client index caller

/-! ## `waitForFlight` -/

/-- A waiter takes the outcome of its flight. -/
def collect (index : Nat) (caller : Caller) (id : Nat) (flight : GeoIPFlight) : State :=
  let cloned := state.heap.cloneIPMetadata flight.metadata
  ({ state with heap := cloned.1 }.setFlight id { flight with waiters := flight.waiters - 1 }).answer
    index caller cloned.2 flight.err

/-- The last waiter leaves. -/
def abandon (id : Nat) (flight : GeoIPFlight) : State :=
  let released := { flight with abandoned := true }.releaseQueueLocked state.queued
  let inflight := if state.inflight flight.address = some id then
      Function.update state.inflight flight.address none
    else state.inflight
  { state with queued := released.1, inflight := inflight }.setFlight id
    released.2.cancelFlightLocked

/-- The critical section of `waitForFlight`. -/
def waitForFlight (index : Nat) (caller : Caller) (id : Nat) (flight : GeoIPFlight) : State :=
  if flight.terminal then state.collect index caller id flight
  else match caller.ctxErr with
    | some err =>
        let left := { flight with waiters := flight.waiters - 1 }
        let after := if left.waiters = 0 then state.abandon id left else state.setFlight id left
        after.fail index caller (geoIPContextError err)
    | none => state

/-! ## `runFlight` -/

/-- The token of a queued flight. -/
def take (id : Nat) (flight : GeoIPFlight) : State :=
  { state with active := state.active + 1 }.setFlight id
    { flight with stage := .admitted, tokens := flight.tokens + 1 }

/-- A queued flight sees its context end. -/
def giveUp (id : Nat) (flight : GeoIPFlight) : State :=
  let released := flight.releaseQueueLocked state.queued
  { state with queued := released.1 }.setFlight id
    { released.2 with stage := .completing .zero (some cancelledError) }

/-- The critical section that decides whether the provider is called. -/
def start (id : Nat) (flight : GeoIPFlight) : State :=
  let released := flight.releaseQueueLocked state.queued
  let cancelled := released.2.abandoned || released.2.ctxDone
  { state with queued := released.1 }.setFlight id
    (if cancelled then { released.2 with stage := .leaving .zero (some cancelledError) }
      else { released.2 with started := true, stage := .calling })

/-- `callProvider`: what `fetch` returns for the address of the flight, or the
error of a recovered panic. -/
def callProvider (id : Nat) (flight : GeoIPFlight)
    (outcome : Option (Seen × Option GeoIPError)) : State :=
  let fetched := outcome.getD (.zero, some ⟨.unavailable, true⟩)
  let written := state.heap.write fetched.1
  { state with heap := written.1 }.setFlight id
    { flight with stage := .leaving written.2 fetched.2, fetched := some fetched }

def handBack (id : Nat) (flight : GeoIPFlight) (metadata : Held) (err : Option GeoIPError) :
    State :=
  { state with active := state.active - 1 }.setFlight id
    { flight with
      stage := .completing metadata err, tokensReturned := flight.tokensReturned + 1 }

/-! ## `completeFlight` -/

/-- The loop of `storeCacheLocked` over the cache. -/
def oldestEntry (cache : Store GoString GeoIPCacheEntry) : GoString × Nat :=
  cache.entries.foldl (fun oldest entry =>
    if oldest.1 = [] ∨ entry.2.lastAccess < oldest.2 then (entry.1, entry.2.lastAccess)
    else oldest) ([], 0)

def storeCacheLocked (address : GoString) (metadata : Held) (now : Time) : State :=
  let live := Store.keep (fun _ entry => now.before entry.expiresAt) state.cache
  let room := if address ∉ live ∧ client.cacheMaxEntries ≤ Store.size live then
      live.erase (oldestEntry live).1
    else live
  let cloned := state.heap.cloneIPMetadata metadata
  { state with
    heap := cloned.1
    accessSequence := state.accessSequence + 1
    cache := room.insert address
      ⟨cloned.2.labelled .upstream, metadata.expiresAt, state.accessSequence + 1⟩ }

/-- The metadata of a completing flight. -/
def settle (metadata : Held) (err : Option GeoIPError) (now : Time) : Heap × Held :=
  if err = none then
    let cloned := state.heap.cloneIPMetadata (metadata.stamped client.cacheTTL now)
    (cloned.1, cloned.2.detailed client.cacheTTL now)
  else (state.heap, metadata.detailed client.cacheTTL now)

def completeFlight (id : Nat) (flight : GeoIPFlight) (metadata : Held) (err : Option GeoIPError)
    (now : Time) : State :=
  if flight.terminal then state.setFlight id { flight with stage := .ended }
  else
    let released := flight.releaseQueueLocked state.queued
    let settled := state.settle client metadata err now
    let current : Bool := state.inflight flight.address = some id
    let finished := { released.2 with
      metadata := settled.2, err := err, terminal := true, wasCurrent := current }
    let landed : State := { state with
      heap := settled.1
      queued := released.1
      inflight := if current then Function.update state.inflight flight.address none
        else state.inflight }
    let stored := if current && err.isNone && !finished.abandoned && !finished.ctxDone &&
        validIPMetadata (settled.1.read settled.2) then
        landed.storeCacheLocked client flight.address settled.2 now
      else landed
    stored.setFlight id
      { finished.cancelFlightLocked with closes := finished.closes + 1, stage := .ended }

end State

/-! ## Runs -/

inductive Action
  | begin (ip : IP) (ctxErr : Option ContextError) (now : Time)
  | enter (index : Nat)
  | wake (index : Nat)
  | done (index : Nat) (err : ContextError)
  | writeGeolocation (index : Nat) (value : GeoLocation)
  | writeASN (index : Nat) (value : ASNInfo)
  | take (id : Nat)
  | giveUp (id : Nat)
  | start (id : Nat)
  | callProvider (id : Nat) (outcome : Option (Seen × Option GeoIPError))
  | handBack (id : Nat)
  | complete (id : Nat) (now : Time)

namespace State

/-- A caller writes through the metadata that it was given. -/
def writeGeolocation (state : State) (caller : Caller) (value : GeoLocation) : State :=
  match caller.call with
  | .returned { geolocation := some ref, .. } _ _ =>
      { state with heap := { state.heap with
          geolocation := Function.update state.heap.geolocation ref value } }
  | _ => state

def writeASN (state : State) (caller : Caller) (value : ASNInfo) : State :=
  match caller.call with
  | .returned { asn := some ref, .. } _ _ =>
      { state with heap := { state.heap with asn := Function.update state.heap.asn ref value } }
  | _ => state

/-- The context of a caller ends once. -/
def done (state : State) (index : Nat) (caller : Caller) (err : ContextError) : State :=
  { state with
    callers := state.callers.set index { caller with ctxErr := caller.ctxErr.or (some err) } }

variable (client : IPWhoIsLookup)

/-- Steps of a caller. -/
def callerNext (state : State) (index : Nat) (caller : Caller) : Action → Option State
  | .enter _ =>
      match caller.call with
      | .entering now => some (state.lookup client index caller now)
      | _ => none
  | .wake _ =>
      match caller.call with
      | .waiting id => (state.flights[id]?).bind fun flight =>
          if 0 < flight.closes ∨ caller.ctxErr ≠ none then
            some (state.waitForFlight index caller id flight)
          else none
      | _ => none
  | .done _ err => some (state.done index caller err)
  | .writeGeolocation _ value => some (state.writeGeolocation caller value)
  | .writeASN _ value => some (state.writeASN caller value)
  | _ => none

/-- Steps of the goroutine of a flight. -/
def flightNext (state : State) (id : Nat) (flight : GeoIPFlight) : Action → Option State
  | .take _ =>
      match flight.stage with
      | .queued => if state.active < client.maxActive then some (state.take id flight) else none
      | _ => none
  | .giveUp _ =>
      match flight.stage with
      | .queued => if flight.ctxDone then some (state.giveUp id flight) else none
      | _ => none
  | .start _ =>
      match flight.stage with
      | .admitted => some (state.start id flight)
      | _ => none
  | .callProvider _ outcome =>
      match flight.stage with
      | .calling => some (state.callProvider id flight outcome)
      | _ => none
  | .handBack _ =>
      match flight.stage with
      | .leaving metadata err =>
          if 0 < state.active then some (state.handBack id flight metadata err) else none
      | _ => none
  | .complete _ now =>
      match flight.stage with
      | .completing metadata err =>
          some (state.completeFlight client id flight metadata err now)
      | _ => none
  | _ => none

def next : Step State Action
  | state, .begin ip ctxErr now => some (state.begin ip ctxErr now)
  | state, action@(.enter index) | state, action@(.wake index) | state, action@(.done index _)
  | state, action@(.writeGeolocation index _) | state, action@(.writeASN index _) =>
      (state.callers[index]?).bind fun caller => state.callerNext client index caller action
  | state, action@(.take id) | state, action@(.giveUp id) | state, action@(.start id)
  | state, action@(.callProvider id _) | state, action@(.handBack id)
  | state, action@(.complete id _) =>
      (state.flights[id]?).bind fun flight => state.flightNext client id flight action

end State
end CheckNetwork.Lookup
