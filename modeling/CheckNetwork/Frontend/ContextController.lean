import CheckNetwork.Collection.Recency
import CheckNetwork.Frontend.Address
import CheckNetwork.Transition.Core

/-!
# The controller of address contexts

The page asks for the context of one address at a time.  What the controller does between
two waits is one step; a step takes what the clocks and the check of the owner say at each
of their calls.
-/

namespace CheckNetwork.Frontend

open CheckNetwork.Network Collection Transition

universe u v

/-! ## Eligible addresses -/

def canonicalPublicIP (address : String) : Option String :=
  if addressClass address.toList ≠ .publicUse then none
  else (addressBits address.toList).bind fun bits =>
    if bits.width = 32 then
      some (".".intercalate ([24, 16, 8, 0].map fun shift => toString (bits.value >>> shift &&& 255)))
    else (readV6 address.toList).map fun groups => String.ofList (groupsText groups)

/-- `contextIP` does not throw. -/
def isContextIP (address : String) : Bool :=
  let text := address.toList
  if 39 < text.length then false
  else if ':' ∉ text then (octets text).isSome
  else if !text.all (fun char => isHexDigit char && !char.isUpper || char = ':') then false
  else match readV6 text with
    | none => false
    | some groups =>
      groupsText groups = text &&
        (words text).foldl (fun n word => n <<< 16 ||| hexValue word) 0 >>> 32 ≠ 65535

def isEligible (address : String) : Bool :=
  isContextIP address && canonicalPublicIP address = some address

namespace Context

/-! ## Owners and contexts -/

structure Owner (R : Type u) where
  report : R
  apiBaseURL : String
  authRevision : String
  token : String
  address : String
  deriving DecidableEq

/-- An owner as `setOwner` copied it; every copy is an object of its own. -/
structure Copy (R : Type u) where
  object : Nat
  owner : Owner R

def sameScope {R : Type u} [DecidableEq R] : Option (Owner R) → Option (Owner R) → Bool
  | some a, some b => a.report = b.report && a.apiBaseURL = b.apiBaseURL &&
      a.authRevision = b.authRevision && a.token = b.token
  | _, _ => false

/-- A context; `expiresAt` is `Date.parse(value.expires_at)`. -/
structure Snapshot (D : Type v) where
  address : String
  expiresAt : Int
  document : D

/-- What a caught value is an instance of. -/
inductive Thrown
  | invalid
  | other
  deriving DecidableEq

/-- What `new URL` makes of a base. -/
structure Endpoint where
  protocol : String
  username : String
  password : String
  search : String
  hash : String
  hostname : String

/-- URLs, the decoding of bytes as a JSON document, and the checks of `normalizeIPContext` but
for that of the address. -/
structure Platform (D : Type v) where
  url : String → Option Endpoint
  decode : List UInt8 → Except Thrown (Snapshot D)
  isValid : Snapshot D → String → Bool

variable {R : Type u} {D : Type v}

def normalizeIPContext (platform : Platform D) (value : Snapshot D) (requestedAddress : String) :
    Except Thrown (Snapshot D) :=
  if !isEligible requestedAddress then .error .invalid
  else if value.address ≠ requestedAddress then .error .invalid
  else if !platform.isValid value requestedAddress then .error .invalid
  else .ok value

def contextBytes : Nat := 16384

def parseIPContext (platform : Platform D) (bytes : List UInt8) (requestedAddress : String) :
    Except Thrown (Snapshot D) :=
  if contextBytes < bytes.length then .error .invalid
  else (platform.decode bytes).bind fun value => normalizeIPContext platform value requestedAddress

/-! ## The state -/

inductive Phase (D : Type v)
  | idle | ineligible | unavailable | insecureAuth | loading | timeout | cancelled
  | unsupported | unauthorized | rateLimited | busy | invalidResponse
  | ready (value : Snapshot D) (appCache : Bool)

def Phase.isReady : Phase D → Bool
  | .ready _ _ => true
  | _ => false

/-- Where the worker of a request waits. -/
inductive Stage
  | fetching
  | reading
  | cleaning
  deriving DecidableEq

structure Request (R : Type u) where
  id : Nat
  owner : Copy R
  generation : Nat
  deadline : Int
  aborted : Bool := false
  hasBody : Bool := false
  hasReader : Bool := false
  bodyCancelled : Bool := false
  cleanup : Bool := false
  settled : Option Bool := none
  stage : Stage := .fetching
  bytes : List UInt8 := []

/-- The arguments of `fetchImpl`. -/
structure Fetch where
  url : String
  authorization : Option String
  address : String

/-- `requests` are those whose worker has not ended; `changes` are the arguments of `onChange`,
the last one first; the newest entry of the cache is its first. -/
structure Controller (R : Type u) (D : Type v) where
  owner : Option (Copy R) := none
  generation : Nat := 0
  alive : Bool := true
  flight : Option Nat := none
  state : Phase D := .idle
  cache : Store String (Snapshot D) := ∅
  requests : List (Request R) := []
  objects : Nat := 0
  changes : List (Phase D) := []
  fetches : List Fetch := []

/-- What one call of `clock`, `monotonicClock`, `isCurrentOwner` or `cancel` returns. -/
structure Reading where
  clock : Int := 0
  monotonic : Int := 0
  isCurrentOwner : Bool := true
  cancelThrows : Bool := false

abbrev Readings := Nat → Reading

namespace Request

/-- `stopBody`. -/
def stopBody (reading : Reading) (request : Request R) : Request R :=
  if !(request.hasReader || request.hasBody) || request.bodyCancelled then request
  else { request with bodyCancelled := true, cleanup := !reading.cancelThrows }

def abort (request : Request R) : Request R := { request with aborted := true }

def settle (value : Bool) (request : Request R) : Request R :=
  { request with settled := request.settled.or (some value) }

end Request

namespace Controller

def publish (next : Phase D) (controller : Controller R D) : Controller R D :=
  { controller with state := next, changes := next :: controller.changes }

/-- A request is one object, and what changes in it is seen everywhere. -/
def store (request : Request R) (controller : Controller R D) : Controller R D :=
  { controller with requests := controller.requests.map fun old =>
      if old.id = request.id then request else old }

def request? (id : Nat) (controller : Controller R D) : Option (Request R) :=
  controller.requests.find? (·.id = id)

def revoke (reading : Reading) (controller : Controller R D) : Controller R D :=
  let revoked := { controller with generation := controller.generation + 1 }
  match controller.flight.bind controller.request? with
  | none => revoked
  | some request =>
    revoked.store ((request.abort.stopBody reading).settle false)

/-- Drop the entries that are not among the 64 newest. -/
def trim (cache : Store String (Snapshot D)) : Store String (Snapshot D) :=
  ⟨cache.entries.take 64, cache.nodupKeys.sublist (List.take_sublist 64 _)⟩

def cached (address : String) (reading : Reading) (cache : Store String (Snapshot D)) :
    Store String (Snapshot D) × Option (Snapshot D) :=
  match cache.lookup address with
  | none => (cache, none)
  | some value =>
    if value.expiresAt ≤ reading.clock then (cache.erase address, none)
    else (cache.insert address value, some value)

def owns (request : Request R) (reading : Reading) (controller : Controller R D) : Bool :=
  controller.alive && controller.generation = request.generation &&
    controller.owner.map Copy.object = some request.owner.object && reading.isCurrentOwner

def live (request : Request R) (reading : Reading) (controller : Controller R D) : Bool :=
  controller.owns request reading && !request.aborted && reading.monotonic < request.deadline

/-! ## The public operations -/

def setOwner [DecidableEq R] (next : Option (Owner R)) (readings : Readings)
    (controller : Controller R D) : Controller R D :=
  let owner := controller.owner.map Copy.owner
  if !controller.alive then controller
  else if sameScope owner next && owner.map Owner.address = next.map Owner.address then controller
  else
    let cleared := if sameScope owner next then controller else { controller with cache := ∅ }
    let revoked := cleared.revoke (readings 0)
    let owned := { revoked with
      owner := next.map fun owner => ⟨controller.objects, owner⟩
      objects := controller.objects + 1 }
    match next with
    | none => owned.publish .idle
    | some owner =>
      let found := cached owner.address (readings 1) owned.cache
      let moved := { owned with cache := found.1 }
      match found.2 with
      | some value => moved.publish (.ready value true)
      | none => moved.publish .idle

def cancel (readings : Readings) (controller : Controller R D) : Controller R D :=
  if !controller.alive then controller
  else (controller.revoke (readings 0)).publish .cancelled

def destroy (readings : Readings) (controller : Controller R D) : Controller R D :=
  if !controller.alive then controller
  else { controller.revoke (readings 0) with alive := false, owner := none, cache := ∅, state := .idle }

/-! ## The worker of a request -/

/-- The timer of a request fires, or its worker finds that the deadline has passed. -/
def timeout (request : Request R) (reading : Reading) (controller : Controller R D) :
    Controller R D × Request R :=
  if controller.flight ≠ some request.id || request.settled.isSome then (controller, request)
  else
    let shown := if controller.owns request reading && !request.aborted
      then controller.publish .timeout else controller
    (shown, (request.abort.stopBody reading).settle false)

/-- The end of the `finally` block. -/
def release (id : Nat) (controller : Controller R D) : Controller R D :=
  { controller with
    requests := controller.requests.filter (·.id ≠ id)
    flight := if controller.flight = some id then none else controller.flight }

/-- The `finally` block. -/
def finish (request : Request R) (readings : Readings) (controller : Controller R D) :
    Controller R D :=
  let ended :=
    if controller.owns request (readings 10) && !request.aborted &&
        request.deadline ≤ (readings 11).monotonic then controller.timeout request (readings 12)
    else (controller, request)
  let request := ended.2.settle false
  if request.cleanup then ended.1.store { request with stage := .cleaning }
  else ended.1.release request.id

/-- The `catch` block and what follows it. -/
def fail (thrown : Thrown) (request : Request R) (readings : Readings)
    (controller : Controller R D) : Controller R D :=
  let request := request.stopBody (readings 8)
  let shown := if controller.live request (readings 9)
    then controller.publish (if thrown = .invalid then .invalidResponse else .unavailable)
    else controller
  shown.finish request readings

/-- The worker up to its first wait. -/
def begin (request : Request R) (readings : Readings) (controller : Controller R D) :
    Controller R D :=
  if !controller.live request (readings 3) then controller.finish request readings
  else if !controller.live request (readings 4) then controller.finish request readings
  else { controller with fetches :=
    { url := request.owner.owner.apiBaseURL ++ "/api/v1/ip-context"
      authorization := if request.owner.owner.token = "" then none
        else some ("Bearer " ++ request.owner.owner.token)
      address := request.owner.owner.address } :: controller.fetches }

/-- An endpoint that `query` accepts. -/
def isPlain (endpoint : Endpoint) : Bool :=
  (endpoint.protocol = "http:" || endpoint.protocol = "https:") && endpoint.username = "" &&
    endpoint.password = "" && endpoint.search = "" && endpoint.hash = ""

def isSecure (endpoint : Endpoint) : Bool :=
  endpoint.protocol = "https:" || endpoint.hostname ∈ ["localhost", "127.0.0.1", "[::1]"]

def query (platform : Platform D) (timerThrows : Bool) (readings : Readings)
    (controller : Controller R D) : Controller R D :=
  match controller.owner with
  | none => controller
  | some copy =>
    if !controller.alive || !(readings 0).isCurrentOwner then controller
    else if !isEligible copy.owner.address then controller.publish .ineligible
    else if controller.flight.isSome then controller
    else
      let found := cached copy.owner.address (readings 1) controller.cache
      let moved := { controller with cache := found.1 }
      match found.2 with
      | some value => moved.publish (.ready value true)
      | none =>
        match (platform.url copy.owner.apiBaseURL).filter isPlain with
        | none => moved.publish .unavailable
        | some endpoint =>
          if copy.owner.token ≠ "" && !isSecure endpoint then moved.publish .insecureAuth
          else if timerThrows then
            { moved with objects := controller.objects + 1 }.publish .unavailable
          else
            let request : Request R := {
              id := controller.objects
              owner := copy
              generation := controller.generation
              deadline := (readings 2).monotonic + 10000 }
            let started := { moved with
              objects := controller.objects + 1
              flight := some request.id
              requests := request :: controller.requests }
            (started.publish .loading).begin request readings

/-- How `getReader` ends, if the body has one. -/
inductive Reader
  | missing
  | throws (thrown : Thrown)
  | opened

structure Response where
  redirected : Bool
  status : Nat
  declared : Option String
  hasBody : Bool
  reader : Reader

inductive FetchOutcome
  | rejected (thrown : Thrown)
  | response (response : Response)

inductive ReadOutcome
  | rejected (thrown : Thrown)
  | done
  | chunk (bytes : List UInt8)
  | foreign

/-- A declared length that is no number, or too large a one. -/
def declaredExceeds (declared : Option String) : Bool :=
  match declared with
  | none => false
  | some text => text = "" || !text.toList.all Char.isDigit ||
      contextBytes < Nat.ofDigitChars 10 text.toList 0

def phaseOfStatus (status : Nat) : Phase D :=
  if status = 404 then .unsupported
  else if status = 401 then .unauthorized
  else if status = 429 then .rateLimited
  else if status = 503 then .busy
  else .unavailable

/-- The worker after `fetchImpl`. -/
def answered (request : Request R) (outcome : FetchOutcome) (readings : Readings)
    (controller : Controller R D) : Controller R D :=
  match outcome with
  | .rejected thrown => controller.fail thrown request readings
  | .response response =>
    let request := { request with hasBody := response.hasBody }
    let discarded := request.stopBody (readings 0)
    if !controller.live request (readings 1) then controller.finish discarded readings
    else if response.redirected || response.status ≠ 200 then
      let shown := if controller.live discarded (readings 2)
        then controller.publish (phaseOfStatus response.status) else controller
      shown.finish discarded readings
    else if declaredExceeds response.declared then controller.fail .invalid discarded readings
    else match response.reader with
      | .missing => controller.fail .invalid request readings
      | .throws thrown =>
        if !controller.live request (readings 3) then controller.finish discarded readings
        else controller.fail thrown request readings
      | .opened =>
        if !controller.live request (readings 3) then controller.finish discarded readings
        else
          let opened := { request with hasReader := true }
          if !controller.live opened (readings 4)
          then controller.finish (opened.stopBody (readings 0)) readings
          else controller.store { opened with stage := .reading }

/-- The worker after the last chunk. -/
def complete (platform : Platform D) (request : Request R) (readings : Readings)
    (controller : Controller R D) : Controller R D :=
  if !controller.live request (readings 2) then controller.finish request readings
  else match parseIPContext platform request.bytes request.owner.owner.address with
    | .error thrown => controller.fail thrown request readings
    | .ok value =>
      if !controller.live request (readings 4) then controller.finish request readings
      else
        let kept := if (readings 3).clock < value.expiresAt
          then { controller with cache := trim (controller.cache.insert value.address value) }
          else controller
        (kept.publish (.ready value false)).finish (request.settle true) readings

/-- The worker after `read`. -/
def received (platform : Platform D) (request : Request R) (outcome : ReadOutcome)
    (readings : Readings) (controller : Controller R D) : Controller R D :=
  match outcome with
  | .rejected thrown => controller.fail thrown request readings
  | outcome =>
    if !controller.live request (readings 1) then
      controller.finish (request.stopBody (readings 0)) readings
    else match outcome with
      | .done => controller.complete platform request readings
      | .chunk bytes =>
        if contextBytes < request.bytes.length + bytes.length then
          controller.fail .invalid request readings
        else
          let longer := { request with bytes := request.bytes ++ bytes }
          if !controller.live longer (readings 2) then
            controller.finish (longer.stopBody (readings 0)) readings
          else controller.store longer
      | _ => controller.fail .invalid request readings

end Controller

/-! ## Steps -/

/-- Calls of the page, and what the platform calls back. -/
inductive Call (R : Type u)
  | setOwner (next : Option (Owner R))
  | cancel
  | destroy
  | query (timerThrows : Bool)
  | answer (id : Nat) (outcome : Controller.FetchOutcome)
  | read (id : Nat) (outcome : Controller.ReadOutcome)
  | cleaned (id : Nat)
  | fire (id : Nat)

structure Action (R : Type u) where
  call : Call R
  readings : Readings

/-- `clearTimer` may fail, so a timer fires at any time. -/
def next [DecidableEq R] (platform : Platform D) : Step (Controller R D) (Action R) :=
  fun controller action =>
    match action.call with
    | .setOwner owner => some (controller.setOwner owner action.readings)
    | .cancel => some (controller.cancel action.readings)
    | .destroy => some (controller.destroy action.readings)
    | .query timerThrows => some (controller.query platform timerThrows action.readings)
    | .answer id outcome =>
      (controller.request? id).bind fun request =>
        if request.stage = .fetching then some (controller.answered request outcome action.readings)
        else none
    | .read id outcome =>
      (controller.request? id).bind fun request =>
        if request.stage = .reading then
          some (controller.received platform request outcome action.readings)
        else none
    | .cleaned id =>
      (controller.request? id).bind fun request =>
        if request.stage = .cleaning then some (controller.release id) else none
    | .fire id =>
      match controller.request? id with
      | none => some controller
      | some request =>
        let ended := controller.timeout request (action.readings 0)
        some (ended.1.store ended.2)

def start : Controller R D := {}

end Context

end CheckNetwork.Frontend
