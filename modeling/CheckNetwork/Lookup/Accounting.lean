import CheckNetwork.Collection.Census
import CheckNetwork.Lookup.Effect

/-!
# The accounts of the flights

Queue leases and active tokens are counted against the flights that hold them,
waiters against the lookups that wait, and the map of current flights against
the flights that are neither abandoned nor complete.
-/

namespace CheckNetwork.Lookup

open Collection Go

namespace Stage

def isQueued : Stage → Bool
  | queued => true
  | _ => false

def isCalling : Stage → Bool
  | calling => true
  | _ => false

def isEnded : Stage → Bool
  | ended => true
  | _ => false

/-- Before the critical section that gives a remaining queue lease back. -/
def beforeStart : Stage → Bool
  | queued | admitted => true
  | _ => false

def holdsToken : Stage → Bool
  | admitted | calling | leaving _ _ => true
  | _ => false

end Stage

def Call.waitsOn : Call → Nat → Bool
  | .waiting flight, id => flight = id
  | _, _ => false

/-- How many lookups wait for a flight. -/
def State.waits (state : State) (id : Nat) : Nat :=
  state.callers.countP fun caller => caller.call.waitsOn id

namespace GeoIPFlight

def isCurrent (flight : GeoIPFlight) : Bool := !flight.abandoned && !flight.terminal

/-- The accounts of one flight. -/
structure Sound (flight : GeoIPFlight) : Prop where
  leases_eq : flight.leasesReturned + flight.queueLease.toNat = flight.leases
  leases_le : flight.leases ≤ 1
  tokens_eq : flight.tokensReturned + flight.stage.holdsToken.toNat = flight.tokens
  tokens_le : flight.tokens ≤ 1
  queued_tokens : flight.stage.isQueued = true → flight.tokens = 0
  lease_stage : flight.queueLease = true → flight.stage.beforeStart = true
  terminal_eq : flight.terminal = flight.stage.isEnded
  closes_eq : flight.closes = flight.terminal.toNat
  cancelled_eq : flight.cancelled = (flight.abandoned || flight.terminal)
  ctxDone_eq : flight.ctxDone = flight.cancelled
  abandoned_waiters : flight.abandoned = true → flight.waiters = 0

variable {flight : GeoIPFlight} {queued : Int}

/-! ## Releases and cancellations -/

theorem releaseQueueLocked_eq (flight : GeoIPFlight) (queued : Int) :
    flight.releaseQueueLocked queued = (queued - flight.queueLease.toNat,
      { flight with
        queueLease := false
        leasesReturned := flight.leasesReturned + flight.queueLease.toNat }) := by
  unfold releaseQueueLocked
  cases lease : flight.queueLease with
  | false =>
      rcases flight with ⟨⟩
      cases lease
      simp
  | true => simp

theorem cancelFlightLocked_eq (same : flight.ctxDone = flight.cancelled) :
    flight.cancelFlightLocked = { flight with cancelled := true, ctxDone := true } := by
  unfold cancelFlightLocked
  split
  · rename_i cancelled
    rcases flight with ⟨⟩
    cases cancelled
    cases same
    rfl
  · rfl

end GeoIPFlight

/-! ## The accounts of the client -/

structure State.Accounted (client : IPWhoIsLookup) (state : State) : Prop where
  sound : ∀ flight ∈ state.flights, flight.Sound
  queued_eq : state.queued = state.flights.countP GeoIPFlight.queueLease
  queued_le : state.queued ≤ client.maxQueued
  active_eq : state.active = state.flights.countP fun flight => flight.stage.holdsToken
  active_le : state.active ≤ client.maxActive
  current_iff : ∀ address id, state.inflight address = some id ↔
    ∃ flight, state.flights[id]? = some flight ∧ flight.address = address ∧
      flight.isCurrent = true
  waiters_eq : ∀ id flight, state.flights[id]? = some flight →
    flight.waiters = (state.waits id : Int)
  waits_pos : ∀ id, 0 < state.waits id → id < state.flights.length

namespace State

variable {client : IPWhoIsLookup} {state after : State} {index id : Nat} {caller : Caller}
  {flight new : GeoIPFlight} {call : Call}

theorem waits_setCall (here : state.callers[index]? = some caller) (other : Nat) :
    (state.setCall index caller call).waits other + (caller.call.waitsOn other).toNat =
      state.waits other + (call.waitsOn other).toNat :=
  @countP_set_add _ (fun caller : Caller => caller.call.waitsOn other) _ _ caller
    { caller with call := call } here

/-- A lookup that has entered does not wait yet, nor does it after it fails or
is served. -/
theorem waits_setCall_of_not (here : state.callers[index]? = some caller)
    (before : ∀ other, caller.call.waitsOn other = false)
    (afterwards : ∀ other, call.waitsOn other = false) (other : Nat) :
    (state.setCall index caller call).waits other = state.waits other := by
  have counted := @waits_setCall state index caller call here other
  rwa [before, afterwards] at counted

theorem waitsOn_entering {now : Time} (entering : caller.call = .entering now) (other : Nat) :
    caller.call.waitsOn other = false := by
  rw [entering]
  rfl

theorem waitsOn_waiting (waiting : caller.call = .waiting id) (other : Nat) :
    caller.call.waitsOn other = decide (id = other) := by
  rw [waiting]
  rfl

theorem waits_pos_of_waiting (here : state.callers[index]? = some caller)
    (waiting : caller.call = .waiting id) : 0 < state.waits id := by
  apply countP_pos_of_getElem? here
  rw [waiting]
  exact decide_eq_true rfl

namespace Accounted

theorem initial (heap : Heap) (queued : 0 ≤ client.maxQueued) (active : 0 ≤ client.maxActive) :
    (State.initial heap).Accounted client where
  sound _ member := absurd member List.not_mem_nil
  queued_eq := rfl
  queued_le := queued
  active_eq := rfl
  active_le := active
  current_iff address id := by simp [State.initial]
  waiters_eq _ _ found := by cases found
  waits_pos _ waiting := absurd waiting (lt_irrefl 0)

/-- Steps that leave the flights alone. -/
theorem congr (accounted : state.Accounted client) (flights_eq : after.flights = state.flights)
    (queued_eq : after.queued = state.queued) (active_eq : after.active = state.active)
    (inflight_eq : after.inflight = state.inflight)
    (waits_eq : ∀ other, after.waits other = state.waits other) : after.Accounted client where
  sound := by
    rw [flights_eq]
    exact accounted.sound
  queued_eq := by
    rw [queued_eq, flights_eq]
    exact accounted.queued_eq
  queued_le := queued_eq.trans_le accounted.queued_le
  active_eq := by
    rw [active_eq, flights_eq]
    exact accounted.active_eq
  active_le := active_eq.trans_le accounted.active_le
  current_iff := by
    rw [inflight_eq, flights_eq]
    exact accounted.current_iff
  waiters_eq id flight found := by
    rw [flights_eq] at found
    rw [waits_eq]
    exact accounted.waiters_eq id flight found
  waits_pos id waiting := by
    rw [flights_eq]
    rw [waits_eq] at waiting
    exact accounted.waits_pos id waiting

/-- Steps that change one flight. -/
theorem edit (accounted : state.Accounted client) (aloft : state.flights[id]? = some flight)
    (flights_eq : after.flights = state.flights.set id new) (sound : new.Sound)
    (address_eq : new.address = flight.address)
    (current : new.isCurrent = true → flight.isCurrent = true)
    (inflight : ∀ address other, after.inflight address = some other ↔
      state.inflight address = some other ∧ (other = id → new.isCurrent = true))
    (queued : after.queued + flight.queueLease.toNat = state.queued + new.queueLease.toNat)
    (queued_le : after.queued ≤ client.maxQueued)
    (active : after.active + flight.stage.holdsToken.toNat =
      state.active + new.stage.holdsToken.toNat)
    (active_le : after.active ≤ client.maxActive)
    (waits : ∀ other, (after.waits other : Int) =
      state.waits other + if other = id then new.waiters - flight.waiters else 0) :
    after.Accounted client where
  sound other member := by
    rw [flights_eq] at member
    rcases List.mem_or_eq_of_mem_set member with old | rfl
    · exact accounted.sound other old
    · exact sound
  queued_eq := by
    have counted := @countP_set_add _ GeoIPFlight.queueLease _ _ _ new aloft
    have before := accounted.queued_eq
    rw [flights_eq]
    omega
  queued_le := queued_le
  active_eq := by
    have counted := @countP_set_add _ (fun flight => flight.stage.holdsToken) _ _ _ new aloft
    have before := accounted.active_eq
    rw [flights_eq]
    omega
  active_le := active_le
  current_iff address other := by
    rw [inflight, accounted.current_iff, flights_eq]
    constructor
    · rintro ⟨⟨found, place, rfl, held⟩, stays⟩
      by_cases same : other = id
      · rw [same, aloft] at place
        cases place
        exact ⟨new, (getElem?_set_cases aloft).mpr (.inl ⟨same, rfl⟩), address_eq, stays same⟩
      · exact ⟨found, (getElem?_set_cases aloft).mpr (.inr ⟨same, place⟩), rfl, held⟩
    · rintro ⟨found, place, rfl, held⟩
      rcases (getElem?_set_cases aloft).mp place with ⟨rfl, rfl⟩ | ⟨other_ne, old⟩
      · exact ⟨⟨flight, aloft, address_eq.symm, current held⟩, fun _ => held⟩
      · exact ⟨⟨found, old, rfl, held⟩, fun same => absurd same other_ne⟩
  waiters_eq other found place := by
    rw [flights_eq] at place
    rw [waits]
    rcases (getElem?_set_cases aloft).mp place with ⟨rfl, rfl⟩ | ⟨other_ne, old⟩
    · rw [if_pos rfl, ← accounted.waiters_eq other flight aloft]
      omega
    · rw [if_neg other_ne, accounted.waiters_eq other found old]
      omega
  waits_pos other waiting := by
    rw [flights_eq, List.length_set]
    by_cases same : other = id
    · rw [same]
      exact (List.getElem?_eq_some_iff.mp aloft).1
    · have unchanged := waits other
      rw [if_neg same] at unchanged
      exact accounted.waits_pos other (by omega)

theorem sound_of_getElem? (accounted : state.Accounted client)
    (aloft : state.flights[id]? = some flight) : flight.Sound :=
  accounted.sound flight (List.mem_of_getElem? aloft)

/-- Steps that change one flight and leave it as current as it was. -/
theorem keep (accounted : state.Accounted client) (aloft : state.flights[id]? = some flight)
    (flights_eq : after.flights = state.flights.set id new) (sound : new.Sound)
    (address_eq : new.address = flight.address) (isCurrent_eq : new.isCurrent = flight.isCurrent)
    (inflight_eq : after.inflight = state.inflight)
    (queued : after.queued + flight.queueLease.toNat = state.queued + new.queueLease.toNat)
    (queued_le : after.queued ≤ client.maxQueued)
    (active : after.active + flight.stage.holdsToken.toNat =
      state.active + new.stage.holdsToken.toNat)
    (active_le : after.active ≤ client.maxActive)
    (waits : ∀ other, (after.waits other : Int) =
      state.waits other + if other = id then new.waiters - flight.waiters else 0) :
    after.Accounted client := by
  apply accounted.edit aloft flights_eq sound address_eq (isCurrent_eq ▸ fun held => held) ?_
    queued queued_le active active_le waits
  intro address other
  rw [inflight_eq]
  constructor
  · intro found
    refine ⟨found, ?_⟩
    rintro rfl
    obtain ⟨same, place, -, held⟩ := (accounted.current_iff address other).mp found
    rw [aloft] at place
    cases place
    exact isCurrent_eq.trans held
  · exact And.left

/-- Steps after which one flight is not current. -/
theorem retire (accounted : state.Accounted client) (aloft : state.flights[id]? = some flight)
    (flights_eq : after.flights = state.flights.set id new) (sound : new.Sound)
    (address_eq : new.address = flight.address) (isCurrent_eq : new.isCurrent = false)
    (inflight_eq : after.inflight = if state.inflight flight.address = some id then
      Function.update state.inflight flight.address none else state.inflight)
    (queued : after.queued + flight.queueLease.toNat = state.queued + new.queueLease.toNat)
    (queued_le : after.queued ≤ client.maxQueued)
    (active : after.active + flight.stage.holdsToken.toNat =
      state.active + new.stage.holdsToken.toNat)
    (active_le : after.active ≤ client.maxActive)
    (waits : ∀ other, (after.waits other : Int) =
      state.waits other + if other = id then new.waiters - flight.waiters else 0) :
    after.Accounted client := by
  apply accounted.edit aloft flights_eq sound address_eq ?_ ?_ queued queued_le active active_le
    waits
  · rw [isCurrent_eq]
    exact fun impossible => absurd impossible Bool.false_ne_true
  intro address other
  have owner : ∀ found, state.inflight found = some id → found = flight.address := by
    intro found current
    obtain ⟨same, place, rfl, -⟩ := (accounted.current_iff found id).mp current
    rw [aloft] at place
    cases place
    rfl
  rw [inflight_eq, isCurrent_eq]
  by_cases current : state.inflight flight.address = some id
  · rw [if_pos current]
    by_cases same : address = flight.address
    · rw [same, Function.update_self, current]
      constructor
      · intro impossible
        cases impossible
      · rintro ⟨found, stays⟩
        exact absurd (stays (Option.some.inj found).symm) Bool.false_ne_true
    · rw [Function.update_of_ne same]
      constructor
      · intro found
        refine ⟨found, ?_⟩
        rintro rfl
        exact absurd (owner address found) same
      · exact And.left
  · rw [if_neg current]
    constructor
    · intro found
      refine ⟨found, ?_⟩
      rintro rfl
      rw [owner address found] at found
      exact absurd found current
    · exact And.left

/-! ## Callers -/

theorem begin (accounted : state.Accounted client) (ip : IP) (ctxErr : Option ContextError)
    (now : Time) : (state.begin ip ctxErr now).Accounted client := by
  refine accounted.congr rfl rfl rfl rfl fun other => ?_
  unfold State.begin waits
  rw [countP_concat]
  cases ctxErr with
  | some err => rfl
  | none =>
      dsimp only
      split <;> rfl

theorem recache (accounted : state.Accounted client) (heap : Heap) (sequence : Nat)
    (cache : Store GoString GeoIPCacheEntry) :
    ({ state with heap := heap, accessSequence := sequence, cache := cache } : State).Accounted
      client :=
  accounted.congr rfl rfl rfl rfl fun _ => rfl

theorem join (accounted : state.Accounted client) {now : Time}
    (here : state.callers[index]? = some caller) (entering : caller.call = .entering now)
    (aloft : state.flights[id]? = some flight) (present : flight.abandoned = false) :
    (state.join index caller id flight).Accounted client := by
  have sound := accounted.sound_of_getElem? aloft
  refine accounted.keep aloft rfl ?_ rfl rfl rfl rfl accounted.queued_le rfl accounted.active_le
    fun other => ?_
  · exact { sound with
      abandoned_waiters := fun abandoned => by
        rw [show flight.abandoned = true from abandoned] at present
        cases present }
  · have counted := @waits_setCall
      (state.setFlight id { flight with waiters := flight.waiters + 1 }) index caller
      (.waiting id) here other
    have unchanged : (state.setFlight id { flight with waiters := flight.waiters + 1 }).waits other =
        state.waits other := rfl
    rw [waitsOn_entering entering, unchanged] at counted
    simp only [Call.waitsOn] at counted
    by_cases same : other = id
    · rw [if_pos same, State.join]
      rw [decide_eq_true same.symm] at counted
      simp only [Bool.toNat_false, Bool.toNat_true] at counted
      dsimp only
      omega
    · rw [if_neg same, State.join]
      rw [decide_eq_false (Ne.symm same)] at counted
      simp only [Bool.toNat_false] at counted
      omega

/-- A new flight takes the place of what an unjoinable address had. -/
theorem launch (accounted : state.Accounted client) {now : Time} {hasActive : Bool}
    (here : state.callers[index]? = some caller) (entering : caller.call = .entering now)
    (unjoinable : state.joinable caller.address = none)
    (token : hasActive = true → state.active < client.maxActive)
    (lease : hasActive = false → state.queued < client.maxQueued) :
    (state.launch index caller hasActive).Accounted client where
  sound flight member := by
    rcases List.mem_append.mp member with old | new
    · exact accounted.sound flight old
    · rcases List.mem_singleton.mp new with rfl
      cases hasActive <;> constructor <;> simp [newFlight, Stage.isQueued, Stage.holdsToken,
        Stage.beforeStart, Stage.isEnded]
  queued_eq := by
    have before := accounted.queued_eq
    simp only [State.launch, setCall, countP_concat, newFlight]
    cases hasActive <;> simp <;> omega
  queued_le := by
    have before := accounted.queued_le
    simp only [State.launch, setCall]
    cases hasActive with
    | true => simpa using before
    | false =>
        have room := lease rfl
        simp only [Bool.false_eq_true, if_false]
        omega
  active_eq := by
    have before := accounted.active_eq
    have counted := countP_concat (fun flight => flight.stage.holdsToken) state.flights
      (state.newFlight caller.address hasActive)
    have holds : (state.newFlight caller.address hasActive).stage.holdsToken = hasActive := by
      cases hasActive <;> rfl
    rw [holds] at counted
    simp only [State.launch, setCall, counted]
    cases hasActive <;> simp <;> omega
  active_le := by
    have before := accounted.active_le
    simp only [State.launch, setCall]
    cases hasActive with
    | false => simpa using before
    | true =>
        have room := token rfl
        simp only [if_true]
        omega
  current_iff address id := by
    have outside : ∀ address, state.inflight address ≠ some state.flights.length := by
      intro address found
      obtain ⟨flight, place, -⟩ := (accounted.current_iff address _).mp found
      rw [List.getElem?_eq_none le_rfl] at place
      cases place
    simp only [State.launch, setCall, getElem?_concat_cases]
    by_cases same : address = caller.address
    · rw [same, Function.update_self]
      constructor
      · intro found
        cases found
        exact ⟨_, .inl ⟨rfl, rfl⟩, rfl, rfl⟩
      · rintro ⟨flight, ⟨rfl, rfl⟩ | old, address_eq, held⟩
        · rfl
        · have current := (accounted.current_iff _ _).mpr ⟨flight, old, address_eq, held⟩
          rw [GeoIPFlight.isCurrent, Bool.and_eq_true, Bool.not_eq_true', Bool.not_eq_true'] at held
          rw [joinable, current] at unjoinable
          simp [old, held.1, held.2] at unjoinable
    · rw [Function.update_of_ne same, accounted.current_iff]
      constructor
      · rintro ⟨flight, place, found⟩
        exact ⟨flight, .inr place, found⟩
      · rintro ⟨flight, ⟨rfl, rfl⟩ | old, address_eq, held⟩
        · exact absurd address_eq.symm same
        · exact ⟨flight, old, address_eq, held⟩
  waiters_eq id flight place := by
    have counted := @waits_setCall state index caller (.waiting state.flights.length) here id
    have unwaited : state.waits state.flights.length = 0 :=
      Nat.eq_zero_of_not_pos fun waiting => lt_irrefl _ (accounted.waits_pos _ waiting)
    have same_waits : (state.launch index caller hasActive).waits id =
        (state.setCall index caller (.waiting state.flights.length)).waits id := rfl
    rw [waitsOn_entering entering] at counted
    simp only [Call.waitsOn, Bool.toNat_false] at counted
    rw [same_waits]
    rcases getElem?_concat_cases.mp place with ⟨rfl, rfl⟩ | old
    · rw [decide_eq_true rfl, unwaited] at counted
      simp only [Bool.toNat_true] at counted
      simp only [newFlight]
      omega
    · have inside := (List.getElem?_eq_some_iff.mp old).1
      rw [decide_eq_false (by omega)] at counted
      have before := accounted.waiters_eq id flight old
      simp only [Bool.toNat_false] at counted
      omega
  waits_pos id waiting := by
    have counted := @waits_setCall state index caller (.waiting state.flights.length) here id
    have same_waits : (state.launch index caller hasActive).waits id =
        (state.setCall index caller (.waiting state.flights.length)).waits id := rfl
    rw [waitsOn_entering entering] at counted
    rw [same_waits] at waiting
    have length_eq : (state.launch index caller hasActive).flights.length =
        state.flights.length + 1 := List.length_append
    rw [length_eq]
    by_cases same : id = state.flights.length
    · omega
    · simp only [Call.waitsOn, Bool.toNat_false, decide_eq_false (Ne.symm same)] at counted
      have inside := accounted.waits_pos id (by omega)
      omega

/-! ## Waiters -/

theorem of_waiting (accounted : state.Accounted client)
    (here : state.callers[index]? = some caller) (waiting : caller.call = .waiting id)
    (aloft : state.flights[id]? = some flight) : flight.abandoned = false ∧ 0 < flight.waiters := by
  have pos := waits_pos_of_waiting here waiting
  have waiters_eq := accounted.waiters_eq id flight aloft
  refine ⟨?_, by omega⟩
  apply Bool.eq_false_of_not_eq_true
  intro abandoned
  have none_left := (accounted.sound_of_getElem? aloft).abandoned_waiters abandoned
  omega

/-- A waiter leaves. -/
theorem waits_left (here : state.callers[index]? = some caller)
    (waiting : caller.call = .waiting id) (gone : ∀ other, call.waitsOn other = false)
    (other : Nat) : ((state.setCall index caller call).waits other : Int) =
      state.waits other + if other = id then -1 else 0 := by
  have counted := @waits_setCall state index caller call here other
  rw [waitsOn_waiting waiting, gone] at counted
  by_cases same : other = id
  · rw [if_pos same]
    rw [decide_eq_true same.symm] at counted
    simp only [Bool.toNat_false, Bool.toNat_true] at counted
    omega
  · rw [if_neg same]
    rw [decide_eq_false (Ne.symm same)] at counted
    simp only [Bool.toNat_false] at counted
    omega

theorem leave (accounted : state.Accounted client) (heap : Heap)
    (here : state.callers[index]? = some caller) (waiting : caller.call = .waiting id)
    (aloft : state.flights[id]? = some flight) (metadata : Held) (err : Option GeoIPError) :
    (({ state with heap := heap }.setFlight id
      { flight with waiters := flight.waiters - 1 }).answer index caller metadata err).Accounted
        client := by
  obtain ⟨present, -⟩ := accounted.of_waiting here waiting aloft
  have sound := accounted.sound_of_getElem? aloft
  refine accounted.keep aloft rfl ?_ rfl rfl rfl rfl accounted.queued_le rfl accounted.active_le
    fun other => ?_
  · exact { sound with
      abandoned_waiters := fun abandoned => by
        rw [show flight.abandoned = true from abandoned] at present
        cases present }
  · have left := @waits_left { state with heap := heap } index id caller
      (.returned metadata err (heap.read metadata)) here waiting (fun _ => rfl) other
    rw [show flight.waiters - 1 - flight.waiters = -1 by omega]
    exact left

end Accounted

theorem abandon_eq (same : flight.ctxDone = flight.cancelled) :
    state.abandon id flight = { state with
      queued := state.queued - flight.queueLease.toNat
      inflight := if state.inflight flight.address = some id then
        Function.update state.inflight flight.address none else state.inflight
      flights := state.flights.set id { flight with
        abandoned := true
        queueLease := false
        leasesReturned := flight.leasesReturned + flight.queueLease.toNat
        cancelled := true
        ctxDone := true } } := by
  unfold State.abandon
  rw [GeoIPFlight.releaseQueueLocked_eq]
  dsimp only
  rw [GeoIPFlight.cancelFlightLocked_eq]
  · rfl
  · exact same

namespace Accounted

theorem abandon (accounted : state.Accounted client)
    (here : state.callers[index]? = some caller) (waiting : caller.call = .waiting id)
    (aloft : state.flights[id]? = some flight) (last : flight.waiters - 1 = 0)
    (err : GeoIPError) : ((state.abandon id { flight with waiters := flight.waiters - 1 }).fail
      index caller err).Accounted client := by
  have sound := accounted.sound_of_getElem? aloft
  rw [abandon_eq (by exact sound.ctxDone_eq)]
  refine accounted.retire aloft rfl ?_ rfl rfl rfl ?_ ?_ rfl accounted.active_le fun other => ?_
  · exact { sound with
      leases_eq := sound.leases_eq
      lease_stage := fun impossible => by cases impossible
      cancelled_eq := rfl
      ctxDone_eq := rfl
      abandoned_waiters := fun _ => last }
  · simp [fail, State.answer, setCall]
  · have before := accounted.queued_le
    simp only [fail, State.answer, setCall]
    omega
  · have left := @waits_left state index id caller (.returned .zero (some err)
      (state.heap.read .zero)) here waiting (fun _ => rfl) other
    rw [show flight.waiters - 1 - flight.waiters = -1 by omega]
    exact left

/-! ## The goroutine of a flight -/

theorem take (accounted : state.Accounted client) (aloft : state.flights[id]? = some flight)
    (queued : flight.stage = .queued) (room : state.active < client.maxActive) :
    (state.take id flight).Accounted client := by
  have sound := accounted.sound_of_getElem? aloft
  have untaken : flight.tokens = 0 := sound.queued_tokens (by rw [queued]; rfl)
  have returned : flight.tokensReturned + flight.stage.holdsToken.toNat = flight.tokens :=
    sound.tokens_eq
  refine accounted.keep aloft rfl ?_ rfl rfl rfl rfl accounted.queued_le ?_ ?_ fun other => ?_
  · exact { sound with
      tokens_eq := by
        change flight.tokensReturned + 1 = flight.tokens + 1
        omega
      tokens_le := by
        change flight.tokens + 1 ≤ 1
        omega
      queued_tokens := fun impossible => by cases impossible
      lease_stage := fun _ => rfl
      terminal_eq := by
        rw [sound.terminal_eq, queued]
        rfl }
  · simp [State.take, setFlight, queued, Stage.holdsToken]
  · simp only [State.take, setFlight]
    omega
  · simp [State.take, setFlight, waits]

theorem giveUp (accounted : state.Accounted client) (aloft : state.flights[id]? = some flight)
    (queued : flight.stage = .queued) : (state.giveUp id flight).Accounted client := by
  have sound := accounted.sound_of_getElem? aloft
  unfold State.giveUp
  rw [GeoIPFlight.releaseQueueLocked_eq]
  refine accounted.keep aloft rfl ?_ rfl rfl rfl ?_ ?_ ?_ accounted.active_le fun other => ?_
  · exact { sound with
      leases_eq := sound.leases_eq
      tokens_eq := by
        have returned := sound.tokens_eq
        rwa [queued] at returned
      queued_tokens := fun impossible => by cases impossible
      lease_stage := fun impossible => by cases impossible
      terminal_eq := by
        rw [sound.terminal_eq, queued]
        rfl }
  · simp [setFlight]
  · have before := accounted.queued_le
    simp only [setFlight]
    omega
  · simp [setFlight, queued, Stage.holdsToken]
  · simp [setFlight, waits]

theorem start (accounted : state.Accounted client) (aloft : state.flights[id]? = some flight)
    (admitted : flight.stage = .admitted) : (state.start id flight).Accounted client := by
  have sound := accounted.sound_of_getElem? aloft
  have tokens_eq := sound.tokens_eq
  rw [admitted] at tokens_eq
  have terminal_eq := sound.terminal_eq
  rw [admitted] at terminal_eq
  have queued_le : state.queued - flight.queueLease.toNat ≤ client.maxQueued := by
    have before := accounted.queued_le
    omega
  unfold State.start
  rw [GeoIPFlight.releaseQueueLocked_eq]
  dsimp only
  split
  · refine accounted.keep aloft rfl ?_ rfl rfl rfl ?_ queued_le ?_ accounted.active_le
      fun other => ?_
    · exact { sound with
        leases_eq := sound.leases_eq
        tokens_eq := tokens_eq
        queued_tokens := fun impossible => by cases impossible
        lease_stage := fun impossible => by cases impossible
        terminal_eq := terminal_eq }
    · simp [setFlight]
    · simp [setFlight, admitted, Stage.holdsToken]
    · simp [setFlight, waits]
  · refine accounted.keep aloft rfl ?_ rfl rfl rfl ?_ queued_le ?_ accounted.active_le
      fun other => ?_
    · exact { sound with
        leases_eq := sound.leases_eq
        tokens_eq := tokens_eq
        queued_tokens := fun impossible => by cases impossible
        lease_stage := fun impossible => by cases impossible
        terminal_eq := terminal_eq }
    · simp [setFlight]
    · simp [setFlight, admitted, Stage.holdsToken]
    · simp [setFlight, waits]

/-- The goroutine goes on with what it holds. -/
theorem advance (accounted : state.Accounted client) (heap : Heap)
    (aloft : state.flights[id]? = some flight) {stage : Stage}
    {fetched : Option (Seen × Option GeoIPError)} (calling : flight.stage = .calling)
    (leaving : stage.isQueued = false ∧ stage.holdsToken = true ∧ stage.isEnded = false) :
    ({ state with heap := heap }.setFlight id
      { flight with stage := stage, fetched := fetched }).Accounted client := by
  have sound := accounted.sound_of_getElem? aloft
  refine accounted.keep aloft rfl ?_ rfl rfl rfl rfl accounted.queued_le ?_ accounted.active_le
    fun other => ?_
  · exact { sound with
      tokens_eq := by
        have returned := sound.tokens_eq
        rw [calling] at returned
        exact leaving.2.1 ▸ returned
      queued_tokens := fun impossible => by
        rw [leaving.1] at impossible
        cases impossible
      lease_stage := fun lease => by
        have early := sound.lease_stage lease
        rw [calling] at early
        cases early
      terminal_eq := by
        rw [sound.terminal_eq, calling]
        exact leaving.2.2.symm }
  · rw [calling, leaving.2.1]
    rfl
  · simp [setFlight, waits]

theorem handBack (accounted : state.Accounted client) (aloft : state.flights[id]? = some flight)
    {metadata : Held} {err : Option GeoIPError} (leaving : flight.stage = .leaving metadata err) :
    (state.handBack id flight metadata err).Accounted client := by
  have sound := accounted.sound_of_getElem? aloft
  refine accounted.keep aloft rfl ?_ rfl rfl rfl rfl accounted.queued_le ?_ ?_ fun other => ?_
  · exact { sound with
      tokens_eq := by
        have returned := sound.tokens_eq
        rw [leaving] at returned
        exact returned
      queued_tokens := fun impossible => by cases impossible
      lease_stage := fun lease => by
        have early := sound.lease_stage lease
        rw [leaving] at early
        cases early
      terminal_eq := by
        rw [sound.terminal_eq, leaving]
        rfl }
  · simp [State.handBack, setFlight, leaving, Stage.holdsToken]
  · have before := accounted.active_le
    simp only [State.handBack, setFlight]
    omega
  · simp [State.handBack, setFlight, waits]

end Accounted

/-- A flight as its completion leaves it. -/
def finished (state : State) (client : IPWhoIsLookup) (id : Nat) (flight : GeoIPFlight)
    (metadata : Held) (err : Option GeoIPError) (now : Time) : GeoIPFlight :=
  { flight with
    metadata := (state.settle client metadata err now).2
    err := err
    terminal := true
    wasCurrent := state.inflight flight.address = some id
    cancelled := true
    ctxDone := true
    closes := flight.closes + 1
    stage := .ended }

/-- The state in which a completion considers the cache. -/
def landed (state : State) (client : IPWhoIsLookup) (id : Nat) (flight : GeoIPFlight)
    (metadata : Held) (err : Option GeoIPError) (now : Time) : State :=
  { state with
    heap := (state.settle client metadata err now).1
    inflight := if state.inflight flight.address = some id then
      Function.update state.inflight flight.address none else state.inflight }

/-- When a completion stores its metadata. -/
def storable (state : State) (client : IPWhoIsLookup) (id : Nat) (flight : GeoIPFlight)
    (metadata : Held) (err : Option GeoIPError) (now : Time) : Bool :=
  decide (state.inflight flight.address = some id) && err.isNone && !flight.abandoned &&
    !flight.ctxDone &&
    validIPMetadata ((state.settle client metadata err now).1.read
      (state.settle client metadata err now).2)

/-- The completion of a flight that holds no lease any more. -/
theorem completeFlight_eq (client : IPWhoIsLookup) (metadata : Held) (err : Option GeoIPError)
    (now : Time) (open_ : flight.terminal = false) (unleased : flight.queueLease = false)
    (same : flight.ctxDone = flight.cancelled) :
    state.completeFlight client id flight metadata err now =
      (if state.storable client id flight metadata err now = true then
        (state.landed client id flight metadata err now).storeCacheLocked client flight.address
          (state.settle client metadata err now).2 now
      else state.landed client id flight metadata err now).setFlight id
        (state.finished client id flight metadata err now) := by
  have released : flight.releaseQueueLocked state.queued = (state.queued, flight) := by
    rw [GeoIPFlight.releaseQueueLocked, if_neg (by simp [unleased])]
  unfold completeFlight
  rw [if_neg (by simp [open_]), released]
  dsimp only
  rw [GeoIPFlight.cancelFlightLocked_eq]
  · simp only [decide_eq_true_eq]
    rfl
  · exact same

/-- A completion reaches the cache and otherwise one flight. -/
theorem completeFlight_cases (client : IPWhoIsLookup) (metadata : Held) (err : Option GeoIPError)
    (now : Time) (open_ : flight.terminal = false) (unleased : flight.queueLease = false)
    (same : flight.ctxDone = flight.cancelled) :
    ∃ heap sequence cache, state.completeFlight client id flight metadata err now =
      { state.landed client id flight metadata err now with
        heap := heap
        accessSequence := sequence
        cache := cache
        flights := state.flights.set id (state.finished client id flight metadata err now) } := by
  rw [completeFlight_eq client metadata err now open_ unleased same]
  split
  · exact ⟨_, _, _, rfl⟩
  · exact ⟨_, _, _, rfl⟩

namespace Accounted

/-- Past the start of a flight its lease is given back. -/
theorem unleased (accounted : state.Accounted client) (aloft : state.flights[id]? = some flight)
    (past : flight.stage.beforeStart = false) : flight.queueLease = false := by
  apply Bool.eq_false_of_not_eq_true
  intro lease
  have early := (accounted.sound_of_getElem? aloft).lease_stage lease
  rw [past] at early
  cases early

theorem complete (accounted : state.Accounted client) (aloft : state.flights[id]? = some flight)
    {metadata : Held} {err : Option GeoIPError} (completing : flight.stage = .completing metadata err)
    (now : Time) : (state.completeFlight client id flight metadata err now).Accounted client := by
  have sound := accounted.sound_of_getElem? aloft
  have open_ : flight.terminal = false := by
    rw [sound.terminal_eq, completing]
    rfl
  have unleased := accounted.unleased aloft (by rw [completing]; rfl)
  have closes_eq := sound.closes_eq
  rw [open_] at closes_eq
  obtain ⟨heap, sequence, cache, after_eq⟩ := @completeFlight_cases state id flight client metadata
    err now open_ unleased sound.ctxDone_eq
  rw [after_eq]
  refine accounted.retire aloft rfl ?_ rfl ?_ rfl rfl accounted.queued_le ?_ accounted.active_le
    fun other => ?_
  · exact { sound with
      tokens_eq := by
        have returned := sound.tokens_eq
        rw [completing] at returned
        exact returned
      queued_tokens := fun impossible => by cases impossible
      lease_stage := fun lease => by
        rw [show flight.queueLease = true from lease] at unleased
        cases unleased
      terminal_eq := rfl
      closes_eq := by
        change flight.closes + 1 = 1
        rw [closes_eq]
        rfl
      cancelled_eq := by
        change true = (flight.abandoned || true)
        rw [Bool.or_true]
      ctxDone_eq := rfl }
  · simp [GeoIPFlight.isCurrent, finished]
  · simp [completing, Stage.holdsToken, finished, landed]
  · simp [waits, finished, landed]

/-- Every step keeps the accounts. -/
theorem step (accounted : state.Accounted client) (effect : Effect client state after) :
    after.Accounted client := by
  cases effect with
  | begin ip ctxErr now => exact accounted.begin ip ctxErr now
  | hit here entering =>
      exact accounted.congr rfl rfl rfl rfl
        (waits_setCall_of_not here (waitsOn_entering entering) fun _ => rfl)
  | busy here entering =>
      exact accounted.congr rfl rfl rfl rfl
        (waits_setCall_of_not here (waitsOn_entering entering) fun _ => rfl)
  | @join _ _ _ _ cache _ here entering _ _ aloft present =>
      exact (accounted.recache state.heap state.accessSequence cache).join here entering aloft
        present
  | @launch _ _ _ cache _ here entering _ unjoinable token lease =>
      exact (accounted.recache state.heap state.accessSequence cache).launch here entering
        unjoinable token lease
  | collect here waiting aloft => exact accounted.leave _ here waiting aloft _ _
  | leave here waiting aloft => exact accounted.leave state.heap here waiting aloft _ _
  | abandon here waiting aloft _ last => exact accounted.abandon here waiting aloft last _
  | again => exact accounted
  | @done _ caller here err =>
      refine accounted.congr rfl rfl rfl rfl fun other => ?_
      have counted := @countP_set_add _ (fun caller : Caller => caller.call.waitsOn other) _ _ _
        { caller with ctxErr := caller.ctxErr.or (some err) } here
      exact Nat.add_right_cancel counted
  | writeGeolocation here value =>
      unfold State.writeGeolocation
      split
      · exact accounted.recache _ _ _
      · exact accounted
  | writeASN here value =>
      unfold State.writeASN
      split
      · exact accounted.recache _ _ _
      · exact accounted
  | take aloft queued room => exact accounted.take aloft queued room
  | giveUp aloft queued => exact accounted.giveUp aloft queued
  | start aloft admitted => exact accounted.start aloft admitted
  | callProvider aloft calling outcome =>
      exact accounted.advance _ aloft calling ⟨rfl, rfl, rfl⟩
  | handBack aloft leaving => exact accounted.handBack aloft leaving
  | complete aloft completing now => exact accounted.complete aloft completing now

end Accounted
end State
end CheckNetwork.Lookup
