import CheckNetwork.Lookup.Accounting

/-!
# Flights over a run

A complete flight only loses waiters, and an abandoned one stays abandoned.
With the accounts this says what every run does with leases, tokens, waiters
and channels.
-/

namespace CheckNetwork.Lookup

open Collection Diagnostic Transition

/-- What can become of a flight in one step. -/
structure GeoIPFlight.Becomes (flight new : GeoIPFlight) : Prop where
  address_eq : new.address = flight.address
  abandoned : flight.abandoned = true → new.abandoned = true
  settled : flight.terminal = true → ∃ waiters, new = { flight with waiters := waiters }

namespace GeoIPFlight.Becomes

variable {flight new : GeoIPFlight}

theorem refl (flight : GeoIPFlight) : flight.Becomes flight :=
  ⟨rfl, id, fun _ => ⟨flight.waiters, rfl⟩⟩

/-- A flight that is still open may change in any other way. -/
theorem of_open (open_ : flight.terminal = false) (address_eq : new.address = flight.address)
    (abandoned : flight.abandoned = true → new.abandoned = true) : flight.Becomes new :=
  ⟨address_eq, abandoned, fun closed => absurd (open_.symm.trans closed) Bool.false_ne_true⟩

end GeoIPFlight.Becomes

namespace State

variable {client : IPWhoIsLookup} {state after : State} {id other : Nat}
  {flight new found : GeoIPFlight}

theorem becomes_set (aloft : state.flights[id]? = some flight)
    (flights_eq : after.flights = state.flights.set id new) (change : flight.Becomes new)
    (place : state.flights[other]? = some found) :
    ∃ next, after.flights[other]? = some next ∧ found.Becomes next := by
  rw [flights_eq]
  by_cases same : other = id
  · rw [same, aloft] at place
    cases place
    exact ⟨new, (getElem?_set_cases aloft).mpr (.inl ⟨same, rfl⟩), change⟩
  · exact ⟨found, (getElem?_set_cases aloft).mpr (.inr ⟨same, place⟩), .refl found⟩

/-- Before its end the goroutine of a flight has not completed it. -/
theorem Accounted.terminal_eq_false (accounted : state.Accounted client)
    (aloft : state.flights[id]? = some flight) (unended : flight.stage.isEnded = false) :
    flight.terminal = false :=
  (accounted.sound_of_getElem? aloft).terminal_eq.trans unended

theorem becomes (accounted : state.Accounted client) (effect : Effect client state after)
    (place : state.flights[other]? = some found) :
    ∃ next, after.flights[other]? = some next ∧ found.Becomes next := by
  have unchanged : ∀ {flights : List GeoIPFlight}, flights = state.flights →
      ∃ next, flights[other]? = some next ∧ found.Becomes next := by
    rintro _ rfl
    exact ⟨found, place, .refl found⟩
  cases effect with
  | begin | hit | busy | again | done => exact unchanged rfl
  | join _ _ _ _ aloft => exact becomes_set aloft rfl ⟨rfl, id, fun _ => ⟨_, rfl⟩⟩ place
  | launch => exact ⟨found, getElem?_concat_cases.mpr (.inr place), .refl found⟩
  | collect _ _ aloft => exact becomes_set aloft rfl ⟨rfl, id, fun _ => ⟨_, rfl⟩⟩ place
  | leave _ _ aloft => exact becomes_set aloft rfl ⟨rfl, id, fun _ => ⟨_, rfl⟩⟩ place
  | abandon _ _ aloft open_ =>
      rw [abandon_eq (by exact (accounted.sound_of_getElem? aloft).ctxDone_eq)]
      exact becomes_set aloft rfl (.of_open open_ rfl fun _ => rfl) place
  | writeGeolocation =>
      unfold State.writeGeolocation
      split <;> exact unchanged rfl
  | writeASN =>
      unfold State.writeASN
      split <;> exact unchanged rfl
  | take aloft queued =>
      have open_ := accounted.terminal_eq_false aloft (by rw [queued]; rfl)
      exact becomes_set aloft rfl (.of_open open_ rfl id) place
  | giveUp aloft queued =>
      have open_ := accounted.terminal_eq_false aloft (by rw [queued]; rfl)
      unfold State.giveUp
      rw [GeoIPFlight.releaseQueueLocked_eq]
      exact becomes_set aloft rfl (.of_open open_ rfl id) place
  | start aloft admitted =>
      have open_ := accounted.terminal_eq_false aloft (by rw [admitted]; rfl)
      unfold State.start
      rw [GeoIPFlight.releaseQueueLocked_eq]
      dsimp only
      split <;> exact becomes_set aloft rfl (.of_open open_ rfl id) place
  | callProvider aloft calling =>
      have open_ := accounted.terminal_eq_false aloft (by rw [calling]; rfl)
      exact becomes_set aloft rfl (.of_open open_ rfl id) place
  | handBack aloft leaving =>
      have open_ := accounted.terminal_eq_false aloft (by rw [leaving]; rfl)
      exact becomes_set aloft rfl (.of_open open_ rfl id) place
  | complete aloft completing now =>
      have sound := accounted.sound_of_getElem? aloft
      have open_ := accounted.terminal_eq_false aloft (by rw [completing]; rfl)
      obtain ⟨_, _, _, after_eq⟩ := completeFlight_cases client _ _ now open_
        (accounted.unleased aloft (by rw [completing]; rfl)) sound.ctxDone_eq
      rw [after_eq]
      exact becomes_set aloft rfl (.of_open open_ rfl id) place

end State

/-! ## Every run -/

theorem boundedGeoIPLimit_pos {value fallback hardMaximum : Int} (fallback_pos : 0 < fallback)
    (hardMaximum_pos : 0 < hardMaximum) : 0 < boundedGeoIPLimit value fallback hardMaximum := by
  unfold boundedGeoIPLimit
  split
  · exact fallback_pos
  · split
    · exact hardMaximum_pos
    · omega

theorem maxActive_pos (config : GeoIPCacheConfig) :
    0 < (newIPWhoIsLookupWithConfig config).maxActive :=
  boundedGeoIPLimit_pos (by decide) (by decide)

theorem maxQueued_pos (config : GeoIPCacheConfig) :
    0 < (newIPWhoIsLookupWithConfig config).maxQueued :=
  boundedGeoIPLimit_pos (by decide) (by decide)

section Runs

variable {config : GeoIPCacheConfig} {heap : Heap} {state later : State}

theorem accounted_of_reachable (reachable :
      Reachable (State.next (newIPWhoIsLookupWithConfig config)) (State.initial heap) state) :
    state.Accounted (newIPWhoIsLookupWithConfig config) :=
  reachable.invariant _ (.initial heap (maxQueued_pos config).le (maxActive_pos config).le)
    fun _ _ _ accounted step => accounted.step (.of_next step)

/-- In the states after it an abandoned flight is abandoned. -/
theorem abandoned_of_reachable {client : IPWhoIsLookup} (accounted : state.Accounted client)
    {id : Nat} {flight : GeoIPFlight} (place : state.flights[id]? = some flight)
    (abandoned : flight.abandoned = true) (reachable : Reachable (State.next client) state later) :
    later.Accounted client ∧
      ∃ found, later.flights[id]? = some found ∧ found.abandoned = true := by
  refine reachable.invariant
    (fun now => now.Accounted client ∧
      ∃ found, now.flights[id]? = some found ∧ found.abandoned = true)
    ⟨accounted, flight, place, abandoned⟩ ?_
  rintro middle action after ⟨middleAccounted, found, middlePlace, middleAbandoned⟩ step
  obtain ⟨next, nextPlace, change⟩ := State.becomes middleAccounted (.of_next step) middlePlace
  exact ⟨middleAccounted.step (.of_next step), next, nextPlace, change.abandoned middleAbandoned⟩

theorem State.Accounted.unjoined {client : IPWhoIsLookup} (accounted : state.Accounted client)
    {id : Nat} {flight : GeoIPFlight} (place : state.flights[id]? = some flight)
    (abandoned : flight.abandoned = true) {caller : Caller} (member : caller ∈ state.callers) :
    caller.call ≠ .waiting id := by
  intro waiting
  obtain ⟨index, here⟩ := List.mem_iff_getElem?.mp member
  have present := (accounted.of_waiting here waiting place).1
  rw [abandoned] at present
  cases present

end Runs

/-- The accounts of flights in one state. -/
structure FlightAccounting (client : IPWhoIsLookup) (state : State) : Prop where
  queued_eq : state.queued = state.flights.countP GeoIPFlight.queueLease
  queued_le : state.queued ≤ client.maxQueued
  calls_le : ((state.flights.countP fun flight => flight.stage.isCalling) : Int) ≤
    client.maxActive
  lease_once : ∀ flight ∈ state.flights, flight.leases ≤ 1 ∧
    flight.leasesReturned + flight.queueLease.toNat = flight.leases
  token_once : ∀ flight ∈ state.flights, flight.tokens ≤ 1 ∧
    flight.tokensReturned + flight.stage.holdsToken.toNat = flight.tokens
  given_back : ∀ flight ∈ state.flights, flight.terminal = true →
    flight.leasesReturned = flight.leases ∧ flight.tokensReturned = flight.tokens
  unblocked : ∀ flight ∈ state.flights, flight.stage.holdsToken = true → 0 < state.active
  current_unique : ∀ (first second : Nat) (flight other : GeoIPFlight), state.flights[first]? = some flight →
    state.flights[second]? = some other → flight.address = other.address →
    flight.isCurrent = true → other.isCurrent = true → first = second
  closes_eq : ∀ flight ∈ state.flights, flight.closes = flight.terminal.toNat
  waiters_eq : ∀ (id : Nat) (flight : GeoIPFlight), state.flights[id]? = some flight →
    flight.waiters = (state.waits id : Int)
  waiters_nonneg : ∀ flight ∈ state.flights, 0 ≤ flight.waiters

theorem State.Accounted.flightAccounting {client : IPWhoIsLookup} {state : State}
    (accounted : state.Accounted client) : FlightAccounting client state where
  queued_eq := accounted.queued_eq
  queued_le := accounted.queued_le
  calls_le := by
    have fewer : (state.flights.countP fun flight => flight.stage.isCalling) ≤
        state.flights.countP fun flight => flight.stage.holdsToken := by
      apply List.countP_mono_left
      intro flight _ calling
      cases stage : flight.stage <;> rw [stage] at calling <;> first | rfl | cases calling
    have held := accounted.active_eq
    have bounded := accounted.active_le
    omega
  lease_once flight member :=
    ⟨(accounted.sound flight member).leases_le, (accounted.sound flight member).leases_eq⟩
  token_once flight member :=
    ⟨(accounted.sound flight member).tokens_le, (accounted.sound flight member).tokens_eq⟩
  given_back flight member closed := by
    have sound := accounted.sound flight member
    have ended := sound.terminal_eq.symm.trans closed
    have leases_eq := sound.leases_eq
    have tokens_eq := sound.tokens_eq
    have lease_stage := sound.lease_stage
    cases stage : flight.stage with
    | ended =>
        rw [stage] at tokens_eq lease_stage
        cases lease : flight.queueLease with
        | true => exact absurd (lease_stage lease) Bool.false_ne_true
        | false =>
            rw [lease] at leases_eq
            exact ⟨leases_eq, tokens_eq⟩
    | queued | admitted | calling | leaving | completing =>
        rw [stage] at ended
        cases ended
  unblocked flight member holds := by
    have held := accounted.active_eq
    have positive : 0 < state.flights.countP fun flight => flight.stage.holdsToken :=
      List.countP_pos_iff.mpr ⟨flight, member, holds⟩
    omega
  current_unique first second flight other firstPlace secondPlace same firstCurrent
      secondCurrent := by
    have holder := (accounted.current_iff flight.address first).mpr
      ⟨flight, firstPlace, rfl, firstCurrent⟩
    have rival := (accounted.current_iff flight.address second).mpr
      ⟨other, secondPlace, same.symm, secondCurrent⟩
    exact Option.some.inj (holder.symm.trans rival)
  closes_eq flight member := (accounted.sound flight member).closes_eq
  waiters_eq := accounted.waiters_eq
  waiters_nonneg flight member := by
    obtain ⟨id, place⟩ := List.mem_iff_getElem?.mp member
    have counted := accounted.waiters_eq id flight place
    omega

/-- While a flight is not complete, the goroutine of some flight can go on. -/
theorem State.Accounted.goes_on {client : IPWhoIsLookup} {state : State}
    (accounted : state.Accounted client) (positive : 0 < client.maxActive)
    {open_ : GeoIPFlight} (member : open_ ∈ state.flights) (unended : open_.terminal = false) :
    ∃ id flight action, state.flights[id]? = some flight ∧
      (state.flightNext client id flight action).isSome = true := by
  by_cases holds : ∃ flight ∈ state.flights, flight.stage.holdsToken = true
  · obtain ⟨flight, here, held⟩ := holds
    obtain ⟨id, place⟩ := List.mem_iff_getElem?.mp here
    have nonempty := accounted.flightAccounting.unblocked flight here held
    cases stage : flight.stage with
    | admitted => exact ⟨id, flight, .start id, place, by simp [flightNext, stage]⟩
    | calling => exact ⟨id, flight, .callProvider id none, place, by simp [flightNext, stage]⟩
    | leaving metadata err =>
        exact ⟨id, flight, .handBack id, place, by simp [flightNext, stage, nonempty]⟩
    | queued | completing | ended =>
        rw [stage] at held
        cases held
  · obtain ⟨id, place⟩ := List.mem_iff_getElem?.mp member
    have idle : state.active = 0 := by
      have none_holds : (state.flights.countP fun flight => flight.stage.holdsToken) = 0 :=
        List.countP_eq_zero.mpr fun flight here held => holds ⟨flight, here, held⟩
      rw [accounted.active_eq, none_holds]
      rfl
    cases stage : open_.stage with
    | queued =>
        exact ⟨id, open_, .take id, place, by simp [flightNext, stage, idle, positive]⟩
    | completing metadata err =>
        exact ⟨id, open_, .complete id ⟨0, 0⟩, place, by simp [flightNext, stage]⟩
    | ended =>
        rw [(accounted.sound open_ member).terminal_eq, stage] at unended
        cases unended
    | admitted | calling | leaving =>
        exact absurd ⟨open_, member, by rw [stage]; rfl⟩ holds

/-- In every run the accounts of flights are right, a goroutine can go on as long
as a flight is not complete, and no lookup waits for a flight from the moment on
at which its last waiter abandoned it. -/
theorem flights_accounted (config : GeoIPCacheConfig) (heap : Heap) {state : State}
    (reachable : Reachable (State.next (newIPWhoIsLookupWithConfig config)) (State.initial heap)
      state) :
    FlightAccounting (newIPWhoIsLookupWithConfig config) state ∧
      ((∃ flight ∈ state.flights, flight.terminal = false) →
        ∃ id flight action, state.flights[id]? = some flight ∧
          (state.flightNext (newIPWhoIsLookupWithConfig config) id flight action).isSome = true) ∧
      ∀ (id : Nat) flight, state.flights[id]? = some flight → flight.abandoned = true →
        ∀ later, Reachable (State.next (newIPWhoIsLookupWithConfig config)) state later →
          ∀ caller ∈ later.callers, caller.call ≠ .waiting id := by
  have accounted := accounted_of_reachable reachable
  refine ⟨accounted.flightAccounting, ?_, ?_⟩
  · rintro ⟨flight, member, unended⟩
    exact accounted.goes_on (maxActive_pos config) member unended
  · intro id flight place abandoned later onwards caller member
    obtain ⟨laterAccounted, found, laterPlace, stays⟩ :=
      abandoned_of_reachable accounted place abandoned onwards
    exact laterAccounted.unjoined laterPlace stays member

/-- One token and one queue lease, and a lookup that is cancelled while its
flight waits for the token: the flight gives its lease back, a second flight of
the address takes off, and both come to their ends. -/
def cancelledRun : List Action :=
  [.begin [1, 1, 1, 1] none ⟨0, 0⟩, .begin [8, 8, 8, 8] none ⟨0, 0⟩, .enter 0, .enter 1,
    .done 1 .canceled, .wake 1, .begin [8, 8, 8, 8] none ⟨1, 0⟩, .enter 2, .start 0,
    .callProvider 0 none, .handBack 0, .giveUp 1, .take 2, .complete 0 ⟨2, 0⟩, .wake 0,
    .complete 1 ⟨2, 0⟩, .start 2, .callProvider 2 (some (.zero, none)), .handBack 2,
    .complete 2 ⟨3, 0⟩, .wake 2]

def emptyHeap : Heap :=
  ⟨fun _ => ⟨[], [], [], [], .ofInt 0, .ofInt 0⟩, fun _ => ⟨0, []⟩, 0⟩

theorem flights_accounted_cancelledRun :
    ∃ state, execute (State.next (newIPWhoIsLookupWithConfig ⟨1, 60, 1, 1⟩))
        (State.initial emptyHeap) cancelledRun = some state ∧
      state.flights.map GeoIPFlight.abandoned = [false, true, false] ∧
      FlightAccounting (newIPWhoIsLookupWithConfig ⟨1, 60, 1, 1⟩) state := by
  refine ⟨_, rfl, by decide, ?_⟩
  exact (flights_accounted ⟨1, 60, 1, 1⟩ emptyHeap
    (@Reachable.of_execute _ _ _ _ _ cancelledRun rfl)).1

end CheckNetwork.Lookup
