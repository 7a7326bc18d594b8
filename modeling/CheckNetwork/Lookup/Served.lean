import CheckNetwork.Lookup.Flights

/-!
# What lookups are given

Cells of the heap are either kept by the client, in its cache and its flights,
or were handed to a caller, so that what a caller writes is never read again.
Metadata in the cache and in the hands of callers was fetched for the address
that they belong to.
-/

namespace CheckNetwork.Lookup

open Collection Go

/-- The outcome that a goroutine carries. -/
def Stage.outcome : Stage → Option (Held × Option GeoIPError)
  | leaving metadata err | completing metadata err => some (metadata, err)
  | _ => none

/-- Fetched metadata as its flight records it. -/
def IPMetadata.arrived {G A : Type} (ttl : Int) (now : Time) (metadata : IPMetadata G A) :
    IPMetadata G A :=
  (metadata.stamped ttl now).detailed ttl now

def GeoIPFlight.refs (flight : GeoIPFlight) : List Ref :=
  flight.metadata.refs ++ flight.stage.outcome.toList.flatMap fun outcome => outcome.1.refs

namespace State

/-- Cells that the client may read again. -/
def Kept (state : State) (ref : Ref) : Prop :=
  (∃ address entry, state.cache.lookup address = some entry ∧ ref ∈ entry.metadata.refs) ∨
    ∃ flight ∈ state.flights, ref ∈ flight.refs

/-- Cells that a caller can write to. -/
def Handed (state : State) (ref : Ref) : Prop :=
  ∃ caller ∈ state.callers, ∃ metadata err seen, caller.call = .returned metadata err seen ∧
    ref ∈ metadata.refs

/-- A flight of an address that was complete with metadata from the provider. -/
structure Fetched (flights : List GeoIPFlight) (address : GoString) (value : Seen)
    (flight : GeoIPFlight) : Prop where
  aloft : flight ∈ flights
  address_eq : flight.address = address
  terminal : flight.terminal = true
  err_eq : flight.err = none
  fetched_eq : flight.fetched = some (value, none)

/-- A cache entry comes from a flight that was current and not abandoned, and
passes the check of metadata. -/
def Cached (client : IPWhoIsLookup) (state : State) (address : GoString)
    (entry : GeoIPCacheEntry) : Prop :=
  ∃ flight value now, Fetched state.flights address value flight ∧ flight.wasCurrent = true ∧
    flight.abandoned = false ∧
    state.heap.read entry.metadata = value.arrived client.cacheTTL now ∧
    validIPMetadata (value.arrived client.cacheTTL now) = true ∧
    entry.expiresAt = now.add client.cacheTTL

/-- What a caller saw is what the provider gave for an address, perhaps served
from the cache. -/
def Answered (client : IPWhoIsLookup) (state : State) (address : GoString) (seen : Seen) : Prop :=
  ∃ flight value now, Fetched state.flights address value flight ∧
    (seen = value.arrived client.cacheTTL now ∨
      seen = (value.arrived client.cacheTTL now).fromCache)

/-- A flight carries and keeps what was fetched for it. -/
structure Faithful (client : IPWhoIsLookup) (heap : Heap) (flight : GeoIPFlight) : Prop where
  carried : ∀ metadata, flight.stage.outcome = some (metadata, none) →
    flight.fetched = some (heap.read metadata, none)
  settled : flight.terminal = true → flight.err = none → ∃ value now,
    flight.fetched = some (value, none) ∧
      heap.read flight.metadata = value.arrived client.cacheTTL now

structure Served (client : IPWhoIsLookup) (state : State) : Prop where
  kept_lt : ∀ ref, state.Kept ref → ref < state.heap.next
  handed_lt : ∀ ref, state.Handed ref → ref < state.heap.next
  apart : ∀ ref, state.Kept ref → ¬ state.Handed ref
  faithful : ∀ flight ∈ state.flights, Faithful client state.heap flight
  named : ∀ flight ∈ state.flights, flight.address ≠ []
  cached : ∀ address entry, state.cache.lookup address = some entry →
    state.Cached client address entry
  answered : ∀ caller ∈ state.callers, ∀ metadata seen,
    caller.call = .returned metadata none seen → state.Answered client caller.address seen
  boarded : ∀ caller ∈ state.callers, ∀ id, caller.call = .waiting id →
    ∃ flight, state.flights[id]? = some flight ∧ flight.address = caller.address
  stamped : Store.Stamped GeoIPCacheEntry.lastAccess state.accessSequence state.cache
  size_le : (Store.size state.cache : Int) ≤ client.cacheMaxEntries

variable {client : IPWhoIsLookup} {state after : State} {index id : Nat} {caller : Caller}
  {flight new : GeoIPFlight} {call : Call} {heap : Heap} {address : GoString}

/-- What flights are, other than in their waiters, stays recorded once they are
complete. -/
theorem Fetched.mono {value : Seen} (fetched : Fetched state.flights address value flight)
    (grows : ∀ flight ∈ state.flights, ∃ next ∈ after.flights, flight.Becomes next) :
    ∃ next, Fetched after.flights address value next ∧ next.wasCurrent = flight.wasCurrent ∧
      next.abandoned = flight.abandoned := by
  obtain ⟨next, aloft, change⟩ := grows flight fetched.aloft
  obtain ⟨waiters, rfl⟩ := change.settled fetched.terminal
  exact ⟨_, ⟨aloft, fetched.address_eq, fetched.terminal, fetched.err_eq, fetched.fetched_eq⟩,
    rfl, rfl⟩

theorem Cached.mono {entry : GeoIPCacheEntry} (cached : state.Cached client address entry)
    (grows : ∀ flight ∈ state.flights, ∃ next ∈ after.flights, flight.Becomes next)
    (read_eq : after.heap.read entry.metadata = state.heap.read entry.metadata) :
    after.Cached client address entry := by
  obtain ⟨flight, value, now, fetched, current, present, seen, valid, expires⟩ := cached
  obtain ⟨next, fetched', current_eq, abandoned_eq⟩ := fetched.mono grows
  exact ⟨next, value, now, fetched', current_eq.trans current, abandoned_eq.trans present,
    read_eq.trans seen, valid, expires⟩

theorem Answered.mono {seen : Seen} (answered : state.Answered client address seen)
    (grows : ∀ flight ∈ state.flights, ∃ next ∈ after.flights, flight.Becomes next) :
    after.Answered client address seen := by
  obtain ⟨flight, value, now, fetched, looks⟩ := answered
  obtain ⟨next, fetched', -, -⟩ := fetched.mono grows
  exact ⟨next, value, now, fetched', looks⟩

theorem grows_refl (flights_eq : after.flights = state.flights) :
    ∀ flight ∈ state.flights, ∃ next ∈ after.flights, flight.Becomes next :=
  fun flight member => ⟨flight, flights_eq ▸ member, .refl flight⟩

theorem Kept.of_entry {entry : GeoIPCacheEntry} (found : state.cache.lookup address = some entry)
    {ref : Ref} (member : ref ∈ entry.metadata.refs) : state.Kept ref :=
  .inl ⟨address, entry, found, member⟩

theorem Kept.of_metadata (aloft : flight ∈ state.flights) {ref : Ref}
    (member : ref ∈ flight.metadata.refs) : state.Kept ref :=
  .inr ⟨flight, aloft, List.mem_append_left _ member⟩

theorem Kept.of_outcome (aloft : flight ∈ state.flights) {metadata : Held}
    {err : Option GeoIPError} (outcome : flight.stage.outcome = some (metadata, err)) {ref : Ref}
    (member : ref ∈ metadata.refs) : state.Kept ref := by
  refine .inr ⟨flight, aloft, ?_⟩
  rw [GeoIPFlight.refs, outcome]
  exact List.mem_append_right _ (by simpa using member)

namespace Served

theorem initial (heap : Heap) (positive : 0 ≤ client.cacheMaxEntries) :
    (State.initial heap).Served client where
  kept_lt _ kept := by
    rcases kept with ⟨_, _, found, _⟩ | ⟨_, found, _⟩
    · cases found
    · cases found
  handed_lt _ handed := by
    obtain ⟨_, member, _⟩ := handed
    cases member
  apart _ kept := by
    rcases kept with ⟨_, _, found, _⟩ | ⟨_, found, _⟩
    · cases found
    · cases found
  faithful _ member := absurd member List.not_mem_nil
  named _ member := absurd member List.not_mem_nil
  cached _ _ found := by cases found
  answered _ member := absurd member List.not_mem_nil
  boarded _ member := absurd member List.not_mem_nil
  stamped := .empty
  size_le := positive

/-! ## The heap -/

/-- The heap may change where the client does not read. -/
theorem reheap (served : state.Served client) (next_le : state.heap.next ≤ heap.next)
    (geolocation_eq : ∀ ref, state.Kept ref → heap.geolocation ref = state.heap.geolocation ref)
    (asn_eq : ∀ ref, state.Kept ref → heap.asn ref = state.heap.asn ref) :
    ({ state with heap := heap } : State).Served client := by
  have read_eq : ∀ metadata : Held, (∀ ref ∈ metadata.refs, state.Kept ref) →
      heap.read metadata = state.heap.read metadata := by
    intro metadata kept
    exact Heap.read_congr (fun ref member => geolocation_eq ref (kept ref member))
      fun ref member => asn_eq ref (kept ref member)
  exact {
    kept_lt := fun ref kept => (served.kept_lt ref kept).trans_le next_le
    handed_lt := fun ref handed => (served.handed_lt ref handed).trans_le next_le
    apart := served.apart
    faithful := fun flight member => {
      carried := fun metadata outcome => by
        have same := read_eq metadata fun ref here => .of_outcome member outcome here
        exact same ▸ (served.faithful flight member).carried metadata outcome
      settled := fun closed ok => by
        have same := read_eq flight.metadata fun ref here => .of_metadata member here
        exact same ▸ (served.faithful flight member).settled closed ok }
    named := served.named
    cached := fun address entry found => (served.cached address entry found).mono (grows_refl rfl)
      (read_eq entry.metadata fun ref here => .of_entry found here)
    answered := served.answered
    boarded := served.boarded
    stamped := served.stamped
    size_le := served.size_le }

theorem grow (served : state.Served client) (grown : state.heap.Extends heap) :
    ({ state with heap := heap } : State).Served client :=
  served.reheap grown.next_le
    (fun ref kept => grown.geolocation_eq ref (served.kept_lt ref kept))
    fun ref kept => grown.asn_eq ref (served.kept_lt ref kept)

/-! ## Callers -/

/-- What a caller may have after a step: metadata in cells that the client does
not read, fetched for its address, or a place on a flight of its address. -/
structure Entitled (client : IPWhoIsLookup) (state : State) (address : GoString) (call : Call) :
    Prop where
  own : ∀ metadata err seen, call = .returned metadata err seen → ∀ ref ∈ metadata.refs,
    ref < state.heap.next ∧ ¬ state.Kept ref
  answered : ∀ metadata seen, call = .returned metadata none seen →
    state.Answered client address seen
  boarded : ∀ id, call = .waiting id →
    ∃ flight, state.flights[id]? = some flight ∧ flight.address = address

theorem entitled (served : state.Served client) (member : caller ∈ state.callers) :
    Entitled client state caller.address caller.call where
  own metadata err seen returned ref here := by
    have handed : state.Handed ref := ⟨caller, member, metadata, err, seen, returned, here⟩
    exact ⟨served.handed_lt ref handed, fun kept => served.apart ref kept handed⟩
  answered := served.answered caller member
  boarded := served.boarded caller member

theorem Entitled.error (address : GoString) (err : GeoIPError) (seen : Seen) :
    Entitled client state address (.returned .zero (some err) seen) where
  own _ _ _ returned ref here := by
    cases returned
    cases here
  answered _ _ returned := by cases returned
  boarded _ waiting := by cases waiting

theorem Entitled.entering (address : GoString) (now : Time) :
    Entitled client state address (.entering now) where
  own _ _ _ returned := by cases returned
  answered _ _ returned := by cases returned
  boarded _ waiting := by cases waiting

theorem Entitled.aboard (place : state.flights[id]? = some flight) :
    Entitled client state flight.address (.waiting id) where
  own _ _ _ returned := by cases returned
  answered _ _ returned := by cases returned
  boarded _ waiting := by
    cases waiting
    exact ⟨flight, place, rfl⟩

/-- The callers change, and each has what it may have. -/
theorem reread (served : state.Served client) {callers : List Caller}
    (entitled : ∀ caller ∈ callers, Entitled client state caller.address caller.call) :
    ({ state with callers := callers } : State).Served client where
  kept_lt := served.kept_lt
  handed_lt ref handed := by
    obtain ⟨caller, member, metadata, err, seen, returned, here⟩ := handed
    exact ((entitled caller member).own metadata err seen returned ref here).1
  apart ref kept handed := by
    obtain ⟨caller, member, metadata, err, seen, returned, here⟩ := handed
    exact ((entitled caller member).own metadata err seen returned ref here).2 kept
  faithful := served.faithful
  named := served.named
  cached := served.cached
  answered caller member := (entitled caller member).answered
  boarded caller member := (entitled caller member).boarded
  stamped := served.stamped
  size_le := served.size_le

theorem setCall (served : state.Served client)
    (may : Entitled client state caller.address call) :
    (state.setCall index caller call).Served client := by
  apply served.reread
  intro other member
  rcases List.mem_or_eq_of_mem_set member with old | rfl
  · exact served.entitled old
  · exact may

/-! ## Flights -/

/-- One flight changes.  Its cells are not those of a caller, and it is faithful. -/
theorem setFlight (served : state.Served client) (aloft : state.flights[id]? = some flight)
    (change : flight.Becomes new)
    (own : ∀ ref ∈ new.refs, ref < state.heap.next ∧ ¬ state.Handed ref)
    (faithful : Faithful client state.heap new) : (state.setFlight id new).Served client := by
  have here : flight ∈ state.flights := List.mem_of_getElem? aloft
  have grows : ∀ flight ∈ state.flights, ∃ next ∈ (state.setFlight id new).flights,
      flight.Becomes next := by
    intro found member
    obtain ⟨other, place⟩ := List.mem_iff_getElem?.mp member
    obtain ⟨next, nextPlace, nextChange⟩ := @becomes_set state (state.setFlight id new) id other
      flight new found aloft rfl change place
    exact ⟨next, List.mem_of_getElem? nextPlace, nextChange⟩
  have safe : ∀ ref, (state.setFlight id new).Kept ref →
      ref < state.heap.next ∧ ¬ state.Handed ref := by
    rintro ref (⟨address, entry, found, member⟩ | ⟨found, foundMember, member⟩)
    · have kept : state.Kept ref := .inl ⟨address, entry, found, member⟩
      exact ⟨served.kept_lt ref kept, served.apart ref kept⟩
    · rcases List.mem_or_eq_of_mem_set foundMember with old | rfl
      · have kept : state.Kept ref := .inr ⟨found, old, member⟩
        exact ⟨served.kept_lt ref kept, served.apart ref kept⟩
      · exact own ref member
  exact {
    kept_lt := fun ref kept => (safe ref kept).1
    handed_lt := served.handed_lt
    apart := fun ref kept => (safe ref kept).2
    faithful := fun found member => by
      rcases List.mem_or_eq_of_mem_set member with old | rfl
      · exact served.faithful found old
      · exact faithful
    named := fun found member => by
      rcases List.mem_or_eq_of_mem_set member with old | rfl
      · exact served.named found old
      · rw [change.address_eq]
        exact served.named flight here
    cached := fun address entry found => (served.cached address entry found).mono grows rfl
    answered := fun caller member metadata seen returned =>
      (served.answered caller member metadata seen returned).mono grows
    boarded := fun caller member other waiting => by
      obtain ⟨found, place, address_eq⟩ := served.boarded caller member other waiting
      obtain ⟨next, nextPlace, nextChange⟩ := @becomes_set state (state.setFlight id new) id other
        flight new found aloft rfl change place
      exact ⟨next, nextPlace, nextChange.address_eq.trans address_eq⟩
    stamped := served.stamped
    size_le := served.size_le }

/-- A flight may change in what is neither its address nor what it carries. -/
theorem refit (served : state.Served client) (aloft : state.flights[id]? = some flight)
    (change : flight.Becomes new) (metadata_eq : new.metadata = flight.metadata)
    (err_eq : new.err = flight.err) (terminal_eq : new.terminal = flight.terminal)
    (fetched_eq : new.fetched = flight.fetched)
    (outcome : ∀ metadata err, new.stage.outcome = some (metadata, err) →
      flight.stage.outcome = some (metadata, err) ∨ (metadata = .zero ∧ err ≠ none)) :
    (state.setFlight id new).Served client := by
  have here : flight ∈ state.flights := List.mem_of_getElem? aloft
  apply served.setFlight aloft change
  · intro ref member
    have kept : state.Kept ref := by
      rcases List.mem_append.mp member with kept | carried
      · rw [metadata_eq] at kept
        exact .of_metadata here kept
      · obtain ⟨⟨metadata, err⟩, carries, inside⟩ := List.mem_flatMap.mp carried
        rcases outcome metadata err (Option.mem_toList.mp carries) with same | ⟨rfl, -⟩
        · exact .of_outcome here same inside
        · cases inside
    exact ⟨served.kept_lt ref kept, served.apart ref kept⟩
  · constructor
    · intro metadata carries
      rcases outcome metadata none carries with same | ⟨-, impossible⟩
      · rw [fetched_eq]
        exact (served.faithful flight here).carried metadata same
      · exact absurd rfl impossible
    · rw [terminal_eq, err_eq, fetched_eq, metadata_eq]
      exact (served.faithful flight here).settled

/-- A new flight has an address and nothing else. -/
theorem concat (served : state.Served client) (named : new.address ≠ [])
    (bare : new.refs = []) (faithful : Faithful client state.heap new) :
    ({ state with flights := state.flights ++ [new] } : State).Served client := by
  have grows : ∀ flight ∈ state.flights, ∃ next ∈ state.flights ++ [new],
      flight.Becomes next :=
    fun flight member => ⟨flight, List.mem_append_left _ member, .refl flight⟩
  have kept_iff : ∀ ref, ({ state with flights := state.flights ++ [new] } : State).Kept ref →
      state.Kept ref := by
    rintro ref (cached | ⟨found, foundMember, member⟩)
    · exact .inl cached
    · rcases List.mem_append.mp foundMember with old | fresh
      · exact .inr ⟨found, old, member⟩
      · rw [List.mem_singleton.mp fresh, bare] at member
        cases member
  exact {
    kept_lt := fun ref kept => served.kept_lt ref (kept_iff ref kept)
    handed_lt := served.handed_lt
    apart := fun ref kept => served.apart ref (kept_iff ref kept)
    faithful := fun found member => by
      rcases List.mem_append.mp member with old | fresh
      · exact served.faithful found old
      · rw [List.mem_singleton.mp fresh]
        exact faithful
    named := fun found member => by
      rcases List.mem_append.mp member with old | fresh
      · exact served.named found old
      · rw [List.mem_singleton.mp fresh]
        exact named
    cached := fun address entry found => (served.cached address entry found).mono grows rfl
    answered := fun caller member metadata seen returned =>
      (served.answered caller member metadata seen returned).mono grows
    boarded := fun caller member other waiting => by
      obtain ⟨found, place, address_eq⟩ := served.boarded caller member other waiting
      exact ⟨found, getElem?_concat_cases.mpr (.inr place), address_eq⟩
    stamped := served.stamped
    size_le := served.size_le }

/-! ## The cache -/

/-- The cache changes.  A new entry is one that may be cached, in cells that no
caller has. -/
theorem recache (served : state.Served client) {cache : Store GoString GeoIPCacheEntry}
    {sequence : Nat}
    (entries : ∀ address entry, cache.lookup address = some entry →
      state.Cached client address entry ∧
        ∀ ref ∈ entry.metadata.refs, ref < state.heap.next ∧ ¬ state.Handed ref)
    (stamped : Store.Stamped GeoIPCacheEntry.lastAccess sequence cache)
    (size_le : (Store.size cache : Int) ≤ client.cacheMaxEntries) :
    ({ state with accessSequence := sequence, cache := cache } : State).Served client := by
  have safe : ∀ ref, ({ state with accessSequence := sequence, cache := cache } : State).Kept ref →
      ref < state.heap.next ∧ ¬ state.Handed ref := by
    rintro ref (⟨address, entry, found, member⟩ | aloft)
    · exact (entries address entry found).2 ref member
    · exact ⟨served.kept_lt ref (.inr aloft), served.apart ref (.inr aloft)⟩
  exact {
    kept_lt := fun ref kept => (safe ref kept).1
    handed_lt := served.handed_lt
    apart := fun ref kept => (safe ref kept).2
    faithful := served.faithful
    named := served.named
    cached := fun address entry found => (entries address entry found).1
    answered := served.answered
    boarded := served.boarded
    stamped := stamped
    size_le := size_le }

/-- What is in the cache may stay there. -/
theorem entry_kept (served : state.Served client) {entry : GeoIPCacheEntry}
    (found : state.cache.lookup address = some entry) :
    state.Cached client address entry ∧
      ∀ ref ∈ entry.metadata.refs, ref < state.heap.next ∧ ¬ state.Handed ref :=
  ⟨served.cached address entry found, fun ref member =>
    have kept : state.Kept ref := .of_entry found member
    ⟨served.kept_lt ref kept, served.apart ref kept⟩⟩

theorem uncache (served : state.Served client) {now : Time} {cache : Store GoString GeoIPCacheEntry}
    (unserved : Unserved state address now cache) :
    ({ state with cache := cache } : State).Served client := by
  cases unserved with
  | absent => exact served
  | expired =>
      apply served.recache
      · intro other entry found
        exact served.entry_kept (Store.lookup_erase_eq_some.mp found).2
      · exact served.stamped.erase _
      · have fewer := Store.size_erase_le state.cache address
        have bounded := served.size_le
        omega

end Served
end State
end CheckNetwork.Lookup
