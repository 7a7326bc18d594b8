import CheckNetwork.Lookup.Served

/-!
# The cache over a run

Every step keeps what lookups are given in order.  The cache stays within its
size, serves no entry at or past its expiry, and makes room by giving up the
entry that was not used for the longest time.
-/

namespace CheckNetwork.Lookup

open Collection Diagnostic Go Transition

namespace State

variable {client : IPWhoIsLookup} {state after : State} {index id : Nat} {caller : Caller}
  {flight new : GeoIPFlight} {address : GoString}

/-! ## The oldest entry -/

/-- Over keys that are not empty the loop finds the entry with the least number. -/
theorem oldestEntry_eq {cache : Store GoString GeoIPCacheEntry}
    (named : ∀ entry ∈ cache.entries, entry.1 ≠ []) {key : GoString}
    (stalest : Store.stalest GeoIPCacheEntry.lastAccess cache = some key) :
    (oldestEntry cache).1 = key := by
  suffices loop : ∀ entries : List (Sigma fun _ : GoString => GeoIPCacheEntry),
      (∀ entry ∈ entries, entry.1 ≠ []) →
        entries.foldl (fun oldest entry =>
          if oldest.1 = [] ∨ entry.2.lastAccess < oldest.2 then (entry.1, entry.2.lastAccess)
          else oldest) (([], 0) : GoString × Nat) =
        (entries.argmin fun entry => entry.2.lastAccess).elim ([], 0)
          fun entry => (entry.1, entry.2.lastAccess) by
    obtain ⟨entry, least, rfl⟩ := Option.map_eq_some_iff.mp stalest
    rw [oldestEntry, loop cache.entries named, least]
    rfl
  intro entries named
  induction entries using List.reverseRecOn with
  | nil => rfl
  | append_singleton entries entry ih =>
      rw [List.foldl_append, ih fun other member => named other (List.mem_append_left _ member),
        List.argmin_concat]
      cases least : entries.argmin fun entry => entry.2.lastAccess with
      | none => rfl
      | some oldest =>
          have oldest_ne := named oldest (List.mem_append_left _ (List.argmin_mem least))
          simp only [List.foldl_cons, List.foldl_nil, Option.elim_some, oldest_ne, false_or]
          split <;> rfl

/-- The entries that have not expired. -/
def live (state : State) (now : Time) : Store GoString GeoIPCacheEntry :=
  Store.keep (fun _ entry => now.before entry.expiresAt) state.cache

/-- Room has to be made for an address. -/
def Crowded (client : IPWhoIsLookup) (state : State) (address : GoString) (now : Time) : Prop :=
  address ∉ state.live now ∧ client.cacheMaxEntries ≤ Store.size (state.live now)

/-- An entry no live entry is older than. -/
def Oldest (state : State) (now : Time) (entry : GeoIPCacheEntry) : Prop :=
  ∀ key rival, (state.live now).lookup key = some rival → entry.lastAccess ≤ rival.lastAccess

theorem lookup_live {now : Time} {key : GoString} {entry : GeoIPCacheEntry} :
    (state.live now).lookup key = some entry ↔
      state.cache.lookup key = some entry ∧ now.before entry.expiresAt = true := by
  rw [live, Store.lookup_keep, Option.filter_eq_some_iff]

/-- The cache without the entry that gives room. -/
def room (client : IPWhoIsLookup) (state : State) (address : GoString) (now : Time) :
    Store GoString GeoIPCacheEntry :=
  if address ∉ state.live now ∧ client.cacheMaxEntries ≤ Store.size (state.live now) then
    (state.live now).erase (oldestEntry (state.live now)).1
  else state.live now

namespace Served

theorem nonempty_of_lookup (served : state.Served client) {entry : GeoIPCacheEntry}
    (found : state.cache.lookup address = some entry) : address ≠ [] := by
  obtain ⟨flight, _, _, fetched, -⟩ := served.cached address entry found
  rw [← fetched.address_eq]
  exact served.named flight fetched.aloft

/-- In a crowded cache the loop finds an entry. -/
theorem exists_oldest (served : state.Served client) (positive : 0 < client.cacheMaxEntries)
    {now : Time} (crowded : state.Crowded client address now) :
    ∃ entry, (state.live now).lookup (oldestEntry (state.live now)).1 = some entry ∧
      state.Oldest now entry := by
  obtain ⟨key, stalest⟩ : ∃ key,
      Store.stalest GeoIPCacheEntry.lastAccess (state.live now) = some key := by
    apply Store.exists_stalest
    have filled := crowded.2
    omega
  have named : ∀ entry ∈ (state.live now).entries, entry.1 ≠ [] := by
    intro entry member
    have found : (state.live now).lookup entry.1 = some entry.2 := AList.mem_lookup_iff.mpr member
    exact served.nonempty_of_lookup (lookup_live.mp found).1
  rw [oldestEntry_eq named stalest]
  exact Store.exists_of_stalest stalest

/-- Exactly the oldest entry gives room, and only when room is needed. -/
theorem lookup_room (served : state.Served client) (positive : 0 < client.cacheMaxEntries)
    {now : Time} {key : GoString} {entry : GeoIPCacheEntry} :
    (state.room client address now).lookup key = some entry ↔
      state.cache.lookup key = some entry ∧ now.before entry.expiresAt = true ∧
        ¬ (state.Crowded client address now ∧ state.Oldest now entry) := by
  unfold room
  split
  · rename_i crowded
    obtain ⟨oldest, found, least⟩ := served.exists_oldest positive crowded
    have stamped := served.stamped.keep fun _ entry => now.before entry.expiresAt
    rw [Store.lookup_erase_eq_some, lookup_live]
    constructor
    · rintro ⟨key_ne, cached, fresh⟩
      refine ⟨cached, fresh, ?_⟩
      rintro ⟨-, minimal⟩
      apply key_ne
      have present : (state.live now).lookup key = some entry := lookup_live.mpr ⟨cached, fresh⟩
      exact stamped.inj key _ entry oldest present found
        (le_antisymm (minimal _ oldest found) (least key entry present))
    · rintro ⟨cached, fresh, spared⟩
      refine ⟨?_, cached, fresh⟩
      rintro rfl
      have present := lookup_live.mpr ⟨cached, fresh⟩
      rw [present] at found
      cases found
      exact spared ⟨crowded, least⟩
  · rename_i roomy
    rw [lookup_live]
    constructor
    · rintro ⟨cached, fresh⟩
      exact ⟨cached, fresh, fun evicted => roomy evicted.1⟩
    · rintro ⟨cached, fresh, -⟩
      exact ⟨cached, fresh⟩

theorem size_insert_room (served : state.Served client) (positive : 0 < client.cacheMaxEntries)
    (now : Time) (entry : GeoIPCacheEntry) :
    (Store.size ((state.room client address now).insert address entry) : Int) ≤
      client.cacheMaxEntries := by
  have fewer : Store.size (state.live now) ≤ Store.size state.cache := Store.size_keep_le _ _
  have bounded := served.size_le
  unfold room
  split
  · rename_i crowded
    obtain ⟨oldest, found, -⟩ := served.exists_oldest positive crowded
    have present := Store.mem_of_lookup found
    have absent : address ∉ (state.live now).erase (oldestEntry (state.live now)).1 :=
      fun inside => crowded.1 (AList.mem_erase.mp inside).2
    have erased := Store.size_erase present
    rw [Store.size_insert_of_notMem absent]
    omega
  · rename_i roomy
    by_cases inside : address ∈ state.live now
    · rw [Store.size_insert_of_mem inside]
      omega
    · rw [Store.size_insert_of_notMem inside]
      have space : ¬ client.cacheMaxEntries ≤ Store.size (state.live now) :=
        fun full => roomy ⟨inside, full⟩
      omega

/-! ## Steps of callers -/

/-- What the invariant is about. -/
theorem congr (served : state.Served client) (heap_eq : after.heap = state.heap)
    (cache_eq : after.cache = state.cache)
    (sequence_eq : after.accessSequence = state.accessSequence)
    (flights_eq : after.flights = state.flights) (callers_eq : after.callers = state.callers) :
    after.Served client := by
  rcases state with ⟨⟩
  rcases after with ⟨⟩
  cases heap_eq
  cases cache_eq
  cases sequence_eq
  cases flights_eq
  cases callers_eq
  exact ⟨served.kept_lt, served.handed_lt, served.apart, served.faithful, served.named,
    served.cached, served.answered, served.boarded, served.stamped, served.size_le⟩

theorem fail (served : state.Served client) (err : GeoIPError) :
    (state.fail index caller err).Served client :=
  served.setCall (.error _ _ _)

/-- A caller gets metadata in new cells. -/
theorem hand (served : state.Served client) (value : Seen) {metadata : Held}
    {err : Option GeoIPError} {seen : Seen}
    (refs_eq : metadata.refs = (state.heap.write value).2.refs)
    (answered : err = none → state.Answered client caller.address seen) :
    (({ state with heap := (state.heap.write value).1 } : State).setCall index caller
      (.returned metadata err seen)).Served client := by
  apply (served.grow (state.heap.extends_write value)).setCall
  constructor
  · intro given error looks returned ref member
    cases returned
    rw [refs_eq] at member
    obtain ⟨unused, used⟩ := state.heap.refs_write value member
    exact ⟨used, fun kept => absurd (served.kept_lt ref kept) (Nat.not_lt.mpr unused)⟩
  · intro given looks returned
    cases returned
    exact answered rfl
  · intro flight waiting
    cases waiting

theorem begin (served : state.Served client) (ip : IP) (ctxErr : Option ContextError)
    (now : Time) : (state.begin ip ctxErr now).Served client := by
  apply served.reread
  intro caller member
  rcases List.mem_append.mp member with old | new
  · exact served.entitled old
  · rcases List.mem_singleton.mp new with rfl
    cases ctxErr with
    | some err => exact .error _ _ _
    | none =>
        dsimp only
        split
        · exact .error _ _ _
        · exact .entering _ _

theorem done (served : state.Served client) (here : state.callers[index]? = some caller)
    (err : ContextError) : (state.done index caller err).Served client := by
  apply served.reread
  intro other member
  rcases List.mem_or_eq_of_mem_set member with old | rfl
  · exact served.entitled old
  · have entitled := served.entitled (List.mem_of_getElem? here)
    exact ⟨entitled.own, entitled.answered, entitled.boarded⟩

theorem hit (served : state.Served client) {entry : GeoIPCacheEntry}
    (found : state.cache.lookup caller.address = some entry) :
    (state.hit index caller entry).Served client := by
  have touched : ({ state with
      accessSequence := state.accessSequence + 1
      cache := state.cache.insert caller.address
        { entry with lastAccess := state.accessSequence + 1 } } : State).Served client := by
    apply served.recache
    · intro key cached lookup
      rcases Store.lookup_insert_eq_some.mp lookup with ⟨rfl, rfl⟩ | ⟨_, old⟩
      · have kept := served.entry_kept found
        exact kept
      · exact served.entry_kept old
    · exact served.stamped.insert _ (Nat.lt_succ_self _) rfl
    · rw [Store.size_insert_of_mem (Store.mem_of_lookup found)]
      exact served.size_le
  apply touched.hand (state.heap.read entry.metadata)
  · rfl
  · intro _
    obtain ⟨flight, value, now, fetched, -, -, seen, -⟩ := served.cached _ entry found
    refine ⟨flight, value, now, fetched, .inr ?_⟩
    rw [← seen, IPMetadata.read_fromCache]
    exact congrArg IPMetadata.fromCache (state.heap.read_write _)

/-- Waiters come and go. -/
theorem reseat (served : state.Served client) (aloft : state.flights[id]? = some flight)
    (waiters : Int) : (state.setFlight id { flight with waiters := waiters }).Served client :=
  served.refit aloft ⟨rfl, fun held => held, fun _ => ⟨waiters, rfl⟩⟩ rfl rfl rfl rfl
    fun _ _ same => .inl same

theorem join (served : state.Served client) (aloft : state.flights[id]? = some flight)
    (address_eq : flight.address = caller.address) :
    (state.join index caller id flight).Served client := by
  apply (served.reseat aloft (flight.waiters + 1)).setCall
  rw [← address_eq]
  exact @Entitled.aboard client (state.setFlight id { flight with waiters := flight.waiters + 1 })
    id { flight with waiters := flight.waiters + 1 } ((getElem?_set_cases aloft).mpr (.inl ⟨rfl, rfl⟩))

theorem launch (served : state.Served client) (hasActive : Bool) :
    (state.launch index caller hasActive).Served client := by
  have launched : ({ state with
      flights := state.flights ++ [state.newFlight caller.address hasActive] } : State).Served
        client := by
    apply served.concat
    · exact IP.string_ne_nil caller.ip
    · cases hasActive <;> rfl
    · constructor
      · intro metadata carries
        cases hasActive <;> cases carries
      · intro impossible
        cases impossible
  have numbered : ({ state with
      nextGeneration := state.nextGeneration + 1
      active := if hasActive then state.active + 1 else state.active
      queued := if hasActive then state.queued else state.queued + 1
      inflight := Function.update state.inflight caller.address (some state.flights.length)
      flights := state.flights ++ [state.newFlight caller.address hasActive] } : State).Served
        client :=
    launched.congr rfl rfl rfl rfl rfl
  apply numbered.setCall
  exact @Entitled.aboard client _ _ (state.newFlight caller.address hasActive)
    (getElem?_concat_cases.mpr (.inl ⟨rfl, rfl⟩))

theorem collect (served : state.Served client) (here : state.callers[index]? = some caller)
    (waiting : caller.call = .waiting id) (aloft : state.flights[id]? = some flight)
    (closed : flight.terminal = true) : (state.collect index caller id flight).Served client := by
  apply (served.reseat aloft (flight.waiters - 1)).hand (state.heap.read flight.metadata)
  · rfl
  · intro ok
    obtain ⟨found, place, address_eq⟩ := served.boarded caller (List.mem_of_getElem? here) id waiting
    rw [aloft] at place
    cases place
    have member : flight ∈ state.flights := List.mem_of_getElem? aloft
    obtain ⟨value, now, fetched_eq, seen⟩ := (served.faithful flight member).settled closed ok
    refine ⟨{ flight with waiters := flight.waiters - 1 }, value, now,
      ⟨List.mem_of_getElem? ((getElem?_set_cases aloft).mpr (.inl ⟨rfl, rfl⟩)), address_eq, closed,
        ok, fetched_eq⟩, .inl ?_⟩
    rw [← seen]
    exact state.heap.read_write _

theorem leave (served : state.Served client) (aloft : state.flights[id]? = some flight)
    (err : GeoIPError) :
    ((state.setFlight id { flight with waiters := flight.waiters - 1 }).fail index caller
      err).Served client :=
  (served.reseat aloft (flight.waiters - 1)).fail err

theorem abandon (served : state.Served client) (aloft : state.flights[id]? = some flight)
    (open_ : flight.terminal = false) (same : flight.ctxDone = flight.cancelled)
    (err : GeoIPError) :
    ((state.abandon id { flight with waiters := flight.waiters - 1 }).fail index caller
      err).Served client := by
  rw [abandon_eq (by exact same)]
  have left : (state.setFlight id { flight with
      waiters := flight.waiters - 1
      abandoned := true
      queueLease := false
      leasesReturned := flight.leasesReturned + flight.queueLease.toNat
      cancelled := true
      ctxDone := true }).Served client :=
    served.refit aloft (.of_open open_ rfl fun _ => rfl) rfl rfl rfl rfl fun _ _ same => .inl same
  refine Served.fail ?_ err
  exact left.congr rfl rfl rfl rfl rfl

/-- A write of a caller reaches no cell that the client reads. -/
theorem writeGeolocation_apart (served : state.Served client)
    (here : state.callers[index]? = some caller) (value : GeoLocation) :
    ∃ heap, state.writeGeolocation caller value = { state with heap := heap } ∧
      state.heap.next ≤ heap.next ∧
      (∀ ref, state.Kept ref → heap.geolocation ref = state.heap.geolocation ref) ∧
      ∀ ref, state.Kept ref → heap.asn ref = state.heap.asn ref := by
  unfold State.writeGeolocation
  split
  · rename_i ref asn source fetchedAt expiresAt geoDetails err seen returned
    have handed : state.Handed ref := ⟨caller, List.mem_of_getElem? here, _, _, _, returned,
      List.mem_append_left _ (List.mem_singleton.mpr rfl)⟩
    refine ⟨_, rfl, le_rfl, ?_, fun _ _ => rfl⟩
    intro other kept
    apply Function.update_of_ne
    rintro rfl
    exact served.apart _ kept handed
  · exact ⟨state.heap, rfl, le_rfl, fun _ _ => rfl, fun _ _ => rfl⟩

theorem writeASN_apart (served : state.Served client) (here : state.callers[index]? = some caller)
    (value : ASNInfo) :
    ∃ heap, state.writeASN caller value = { state with heap := heap } ∧
      state.heap.next ≤ heap.next ∧
      (∀ ref, state.Kept ref → heap.geolocation ref = state.heap.geolocation ref) ∧
      ∀ ref, state.Kept ref → heap.asn ref = state.heap.asn ref := by
  unfold State.writeASN
  split
  · rename_i geolocation ref source fetchedAt expiresAt geoDetails err seen returned
    have handed : state.Handed ref := ⟨caller, List.mem_of_getElem? here, _, _, _, returned,
      List.mem_append_right _ (List.mem_singleton.mpr rfl)⟩
    refine ⟨_, rfl, le_rfl, fun _ _ => rfl, ?_⟩
    intro other kept
    apply Function.update_of_ne
    rintro rfl
    exact served.apart _ kept handed
  · exact ⟨state.heap, rfl, le_rfl, fun _ _ => rfl, fun _ _ => rfl⟩

theorem writeGeolocation (served : state.Served client)
    (here : state.callers[index]? = some caller) (value : GeoLocation) :
    (state.writeGeolocation caller value).Served client := by
  obtain ⟨heap, after_eq, next_le, geolocation_eq, asn_eq⟩ :=
    served.writeGeolocation_apart here value
  rw [after_eq]
  exact served.reheap next_le geolocation_eq asn_eq

theorem writeASN (served : state.Served client) (here : state.callers[index]? = some caller)
    (value : ASNInfo) : (state.writeASN caller value).Served client := by
  obtain ⟨heap, after_eq, next_le, geolocation_eq, asn_eq⟩ := served.writeASN_apart here value
  rw [after_eq]
  exact served.reheap next_le geolocation_eq asn_eq

/-! ## Steps of goroutines -/

theorem take (served : state.Served client) (aloft : state.flights[id]? = some flight)
    (open_ : flight.terminal = false) : (state.take id flight).Served client := by
  have taken : (state.setFlight id
      { flight with stage := .admitted, tokens := flight.tokens + 1 }).Served client :=
    served.refit aloft (.of_open open_ rfl fun held => held) rfl rfl rfl rfl
      fun _ _ impossible => by cases impossible
  exact taken.congr rfl rfl rfl rfl rfl

theorem giveUp (served : state.Served client) (aloft : state.flights[id]? = some flight)
    (open_ : flight.terminal = false) : (state.giveUp id flight).Served client := by
  unfold State.giveUp
  rw [GeoIPFlight.releaseQueueLocked_eq]
  have given : (state.setFlight id { flight with
      queueLease := false
      leasesReturned := flight.leasesReturned + flight.queueLease.toNat
      stage := .completing .zero (some cancelledError) }).Served client :=
    served.refit aloft (.of_open open_ rfl fun held => held) rfl rfl rfl rfl
      fun _ _ carries => by
        cases carries
        exact .inr ⟨rfl, Option.some_ne_none _⟩
  exact given.congr rfl rfl rfl rfl rfl

theorem start (served : state.Served client) (aloft : state.flights[id]? = some flight)
    (open_ : flight.terminal = false) : (state.start id flight).Served client := by
  unfold State.start
  rw [GeoIPFlight.releaseQueueLocked_eq]
  dsimp only
  split
  · have started : (state.setFlight id { flight with
        queueLease := false
        leasesReturned := flight.leasesReturned + flight.queueLease.toNat
        stage := .leaving .zero (some cancelledError) }).Served client :=
      served.refit aloft (.of_open open_ rfl fun held => held) rfl rfl rfl rfl
        fun _ _ carries => by
          cases carries
          exact .inr ⟨rfl, Option.some_ne_none _⟩
    exact started.congr rfl rfl rfl rfl rfl
  · have started : (state.setFlight id { flight with
        queueLease := false
        leasesReturned := flight.leasesReturned + flight.queueLease.toNat
        started := true
        stage := .calling }).Served client :=
      served.refit aloft (.of_open open_ rfl fun held => held) rfl rfl rfl rfl
        fun _ _ impossible => by cases impossible
    exact started.congr rfl rfl rfl rfl rfl

theorem handBack (served : state.Served client) (aloft : state.flights[id]? = some flight)
    (open_ : flight.terminal = false) {metadata : Held} {err : Option GeoIPError}
    (leaving : flight.stage = .leaving metadata err) :
    (state.handBack id flight metadata err).Served client := by
  have handed : (state.setFlight id { flight with
      stage := .completing metadata err
      tokensReturned := flight.tokensReturned + 1 }).Served client :=
    served.refit aloft (.of_open open_ rfl fun held => held) rfl rfl rfl rfl
      fun _ _ carries => .inl (by rw [leaving]; exact carries)
  exact handed.congr rfl rfl rfl rfl rfl

theorem callProvider (served : state.Served client) (aloft : state.flights[id]? = some flight)
    (open_ : flight.terminal = false) (outcome : Option (Seen × Option GeoIPError)) :
    (state.callProvider id flight outcome).Served client := by
  unfold State.callProvider
  set fetched := outcome.getD (.zero, some ⟨.unavailable, true⟩)
  have grown := served.grow (state.heap.extends_write fetched.1)
  refine grown.setFlight aloft (.of_open open_ rfl fun held => held) ?_ ?_
  · intro ref member
    rcases List.mem_append.mp member with kept | carried
    · have old : state.Kept ref := .of_metadata (List.mem_of_getElem? aloft) kept
      exact ⟨grown.kept_lt ref old, grown.apart ref old⟩
    · have written : ref ∈ (state.heap.write fetched.1).2.refs := by
        simpa [Stage.outcome] using carried
      obtain ⟨unused, used⟩ := state.heap.refs_write fetched.1 written
      exact ⟨used, fun handed => absurd (served.handed_lt ref handed) (Nat.not_lt.mpr unused)⟩
  · constructor
    · intro metadata carries
      obtain ⟨rfl, err_eq⟩ := Prod.mk.inj (Option.some.inj carries)
      have read_eq := state.heap.read_write fetched.1
      change some fetched = some ((state.heap.write fetched.1).1.read (state.heap.write fetched.1).2,
        none)
      rw [read_eq, ← err_eq]
    · intro closed
      exact absurd (open_.symm.trans closed) Bool.false_ne_true

/-! ## Completions -/

theorem extends_settle (metadata : Held) (err : Option GeoIPError) (now : Time) :
    state.heap.Extends (state.settle client metadata err now).1 := by
  unfold settle
  split
  · exact Heap.extends_write _ _
  · exact .refl _

/-- Settled metadata is in cells that are new, or that the goroutine carried. -/
theorem refs_settle (metadata : Held) (err : Option GeoIPError) (now : Time) {ref : Ref}
    (member : ref ∈ (state.settle client metadata err now).2.refs) :
    (state.heap.next ≤ ref ∧ ref < (state.settle client metadata err now).1.next) ∨
      ref ∈ metadata.refs := by
  unfold settle at member ⊢
  split at member
  · rename_i ok
    rw [if_pos ok]
    rw [IPMetadata.refs_detailed] at member
    exact .inl (Heap.refs_write _ _ member)
  · rw [IPMetadata.refs_detailed] at member
    exact .inr member

theorem read_settle (metadata : Held) (now : Time) :
    (state.settle client metadata none now).1.read (state.settle client metadata none now).2 =
      (state.heap.read metadata).arrived client.cacheTTL now := by
  unfold settle
  rw [if_pos rfl]
  dsimp only
  rw [IPMetadata.read_detailed]
  exact congrArg (IPMetadata.detailed client.cacheTTL now) (Heap.read_write _ _)

theorem arrived_expiresAt {G A : Type} (ttl : Int) (now : Time) (metadata : IPMetadata G A) :
    (metadata.arrived ttl now).expiresAt = now.add ttl ∧
      (metadata.arrived ttl now).labelled .upstream = metadata.arrived ttl now := by
  unfold IPMetadata.arrived IPMetadata.detailed
  split <;> exact ⟨rfl, rfl⟩

section Completion

variable {metadata : Held} {err : Option GeoIPError} {now : Time}

/-- The flight is complete, and the cache as it was. -/
theorem land (served : state.Served client) (aloft : state.flights[id]? = some flight)
    (open_ : flight.terminal = false) (completing : flight.stage = .completing metadata err) :
    ((state.landed client id flight metadata err now).setFlight id
      (state.finished client id flight metadata err now)).Served client := by
  have here : flight ∈ state.flights := List.mem_of_getElem? aloft
  have carries : flight.stage.outcome = some (metadata, err) := by
    rw [completing]
    rfl
  have grown := served.grow (@extends_settle client state metadata err now)
  have finished : (({ state with heap := (state.settle client metadata err now).1 } :
      State).setFlight id (state.finished client id flight metadata err now)).Served client := by
    refine grown.setFlight aloft (.of_open open_ rfl fun held => held) ?_ ?_
    · intro ref member
      have settled : ref ∈ (state.settle client metadata err now).2.refs := by
        rcases List.mem_append.mp member with kept | impossible
        · exact kept
        · cases impossible
      rcases refs_settle metadata err now settled with ⟨unused, used⟩ | carried
      · exact ⟨used, fun handed => absurd (served.handed_lt ref handed) (Nat.not_lt.mpr unused)⟩
      · have kept : state.Kept ref := .of_outcome here carries carried
        exact ⟨grown.kept_lt ref kept, grown.apart ref kept⟩
    · constructor
      · intro carried impossible
        cases impossible
      · rintro - ok
        cases (show err = none from ok)
        exact ⟨state.heap.read metadata, now, (served.faithful flight here).carried metadata carries,
          read_settle metadata now⟩
  exact finished.congr rfl rfl rfl rfl rfl

theorem storable_iff : state.storable client id flight metadata err now = true ↔
    state.inflight flight.address = some id ∧ err = none ∧ flight.abandoned = false ∧
      flight.ctxDone = false ∧
      validIPMetadata ((state.settle client metadata err now).1.read
        (state.settle client metadata err now).2) = true := by
  simp only [storable, Bool.and_eq_true, decide_eq_true_eq, Option.isNone_iff_eq_none,
    Bool.not_eq_true', and_assoc]

theorem complete (served : state.Served client) (positive : 0 < client.cacheMaxEntries)
    (aloft : state.flights[id]? = some flight) (open_ : flight.terminal = false)
    (unleased : flight.queueLease = false) (same : flight.ctxDone = flight.cancelled)
    (completing : flight.stage = .completing metadata err) :
    (state.completeFlight client id flight metadata err now).Served client := by
  have landed := @land client state id flight metadata err now served aloft open_ completing
  rw [completeFlight_eq client metadata err now open_ unleased same]
  split
  · rename_i stores
    obtain ⟨current, rfl, present, -, valid⟩ := storable_iff.mp stores
    set place := (state.landed client id flight metadata none now).setFlight id
      (state.finished client id flight metadata none now) with place_eq
    set settled := state.settle client metadata none now with settled_eq
    have written := landed.grow (place.heap.extends_write (place.heap.read settled.2))
    have stored : ({ { place with
        heap := (place.heap.write (place.heap.read settled.2)).1 } with
        accessSequence := place.accessSequence + 1
        cache := (place.room client flight.address now).insert flight.address
          ⟨(place.heap.write (place.heap.read settled.2)).2.labelled .upstream,
            settled.2.expiresAt, place.accessSequence + 1⟩ } : State).Served client := by
      apply written.recache
      · intro key entry found
        rcases Store.lookup_insert_eq_some.mp found with ⟨rfl, rfl⟩ | ⟨-, old⟩
        · have read_eq := @read_settle client state metadata now
          have carries : flight.stage.outcome = some (metadata, none) := by
            rw [completing]
            rfl
          constructor
          · refine ⟨state.finished client id flight metadata none now, state.heap.read metadata,
              now, ⟨List.mem_of_getElem? ((getElem?_set_cases aloft).mpr (.inl ⟨rfl, rfl⟩)), rfl,
                rfl, rfl, (served.faithful flight (List.mem_of_getElem? aloft)).carried metadata
                  carries⟩, decide_eq_true current, present, ?_, ?_, ?_⟩
            · rw [IPMetadata.read_labelled, Heap.read_write]
              change (settled.1.read settled.2).labelled .upstream = _
              rw [read_eq]
              exact (arrived_expiresAt _ _ _).2
            · rw [← read_eq]
              exact valid
            · rw [← (arrived_expiresAt client.cacheTTL now (state.heap.read metadata)).1, ← read_eq]
              rfl
          · intro ref member
            obtain ⟨unused, used⟩ := Heap.refs_write _ _ member
            exact ⟨used, fun handed =>
              absurd (landed.handed_lt ref handed) (Nat.not_lt.mpr unused)⟩
        · exact written.entry_kept ((landed.lookup_room positive).mp old).1
      · have stamped : Store.Stamped GeoIPCacheEntry.lastAccess place.accessSequence
            (place.room client flight.address now) :=
          landed.stamped.of_le fun key entry found => ((landed.lookup_room positive).mp found).1
        exact stamped.insert _ (Nat.lt_succ_self _) rfl
      · exact landed.size_insert_room positive now _
    exact stored.congr rfl rfl rfl rfl rfl
  · exact landed

end Completion

/-- Every step keeps what lookups are given in order. -/
theorem step (served : state.Served client) (accounted : state.Accounted client)
    (positive : 0 < client.cacheMaxEntries) (effect : Effect client state after) :
    after.Served client := by
  cases effect with
  | begin ip ctxErr now => exact served.begin ip ctxErr now
  | hit _ _ found => exact served.hit found
  | busy _ _ unserved => exact (served.uncache unserved).fail _
  | join _ _ unserved current aloft =>
      obtain ⟨found, place, address_eq, -⟩ := (accounted.current_iff _ _).mp current
      rw [aloft] at place
      cases place
      exact (served.uncache unserved).join aloft address_eq
  | launch _ _ unserved => exact (served.uncache unserved).launch _
  | collect here waiting aloft closed => exact served.collect here waiting aloft closed
  | leave _ _ aloft => exact served.leave aloft _
  | abandon _ _ aloft open_ =>
      exact served.abandon aloft open_ (accounted.sound_of_getElem? aloft).ctxDone_eq _
  | again => exact served
  | done here err => exact served.done here err
  | writeGeolocation here value => exact served.writeGeolocation here value
  | writeASN here value => exact served.writeASN here value
  | take aloft queued =>
      exact served.take aloft (accounted.terminal_eq_false aloft (by rw [queued]; rfl))
  | giveUp aloft queued =>
      exact served.giveUp aloft (accounted.terminal_eq_false aloft (by rw [queued]; rfl))
  | start aloft admitted =>
      exact served.start aloft (accounted.terminal_eq_false aloft (by rw [admitted]; rfl))
  | callProvider aloft calling outcome =>
      exact served.callProvider aloft (accounted.terminal_eq_false aloft (by rw [calling]; rfl))
        outcome
  | handBack aloft leaving =>
      exact served.handBack aloft (accounted.terminal_eq_false aloft (by rw [leaving]; rfl)) leaving
  | complete aloft completing now =>
      exact served.complete positive aloft
        (accounted.terminal_eq_false aloft (by rw [completing]; rfl))
        (accounted.unleased aloft (by rw [completing]; rfl))
        (accounted.sound_of_getElem? aloft).ctxDone_eq completing

end Served

/-! ## Single steps -/

/-- A step after which the client reads what it read before. -/
structure Unwritten (state after : State) : Prop where
  cache_eq : after.cache = state.cache
  flights_eq : after.flights = state.flights
  cached : ∀ address entry, state.cache.lookup address = some entry →
    after.heap.read entry.metadata = state.heap.read entry.metadata
  aloft : ∀ flight ∈ state.flights,
    after.heap.read flight.metadata = state.heap.read flight.metadata

theorem unwritten_of_heap {heap : Heap}
    (geolocation_eq : ∀ ref, state.Kept ref → heap.geolocation ref = state.heap.geolocation ref)
    (asn_eq : ∀ ref, state.Kept ref → heap.asn ref = state.heap.asn ref) :
    state.Unwritten { state with heap := heap } where
  cache_eq := rfl
  flights_eq := rfl
  cached _ _ found := Heap.read_congr
    (fun ref member => geolocation_eq ref (.of_entry found member))
    fun ref member => asn_eq ref (.of_entry found member)
  aloft _ here := Heap.read_congr
    (fun ref member => geolocation_eq ref (.of_metadata here member))
    fun ref member => asn_eq ref (.of_metadata here member)

theorem getElem?_setCall {call : Call} (here : state.callers[index]? = some caller) :
    (state.setCall index caller call).callers[index]? = some { caller with call := call } :=
  (getElem?_set_cases here).mpr (.inl ⟨rfl, rfl⟩)

/-- A lookup that goes to a flight is not answered in the same step. -/
theorem unanswered_board (here : state.callers[index]? = some caller) {metadata : Held}
    {seen : Seen} {found : Caller}
    (place : (state.board client index caller).callers[index]? = some found) :
    found.call ≠ .returned metadata none seen := by
  unfold board at place
  split at place
  · rw [join, getElem?_setCall (by exact here)] at place
    cases place
    intro returned
    cases returned
  · dsimp only at place
    split at place
    · rw [State.fail, answer, getElem?_setCall (by exact here)] at place
      cases place
      intro returned
      cases returned
    · rw [launch, getElem?_setCall (by exact here)] at place
      cases place
      intro returned
      cases returned

/-- A lookup is answered from the cache by an entry before its expiry. -/
theorem fresh_of_answered {now : Time} {metadata : Held} {seen : Seen} {found : Caller}
    (here : state.callers[index]? = some caller)
    (place : (state.lookup client index caller now).callers[index]? = some found)
    (answered : found.call = .returned metadata none seen) :
    ∃ entry, state.cache.lookup caller.address = some entry ∧
      now.before entry.expiresAt = true ∧ seen = (state.heap.read entry.metadata).fromCache ∧
      (state.lookup client index caller now).cache.lookup caller.address =
        some { entry with lastAccess := state.accessSequence + 1 } := by
  unfold lookup at place ⊢
  cases cached : state.cache.lookup caller.address with
  | none =>
      rw [cached] at place
      exact absurd answered (unanswered_board here place)
  | some entry =>
      rw [cached] at place
      dsimp only at place ⊢
      by_cases fresh : now.before entry.expiresAt = true
      · rw [if_pos fresh] at place ⊢
        rw [hit, answer, getElem?_setCall (by exact here)] at place
        cases place
        cases answered
        refine ⟨entry, rfl, fresh, ?_, AList.lookup_insert _⟩
        rw [IPMetadata.read_fromCache]
        exact congrArg IPMetadata.fromCache (state.heap.read_write _)
      · rw [if_neg fresh] at place
        exact absurd answered (unanswered_board (by exact here) place)

/-- A completion leaves the cache alone, or stores metadata in it: what expired
is gone, and so is the oldest entry when room was needed. -/
theorem cache_complete (served : state.Served client) (accounted : state.Accounted client)
    (positive : 0 < client.cacheMaxEntries) (aloft : state.flights[id]? = some flight)
    {metadata : Held} {err : Option GeoIPError} (completing : flight.stage = .completing metadata err)
    (now : Time) :
    (state.completeFlight client id flight metadata err now).cache = state.cache ∨
      ((∃ entry, (state.completeFlight client id flight metadata err now).cache.lookup
          flight.address = some entry ∧ entry.lastAccess = state.accessSequence + 1) ∧
        ∀ key entry, key ≠ flight.address →
          ((state.completeFlight client id flight metadata err now).cache.lookup key = some entry ↔
            state.cache.lookup key = some entry ∧ now.before entry.expiresAt = true ∧
              ¬ (state.Crowded client flight.address now ∧ state.Oldest now entry))) := by
  have open_ := accounted.terminal_eq_false aloft (by rw [completing]; rfl)
  have unleased := accounted.unleased aloft (by rw [completing]; rfl)
  rw [completeFlight_eq client metadata err now open_ unleased
    (accounted.sound_of_getElem? aloft).ctxDone_eq]
  split
  · right
    constructor
    · exact ⟨_, AList.lookup_insert _, rfl⟩
    · intro key entry key_ne
      rw [← served.lookup_room positive]
      exact (AList.lookup_insert_ne key_ne).congr_left
  · exact .inl rfl

end State

/-! ## Every run -/

theorem cacheMaxEntries_pos (config : GeoIPCacheConfig) :
    0 < (newIPWhoIsLookupWithConfig config).cacheMaxEntries := by
  unfold newIPWhoIsLookupWithConfig
  dsimp only
  split
  · decide
  · omega

theorem served_of_reachable {config : GeoIPCacheConfig} {heap : Heap} {state : State}
    (reachable : Reachable (State.next (newIPWhoIsLookupWithConfig config)) (State.initial heap)
      state) : state.Served (newIPWhoIsLookupWithConfig config) := by
  have positive := cacheMaxEntries_pos config
  refine (reachable.invariant
    (fun state => state.Accounted (newIPWhoIsLookupWithConfig config) ∧
      state.Served (newIPWhoIsLookupWithConfig config))
    ⟨.initial heap (maxQueued_pos config).le (maxActive_pos config).le,
      .initial heap positive.le⟩ ?_).2
  rintro middle action after ⟨accounted, served⟩ step
  exact ⟨accounted.step (.of_next step), served.step accounted positive (.of_next step)⟩

/-- The cache and the answers in one state. -/
structure CacheCorrect (client : IPWhoIsLookup) (state : State) : Prop where
  size_le : (Store.size state.cache : Int) ≤ client.cacheMaxEntries
  cached : ∀ address entry, state.cache.lookup address = some entry →
    state.Cached client address entry
  recency : Store.Stamped GeoIPCacheEntry.lastAccess state.accessSequence state.cache
  answered : ∀ caller ∈ state.callers, ∀ metadata seen,
    caller.call = .returned metadata none seen → state.Answered client caller.address seen

/-- What one step may do with the cache and with what the client reads. -/
structure CacheStep (client : IPWhoIsLookup) (state : State) (action : Action) (after : State) :
    Prop where
  fresh : ∀ (index : Nat) caller now found metadata seen, action = .enter index →
    state.callers[index]? = some caller → caller.call = .entering now →
    after.callers[index]? = some found → found.call = .returned metadata none seen →
    ∃ entry, state.cache.lookup caller.address = some entry ∧
      now.before entry.expiresAt = true ∧ seen = (state.heap.read entry.metadata).fromCache ∧
      after.cache.lookup caller.address =
        some { entry with lastAccess := state.accessSequence + 1 }
  evicts : ∀ (id : Nat) now flight, action = .complete id now →
    state.flights[id]? = some flight → after.cache = state.cache ∨
      ((∃ entry, after.cache.lookup flight.address = some entry ∧
          entry.lastAccess = state.accessSequence + 1) ∧
        ∀ key entry, key ≠ flight.address →
          (after.cache.lookup key = some entry ↔
            state.cache.lookup key = some entry ∧ now.before entry.expiresAt = true ∧
              ¬ (state.Crowded client flight.address now ∧ state.Oldest now entry)))
  unwritten : ∀ index, ((∃ value, action = .writeGeolocation index value) ∨
    ∃ value, action = .writeASN index value) → state.Unwritten after

/-- In every run the cache holds at most its size, of metadata that passed its
check from flights that were current and not abandoned, under the address it was
fetched for; it serves no entry at or past its expiry and gives up the oldest;
and what a lookup returns was fetched for its address, whatever callers write
through what they were given. -/
theorem cache_correct (config : GeoIPCacheConfig) (heap : Heap) {state : State}
    (reachable : Reachable (State.next (newIPWhoIsLookupWithConfig config)) (State.initial heap)
      state) :
    CacheCorrect (newIPWhoIsLookupWithConfig config) state ∧
      ∀ action after, State.next (newIPWhoIsLookupWithConfig config) state action = some after →
        CacheStep (newIPWhoIsLookupWithConfig config) state action after := by
  have accounted := accounted_of_reachable reachable
  have served := served_of_reachable reachable
  refine ⟨⟨served.size_le, served.cached, served.stamped, served.answered⟩, ?_⟩
  intro action after step
  constructor
  · rintro index caller now found metadata seen rfl here entering place answered
    obtain ⟨same, here', step⟩ := Option.bind_eq_some_iff.mp step
    cases here.symm.trans here'
    simp only [State.callerNext, entering, Option.some.injEq] at step
    subst step
    exact State.fresh_of_answered here place answered
  · rintro id now flight rfl aloft
    obtain ⟨same, aloft', step⟩ := Option.bind_eq_some_iff.mp step
    cases aloft.symm.trans aloft'
    simp only [State.flightNext] at step
    split at step
    · rename_i completing
      cases step
      exact State.cache_complete served accounted (cacheMaxEntries_pos config) aloft completing now
    · cases step
  · rintro index (⟨value, rfl⟩ | ⟨value, rfl⟩)
    · obtain ⟨caller, here, step⟩ := Option.bind_eq_some_iff.mp step
      cases step
      obtain ⟨changed, after_eq, -, geolocation_eq, asn_eq⟩ :=
        served.writeGeolocation_apart here value
      rw [after_eq]
      exact State.unwritten_of_heap geolocation_eq asn_eq
    · obtain ⟨caller, here, step⟩ := Option.bind_eq_some_iff.mp step
      cases step
      obtain ⟨changed, after_eq, -, geolocation_eq, asn_eq⟩ := served.writeASN_apart here value
      rw [after_eq]
      exact State.unwritten_of_heap geolocation_eq asn_eq

def routedBy (organization : String) : Seen :=
  ⟨none, some ⟨7, organization⟩, .none, ⟨0, 0⟩, ⟨0, 0⟩, .zero⟩

/-- A cache of one entry.  The first caller writes through what it was given,
the second is served from the cache, and the third has its address take the
place of theirs. -/
def cachedRun : List Action :=
  [.begin [1, 1, 1, 1] none ⟨0, 0⟩, .enter 0, .start 0,
    .callProvider 0 (some (routedBy "here", none)), .handBack 0, .complete 0 ⟨10, 0⟩, .wake 0, .writeASN 0 ⟨8, "elsewhere"⟩,
    .begin [1, 1, 1, 1] none ⟨20, 0⟩, .enter 1, .begin [8, 8, 8, 8] none ⟨20, 0⟩, .enter 2,
    .start 1, .callProvider 1 (some (routedBy "there", none)), .handBack 1,
    .complete 1 ⟨30, 0⟩, .wake 2]

def Call.organization : Call → Option String
  | .returned _ _ seen => seen.asn.map fun asn => asn.organization.text
  | _ => none

theorem cache_correct_cachedRun :
    ∃ state, execute (State.next (newIPWhoIsLookupWithConfig ⟨1, 60, 1, 1⟩))
        (State.initial emptyHeap) cachedRun = some state ∧
      state.callers.map (fun caller => caller.call.organization) =
        [some "here", some "here", some "there"] ∧
      state.cache.keys.map GoString.text = ["8.8.8.8"] ∧
      CacheCorrect (newIPWhoIsLookupWithConfig ⟨1, 60, 1, 1⟩) state := by
  refine ⟨_, rfl, by decide, by decide, ?_⟩
  exact (cache_correct ⟨1, 60, 1, 1⟩ emptyHeap
    (@Reachable.of_execute _ _ _ _ _ cachedRun rfl)).1

end CheckNetwork.Lookup
