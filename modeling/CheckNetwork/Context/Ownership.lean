import CheckNetwork.Collection.Census
import CheckNetwork.Context.Codec
import CheckNetwork.Context.Owner

/-!
# Flights and their waiters

Every reachable state of the service accounts for its flights: how many there are, who waits
for them, what they still have to do, and why one was abandoned.  Whoever asks is answered with
an accepted record of the address, and from the cache only before the record expires.
-/

namespace CheckNetwork.Context.Owner

open Collection Go Transition

section Records

variable (net : NetLibrary)

/-- An accepted record of an address. -/
structure Genuine (address : GoString) (value : IPContext) : Prop where
  accepted : value.Accepted net
  address : value.address = address

/-- A record that a call may be answered with. -/
def Credited (caller : Caller) (value : IPContext) : Prop :=
  Genuine net caller.address value ∨ ∃ record expires, Genuine net caller.address record ∧
    value = { record with source := GoString.ofString "cache" } ∧
      stampText record.expiresAt = some expires ∧ caller.now.before expires = true

/-- The right to an answer: nobody is told of a cancellation that is not his own, unless the
service drains. -/
def Earned (draining : Bool) (caller : Caller) (answer : Answer) : Prop :=
  (∀ value, answer = .ok value → Credited net caller value) ∧
    (answer = .error (.context .canceled) → draining = true ∨ caller.ended.isSome = true)

end Records

variable {net : NetLibrary}

theorem Genuine.clone {address : GoString} {value : IPContext}
    (genuine : Genuine net address value) : cloneIPContext value = value := by
  obtain ⟨_, _, _, _, _, _, ok⟩ := genuine.accepted
  rw [cloneIPContext, ok.reverse.names_eq, ok.routing.origins_eq, Option.getD_some,
    Option.getD_some, ← ok.reverse.names_eq, ← ok.routing.origins_eq]

namespace IPContextFlight

/-- A flight that is on the board. -/
def current (flight : IPContextFlight) : Bool := !flight.published && !flight.exited

/-- What holds of a flight by itself. -/
structure Sound (net : NetLibrary) (flight : IPContextFlight) : Prop where
  nodup : flight.waiterContexts.Nodup
  waiters_eq : flight.waiters = flight.waiterContexts.length
  waiters_le : flight.waiters ≤ 4
  work_eq : flight.work = flight.unsent + flight.returning + flight.primitives
  sent : flight.ready = true → flight.unsent = 0
  settled : flight.ready = true → flight.published = true ∨ flight.abandoned = true
  published : flight.published = true → flight.ready = true ∧ flight.abandoned = false
  cancelled : flight.abandoned = true → flight.ctxDone = true
  attended : flight.waiters = 0 → flight.published = true ∨ flight.abandoned = true
  exited : flight.exited = true → flight.ready = true ∧ flight.ctxDone = true ∧ flight.work = 0
  failed : flight.err = none ∨ flight.err = some .invalid
  genuine : flight.published = true → flight.err = none → Genuine net flight.address flight.value

/-- What a flight keeps until it publishes or ends. -/
structure Becomes (flight after : IPContextFlight) : Prop where
  address : after.address = flight.address
  ready : flight.ready = true → after.ready = true
  published : after.published = flight.published
  exited : after.exited = flight.exited
  abandoned : flight.abandoned = true → after.abandoned = true

variable {flight after : IPContextFlight}

theorem Becomes.current (becomes : flight.Becomes after) : after.current = flight.current := by
  rw [IPContextFlight.current, becomes.published, becomes.exited, IPContextFlight.current]

theorem sound_launched (address : GoString) (waiter : Nat) : (launched address waiter).Sound net := by
  constructor <;> simp [launched, unsent]

theorem Sound.abandon (sound : flight.Sound net) (unpublished : flight.published = false) :
    flight.abandon.Sound net :=
  { sound with
    settled := fun _ => .inr rfl
    published := fun published => absurd (unpublished.symm.trans published) Bool.false_ne_true
    cancelled := fun _ => rfl
    attended := fun _ => .inr rfl
    genuine := fun published => absurd (unpublished.symm.trans published) Bool.false_ne_true
    exited := fun exited => ⟨(sound.exited exited).1, rfl, (sound.exited exited).2.2⟩ }

theorem Sound.working {work : Work} (sound : flight.Sound net) (step : flight.working work = some after) :
    after.Sound net ∧ flight.Becomes after ∧ after.waiterContexts = flight.waiterContexts ∧
      after.abandoned = flight.abandoned := by
  have becomes : flight.Becomes after := by
    cases work <;> constructor <;> grind [IPContextFlight.working]
  obtain ⟨nodup, waiters_eq, waiters_le, work_eq, sent, settled, published, cancelled,
    attended, exited, failed, genuine⟩ := sound
  cases work <;> grind [IPContextFlight.working, unsent, Sound]

theorem Sound.joined (sound : flight.Sound net) {waiter : Nat} (apart : waiter ∉ flight.waiterContexts)
    (room : flight.waiters < 4) : (flight.joined waiter).Sound net :=
  { sound with
    nodup := List.nodup_cons.mpr ⟨apart, sound.nodup⟩
    waiters_eq := congrArg (· + 1) sound.waiters_eq
    waiters_le := room
    attended := fun none => absurd none (Nat.succ_ne_zero _) }

theorem becomes_departed (flight : IPContextFlight) (waiter : Nat) :
    flight.Becomes (flight.departed waiter) := by
  constructor <;> grind [IPContextFlight.departed, IPContextFlight.abandon]

theorem departed_waiterContexts (flight : IPContextFlight) (waiter : Nat) :
    (flight.departed waiter).waiterContexts = flight.waiterContexts.erase waiter := by
  grind [IPContextFlight.departed, IPContextFlight.abandon]

theorem Sound.departed (sound : flight.Sound net) {waiter : Nat} (member : waiter ∈ flight.waiterContexts) :
    (flight.departed waiter).Sound net := by
  have length := List.length_erase_of_mem member
  have nodup := sound.nodup.erase waiter
  obtain ⟨_, waiters_eq, waiters_le, work_eq, sent, settled, published, cancelled,
    attended, exited, failed, genuine⟩ := sound
  constructor <;> grind [IPContextFlight.departed, IPContextFlight.abandon, unsent]

/-- The channel of an abandoned flight is closed without a record. -/
theorem Sound.stranded (sound : flight.Sound net) (sent : flight.unsent = 0)
    (abandoned : flight.abandoned = true) : { flight with ready := true }.Sound net :=
  { sound with
    sent := fun _ => sent
    settled := fun _ => .inr abandoned
    published := fun published => ⟨rfl, (sound.published published).2⟩
    exited := fun exited => ⟨rfl, (sound.exited exited).2⟩ }

theorem Sound.landed (sound : flight.Sound net) (sent : flight.unsent = 0)
    (kept : flight.abandoned = false) (value : IPContext) {err : Option LookupError}
    (failed : err = none ∨ err = some .invalid)
    (genuine : err = none → Genuine net flight.address value) :
    { flight with value := value, published := true, err := err, ready := true }.Sound net :=
  { sound with
    sent := fun _ => sent
    settled := fun _ => .inl rfl
    published := fun _ => ⟨rfl, kept⟩
    attended := fun _ => .inl rfl
    exited := fun exited => ⟨rfl, (sound.exited exited).2⟩
    failed := failed
    genuine := fun _ => genuine }

/-- A flight is abandoned by the one who leaves only if nobody else waits. -/
theorem Sound.departed_abandoned (sound : flight.Sound net) {waiter : Nat}
    (member : waiter ∈ flight.waiterContexts) (abandoned : (flight.departed waiter).abandoned = true) :
    flight.abandoned = true ∨ flight.waiterContexts.erase waiter = [] := by
  have length := List.length_erase_of_mem member
  have waiters_eq := sound.waiters_eq
  grind [IPContextFlight.departed, IPContextFlight.abandon]

end IPContextFlight

/-! ## The service -/

/-- The answer that a call has, if it does not wait for one. -/
def Stage.answer? : Stage → Option Answer
  | .aboard _ (.leaving answer) | .answered answer => some answer
  | _ => none

namespace IPContextService

/-- The invariant of the steps. -/
structure Owned (net : NetLibrary) (state : IPContextService) : Prop where
  active_eq : state.active = state.flights.countP fun flight => !flight.exited
  active_le : state.active ≤ 2
  board_iff : ∀ address (place : Nat), state.board.lookup address = some place ↔
    ∃ flight : IPContextFlight, state.flights[place]? = some flight ∧ flight.address = address ∧
      flight.current = true
  sound : ∀ (place : Nat) (flight : IPContextFlight), state.flights[place]? = some flight →
    flight.Sound net
  aboard_iff : ∀ id place : Nat, (∃ caller : Caller, state.callers[id]? = some caller ∧
    caller.stage.flight? = some place) ↔
      ∃ flight : IPContextFlight, state.flights[place]? = some flight ∧ id ∈ flight.waiterContexts
  shared : ∀ (id place : Nat) (caller : Caller) (flight : IPContextFlight),
    state.callers[id]? = some caller → caller.stage.flight? = some place →
      state.flights[place]? = some flight → flight.address = caller.address ∧
        (caller.stage = .aboard place .collecting → flight.ready = true) ∧
          (flight.abandoned = true → state.draining = true ∨ caller.ended.isSome = true)
  earned : ∀ (id : Nat) (caller : Caller) (answer : Answer), state.callers[id]? = some caller →
    caller.stage.answer? = some answer → Earned net state.draining caller answer
  cached : ∀ address entry, state.cache.lookup address = some entry →
    Genuine net address entry.value ∧ stampText entry.value.expiresAt = some entry.expires
  size_le : Store.size state.cache ≤ 256
  drained : state.draining = true → ∀ (place : Nat) (flight : IPContextFlight),
    state.flights[place]? = some flight → flight.current = true → flight.abandoned = true

variable {state after : IPContextService} {id place : Nat}
  {caller moved : Caller} {flight changed : IPContextFlight}

theorem owned_initial : initial.Owned net := by
  constructor <;> simp [initial, Store.size]

/-- A call goes on without a flight or with the one it has. -/
theorem Owned.ofCaller (owned : state.Owned net) (here : state.callers[id]? = some caller)
    (same : moved.stage.flight? = caller.stage.flight?) (address : moved.address = caller.address)
    (ended : caller.ended.isSome = true → moved.ended.isSome = true)
    (ready : ∀ place : Nat, moved.stage = .aboard place .collecting →
      caller.stage = .aboard place .collecting ∨
        ∀ flight ∈ state.flights[place]?, flight.ready = true)
    (earned : ∀ answer, moved.stage.answer? = some answer → Earned net state.draining moved answer) :
    (state.setCaller id moved).Owned net := by
  refine { owned with aboard_iff := ?_, shared := ?_, earned := ?_ }
  · intro other place
    refine Iff.trans ?_ (owned.aboard_iff other place)
    grind [setCaller]
  · have before := owned.shared
    grind [setCaller]
  · have before := owned.earned
    grind [setCaller]

/-- Without a live waiter the contexts of all waiters have ended. -/
theorem Owned.ended_of_dead (owned : state.Owned net) (aloft : state.flights[place]? = some flight)
    (dead : state.contextFlightHasLiveWaiter flight = false)
    (here : state.callers[id]? = some caller) (aboard : caller.stage.flight? = some place) :
    caller.ended.isSome = true := by
  obtain ⟨found, aloft', member⟩ := (owned.aboard_iff id place).mp ⟨caller, here, aboard⟩
  cases aloft.symm.trans aloft'
  have silent := List.any_eq_false.mp dead id member
  rw [here, Option.any_some] at silent
  cases ended : caller.ended with
  | none => exact absurd (by rw [ended]; rfl) silent
  | some err => rfl

/-- The board and the count after a flight has changed. -/
theorem Owned.board_set (owned : state.Owned net) (aloft : state.flights[place]? = some flight)
    (becomes : flight.Becomes changed) (address : GoString) (seat : Nat) :
    state.board.lookup address = some seat ↔ ∃ found : IPContextFlight,
      (state.flights.set place changed)[seat]? = some found ∧ found.address = address ∧
        found.current = true := by
  obtain ⟨address, published, exited, _⟩ := becomes
  refine (owned.board_iff _ seat).trans ?_
  grind [IPContextFlight.current]

theorem Owned.active_set (owned : state.Owned net) (aloft : state.flights[place]? = some flight)
    (exited : changed.exited = flight.exited) : state.active =
      (state.flights.set place changed).countP fun flight => !flight.exited := by
  have counted := @countP_set_add _ (fun flight : IPContextFlight => !flight.exited) _ _ _ changed
    aloft
  rw [exited] at counted
  exact owned.active_eq.trans (Nat.add_right_cancel counted).symm

/-- A call and its flight change together. -/
theorem Owned.turn (owned : state.Owned net) (here : state.callers[id]? = some caller)
    (aloft : state.flights[place]? = some flight) (sound : changed.Sound net)
    (becomes : flight.Becomes changed)
    (was : ∀ seat, caller.stage.flight? = some seat → seat = place)
    (only : ∀ seat, moved.stage.flight? = some seat → seat = place)
    (mine : id ∈ changed.waiterContexts ↔ moved.stage.flight? = some place)
    (others : ∀ other ≠ id, other ∈ changed.waiterContexts ↔ other ∈ flight.waiterContexts)
    (fits : ∀ seat, moved.stage.flight? = some seat → flight.abandoned = false ∧
      changed.address = moved.address ∧ moved.stage ≠ .aboard seat .collecting)
    (forsaken : changed.abandoned = true → flight.abandoned = true ∨ changed.waiterContexts = [])
    (earned : ∀ answer, moved.stage.answer? = some answer → Earned net state.draining moved answer) :
    ((state.setFlight place changed).setCaller id moved).Owned net := by
  refine ⟨owned.active_set aloft becomes.exited, owned.active_le, owned.board_set aloft becomes,
    ?_, ?_, ?_, ?_, owned.cached, owned.size_le, ?_⟩
  all_goals dsimp only [setCaller, setFlight]
  · have before := owned.sound
    grind
  · intro other seat
    have before := owned.aboard_iff other seat
    grind
  · intro other seat rival found rivalHere aboard foundHere
    have before := owned.shared other seat
    have waits := owned.aboard_iff other seat
    obtain ⟨_, ready, _, _, _⟩ := becomes
    rcases (getElem?_set_cases here).mp rivalHere with ⟨rfl, rfl⟩ | ⟨apart, rivalHere⟩
    · grind
    · specialize others other apart
      grind
  · have before := owned.earned
    grind
  · have before := owned.drained
    obtain ⟨_, published, exited, keeps⟩ := becomes
    grind [IPContextFlight.current]

/-- A call joins a flight. -/
theorem Owned.join (owned : state.Owned net) (here : state.callers[id]? = some caller)
    (entering : caller.stage.flight? = none) (aloft : state.flights[place]? = some flight)
    (address : flight.address = caller.address) (room : flight.waiters < 4)
    (kept : flight.abandoned = false) :
    ((state.setFlight place (flight.joined id)).stand id caller (.aboard place .waiting)).Owned net := by
  have apart : id ∉ flight.waiterContexts := by
    intro member
    obtain ⟨rival, found, aboard⟩ := (owned.aboard_iff id place).mpr ⟨flight, aloft, member⟩
    grind
  apply owned.turn here aloft ((owned.sound place flight aloft).joined apart room)
  · exact ⟨rfl, fun ready => ready, rfl, rfl, fun abandoned => abandoned⟩
  · simp [entering]
  · simp [Stage.flight?]
  · simp [Stage.flight?, IPContextFlight.joined]
  · intro other apart
    simp [IPContextFlight.joined, apart]
  · simp [kept, IPContextFlight.joined, address]
  · exact .inl
  · simp [Stage.answer?]

/-- A call leaves its flight with its answer. -/
theorem Owned.leave (owned : state.Owned net) (here : state.callers[id]? = some caller) {given : Answer}
    (leaving : caller.stage = .aboard place (.leaving given))
    (aloft : state.flights[place]? = some flight) :
    ((state.setFlight place (flight.departed id)).stand id caller (.answered given)).Owned net := by
  obtain ⟨found, aloft', member⟩ := (owned.aboard_iff id place).mp ⟨caller, here, by rw [leaving]; rfl⟩
  cases aloft.symm.trans aloft'
  have sound := owned.sound place flight aloft
  have waiterContexts := flight.departed_waiterContexts id
  apply owned.turn here aloft (sound.departed member) (flight.becomes_departed id)
  · simp [leaving, Stage.flight?]
  · simp [Stage.flight?]
  · simp [Stage.flight?, waiterContexts, sound.nodup.mem_erase_iff]
  · intro other apart
    rw [waiterContexts, List.mem_erase_of_ne apart]
  · simp [Stage.flight?]
  · rw [waiterContexts]
    exact sound.departed_abandoned member
  · exact fun answer answered => owned.earned id caller answer here (by rw [leaving]; exact answered)

/-- A flight changes that no call joins or leaves, and with it the board and the count. -/
theorem Owned.change (owned : state.Owned net) (aloft : state.flights[place]? = some flight)
    (sound : changed.Sound net) (address : changed.address = flight.address)
    (ready : flight.ready = true → changed.ready = true)
    (waiterContexts : changed.waiterContexts = flight.waiterContexts)
    (forsaken : changed.abandoned = true → flight.abandoned = true ∨
      state.contextFlightHasLiveWaiter flight = false)
    (current : changed.current = true →
      flight.current = true ∧ (flight.abandoned = true → changed.abandoned = true))
    {board : Store GoString Nat} {active : Nat} (active_le : active ≤ 2)
    (active_eq : active = (state.flights.set place changed).countP fun flight => !flight.exited)
    (board_iff : ∀ address (seat : Nat), board.lookup address = some seat ↔
      ∃ found : IPContextFlight, (state.flights.set place changed)[seat]? = some found ∧
        found.address = address ∧ found.current = true) :
    Owned net { state with
      flights := state.flights.set place changed, board := board, active := active } := by
  refine { owned with active_eq := active_eq, active_le := active_le, board_iff := board_iff,
                      sound := ?_, aboard_iff := ?_, shared := ?_, drained := ?_ }
  all_goals dsimp only
  · have before := owned.sound
    grind
  · intro other seat
    refine (owned.aboard_iff other seat).trans ?_
    grind
  · intro other seat caller found here aboard aloft'
    have before := owned.shared other seat caller
    rcases (getElem?_set_cases aloft).mp aloft' with ⟨rfl, rfl⟩ | ⟨_, old⟩
    · have dead := fun dead => owned.ended_of_dead aloft dead here aboard
      grind
    · exact before found here aboard old
  · have before := owned.drained
    grind

theorem Owned.ofFlight (owned : state.Owned net) (aloft : state.flights[place]? = some flight)
    (sound : changed.Sound net) (becomes : flight.Becomes changed)
    (waiterContexts : changed.waiterContexts = flight.waiterContexts)
    (forsaken : changed.abandoned = true → flight.abandoned = true ∨
      state.contextFlightHasLiveWaiter flight = false) : (state.setFlight place changed).Owned net :=
  owned.change aloft sound becomes.address becomes.ready waiterContexts forsaken
    (fun current => ⟨becomes.current ▸ current, becomes.abandoned⟩) owned.active_le
    (owned.active_set aloft becomes.exited) (owned.board_set aloft becomes)

/-- A flight takes off. -/
theorem Owned.launch (owned : state.Owned net) (here : state.callers[id]? = some caller)
    (entering : caller.stage.flight? = none) (free : state.board.lookup caller.address = none)
    (room : state.active < 2) (open_ : state.draining = false) : (state.launch id caller).Owned net := by
  have past : state.flights[state.flights.length]? = none := List.getElem?_eq_none le_rfl
  have idle : ∀ place : Nat, ¬∃ flight : IPContextFlight, state.flights[place]? = some flight ∧
      id ∈ flight.waiterContexts := by
    intro place waits
    obtain ⟨rival, found, aboard⟩ := (owned.aboard_iff id place).mpr waits
    grind
  unfold IPContextService.launch
  constructor <;> dsimp only [stand, setCaller]
  · rw [countP_concat, ← owned.active_eq]
    rfl
  · exact room
  · intro address place
    rw [Store.lookup_insert_eq_some, owned.board_iff]
    have fresh : (IPContextFlight.launched caller.address id).current = true := rfl
    have vacant := owned.board_iff caller.address place
    simp only [getElem?_concat_cases]
    grind [IPContextFlight.launched]
  · intro place flight found
    rcases getElem?_concat_cases.mp found with ⟨_, rfl⟩ | old
    · exact IPContextFlight.sound_launched _ _
    · exact owned.sound place flight old
  · intro other place
    have before := owned.aboard_iff other place
    simp only [getElem?_concat_cases, getElem?_set_cases here]
    grind [IPContextFlight.launched, Stage.flight?]
  · intro other seat rival found rivalHere aboard foundHere
    rcases (getElem?_set_cases here).mp rivalHere with ⟨rfl, rfl⟩ | ⟨_, old⟩ <;>
      rcases getElem?_concat_cases.mp foundHere with ⟨rfl, rfl⟩ | aloft
    · exact ⟨rfl, nofun, nofun⟩
    · cases Option.some.inj aboard
      cases past.symm.trans aloft
    · obtain ⟨_, nowhere, _⟩ := (owned.aboard_iff _ _).mp ⟨rival, old, aboard⟩
      cases past.symm.trans nowhere
    · exact owned.shared other seat rival found old aboard aloft
  · have before := owned.earned
    grind [Stage.answer?]
  · exact owned.cached
  · exact owned.size_le
  · exact fun draining => absurd (open_.symm.trans draining) Bool.false_ne_true

theorem lookup_clear {address other : GoString} {seat : Nat} :
    (state.clear place address).lookup other = some seat ↔
      state.board.lookup other = some seat ∧ ¬(other = address ∧ seat = place) := by
  unfold clear
  split
  · rw [Store.lookup_erase_eq_some]
    grind
  · grind

/-- The board after a flight has published or ended. -/
theorem Owned.board_clear (owned : state.Owned net) (aloft : state.flights[place]? = some flight)
    (gone : changed.current = false) (address : GoString) (seat : Nat) :
    (state.clear place flight.address).lookup address = some seat ↔ ∃ found : IPContextFlight,
      (state.flights.set place changed)[seat]? = some found ∧ found.address = address ∧
        found.current = true := by
  rw [lookup_clear, owned.board_iff]
  simp only [getElem?_set_cases aloft]
  grind

theorem Owned.recache (owned : state.Owned net) (cache : Store GoString IPContextCacheEntry)
    (sequence : Nat) (size_le : Store.size cache ≤ 256)
    (cached : ∀ address entry, cache.lookup address = some entry →
      Genuine net address entry.value ∧ stampText entry.value.expiresAt = some entry.expires) :
    { state with cache := cache, sequence := sequence }.Owned net :=
  ⟨owned.active_eq, owned.active_le, owned.board_iff, owned.sound, owned.aboard_iff,
    owned.shared, owned.earned, cached, size_le, owned.drained⟩

theorem oldestSnapshot_mem (entries : List (Sigma fun _ : GoString => IPContextCacheEntry))
    (nonempty : entries ≠ []) : (oldestSnapshot entries).1 ∈ entries.map Sigma.fst := by
  have picks : ∀ (rest : List (Sigma fun _ : GoString => IPContextCacheEntry)) oldest,
      (rest.foldl (fun oldest entry =>
        if oldest.1 = [] ∨ entry.2.used < oldest.2 ∨
          (entry.2.used = oldest.2 ∧ before entry.1 oldest.1) then (entry.1, entry.2.used)
        else oldest) oldest).1 ∈ oldest.1 :: rest.map Sigma.fst := by
    intro rest
    induction rest with
    | nil => simp
    | cons entry rest ih => grind
  cases entries with
  | nil => exact absurd rfl nonempty
  | cons entry rest => exact picks rest (entry.1, entry.2.used)

/-- The oldest record makes room for a new one. -/
theorem Owned.cacheSnapshot (owned : state.Owned net) {address : GoString} {value : IPContext}
    (genuine : Genuine net address value) : (state.cacheSnapshot value).Owned net := by
  obtain ⟨_, expires, _, _, _, _, ok⟩ := genuine.accepted
  have stamp : Stamp.parse value.expiresAt = some expires := by
    have written := ok.expiresAt
    grind [stampText, Option.filter_eq_some_iff]
  have room : ∃ room : Store GoString IPContextCacheEntry, Store.size room + 1 ≤ 256 ∧
      (∀ address entry, room.lookup address = some entry → state.cache.lookup address = some entry) ∧
      state.cacheSnapshot value = { state with
        sequence := state.sequence + 1
        cache := room.insert value.address ⟨cloneIPContext value,
          (Stamp.parse value.expiresAt).getD ⟨0, 0⟩, state.sequence + 1⟩ } := by
    refine ⟨_, ?_, ?_, rfl⟩
    · split
      · have present : (oldestSnapshot state.cache.entries).1 ∈ state.cache := by
          apply oldestSnapshot_mem
          grind [Store.size]
        exact (Store.size_erase present).trans_le owned.size_le
      · omega
    · split
      · exact fun _ _ found => (Store.lookup_erase_eq_some.mp found).2
      · exact fun _ _ found => found
  obtain ⟨room, size, kept, cache⟩ := room
  rw [cache, genuine.clone, stamp]
  apply owned.recache
  · by_cases present : value.address ∈ room
    · rw [Store.size_insert_of_mem present]
      omega
    · rw [Store.size_insert_of_notMem present]
      exact size
  · intro other entry found
    rcases Store.lookup_insert_eq_some.mp found with ⟨rfl, rfl⟩ | ⟨_, found⟩
    · exact ⟨⟨genuine.accepted, rfl⟩, ok.expiresAt⟩
    · exact owned.cached other entry (kept other entry found)

theorem Owned.land (owned : state.Owned net) (aloft : state.flights[place]? = some flight)
    (sent : flight.unsent = 0) (kept : flight.abandoned = false) {value : IPContext}
    {err : Option LookupError} (failed : err = none ∨ err = some .invalid)
    (genuine : err = none → Genuine net flight.address value) :
    (state.land place flight value err).Owned net := by
  have landed := (owned.sound place flight aloft).landed sent kept value failed genuine
  exact owned.change aloft landed rfl (fun _ => rfl) rfl .inl nofun owned.active_le
    (owned.active_set aloft rfl) (owned.board_clear aloft rfl)

/-- A flight publishes its record or is found abandoned. -/
theorem Owned.publish (owned : state.Owned net) (aloft : state.flights[place]? = some flight)
    (open_ : flight.ready = false) (sent : flight.unsent = 0) {value : IPContext}
    (address : value.address = flight.address) :
    (state.publish net place flight value).Owned net := by
  have sound := owned.sound place flight aloft
  have unpublished : flight.published = false := Bool.eq_false_iff.mpr fun published =>
    absurd (open_.symm.trans (sound.published published).1) Bool.false_ne_true
  have aboard : flight.exited = false := Bool.eq_false_iff.mpr fun exited =>
    absurd (open_.symm.trans (sound.exited exited).1) Bool.false_ne_true
  have current : flight.current = true := by rw [IPContextFlight.current, unpublished, aboard]; rfl
  unfold IPContextService.publish
  dsimp only
  cases live : state.contextFlightHasLiveWaiter flight with
  | false =>
      rw [if_neg Bool.false_ne_true, if_neg (by simp)]
      exact owned.ofFlight aloft ((sound.abandon unpublished).stranded sent rfl)
        ⟨rfl, fun _ => rfl, rfl, rfl, fun _ => rfl⟩ rfl fun _ => .inr live
  | true =>
      rw [if_pos rfl]
      split
      · rename_i lands
        obtain ⟨kept, -, -⟩ := lands
        split
        · rename_i written
          obtain ⟨data, written⟩ := Option.isSome_iff_exists.mp written
          have genuine : Genuine net flight.address value :=
            ⟨(accepted_of_MarshalIPContext written).1, address⟩
          exact (owned.land aloft sent kept (.inl rfl) fun _ => genuine).cacheSnapshot genuine
        · exact owned.land aloft sent kept (.inr rfl) nofun
      · rename_i strands
        have abandoned : flight.abandoned = true := by
          have drained := fun draining => owned.drained draining place flight aloft current
          grind
        exact owned.ofFlight aloft (sound.stranded sent abandoned)
          ⟨rfl, fun _ => rfl, rfl, rfl, fun kept => kept⟩ rfl fun _ => .inl abandoned

theorem Owned.exit (owned : state.Owned net) (aloft : state.flights[place]? = some flight)
    (ready : flight.ready = true) (aboard : flight.exited = false) (done : flight.work = 0) :
    (state.exit place flight).Owned net := by
  have sound := owned.sound place flight aloft
  have counted := @countP_set_add _ (fun flight : IPContextFlight => !flight.exited) _ _ _
    { flight with ctxDone := true, exited := true } aloft
  simp only [aboard, Bool.not_false, Bool.not_true, Bool.toNat_true, Bool.toNat_false] at counted
  have active_eq := owned.active_eq
  have ended : { flight with ctxDone := true, exited := true }.Sound net :=
    { sound with cancelled := fun _ => rfl, exited := fun _ => ⟨ready, rfl, done⟩ }
  have gone : { flight with ctxDone := true, exited := true }.current = false := by
    simp [IPContextFlight.current]
  refine owned.change aloft ended rfl (fun ready => ready) rfl .inl ?_
    ((Nat.sub_le _ _).trans owned.active_le) (by omega) (owned.board_clear aloft gone)
  simp [gone]

theorem Owned.listed_iff (owned : state.Owned net) (aloft : state.flights[place]? = some flight) :
    (state.board.entries.any fun entry => entry.2 = place) = true ↔ flight.current = true := by
  rw [List.any_eq_true]
  constructor
  · rintro ⟨⟨address, seat⟩, member, same⟩
    cases of_decide_eq_true same
    obtain ⟨found, aloft', _, current⟩ :=
      (owned.board_iff address seat).mp (AList.mem_lookup_iff.mpr member)
    cases aloft.symm.trans aloft'
    exact current
  · intro current
    exact ⟨⟨flight.address, place⟩, AList.mem_lookup_iff.mp
      ((owned.board_iff flight.address place).mpr ⟨flight, aloft, rfl, current⟩), decide_eq_true rfl⟩

/-- All flights on the board are abandoned, and no others. -/
theorem Owned.flights_beginDrain (owned : state.Owned net) (place : Nat) :
    state.beginDrain.flights[place]? = state.flights[place]?.map fun flight =>
      if flight.current then flight.abandon else flight := by
  rw [IPContextService.beginDrain]
  dsimp only
  rw [List.getElem?_mapIdx]
  cases aloft : state.flights[place]? with
  | none => rfl
  | some flight => simp only [Option.map_some, owned.listed_iff aloft]

theorem Owned.beginDrain (owned : state.Owned net) : state.beginDrain.Owned net := by
  have flights := owned.flights_beginDrain
  have exited : state.beginDrain.flights.map (fun flight => flight.exited) =
      state.flights.map fun flight => flight.exited := by
    apply List.ext_getElem?
    intro place
    rw [List.getElem?_map, flights, List.getElem?_map, Option.map_map]
    grind [IPContextFlight.abandon]
  constructor
  · rw [show state.beginDrain.active = state.active from rfl, owned.active_eq]
    have counted := fun flights : List IPContextFlight =>
      @List.countP_map _ _ (! ·) (fun flight : IPContextFlight => flight.exited) flights
    exact (counted _).symm.trans ((congrArg _ exited.symm).trans (counted _))
  · exact owned.active_le
  · intro address place
    refine (owned.board_iff address place).trans ?_
    rw [flights]
    grind [IPContextFlight.abandon, IPContextFlight.current]
  · intro place flight found
    rw [flights] at found
    obtain ⟨old, aloft, rfl⟩ := Option.map_eq_some_iff.mp found
    have sound := owned.sound place old aloft
    split
    · rename_i current
      exact sound.abandon (by simpa using (Bool.and_eq_true_iff.mp current).1)
    · exact sound
  · intro other place
    refine (owned.aboard_iff other place).trans ?_
    rw [flights]
    grind [IPContextFlight.abandon]
  · intro id place caller flight here aboard found
    rw [flights] at found
    have before := owned.shared id place caller
    grind [IPContextFlight.abandon, IPContextService.beginDrain]
  · intro id caller answer here given
    exact ⟨(owned.earned id caller answer here given).1, fun _ => .inl rfl⟩
  · exact owned.cached
  · exact owned.size_le
  · intro _ place flight found current
    rw [flights] at found
    grind [IPContextFlight.abandon, IPContextFlight.current]

/-- A call ends without a flight. -/
theorem Owned.dismiss (owned : state.Owned net) (here : state.callers[id]? = some caller)
    (entering : caller.stage = .entering) {given : Answer}
    (earned : Earned net state.draining caller given) :
    (state.stand id caller (.answered given)).Owned net := by
  apply owned.ofCaller here
  · simp [entering, Stage.flight?]
  · rfl
  · exact fun ended => ended
  · exact nofun
  · rintro _ ⟨rfl⟩
    exact earned

theorem Owned.seek (owned : state.Owned net) (here : state.callers[id]? = some caller)
    (entering : caller.stage = .entering) (open_ : state.draining = false) {clock : Time}
    (step : state.seek id caller clock = some after) : after.Owned net := by
  have unaboard : caller.stage.flight? = none := by rw [entering]; rfl
  unfold IPContextService.seek at step
  split at step
  · rename_i place seated
    obtain ⟨flight, aloft, address, current⟩ := (owned.board_iff _ _).mp seated
    simp only [aloft, Option.bind_eq_bind, Option.bind_some] at step
    have unpublished : flight.published = false := by
      simpa using (Bool.and_eq_true_iff.mp current).1
    have sound := owned.sound place flight aloft
    cases live : state.contextFlightHasLiveWaiter flight with
    | true =>
        simp only [live, unpublished, Bool.not_true, Bool.and_false, Bool.false_eq_true,
          if_false] at step
        split at step
        · cases step
          exact (owned.ofFlight aloft sound ⟨rfl, fun ready => ready, rfl, rfl, fun kept => kept⟩ rfl
            .inl).dismiss here entering ⟨nofun, nofun⟩
        · rename_i joinable
          cases step
          exact owned.join here unaboard aloft address (by grind) (by grind)
    | false =>
        simp only [live, unpublished, Bool.not_false, Bool.and_true, if_true,
          show flight.abandon.abandoned = true from rfl, true_or] at step
        cases step
        have abandoned := owned.ofFlight aloft (sound.abandon unpublished)
          ⟨rfl, fun ready => ready, rfl, rfl, fun _ => rfl⟩ rfl fun _ => .inr live
        exact abandoned.dismiss here entering ⟨nofun, nofun⟩
  · rename_i free
    split at step
    · cases step
      exact owned.dismiss here entering ⟨nofun, nofun⟩
    · rename_i room
      split at step
      · cases step
        exact owned.launch here unaboard free (Nat.lt_of_not_le room) open_
      · cases step
        exact owned.dismiss here entering ⟨nofun, nofun⟩

theorem Owned.enter (owned : state.Owned net) (here : state.callers[id]? = some caller)
    (entering : caller.stage = .entering) {clock : Time}
    (step : state.enter id caller clock = some after) : after.Owned net := by
  unfold IPContextService.enter at step
  split at step
  · cases step
    exact owned.dismiss here entering ⟨nofun, nofun⟩
  · rename_i open_
    have open_ := Bool.eq_false_iff.mpr open_
    split at step
    · rename_i cached found
      obtain ⟨genuine, expires⟩ := owned.cached _ _ found
      split at step
      · rename_i fresh
        cases step
        refine Owned.dismiss (owned.recache _ (state.sequence + 1) ?_ ?_) here entering ?_
        · rw [Store.size_insert_of_mem (Store.mem_of_lookup found)]
          exact owned.size_le
        · intro other entry old
          rcases Store.lookup_insert_eq_some.mp old with ⟨rfl, rfl⟩ | ⟨_, old⟩
          · exact ⟨genuine, expires⟩
          · exact owned.cached other entry old
        · rw [genuine.clone]
          refine ⟨?_, nofun⟩
          rintro _ ⟨rfl⟩
          exact .inr ⟨cached.value, cached.expires, genuine, rfl, expires, fresh⟩
      · have fewer := owned.recache (state.cache.erase caller.address) state.sequence
          ((Store.size_erase_le _ _).trans owned.size_le) fun other entry old =>
            owned.cached other entry (Store.lookup_erase_eq_some.mp old).2
        exact fewer.seek here entering open_ step
    · exact owned.seek here entering open_ step

theorem Owned.callerNext (owned : state.Owned net) (here : state.callers[id]? = some caller)
    {step : CallerStep} (taken : state.callerNext id caller step = some after) :
    after.Owned net := by
  unfold IPContextService.callerNext at taken
  split at taken
  · -- The context of the call ends.
    cases (Option.ite_none_right_eq_some.mp taken).2
    exact owned.ofCaller here rfl rfl (fun _ => rfl) (fun _ => .inl) fun answer given =>
      ⟨(owned.earned id caller answer here given).1, fun _ => .inr rfl⟩
  · rename_i entering
    exact owned.enter here entering taken
  · -- It gives up.
    rename_i aboard
    obtain ⟨err, ended, rfl⟩ := Option.map_eq_some_iff.mp taken
    refine owned.ofCaller here (by rw [aboard]; rfl) rfl (fun ended => ended) nofun ?_
    rintro _ ⟨rfl⟩
    exact ⟨nofun, fun _ => .inr (by rw [ended]; rfl)⟩
  · -- Its flight is ready.
    rename_i aboard
    obtain ⟨⟨_, ready⟩, same⟩ := Option.ite_none_right_eq_some.mp taken
    cases same
    refine owned.ofCaller here (by rw [aboard]; rfl) rfl (fun ended => ended) ?_ nofun
    rintro _ ⟨rfl⟩
    exact .inr fun flight aloft => by simpa [Option.mem_def.mp aloft] using ready
  · -- It takes the result.
    rename_i place aboard
    obtain ⟨flight, aloft, rfl⟩ := Option.map_eq_some_iff.mp taken
    refine owned.ofCaller here (by rw [aboard]; rfl) rfl (fun ended => ended) nofun ?_
    rintro _ ⟨rfl⟩
    obtain ⟨address, ready, forsaken⟩ :=
      owned.shared id place caller flight here (by rw [aboard]; rfl) aloft
    have sound := owned.sound place flight aloft
    unfold answer
    split
    · rename_i abandoned
      exact ⟨nofun, fun _ => forsaken abandoned⟩
    · rename_i kept
      rcases sound.failed with unfailed | failed
      · have genuine := sound.genuine ((sound.settled (ready aboard)).resolve_right kept) unfailed
        rw [unfailed]
        rw [address] at genuine
        refine ⟨?_, nofun⟩
        rintro _ ⟨rfl⟩
        exact .inl (genuine.clone.symm ▸ genuine)
      · rw [failed]
        exact ⟨nofun, nofun⟩
  · rename_i leaving
    obtain ⟨flight, aloft, rfl⟩ := Option.map_eq_some_iff.mp taken
    exact owned.leave here leaving aloft
  · cases taken

theorem Owned.flightNext (owned : state.Owned net) (aloft : state.flights[place]? = some flight)
    {step : FlightStep} (taken : state.flightNext net place flight step = some after) :
    after.Owned net := by
  cases step with
  | work work =>
      obtain ⟨changed, worked, rfl⟩ := Option.map_eq_some_iff.mp taken
      obtain ⟨sound, becomes, waiterContexts, same⟩ := (owned.sound place flight aloft).working worked
      exact owned.ofFlight aloft sound becomes waiterContexts fun abandoned => .inl (same ▸ abandoned)
  | publish now =>
      simp only [IPContextService.flightNext] at taken
      split at taken
      · rename_i open_ reverse registration routing
        cases taken
        exact owned.publish aloft open_
          (by simp [IPContextFlight.unsent, reverse, registration, routing]) rfl
      · cases taken
  | exit =>
      simp only [IPContextService.flightNext, Option.ite_none_right_eq_some] at taken
      obtain ⟨⟨ready, aboard, done⟩, taken⟩ := taken
      cases taken
      exact owned.exit aloft ready aboard done

theorem Owned.step (owned : state.Owned net) {action : Action}
    (taken : next net state action = some after) : after.Owned net := by
  cases action with
  | call address started now ended =>
      cases taken
      have unaboard : (begin net address now ended).flight? = none := by
        cases ended <;> simp only [begin] <;> split <;> rfl
      have earned : ∀ answer, (begin net address now ended).answer? = some answer →
          ∀ caller : Caller, caller.ended = ended → Earned net state.draining caller answer := by
        intro answer given caller same
        cases ended <;> simp only [begin] at given <;> split at given <;> cases given
        · exact ⟨nofun, nofun⟩
        · exact ⟨nofun, fun _ => .inr (by rw [same]; rfl)⟩
        · exact ⟨nofun, nofun⟩
      have past : state.callers[state.callers.length]? = none := List.getElem?_eq_none le_rfl
      refine { owned with aboard_iff := ?_, shared := ?_, earned := ?_ } <;>
        simp only [getElem?_concat_cases]
      · intro id place
        refine Iff.trans ?_ (owned.aboard_iff id place)
        grind
      · have before := owned.shared
        grind
      · have before := owned.earned
        grind
  | beginDrain =>
      cases taken
      exact owned.beginDrain
  | caller id step =>
      obtain ⟨caller, here, taken⟩ := Option.bind_eq_some_iff.mp taken
      exact owned.callerNext here taken
  | flight place step =>
      obtain ⟨flight, aloft, taken⟩ := Option.bind_eq_some_iff.mp taken
      exact owned.flightNext aloft taken

theorem owned_of_reachable (reachable : Reachable (next net) initial state) : state.Owned net :=
  reachable.invariant _ owned_initial fun _ _ _ owned taken => owned.step taken

def sampleTime : Time := (stampText sampleStamp).getD ⟨0, 0⟩

/-- One call is answered by its flight, and the next from the cache. -/
def sampleActions : List Action :=
  [.call sample.address sampleTime sampleTime none, .caller 0 (.enter sampleTime),
    .flight 0 (.work (.reverse sample.reverseDNS)),
    .flight 0 (.work (.registration sample.registration)),
    .flight 0 (.work (.routing sample.routing)), .flight 0 (.publish sampleTime),
    .caller 0 .wake, .caller 0 .collect, .call sample.address sampleTime sampleTime none,
    .caller 1 (.enter sampleTime)]

theorem execute_sampleActions :
    ((execute (next sampleNet) initial sampleActions).any fun state =>
      (state.callers.map fun caller =>
        (caller.stage.answer?.bind Except.toOption).map IPContext.source) =
          [some (GoString.ofString "upstream"), some (GoString.ofString "cache")]) = true := by
  decide +kernel

/-- In every reachable state no more flights are under way than may be, each is found by its
address until it publishes or ends, and it accounts for its waiters and for its work. -/
theorem flights_owned (reachable : Reachable (next net) initial state) :
    state.active = state.flights.countP (fun flight => !flight.exited) ∧ state.active ≤ 2 ∧
      ∀ (place : Nat) (flight : IPContextFlight), state.flights[place]? = some flight →
        flight.Sound net ∧
          (state.board.lookup flight.address = some place ↔ flight.current = true) ∧
            ∀ id, id ∈ flight.waiterContexts ↔ ∃ caller : Caller,
              state.callers[id]? = some caller ∧ caller.stage.flight? = some place := by
  have owned := owned_of_reachable reachable
  refine ⟨owned.active_eq, owned.active_le, fun place flight aloft =>
    ⟨owned.sound place flight aloft, ?_, fun id => ?_⟩⟩
  · rw [owned.board_iff]
    grind
  · rw [owned.aboard_iff]
    grind

theorem flights_owned_sample :
    ∃ state, execute (next sampleNet) initial sampleActions = some state ∧
      state.active = state.flights.countP fun flight => !flight.exited := by
  obtain ⟨state, run, _⟩ := (Option.any_eq_true _ _).mp execute_sampleActions
  exact ⟨state, run, (flights_owned (.of_execute run)).1⟩

/-- In every reachable state every answer was earned, and the cache keeps no more than it may and
only what it may answer with. -/
theorem answers_earned (reachable : Reachable (next net) initial state) :
    (∀ caller ∈ state.callers, ∀ answer, caller.stage.answer? = some answer →
      Earned net state.draining caller answer) ∧
      Store.size state.cache ≤ 256 ∧ ∀ address entry, state.cache.lookup address = some entry →
        Genuine net address entry.value ∧
          stampText entry.value.expiresAt = some entry.expires := by
  have owned := owned_of_reachable reachable
  refine ⟨fun caller member answer given => ?_, owned.size_le, owned.cached⟩
  obtain ⟨id, here⟩ := List.getElem?_of_mem member
  exact owned.earned id caller answer here given

theorem answers_earned_sample :
    ∃ state, execute (next sampleNet) initial sampleActions = some state ∧
      ∀ caller ∈ state.callers, ∀ answer, caller.stage.answer? = some answer →
        Earned sampleNet state.draining caller answer := by
  obtain ⟨state, run, _⟩ := (Option.any_eq_true _ _).mp execute_sampleActions
  exact ⟨state, run, (answers_earned (.of_execute run)).1⟩

end IPContextService
end CheckNetwork.Context.Owner
