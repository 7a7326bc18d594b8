import CheckNetwork.Lookup.Client

/-!
# What a step of the client does

Each enabled action as the block of the code that it runs, with the facts under
which it runs.  Invariants of a run are proved from these cases.
-/

namespace CheckNetwork.Lookup

open Collection Go

/-- What the lookup of an address finds in the cache where it does not serve
it: nothing, or an entry at or past its expiry, which it deletes. -/
inductive Unserved (state : State) (address : GoString) (now : Time) :
    Store GoString GeoIPCacheEntry → Prop
  | absent (missing : state.cache.lookup address = none) : Unserved state address now state.cache
  | expired {entry : GeoIPCacheEntry} (found : state.cache.lookup address = some entry)
      (stale : now.before entry.expiresAt = false) :
      Unserved state address now (state.cache.erase address)

inductive Effect (client : IPWhoIsLookup) (state : State) : State → Prop
  | begin (ip : IP) (ctxErr : Option ContextError) (now : Time) :
      Effect client state (state.begin ip ctxErr now)
  | hit {index : Nat} {caller : Caller} {now : Time} {entry : GeoIPCacheEntry}
      (here : state.callers[index]? = some caller) (entering : caller.call = .entering now)
      (found : state.cache.lookup caller.address = some entry)
      (fresh : now.before entry.expiresAt = true) :
      Effect client state (state.hit index caller entry)
  | busy {index : Nat} {caller : Caller} {now : Time} {cache : Store GoString GeoIPCacheEntry}
      (here : state.callers[index]? = some caller) (entering : caller.call = .entering now)
      (unserved : Unserved state caller.address now cache) :
      Effect client state ({ state with cache := cache }.fail index caller ⟨.busy, true⟩)
  | join {index id : Nat} {caller : Caller} {now : Time} {cache : Store GoString GeoIPCacheEntry}
      {flight : GeoIPFlight}
      (here : state.callers[index]? = some caller) (entering : caller.call = .entering now)
      (unserved : Unserved state caller.address now cache)
      (current : state.inflight caller.address = some id)
      (aloft : state.flights[id]? = some flight)
      (present : flight.abandoned = false) (open_ : flight.terminal = false) :
      Effect client state ({ state with cache := cache }.join index caller id flight)
  | launch {index : Nat} {caller : Caller} {now : Time} {cache : Store GoString GeoIPCacheEntry}
      {hasActive : Bool}
      (here : state.callers[index]? = some caller) (entering : caller.call = .entering now)
      (unserved : Unserved state caller.address now cache)
      (unjoinable : state.joinable caller.address = none)
      (token : hasActive = true → state.active < client.maxActive)
      (lease : hasActive = false → state.queued < client.maxQueued) :
      Effect client state ({ state with cache := cache }.launch index caller hasActive)
  | collect {index id : Nat} {caller : Caller} {flight : GeoIPFlight}
      (here : state.callers[index]? = some caller) (waiting : caller.call = .waiting id)
      (aloft : state.flights[id]? = some flight) (closed : flight.terminal = true) :
      Effect client state (state.collect index caller id flight)
  | leave {index id : Nat} {caller : Caller} {flight : GeoIPFlight} {err : ContextError}
      (here : state.callers[index]? = some caller) (waiting : caller.call = .waiting id)
      (aloft : state.flights[id]? = some flight) (open_ : flight.terminal = false)
      (others : flight.waiters - 1 ≠ 0) :
      Effect client state
        ((state.setFlight id { flight with waiters := flight.waiters - 1 }).fail index caller
          (geoIPContextError err))
  | abandon {index id : Nat} {caller : Caller} {flight : GeoIPFlight} {err : ContextError}
      (here : state.callers[index]? = some caller) (waiting : caller.call = .waiting id)
      (aloft : state.flights[id]? = some flight) (open_ : flight.terminal = false)
      (last : flight.waiters - 1 = 0) :
      Effect client state
        ((state.abandon id { flight with waiters := flight.waiters - 1 }).fail index caller
          (geoIPContextError err))
  | again : Effect client state state
  | done {index : Nat} {caller : Caller} (here : state.callers[index]? = some caller)
      (err : ContextError) : Effect client state (state.done index caller err)
  | writeGeolocation {index : Nat} {caller : Caller}
      (here : state.callers[index]? = some caller) (value : Diagnostic.GeoLocation) :
      Effect client state (state.writeGeolocation caller value)
  | writeASN {index : Nat} {caller : Caller} (here : state.callers[index]? = some caller)
      (value : Diagnostic.ASNInfo) : Effect client state (state.writeASN caller value)
  | take {id : Nat} {flight : GeoIPFlight} (aloft : state.flights[id]? = some flight)
      (queued : flight.stage = .queued) (room : state.active < client.maxActive) :
      Effect client state (state.take id flight)
  | giveUp {id : Nat} {flight : GeoIPFlight} (aloft : state.flights[id]? = some flight)
      (queued : flight.stage = .queued) :
      Effect client state (state.giveUp id flight)
  | start {id : Nat} {flight : GeoIPFlight} (aloft : state.flights[id]? = some flight)
      (admitted : flight.stage = .admitted) : Effect client state (state.start id flight)
  | callProvider {id : Nat} {flight : GeoIPFlight} (aloft : state.flights[id]? = some flight)
      (calling : flight.stage = .calling) (outcome : Option (Seen × Option GeoIPError)) :
      Effect client state (state.callProvider id flight outcome)
  | handBack {id : Nat} {flight : GeoIPFlight} {metadata : Held} {err : Option GeoIPError}
      (aloft : state.flights[id]? = some flight) (leaving : flight.stage = .leaving metadata err) :
      Effect client state (state.handBack id flight metadata err)
  | complete {id : Nat} {flight : GeoIPFlight} {metadata : Held} {err : Option GeoIPError}
      (aloft : state.flights[id]? = some flight)
      (completing : flight.stage = .completing metadata err) (now : Time) :
      Effect client state (state.completeFlight client id flight metadata err now)

namespace Effect

variable {client : IPWhoIsLookup} {state after : State} {index id : Nat} {caller : Caller}
  {flight : GeoIPFlight} {action : Action}

theorem of_joinable (joinable : state.joinable caller.address = some (id, flight)) :
    state.inflight caller.address = some id ∧ state.flights[id]? = some flight ∧
      flight.abandoned = false ∧ flight.terminal = false := by
  obtain ⟨found, current, rest⟩ := Option.bind_eq_some_iff.mp joinable
  obtain ⟨aloft, lookup, rest⟩ := Option.bind_eq_some_iff.mp rest
  split at rest
  · cases rest
  · rename_i usable
    cases rest
    rw [Bool.or_eq_true, not_or, Bool.not_eq_true, Bool.not_eq_true] at usable
    exact ⟨current, lookup, usable⟩

theorem of_board {now : Time} {cache : Store GoString GeoIPCacheEntry}
    (here : state.callers[index]? = some caller) (entering : caller.call = .entering now)
    (unserved : Unserved state caller.address now cache) :
    Effect client state ({ state with cache := cache }.board client index caller) := by
  unfold State.board
  cases joinable : State.joinable { state with cache := cache } caller.address with
  | some found =>
      obtain ⟨current, aloft, present, open_⟩ := of_joinable joinable
      exact .join here entering unserved current aloft present open_
  | none =>
      dsimp only
      split
      · exact .busy here entering unserved
      · rename_i room
        apply Effect.launch here entering unserved joinable
        · exact of_decide_eq_true
        · intro noToken
          rw [noToken] at room
          simpa using room

theorem of_lookup {now : Time} (here : state.callers[index]? = some caller)
    (entering : caller.call = .entering now) :
    Effect client state (state.lookup client index caller now) := by
  unfold State.lookup
  cases found : state.cache.lookup caller.address with
  | some entry =>
      dsimp only
      split
      · rename_i fresh
        exact .hit here entering found fresh
      · rename_i stale
        exact of_board here entering (.expired found (Bool.eq_false_of_not_eq_true stale))
  | none => exact of_board here entering (.absent found)

theorem of_wait (here : state.callers[index]? = some caller) (waiting : caller.call = .waiting id)
    (aloft : state.flights[id]? = some flight) :
    Effect client state (state.waitForFlight index caller id flight) := by
  cases closed : flight.terminal with
  | true =>
      rw [State.waitForFlight, if_pos closed]
      exact .collect here waiting aloft closed
  | false =>
      rw [State.waitForFlight, if_neg (by simp [closed])]
      cases caller.ctxErr with
      | none => exact .again
      | some err =>
          dsimp only
          split
          · rename_i last
            exact .abandon here waiting aloft closed last
          · rename_i others
            exact .leave here waiting aloft closed others

theorem of_callerNext (here : state.callers[index]? = some caller)
    (step : state.callerNext client index caller action = some after) :
    Effect client state after := by
  cases action <;> simp only [State.callerNext, reduceCtorEq] at step
  case enter =>
    split at step
    · rename_i entering
      cases step
      exact of_lookup here entering
    · cases step
  case wake =>
    split at step
    · rename_i waiting
      obtain ⟨flight, aloft, step⟩ := Option.bind_eq_some_iff.mp step
      split at step
      · cases step
        exact of_wait here waiting aloft
      · cases step
    · cases step
  case done =>
    cases step
    exact .done here _
  case writeGeolocation =>
    cases step
    exact .writeGeolocation here _
  case writeASN =>
    cases step
    exact .writeASN here _

theorem of_flightNext (aloft : state.flights[id]? = some flight)
    (step : state.flightNext client id flight action = some after) :
    Effect client state after := by
  cases action <;> simp only [State.flightNext, reduceCtorEq] at step
  case take =>
    split at step
    · rename_i queued
      split at step
      · rename_i room
        cases step
        exact .take aloft queued room
      · cases step
    · cases step
  case giveUp =>
    split at step
    · rename_i queued
      split at step
      · cases step
        exact .giveUp aloft queued
      · cases step
    · cases step
  case start =>
    split at step
    · rename_i admitted
      cases step
      exact .start aloft admitted
    · cases step
  case callProvider =>
    split at step
    · rename_i calling
      cases step
      exact .callProvider aloft calling _
    · cases step
  case handBack =>
    split at step
    · rename_i leaving
      split at step
      · cases step
        exact .handBack aloft leaving
      · cases step
    · cases step
  case complete =>
    split at step
    · rename_i completing
      cases step
      exact .complete aloft completing _
    · cases step

/-- Every enabled action runs one of the blocks. -/
theorem of_next (step : State.next client state action = some after) :
    Effect client state after := by
  cases action
  case begin =>
    cases step
    exact .begin _ _ _
  case enter | wake | done | writeGeolocation | writeASN =>
    obtain ⟨caller, here, step⟩ := Option.bind_eq_some_iff.mp step
    exact of_callerNext here step
  case take | giveUp | start | callProvider | handBack | complete =>
    obtain ⟨flight, aloft, step⟩ := Option.bind_eq_some_iff.mp step
    exact of_flightNext aloft step

end Effect
end CheckNetwork.Lookup
