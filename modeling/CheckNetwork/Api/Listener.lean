import CheckNetwork.Collection.Census
import CheckNetwork.Transition.Core

/-!
# The bounded listener

`boundedListener` hands out a connection with a lease, or closes it.  Any number
of goroutines call `Accept`, close a connection that was handed out, and close the
listener.  Each step is one of their accesses to what they share.
-/

namespace CheckNetwork.Api.Listener

open Collection Transition

/-! ## Functions that run once -/

/-- A `sync.Once`: who runs its function, and whether it has run. -/
inductive Once
  | fresh
  | running (caller : Nat)
  | ran (caller : Nat)
  | done
  deriving DecidableEq

/-- The function has run. -/
def Once.past : Once → Bool
  | .fresh | .running _ => false
  | .ran _ | .done => true

/-! ## State -/

/-- A connection of the inner listener; `accept` is the call that accepted it. -/
structure Conn where
  accept : Nat
  opened : Bool
  leased : Bool
  releaseOnce : Once
  releases : Nat
  deriving DecidableEq

/-- Where a call of `Accept` is. -/
inductive Accepting
  | waiting
  | accepted (conn : Nat)
  | rejecting (conn : Nat)
  | backoff
  | returned (conn : Nat)
  | failed
  deriving DecidableEq

inductive Closing
  | closing
  | releasing
  | returned
  deriving DecidableEq

/-- A call of `Close` of a connection that was handed out. -/
structure Closer where
  conn : Nat
  stage : Closing
  deriving DecidableEq

/-- The channels and counters of a listener, and the calls that run.  `closings`
counts how often the channel `done` was closed. -/
structure State where
  leases : Nat
  closings : Nat
  closeOnce : Once
  rejected : Nat
  conns : List Conn
  accepts : List Accepting
  closers : List Closer
  shutters : List Bool
  deriving DecidableEq

/-- `newBoundedListener`. -/
def initial : State where
  leases := 0
  closings := 0
  closeOnce := .fresh
  rejected := 0
  conns := []
  accepts := []
  closers := []
  shutters := []

/-! ## Steps -/

/-- The inner listener returns a connection, or an error. -/
def innerAccept (call : Nat) (connects : Bool) (state : State) : Option State :=
  match state.accepts[call]? with
  | some .waiting => some <|
      if connects then
        { state with
          conns := state.conns ++ [⟨call, true, false, .fresh, 0⟩]
          accepts := state.accepts.set call (.accepted state.conns.length) }
      else { state with accepts := state.accepts.set call .failed }
  | _ => none

/-- `Accept` takes a lease, when there is one. -/
def lease (limit call : Nat) (state : State) : Option State :=
  match state.accepts[call]? with
  | some (.accepted index) =>
      state.conns[index]?.map fun conn =>
        if state.leases < limit then
          { state with
            leases := state.leases + 1
            conns := state.conns.set index { conn with leased := true }
            accepts := state.accepts.set call (.returned index) }
        else
          { state with
            rejected := state.rejected + 1
            accepts := state.accepts.set call (.rejecting index) }
  | _ => none

/-- `Accept` closes the connection that it does not hand out. -/
def reject (call : Nat) (state : State) : Option State :=
  match state.accepts[call]? with
  | some (.rejecting index) =>
      state.conns[index]?.map fun conn =>
        { state with
          conns := state.conns.set index { conn with opened := false }
          accepts := state.accepts.set call .backoff }
  | _ => none

/-- The timer fires, or the listener is closed. -/
def wake (call : Nat) (timer : Bool) (state : State) : Option State :=
  match state.accepts[call]? with
  | some .backoff =>
      if timer then some { state with accepts := state.accepts.set call .waiting }
      else if 0 < state.closings then some { state with accepts := state.accepts.set call .failed }
      else none
  | _ => none

/-- Who was handed a connection closes it. -/
def close (index : Nat) (state : State) : Option State :=
  match state.conns[index]? with
  | some conn =>
      if conn.leased then some { state with closers := state.closers ++ [⟨index, .closing⟩] } else none
  | none => none

/-- The inner connection is closed. -/
def closeInner (caller : Nat) (state : State) : Option State :=
  match state.closers[caller]? with
  | some ⟨index, .closing⟩ =>
      state.conns[index]?.map fun conn =>
        { state with
          conns := state.conns.set index { conn with opened := false }
          closers := state.closers.set caller ⟨index, .releasing⟩ }
  | _ => none

/-- `releaseOnce.Do(release)`, up to the next access.  Receiving from the leases
waits for one, and other callers wait until the function has run. -/
def release (caller : Nat) (state : State) : Option State :=
  match state.closers[caller]? with
  | some ⟨index, .releasing⟩ =>
      match state.conns[index]? with
      | none => none
      | some conn =>
          match conn.releaseOnce with
          | .fresh => some
              { state with conns := state.conns.set index { conn with releaseOnce := .running caller } }
          | .running owner =>
              if owner = caller ∧ 0 < state.leases then some
                { state with
                  leases := state.leases - 1
                  conns := state.conns.set index
                    { conn with releaseOnce := .ran caller, releases := conn.releases + 1 } }
              else none
          | .ran owner =>
              if owner = caller then some
                { state with
                  conns := state.conns.set index { conn with releaseOnce := .done }
                  closers := state.closers.set caller ⟨index, .returned⟩ }
              else none
          | .done => some { state with closers := state.closers.set caller ⟨index, .returned⟩ }
  | _ => none

/-- `Close` of the listener goes on: `done` is closed once, and the inner listener
with it. -/
def shut (caller : Nat) (state : State) : Option State :=
  match state.shutters[caller]? with
  | some false =>
      match state.closeOnce with
      | .fresh => some { state with closeOnce := .running caller }
      | .running owner =>
          if owner = caller then
            some { state with closings := state.closings + 1, closeOnce := .ran caller }
          else none
      | .ran owner =>
          if owner = caller then
            some { state with closeOnce := .done, shutters := state.shutters.set caller true }
          else none
      | .done => some { state with shutters := state.shutters.set caller true }
  | _ => none

inductive Action
  | accept
  | innerAccept (call : Nat) (connects : Bool)
  | lease (call : Nat)
  | reject (call : Nat)
  | wake (call : Nat) (timer : Bool)
  | close (conn : Nat)
  | closeInner (caller : Nat)
  | release (caller : Nat)
  | closeListener
  | shut (caller : Nat)

def next (limit : Nat) : Step State Action
  | state, .accept => some { state with accepts := state.accepts ++ [.waiting] }
  | state, .innerAccept call connects => innerAccept call connects state
  | state, .lease call => lease limit call state
  | state, .reject call => reject call state
  | state, .wake call timer => wake call timer state
  | state, .close conn => close conn state
  | state, .closeInner caller => closeInner caller state
  | state, .release caller => release caller state
  | state, .closeListener => some { state with shutters := state.shutters ++ [false] }
  | state, .shut caller => shut caller state

/-! ## Leases -/

/-- The lease of the connection is not returned. -/
def Conn.holds (conn : Conn) : Bool := conn.leased && !conn.releaseOnce.past

/-- What holds of a connection, given the calls. -/
structure Conn.Ok (accepts : List Accepting) (closers : List Closer) (index : Nat) (conn : Conn) :
    Prop where
  releases : conn.releases = conn.releaseOnce.past.toNat
  closed : conn.releaseOnce ≠ .fresh → conn.opened = false ∧ conn.leased = true
  handed : conn.leased = true → accepts[conn.accept]? = some (.returned index)
  deciding : conn.leased = false → conn.opened = true →
    accepts[conn.accept]? = some (.accepted index) ∨ accepts[conn.accept]? = some (.rejecting index)
  runner : ∀ caller, conn.releaseOnce = .running caller ∨ conn.releaseOnce = .ran caller →
    closers[caller]? = some ⟨index, .releasing⟩

/-- What holds of a call of `Accept` that has a connection. -/
def Accepting.Ok (conns : List Conn) (call : Nat) : Accepting → Prop
  | .accepted index | .rejecting index => ∃ conn : Conn, conns[index]? = some conn ∧
      conn.accept = call ∧ conn.leased = false
  | _ => True

/-- What holds of a call of `Close`. -/
def Closer.Ok (conns : List Conn) (closer : Closer) : Prop :=
  ∃ conn : Conn, conns[closer.conn]? = some conn ∧ conn.leased = true ∧
    (closer.stage ≠ .closing → conn.opened = false) ∧
      (closer.stage = .returned → conn.releaseOnce = .done)

structure Inv (limit : Nat) (state : State) : Prop where
  bound : state.leases ≤ limit
  count : state.leases = state.conns.countP Conn.holds
  conns : ∀ (index : Nat) (conn : Conn), state.conns[index]? = some conn →
    conn.Ok state.accepts state.closers index
  accepts : ∀ (call : Nat) (stage : Accepting), state.accepts[call]? = some stage →
    stage.Ok state.conns call
  closers : ∀ (caller : Nat) (closer : Closer), state.closers[caller]? = some closer →
    closer.Ok state.conns
  closings : state.closings = state.closeOnce.past.toNat

theorem inv_initial (limit : Nat) : Inv limit initial where
  bound := Nat.zero_le limit
  count := rfl
  conns _ _ found := by cases found
  accepts _ _ found := by cases found
  closers _ _ found := by cases found
  closings := rfl

/-! ## Changes of one call -/

section Changes

variable {accepts : List Accepting} {closers : List Closer} {conns : List Conn} {call index : Nat}
  {conn changed : Conn} {stage new : Accepting}

/-- A call that does not return the connection, nor decides on it, may go anywhere. -/
theorem Conn.Ok.set_accepts (ok : conn.Ok accepts closers index)
    (found : accepts[call]? = some stage) (notReturned : stage ≠ .returned index)
    (notDeciding : stage ≠ .accepted index ∧ stage ≠ .rejecting index) :
    conn.Ok (accepts.set call new) closers index := by
  by_cases own : call = conn.accept
  · subst own
    refine ⟨ok.releases, ok.closed, ?_, ?_, ok.runner⟩
    · intro leased
      exact absurd (Option.some.inj (found.symm.trans (ok.handed leased))) notReturned
    · intro free opened
      rcases ok.deciding free opened with accepted | rejecting
      · exact absurd (Option.some.inj (found.symm.trans accepted)) notDeciding.1
      · exact absurd (Option.some.inj (found.symm.trans rejecting)) notDeciding.2
  · refine ⟨ok.releases, ok.closed, ?_, ?_, ok.runner⟩
    · rw [List.getElem?_set_ne own]
      exact ok.handed
    · rw [List.getElem?_set_ne own]
      exact ok.deciding

theorem Conn.Ok.set_closers (ok : conn.Ok accepts closers index) {caller : Nat} {old new : Closer}
    (found : closers[caller]? = some old)
    (keeps : conn.releaseOnce = .running caller ∨ conn.releaseOnce = .ran caller →
      new = ⟨index, .releasing⟩) :
    conn.Ok accepts (closers.set caller new) index := by
  refine ⟨ok.releases, ok.closed, ok.handed, ok.deciding, ?_⟩
  intro owner runs
  by_cases same : caller = owner
  · subst same
    rw [List.getElem?_set_self (List.getElem?_eq_some_iff.mp found).1, keeps runs]
  · rw [List.getElem?_set_ne same]
    exact ok.runner owner runs

/-- A connection that keeps its call and its lease suits the calls that it suited. -/
theorem Accepting.Ok.set_conns (ok : stage.Ok conns call) (found : conns[index]? = some conn)
    (accept : changed.accept = conn.accept) (leased : changed.leased = conn.leased) :
    stage.Ok (conns.set index changed) call := by
  have moves : ∀ target : Nat, (∃ old : Conn, conns[target]? = some old ∧ old.accept = call ∧
      old.leased = false) → ∃ old : Conn, (conns.set index changed)[target]? = some old ∧
        old.accept = call ∧ old.leased = false := by
    rintro target ⟨old, foundOld, own, free⟩
    by_cases same : index = target
    · subst same
      cases found.symm.trans foundOld
      exact ⟨changed, List.getElem?_set_self (List.getElem?_eq_some_iff.mp found).1,
        accept.trans own, leased.trans free⟩
    · exact ⟨old, (List.getElem?_set_ne same).trans foundOld, own, free⟩
  cases stage with
  | accepted target => exact moves target ok
  | rejecting target => exact moves target ok
  | _ => trivial

/-- A connection that only goes forward suits the calls of `Close` that it suited. -/
theorem Closer.Ok.set_conns {closer : Closer} (ok : closer.Ok conns)
    (found : conns[index]? = some conn) (leased : conn.leased = true → changed.leased = true)
    (closed : conn.opened = false → changed.opened = false)
    (done : conn.releaseOnce = .done → changed.releaseOnce = .done) :
    closer.Ok (conns.set index changed) := by
  obtain ⟨old, foundOld, lease, shut, past⟩ := ok
  by_cases same : index = closer.conn
  · subst same
    cases found.symm.trans foundOld
    exact ⟨changed, List.getElem?_set_self (List.getElem?_eq_some_iff.mp found).1, leased lease,
      closed ∘ shut, done ∘ past⟩
  · exact ⟨old, (List.getElem?_set_ne same).trans foundOld, lease, shut, past⟩

end Changes

/-! ## Each step -/

section Steps

variable {limit call caller index : Nat} {state after : State}

/-- The rule for a step that changes one connection. -/
theorem Inv.setConn (inv : Inv limit state) {conn changed : Conn}
    (found : state.conns[index]? = some conn) (conns : after.conns = state.conns.set index changed)
    (bound : after.leases ≤ limit)
    (count : after.leases + conn.holds.toNat = state.leases + changed.holds.toNat)
    (ok : changed.Ok after.accepts after.closers index)
    (others : ∀ (other : Nat) (conn : Conn), other ≠ index → state.conns[other]? = some conn →
      conn.Ok state.accepts state.closers other → conn.Ok after.accepts after.closers other)
    (accepts : ∀ (call : Nat) (stage : Accepting), after.accepts[call]? = some stage →
      stage.Ok (state.conns.set index changed) call)
    (closers : ∀ (caller : Nat) (closer : Closer), after.closers[caller]? = some closer →
      closer.Ok (state.conns.set index changed))
    (closings : after.closings = after.closeOnce.past.toNat) : Inv limit after := by
  refine ⟨bound, ?_, ?_, conns ▸ accepts, conns ▸ closers, closings⟩
  · have counts := @countP_set_add _ Conn.holds _ _ _ changed found
    have before := inv.count
    rw [conns]
    omega
  · intro other member foundMember
    rw [conns] at foundMember
    rcases (getElem?_set_cases found).mp foundMember with ⟨rfl, rfl⟩ | ⟨different, before⟩
    · exact ok
    · exact others other member different before (inv.conns other member before)

theorem Inv.innerAccept (inv : Inv limit state) {connects : Bool}
    (step : innerAccept call connects state = some after) : Inv limit after := by
  unfold Listener.innerAccept at step
  split at step
  · rename_i found
    have moved : ∀ {index : Nat} {conn : Conn} {new : Accepting},
        state.conns[index]? = some conn →
          conn.Ok (state.accepts.set call new) state.closers index := fun foundConn =>
      (inv.conns _ _ foundConn).set_accepts found nofun ⟨nofun, nofun⟩
    split at step <;> cases step
    · have grows : ∀ {target : Nat} {conn : Conn}, state.conns[target]? = some conn →
          (state.conns ++ [⟨call, true, false, .fresh, 0⟩])[target]? = some conn := fun foundConn =>
        getElem?_concat_cases.mpr (.inr foundConn)
      refine ⟨inv.bound, ?_, ?_, ?_, ?_, inv.closings⟩
      · rw [countP_concat, ← inv.count]
        rfl
      · intro index conn foundConn
        rcases getElem?_concat_cases.mp foundConn with ⟨rfl, rfl⟩ | before
        · refine ⟨rfl, fun past => absurd rfl past, nofun, fun _ _ => .inl ?_, ?_⟩
          · exact List.getElem?_set_self (List.getElem?_eq_some_iff.mp found).1
          · rintro caller (runs | ran) <;> contradiction
        · exact moved before
      · intro caller stage foundStage
        rcases (getElem?_set_cases found).mp foundStage with ⟨rfl, rfl⟩ | ⟨_, before⟩
        · exact ⟨_, List.getElem?_concat_length, rfl, rfl⟩
        · have ok := inv.accepts caller stage before
          cases stage with
          | accepted target =>
              obtain ⟨conn, foundConn, holds⟩ := ok
              exact ⟨conn, grows foundConn, holds⟩
          | rejecting target =>
              obtain ⟨conn, foundConn, holds⟩ := ok
              exact ⟨conn, grows foundConn, holds⟩
          | _ => trivial
      · intro caller closer foundCloser
        obtain ⟨conn, foundConn, holds⟩ := inv.closers caller closer foundCloser
        exact ⟨conn, grows foundConn, holds⟩
    · refine ⟨inv.bound, inv.count, fun _ _ => moved, ?_, inv.closers, inv.closings⟩
      intro caller stage foundStage
      rcases (getElem?_set_cases found).mp foundStage with ⟨rfl, rfl⟩ | ⟨_, before⟩
      · trivial
      · exact inv.accepts caller stage before
  · cases step

/-- The calls of `Accept` but one hold other connections. -/
theorem Inv.accepts_set (inv : Inv limit state) {conn changed : Conn} {stage new : Accepting}
    (found : state.accepts[call]? = some stage) (foundConn : state.conns[index]? = some conn)
    (own : conn.accept = call) (ok : new.Ok (state.conns.set index changed) call) (other : Nat) (next : Accepting)
    (foundNext : (state.accepts.set call new)[other]? = some next) :
    next.Ok (state.conns.set index changed) other := by
  rcases (getElem?_set_cases found).mp foundNext with ⟨rfl, rfl⟩ | ⟨different, before⟩
  · exact ok
  · have holds := inv.accepts other next before
    have moves : ∀ target : Nat, (∃ old : Conn, state.conns[target]? = some old ∧ old.accept = other ∧
        old.leased = false) → ∃ old : Conn, (state.conns.set index changed)[target]? = some old ∧
          old.accept = other ∧ old.leased = false := by
      rintro target ⟨old, foundOld, owned, free⟩
      refine ⟨old, ?_, owned, free⟩
      rw [List.getElem?_set_ne]
      · exact foundOld
      · rintro rfl
        cases foundConn.symm.trans foundOld
        exact different (owned.symm.trans own)
    cases next with
    | accepted target => exact moves target holds
    | rejecting target => exact moves target holds
    | _ => trivial

theorem Inv.lease (inv : Inv limit state) (step : lease limit call state = some after) :
    Inv limit after := by
  unfold Listener.lease at step
  split at step
  · rename_i index found
    obtain ⟨conn, foundConn, rfl⟩ := Option.map_eq_some_iff.mp step
    obtain ⟨same, foundSame, own, free⟩ := inv.accepts call _ found
    cases foundConn.symm.trans foundSame
    have ok := inv.conns index conn foundConn
    have inside := (List.getElem?_eq_some_iff.mp found).1
    have fresh : conn.releaseOnce = .fresh := by
      by_contra past
      cases free.symm.trans (ok.closed past).2
    have others : ∀ (other : Nat) (member : Conn), other ≠ index →
        state.conns[other]? = some member → member.Ok state.accepts state.closers other →
          ∀ new, member.Ok (state.accepts.set call new) state.closers other := by
      intro other member different _ holds new
      refine holds.set_accepts found nofun ⟨?_, nofun⟩
      rintro ⟨rfl⟩
      exact different rfl
    split
    · rename_i room
      refine inv.setConn foundConn rfl room ?_ ?_
        (fun other member different foundMember holds =>
          others other member different foundMember holds _)
        (inv.accepts_set found foundConn own trivial) ?_ inv.closings
      · rw [Conn.holds, Conn.holds, free, fresh]
        rfl
      · refine ⟨ok.releases, fun past => absurd fresh past, fun _ => ?_, nofun, ok.runner⟩
        dsimp only
        rw [own]
        exact List.getElem?_set_self inside
      · intro caller closer foundCloser
        exact (inv.closers caller closer foundCloser).set_conns foundConn (fun _ => rfl) id id
    · refine ⟨inv.bound, inv.count, ?_, ?_, inv.closers, inv.closings⟩
      · intro other member foundMember
        by_cases same : other = index
        · subst same
          cases foundConn.symm.trans foundMember
          refine ⟨ok.releases, ok.closed, fun leased => (by cases free.symm.trans leased),
            fun _ _ => .inr ?_, ok.runner⟩
          rw [own]
          exact List.getElem?_set_self inside
        · exact others other member same foundMember (inv.conns other member foundMember) _
      · intro other stage foundStage
        rcases (getElem?_set_cases found).mp foundStage with ⟨rfl, rfl⟩ | ⟨_, before⟩
        · exact ⟨conn, foundConn, own, free⟩
        · exact inv.accepts other stage before
  · cases step

theorem Inv.reject (inv : Inv limit state) (step : reject call state = some after) :
    Inv limit after := by
  unfold Listener.reject at step
  split at step
  · rename_i index found
    obtain ⟨conn, foundConn, rfl⟩ := Option.map_eq_some_iff.mp step
    obtain ⟨same, foundSame, own, free⟩ := inv.accepts call _ found
    cases foundConn.symm.trans foundSame
    have ok := inv.conns index conn foundConn
    refine inv.setConn foundConn rfl inv.bound rfl ?_ ?_
      (inv.accepts_set found foundConn own trivial) ?_ inv.closings
    · exact ⟨ok.releases, fun past => ⟨rfl, (ok.closed past).2⟩,
        fun leased => (by cases free.symm.trans leased), nofun, ok.runner⟩
    · intro other member different _ holds
      refine holds.set_accepts found nofun ⟨nofun, ?_⟩
      rintro ⟨rfl⟩
      exact different rfl
    · intro caller closer foundCloser
      exact (inv.closers caller closer foundCloser).set_conns foundConn id (fun _ => rfl) id
  · cases step

/-- The rule for a call of `Accept` that holds no connection. -/
theorem Inv.setAccept (inv : Inv limit state) {stage new : Accepting}
    (found : state.accepts[call]? = some stage)
    (holds : ∀ index, stage ≠ .returned index ∧ stage ≠ .accepted index ∧ stage ≠ .rejecting index)
    (ok : new.Ok state.conns call) :
    Inv limit { state with accepts := state.accepts.set call new } := by
  refine ⟨inv.bound, inv.count, ?_, ?_, inv.closers, inv.closings⟩
  · intro index conn foundConn
    exact (inv.conns index conn foundConn).set_accepts found (holds index).1 (holds index).2
  · intro other next foundNext
    rcases (getElem?_set_cases found).mp foundNext with ⟨rfl, rfl⟩ | ⟨_, before⟩
    · exact ok
    · exact inv.accepts other next before

theorem Inv.wake (inv : Inv limit state) {timer : Bool} (step : wake call timer state = some after) :
    Inv limit after := by
  unfold Listener.wake at step
  split at step
  · rename_i found
    split at step
    · cases step
      exact inv.setAccept found (fun _ => ⟨nofun, nofun, nofun⟩) trivial
    · split at step
      · cases step
        exact inv.setAccept found (fun _ => ⟨nofun, nofun, nofun⟩) trivial
      · cases step
  · cases step

theorem Inv.close (inv : Inv limit state) (step : close index state = some after) :
    Inv limit after := by
  unfold Listener.close at step
  split at step
  · rename_i conn found
    split at step
    · rename_i leased
      cases step
      refine ⟨inv.bound, inv.count, ?_, inv.accepts, ?_, inv.closings⟩
      · intro other member foundMember
        have ok := inv.conns other member foundMember
        exact ⟨ok.releases, ok.closed, ok.handed, ok.deciding, fun caller runs =>
          getElem?_concat_cases.mpr (.inr (ok.runner caller runs))⟩
      · intro caller closer foundCloser
        rcases getElem?_concat_cases.mp foundCloser with ⟨_, rfl⟩ | before
        · exact ⟨conn, found, leased, fun other => absurd rfl other, nofun⟩
        · exact inv.closers caller closer before
    · cases step
  · cases step

theorem Inv.closeInner (inv : Inv limit state) (step : closeInner caller state = some after) :
    Inv limit after := by
  unfold Listener.closeInner at step
  split at step
  · rename_i index found
    obtain ⟨conn, foundConn, rfl⟩ := Option.map_eq_some_iff.mp step
    have ok := inv.conns index conn foundConn
    have idle : ∀ {other : Nat} {member : Conn}, member.Ok state.accepts state.closers other →
        ¬(member.releaseOnce = .running caller ∨ member.releaseOnce = .ran caller) := by
      intro other member holds runs
      cases found.symm.trans (holds.runner caller runs)
    obtain ⟨same, foundSame, leased, _, _⟩ := inv.closers caller _ found
    cases foundConn.symm.trans foundSame
    refine inv.setConn foundConn rfl inv.bound rfl ?_ ?_ ?_ ?_ inv.closings
    · have moved : conn.Ok state.accepts (state.closers.set caller ⟨index, .releasing⟩) index :=
        ok.set_closers found fun runs => absurd runs (idle ok)
      exact ⟨moved.releases, fun past => ⟨rfl, (ok.closed past).2⟩, moved.handed, nofun, moved.runner⟩
    · intro other member _ _ holds
      exact holds.set_closers found fun runs => absurd runs (idle holds)
    · intro other stage foundStage
      exact (inv.accepts other stage foundStage).set_conns foundConn rfl rfl
    · intro other closer foundCloser
      rcases (getElem?_set_cases found).mp foundCloser with ⟨rfl, rfl⟩ | ⟨_, before⟩
      · exact ⟨_, List.getElem?_set_self (List.getElem?_eq_some_iff.mp foundConn).1, leased,
          fun _ => rfl, nofun⟩
      · exact (inv.closers other closer before).set_conns foundConn id (fun _ => rfl) id
  · cases step

/-- A connection whose release runs is released by one call. -/
theorem Inv.others_released (inv : Inv limit state) {other : Nat} {new : Closer}
    (found : state.closers[caller]? = some ⟨index, .releasing⟩) {member : Conn}
    (foundMember : state.conns[other]? = some member) (different : other ≠ index) :
    member.Ok state.accepts (state.closers.set caller new) other := by
  have ok := inv.conns other member foundMember
  refine ok.set_closers found fun runs => ?_
  cases found.symm.trans (ok.runner caller runs)
  exact absurd rfl different

theorem Inv.release (inv : Inv limit state) (step : release caller state = some after) :
    Inv limit after := by
  unfold Listener.release at step
  split at step
  · rename_i index found
    split at step
    · cases step
    · rename_i conn foundConn
      have ok := inv.conns index conn foundConn
      have inside := (List.getElem?_eq_some_iff.mp foundConn).1
      obtain ⟨same, foundSame, leased, shut, _⟩ := inv.closers caller _ found
      cases foundConn.symm.trans foundSame
      have closed := shut nofun
      have accepts : ∀ {changed : Conn}, changed.accept = conn.accept →
          changed.leased = conn.leased → ∀ (call : Nat) (stage : Accepting),
            state.accepts[call]? = some stage → stage.Ok (state.conns.set index changed) call :=
        fun accept lease call stage foundStage =>
          (inv.accepts call stage foundStage).set_conns foundConn accept lease
      split at step
      · rename_i fresh
        cases step
        refine inv.setConn foundConn rfl inv.bound ?_ ?_ (fun _ _ _ _ holds => holds)
          (accepts rfl rfl) ?_ inv.closings
        · rw [Conn.holds, Conn.holds, fresh]
          rfl
        · refine ⟨?_, fun _ => ⟨closed, leased⟩, ok.handed, ok.deciding, ?_⟩
          · have releases := ok.releases
            rw [fresh] at releases
            exact releases
          · rintro owner (runs | ran)
            · cases runs
              exact found
            · cases ran
        · intro other closer foundCloser
          refine (inv.closers other closer foundCloser).set_conns foundConn id id fun done => ?_
          cases fresh.symm.trans done
      · rename_i owner running
        split at step
        · rename_i own
          obtain ⟨rfl, positive⟩ := own
          cases step
          refine inv.setConn foundConn rfl (Nat.le_trans (Nat.sub_le _ _) inv.bound) ?_ ?_
            (fun _ _ _ _ holds => holds) (accepts rfl rfl) ?_ inv.closings
          · rw [Conn.holds, Conn.holds, running, leased]
            change state.leases - 1 + 1 = state.leases + 0
            omega
          · refine ⟨?_, fun _ => ⟨closed, leased⟩, ok.handed, ok.deciding, ?_⟩
            · have releases := ok.releases
              rw [running] at releases
              exact congrArg (· + 1) releases
            · rintro caller (runs | ran)
              · cases runs
              · cases ran
                exact found
          · intro other closer foundCloser
            refine (inv.closers other closer foundCloser).set_conns foundConn id id fun done => ?_
            cases running.symm.trans done
        · cases step
      · rename_i owner ran
        split at step
        · rename_i own
          subst own
          cases step
          refine inv.setConn foundConn rfl inv.bound ?_ ?_
            (fun other member different foundMember _ =>
              inv.others_released found foundMember different)
            (accepts rfl rfl) ?_ inv.closings
          · rw [Conn.holds, Conn.holds, ran]
            rfl
          · refine ⟨?_, fun _ => ⟨closed, leased⟩, ok.handed, ok.deciding, ?_⟩
            · have releases := ok.releases
              rw [ran] at releases
              exact releases
            · rintro caller (runs | again) <;> contradiction
          · intro other closer foundCloser
            rcases (getElem?_set_cases found).mp foundCloser with ⟨rfl, rfl⟩ | ⟨_, before⟩
            · exact ⟨_, List.getElem?_set_self inside, leased, fun _ => closed, fun _ => rfl⟩
            · exact (inv.closers other closer before).set_conns foundConn id id fun _ => rfl
        · cases step
      · rename_i done
        cases step
        refine ⟨inv.bound, inv.count, ?_, inv.accepts, ?_, inv.closings⟩
        · intro other member foundMember
          by_cases same : other = index
          · subst same
            cases foundConn.symm.trans foundMember
            refine ok.set_closers found ?_
            rw [done]
            rintro (runs | ran) <;> contradiction
          · exact inv.others_released found foundMember same
        · intro other closer foundCloser
          rcases (getElem?_set_cases found).mp foundCloser with ⟨rfl, rfl⟩ | ⟨_, before⟩
          · exact ⟨conn, foundConn, leased, fun _ => closed, fun _ => done⟩
          · exact inv.closers other closer before
  · cases step

theorem Inv.shut (inv : Inv limit state) (step : shut caller state = some after) :
    Inv limit after := by
  have closings := inv.closings
  unfold Listener.shut at step
  split at step
  · split at step
    · rename_i fresh
      cases step
      rw [fresh] at closings
      exact ⟨inv.bound, inv.count, inv.conns, inv.accepts, inv.closers, closings⟩
    · rename_i owner running
      split at step
      · cases step
        rw [running] at closings
        exact ⟨inv.bound, inv.count, inv.conns, inv.accepts, inv.closers, congrArg (· + 1) closings⟩
      · cases step
    · rename_i owner ran
      split at step
      · cases step
        rw [ran] at closings
        exact ⟨inv.bound, inv.count, inv.conns, inv.accepts, inv.closers, closings⟩
      · cases step
    · cases step
      exact ⟨inv.bound, inv.count, inv.conns, inv.accepts, inv.closers, closings⟩
  · cases step

theorem Inv.next {action : Action} (inv : Inv limit state)
    (step : next limit state action = some after) : Inv limit after := by
  cases action with
  | accept =>
      cases step
      refine ⟨inv.bound, inv.count, ?_, ?_, inv.closers, inv.closings⟩
      · intro index conn found
        have ok := inv.conns index conn found
        exact ⟨ok.releases, ok.closed, fun leased =>
          getElem?_concat_cases.mpr (.inr (ok.handed leased)), fun free opened =>
            (ok.deciding free opened).imp (fun before => getElem?_concat_cases.mpr (.inr before))
              (fun before => getElem?_concat_cases.mpr (.inr before)), ok.runner⟩
      · intro call stage found
        rcases getElem?_concat_cases.mp found with ⟨_, rfl⟩ | before
        · trivial
        · exact inv.accepts call stage before
  | innerAccept call connects => exact inv.innerAccept step
  | lease call => exact inv.lease step
  | reject call => exact inv.reject step
  | wake call timer => exact inv.wake step
  | close conn => exact inv.close step
  | closeInner caller => exact inv.closeInner step
  | release caller => exact inv.release step
  | closeListener =>
      cases step
      exact ⟨inv.bound, inv.count, inv.conns, inv.accepts, inv.closers, inv.closings⟩
  | shut caller => exact inv.shut step

end Steps

/-! ## Runs -/

section Runs

variable {limit : Nat} {state : State}

theorem inv_of_reachable (reachable : Reachable (next limit) initial state) : Inv limit state :=
  reachable.invariant (Inv limit) (inv_initial limit) fun _ _ _ inv step => inv.next step

/-- A connection that is handed out and open holds its lease. -/
theorem Conn.Ok.holds {accepts : List Accepting} {closers : List Closer} {index : Nat} {conn : Conn}
    (ok : conn.Ok accepts closers index) (leased : conn.leased = true)
    (opened : conn.opened = true) : conn.holds = true := by
  have fresh : conn.releaseOnce = .fresh := by
    by_contra past
    cases opened.symm.trans (ok.closed past).1
  rw [Conn.holds, leased, fresh]
  rfl

/-- In every state of every run: no more connections are handed out and open than the
limit; the leases are those of the connections that were handed out and not released,
each is returned once, by then when a `Close` of its connection returns, and the
return never waits; whoever holds no connection holds no lease, so that a failed
`Accept` keeps none; and the listener's channel is closed once. -/
theorem connections_bounded (reachable : Reachable (next limit) initial state) :
    (state.conns.countP fun conn => conn.leased && conn.opened) ≤ limit ∧
    state.leases ≤ limit ∧ state.leases = state.conns.countP Conn.holds ∧
    (∀ (index : Nat) (conn : Conn), state.conns[index]? = some conn → conn.releases ≤ 1 ∧
      (conn.leased = true → state.accepts[conn.accept]? = some (.returned index)) ∧
      (conn.leased = false → conn.releases = 0 ∧ (conn.opened = true →
        state.accepts[conn.accept]? = some (.accepted index) ∨
          state.accepts[conn.accept]? = some (.rejecting index))) ∧
      (∀ caller, conn.releaseOnce = .running caller → 0 < state.leases)) ∧
    (∀ (caller : Nat) (closer : Closer), state.closers[caller]? = some closer →
      closer.stage = .returned → ∃ conn : Conn, state.conns[closer.conn]? = some conn ∧
        conn.opened = false ∧ conn.releases = 1) ∧
    state.closings ≤ 1 := by
  have inv := inv_of_reachable reachable
  refine ⟨?_, inv.bound, inv.count, ?_, ?_, ?_⟩
  · refine Nat.le_trans ?_ (Nat.le_trans (Nat.le_of_eq inv.count.symm) inv.bound)
    refine List.countP_mono_left fun conn member shown => ?_
    obtain ⟨index, found⟩ := List.mem_iff_getElem?.mp member
    rw [Bool.and_eq_true] at shown
    exact (inv.conns index conn found).holds shown.1 shown.2
  · intro index conn found
    have ok := inv.conns index conn found
    refine ⟨?_, ok.handed, fun free => ⟨?_, ok.deciding free⟩, ?_⟩
    · rw [ok.releases]
      exact Bool.toNat_le _
    · have fresh : conn.releaseOnce = .fresh := by
        by_contra past
        cases free.symm.trans (ok.closed past).2
      rw [ok.releases, fresh]
      rfl
    · intro caller running
      rw [inv.count]
      refine countP_pos_of_getElem? found ?_
      rw [Conn.holds, running, (ok.closed (by rw [running]; exact nofun)).2]
      rfl
  · intro caller closer found returned
    obtain ⟨conn, foundConn, _, closed, done⟩ := inv.closers caller closer found
    refine ⟨conn, foundConn, closed (by rw [returned]; exact nofun), ?_⟩
    rw [(inv.conns closer.conn conn foundConn).releases, done returned]
    rfl
  · rw [inv.closings]
    exact Bool.toNat_le _

/-- One connection is handed out, a second one is turned away, and the first one is
closed twice at once. -/
def turnedAway : List Action :=
  [.accept, .innerAccept 0 true, .lease 0, .accept, .innerAccept 1 true, .lease 1, .reject 1,
    .close 0, .close 0, .closeInner 0, .closeInner 1, .release 1, .release 1, .release 1, .release 0]

theorem connections_bounded_turnedAway : ∃ state,
    execute (next 1) initial turnedAway = some state ∧ state.rejected = 1 ∧ state.leases = 0 ∧
      (state.conns.countP fun conn => conn.leased && conn.opened) ≤ 1 := by
  obtain ⟨state, run⟩ := Option.isSome_iff_exists.mp
    (by decide : (execute (next 1) initial turnedAway).isSome = true)
  have seen : (execute (next 1) initial turnedAway).map (fun state =>
      (state.rejected, state.leases)) = some (1, 0) := by
    decide
  rw [run, Option.map_some, Option.some.injEq, Prod.mk.injEq] at seen
  exact ⟨state, run, seen.1, seen.2, (connections_bounded (.of_execute run)).1⟩

end Runs

end CheckNetwork.Api.Listener
