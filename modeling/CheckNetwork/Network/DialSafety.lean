import CheckNetwork.Collection.Census
import CheckNetwork.Network.Dialing

/-!
# Slots and connections of concurrent dials

Every slot in use belongs to a dial that has not finished.  Every connection
that a dial produced is with its goroutine or its call until it is returned or
closed.
-/

namespace CheckNetwork.Network

open Collection
open CheckNetwork.Go (IP)

universe u

variable {E : Type u} {canceled : E}

namespace Dial

/-- The connection that the goroutine has not yet handed over. -/
def inFlight (dial : Dial E) : Nat :=
  match dial.phase with
  | .completed conn _ => conn.toNat
  | _ => 0

/-- The goroutine has not reached its end of the channel, or is there. -/
def isPending (dial : Dial E) : Bool :=
  match dial.phase with
  | .running | .completed _ _ => true
  | _ => false

end Dial

namespace CallPhase

/-- The dial whose connection the call has in its hands. -/
def holding : CallPhase E → Option Nat
  | .answered dial true _ => some dial
  | .examined conn _ _ => conn
  | _ => none

/-- The dial whose connection was returned. -/
def result : CallPhase E → Option Nat
  | .returned (.ok dial) => some dial
  | _ => none

/-- The dial whose context the call will cancel. -/
def awaited : CallPhase E → Option Nat
  | .waiting dial => some dial
  | .left dial _ => some dial
  | _ => none

/-- The dial that the call is about. -/
def current : CallPhase E → Option Nat
  | .waiting dial => some dial
  | .left dial _ => some dial
  | .answered dial _ _ => some dial
  | .examined conn _ _ => conn
  | .returned (.ok dial) => some dial
  | _ => none

/-- Inside the body of the loop. -/
def isTrying : CallPhase E → Bool
  | .resolved | .next | .returned _ => false
  | _ => true

variable {phase : CallPhase E} {place : Nat}

theorem current_of_holding (holding : phase.holding = some place) : phase.current = some place := by
  cases phase with
  | answered dial conn error =>
      cases conn with
      | true => exact holding
      | false => cases holding
  | examined conn error attemptErr => exact holding
  | _ => cases holding

theorem current_of_result (result : phase.result = some place) : phase.current = some place := by
  cases phase with
  | returned outcome =>
      cases outcome with
      | ok dial => exact result
      | error failure => cases result
  | _ => cases result

theorem current_of_awaited (awaited : phase.awaited = some place) : phase.current = some place := by
  cases phase with
  | waiting dial => exact awaited
  | left dial error => exact awaited
  | _ => cases awaited

end CallPhase

/-- What holds of the dial at a place of a call in some phase. -/
structure DialSound (phase : CallPhase E) (place : Nat) (dial : Dial E) : Prop where
  balance : dial.closes + dial.returns + dial.inFlight + (if phase.holding = some place then 1 else 0) =
    dial.produced.toNat
  returns_eq : dial.returns = if phase.result = some place then 1 else 0
  releases_eq : dial.releases = dial.isFinished.toNat
  unproduced : dial.isRunning = true → dial.produced = false
  pending : dial.isPending = true → phase.awaited = some place ∨ dial.expired.isSome = true
  waited : phase.awaited = some place → dial.isPending = true ∨ dial.expired.isSome = true

/-- What holds of a call. -/
structure CallSound (call : Call E) : Prop where
  dials : ∀ place dial, call.dials[place]? = some dial → DialSound call.phase place dial
  index_le : ∀ dial ∈ call.dials, dial.index ≤ call.index
  current : ∀ place, call.phase.current = some place → place + 1 = call.dials.length
  current_index : ∀ place dial, call.phase.current = some place → call.dials[place]? = some dial →
    dial.index = call.index
  trying : call.phase.isTrying = true → call.candidates ≠ []

variable {call : Call E} {phase phase' : CallPhase E} {place : Nat} {dial : Dial E}

namespace DialSound

/-- A call that is about other dials before and after a step. -/
theorem elsewhere (sound : DialSound phase place dial) (before : phase.current ≠ some place)
    (after : phase'.current ≠ some place) : DialSound phase' place dial where
  balance := by
    have balance := sound.balance
    rw [if_neg fun holding => before (CallPhase.current_of_holding holding)] at balance
    rw [if_neg fun holding => after (CallPhase.current_of_holding holding)]
    exact balance
  returns_eq := by
    rw [sound.returns_eq, if_neg fun result => before (CallPhase.current_of_result result),
      if_neg fun result => after (CallPhase.current_of_result result)]
  releases_eq := sound.releases_eq
  unproduced := sound.unproduced
  pending := by
    intro pending
    rcases sound.pending pending with awaited | expired
    · exact absurd (CallPhase.current_of_awaited awaited) before
    · exact Or.inr expired
  waited := fun awaited => absurd (CallPhase.current_of_awaited awaited) after

theorem start (ip : IP) (index : Nat) (expired : Option E) (place : Nat) :
    DialSound (.waiting place) place (Dial.start ip index expired) where
  balance := rfl
  returns_eq := rfl
  releases_eq := rfl
  unproduced := fun _ => rfl
  pending := fun _ => Or.inl rfl
  waited := fun _ => Or.inl rfl

theorem expire (sound : DialSound phase place dial) (error : E) :
    DialSound phase place (dial.expire error) where
  balance := sound.balance
  returns_eq := sound.returns_eq
  releases_eq := sound.releases_eq
  unproduced := sound.unproduced
  pending := by
    intro _
    right
    rw [Dial.expire, Option.isSome_or, Option.isSome_some, Bool.or_true]
  waited := by
    intro _
    right
    rw [Dial.expire, Option.isSome_or, Option.isSome_some, Bool.or_true]

theorem complete (sound : DialSound phase place dial) (running : dial.phase = .running)
    (conn : Bool) (error : Option E) : DialSound phase place (dial.complete conn error) where
  balance := by
    have balance := sound.balance
    rw [sound.unproduced (by rw [Dial.isRunning, running])] at balance
    have empty : dial.inFlight = 0 := by rw [Dial.inFlight, running]
    rw [empty, Bool.toNat_false] at balance
    change dial.closes + dial.returns + conn.toNat + _ = conn.toNat
    omega
  returns_eq := sound.returns_eq
  releases_eq := by
    have releases_eq := sound.releases_eq
    rw [Dial.isFinished, running] at releases_eq
    exact releases_eq
  unproduced := nofun
  pending := fun _ => sound.pending (by rw [Dial.isPending, running])
  waited := fun _ => Or.inl rfl

theorem handOver {conn : Bool} {error : Option E} (sound : DialSound (.waiting place) place dial)
    (completed : dial.phase = .completed conn error) :
    DialSound (.answered place conn error) place dial.handOver where
  balance := by
    have balance := sound.balance
    have carried : dial.inFlight = conn.toNat := by rw [Dial.inFlight, completed]
    rw [carried, if_neg nofun] at balance
    cases conn with
    | true =>
        rw [CallPhase.holding, if_pos rfl]
        exact balance
    | false =>
        rw [if_neg nofun]
        exact balance
  returns_eq := sound.returns_eq
  releases_eq := by
    have releases_eq := sound.releases_eq
    rw [Dial.isFinished, completed] at releases_eq
    exact releases_eq
  unproduced := nofun
  pending := nofun
  waited := nofun

theorem abandon {conn : Bool} {error : Option E} (sound : DialSound phase place dial)
    (completed : dial.phase = .completed conn error) (expired : dial.expired.isSome = true) :
    DialSound phase place (dial.abandon conn) where
  balance := by
    have balance := sound.balance
    have carried : dial.inFlight = conn.toNat := by rw [Dial.inFlight, completed]
    rw [carried] at balance
    change dial.closes + conn.toNat + dial.returns + 0 + _ = dial.produced.toNat
    omega
  returns_eq := sound.returns_eq
  releases_eq := by
    have releases_eq := sound.releases_eq
    rw [Dial.isFinished, completed] at releases_eq
    exact releases_eq
  unproduced := nofun
  pending := nofun
  waited := fun _ => Or.inr expired

theorem release (sound : DialSound phase place dial) (releasing : dial.phase = .releasing) :
    DialSound phase place dial.release where
  balance := by
    have balance := sound.balance
    have empty : dial.inFlight = 0 := by rw [Dial.inFlight, releasing]
    rw [empty] at balance
    exact balance
  returns_eq := sound.returns_eq
  releases_eq := by
    have releases_eq := sound.releases_eq
    rw [Dial.isFinished, releasing] at releases_eq
    rw [Dial.release, releases_eq]
    rfl
  unproduced := nofun
  pending := nofun
  waited := by
    intro awaited
    rcases sound.waited awaited with pending | expired
    · rw [Dial.isPending, releasing] at pending
      cases pending
    · exact Or.inr expired

theorem leave (sound : DialSound (.waiting place) place dial) (error : E) :
    DialSound (.left place error) place dial where
  balance := sound.balance
  returns_eq := sound.returns_eq
  releases_eq := sound.releases_eq
  unproduced := sound.unproduced
  pending := sound.pending
  waited := sound.waited

/-- The goroutine is told that nobody waits for it any more. -/
theorem examineLeft {failure : E} {error attemptErr : Option E}
    (sound : DialSound (.left place failure) place dial) (canceled : E) :
    DialSound (.examined none error attemptErr) place (dial.expire canceled) where
  balance := sound.balance
  returns_eq := sound.returns_eq
  releases_eq := sound.releases_eq
  unproduced := sound.unproduced
  pending := fun _ => Or.inr <| by
    rw [Dial.expire, Option.isSome_or, Option.isSome_some, Bool.or_true]
  waited := nofun

theorem examineAnswered {conn : Bool} {answer error attemptErr : Option E}
    (sound : DialSound (.answered place conn answer) place dial) (canceled : E) :
    DialSound (.examined (if conn then some place else none) error attemptErr) place
      (dial.expire canceled) where
  balance := by
    cases conn with
    | true => exact sound.balance
    | false => exact sound.balance
  returns_eq := sound.returns_eq
  releases_eq := sound.releases_eq
  unproduced := sound.unproduced
  pending := fun _ => Or.inr <| by
    rw [Dial.expire, Option.isSome_or, Option.isSome_some, Bool.or_true]
  waited := nofun

theorem close {error attemptErr : Option E}
    (sound : DialSound (.examined (some place) error attemptErr) place dial)
    (after : phase'.current ≠ some place) : DialSound phase' place dial.close where
  balance := by
    have balance := sound.balance
    rw [CallPhase.holding, if_pos rfl] at balance
    rw [if_neg fun holding => after (CallPhase.current_of_holding holding)]
    change dial.closes + 1 + dial.returns + dial.inFlight + 0 = dial.produced.toNat
    omega
  returns_eq := by
    have returns_eq := sound.returns_eq
    rw [if_neg nofun] at returns_eq
    rw [if_neg fun result => after (CallPhase.current_of_result result)]
    exact returns_eq
  releases_eq := sound.releases_eq
  unproduced := sound.unproduced
  pending := by
    intro pending
    rcases sound.pending pending with awaited | expired
    · cases awaited
    · exact Or.inr expired
  waited := fun awaited => absurd (CallPhase.current_of_awaited awaited) after

theorem give {error attemptErr : Option E}
    (sound : DialSound (.examined (some place) error attemptErr) place dial) :
    DialSound (.returned (.ok place)) place dial.give where
  balance := by
    have balance := sound.balance
    rw [CallPhase.holding, if_pos rfl] at balance
    rw [if_neg nofun]
    change dial.closes + (dial.returns + 1) + dial.inFlight + 0 = dial.produced.toNat
    omega
  returns_eq := by
    have returns_eq := sound.returns_eq
    rw [if_neg nofun] at returns_eq
    rw [CallPhase.result, if_pos rfl, Dial.give, returns_eq]
  releases_eq := sound.releases_eq
  unproduced := sound.unproduced
  pending := by
    intro pending
    rcases sound.pending pending with awaited | expired
    · cases awaited
    · exact Or.inr expired
  waited := nofun

end DialSound

namespace CallSound

/-- A step of the call that leaves its dials as they are. -/
theorem enter (sound : CallSound call)
    (same : ∀ place dial, DialSound call.phase place dial → DialSound phase place dial)
    (current : ∀ place, phase.current = some place → call.phase.current = some place)
    (trying : phase.isTrying = true → call.candidates ≠ []) : CallSound (call.enter phase) where
  dials := fun place dial found => same place dial (sound.dials place dial found)
  index_le := sound.index_le
  current := fun place about => sound.current place (current place about)
  current_index := fun place dial about => sound.current_index place dial (current place about)
  trying := trying

/-- A step of one dial, and perhaps of its call. -/
theorem change (sound : CallSound call) (found : call.dials[place]? = some dial)
    {change : Dial E → Dial E} (index_eq : (change dial).index = dial.index)
    (changed : DialSound phase place (change dial))
    (others : ∀ other dial, other ≠ place →
      DialSound call.phase other dial → DialSound phase other dial)
    (current : ∀ place, phase.current = some place → call.phase.current = some place)
    (trying : phase.isTrying = true → call.candidates ≠ []) :
    CallSound ((call.onDial place change).enter phase) where
  dials := by
    intro other dial' found'
    rw [Call.enter, Call.onDial, modify_eq_set found] at found'
    rcases (getElem?_set_cases found).mp found' with ⟨rfl, rfl⟩ | ⟨ne, old⟩
    · exact changed
    · exact others other dial' ne (sound.dials other dial' old)
  index_le := by
    intro dial' member
    rw [Call.enter, Call.onDial, modify_eq_set found] at member
    rcases List.mem_or_eq_of_mem_set member with old | rfl
    · exact sound.index_le dial' old
    · rw [index_eq]
      exact sound.index_le dial (List.mem_of_getElem? found)
  current := by
    intro place' about
    rw [Call.enter, Call.onDial, List.length_modify]
    exact sound.current place' (current place' about)
  current_index := by
    intro other dial' about found'
    rw [Call.enter, Call.onDial, modify_eq_set found] at found'
    rcases (getElem?_set_cases found).mp found' with ⟨rfl, rfl⟩ | ⟨ne, old⟩
    · rw [index_eq]
      exact sound.current_index other dial (current other about) found
    · exact sound.current_index other dial' (current other about) old
  trying := trying

/-- A step of one dial alone. -/
theorem onDial (sound : CallSound call) (found : call.dials[place]? = some dial)
    {change : Dial E → Dial E} (index_eq : (change dial).index = dial.index)
    (changed : DialSound call.phase place (change dial)) : CallSound (call.onDial place change) :=
  sound.change found index_eq changed (fun _ _ _ same => same) (fun _ same => same) sound.trying

/-- A call whose dials are not there. -/
theorem onDial_of_none (sound : CallSound call) (missing : call.dials[place]? = none)
    (change : Dial E → Dial E) : CallSound (call.onDial place change) := by
  have same : call.onDial place change = call := by
    rw [Call.onDial, List.modify_eq_self (List.getElem?_eq_none_iff.mp missing)]
  rw [same]
  exact sound

/-- A step between phases that are about no dial. -/
theorem enter_idle (sound : CallSound call) (before : call.phase.current = none)
    (after : phase.current = none) (trying : phase.isTrying = true → call.candidates ≠ []) :
    CallSound (call.enter phase) := by
  apply sound.enter
  · intro place dial soundDial
    exact soundDial.elsewhere (by rw [before]; nofun) (by rw [after]; nofun)
  · intro place about
    rw [after] at about
    cases about
  · exact trying

theorem start (resolution : Except (NetError E) (List IP)) (ctxErr : Option E) :
    CallSound (Call.start resolution ctxErr) where
  dials := nofun
  index_le := nofun
  current := by
    intro place about
    cases resolution with
    | ok addresses => cases about
    | error failure => cases ctxErr <;> cases about
  current_index := nofun
  trying := by
    intro trying
    cases resolution with
    | ok addresses => cases trying
    | error failure => cases ctxErr <;> cases trying

theorem begin (sound : CallSound call) (resolved : call.phase = .resolved) :
    CallSound call.begin := by
  unfold Call.begin
  split <;> exact sound.enter_idle (by rw [resolved]; rfl) rfl nofun

theorem loop (sound : CallSound call) (next : call.phase = .next) : CallSound call.loop := by
  have idle : call.phase.current = none := by rw [next]; rfl
  unfold Call.loop
  split
  · rename_i some_left
    apply sound.enter_idle idle rfl
    intro _
    rw [some_left]
    exact List.cons_ne_nil _ _
  · exact sound.enter_idle idle rfl nofun
  · exact sound.enter_idle idle rfl nofun

theorem acquire (sound : CallSound call) {expired : Option E}
    (acquiring : call.phase = .acquiring expired) : CallSound (call.acquire expired) where
  dials := by
    intro other dial found
    rcases getElem?_concat_cases.mp found with ⟨rfl, rfl⟩ | old
    · exact DialSound.start _ _ _ _
    · apply (sound.dials other dial old).elsewhere
      · rw [acquiring]
        nofun
      · intro about
        have inside := (List.getElem?_eq_some_iff.mp old).1
        have same : call.dials.length = other := Option.some.inj about
        omega
  index_le := by
    intro dial member
    rcases List.mem_append.mp member with old | new
    · exact sound.index_le dial old
    · rw [List.mem_singleton.mp new]
      exact Nat.le_refl _
  current := by
    intro place about
    rw [← Option.some.inj about, Call.acquire, List.length_append, List.length_singleton]
  current_index := by
    intro place dial about found
    rw [← Option.some.inj about, Call.acquire, List.getElem?_concat_length] at found
    rw [← Option.some.inj found]
    rfl
  trying := fun _ => sound.trying (by rw [acquiring]; rfl)

theorem examineLeft (sound : CallSound call) {error : E} {failure attemptErr : Option E}
    (left : call.phase = .left place error) (found : call.dials[place]? = some dial) :
    CallSound (call.examine canceled place false failure attemptErr) := by
  apply sound.change found rfl
  · have soundDial := sound.dials place dial found
    rw [left] at soundDial
    exact soundDial.examineLeft canceled
  · intro other dial' ne soundDial
    rw [left] at soundDial
    exact soundDial.elsewhere (fun about => ne (Option.some.inj about).symm) nofun
  · exact nofun
  · exact fun _ => sound.trying (by rw [left]; rfl)

theorem examineAnswered (sound : CallSound call) {conn : Bool} {answer error attemptErr : Option E}
    (answered : call.phase = .answered place conn answer)
    (found : call.dials[place]? = some dial) :
    CallSound (call.examine canceled place conn error attemptErr) := by
  apply sound.change found rfl
  · have soundDial := sound.dials place dial found
    rw [answered] at soundDial
    exact soundDial.examineAnswered canceled
  · intro other dial' ne soundDial
    rw [answered] at soundDial
    apply soundDial.elsewhere fun about => ne (Option.some.inj about).symm
    intro about
    cases conn with
    | true => exact ne (Option.some.inj about).symm
    | false => cases about
  · intro other about
    rw [answered]
    cases conn with
    | true => exact about
    | false => cases about
  · exact fun _ => sound.trying (by rw [answered]; rfl)

/-- A connection that is not trusted is closed. -/
theorem closeConn (sound : CallSound call) {conn : Option Nat} {error attemptErr : Option E}
    (examined : call.phase = .examined conn error attemptErr) (after : phase.current = none)
    (done : phase.isTrying = false) : CallSound ((call.closeConn conn).enter phase) := by
  have quiet : phase.isTrying = true → call.candidates ≠ [] := by
    rw [done]
    nofun
  cases conn with
  | none => exact sound.enter_idle (by rw [examined]; rfl) after quiet
  | some place =>
      have last := sound.current place (by rw [examined]; rfl)
      have inside : place < call.dials.length := by omega
      have found : call.dials[place]? = some call.dials[place] := List.getElem?_eq_getElem inside
      have soundDial := sound.dials place _ found
      rw [examined] at soundDial
      apply sound.change found rfl (soundDial.close (by rw [after]; nofun))
      · intro other dial' ne soundDial
        rw [examined] at soundDial
        exact soundDial.elsewhere (fun about => ne (Option.some.inj about).symm) (by rw [after]; nofun)
      · intro other about
        rw [after] at about
        cases about
      · exact quiet

/-- On to the next candidate, of which nothing is known. -/
theorem retry (sound : CallSound (call.enter .next)) (failure : NetError E) :
    CallSound (call.retry failure) where
  dials := sound.dials
  index_le := fun dial member => Nat.le_succ_of_le (sound.index_le dial member)
  current := sound.current
  current_index := nofun
  trying := nofun

theorem give (sound : CallSound call) {error attemptErr : Option E}
    (examined : call.phase = .examined (some place) error attemptErr) :
    CallSound ((call.onDial place Dial.give).enter (.returned (.ok place))) := by
  have last := sound.current place (by rw [examined]; rfl)
  have inside : place < call.dials.length := by omega
  have found : call.dials[place]? = some call.dials[place] := List.getElem?_eq_getElem inside
  have soundDial := sound.dials place _ found
  rw [examined] at soundDial
  apply sound.change found rfl soundDial.give
  · intro other dial' ne soundDial
    rw [examined] at soundDial
    exact soundDial.elsewhere (fun about => ne (Option.some.inj about).symm)
      fun about => ne (Option.some.inj about).symm
  · intro other about
    rw [examined]
    exact about
  · exact nofun

theorem decide (sound : CallSound call) {conn : Option Nat} {error attemptErr : Option E}
    (examined : call.phase = .examined conn error attemptErr) :
    CallSound (call.decide conn error attemptErr) := by
  unfold Call.decide
  split
  · exact sound.closeConn examined rfl rfl
  · exact (sound.closeConn examined rfl rfl).retry _
  · exact sound.give examined
  · exact (sound.closeConn examined rfl rfl).retry _
  · exact (sound.closeConn examined rfl rfl).retry _

/-- Whatever happens to a call, it stays sound. -/
theorem event {call' : Call E} (sound : CallSound call) (event : Event call call') :
    CallSound call' := by
  cases event with
  | cancel active => exact { sound with }
  | expireAcquiring acquiring =>
      exact sound.enter_idle (by rw [acquiring]; rfl) rfl
        fun _ => sound.trying (by rw [acquiring]; rfl)
  | expire place error =>
      cases found : call.dials[place]? with
      | none => exact sound.onDial_of_none found _
      | some dial => exact sound.onDial found rfl ((sound.dials place dial found).expire error)
  | complete found running =>
      exact sound.onDial found rfl ((sound.dials _ _ found).complete running _ _)

/-- Whatever a call does, it stays sound. -/
theorem move {call' : Call E} {slots slots' : Nat} (sound : CallSound call)
    (move : Move canceled slots call slots' call') : CallSound call' := by
  cases move with
  | begin resolved => exact sound.begin resolved
  | loop next => exact sound.loop next
  | acquire acquiring free => exact sound.acquire acquiring
  | refuse acquiring =>
      exact sound.enter_idle (by rw [acquiring]; rfl) rfl
        fun _ => sound.trying (by rw [acquiring]; rfl)
  | @handOver _ _ place dial conn error waiting found completed =>
      apply sound.change found rfl
      · have soundDial := sound.dials place dial found
        rw [waiting] at soundDial
        exact soundDial.handOver completed
      · intro other dial' ne soundDial
        rw [waiting] at soundDial
        exact soundDial.elsewhere (fun about => ne (Option.some.inj about).symm)
          fun about => ne (Option.some.inj about).symm
      · intro other about
        rw [waiting]
        exact about
      · exact fun _ => sound.trying (by rw [waiting]; rfl)
  | abandon found completed expired =>
      exact sound.onDial found rfl ((sound.dials _ _ found).abandon completed expired)
  | release found releasing =>
      exact sound.onDial found rfl ((sound.dials _ _ found).release releasing)
  | @leave _ _ place dial error waiting found expired =>
      apply sound.enter
      · intro other dial' soundDial
        rw [waiting] at soundDial
        by_cases same : other = place
        · rw [same] at soundDial ⊢
          exact soundDial.leave error
        · exact soundDial.elsewhere (fun about => same (Option.some.inj about).symm)
            fun about => same (Option.some.inj about).symm
      · intro other about
        rw [waiting]
        exact about
      · exact fun _ => sound.trying (by rw [waiting]; rfl)
  | examineRefused refused =>
      exact sound.enter_idle (by rw [refused]; rfl) rfl
        fun _ => sound.trying (by rw [refused]; rfl)
  | examineLeft left found => exact sound.examineLeft left found
  | examineAnswered answered found => exact sound.examineAnswered answered found
  | decide examined => exact sound.decide examined

end CallSound

/-! ## Slots -/

namespace Call

/-- The dials that hold a slot. -/
def held (call : Call E) : Nat := call.dials.countP fun dial => !dial.isFinished

def running (call : Call E) : Nat := call.dials.countP Dial.isRunning

theorem running_le_held (call : Call E) : call.running ≤ call.held := by
  apply List.countP_mono_left
  intro dial _ running
  unfold Dial.isRunning at running
  unfold Dial.isFinished
  split at running
  · rename_i phase
    rw [phase]
    rfl
  · cases running

theorem held_onDial (found : call.dials[place]? = some dial) (change : Dial E → Dial E) :
    (call.onDial place change).held + (!dial.isFinished).toNat =
      call.held + (!(change dial).isFinished).toNat := by
  rw [held, onDial, modify_eq_set found]
  exact countP_set_add found

/-- A change that does not finish a dial. -/
theorem held_onDial_of_kept (call : Call E) (place : Nat) {change : Dial E → Dial E}
    (kept : ∀ dial, (change dial).isFinished = dial.isFinished) :
    (call.onDial place change).held = call.held := by
  cases found : call.dials[place]? with
  | none =>
      rw [onDial, List.modify_eq_self (List.getElem?_eq_none_iff.mp found)]
  | some dial =>
      have counted := held_onDial found change
      rw [kept dial] at counted
      omega

theorem held_expire (call : Call E) (place : Nat) (error : E) :
    (call.onDial place (Dial.expire error)).held = call.held :=
  held_onDial_of_kept call place fun _ => rfl

theorem held_closeConn (call : Call E) (conn : Option Nat) :
    (call.closeConn conn).held = call.held := by
  cases conn with
  | none => rfl
  | some place => exact held_onDial_of_kept call place fun _ => rfl

theorem held_decide (call : Call E) (conn : Option Nat) (error attemptErr : Option E) :
    (call.decide conn error attemptErr).held = call.held := by
  unfold decide
  split
  · exact held_closeConn call _
  · exact held_closeConn call _
  · exact held_onDial_of_kept call _ fun _ => rfl
  · exact held_closeConn call _
  · rfl

theorem held_event {call' : Call E} (event : Event call call') : call'.held = call.held := by
  cases event with
  | cancel active => rfl
  | expireAcquiring acquiring => rfl
  | expire place error => exact held_expire call place error
  | @complete place dial conn error found running =>
      have counted := held_onDial found (Dial.complete conn error)
      have before : dial.isFinished = false := by rw [Dial.isFinished, running]
      have after : (dial.complete conn error).isFinished = false := rfl
      rw [before, after] at counted
      omega

/-- A slot is taken with each dial and given back with its end. -/
theorem held_move {call' : Call E} {slots slots' : Nat} (move : Move canceled slots call slots' call') :
    slots' + call.held = slots + call'.held := by
  cases move with
  | begin resolved =>
      unfold begin
      split <;> rfl
  | loop next =>
      unfold loop
      split <;> rfl
  | acquire acquiring free =>
      rw [acquire, held, held, countP_concat]
      change _ = slots + (_ + 1)
      omega
  | refuse acquiring => rfl
  | @handOver _ _ place dial conn error waiting found completed =>
      have counted := held_onDial found Dial.handOver
      have before : dial.isFinished = false := by rw [Dial.isFinished, completed]
      have after : dial.handOver.isFinished = false := rfl
      rw [before, after] at counted
      exact congrArg (slots + ·) (Nat.add_right_cancel counted).symm
  | @abandon _ _ place dial conn error found completed expired =>
      have counted := held_onDial found (Dial.abandon conn)
      have before : dial.isFinished = false := by rw [Dial.isFinished, completed]
      have after : (dial.abandon conn).isFinished = false := rfl
      rw [before, after] at counted
      omega
  | @release _ _ place dial found releasing =>
      have counted := held_onDial found Dial.release
      have before : dial.isFinished = false := by rw [Dial.isFinished, releasing]
      have after : dial.release.isFinished = true := rfl
      rw [before, after, Bool.not_false, Bool.not_true, Bool.toNat_true, Bool.toNat_false] at counted
      omega
  | leave waiting found expired => rfl
  | examineRefused refused => rfl
  | @examineLeft _ _ place dial error left found =>
      have kept := held_expire call place canceled
      exact congrArg (slots + ·) kept.symm
  | @examineAnswered _ _ place dial conn error answered found =>
      have kept := held_expire call place canceled
      exact congrArg (slots + ·) kept.symm
  | decide examined => rw [held_decide]

end Call

/-- What holds of the policy. -/
structure Accounted (state : Dialing E) : Prop where
  sound : ∀ call ∈ state.calls, CallSound call
  slots_eq : state.slots = (state.calls.map Call.held).sum
  slots_le : state.slots ≤ maxDetachedPolicyDials

theorem slots_le_of_move {call' : Call E} {slots slots' : Nat}
    (move : Move canceled slots call slots' call') (le : slots ≤ maxDetachedPolicyDials) :
    slots' ≤ maxDetachedPolicyDials := by
  cases move with
  | acquire acquiring free => exact free
  | release found releasing => exact Nat.le_of_succ_le le
  | _ => exact le

theorem sum_held_set {calls : List (Call E)} (found : calls[place]? = some call) (call' : Call E) :
    ((calls.set place call').map Call.held).sum + call.held =
      (calls.map Call.held).sum + call'.held :=
  sum_map_set_add found

theorem Accounted.step {state state' : Dialing E} (accounted : Accounted state)
    (step : Step canceled state state') : Accounted state' := by
  cases step with
  | call resolution ctxErr =>
      constructor
      · intro call member
        rcases List.mem_append.mp member with old | new
        · exact accounted.sound call old
        · rw [List.mem_singleton.mp new]
          exact CallSound.start resolution ctxErr
      · rw [List.map_append, List.sum_append, ← accounted.slots_eq]
        rfl
      · exact accounted.slots_le
  | @event place call call' found event =>
      constructor
      · intro other member
        rcases List.mem_or_eq_of_mem_set member with old | rfl
        · exact accounted.sound other old
        · exact (accounted.sound call (List.mem_of_getElem? found)).event event
      · have counted := sum_held_set found call'
        rw [Call.held_event event] at counted
        have slots_eq := accounted.slots_eq
        change state.slots = ((state.calls.set place call').map Call.held).sum
        omega
      · exact accounted.slots_le
  | @move place slots call call' found move =>
      constructor
      · intro other member
        rcases List.mem_or_eq_of_mem_set member with old | rfl
        · exact accounted.sound other old
        · exact (accounted.sound call (List.mem_of_getElem? found)).move move
      · have counted := sum_held_set found call'
        have moved := Call.held_move move
        have slots_eq := accounted.slots_eq
        change slots = ((state.calls.set place call').map Call.held).sum
        omega
      · exact slots_le_of_move move accounted.slots_le

theorem Reachable.accounted {state : Dialing E} (reachable : Reachable canceled state) :
    Accounted state := by
  induction reachable with
  | start => exact ⟨nofun, rfl, Nat.zero_le _⟩
  | step before step ih => exact ih.step step

end CheckNetwork.Network
