import CheckNetwork.Network.DialSafety
import Mathlib.Algebra.Order.BigOperators.Group.List

/-!
# Concurrent dials leak nothing

In every state the slots and the connections are accounted for.  Once the
dialers have returned, the calls and the goroutines come to an end by
themselves, with every slot given back and every connection either returned or
closed.
-/

namespace CheckNetwork.Network

open Collection
open CheckNetwork.Go (IP)

universe u

variable {E : Type u} {canceled : E} {call : Call E} {place : Nat} {dial : Dial E}
  {state : Dialing E}

/-! ## The end of every run -/

/-- The steps that a goroutine can still take. -/
def Dial.rank (dial : Dial E) : Nat :=
  match dial.phase with
  | .running => 3
  | .completed _ _ => 2
  | .releasing => 1
  | .finished => 0

def CallPhase.rank : CallPhase E → Nat
  | .returned _ => 0
  | .examined _ _ _ => 1
  | .refused _ | .left _ _ | .answered _ _ _ => 2
  | .waiting _ => 3
  | .acquiring _ => 7
  | .next => 8
  | .resolved => 9

/-- The steps that a call and its goroutines can still take. -/
def Call.rank (call : Call E) : Nat :=
  8 * call.candidates.length + call.phase.rank + (call.dials.map Dial.rank).sum

namespace Call

theorem rank_enter (call : Call E) (phase : CallPhase E) :
    (call.enter phase).rank + call.phase.rank = call.rank + phase.rank := by
  rw [rank, rank]
  change 8 * call.candidates.length + phase.rank + (call.dials.map Dial.rank).sum + _ = _
  omega

theorem rank_onDial (found : call.dials[place]? = some dial) (change : Dial E → Dial E) :
    (call.onDial place change).rank + dial.rank = call.rank + (change dial).rank := by
  have counted : ((call.dials.modify place change).map Dial.rank).sum + dial.rank =
      (call.dials.map Dial.rank).sum + (change dial).rank := by
    rw [modify_eq_set found]
    exact sum_map_set_add found
  rw [rank, rank]
  change 8 * call.candidates.length + call.phase.rank +
    ((call.dials.modify place change).map Dial.rank).sum + _ = _
  omega

/-- A change that leaves a goroutine where it is. -/
theorem rank_onDial_of_kept (call : Call E) (place : Nat) {change : Dial E → Dial E}
    (kept : ∀ dial, (change dial).rank = dial.rank) :
    (call.onDial place change).rank = call.rank := by
  cases found : call.dials[place]? with
  | none => rw [onDial, List.modify_eq_self (List.getElem?_eq_none_iff.mp found)]
  | some dial =>
      have counted := rank_onDial found change
      rw [kept dial] at counted
      exact Nat.add_right_cancel counted

theorem rank_expire (call : Call E) (place : Nat) (error : E) :
    (call.onDial place (Dial.expire error)).rank = call.rank :=
  rank_onDial_of_kept call place fun _ => rfl

theorem rank_give (call : Call E) (place : Nat) : (call.onDial place Dial.give).rank = call.rank :=
  rank_onDial_of_kept call place fun _ => rfl

theorem rank_closeConn (call : Call E) (conn : Option Nat) :
    (call.closeConn conn).rank = call.rank := by
  cases conn with
  | none => rfl
  | some place => exact rank_onDial_of_kept call place fun _ => rfl

theorem phase_closeConn (call : Call E) (conn : Option Nat) :
    (call.closeConn conn).phase = call.phase := by
  cases conn <;> rfl

theorem candidates_closeConn (call : Call E) (conn : Option Nat) :
    (call.closeConn conn).candidates = call.candidates := by
  cases conn <;> rfl

/-- A candidate is worth more than the steps of an attempt. -/
theorem rank_retry_lt (some_left : call.candidates ≠ []) (examined : call.phase.rank = 1)
    (failure : NetError E) : (call.retry failure).rank < call.rank := by
  have one : 0 < call.candidates.length := List.length_pos_iff.mpr some_left
  rw [rank, rank, examined, retry, List.length_tail]
  change 8 * (call.candidates.length - 1) + 8 + (call.dials.map Dial.rank).sum < _
  omega

theorem rank_returned_lt (unfinished : 0 < call.phase.rank) (outcome : Except (NetError E) Nat) :
    (call.enter (.returned outcome)).rank < call.rank := by
  have counted := rank_enter call (.returned outcome)
  change _ = _ + 0 at counted
  omega

theorem rank_decide_lt (sound : CallSound call) {conn : Option Nat} {error attemptErr : Option E}
    (examined : call.phase = .examined conn error attemptErr) :
    (call.decide conn error attemptErr).rank < call.rank := by
  have some_left := sound.trying (by rw [examined]; rfl)
  have one : call.phase.rank = 1 := by rw [examined]; rfl
  have ended : ∀ conn outcome,
      ((call.closeConn conn).enter (.returned outcome)).rank < call.rank := by
    intro conn outcome
    rw [← rank_closeConn call conn]
    exact rank_returned_lt (by rw [phase_closeConn, one]; exact Nat.one_pos) outcome
  have tried : ∀ conn failure, ((call.closeConn conn).retry failure).rank < call.rank := by
    intro conn failure
    rw [← rank_closeConn call conn]
    exact rank_retry_lt (by rw [candidates_closeConn]; exact some_left)
      (by rw [phase_closeConn]; exact one) failure
  have given : ∀ place,
      ((call.onDial place Dial.give).enter (.returned (.ok place))).rank < call.rank := by
    intro place
    rw [← rank_give call place]
    have unfinished : 0 < (call.onDial place Dial.give).phase.rank :=
      Nat.lt_of_lt_of_eq Nat.one_pos one.symm
    exact rank_returned_lt unfinished (.ok place)
  unfold decide
  split
  · exact ended _ _
  · exact tried _ _
  · exact given _
  · exact tried _ _
  · exact rank_retry_lt some_left one _

theorem rank_examine (canceled : E) (call : Call E) (place : Nat) (conn : Bool) (error attemptErr : Option E) :
    (call.examine canceled place conn error attemptErr).rank + call.phase.rank = call.rank + 1 := by
  have counted := rank_enter (call.onDial place (Dial.expire canceled))
    (.examined (if conn then some place else none) error attemptErr)
  rw [rank_expire] at counted
  exact counted

theorem rank_begin_lt (resolved : call.phase = .resolved) : call.begin.rank < call.rank := by
  unfold begin
  split
  · exact rank_returned_lt (by rw [resolved]; exact Nat.succ_pos 8) _
  · have counted := rank_enter call .next
    rw [resolved] at counted
    change _ + 9 = _ + 8 at counted
    omega

theorem rank_loop_lt (next : call.phase = .next) : call.loop.rank < call.rank := by
  have unfinished : 0 < call.phase.rank := by
    rw [next]
    exact Nat.succ_pos 7
  unfold loop
  split
  · have counted := rank_enter call (.acquiring call.ctxErr)
    rw [next] at counted
    change _ + 8 = _ + 7 at counted
    omega
  · exact rank_returned_lt unfinished _
  · exact rank_returned_lt unfinished _

theorem rank_acquire_lt {expired : Option E} (acquiring : call.phase = .acquiring expired) :
    (call.acquire expired).rank < call.rank := by
  rw [rank, rank, acquiring]
  change 8 * call.candidates.length + 3 + ((call.dials ++ [_]).map Dial.rank).sum <
    8 * call.candidates.length + 7 + _
  rw [List.map_append, List.sum_append]
  change _ + 3 + (_ + 3) < _
  omega

/-- Every step is one of finitely many. -/
theorem rank_move_lt (sound : CallSound call) {call' : Call E} {slots slots' : Nat}
    (move : Move canceled slots call slots' call') : call'.rank < call.rank := by
  cases move with
  | begin resolved => exact rank_begin_lt resolved
  | loop next => exact rank_loop_lt next
  | acquire acquiring free => exact rank_acquire_lt acquiring
  | @refuse _ _ error acquiring =>
      have counted := rank_enter call (.refused error)
      rw [acquiring] at counted
      change _ + 7 = _ + 2 at counted
      omega
  | @handOver _ _ place dial conn error waiting found completed =>
      have entered := rank_enter (call.onDial place Dial.handOver) (.answered place conn error)
      have counted := rank_onDial found Dial.handOver
      have before : dial.rank = 2 := by rw [Dial.rank, completed]
      change _ + call.phase.rank = _ + 2 at entered
      rw [waiting] at entered
      change _ + 3 = _ at entered
      change _ = _ + 1 at counted
      omega
  | @abandon _ _ place dial conn error found completed expired =>
      have counted := rank_onDial found (Dial.abandon conn)
      have before : dial.rank = 2 := by rw [Dial.rank, completed]
      change _ = _ + 1 at counted
      omega
  | @release _ _ place dial found releasing =>
      have counted := rank_onDial found Dial.release
      have before : dial.rank = 1 := by rw [Dial.rank, releasing]
      change _ = _ + 0 at counted
      omega
  | @leave _ _ place dial error waiting found expired =>
      have counted := rank_enter call (.left place error)
      rw [waiting] at counted
      change _ + 3 = _ + 2 at counted
      omega
  | @examineRefused _ _ error refused =>
      have counted := rank_enter call (.examined none (some error) (some error))
      rw [refused] at counted
      change _ + 2 = _ + 1 at counted
      omega
  | @examineLeft _ _ place dial error left found =>
      have counted := rank_examine canceled call place false (some error) dial.expired
      rw [left] at counted
      change _ + 2 = _ at counted
      omega
  | @examineAnswered _ _ place dial conn error answered found =>
      have counted := rank_examine canceled call place conn error dial.expired
      rw [answered] at counted
      change _ + 2 = _ at counted
      omega
  | decide examined => exact rank_decide_lt sound examined

end Call

/-- A step of a call or of a goroutine, with nothing from outside. -/
def Moved (canceled : E) (state state' : Dialing E) : Prop :=
  ∃ place slots call call', state.calls[place]? = some call ∧
    Move canceled state.slots call slots call' ∧ state' = ⟨slots, state.calls.set place call'⟩

def Dialing.rank (state : Dialing E) : Nat := (state.calls.map Call.rank).sum

namespace Moved

variable {state' : Dialing E}

theorem step (moved : Moved canceled state state') : Step canceled state state' := by
  rcases moved with ⟨place, slots, call, call', found, move, rfl⟩
  exact Step.move found move

theorem rank_lt (moved : Moved canceled state state') (accounted : Accounted state) :
    state'.rank < state.rank := by
  rcases moved with ⟨place, slots, call, call', found, move, rfl⟩
  have less := Call.rank_move_lt (accounted.sound call (List.mem_of_getElem? found)) move
  have counted : ((state.calls.set place call').map Call.rank).sum + call.rank =
      (state.calls.map Call.rank).sum + call'.rank := sum_map_set_add found
  change ((state.calls.set place call').map Call.rank).sum < (state.calls.map Call.rank).sum
  omega

end Moved

/-- The calls and the goroutines do not go on for ever by themselves. -/
theorem Reachable.not_endless (reachable : Reachable canceled state) (run : Nat → Dialing E)
    (first : run 0 = state) : ¬ ∀ time, Moved canceled (run time) (run (time + 1)) := by
  intro moves
  have reached : ∀ time, Reachable canceled (run time) := by
    intro time
    induction time with
    | zero =>
        rw [first]
        exact reachable
    | succ time ih => exact ih.step (moves time).step
  have spent : ∀ time, (run time).rank + time ≤ (run 0).rank := by
    intro time
    induction time with
    | zero => exact Nat.le_refl _
    | succ time ih =>
        have less := (moves time).rank_lt (reached time).accounted
        omega
  have last := spent ((run 0).rank + 1)
  omega

/-! ## Where nothing is left to do -/

theorem isFinished_of_stuck (sound : CallSound call)
    (running : ∀ dial ∈ call.dials, dial.isRunning = false) {slots : Nat} (used : call.held ≤ slots)
    (stuck : ∀ slots' call', ¬ Move canceled slots call slots' call') (member : dial ∈ call.dials) :
    dial.isFinished = true := by
  rcases List.getElem?_of_mem member with ⟨place, found⟩
  cases phase : dial.phase with
  | running =>
      have ran := running dial member
      rw [Dial.isRunning, phase] at ran
      cases ran
  | completed conn error =>
      exfalso
      rcases (sound.dials place dial found).pending (by rw [Dial.isPending, phase]) with
        awaited | expired
      · cases callPhase : call.phase with
        | waiting other =>
            rw [callPhase] at awaited
            cases awaited
            exact stuck _ _ (Move.handOver callPhase found phase)
        | left other failure =>
            rw [callPhase] at awaited
            cases awaited
            exact stuck _ _ (Move.examineLeft callPhase found)
        | _ =>
            rw [callPhase] at awaited
            cases awaited
      · exact stuck _ _ (Move.abandon found phase expired)
  | releasing =>
      exfalso
      have counted := Call.held_onDial found Dial.release
      have before : dial.isFinished = false := by rw [Dial.isFinished, phase]
      have after : dial.release.isFinished = true := rfl
      rw [before, after, Bool.not_false, Bool.not_true, Bool.toNat_true, Bool.toNat_false] at counted
      cases slots with
      | zero => omega
      | succ slots => exact stuck _ _ (Move.release found phase)
  | finished => rw [Dial.isFinished, phase]

theorem returned_of_stuck (sound : CallSound call)
    (finished : ∀ dial ∈ call.dials, dial.isFinished = true) {slots : Nat}
    (free : slots < maxDetachedPolicyDials)
    (stuck : ∀ slots' call', ¬ Move canceled slots call slots' call') :
    ∃ outcome, call.phase = .returned outcome := by
  have about : ∀ place, call.phase.current = some place →
      ∃ dial, call.dials[place]? = some dial := by
    intro place current
    have last := sound.current place current
    exact ⟨_, List.getElem?_eq_getElem (by omega)⟩
  cases phase : call.phase with
  | resolved => exact absurd (Move.begin phase) (stuck _ _)
  | next => exact absurd (Move.loop phase) (stuck _ _)
  | acquiring expired => exact absurd (Move.acquire phase free) (stuck _ _)
  | waiting place =>
      rcases about place (by rw [phase]; rfl) with ⟨dial, found⟩
      have ended := finished dial (List.mem_of_getElem? found)
      rcases (sound.dials place dial found).waited (by rw [phase]; rfl) with pending | expired
      · unfold Dial.isPending at pending
        unfold Dial.isFinished at ended
        split at ended
        · rename_i dialPhase
          rw [dialPhase] at pending
          cases pending
        · cases ended
      · rcases Option.isSome_iff_exists.mp expired with ⟨error, expired⟩
        exact absurd (Move.leave phase found expired) (stuck _ _)
  | refused error => exact absurd (Move.examineRefused phase) (stuck _ _)
  | left place error =>
      rcases about place (by rw [phase]; rfl) with ⟨dial, found⟩
      exact absurd (Move.examineLeft phase found) (stuck _ _)
  | answered place conn error =>
      rcases about place (by rw [phase]; rfl) with ⟨dial, found⟩
      exact absurd (Move.examineAnswered phase found) (stuck _ _)
  | examined conn error attemptErr => exact absurd (Move.decide phase) (stuck _ _)
  | returned outcome => exact ⟨outcome, rfl⟩

theorem isFinished_of_quiescent (accounted : Accounted state) (quiescent : Quiescent canceled state)
    (member : call ∈ state.calls) (dialMember : dial ∈ call.dials) : dial.isFinished = true := by
  have used : call.held ≤ state.slots := by
    rw [accounted.slots_eq]
    exact List.le_sum_of_mem (List.mem_map_of_mem member)
  exact isFinished_of_stuck (accounted.sound call member) (quiescent call member).1 used
    (quiescent call member).2 dialMember

/-- Every slot was given back. -/
theorem slots_of_quiescent (accounted : Accounted state) (quiescent : Quiescent canceled state) :
    state.slots = 0 := by
  rw [accounted.slots_eq, List.sum_eq_zero_iff]
  intro held member
  rcases List.mem_map.mp member with ⟨call, callMember, rfl⟩
  apply List.countP_eq_zero.mpr
  intro dial dialMember
  rw [isFinished_of_quiescent accounted quiescent callMember dialMember]
  exact Bool.false_ne_true

/-! ## What is accounted for -/

/-- What became of the slot and the connection of a dial.  A connection that was
produced is with the goroutine, with the call, returned or closed. -/
structure DialAccount (call : Call E) (place : Nat) (dial : Dial E) : Prop where
  slot : dial.releases = dial.isFinished.toNat
  conn : dial.closes + dial.returns + dial.inFlight +
    (if call.phase.holding = some place then 1 else 0) = dial.produced.toNat
  returns_iff : dial.returns = 1 ↔ call.phase = .returned (.ok place)

/-- A connection that was returned is the caller's, and nothing was dialed after
it. -/
structure ConnAccount (call : Call E) (place : Nat) (dial : Dial E) : Prop where
  produced : dial.produced = true
  closes : dial.closes = 0
  last : place + 1 = call.dials.length
  index_le : ∀ other ∈ call.dials, other.index ≤ dial.index

/-- The end of a call and its dials. -/
structure CallAccount (call : Call E) : Prop where
  returned : ∃ outcome, call.phase = .returned outcome
  slot : ∀ dial ∈ call.dials, dial.releases = 1
  conn : ∀ dial ∈ call.dials, dial.closes + dial.returns = dial.produced.toNat

/-- A policy that leaks nothing. -/
structure LeaksNothing (canceled : E) (state : Dialing E) : Prop where
  running : (state.calls.map Call.running).sum ≤ maxDetachedPolicyDials
  slots : state.slots = (state.calls.map Call.held).sum
  dials : ∀ call ∈ state.calls, ∀ place dial, call.dials[place]? = some dial →
    DialAccount call place dial
  conns : ∀ call ∈ state.calls, ∀ place, call.phase = .returned (.ok place) →
    ∃ dial, call.dials[place]? = some dial ∧ ConnAccount call place dial
  ends : Quiescent canceled state → state.slots = 0 ∧ ∀ call ∈ state.calls, CallAccount call
  settles : ∀ run : Nat → Dialing E, run 0 = state →
    ¬ ∀ time, Moved canceled (run time) (run (time + 1))

theorem DialSound.account (sound : DialSound call.phase place dial) :
    DialAccount call place dial where
  slot := sound.releases_eq
  conn := sound.balance
  returns_iff := by
    rw [sound.returns_eq]
    constructor
    · intro one
      split at one
      · rename_i result
        cases phase : call.phase with
        | returned outcome =>
            cases outcome with
            | ok other =>
                rw [phase] at result
                cases result
                rfl
            | error failure =>
                rw [phase] at result
                cases result
        | _ =>
            rw [phase] at result
            cases result
      · cases one
    · intro returned
      rw [returned]
      exact if_pos rfl

theorem CallSound.connAccount (sound : CallSound call) (returned : call.phase = .returned (.ok place)) :
    ∃ dial, call.dials[place]? = some dial ∧ ConnAccount call place dial := by
  have current : call.phase.current = some place := by rw [returned]; rfl
  have last := sound.current place current
  have inside : place < call.dials.length := by omega
  have found : call.dials[place]? = some call.dials[place] := List.getElem?_eq_getElem inside
  have soundDial := sound.dials place _ found
  have one := soundDial.account.returns_iff.mpr returned
  have balance := soundDial.balance
  have produced_le := Bool.toNat_le call.dials[place].produced
  refine ⟨_, found, ?_, by omega, last, ?_⟩
  · exact Bool.toNat_eq_one.mp (by omega)
  · intro other member
    rw [sound.current_index place _ current found]
    exact sound.index_le other member

theorem CallSound.account (sound : CallSound call) (returned : ∃ outcome, call.phase = .returned outcome)
    (finished : ∀ dial ∈ call.dials, dial.isFinished = true) : CallAccount call where
  returned := returned
  slot := by
    intro dial member
    rcases List.getElem?_of_mem member with ⟨place, found⟩
    rw [(sound.dials place dial found).releases_eq, finished dial member]
    rfl
  conn := by
    intro dial member
    rcases List.getElem?_of_mem member with ⟨place, found⟩
    have balance := (sound.dials place dial found).balance
    rcases returned with ⟨outcome, phase⟩
    rw [phase, if_neg nofun] at balance
    have empty : dial.inFlight = 0 := by
      have ended := finished dial member
      unfold Dial.isFinished at ended
      unfold Dial.inFlight
      split at ended
      · rename_i dialPhase
        rw [dialPhase]
      · cases ended
    rw [empty] at balance
    exact balance

/-- In every state that a policy comes to, nothing has leaked. -/
theorem leaksNothing (reachable : Reachable canceled state) : LeaksNothing canceled state where
  running := by
    have accounted := reachable.accounted
    calc (state.calls.map Call.running).sum
        ≤ (state.calls.map Call.held).sum := List.sum_le_sum fun call _ => call.running_le_held
      _ = state.slots := accounted.slots_eq.symm
      _ ≤ maxDetachedPolicyDials := accounted.slots_le
  slots := reachable.accounted.slots_eq
  dials := fun call member place dial found =>
    ((reachable.accounted.sound call member).dials place dial found).account
  conns := fun call member _ returned => (reachable.accounted.sound call member).connAccount returned
  ends := by
    intro quiescent
    have accounted := reachable.accounted
    have free := slots_of_quiescent accounted quiescent
    refine ⟨free, fun call member => ?_⟩
    have finished : ∀ dial ∈ call.dials, dial.isFinished = true :=
      fun dial => isFinished_of_quiescent accounted quiescent member
    apply (accounted.sound call member).account _ finished
    exact returned_of_stuck (accounted.sound call member) finished
      (by rw [free]; exact Nat.succ_pos 31) (quiescent call member).2
  settles := reachable.not_endless

/-! ## A run -/

section Alone

variable {slots slots' : Nat} {call' : Call E}

/-- A step of the only call. -/
theorem Reachable.move (before : Reachable canceled ⟨slots, [call]⟩)
    (move : Move canceled slots call slots' call') : Reachable canceled ⟨slots', [call']⟩ := by
  have step : Step canceled ⟨slots, [call]⟩ ⟨slots', [call].set 0 call'⟩ := Step.move rfl move
  exact before.step step

theorem Reachable.event (before : Reachable canceled ⟨slots, [call]⟩) (event : Event call call') :
    Reachable canceled ⟨slots, [call']⟩ := by
  have step : Step canceled ⟨slots, [call]⟩ ⟨slots, [call].set 0 call'⟩ := Step.event rfl event
  exact before.step step

end Alone

/-- A call of one candidate that gets its connection, and nothing is left to
do. -/
theorem leaksNothing_returned : ∃ call : Call Unit, call.phase = .returned (.ok 0) ∧
    call.dials.length = 1 ∧ LeaksNothing () ⟨0, [call]⟩ := by
  have called : Reachable () ⟨0, [Call.start (.ok [[1, 1, 1, 1]]) none]⟩ :=
    Reachable.start.step (Step.call _ none)
  have trying := (called.move (.begin rfl)).move (.loop rfl)
  have dialing := trying.move (.acquire rfl (Nat.succ_pos 31))
  have completed := dialing.event (show Event _ (Call.onDial _ 0 (Dial.complete true none)) from
    .complete rfl rfl)
  have answered := completed.move (.handOver rfl rfl rfl)
  have examined := answered.move (.examineAnswered rfl rfl)
  have returned := examined.move (.decide rfl)
  have released := returned.move
    (show Move () 1 _ 0 (Call.onDial _ 0 Dial.release) from .release rfl rfl)
  exact ⟨_, rfl, rfl, leaksNothing released⟩

end CheckNetwork.Network
