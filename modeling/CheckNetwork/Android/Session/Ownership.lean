import CheckNetwork.Android.Session.Cancellation

/-!
# Who may change the state of a request

What a run of the session may do is stated over what it did before, newest event
first.  The fields of the coordinator and of the session are what that past says.
-/

namespace CheckNetwork.Android.Session

open Transition

/-! ## The past of a run -/

/-- The last snapshot that a step made. -/
def published : List Event → RequestState
  | [] => initial.current
  | .started _ snapshot :: _ | .invalidated snapshot :: _ | .cancelled snapshot :: _
  | .destroyed snapshot :: _ | .completed _ snapshot :: _ => snapshot
  | _ :: past => published past

/-- The call of the last request, until it completes, is cancelled or invalidated. -/
def live : List Event → Option Nat
  | [] => none
  | .started call _ :: _ => some call
  | .invalidated _ :: _ | .cancelled _ :: _ | .destroyed _ :: _ | .completed _ _ :: _ => none
  | _ :: past => live past

/-- The calls that were live when something else took their place. -/
def abandoned : List Event → List Nat
  | [] => []
  | .started _ _ :: past | .invalidated _ :: past | .cancelled _ :: past | .destroyed _ :: past =>
      (live past).toList ++ abandoned past
  | _ :: past => abandoned past

def attachedTo : List Event → Option (Owner × Listener)
  | [] => none
  | .attached owner listener :: _ => some (owner, listener)
  | .detached :: _ => none
  | _ :: past => attachedTo past

/-- What the main thread has checked and not yet delivered. -/
def awaiting : List Event → Option (Listener × RequestState)
  | [] => none
  | .checked _ listener snapshot :: _ => some (listener, snapshot)
  | .received _ _ :: _ => none
  | _ :: past => awaiting past

/-- A completion is of the live request, and a listener receives what was current
and its own when it was checked. -/
def Allowed (past : List Event) : Event → Prop
  | .completed call _ => live past = some call
  | .checked owner listener snapshot =>
      snapshot = published past ∧ attachedTo past = some (owner, listener)
  | .received listener snapshot => awaiting past = some (listener, snapshot)
  | _ => True

def Lawful : List Event → Prop
  | [] => True
  | event :: past => Allowed past event ∧ Lawful past

/-! ## The calls of a step -/

/-- Every call keeps its place and what was asked of it. -/
def Follows (before after : List Call) : Prop :=
  ∀ (index : Nat) (call : Call), before[index]? = some call → ∃ next, after[index]? = some next ∧
    (call.cancelling ≠ .unasked → next.cancelling ≠ .unasked)

section Calls

variable {before after : List Call} {call next : Call} {index : Nat}

theorem Follows.refl (calls : List Call) : Follows calls calls :=
  fun _ call found => ⟨call, found, id⟩

theorem follows_set (found : before[index]? = some call)
    (keeps : call.cancelling ≠ .unasked → next.cancelling ≠ .unasked) :
    Follows before (before.set index next) := by
  intro other old foundOld
  by_cases same : index = other
  · subst same
    cases found.symm.trans foundOld
    obtain ⟨bound, _⟩ := List.getElem?_eq_some_iff.mp found
    exact ⟨next, List.getElem?_set_self bound, keeps⟩
  · exact ⟨old, (List.getElem?_set_ne same).trans foundOld, id⟩

theorem follows_drop (calls : List Call) : Follows calls (calls.map Call.drop) := by
  intro index call found
  refine ⟨call.drop, by rw [List.getElem?_map, found]; rfl, fun asked => ?_⟩
  rw [Call.drop_cancelling]
  exact asked

theorem follows_askCancel (previous : Option Nat) (calls more : List Call) :
    Follows calls (askCancel previous calls ++ more) := by
  intro index call found
  cases previous with
  | none => exact ⟨call, List.getElem?_append_left (List.getElem?_eq_some_iff.mp found).1 ▸ found, id⟩
  | some target =>
      refine ⟨if target = index then { call with cancelling := .asked } else call, ?_, ?_⟩
      · have bound := (List.getElem?_eq_some_iff.mp found).1
        rw [askCancel, List.getElem?_append_left (by rw [List.length_modify]; exact bound),
          List.getElem?_modify, found]
        rfl
      · intro asked
        split
        · exact nofun
        · exact asked

/-- The previous call is asked to cancel. -/
theorem asked_askCancel (found : before[index]? = some call) (more : List Call) :
    ∃ next, (askCancel (some index) before ++ more)[index]? = some next ∧
      next.cancelling ≠ .unasked := by
  refine ⟨{ call with cancelling := .asked }, ?_, nofun⟩
  have bound := (List.getElem?_eq_some_iff.mp found).1
  rw [askCancel, List.getElem?_append_left (by rw [List.length_modify]; exact bound),
    List.getElem?_modify_eq, found]
  rfl

end Calls

/-! ## What the past says -/

structure Tracked (state : State) : Prop where
  published : published state.history = state.current
  live : live state.history = state.active
  attached : attachedTo state.history = state.attachment
  awaiting : awaiting state.history = state.receiving
  known : ∀ index, state.active = some index → ∃ call, state.calls[index]? = some call
  asked : ∀ index ∈ abandoned state.history, ∃ call, state.calls[index]? = some call ∧
    call.cancelling ≠ .unasked
  ok : ∀ call ∈ state.calls, call.Ok
  lawful : Lawful state.history

theorem tracked_initial : Tracked initial where
  published := rfl
  live := rfl
  attached := rfl
  awaiting := rfl
  known _ active := by cases active
  asked _ member := by cases member
  ok _ member := by cases member
  lawful := trivial

section Steps

variable {state after : State} {index : Nat} {call changed : Call}

/-- The rule for a step that makes no snapshot and changes calls alone. -/
theorem Tracked.calls (tracked : Tracked state) (current : after.current = state.current)
    (active : after.active = state.active) (attachment : after.attachment = state.attachment)
    (receiving : after.receiving = state.receiving) (history : after.history = state.history)
    (follows : Follows state.calls after.calls) (ok : ∀ call ∈ after.calls, call.Ok) :
    Tracked after := by
  refine ⟨?_, ?_, ?_, ?_, ?_, ?_, ok, history ▸ tracked.lawful⟩
  · rw [history, current, tracked.published]
  · rw [history, active, tracked.live]
  · rw [history, attachment, tracked.attached]
  · rw [history, receiving, tracked.awaiting]
  · intro index activated
    rw [active] at activated
    obtain ⟨call, found⟩ := tracked.known index activated
    obtain ⟨next, foundNext, _⟩ := follows index call found
    exact ⟨next, foundNext⟩
  · intro index member
    rw [history] at member
    obtain ⟨call, found, asked⟩ := tracked.asked index member
    obtain ⟨next, foundNext, keeps⟩ := follows index call found
    exact ⟨next, foundNext, keeps asked⟩

theorem Tracked.setCall (tracked : Tracked state) (found : state.calls[index]? = some call)
    (ok : changed.Ok) (keeps : call.cancelling ≠ .unasked → changed.cancelling ≠ .unasked) :
    Tracked (state.setCall index changed) := by
  refine tracked.calls rfl rfl rfl rfl rfl (follows_set found keeps) ?_
  intro other member
  rcases List.mem_or_eq_of_mem_set member with before | rfl
  · exact tracked.ok other before
  · exact ok

theorem ok_askCancel {calls : List Call} (ok : ∀ call ∈ calls, call.Ok) (previous : Option Nat) :
    ∀ call ∈ askCancel previous calls, call.Ok := by
  intro call member
  cases previous with
  | none => exact ok call member
  | some target =>
      obtain ⟨index, found⟩ := List.mem_iff_getElem?.mp member
      rw [askCancel, List.getElem?_modify] at found
      obtain ⟨old, foundOld, same⟩ := Option.map_eq_some_iff.mp found
      have before := ok old (List.mem_of_getElem? foundOld)
      rw [← same]
      split
      · exact before.ask
      · exact before

/-- The rule for a step that takes the place of the active call. -/
theorem Tracked.supersede (tracked : Tracked state) {snapshot : RequestState} {event : Event}
    {more : List Call} (calls : after.calls = askCancel state.active state.calls ++ more)
    (history : after.history = event :: state.history) (current : after.current = snapshot)
    (attachment : after.attachment = state.attachment)
    (receiving : after.receiving = state.receiving) (ok : ∀ call ∈ more, call.Ok)
    (known : ∀ index, after.active = some index → ∃ call, after.calls[index]? = some call)
    (records : Session.published (event :: state.history) = snapshot ∧
      Session.live (event :: state.history) = after.active ∧
      abandoned (event :: state.history) =
        (Session.live state.history).toList ++ abandoned state.history ∧
      attachedTo (event :: state.history) = attachedTo state.history ∧
      Session.awaiting (event :: state.history) = Session.awaiting state.history ∧
      Allowed state.history event) : Tracked after := by
  obtain ⟨shown, lives, leaves, attaches, awaits, allowed⟩ := records
  refine ⟨?_, ?_, ?_, ?_, known, ?_, ?_, ?_⟩
  · rw [history, shown, current]
  · rw [history, lives]
  · rw [history, attaches, attachment, tracked.attached]
  · rw [history, awaits, receiving, tracked.awaiting]
  · intro index member
    rw [history, leaves, tracked.live] at member
    rw [calls]
    rcases List.mem_append.mp member with previous | before
    · obtain active := Option.mem_toList.mp previous
      obtain ⟨call, found⟩ := tracked.known index active
      rw [show state.active = some index from active]
      exact asked_askCancel found more
    · obtain ⟨call, found, asked⟩ := tracked.asked index before
      obtain ⟨next, foundNext, keeps⟩ := follows_askCancel state.active state.calls more index call found
      exact ⟨next, foundNext, keeps asked⟩
  · intro call member
    rw [calls] at member
    rcases List.mem_append.mp member with before | new
    · exact ok_askCancel tracked.ok state.active call before
    · exact ok call new
  · rw [history]
    exact ⟨allowed, tracked.lawful⟩

theorem length_askCancel (previous : Option Nat) (calls : List Call) :
    (askCancel previous calls).length = calls.length := by
  cases previous with
  | none => rfl
  | some index => exact List.length_modify _ _ _

theorem Tracked.start (tracked : Tracked state) (signature : String) (creates : Bool) :
    Tracked (start signature creates state) := by
  unfold Session.start
  split
  · exact tracked
  · dsimp only
    split
    · exact tracked.calls rfl rfl rfl rfl rfl (.refl _) tracked.ok
    · refine tracked.supersede rfl rfl rfl rfl rfl ?_ ?_ ⟨rfl, rfl, rfl, rfl, rfl, trivial⟩
      · intro call member
        rw [List.mem_singleton.mp member]
        exact Call.ok_create _ _
      · rintro _ ⟨rfl⟩
        refine ⟨.create (state.ownerSequence + 1) signature, ?_⟩
        dsimp only
        rw [List.getElem?_append_right (Nat.le_of_eq (length_askCancel _ _)), length_askCancel,
          Nat.sub_self]
        rfl

/-- The rule for the steps that leave no request. -/
theorem Tracked.withdraw (tracked : Tracked state) {snapshot : RequestState} {event : Event}
    {destroyed : Bool}
    (records : Session.published (event :: state.history) = snapshot ∧
      Session.live (event :: state.history) = none ∧
      abandoned (event :: state.history) =
        (Session.live state.history).toList ++ abandoned state.history ∧
      attachedTo (event :: state.history) = attachedTo state.history ∧
      Session.awaiting (event :: state.history) = Session.awaiting state.history ∧
      Allowed state.history event) :
    Tracked { state.update none snapshot event with
      destroyed := destroyed
      calls := askCancel state.active state.calls } :=
  tracked.supersede (List.append_nil _).symm rfl rfl rfl rfl (fun _ member => (by cases member))
    (fun _ active => (by cases active)) records

theorem Tracked.invalidateInput (tracked : Tracked state) (signature : String) :
    Tracked (invalidateInput signature state) := by
  unfold Session.invalidateInput
  split
  · exact tracked
  · exact tracked.withdraw ⟨rfl, rfl, rfl, rfl, rfl, trivial⟩

theorem Tracked.cancel (tracked : Tracked state) : Tracked (cancel state) := by
  unfold Session.cancel
  split
  · exact tracked
  · exact tracked.withdraw ⟨rfl, rfl, rfl, rfl, rfl, trivial⟩

theorem Tracked.destroyCoordinator (tracked : Tracked state) :
    Tracked (destroyCoordinator state) := by
  unfold Session.destroyCoordinator
  split
  · exact tracked
  · exact tracked.withdraw ⟨rfl, rfl, rfl, rfl, rfl, trivial⟩

/-- A completion is of the live request, or it changes nothing. -/
theorem Tracked.complete (tracked : Tracked state) (call : Call) (outcome : Outcome) :
    Tracked (complete index call outcome state) := by
  unfold Session.complete
  split
  · rename_i owns
    have lives : Session.live state.history = some index := tracked.live.trans owns.2.1
    exact ⟨rfl, rfl, tracked.attached, tracked.awaiting, fun _ active => (by cases active),
      tracked.asked, tracked.ok, lives, tracked.lawful⟩
  · exact tracked

theorem Tracked.attach (tracked : Tracked state) (owner : Owner) (listener : Listener) :
    Tracked (attach owner listener state) := by
  unfold Session.attach
  split
  · exact tracked
  · exact ⟨tracked.published, tracked.live, rfl, tracked.awaiting, tracked.known, tracked.asked,
      tracked.ok, trivial, tracked.lawful⟩

theorem Tracked.detach (tracked : Tracked state) (owner : Option Owner) :
    Tracked (detach owner state) := by
  unfold Session.detach
  split
  · exact ⟨tracked.published, tracked.live, rfl, tracked.awaiting, tracked.known, tracked.asked,
      tracked.ok, trivial, tracked.lawful⟩
  · exact tracked

theorem Tracked.destroySession (tracked : Tracked state) : Tracked (destroySession state) := by
  unfold Session.destroySession
  split
  · exact tracked
  · exact ⟨tracked.published, tracked.live, rfl, tracked.awaiting, tracked.known, tracked.asked,
      tracked.ok, trivial, tracked.lawful⟩

/-- The rule for a step that only moves tasks and deliveries. -/
theorem Tracked.queues (tracked : Tracked state) (tasks : List Task) (posted : List Post)
    (listening : Bool) :
    Tracked { state with tasks := tasks, posted := posted, listening := listening } :=
  tracked.calls rfl rfl rfl rfl rfl (.refl _) tracked.ok

theorem Tracked.runTask (tracked : Tracked state) (task : Task) : Tracked (runTask state task) := by
  cases task with
  | publish snapshot =>
      dsimp only [Session.runTask]
      split
      · exact tracked.queues _ _ _
      · exact tracked
  | inform snapshot =>
      dsimp only [Session.runTask]
      split
      · exact tracked
      · split
        · exact tracked
        · exact tracked.queues _ _ _
  | dispatch owner listener snapshot => exact tracked.queues _ _ _
  | unlisten => exact tracked.queues _ _ _
  | destroy => exact tracked.destroyCoordinator.queues _ _ _
  | shutdown =>
      refine tracked.calls rfl rfl rfl rfl rfl (follows_drop state.calls) ?_
      intro call member
      obtain ⟨old, before, rfl⟩ := List.mem_map.mp member
      exact (tracked.ok old before).drop

theorem Tracked.deliver (tracked : Tracked state) (post : Post) : Tracked (deliver post state) := by
  unfold Session.deliver
  split
  · exact tracked
  · rename_i open_
    split
    · exact tracked
    · rename_i current
      simp only [not_or, not_not] at open_ current
      exact ⟨tracked.published, tracked.live, tracked.attached, rfl, tracked.known, tracked.asked,
        tracked.ok, ⟨current.symm.trans tracked.published.symm, tracked.attached.trans open_.2⟩,
        tracked.lawful⟩

theorem Call.work_cancelling (call : Call) (answers : Answers) :
    (call.work answers).cancelling = call.cancelling := by
  unfold Call.work Call.activate Call.check
  repeat' split
  all_goals rfl

theorem Tracked.launch (tracked : Tracked state) {accepts : Bool}
    (step : launch index accepts state = some after) : Tracked after := by
  unfold Session.launch at step
  split at step
  · cases step
  · rename_i call found
    have ok := tracked.ok call (List.mem_of_getElem? found)
    split at step
    · cases step
    · rename_i created
      rw [not_not] at created
      have away : ∀ network, call.stage ≠ .activating network ∧ call.stage ≠ .executing network := by
        intro network
        rw [created]
        exact ⟨nofun, nofun⟩
      split at step <;> cases step
      · have submitted := ok.proceed .submitted away fun _ => ⟨nofun, nofun⟩
        exact tracked.setCall found
          ⟨submitted.flag, submitted.active, submitted.ended, submitted.running⟩ id
      · exact (tracked.setCall found (ok.proceed .finished away fun _ => ⟨nofun, nofun⟩) id).complete
          call (.error .network)

theorem Tracked.assign (tracked : Tracked state) (step : assign index state = some after) :
    Tracked after := by
  unfold Session.assign at step
  split at step
  · cases step
  · rename_i call found
    have ok := tracked.ok call (List.mem_of_getElem? found)
    split at step
    · cases step
      exact tracked.setCall found ⟨ok.flag, ok.active, ok.ended, ok.running⟩ id
    · cases step

theorem Tracked.stop (tracked : Tracked state) (step : stop index state = some after) :
    Tracked after := by
  unfold Session.stop at step
  split at step
  · cases step
  · rename_i call found
    obtain ⟨next, stops, rfl⟩ := Option.map_eq_some_iff.mp step
    obtain ⟨ok, asked⟩ := (tracked.ok call (List.mem_of_getElem? found)).stop stops
    exact tracked.setCall found ok fun _ => asked

theorem Tracked.work (tracked : Tracked state) {answers : Answers}
    (step : work index answers state = some after) : Tracked after := by
  unfold Session.work at step
  split at step
  · cases step
  · rename_i call found
    have ok := tracked.ok call (List.mem_of_getElem? found)
    split at step
    · cases step
    · cases step
    · rename_i outcome stage
      cases step
      refine (tracked.setCall found (ok.proceed .clearing ?_ fun _ => ⟨nofun, nofun⟩) id).complete
        call outcome
      rw [stage]
      exact fun _ => ⟨nofun, nofun⟩
    · rename_i stage
      cases step
      refine (tracked.setCall found (ok.proceed .finished ?_ fun _ => ⟨nofun, nofun⟩) id).complete
        call .finally
      rw [stage]
      exact fun _ => ⟨nofun, nofun⟩
    · cases step
      refine tracked.setCall found (ok.work answers) fun asked => ?_
      rw [Call.work_cancelling]
      exact asked

theorem Tracked.next {action : Action} (tracked : Tracked state)
    (step : next state action = some after) : Tracked after := by
  cases action with
  | start signature creates =>
      cases step
      exact tracked.start signature creates
  | invalidateInput signature =>
      cases step
      exact tracked.invalidateInput signature
  | cancel =>
      cases step
      exact tracked.cancel
  | destroy =>
      cases step
      exact tracked.destroySession
  | attach owner listener =>
      cases step
      exact tracked.attach owner listener
  | detach owner =>
      cases step
      exact tracked.detach owner
  | run task =>
      obtain ⟨_, _, rfl⟩ := Option.map_eq_some_iff.mp step
      exact (tracked.queues _ _ _).runTask _
  | launch call accepts => exact tracked.launch step
  | assign call => exact tracked.assign step
  | stop call => exact tracked.stop step
  | work call answers => exact tracked.work step
  | deliver post =>
      change takePost post state = some after at step
      unfold takePost at step
      split at step
      · cases step
        exact (tracked.queues _ _ _).deliver _
      · cases step
  | receive =>
      obtain ⟨⟨listener, snapshot⟩, receiving, rfl⟩ := Option.map_eq_some_iff.mp step
      exact ⟨tracked.published, tracked.live, tracked.attached, rfl, tracked.known, tracked.asked,
        tracked.ok, tracked.awaiting.trans receiving, tracked.lawful⟩

end Steps

theorem tracked_of_reachable {state : State} (reachable : Reachable next initial state) :
    Tracked state :=
  reachable.invariant Tracked tracked_initial fun _ _ _ tracked step => tracked.next step

end CheckNetwork.Android.Session
