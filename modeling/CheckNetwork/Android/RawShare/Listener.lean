import CheckNetwork.Android.RawShare.Safety

/-!
# What the listener is told

The worker and the main thread post notifications on their own.  The listener is
told of the last state, unless an attachment posts an older one after it, or a
grant is told to nobody.
-/

namespace CheckNetwork.Android.RawShare

open Transition

/-! ## Notifications -/

/-- The last snapshot that the listener of a generation received. -/
def lastDelivered (generation : Nat) : List Event → Option Snapshot
  | [] => none
  | .delivered notification :: past =>
      if notification.listenerGeneration = generation then some notification.snapshot
      else lastDelivered generation past
  | _ :: past => lastDelivered generation past

/-- The last snapshot that the attached listener received or will. -/
def lastTold (state : State) : Option Snapshot :=
  ((state.posted.filter fun notification =>
    notification.listenerGeneration = state.listenerGeneration).getLast?.map
      Notification.snapshot).or (lastDelivered state.listenerGeneration state.history)

/-- Nothing is left to do. -/
def Quiet (state : State) : Prop :=
  state.todo = [] ∧ state.posted = [] ∧ state.queue = [] ∧ state.program = []

instance (state : State) : Decidable (Quiet state) :=
  inferInstanceAs (Decidable (_ ∧ _ ∧ _ ∧ _))

/-- The listener knows the state once nothing is left to do. -/
def Converged (state : State) : Prop :=
  Quiet state → state.listener ≠ none →
    lastDelivered state.listenerGeneration state.history = some state.snapshot

/-! ## Orderly runs -/

/-- The worker has yet to tell the attached listener. -/
def Telling (state : State) : Prop :=
  state.slotOwned = true ∨
    match state.program.head? with
    | some .publish => True
    | some (.dispatch notification) =>
        notification.listenerGeneration = state.listenerGeneration
    | _ => False

instance (state : State) : Decidable (Telling state) := by
  unfold Telling
  cases state.program.head? with
  | none => exact inferInstance
  | some step => cases step <;> exact inferInstance

/-- An attachment posts what is still true, or what the worker will correct; and a
candidate is granted when no listener is attached, or when the worker has yet to
look at it. -/
def Orderly (state : State) : Action → Prop
  | .main =>
      match state.todo with
      | [.dispatch notification] => notification.snapshot = state.snapshot ∨ Telling state
      | _ => True
  | .call _ (.grant owner) => state.phase = .materialized ∧ state.operationOwner = owner →
      state.listener = none ∨ state.program.head? = some .publish
  | _ => True

instance (state : State) (action : Action) : Decidable (Orderly state action) := by
  unfold Orderly
  split
  · split <;> exact inferInstance
  · exact inferInstance
  · exact inferInstance

/-- The steps of orderly runs. -/
def orderlyNext : Step State Action := fun state action =>
  if Orderly state action then next state action else none

theorem orderlyNext_spec {state after : State} {action : Action}
    (step : orderlyNext state action = some after) :
    Orderly state action ∧ next state action = some after := by
  rcases ite_eq_iff.mp step with taken | ⟨_, disabled⟩
  · exact taken
  · cases disabled

/-! ## What the listener has yet to hear -/

def WorkerStep.tells : WorkerStep → Bool
  | .publish | .dispatch _ => true
  | _ => false

/-- Only the first step of the program tells, and only the last one may carry an
operation. -/
def Shaped : List WorkerStep → Prop
  | [] => True
  | step :: rest => (∀ other ∈ rest, other.tells = false) ∧ (step.carries = true → rest = []) ∧
      Shaped rest

/-- A notification for the attached listener carries its owner. -/
def Addressed (state : State) (notification : Notification) : Prop :=
  notification.listenerGeneration ≤ state.listenerGeneration ∧
    (notification.listenerGeneration = state.listenerGeneration →
      notification.owner = state.listenerOwner)

/-- What is on its way to the listener. -/
structure Informed (state : State) : Prop where
  shaped : Shaped state.program
  call : state.todo = [] ∨ (∃ notification, state.todo = [.dispatch notification]) ∨
    ∃ front job, state.todo = front ++ [.execute job]
  posted : ∀ notification ∈ state.posted, Addressed state notification
  posting : ∀ notification, .dispatch notification ∈ state.program → Addressed state notification
  attaching : ∀ notification, .dispatch notification ∈ state.todo →
    Addressed state notification ∧
      notification.listenerGeneration = state.listenerGeneration
  listening : state.listener ≠ none → state.disposalRequested = false
  current : state.listener ≠ none → state.slotOwned = false → ∀ notification,
    state.program.head? = some (.dispatch notification) →
    notification.listenerGeneration = state.listenerGeneration →
      notification.snapshot = state.snapshot
  told : state.listener ≠ none → state.slotOwned = false → state.todo ≠ [] ∨ Telling state ∨
    lastTold state = some state.snapshot

theorem informed_initial : Informed initial where
  shaped := trivial
  call := .inl rfl
  posted _ member := by cases member
  posting _ member := by cases member
  attaching _ member := by cases member
  listening attached := absurd rfl attached
  current attached := absurd rfl attached
  told attached := absurd rfl attached

/-! ## Steps inside an operation -/

/-- What a step inside an operation does not touch. -/
structure Untouched (state after : State) : Prop where
  listener : after.listener = state.listener
  owner : after.listenerOwner = state.listenerOwner
  generation : after.listenerGeneration = state.listenerGeneration
  disposal : after.disposalRequested = state.disposalRequested
  posted : after.posted = state.posted
  todo : after.todo = state.todo

/-- A step inside an operation keeps the slot, or tells of its end. -/
structure Worked (state after : State) : Prop where
  untouched : Untouched state after
  shaped : Shaped after.program
  silent : ∀ notification, .dispatch notification ∉ after.program
  ends : after.slotOwned = true ∨ after.program.head? = some .publish ∨
    after.disposalRequested = true

section Worker

variable {state after cleared : State} {step : WorkerStep}

theorem shaped_of_short {program : List WorkerStep} (short : program.length ≤ 1) :
    Shaped program := by
  rcases program with _ | ⟨step, _ | ⟨other, rest⟩⟩
  · trivial
  · exact ⟨fun _ member => (by cases member), fun _ => rfl, trivial⟩
  · simp at short

theorem worked_of_step (untouched : Untouched state after) (owned : after.slotOwned = true)
    (program : after.program = [step]) (carries : step.carries = true) : Worked state after where
  untouched := untouched
  shaped := by
    rw [program]
    exact shaped_of_short (Nat.le_refl 1)
  silent notification member := by
    rw [program, List.mem_singleton] at member
    rw [← member] at carries
    cases carries
  ends := .inl owned

theorem worked_of_queued (untouched : Untouched state after) (owned : after.slotOwned = true)
    (program : after.program = []) : Worked state after where
  untouched := untouched
  shaped := by
    rw [program]
    trivial
  silent notification member := by
    rw [program] at member
    cases member
  ends := .inl owned

/-- An operation that ends publishes first. -/
theorem worked_of_end (untouched : Untouched state after) {last : List WorkerStep}
    (program : after.program = .publish :: last) (short : last.length ≤ 1)
    (quiet : ∀ step ∈ last, step.tells = false) : Worked state after where
  untouched := untouched
  shaped := by
    rw [program]
    exact ⟨quiet, fun carries => (by cases carries), shaped_of_short short⟩
  silent notification member := by
    rw [program] at member
    rcases List.mem_cons.mp member with publishes | later
    · cases publishes
    · cases quiet _ later
  ends := by
    rw [program]
    exact .inr (.inl rfl)

theorem worked_begin (untouched : Untouched state cleared) (owned : cleared.slotOwned = true)
    (success : Success) (defer : Bool) :
    Worked state (beginReconciliation success defer [] cleared) := by
  obtain ⟨h₁, h₂, h₃, h₄, h₅, h₆⟩ := untouched
  unfold beginReconciliation
  split
  · exact worked_of_step ⟨h₁, h₂, h₃, h₄, h₅, h₆⟩ owned rfl rfl
  · dsimp only
    split
    · exact worked_of_step ⟨h₁, h₂, h₃, h₄, h₅, h₆⟩ owned rfl rfl
    · split
      · exact worked_of_step ⟨h₁, h₂, h₃, h₄, h₅, h₆⟩ owned rfl rfl
      · exact worked_of_queued ⟨h₁, h₂, h₃, h₄, h₅, h₆⟩ owned rfl

theorem worked_retireOwned (owned : state.slotOwned = true) (answers : Answers)
    (success : Success) : Worked state (retireOwned answers success [] state) := by
  unfold retireOwned
  split
  · exact worked_of_step ⟨rfl, rfl, rfl, rfl, rfl, rfl⟩ owned rfl rfl
  · split <;> exact worked_of_step ⟨rfl, rfl, rfl, rfl, rfl, rfl⟩ owned rfl rfl

theorem worked_retireNames (owned : state.slotOwned = true) (answers : Answers)
    (oldUri : Option Uri) (failure : Option String) (success : Success) :
    Worked state (retireNames answers oldUri failure success [] state) := by
  unfold retireNames
  dsimp only
  generalize cleared_eq : (if oldUri ≠ none ∧ state.uri = oldUri then
    { state with uri := none, leaseExpiresAt := 0 } else state) = cleared
  have untouched : Untouched state cleared ∧ cleared.slotOwned = true := by
    rw [← cleared_eq]
    split <;> exact ⟨⟨rfl, rfl, rfl, rfl, rfl, rfl⟩, owned⟩
  obtain ⟨⟨h₁, h₂, h₃, h₄, h₅, h₆⟩, owned'⟩ := untouched
  split
  · exact worked_of_step ⟨h₁, h₂, h₃, h₄, h₅, h₆⟩ owned' rfl rfl
  · exact @worked_begin state { (deleteNames answers failure cleared).1 with revoked := false }
      ⟨h₁, h₂, h₃, h₄, h₅, h₆⟩ owned' _ _

theorem Success.first_carries (success : Success) : success.first.carries = true := by
  cases success <;> rfl

theorem worked_reconcileStep (owned : state.slotOwned = true) (answers : Answers) :
    Worked state (reconcileStep answers [] state) := by
  unfold reconcileStep
  split
  · exact worked_of_queued ⟨rfl, rfl, rfl, rfl, rfl, rfl⟩ owned rfl
  · split
    · exact worked_of_step ⟨rfl, rfl, rfl, rfl, rfl, rfl⟩ owned rfl rfl
    · split
      · exact worked_of_step ⟨rfl, rfl, rfl, rfl, rfl, rfl⟩ owned rfl rfl
      · exact worked_of_queued ⟨rfl, rfl, rfl, rfl, rfl, rfl⟩ owned rfl
    · exact worked_of_step ⟨rfl, rfl, rfl, rfl, rfl, rfl⟩ owned rfl (Success.first_carries _)

theorem worked_materialize (owned : state.slotOwned = true) (operation : Nat) :
    Worked state (materialize operation [] state) := by
  unfold materialize
  split
  · exact worked_of_step ⟨rfl, rfl, rfl, rfl, rfl, rfl⟩ owned rfl rfl
  · refine @worked_of_end state _ ⟨rfl, rfl, rfl, rfl, rfl, rfl⟩ _ rfl (Nat.le_refl 1) ?_
    intro step member
    rw [List.mem_singleton.mp member]
    rfl

theorem worked_allocate (owned : state.slotOwned = true) (answers : Answers) (operation : Nat)
    (raw : Option String) : Worked state (allocate answers operation raw [] state) := by
  unfold allocate
  split
  · exact worked_of_step ⟨rfl, rfl, rfl, rfl, rfl, rfl⟩ owned rfl rfl
  · dsimp only
    split <;> exact worked_of_step ⟨rfl, rfl, rfl, rfl, rfl, rfl⟩ owned rfl rfl

theorem worked_write (owned : state.slotOwned = true) (answers : Answers) (operation : Nat)
    (token : String) : Worked state (write answers operation token [] state) := by
  unfold write
  dsimp only
  split
  · exact worked_of_step ⟨rfl, rfl, rfl, rfl, rfl, rfl⟩ owned rfl rfl
  · exact worked_of_step ⟨rfl, rfl, rfl, rfl, rfl, rfl⟩ owned rfl rfl
  · unfold commit
    split
    · exact worked_of_step ⟨rfl, rfl, rfl, rfl, rfl, rfl⟩ owned rfl rfl
    · split
      · exact worked_of_step ⟨rfl, rfl, rfl, rfl, rfl, rfl⟩ owned rfl rfl
      · exact worked_of_end ⟨rfl, rfl, rfl, rfl, rfl, rfl⟩ rfl (Nat.zero_le 1)
          (fun _ member => (by cases member))

theorem cleanupCandidate_untouched (answers : Answers) (address : Option Uri) (state : State) :
    Untouched state (cleanupCandidate answers address state).1 ∧
      (cleanupCandidate answers address state).1.slotOwned = state.slotOwned := by
  cases address <;> exact ⟨⟨rfl, rfl, rfl, rfl, rfl, rfl⟩, rfl⟩

theorem worked_cleanupStale (owned : state.slotOwned = true) (answers : Answers) (uri : Uri) :
    Worked state (cleanupStale answers uri [] state) := by
  obtain ⟨⟨h₁, h₂, h₃, h₄, h₅, h₆⟩, slot⟩ := cleanupCandidate_untouched answers (some uri) state
  unfold cleanupStale
  dsimp only
  split <;> exact worked_of_step ⟨h₁, h₂, h₃, h₄, h₅, h₆⟩ (slot.trans owned) rfl rfl

theorem worked_terminalFailure (owned : state.slotOwned = true) (answers : Answers)
    (problem : String) : Worked state (terminalFailure answers problem [] state) := by
  obtain ⟨⟨h₁, h₂, h₃, h₄, h₅, h₆⟩, slot⟩ := cleanupCandidate_untouched answers state.uri state
  unfold terminalFailure
  dsimp only
  split <;> exact worked_of_step ⟨h₁, h₂, h₃, h₄, h₅, h₆⟩ (slot.trans owned) rfl rfl

/-- The steps after the last publication are silent. -/
theorem closing_silent (state : State) : ∃ last, closing state [] = .publish :: last ∧
    last.length ≤ 1 ∧ ∀ step ∈ last, step.tells = false := by
  unfold closing
  split
  · refine ⟨_, rfl, (Nat.le_refl 1), ?_⟩
    intro step member
    rw [List.mem_singleton.mp member]
    rfl
  · exact ⟨_, rfl, Nat.zero_le 1, fun _ member => (by cases member)⟩

/-- Every step inside an operation keeps the slot, or tells of its end. -/
theorem worked_work (owned : state.slotOwned = true) (answers : Answers)
    (carries : step.carries = true)
    (disposes : step = .finishDisposal → state.disposalRequested = true) :
    Worked state (work answers [] state step) := by
  obtain ⟨last, closes, short, quiet⟩ := closing_silent state
  cases step with
  | startup => exact worked_begin ⟨rfl, rfl, rfl, rfl, rfl, rfl⟩ owned _ _
  | retire success => exact worked_retireOwned owned answers success
  | retiring oldUri failure success => exact worked_retireNames owned answers oldUri failure success
  | reconcile => exact worked_reconcileStep owned answers
  | materialize operation => exact worked_materialize owned operation
  | allocate operation raw => exact worked_allocate owned answers operation raw
  | write operation token => exact worked_write owned answers operation token
  | cleanupStale uri => exact worked_cleanupStale owned answers uri
  | terminalFailure problem => exact worked_terminalFailure owned answers problem
  | finishTerminal problem =>
      refine @worked_of_end state _ ⟨rfl, rfl, rfl, rfl, rfl, rfl⟩ _ rfl (Nat.le_refl 1) ?_
      intro step member
      rw [List.mem_singleton.mp member]
      rfl
  | finishIdle => exact worked_of_end ⟨rfl, rfl, rfl, rfl, rfl, rfl⟩ closes short quiet
  | finishCleanupFailure problem =>
      exact worked_of_end ⟨rfl, rfl, rfl, rfl, rfl, rfl⟩ closes short quiet
  | finishDisposal =>
      refine ⟨⟨rfl, rfl, rfl, rfl, rfl, rfl⟩, ?_, ?_, .inr (.inr (disposes rfl))⟩
      · exact shaped_of_short (Nat.le_refl 1)
      · exact fun _ member => (by cases List.mem_singleton.mp member)
  | _ => cases carries

end Worker

/-! ## Every step of an orderly run -/

section Steps

variable {state after : State}

theorem Addressed.congr {notification : Notification} (addressed : Addressed state notification)
    (generation : after.listenerGeneration = state.listenerGeneration)
    (owner : after.listenerOwner = state.listenerOwner) : Addressed after notification := by
  rw [Addressed, generation, owner]
  exact addressed

/-- A step inside an operation keeps the listener informed. -/
theorem Informed.worked (informed : Informed state) (worked : Worked state after) :
    Informed after := by
  obtain ⟨⟨listener, owner, generation, disposal, posted, todo⟩, shaped, silent, ends⟩ := worked
  have publishes : after.listener ≠ none → after.slotOwned = false →
      after.program.head? = some .publish := by
    intro attached free
    rcases ends with owned | publishes | disposed
    · cases owned.symm.trans free
    · exact publishes
    · rw [listener] at attached
      cases disposed.symm.trans (disposal.trans (informed.listening attached))
  refine ⟨shaped, todo ▸ informed.call, ?_, ?_, ?_, ?_, ?_, ?_⟩
  · intro notification member
    rw [posted] at member
    exact (informed.posted notification member).congr generation owner
  · exact fun notification member => absurd member (silent notification)
  · intro notification member
    rw [todo] at member
    obtain ⟨addressed, recent⟩ := informed.attaching notification member
    exact ⟨addressed.congr generation owner, recent.trans generation.symm⟩
  · intro attached
    rw [listener] at attached
    exact disposal.trans (informed.listening attached)
  · intro attached free notification heads
    cases (publishes attached free).symm.trans heads
  · intro attached free
    refine .inr (.inl (.inr ?_))
    rw [publishes attached free]
    trivial

theorem lastTold_congr (generation : after.listenerGeneration = state.listenerGeneration)
    (posted : after.posted = state.posted)
    (delivered : lastDelivered state.listenerGeneration after.history =
      lastDelivered state.listenerGeneration state.history) : lastTold after = lastTold state := by
  rw [lastTold, lastTold, generation, posted, delivered]

/-- What is posted last is told last. -/
theorem lastTold_posted (notification : Notification)
    (posted : after.posted = state.posted ++ [notification])
    (generation : after.listenerGeneration = state.listenerGeneration)
    (history : after.history = state.history) : lastTold after =
      if notification.listenerGeneration = state.listenerGeneration then some notification.snapshot
      else lastTold state := by
  rw [lastTold, lastTold, generation, posted, history, List.filter_append]
  split
  · rename_i recent
    simp [recent]
  · rename_i old
    simp [old]

/-- The rule for a step that leaves the program and the listener alone. -/
theorem Informed.calls (informed : Informed state) (listener : after.listener = state.listener)
    (owner : after.listenerOwner = state.listenerOwner)
    (generation : after.listenerGeneration = state.listenerGeneration)
    (disposal : after.disposalRequested = state.disposalRequested)
    (posted : after.posted = state.posted) (program : after.program = state.program)
    (call : after.todo = [] ∨ (∃ notification, after.todo = [.dispatch notification]) ∨
      ∃ front job, after.todo = front ++ [.execute job])
    (attaching : ∀ notification, .dispatch notification ∈ after.todo →
      .dispatch notification ∈ state.todo ∨ state.notification = some notification)
    (told : after.slotOwned = true ∨ (after.slotOwned = state.slotOwned ∧
      after.todo = state.todo ∧ after.snapshot = state.snapshot ∧
        lastDelivered state.listenerGeneration after.history =
          lastDelivered state.listenerGeneration state.history)) : Informed after := by
  have addressed : ∀ {notification}, Addressed state notification →
      Addressed after notification := fun known => known.congr generation owner
  refine ⟨program ▸ informed.shaped, call, ?_, ?_, ?_, ?_, ?_, ?_⟩
  · intro notification member
    rw [posted] at member
    exact addressed (informed.posted notification member)
  · intro notification member
    rw [program] at member
    exact addressed (informed.posting notification member)
  · intro notification member
    rcases attaching notification member with before | captured
    · obtain ⟨known, recent⟩ := informed.attaching notification before
      exact ⟨addressed known, recent.trans generation.symm⟩
    · obtain ⟨_, _, rfl⟩ := Option.map_eq_some_iff.mp captured
      exact ⟨⟨Nat.le_of_eq generation.symm, fun _ => owner.symm⟩, generation.symm⟩
  · intro attached
    rw [listener] at attached
    exact disposal.trans (informed.listening attached)
  · intro attached free notification heads recent
    rw [listener] at attached
    rw [program] at heads
    rw [generation] at recent
    rcases told with owned | ⟨slot, _, snapshot, _⟩
    · cases owned.symm.trans free
    · exact (informed.current attached (slot.symm.trans free) notification heads recent).trans
        snapshot.symm
  · intro attached free
    rw [listener] at attached
    rcases told with owned | ⟨slot, todo, snapshot, delivered⟩
    · cases owned.symm.trans free
    · have before := informed.told attached (slot.symm.trans free)
      rw [Telling, todo, slot, program, generation, snapshot,
        lastTold_congr generation posted delivered]
      exact before

/-- The main thread schedules what it took the slot for. -/
theorem Inv.owned_of_execute (inv : Inv state) {front : List MainStep} {job : Job}
    (todo : state.todo = front ++ [.execute job]) : state.slotOwned = true := by
  have single := inv.single
  rw [operations, todo, List.countP_append, List.countP_cons_of_pos rfl] at single
  split at single
  · assumption
  · omega

theorem Informed.runMain (informed : Informed state) (inv : Inv state)
    (orderly : Orderly state .main) (step : runMain state = some after) : Informed after := by
  have shape := informed.call
  unfold RawShare.runMain at step
  split at step
  · cases step
  · rename_i rest todo
    obtain ⟨front, job, scheduled⟩ : ∃ front job, state.todo = front ++ [.execute job] := by
      rcases shape with empty | ⟨_, single⟩ | scheduled
      · cases todo.symm.trans empty
      · cases todo.symm.trans single
      · exact scheduled
    have owned := inv.owned_of_execute scheduled
    obtain ⟨front, rfl⟩ : ∃ later, rest = later ++ [.execute job] := by
      cases front with
      | nil => cases todo.symm.trans scheduled
      | cons first later => exact ⟨later, (List.cons.inj (todo.symm.trans scheduled)).2⟩
    have kept : ∀ notification, .dispatch notification ∈ front ++ [.execute job] →
        .dispatch notification ∈ state.todo := by
      intro notification member
      rw [todo]
      exact List.mem_cons_of_mem _ member
    split at step <;> cases step
    · exact informed.calls rfl rfl rfl rfl rfl rfl (.inr (.inr ⟨front, job, rfl⟩))
        (fun notification member => .inl (kept notification member)) (.inl owned)
    · rename_i notification captured
      refine informed.calls rfl rfl rfl rfl rfl rfl
        (.inr (.inr ⟨.dispatch notification :: front, job, rfl⟩)) ?_ (.inl owned)
      intro other member
      rcases List.mem_cons.mp member with same | later
      · cases same
        exact .inr captured
      · exact .inl (kept other later)
  · rename_i notification rest todo
    cases step
    obtain ⟨known, recent⟩ := informed.attaching notification
      (by rw [todo]; exact List.mem_cons_self)
    have kept : ∀ {other}, Addressed state other →
        Addressed { state with todo := rest, posted := state.posted ++ [notification] } other :=
      fun known => known
    refine ⟨informed.shaped, ?_, ?_, informed.posting, ?_, informed.listening, informed.current, ?_⟩
    · rcases shape with empty | ⟨_, single⟩ | ⟨front, job, scheduled⟩
      · cases todo.symm.trans empty
      · cases todo.symm.trans single
        exact .inl rfl
      · cases front with
        | nil => cases todo.symm.trans scheduled
        | cons first later =>
            exact .inr (.inr ⟨later, job, (List.cons.inj (todo.symm.trans scheduled)).2⟩)
    · intro other member
      rcases List.mem_append.mp member with before | last
      · exact kept (informed.posted other before)
      · rw [List.mem_singleton.mp last]
        exact kept known
    · intro other member
      exact informed.attaching other (by rw [todo]; exact List.mem_cons_of_mem _ member)
    · intro attached free
      have single : state.todo = [.dispatch notification] := by
        rcases shape with empty | ⟨_, single⟩ | ⟨front, job, scheduled⟩
        · cases todo.symm.trans empty
        · cases todo.symm.trans single
          exact single
        · cases (inv.owned_of_execute scheduled).symm.trans free
      rw [Orderly, single] at orderly
      rcases orderly with same | telling
      · refine .inr (.inr ?_)
        have told := @lastTold_posted state
          { state with todo := rest, posted := state.posted ++ [notification] } notification
          rfl rfl rfl
        rw [if_pos recent, same] at told
        exact told
      · exact .inr (.inl telling)
  · rename_i job rest todo
    cases step
    have owned : state.slotOwned = true := by
      rcases shape with empty | ⟨_, single⟩ | ⟨front, job, scheduled⟩
      · cases todo.symm.trans empty
      · cases todo.symm.trans single
      · exact inv.owned_of_execute scheduled
    refine informed.calls rfl rfl rfl rfl rfl rfl ?_ ?_ (.inl owned)
    · rcases shape with empty | ⟨_, single⟩ | ⟨front, last, scheduled⟩
      · cases todo.symm.trans empty
      · cases todo.symm.trans single
      · cases front with
        | nil =>
            cases todo.symm.trans scheduled
            exact .inl rfl
        | cons first later =>
            exact .inr (.inr ⟨later, last, (List.cons.inj (todo.symm.trans scheduled)).2⟩)
    · intro notification member
      rw [todo]
      exact .inl (List.mem_cons_of_mem _ member)

theorem getLast?_cons_or (later : List Notification) (notification : Notification)
    (delivered : Option Snapshot) :
    ((notification :: later).getLast?.map Notification.snapshot).or delivered =
      (later.getLast?.map Notification.snapshot).or (some notification.snapshot) := by
  cases later with
  | nil => rfl
  | cons first rest => simp [List.getLast?_cons]

/-- What is delivered to the listener stays what it was told last. -/
theorem lastTold_deliver (informed : Informed state) {notification : Notification}
    {rest : List Notification} (posted : state.posted = notification :: rest)
    (attached : state.listener ≠ none) :
    lastTold (deliver notification { state with posted := rest }) = lastTold state := by
  have addressed := informed.posted notification (by rw [posted]; exact List.mem_cons_self)
  have open_ := informed.listening attached
  unfold deliver
  split
  · rename_i dropped
    have old : notification.listenerGeneration ≠ state.listenerGeneration := by
      intro recent
      rcases dropped with disposed | other | stale | detached
      · cases open_.symm.trans disposed
      · exact other (addressed.2 recent).symm
      · exact stale recent.symm
      · exact attached detached
    rw [lastTold, lastTold, posted, List.filter_cons_of_neg (by simpa using old)]
  · rename_i delivered
    simp only [not_or, not_not] at delivered
    have recent : notification.listenerGeneration = state.listenerGeneration :=
      delivered.2.2.1.symm
    rw [lastTold, lastTold, posted, List.filter_cons_of_pos (by simpa using recent)]
    simp only [State.record, lastDelivered, recent, if_true]
    exact (getLast?_cons_or _ notification _).symm

theorem Informed.runPosted (informed : Informed state)
    (step : runPosted state = some after) : Informed after := by
  unfold RawShare.runPosted at step
  split at step
  · rename_i notification rest todo posted
    cases step
    have same : ∀ after : State, after = deliver notification { state with posted := rest } →
        after = { state with posted := rest, history := after.history } := by
      rintro _ rfl
      unfold deliver
      split <;> rfl
    have told := @lastTold_deliver state informed notification rest posted
    generalize deliver notification { state with posted := rest } = after at same told ⊢
    have fields := same after rfl
    generalize after.history = history at fields
    subst fields
    refine ⟨informed.shaped, informed.call, ?_, informed.posting, informed.attaching,
      informed.listening, informed.current, ?_⟩
    · intro other member
      exact informed.posted other (by rw [posted]; exact List.mem_cons_of_mem _ member)
    · intro attached free
      rw [told attached]
      exact informed.told attached free
  · cases step

theorem Informed.take (informed : Informed state) (inv : Inv state)
    (step : take state = some after) : Informed after := by
  unfold RawShare.take at step
  split at step
  · rename_i job rest idle queue
    cases step
    have owned : state.slotOwned = true := by
      have single := inv.single
      rw [operations, queue, List.length_cons] at single
      split at single
      · assumption
      · omega
    refine ⟨shaped_of_short (Nat.le_refl 1), informed.call, informed.posted, ?_, informed.attaching,
      informed.listening, fun _ free => absurd (owned.symm.trans free) (by decide),
      fun _ free => absurd (owned.symm.trans free) (by decide)⟩
    intro notification member
    have carries := job.first_carries
    rw [← List.mem_singleton.mp member] at carries
    cases carries
  · cases step

/-- The rule for a step that tells nothing and carries nothing. -/
theorem Informed.silent (informed : Informed state) (untouched : Untouched state after)
    (quiet : ∀ step ∈ after.program, step.tells = false) (shaped : Shaped after.program)
    (history : after.history = state.history) (slot : after.slotOwned = state.slotOwned)
    (snapshot : after.snapshot = state.snapshot)
    (told : state.listener ≠ none → ¬ Telling state ∨ state.slotOwned = true) : Informed after := by
  obtain ⟨listener, owner, generation, disposal, posted, todo⟩ := untouched
  refine ⟨shaped, todo ▸ informed.call, ?_, ?_, ?_, ?_, ?_, ?_⟩
  · intro notification member
    rw [posted] at member
    exact (informed.posted notification member).congr generation owner
  · intro notification member
    cases quiet _ member
  · intro notification member
    rw [todo] at member
    obtain ⟨known, recent⟩ := informed.attaching notification member
    exact ⟨known.congr generation owner, recent.trans generation.symm⟩
  · intro attached
    rw [listener] at attached
    exact disposal.trans (informed.listening attached)
  · intro _ _ notification heads
    cases quiet _ (List.mem_of_mem_head? heads)
  · intro attached free
    rw [listener] at attached
    rw [slot] at free
    rw [todo, snapshot, lastTold_congr generation posted (by rw [history])]
    rcases told attached with silent | owned
    · rcases informed.told attached free with attaching | telling | told
      · exact .inl attaching
      · exact absurd telling silent
      · exact .inr (.inr told)
    · cases owned.symm.trans free

section Programs

variable {step : WorkerStep} {rest : List WorkerStep}

theorem Informed.later (informed : Informed state) (program : state.program = step :: rest) :
    (∀ other ∈ rest, other.tells = false) ∧ (step.carries = true → rest = []) ∧ Shaped rest := by
  have shaped := informed.shaped
  rw [program] at shaped
  exact shaped

/-- A step that tells nothing leaves the listener with what it knows. -/
theorem not_telling (program : state.program = step :: rest) (quiet : step.tells = false) :
    ¬ Telling state ∨ state.slotOwned = true := by
  cases owned : state.slotOwned with
  | true => exact .inr rfl
  | false =>
      left
      rintro (holds | telling)
      · cases owned.symm.trans holds
      · rw [program] at telling
        cases step <;> first | exact telling | cases quiet

theorem Informed.publish (informed : Informed state) (program : state.program = .publish :: rest) :
    Informed (publish rest state) := by
  obtain ⟨quiet, _, shaped⟩ := informed.later program
  unfold RawShare.publish
  split
  · rename_i silent
    have detached : state.listener = none := Option.map_eq_none_iff.mp silent
    exact informed.silent ⟨rfl, rfl, rfl, rfl, rfl, rfl⟩ quiet shaped rfl rfl rfl
      fun attached => absurd detached attached
  · rename_i notification told
    obtain ⟨_, _, rfl⟩ := Option.map_eq_some_iff.mp told
    refine ⟨⟨quiet, fun carries => (by cases carries), shaped⟩, informed.call, informed.posted, ?_,
      informed.attaching, informed.listening, ?_, fun _ _ => .inr (.inl (.inr rfl))⟩
    · intro other member
      rcases List.mem_cons.mp member with same | later
      · cases same
        exact ⟨Nat.le_refl _, fun _ => rfl⟩
      · cases quiet _ later
    · intro _ _ other heads _
      cases heads
      rfl

theorem Informed.dispatch (informed : Informed state) {notification : Notification}
    (program : state.program = .dispatch notification :: rest) :
    Informed { state with posted := state.posted ++ [notification], program := rest } := by
  obtain ⟨quiet, _, shaped⟩ := informed.later program
  have addressed := informed.posting notification (by rw [program]; exact List.mem_cons_self)
  refine ⟨shaped, informed.call, ?_, ?_, informed.attaching, informed.listening, ?_, ?_⟩
  · intro other member
    rcases List.mem_append.mp member with before | last
    · exact informed.posted other before
    · rw [List.mem_singleton.mp last]
      exact addressed
  · intro other member
    cases quiet _ member
  · intro _ _ other heads
    cases quiet _ (List.mem_of_mem_head? heads)
  · intro attached free
    have posted := @lastTold_posted state
      { state with posted := state.posted ++ [notification], program := rest } notification
      rfl rfl rfl
    by_cases recent : notification.listenerGeneration = state.listenerGeneration
    · have same := informed.current attached free notification (by rw [program]; rfl) recent
      rw [if_pos recent, same] at posted
      exact .inr (.inr posted)
    · rw [if_neg recent] at posted
      rcases informed.told attached free with calling | (owned | telling) | told
      · exact .inl calling
      · cases owned.symm.trans free
      · rw [program] at telling
        exact absurd telling recent
      · exact .inr (.inr (posted.trans told))

theorem Informed.work (informed : Informed state) (inv : Inv state)
    (program : state.program = step :: rest) (answers : Answers) :
    Informed (work answers rest state step) := by
  obtain ⟨quiet, alone, shaped⟩ := informed.later program
  cases carries : step.carries with
  | true =>
      cases alone carries
      exact informed.worked (worked_work (inv.alone program carries).1 answers carries fun same => by
        cases same
        exact inv.relies program)
  | false =>
      cases step with
      | publish => exact informed.publish program
      | dispatch notification => exact informed.dispatch program
      | shutdownIfRequested =>
          refine @Informed.silent state
            { state with program := if state.disposalRequested then .shutdown :: rest else rest }
            informed ⟨rfl, rfl, rfl, rfl, rfl, rfl⟩ ?_ ?_ rfl rfl rfl fun _ => not_telling program rfl
          · dsimp only
            split
            · intro other member
              rcases List.mem_cons.mp member with rfl | later
              · rfl
              · exact quiet other later
            · exact quiet
          · dsimp only
            split
            · exact ⟨quiet, fun carries => (by cases carries), shaped⟩
            · exact shaped
      | shutdown =>
          exact informed.silent ⟨rfl, rfl, rfl, rfl, rfl, rfl⟩ quiet shaped rfl rfl rfl
            fun _ => not_telling program rfl
      | _ => cases carries

end Programs

section Calls

variable {owner : Option Owner} {now : Int}

/-- The rule for a call that takes the slot. -/
theorem Informed.acquires (informed : Informed state) (listener : after.listener = state.listener)
    (listenerOwner : after.listenerOwner = state.listenerOwner)
    (generation : after.listenerGeneration = state.listenerGeneration)
    (disposal : after.disposalRequested = state.disposalRequested)
    (posted : after.posted = state.posted) (program : after.program = state.program) {job : Job}
    (todo : after.todo = [.publish, .execute job]) (owned : after.slotOwned = true) :
    Informed after := by
  refine informed.calls listener listenerOwner generation disposal posted program
    (.inr (.inr ⟨[.publish], job, todo⟩)) ?_ (.inl owned)
  intro notification member
  rw [todo] at member
  rcases List.mem_cons.mp member with same | last
  · cases same
  · cases List.mem_singleton.mp last

theorem Informed.retires (informed : Informed state) {reason : String} {retired : State}
    (marked : state.markRetire reason = some retired) : Informed retired.scheduleRetire := by
  rcases ite_eq_iff.mp marked with ⟨_, rejected⟩ | ⟨_, same⟩
  · cases rejected
  · cases same
    exact informed.acquires rfl rfl rfl rfl rfl rfl rfl rfl

/-- The rule for a call that changes the listener. -/
theorem Informed.advances (informed : Informed state)
    (generation : after.listenerGeneration = state.listenerGeneration + 1)
    (posted : after.posted = state.posted) (program : after.program = state.program)
    (call : after.todo = [] ∨ (∃ notification, after.todo = [.dispatch notification]) ∨
      ∃ front job, after.todo = front ++ [.execute job])
    (attaching : ∀ notification, .dispatch notification ∈ after.todo →
      notification.owner = after.listenerOwner ∧
        notification.listenerGeneration = after.listenerGeneration)
    (listening : after.listener ≠ none → after.disposalRequested = false)
    (told : after.listener ≠ none → after.todo ≠ []) : Informed after := by
  have old : ∀ {notification}, Addressed state notification → Addressed after notification ∧
      notification.listenerGeneration ≠ after.listenerGeneration := by
    intro notification known
    have before := Nat.lt_succ_of_le known.1
    rw [Nat.succ_eq_add_one, ← generation] at before
    exact ⟨⟨Nat.le_of_lt before, fun same => absurd same (Nat.ne_of_lt before)⟩,
      Nat.ne_of_lt before⟩
  refine ⟨program ▸ informed.shaped, call, ?_, ?_, ?_, listening, ?_,
    fun attached _ => .inl (told attached)⟩
  · intro notification member
    rw [posted] at member
    exact (old (informed.posted notification member)).1
  · intro notification member
    rw [program] at member
    exact (old (informed.posting notification member)).1
  · intro notification member
    obtain ⟨same, recent⟩ := attaching notification member
    exact ⟨⟨Nat.le_of_eq recent, fun _ => same⟩, recent⟩
  · intro _ _ notification heads recent
    rw [program] at heads
    exact absurd recent (old (informed.posting notification (List.mem_of_mem_head? heads))).2

theorem Informed.attach (informed : Informed state) (asker : Owner) (listener : Listener) :
    Informed (attach asker listener state) := by
  unfold RawShare.attach
  split
  · exact informed
  · rename_i open_
    rw [Bool.not_eq_true] at open_
    refine informed.advances rfl rfl rfl (.inr (.inl ⟨_, rfl⟩)) ?_ (fun _ => open_)
      fun _ empty => (by cases empty)
    intro notification member
    cases List.mem_singleton.mp member
    exact ⟨rfl, rfl⟩

theorem Informed.detach (informed : Informed state) (todo : state.todo = []) :
    Informed (detach owner state) := by
  have forgets : Informed (if state.listenerOwner = owner then
      { state with
        listenerOwner := none
        listener := none
        listenerGeneration := state.listenerGeneration + 1 }
      else state) ∧ (if state.listenerOwner = owner then
      { state with
        listenerOwner := none
        listener := none
        listenerGeneration := state.listenerGeneration + 1 }
      else state).todo = [] := by
    split
    · refine ⟨informed.advances rfl rfl rfl (.inl todo) ?_ (fun attached => absurd rfl attached)
        (fun attached => absurd rfl attached), todo⟩
      intro notification member
      rw [todo] at member
      cases member
    · exact ⟨informed, todo⟩
  unfold RawShare.detach
  dsimp only
  generalize (if state.listenerOwner = owner then
    { state with
      listenerOwner := none
      listener := none
      listenerGeneration := state.listenerGeneration + 1 }
    else state) = state at forgets ⊢
  obtain ⟨informed', todo'⟩ := forgets
  have recorded : Informed (state.record (.detached owner)) :=
    informed'.calls rfl rfl rfl rfl rfl rfl (.inl todo') (fun _ => .inl)
      (.inr ⟨rfl, rfl, rfl, rfl⟩)
  split
  · exact recorded.calls rfl rfl rfl rfl rfl rfl (.inl todo') (fun _ => .inl)
      (.inr ⟨rfl, rfl, rfl, rfl⟩)
  · split
    · split
      · rename_i marked
        exact recorded.retires marked
      · exact recorded
    · exact recorded

theorem Informed.prepare (informed : Informed state) (asker : Owner) (raw : String) :
    Informed (prepare asker raw now state).1 := by
  unfold RawShare.prepare
  split
  · rename_i expired
    obtain ⟨_, marked⟩ := markRetire_of_markExpiry expired
    exact informed.retires marked
  · split
    · exact informed
    · split
      · exact informed
      · exact informed.acquires rfl rfl rfl rfl rfl rfl rfl rfl

/-- A grant changes what the listener shows, and tells nobody. -/
theorem Informed.grant (informed : Informed state)
    (orderly : Orderly state (.call now (.grant owner))) : Informed (grant owner now state).1 := by
  unfold RawShare.grant
  split
  · rename_i expired
    obtain ⟨_, marked⟩ := markRetire_of_markExpiry expired
    exact informed.retires marked
  · split
    · exact informed
    · split
      · exact informed
      · rename_i granted
        simp only [not_or, not_not] at granted
        have telling := orderly granted.2
        refine ⟨informed.shaped, informed.call, informed.posted, informed.posting,
          informed.attaching, informed.listening, ?_, ?_⟩
        · intro attached free notification heads
          rcases telling with detached | publishes
          · exact absurd detached attached
          · cases publishes.symm.trans heads
        · intro attached free
          rcases telling with detached | publishes
          · exact absurd detached attached
          · refine .inr (.inl (.inr ?_))
            dsimp only [State.record]
            rw [publishes]
            trivial

theorem Informed.dispose (informed : Informed state) (todo : state.todo = []) :
    Informed (dispose state) := by
  unfold RawShare.dispose
  split
  · exact informed
  · dsimp only
    split
    · refine informed.advances rfl rfl rfl (.inl todo) ?_ (fun attached => absurd rfl attached)
        fun attached => absurd rfl attached
      intro notification member
      change _ ∈ state.todo at member
      rw [todo] at member
      cases member
    · refine informed.advances rfl rfl rfl (.inr (.inr ⟨[], .dispose, rfl⟩)) ?_
        (fun attached => absurd rfl attached) fun attached => absurd rfl attached
      intro notification member
      cases List.mem_singleton.mp member

theorem Informed.invoke (informed : Informed state) (todo : state.todo = []) (call : Call)
    (orderly : Orderly state (.call now call)) : Informed (invoke now state call) := by
  cases call with
  | attach owner listener => exact informed.attach owner listener
  | detach owner => exact informed.detach todo
  | prepare owner raw => exact informed.prepare owner raw
  | grant owner => exact informed.grant orderly
  | observe =>
      dsimp only [RawShare.invoke, observe]
      split
      · rename_i expired
        obtain ⟨_, marked⟩ := markRetire_of_markExpiry expired
        exact informed.retires marked
      · exact informed
  | retire owner =>
      dsimp only [RawShare.invoke, retire]
      split
      · split
        · rename_i marked
          exact informed.retires marked
        · exact informed
      · exact informed
  | retryCleanup =>
      dsimp only [RawShare.invoke, retryCleanup]
      split
      · exact informed
      · split
        · exact informed
        · exact informed.acquires rfl rfl rfl rfl rfl rfl rfl rfl
  | dispose => exact informed.dispose todo

end Calls

end Steps

/-! ## Convergence -/

section Runs

variable {state after : State}

theorem Informed.next {action : Action} (informed : Informed state) (inv : Inv state)
    (orderly : Orderly state action) (step : next state action = some after) :
    Informed after := by
  cases action with
  | call now call =>
      rcases ite_eq_iff.mp step with ⟨todo, same⟩ | ⟨_, disabled⟩
      · cases same
        exact informed.invoke todo call orderly
      · cases disabled
  | main => exact informed.runMain inv orderly step
  | deliver => exact informed.runPosted step
  | take => exact informed.take inv step
  | work answers =>
      change runWorker answers state = some after at step
      unfold runWorker at step
      split at step
      · rename_i program
        cases step
        exact informed.work inv program answers
      · cases step

theorem informed_of_reachable (reachable : Reachable orderlyNext initial state) :
    Inv state ∧ Informed state := by
  refine reachable.invariant (fun state => Inv state ∧ Informed state)
    ⟨inv_initial, informed_initial⟩ ?_
  rintro before action after ⟨inv, informed⟩ step
  obtain ⟨orderly, step⟩ := orderlyNext_spec step
  exact ⟨inv.next step, informed.next inv orderly step⟩

/-- An operation that holds the slot is still to run. -/
theorem Inv.free_of_quiet (inv : Inv state) (quiet : Quiet state) : state.slotOwned = false := by
  obtain ⟨todo, _, queue, program⟩ := quiet
  have single := inv.single
  rw [operations, todo, queue, program] at single
  cases owned : state.slotOwned with
  | false => rfl
  | true =>
      rw [owned] at single
      cases single

/-- In every state of an orderly run the attached listener knows the state, once
nothing is left to do. -/
theorem listener_converges (reachable : Reachable orderlyNext initial state) : Converged state := by
  obtain ⟨inv, informed⟩ := informed_of_reachable reachable
  intro quiet attached
  have free := inv.free_of_quiet quiet
  obtain ⟨todo, posted, _, program⟩ := quiet
  rcases informed.told attached free with calling | (owned | telling) | told
  · exact absurd todo calling
  · cases owned.symm.trans free
  · rw [program] at telling
    exact absurd telling id
  · rw [lastTold, posted] at told
    exact told

/-! ### Runs of the worker without failures -/

/-- Every request of the worker succeeds. -/
def smooth : Answers where
  directory := none
  attempts := [⟨"0000000000000001", .ok false, .ok false⟩]
  write := none
  uri := .ok 7
  revoke := none
  deleteTemporary := none
  deleteFinal := none
  scan := .clean

/-- A listener that is attached between two operations sees a file appear. -/
def informing : List Action :=
  [.take] ++ List.replicate 4 (.work smooth) ++ [.call 0 (.attach 1 5), .main, .deliver,
    .call 0 (.prepare 1 "report"), .main, .main, .main, .take] ++
    List.replicate 10 (.work smooth) ++ [.deliver, .deliver, .deliver]

theorem listener_converges_sample : ∃ state, execute orderlyNext initial informing = some state ∧
    state.phase = .materialized ∧
      lastDelivered state.listenerGeneration state.history = some state.snapshot := by
  obtain ⟨state, run⟩ := Option.isSome_iff_exists.mp
    (by decide +kernel : (execute orderlyNext initial informing).isSome = true)
  have settled : (execute orderlyNext initial informing).map (fun state =>
      decide (Quiet state ∧ state.listener ≠ none ∧ state.phase = .materialized)) = some true := by
    decide +kernel
  rw [run, Option.map_some, Option.some.injEq, decide_eq_true_eq] at settled
  obtain ⟨quiet, attached, materialized⟩ := settled
  exact ⟨state, run, materialized, listener_converges (.of_execute run) quiet attached⟩

/-- The worker ends the first cleanup and tells of it before the attachment posts
what it captured. -/
def overtaken : List Action :=
  [.take, .work smooth, .call 0 (.attach 1 5)] ++ List.replicate 4 (.work smooth) ++
    [.main, .deliver, .deliver]

theorem not_converged_of_overtaken : ∃ state, Reachable next initial state ∧
    ¬ Converged state := by
  refine ⟨(execute next initial overtaken).get (by decide +kernel),
    .of_execute (Option.some_get _).symm, fun converged => ?_⟩
  have told := converged (by decide +kernel) (by decide +kernel)
  exact absurd told (by decide +kernel)

end Runs

end CheckNetwork.Android.RawShare
