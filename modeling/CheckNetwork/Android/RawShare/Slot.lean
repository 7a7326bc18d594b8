import CheckNetwork.Android.RawShare.Runtime

/-!
# The single slot

One operation holds the slot from the call that takes it to the step of the
worker that gives it back.  What the operation has left to do says what the
fields of the worker hold.
-/

namespace CheckNetwork.Android.RawShare

open Transition

/-! ## What a run did, newest event first -/

/-- A cleanup failed, and none has succeeded since. -/
def cleanupPending : List Event → Bool
  | [] => false
  | .cleanupFailed :: _ => true
  | .cleaned :: _ => false
  | _ :: past => cleanupPending past

/-- The names that a file may have. -/
def onDisk : List Event → List Name
  | [] => []
  | .writing token :: past => .final token :: .temporary token :: onDisk past
  | .written token :: past => (onDisk past).filter (· ≠ .temporary token)
  | .deleted name :: past => (onDisk past).filter (· ≠ name)
  | _ :: past => onDisk past

/-- The addresses of candidates that nobody tried to revoke. -/
def unrevoked : List Event → List Uri
  | [] => []
  | .materialized _ _ uri :: past => uri :: unrevoked past
  | .revoking uri :: past => (unrevoked past).filter (· ≠ uri)
  | _ :: past => unrevoked past

/-- The last request, until its owner detaches or the runtime is disposed. -/
def requested : List Event → Option (Owner × Nat)
  | [] => none
  | .admitted owner operation :: _ => some (owner, operation)
  | .detached owner :: past =>
      if (requested past).map Prod.fst = owner then none else requested past
  | .disposed :: _ => none
  | _ :: past => requested past

/-- The last candidate and who asked for it, until it is granted. -/
def candidate : List Event → Option (Owner × Uri)
  | [] => none
  | .materialized owner _ uri :: _ => some (owner, uri)
  | .granted _ _ :: _ => none
  | _ :: past => candidate past

def Name.isFinal : Name → Bool
  | .final _ => true
  | .temporary _ => false

/-- What may happen after a past: requests are admitted when no cleanup is due, a
file is written when no other is left and every address is revoked, its candidate
appears to the owner that still asks for it, and is granted to that owner once. -/
def Allowed (past : List Event) : Event → Prop
  | .admitted _ _ => cleanupPending past = false
  | .writing _ => onDisk past = [] ∧ unrevoked past = []
  | .materialized owner operation _ => requested past = some (owner, operation)
  | .granted owner uri => ∃ asker, owner = some asker ∧ candidate past = some (asker, uri)
  | .captured snapshot => snapshot.phase = .materialized →
      ∃ owner operation uri, requested past = some (owner, operation) ∧
        candidate past = some (owner, uri) ∧ snapshot.uri = some uri
  | _ => True

def Lawful : List Event → Prop
  | [] => True
  | event :: past => Allowed past event ∧ Lawful past

section Events

variable {history past : List Event}

/-- A run that keeps to the rules has the names of one file at most. -/
theorem exists_token_of_lawful (lawful : Lawful history) :
    ∃ token, (onDisk history).Sublist [.final token, .temporary token] := by
  induction history with
  | nil => exact ⟨"", List.nil_sublist _⟩
  | cons event past ih =>
      obtain ⟨token, names⟩ := ih lawful.2
      cases event with
      | writing written =>
          refine ⟨written, ?_⟩
          rw [onDisk, lawful.1.1]
      | written written => exact ⟨token, List.filter_sublist.trans names⟩
      | deleted name => exact ⟨token, List.filter_sublist.trans names⟩
      | _ => exact ⟨token, names⟩

/-- At most one shared file exists. -/
theorem length_final_le (lawful : Lawful history) :
    ((onDisk history).filter Name.isFinal).length ≤ 1 := by
  obtain ⟨token, names⟩ := exists_token_of_lawful lawful
  exact (names.filter Name.isFinal).length_le

end Events

/-! ## Operations -/

/-- The steps that belong to an operation; the others only tell of it. -/
def WorkerStep.carries : WorkerStep → Bool
  | .publish | .dispatch _ | .shutdownIfRequested | .shutdown => false
  | _ => true

def MainStep.executes : MainStep → Bool
  | .execute _ => true
  | _ => false

/-- The operations that are scheduled, queued or run. -/
def operations (state : State) : Nat :=
  state.todo.countP MainStep.executes + state.queue.length +
    state.program.countP WorkerStep.carries

/-! ## What an operation relies on -/

def Owned (phase : Phase) : Prop := phase = .cleaning ∨ phase = .preparing ∨ phase = .retired

/-- No file and no address is left. -/
structure Cleared (state : State) : Prop where
  finalName : state.finalName = none
  temporaryName : state.temporaryName = none
  uri : state.uri = none
  revoked : state.revoked = false

/-- A request that is still current was made by the owner who asks. -/
def PrepareOk (state : State) (operation : Nat) : Prop :=
  operation ≤ state.generation ∧
    (operation = state.generation → state.disposalRequested = false ∧
      (state.phase = .cleaning ∨ state.phase = .preparing) ∧
        ∃ owner, state.operationOwner = some owner ∧
          requested state.history = some (owner, operation))

def SuccessOk (state : State) : Success → Prop
  | .materialize operation => cleanupPending state.history = false ∧ PrepareOk state operation
  | .finishIdle => True
  | .finishDisposal => state.disposalRequested = true

def StepOk (state : State) : WorkerStep → Prop
  | .startup => state.reconciliation = none ∧ Cleared state
  | .retire success => state.reconciliation = none ∧ (state.uri ≠ none → state.revoked = false) ∧
      SuccessOk state success
  | .retiring oldUri _ success => state.reconciliation = none ∧ state.uri = oldUri ∧
      unrevoked state.history = [] ∧ SuccessOk state success
  | .reconcile => ∃ success, state.reconciliation = some success ∧ Cleared state ∧
      SuccessOk state success
  | .materialize operation | .allocate operation _ => state.reconciliation = none ∧
      Cleared state ∧ cleanupPending state.history = false ∧ PrepareOk state operation
  | .write operation token => state.reconciliation = none ∧ state.uri = none ∧
      state.revoked = false ∧ state.finalName = some (.final token) ∧
      state.temporaryName = some (.temporary token) ∧ onDisk state.history = [] ∧
      cleanupPending state.history = false ∧ PrepareOk state operation
  | .cleanupStale _ | .terminalFailure _ => state.reconciliation = none ∧ state.uri = none ∧
      state.revoked = false ∧ cleanupPending state.history = false
  | .finishTerminal _ | .finishIdle => state.reconciliation = none ∧ Cleared state ∧
      cleanupPending state.history = false
  | .finishCleanupFailure _ =>
      (state.reconciliation = none ∨ state.disposalRequested = true) ∧ state.uri = none
  | .finishDisposal | .shutdown => state.disposalRequested = true
  | .publish | .dispatch _ | .shutdownIfRequested => True

def MainOk (state : State) : MainStep → Prop
  | .execute job => StepOk state job.first
  | _ => True

/-- What holds between operations. -/
def Resting (state : State) : Prop :=
  match state.phase with
  | .idle => state.reconciliation = none ∧ Cleared state ∧ cleanupPending state.history = false
  | .materialized => state.reconciliation = none ∧ state.revoked = false ∧
      cleanupPending state.history = false ∧ state.disposalRequested = false ∧
      ∃ owner operation uri, state.operationOwner = some owner ∧ state.uri = some uri ∧
        requested state.history = some (owner, operation) ∧
        candidate state.history = some (owner, uri)
  | .granted => state.reconciliation = none ∧ state.revoked = false ∧
      cleanupPending state.history = false
  | .cleanupFailed => state.reconciliation = none ∧ state.uri = none
  | .disposed => state.disposalRequested = true
  | _ => True

structure Inv (state : State) : Prop where
  slot : state.slotOwned = true ↔ Owned state.phase
  single : operations state = if state.slotOwned then 1 else 0
  todo : ∀ step ∈ state.todo, MainOk state step
  queue : ∀ job ∈ state.queue, StepOk state job.first
  program : ∀ step ∈ state.program, StepOk state step
  resting : state.slotOwned = false → Resting state
  shutdown : state.isShutdown = true → state.disposalRequested = true
  disk : ∀ name ∈ onDisk state.history,
    state.finalName = some name ∨ state.temporaryName = some name
  addresses : ∀ uri ∈ unrevoked state.history, state.uri = some uri
  lawful : Lawful state.history

theorem inv_initial : Inv initial where
  slot := ⟨fun _ => .inl rfl, fun _ => rfl⟩
  single := rfl
  todo _ member := by cases member
  queue job member := by
    rw [List.mem_singleton.mp member]
    exact ⟨rfl, rfl, rfl, rfl, rfl⟩
  program _ member := by cases member
  resting owned := by cases owned
  shutdown down := by cases down
  disk _ member := by cases member
  addresses _ member := by cases member
  lawful := trivial

/-! ## What a step leaves alone -/

/-- The second state keeps what the operations of the first rely on. -/
structure Frame (before after : State) : Prop where
  finalName : after.finalName = before.finalName
  temporaryName : after.temporaryName = before.temporaryName
  uri : after.uri = before.uri
  revoked : after.revoked = before.revoked
  reconciliation : after.reconciliation = before.reconciliation
  disk : onDisk after.history = onDisk before.history
  addresses : unrevoked after.history = unrevoked before.history
  pending : cleanupPending after.history = cleanupPending before.history
  disposal : before.disposalRequested = true → after.disposalRequested = true
  prepares : ∀ operation, PrepareOk before operation → PrepareOk after operation

section Frames

variable {before after : State}

theorem Cleared.frame (cleared : Cleared before) (frame : Frame before after) : Cleared after where
  finalName := frame.finalName.trans cleared.finalName
  temporaryName := frame.temporaryName.trans cleared.temporaryName
  uri := frame.uri.trans cleared.uri
  revoked := frame.revoked.trans cleared.revoked

theorem SuccessOk.frame {success : Success} (holds : SuccessOk before success)
    (frame : Frame before after) : SuccessOk after success := by
  cases success with
  | materialize operation => exact ⟨frame.pending.trans holds.1, frame.prepares _ holds.2⟩
  | finishIdle => trivial
  | finishDisposal => exact frame.disposal holds

theorem StepOk.frame {step : WorkerStep} (holds : StepOk before step)
    (frame : Frame before after) : StepOk after step := by
  cases step with
  | startup => exact ⟨frame.reconciliation.trans holds.1, holds.2.frame frame⟩
  | retire success =>
      refine ⟨frame.reconciliation.trans holds.1, fun live => ?_, holds.2.2.frame frame⟩
      rw [frame.uri] at live
      exact frame.revoked.trans (holds.2.1 live)
  | retiring oldUri failure success =>
      exact ⟨frame.reconciliation.trans holds.1, frame.uri.trans holds.2.1,
        frame.addresses.trans holds.2.2.1, holds.2.2.2.frame frame⟩
  | reconcile =>
      obtain ⟨success, running, cleared, relies⟩ := holds
      exact ⟨success, frame.reconciliation.trans running, cleared.frame frame, relies.frame frame⟩
  | materialize operation =>
      exact ⟨frame.reconciliation.trans holds.1, holds.2.1.frame frame,
        frame.pending.trans holds.2.2.1, frame.prepares _ holds.2.2.2⟩
  | allocate operation raw =>
      exact ⟨frame.reconciliation.trans holds.1, holds.2.1.frame frame,
        frame.pending.trans holds.2.2.1, frame.prepares _ holds.2.2.2⟩
  | write operation token =>
      obtain ⟨idle, absent, fresh, final, temporary, empty, done, current⟩ := holds
      exact ⟨frame.reconciliation.trans idle, frame.uri.trans absent, frame.revoked.trans fresh,
        frame.finalName.trans final, frame.temporaryName.trans temporary, frame.disk.trans empty,
        frame.pending.trans done, frame.prepares _ current⟩
  | cleanupStale uri =>
      exact ⟨frame.reconciliation.trans holds.1, frame.uri.trans holds.2.1,
        frame.revoked.trans holds.2.2.1, frame.pending.trans holds.2.2.2⟩
  | terminalFailure problem =>
      exact ⟨frame.reconciliation.trans holds.1, frame.uri.trans holds.2.1,
        frame.revoked.trans holds.2.2.1, frame.pending.trans holds.2.2.2⟩
  | finishTerminal problem =>
      exact ⟨frame.reconciliation.trans holds.1, holds.2.1.frame frame,
        frame.pending.trans holds.2.2⟩
  | finishIdle =>
      exact ⟨frame.reconciliation.trans holds.1, holds.2.1.frame frame,
        frame.pending.trans holds.2.2⟩
  | finishCleanupFailure problem =>
      exact ⟨holds.1.imp (frame.reconciliation.trans ·) frame.disposal, frame.uri.trans holds.2⟩
  | finishDisposal => exact frame.disposal holds
  | shutdown => exact frame.disposal holds
  | publish => trivial
  | dispatch notification => trivial
  | shutdownIfRequested => trivial

theorem MainOk.frame {step : MainStep} (holds : MainOk before step) (frame : Frame before after) :
    MainOk after step := by
  cases step with
  | execute job => exact StepOk.frame holds frame
  | publish => trivial
  | dispatch notification => trivial

end Frames

/-! ## Steps inside an operation -/

section Worker

variable {state after : State} {step : WorkerStep} {rest front : List WorkerStep} {jobs : List Job}

/-- While the worker carries an operation, nothing else does. -/
theorem Inv.alone (inv : Inv state) (program : state.program = step :: rest)
    (carries : step.carries = true) : state.slotOwned = true ∧ state.queue = [] ∧
      state.todo.countP MainStep.executes = 0 ∧ rest.countP WorkerStep.carries = 0 := by
  have single := inv.single
  rw [operations, program, List.countP_cons_of_pos carries] at single
  split at single
  · rename_i owned
    exact ⟨owned, List.length_eq_zero_iff.mp (by omega), by omega, by omega⟩
  · omega

theorem MainOk.of_not_executes {step : MainStep} (other : step.executes = false) :
    MainOk state step := by
  cases step with
  | execute job => cases other
  | publish => trivial
  | dispatch notification => trivial

/-- A step that carries nothing relies on the disposal alone. -/
theorem StepOk.of_not_carries (holds : StepOk state step) (other : step.carries = false)
    (disposal : state.disposalRequested = true → after.disposalRequested = true) :
    StepOk after step := by
  cases step with
  | publish => trivial
  | dispatch notification => trivial
  | shutdownIfRequested => trivial
  | shutdown => exact disposal holds
  | _ => cases other

/-- The rule for a step of an operation: the operation goes on in the queue or in
the program, or it ends. -/
theorem Inv.carry (inv : Inv state) (program : state.program = step :: rest)
    (carries : step.carries = true) (todo : after.todo = state.todo) (queue : after.queue = jobs)
    (continued : after.program = front ++ rest)
    (disposal : after.disposalRequested = state.disposalRequested)
    (down : after.isShutdown = state.isShutdown)
    (slot : after.slotOwned = true ↔ Owned after.phase)
    (single : jobs.length + front.countP WorkerStep.carries = if after.slotOwned then 1 else 0)
    (jobsOk : ∀ job ∈ jobs, StepOk after job.first) (frontOk : ∀ step ∈ front, StepOk after step)
    (resting : after.slotOwned = false → Resting after)
    (disk : ∀ name ∈ onDisk after.history,
      after.finalName = some name ∨ after.temporaryName = some name)
    (addresses : ∀ uri ∈ unrevoked after.history, after.uri = some uri)
    (lawful : Lawful after.history) : Inv after := by
  obtain ⟨_, _, noTodo, noRest⟩ := inv.alone program carries
  refine ⟨slot, ?_, ?_, ?_, ?_, resting, ?_, disk, addresses, lawful⟩
  · rw [operations, todo, queue, continued, List.countP_append, noTodo, noRest]
    omega
  · intro step member
    rw [todo] at member
    exact MainOk.of_not_executes (Bool.eq_false_iff.mpr (List.countP_eq_zero.mp noTodo step member))
  · intro job member
    rw [queue] at member
    exact jobsOk job member
  · intro step member
    rw [continued] at member
    rcases List.mem_append.mp member with inFront | inRest
    · exact frontOk step inFront
    · refine StepOk.of_not_carries (inv.program step ?_)
        (Bool.eq_false_iff.mpr (List.countP_eq_zero.mp noRest step inRest)) ?_
      · rw [program]
        exact List.mem_cons_of_mem _ inRest
      · exact fun requested => disposal.trans requested
  · intro isDown
    rw [down] at isDown
    exact disposal.trans (inv.shutdown isDown)

end Worker

/-! ## Deletions -/

section Deletions

variable {state : State} {name : Option Name} {failure : Option String} {history : List Event}

/-- A deletion says nothing but what is on the disk. -/
theorem deletion_spec (name : Option Name) (failure : Option String) (history : List Event) :
    unrevoked ((deletion name failure).1 ++ history) = unrevoked history ∧
      cleanupPending ((deletion name failure).1 ++ history) = cleanupPending history ∧
      requested ((deletion name failure).1 ++ history) = requested history ∧
      (Lawful history → Lawful ((deletion name failure).1 ++ history)) := by
  cases name <;> cases failure <;>
    exact ⟨rfl, rfl, rfl, fun lawful => by first | exact lawful | exact ⟨trivial, lawful⟩⟩

theorem mem_onDisk_deletion {other : Name}
    (member : other ∈ onDisk ((deletion name failure).1 ++ history)) : other ∈ onDisk history ∧
      (name = some other → remaining name (deletion name failure).2 = some other) := by
  cases name with
  | none => exact ⟨member, fun same => by cases same⟩
  | some name =>
      cases failure with
      | none =>
          obtain ⟨inside, different⟩ := List.mem_filter.mp member
          refine ⟨inside, fun same => ?_⟩
          exact absurd (Option.some.inj same).symm (of_decide_eq_true different)
      | some problem => exact ⟨member, fun same => same⟩

theorem remaining_eq_none (none_failed : (deletion name failure).2 = none) :
    remaining name (deletion name failure).2 = none := by
  rw [none_failed]
  rfl

/-- What deleting both names does. -/
theorem deleteNames_spec (answers : Answers) (failure : Option String) (state : State)
    (disk : ∀ name ∈ onDisk state.history,
      state.finalName = some name ∨ state.temporaryName = some name) :
    let deleted := deleteNames answers failure state
    (∀ name ∈ onDisk deleted.1.history,
      deleted.1.finalName = some name ∨ deleted.1.temporaryName = some name) ∧
    unrevoked deleted.1.history = unrevoked state.history ∧
    cleanupPending deleted.1.history = cleanupPending state.history ∧
    requested deleted.1.history = requested state.history ∧
    (Lawful state.history → Lawful deleted.1.history) ∧
    (deleted.2.2 = none → deleted.1.finalName = none ∧ deleted.1.temporaryName = none) := by
  have temporary := deletion_spec state.temporaryName answers.deleteTemporary state.history
  have final := deletion_spec state.finalName answers.deleteFinal
    ((deletion state.temporaryName answers.deleteTemporary).1 ++ state.history)
  dsimp only [deleteNames]
  rw [List.append_assoc]
  refine ⟨?_, final.1.trans temporary.1, final.2.1.trans temporary.2.1,
    final.2.2.1.trans temporary.2.2.1, final.2.2.2 ∘ temporary.2.2.2, ?_⟩
  · intro name member
    obtain ⟨member, keepsFinal⟩ := mem_onDisk_deletion member
    obtain ⟨member, keepsTemporary⟩ := mem_onDisk_deletion member
    exact (disk name member).imp keepsFinal keepsTemporary
  · intro none_failed
    rw [Option.or_eq_none_iff, Option.or_eq_none_iff] at none_failed
    exact ⟨remaining_eq_none none_failed.2, remaining_eq_none none_failed.1.2⟩

end Deletions

end CheckNetwork.Android.RawShare
