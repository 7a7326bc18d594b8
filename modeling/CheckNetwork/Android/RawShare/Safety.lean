import CheckNetwork.Android.RawShare.Operation

/-!
# Every run keeps to the rules

The calls of the main thread take the slot, or leave it alone; between them and
the worker nothing happens to a file that its rules forbid.
-/

namespace CheckNetwork.Android.RawShare

open Transition

variable {state after : State}

/-! ## Steps outside an operation -/

section Rules

/-- The rule for a step that leaves the operation alone. -/
theorem Inv.keep (inv : Inv state) (frame : Frame state after)
    (slot : after.slotOwned = state.slotOwned) (phase : Owned after.phase ↔ Owned state.phase)
    (single : operations after = operations state)
    (todo : ∀ step ∈ after.todo, step ∈ state.todo ∨ step.executes = false)
    (queue : after.queue = state.queue)
    (program : ∀ step ∈ after.program, step ∈ state.program ∨ StepOk after step)
    (down : after.isShutdown = true → state.isShutdown = true ∨ state.disposalRequested = true)
    (resting : after.slotOwned = false → Resting after) (lawful : Lawful after.history) :
    Inv after where
  slot := by rw [slot, phase, inv.slot]
  single := by rw [single, slot, inv.single]
  todo step member := by
    rcases todo step member with before | quiet
    · exact (inv.todo step before).frame frame
    · exact MainOk.of_not_executes quiet
  queue job member := by
    rw [queue] at member
    exact (inv.queue job member).frame frame
  program step member := by
    rcases program step member with before | holds
    · exact (inv.program step before).frame frame
    · exact holds
  resting := resting
  shutdown isDown := frame.disposal ((down isDown).elim inv.shutdown id)
  disk := by
    rw [frame.disk, frame.finalName, frame.temporaryName]
    exact inv.disk
  addresses := by
    rw [frame.addresses, frame.uri]
    exact inv.addresses
  lawful := lawful

/-- The fields that say what holds between operations are the same. -/
structure Same (before after : State) : Prop where
  slot : after.slotOwned = before.slotOwned
  phase : after.phase = before.phase
  disposal : after.disposalRequested = before.disposalRequested
  operationOwner : after.operationOwner = before.operationOwner
  request : before.phase = .materialized → requested after.history = requested before.history
  shown : candidate after.history = candidate before.history

theorem Resting.frame (resting : Resting state) (frame : Frame state after)
    (same : Same state after) : Resting after := by
  unfold Resting at resting ⊢
  rw [same.phase]
  cases phase : state.phase with
  | idle =>
      rw [phase] at resting
      exact ⟨frame.reconciliation.trans resting.1, resting.2.1.frame frame,
        frame.pending.trans resting.2.2⟩
  | materialized =>
      rw [phase] at resting
      obtain ⟨idle, fresh, done, open_, owner, operation, uri, asks, live, request, shown⟩ := resting
      exact ⟨frame.reconciliation.trans idle, frame.revoked.trans fresh, frame.pending.trans done,
        same.disposal.trans open_, owner, operation, uri, same.operationOwner.trans asks,
        frame.uri.trans live, (same.request phase).trans request, same.shown.trans shown⟩
  | granted =>
      rw [phase] at resting
      exact ⟨frame.reconciliation.trans resting.1, frame.revoked.trans resting.2.1,
        frame.pending.trans resting.2.2⟩
  | cleanupFailed =>
      rw [phase] at resting
      exact ⟨frame.reconciliation.trans resting.1, frame.uri.trans resting.2⟩
  | disposed =>
      rw [phase] at resting
      exact same.disposal.trans resting
  | cleaning => trivial
  | preparing => trivial
  | retired => trivial

theorem Inv.rests (inv : Inv state) (frame : Frame state after) (same : Same state after)
    (free : after.slotOwned = false) : Resting after :=
  (inv.resting (same.slot.symm.trans free)).frame frame same

/-- The rule for a step that only tells of an operation. -/
theorem Inv.tells (inv : Inv state) (frame : Frame state after) (same : Same state after)
    (single : operations after = operations state)
    (todo : ∀ step ∈ after.todo, step ∈ state.todo ∨ step.executes = false)
    (queue : after.queue = state.queue)
    (program : ∀ step ∈ after.program, step ∈ state.program ∨ StepOk after step)
    (down : after.isShutdown = true → state.isShutdown = true ∨ state.disposalRequested = true)
    (lawful : Lawful after.history) : Inv after :=
  inv.keep frame same.slot (by rw [same.phase]) single todo queue program down
    (inv.rests frame same) lawful

/-- The rule for a call that takes the slot. -/
theorem Inv.acquire (inv : Inv state) (free : state.slotOwned = false) {front : List MainStep}
    {job : Job} (names : after.finalName = state.finalName ∧ after.temporaryName = state.temporaryName ∧
      after.uri = state.uri)
    (disk : onDisk after.history = onDisk state.history)
    (addresses : unrevoked after.history = unrevoked state.history)
    (disposal : state.disposalRequested = true → after.disposalRequested = true)
    (same : after.queue = state.queue ∧ after.program = state.program ∧
      after.isShutdown = state.isShutdown)
    (slot : after.slotOwned = true ∧ Owned after.phase)
    (todo : after.todo = front ++ [.execute job]) (quiet : ∀ step ∈ front, step.executes = false)
    (relies : StepOk after job.first) (lawful : Lawful after.history) : Inv after := by
  have single := inv.single
  rw [free, if_neg Bool.false_ne_true, operations] at single
  have noQueue : state.queue = [] := List.length_eq_zero_iff.mp (by omega)
  have noProgram : state.program.countP WorkerStep.carries = 0 := by omega
  have noFront : front.countP MainStep.executes = 0 := by
    rw [List.countP_eq_zero]
    exact fun step member => Bool.eq_false_iff.mp (quiet step member)
  refine ⟨⟨fun _ => slot.2, fun _ => slot.1⟩, ?_, ?_, ?_, ?_, ?_, ?_, ?_, ?_, lawful⟩
  · rw [operations, todo, same.1, same.2.1, noQueue, noProgram, slot.1, List.countP_append, noFront]
    rfl
  · intro step member
    rw [todo] at member
    rcases List.mem_append.mp member with inFront | last
    · exact MainOk.of_not_executes (quiet step inFront)
    · rw [List.mem_singleton.mp last]
      exact relies
  · intro other member
    rw [same.1, noQueue] at member
    cases member
  · intro step member
    rw [same.2.1] at member
    exact (inv.program step member).of_not_carries
      (Bool.eq_false_iff.mpr (List.countP_eq_zero.mp noProgram step member)) disposal
  · exact fun other => absurd (slot.1.symm.trans other) (by decide)
  · intro isDown
    rw [same.2.2] at isDown
    exact disposal (inv.shutdown isDown)
  · rw [disk, names.1, names.2.1]
    exact inv.disk
  · rw [addresses, names.2.2]
    exact inv.addresses

theorem Inv.free (inv : Inv state) (other : ¬ Owned state.phase) : state.slotOwned = false := by
  rw [Bool.eq_false_iff]
  exact fun owned => other (inv.slot.mp owned)

theorem Inv.materialized (inv : Inv state) (materialized : state.phase = .materialized) :
    state.disposalRequested = false ∧ ∃ owner operation uri, state.operationOwner = some owner ∧
      state.uri = some uri ∧ requested state.history = some (owner, operation) ∧
        candidate state.history = some (owner, uri) := by
  have resting := inv.resting (inv.free (by rw [materialized]; rintro (h | h | h) <;> cases h))
  rw [Resting, materialized] at resting
  exact resting.2.2.2

/-- A candidate is shown to nobody but while its owner asks for it. -/
theorem Inv.captures (inv : Inv state) : Allowed state.history (.captured state.snapshot) := by
  intro (materialized : state.phase = .materialized)
  obtain ⟨_, owner, operation, uri, _, address, request, shown⟩ := inv.materialized materialized
  exact ⟨owner, operation, uri, request, shown, address⟩

end Rules

/-! ## The other steps -/

section Steps

theorem Inv.runMain (inv : Inv state) (step : runMain state = some after) : Inv after := by
  unfold RawShare.runMain at step
  split at step
  · cases step
  · rename_i rest todo
    have counted : operations { state with todo := rest } = operations state := by
      rw [operations, operations, todo, List.countP_cons_of_neg Bool.false_ne_true]
    split at step <;> cases step
    · exact inv.tells ⟨rfl, rfl, rfl, rfl, rfl, rfl, rfl, rfl, id, fun _ => id⟩ ⟨rfl, rfl, rfl, rfl, fun _ => rfl, rfl⟩ counted
        (fun other member => .inl (by rw [todo]; exact List.mem_cons_of_mem _ member)) rfl
        (fun _ => .inl) .inl inv.lawful
    · rename_i notification told
      have shown : notification.snapshot = state.snapshot := by
        obtain ⟨_, _, rfl⟩ := Option.map_eq_some_iff.mp told
        rfl
      refine inv.tells ⟨rfl, rfl, rfl, rfl, rfl, rfl, rfl, rfl, id, fun _ => id⟩ ⟨rfl, rfl, rfl, rfl, fun _ => rfl, rfl⟩ ?_ ?_
        rfl (fun _ => .inl) .inl ⟨shown ▸ inv.captures, inv.lawful⟩
      · rw [← counted, operations, operations, List.countP_cons_of_neg Bool.false_ne_true]
        rfl
      · intro other member
        rcases List.mem_cons.mp member with rfl | later
        · exact .inr rfl
        · exact .inl (by rw [todo]; exact List.mem_cons_of_mem _ later)
  · rename_i notification rest todo
    cases step
    refine inv.tells ⟨rfl, rfl, rfl, rfl, rfl, rfl, rfl, rfl, id, fun _ => id⟩ ⟨rfl, rfl, rfl, rfl, fun _ => rfl, rfl⟩ ?_
      (fun other member => .inl (by rw [todo]; exact List.mem_cons_of_mem _ member)) rfl
      (fun _ => .inl) .inl inv.lawful
    rw [operations, operations, todo, List.countP_cons_of_neg Bool.false_ne_true]
  · rename_i job rest todo
    cases step
    have frame : Frame state { state with todo := rest, queue := state.queue ++ [job] } :=
      ⟨rfl, rfl, rfl, rfl, rfl, rfl, rfl, rfl, id, fun _ => id⟩
    refine ⟨inv.slot, ?_, ?_, ?_, ?_, inv.rests frame ⟨rfl, rfl, rfl, rfl, fun _ => rfl, rfl⟩, inv.shutdown,
      inv.disk, inv.addresses, inv.lawful⟩
    · have single := inv.single
      rw [operations, todo, List.countP_cons_of_pos rfl] at single
      rw [operations, List.length_append, List.length_singleton, ← single]
      change rest.countP _ + (state.queue.length + 1) + state.program.countP _ = _
      omega
    · intro other member
      exact (inv.todo other (by rw [todo]; exact List.mem_cons_of_mem _ member)).frame frame
    · intro other member
      rcases List.mem_append.mp member with before | last
      · exact (inv.queue other before).frame frame
      · rw [List.mem_singleton.mp last]
        have holds : MainOk state (.execute job) := inv.todo _ (by rw [todo]; exact List.mem_cons_self)
        exact StepOk.frame holds frame
    · exact fun other member => (inv.program other member).frame frame

theorem Inv.deliver (inv : Inv state) (notification : Notification) (posted : List Notification) :
    Inv (deliver notification { state with posted := posted }) := by
  unfold RawShare.deliver
  split
  · exact inv.tells ⟨rfl, rfl, rfl, rfl, rfl, rfl, rfl, rfl, id, fun _ => id⟩ ⟨rfl, rfl, rfl, rfl, fun _ => rfl, rfl⟩ rfl
      (fun _ => .inl) rfl (fun _ => .inl) .inl inv.lawful
  · exact inv.tells ⟨rfl, rfl, rfl, rfl, rfl, rfl, rfl, rfl, id, fun _ => id⟩ ⟨rfl, rfl, rfl, rfl, fun _ => rfl, rfl⟩ rfl
      (fun _ => .inl) rfl (fun _ => .inl) .inl ⟨trivial, inv.lawful⟩

theorem Job.first_carries (job : Job) : job.first.carries = true := by
  cases job <;> rfl

theorem Inv.take (inv : Inv state) {job : Job} {rest : List Job} (idle : state.program = [])
    (queue : state.queue = job :: rest) :
    Inv { state with queue := rest, program := [job.first] } := by
  have frame : Frame state { state with queue := rest, program := [job.first] } :=
    ⟨rfl, rfl, rfl, rfl, rfl, rfl, rfl, rfl, id, fun _ => id⟩
  refine ⟨inv.slot, ?_, ?_, ?_, ?_, inv.rests frame ⟨rfl, rfl, rfl, rfl, fun _ => rfl, rfl⟩, inv.shutdown,
    inv.disk, inv.addresses, inv.lawful⟩
  · have single := inv.single
    rw [operations, queue, idle, List.length_cons] at single
    rw [operations, List.countP_cons_of_pos job.first_carries, ← single]
    rfl
  · exact fun step member => (inv.todo step member).frame frame
  · intro other member
    exact (inv.queue other (by rw [queue]; exact List.mem_cons_of_mem _ member)).frame frame
  · intro step member
    rw [List.mem_singleton.mp member]
    exact (inv.queue job (by rw [queue]; exact List.mem_cons_self)).frame frame

theorem Inv.publish (inv : Inv state) {rest : List WorkerStep}
    (program : state.program = .publish :: rest) : Inv (publish rest state) := by
  have counted : operations { state with program := rest } = operations state := by
    rw [operations, operations, program, List.countP_cons_of_neg Bool.false_ne_true]
  have kept : ∀ step ∈ rest, step ∈ state.program := by
    intro step member
    rw [program]
    exact List.mem_cons_of_mem _ member
  unfold RawShare.publish
  split
  · exact inv.tells ⟨rfl, rfl, rfl, rfl, rfl, rfl, rfl, rfl, id, fun _ => id⟩ ⟨rfl, rfl, rfl, rfl, fun _ => rfl, rfl⟩ counted
      (fun _ => .inl) rfl (fun step member => .inl (kept step member)) .inl inv.lawful
  · rename_i notification told
    have shown : notification.snapshot = state.snapshot := by
      obtain ⟨_, _, rfl⟩ := Option.map_eq_some_iff.mp told
      rfl
    refine inv.tells ⟨rfl, rfl, rfl, rfl, rfl, rfl, rfl, rfl, id, fun _ => id⟩ ⟨rfl, rfl, rfl, rfl, fun _ => rfl, rfl⟩ ?_
      (fun _ => .inl) rfl ?_ .inl ⟨shown ▸ inv.captures, inv.lawful⟩
    · rw [← counted, operations, operations, List.countP_cons_of_neg Bool.false_ne_true]
      rfl
    · intro step member
      rcases List.mem_cons.mp member with rfl | later
      · exact .inr trivial
      · exact .inl (kept step later)

theorem Inv.work (inv : Inv state) {step : WorkerStep} {rest : List WorkerStep}
    (program : state.program = step :: rest) (answers : Answers) :
    Inv (work answers rest state step) := by
  have relies := inv.relies program
  have kept : ∀ other ∈ rest, other ∈ state.program := by
    intro other member
    rw [program]
    exact List.mem_cons_of_mem _ member
  cases step with
  | startup =>
      exact inv.begins program rfl false ⟨rfl, rfl, rfl⟩ rfl (inv.owned program rfl) inv.told
        relies.1 relies.2 trivial
  | retire success => exact inv.retireOwned program answers
  | retiring oldUri failure success => exact inv.retireNames program answers
  | reconcile => exact inv.reconcileStep program answers
  | materialize operation => exact inv.materialize program
  | allocate operation raw => exact inv.allocate program answers
  | write operation token => exact inv.write program answers
  | cleanupStale uri => exact inv.cleanupStale program answers
  | terminalFailure problem => exact inv.terminalFailure program answers
  | finishTerminal problem => exact inv.finishTerminal program
  | finishIdle => exact inv.finishIdle program
  | finishCleanupFailure problem => exact inv.finishCleanupFailure program
  | finishDisposal => exact inv.finishDisposal program
  | publish => exact inv.publish program
  | dispatch notification =>
      refine inv.tells ⟨rfl, rfl, rfl, rfl, rfl, rfl, rfl, rfl, id, fun _ => id⟩ ⟨rfl, rfl, rfl, rfl, fun _ => rfl, rfl⟩ ?_
        (fun _ => .inl) rfl (fun other member => .inl (kept other member)) .inl inv.lawful
      rw [operations, operations, program, List.countP_cons_of_neg Bool.false_ne_true]
      rfl
  | shutdownIfRequested =>
      refine inv.tells ⟨rfl, rfl, rfl, rfl, rfl, rfl, rfl, rfl, id, fun _ => id⟩ ⟨rfl, rfl, rfl, rfl, fun _ => rfl, rfl⟩ ?_
        (fun _ => .inl) rfl ?_ .inl inv.lawful
      · rw [operations, operations, program, List.countP_cons_of_neg Bool.false_ne_true]
        cases disposal : state.disposalRequested <;>
          simp [RawShare.work, disposal, WorkerStep.carries]
      · intro other member
        cases disposal : state.disposalRequested with
        | true =>
            simp only [RawShare.work, disposal, if_true] at member
            rcases List.mem_cons.mp member with rfl | later
            · exact .inr disposal
            · exact .inl (kept other later)
        | false =>
            simp only [RawShare.work, disposal] at member
            exact .inl (kept other member)
  | shutdown =>
      refine inv.tells ⟨rfl, rfl, rfl, rfl, rfl, rfl, rfl, rfl, id, fun _ => id⟩ ⟨rfl, rfl, rfl, rfl, fun _ => rfl, rfl⟩ ?_
        (fun _ => .inl) rfl (fun other member => .inl (kept other member)) (fun _ => .inr relies)
        inv.lawful
      rw [operations, operations, program, List.countP_cons_of_neg Bool.false_ne_true]
      rfl

end Steps

/-! ## Calls -/

section Calls

variable {owner : Option Owner} {now : Int} {retired : State} {reason : String}

theorem markRetire_spec (marked : state.markRetire reason = some retired) :
    state.disposalRequested = false ∧ state.slotOwned = false ∧ retired =
      { state with
        slotOwned := true
        phase := .retired
        failure := some reason
        generation := state.generation + 1
        pendingRaw := none
        operationOwner := none } := by
  rcases ite_eq_iff.mp marked with ⟨_, rejected⟩ | ⟨free, same⟩
  · cases rejected
  · rw [not_or, Bool.not_eq_true, Bool.not_eq_true] at free
    exact ⟨free.1, free.2, (Option.some.inj same).symm⟩

theorem markRetire_of_markExpiry (expired : state.markExpiry now = some retired) :
    ∃ reason, state.markRetire reason = some retired := by
  rcases ite_eq_iff.mp expired with ⟨_, marked⟩ | ⟨_, rejected⟩
  · exact ⟨_, marked⟩
  · cases rejected

/-- Nothing is reconciled between operations, and an address is revoked once. -/
theorem Inv.idle (inv : Inv state) (free : state.slotOwned = false)
    (open_ : state.disposalRequested = false) :
    state.reconciliation = none ∧ (state.uri ≠ none → state.revoked = false) := by
  have resting := inv.resting free
  have slot := inv.slot
  rw [free] at slot
  unfold Resting at resting
  cases phase : state.phase with
  | idle =>
      rw [phase] at resting
      exact ⟨resting.1, fun _ => resting.2.1.revoked⟩
  | materialized =>
      rw [phase] at resting
      exact ⟨resting.1, fun _ => resting.2.1⟩
  | granted =>
      rw [phase] at resting
      exact ⟨resting.1, fun _ => resting.2.1⟩
  | cleanupFailed =>
      rw [phase] at resting
      exact ⟨resting.1, fun live => absurd resting.2 live⟩
  | disposed =>
      rw [phase] at resting
      cases open_.symm.trans resting
  | cleaning => cases slot.mpr (.inl phase)
  | preparing => cases slot.mpr (.inr (.inl phase))
  | retired => cases slot.mpr (.inr (.inr phase))

/-- A cleanup is scheduled for the file that is retired, whoever left before. -/
theorem Inv.retires_left (inv : Inv state) (owner : Option Owner)
    (marked : (state.record (.detached owner)).markRetire reason = some retired) :
    Inv retired.scheduleRetire := by
  obtain ⟨open_, free, same⟩ := markRetire_spec marked
  obtain ⟨idle, fresh⟩ := inv.idle free open_
  rw [same]
  refine @Inv.acquire state _ inv free [.publish] .retryCleanup ⟨rfl, rfl, rfl⟩ rfl rfl id
    ⟨rfl, rfl, rfl⟩ ⟨rfl, .inr (.inr rfl)⟩ rfl ?_ ⟨idle, fresh, trivial⟩ ⟨trivial, inv.lawful⟩
  intro step member
  rw [List.mem_singleton.mp member]
  rfl

/-- A cleanup is scheduled for the file that is retired. -/
theorem Inv.retires (inv : Inv state) (marked : state.markRetire reason = some retired) :
    Inv retired.scheduleRetire := by
  obtain ⟨open_, free, same⟩ := markRetire_spec marked
  obtain ⟨idle, fresh⟩ := inv.idle free open_
  rw [same]
  refine @Inv.acquire state _ inv free [.publish] .retryCleanup ⟨rfl, rfl, rfl⟩ rfl rfl id
    ⟨rfl, rfl, rfl⟩ ⟨rfl, .inr (.inr rfl)⟩ rfl ?_ ⟨idle, fresh, trivial⟩ inv.lawful
  intro step member
  rw [List.mem_singleton.mp member]
  rfl

theorem Inv.observe (inv : Inv state) : Inv (observe now state) := by
  unfold RawShare.observe
  split
  · rename_i expired
    obtain ⟨_, marked⟩ := markRetire_of_markExpiry expired
    exact inv.retires marked
  · exact inv

theorem Inv.retire (inv : Inv state) : Inv (retire owner state) := by
  unfold RawShare.retire
  split
  · split
    · rename_i marked
      exact inv.retires marked
    · exact inv
  · exact inv

theorem Inv.attach (inv : Inv state) (todo : state.todo = []) (owner : Owner)
    (listener : Listener) : Inv (attach owner listener state) := by
  unfold RawShare.attach
  split
  · exact inv
  · refine inv.tells ⟨rfl, rfl, rfl, rfl, rfl, rfl, rfl, rfl, id, fun _ => id⟩
      ⟨rfl, rfl, rfl, rfl, fun _ => rfl, rfl⟩ ?_ ?_ rfl (fun _ => .inl) .inl ⟨inv.captures, inv.lawful⟩
    · rw [operations, operations, todo]
      rfl
    · intro step member
      rw [List.mem_singleton.mp member]
      exact .inr rfl

/-- The listener of an owner who leaves, or the state as it is. -/
theorem Inv.forget (inv : Inv state) (todo : state.todo = []) (owner : Option Owner) :
    let left := if state.listenerOwner = owner then
        { state with
          listenerOwner := none
          listener := none
          listenerGeneration := state.listenerGeneration + 1 }
      else state
    Inv left ∧ left.todo = [] := by
  dsimp only
  split
  · exact ⟨inv.tells ⟨rfl, rfl, rfl, rfl, rfl, rfl, rfl, rfl, id, fun _ => id⟩
      ⟨rfl, rfl, rfl, rfl, fun _ => rfl, rfl⟩ rfl (fun _ => .inl) rfl (fun _ => .inl) .inl inv.lawful, todo⟩
  · exact ⟨inv, todo⟩

theorem requested_detached {history : List Event} {asker : Owner} {operation : Nat}
    (request : requested history = some (asker, operation)) (other : some asker ≠ owner) :
    requested (.detached owner :: history) = some (asker, operation) := by
  rw [requested, request]
  exact if_neg other

/-- An owner who asks for nothing leaves. -/
theorem Inv.leaves (inv : Inv state)
    (early : ¬ (state.operationOwner = owner ∧ (state.phase = .cleaning ∨ state.phase = .preparing)))
    (late : ¬ (state.operationOwner = owner ∧ state.phase = .materialized)) :
    Inv (state.record (.detached owner)) := by
  have frame : Frame state (state.record (.detached owner)) := by
    refine ⟨rfl, rfl, rfl, rfl, rfl, rfl, rfl, rfl, id, ?_⟩
    rintro operation ⟨le, current⟩
    refine ⟨le, fun same => ?_⟩
    obtain ⟨open_, phase, asker, asks, request⟩ := current same
    exact ⟨open_, phase, asker, asks, requested_detached request fun other =>
      early ⟨asks.trans other, phase⟩⟩
  refine inv.tells frame ⟨rfl, rfl, rfl, rfl, fun materialized => ?_, rfl⟩ rfl (fun _ => .inl) rfl
    (fun _ => .inl) .inl ⟨trivial, inv.lawful⟩
  obtain ⟨_, asker, operation, _, asks, _, request, _⟩ := inv.materialized materialized
  exact (requested_detached request fun other => late ⟨asks.trans other, materialized⟩).trans
    request.symm

theorem Inv.detach (inv : Inv state) (todo : state.todo = []) : Inv (detach owner state) := by
  obtain ⟨inv', todo'⟩ := inv.forget todo owner
  unfold RawShare.detach
  dsimp only
  generalize (if state.listenerOwner = owner then
    { state with
      listenerOwner := none
      listener := none
      listenerGeneration := state.listenerGeneration + 1 }
    else state) = state at inv' todo' ⊢
  split
  · rename_i early
    have slotOwned : state.slotOwned = true := inv'.slot.mpr (early.2.imp id .inl)
    refine inv'.keep ⟨rfl, rfl, rfl, rfl, rfl, rfl, rfl, rfl, id, ?_⟩ rfl Iff.rfl rfl
      (fun _ => .inl) rfl (fun _ => .inl) .inl
      (fun free => absurd (slotOwned.symm.trans free) (by decide)) ⟨trivial, inv'.lawful⟩
    rintro operation ⟨le, _⟩
    exact ⟨Nat.le_succ_of_le le, fun same => absurd same (Nat.ne_of_lt (Nat.lt_succ_of_le le))⟩
  · rename_i early
    split
    · rename_i late
      have open_ := (inv'.materialized late.2).1
      have free := inv'.free (fun owned => by rcases owned with h | h | h <;> cases late.2.symm.trans h)
      have marked : (state.record (.detached owner)).markRetire "detached" = some _ :=
        if_neg (by rw [State.record, open_, free]; simp)
      rw [marked]
      exact inv'.retires_left owner marked
    · rename_i late
      exact inv'.leaves early late

theorem Inv.prepare (inv : Inv state) (asker : Owner) (raw : String) :
    Inv (prepare asker raw now state).1 := by
  unfold RawShare.prepare
  split
  · rename_i expired
    obtain ⟨_, marked⟩ := markRetire_of_markExpiry expired
    exact inv.retires marked
  · split
    · exact inv
    · rename_i notClosed
      split
      · exact inv
      · rename_i notBusy
        simp only [not_or, Bool.not_eq_true] at notClosed notBusy
        obtain ⟨idle, fresh⟩ := inv.idle notBusy.1 notClosed.1
        have done : cleanupPending state.history = false := by
          have resting := inv.resting notBusy.1
          unfold Resting at resting
          cases phase : state.phase with
          | idle =>
              rw [phase] at resting
              exact resting.2.2
          | materialized =>
              rw [phase] at resting
              exact resting.2.2.1
          | granted =>
              rw [phase] at resting
              exact resting.2.2
          | cleanupFailed => exact absurd phase notClosed.2.1
          | disposed => exact absurd phase notClosed.2.2
          | cleaning => exact absurd phase notBusy.2.1
          | preparing => exact absurd phase notBusy.2.2.1
          | retired => exact absurd phase notBusy.2.2.2
        refine @Inv.acquire state _ inv notBusy.1 [.publish] (.prepare (state.generation + 1))
          ⟨rfl, rfl, rfl⟩ rfl rfl id ⟨rfl, rfl, rfl⟩ ⟨rfl, .inl rfl⟩ rfl ?_
          ⟨idle, fresh, done, Nat.le_refl _, fun _ => ⟨notClosed.1, .inl rfl, asker, rfl, rfl⟩⟩
          ⟨done, inv.lawful⟩
        intro step member
        rw [List.mem_singleton.mp member]
        rfl

theorem Inv.grant (inv : Inv state) : Inv (grant owner now state).1 := by
  unfold RawShare.grant
  split
  · rename_i expired
    obtain ⟨_, marked⟩ := markRetire_of_markExpiry expired
    exact inv.retires marked
  · split
    · exact inv
    · rename_i uri live
      split
      · exact inv
      · rename_i granted
        simp only [not_or, not_not] at granted
        obtain ⟨_, materialized, same⟩ := granted
        have notOwned : ¬ Owned state.phase := by
          rw [materialized]
          rintro (h | h | h) <;> cases h
        have resting := inv.resting (inv.free notOwned)
        rw [Resting, materialized] at resting
        obtain ⟨idle, fresh, done, _, asker, operation, _, asks, address, _, shown⟩ := resting
        cases live.symm.trans address
        refine inv.keep ⟨rfl, rfl, rfl, rfl, rfl, rfl, rfl, rfl, id, ?_⟩ rfl ?_ rfl (fun _ => .inl)
          rfl (fun _ => .inl) .inl (fun _ => ⟨idle, fresh, done⟩)
          ⟨⟨asker, same.symm.trans asks, shown⟩, inv.lawful⟩
        · rintro operation ⟨le, current⟩
          refine ⟨le, fun same => absurd (current same).2.1 ?_⟩
          rw [materialized]
          rintro (h | h) <;> cases h
        · refine ⟨fun owned => ?_, fun owned => absurd owned notOwned⟩
          rcases owned with h | h | h <;> cases h

theorem Inv.retryCleanup (inv : Inv state) : Inv (retryCleanup state).1 := by
  unfold RawShare.retryCleanup
  split
  · exact inv
  · rename_i open_
    split
    · exact inv
    · rename_i failed
      simp only [not_or, not_not, Bool.not_eq_true] at open_ failed
      obtain ⟨idle, fresh⟩ := inv.idle failed.2 open_
      refine @Inv.acquire state _ inv failed.2 [.publish] .retryCleanup ⟨rfl, rfl, rfl⟩ rfl rfl id
        ⟨rfl, rfl, rfl⟩ ⟨rfl, .inl rfl⟩ rfl ?_ ⟨idle, fresh, trivial⟩ inv.lawful
      intro step member
      rw [List.mem_singleton.mp member]
      rfl

theorem Inv.dispose (inv : Inv state) : Inv (dispose state) := by
  unfold RawShare.dispose
  split
  · exact inv
  · rename_i open_
    rw [Bool.not_eq_true] at open_
    dsimp only
    split
    · rename_i owned
      refine inv.keep ⟨rfl, rfl, rfl, rfl, rfl, rfl, rfl, rfl, fun _ => rfl, ?_⟩ rfl Iff.rfl rfl
        (fun _ => .inl) rfl (fun _ => .inl) .inl (fun free => absurd (owned.symm.trans free) (by decide))
        ⟨trivial, inv.lawful⟩
      rintro operation ⟨le, _⟩
      exact ⟨Nat.le_succ_of_le le, fun same => absurd same (Nat.ne_of_lt (Nat.lt_succ_of_le le))⟩
    · rename_i free
      rw [Bool.not_eq_true] at free
      obtain ⟨idle, fresh⟩ := inv.idle free open_
      exact @Inv.acquire state _ inv free [] .dispose ⟨rfl, rfl, rfl⟩ rfl rfl (fun _ => rfl)
        ⟨rfl, rfl, rfl⟩ ⟨rfl, .inr (.inr rfl)⟩ rfl (fun _ member => (by cases member))
        ⟨idle, fresh, rfl⟩ ⟨trivial, inv.lawful⟩

theorem Inv.invoke (inv : Inv state) (todo : state.todo = []) (now : Int) (call : Call) :
    Inv (invoke now state call) := by
  cases call with
  | attach owner listener => exact inv.attach todo owner listener
  | detach owner => exact inv.detach todo
  | prepare owner raw => exact inv.prepare owner raw
  | grant owner => exact inv.grant
  | observe => exact inv.observe
  | retire owner => exact inv.retire
  | retryCleanup => exact inv.retryCleanup
  | dispose => exact inv.dispose

end Calls

/-! ## Runs -/

theorem Inv.next {action : Action} (inv : Inv state) (step : next state action = some after) :
    Inv after := by
  cases action with
  | call now call =>
      rcases ite_eq_iff.mp step with ⟨todo, same⟩ | ⟨_, disabled⟩
      · cases same
        exact inv.invoke todo now call
      · cases disabled
  | main => exact inv.runMain step
  | deliver =>
      change runPosted state = some after at step
      unfold runPosted at step
      split at step
      · cases step
        exact inv.deliver _ _
      · cases step
  | take =>
      change RawShare.take state = some after at step
      unfold RawShare.take at step
      split at step
      · rename_i idle queue
        cases step
        exact inv.take idle queue
      · cases step
  | work answers =>
      change runWorker answers state = some after at step
      unfold runWorker at step
      split at step
      · rename_i program
        cases step
        exact inv.work program answers
      · cases step

theorem inv_of_reachable (reachable : Reachable next initial state) : Inv state :=
  reachable.invariant Inv inv_initial fun _ _ _ inv step => inv.next step

/-- A run that writes a file for an owner: its candidate is there, and the slot is
free. -/
def materializing : List Action :=
  let answers : Answers :=
    { directory := none
      attempts := [⟨"0000000000000001", .ok false, .ok false⟩]
      write := none
      uri := .ok 7
      revoke := none
      deleteTemporary := none
      deleteFinal := none
      scan := .clean }
  [.take] ++ List.replicate 4 (.work answers) ++ [.call 0 (.prepare 1 "report"), .main, .main, .take] ++
    List.replicate 7 (.work answers)

end CheckNetwork.Android.RawShare
