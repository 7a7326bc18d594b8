import CheckNetwork.Android.RawShare.Slot

/-!
# The steps of an operation

Each step of the worker hands the next one what it relies on, or gives the slot
back.
-/

namespace CheckNetwork.Android.RawShare

variable {state after : State} {step following : WorkerStep} {rest front : List WorkerStep}

theorem Inv.relies (inv : Inv state) (program : state.program = step :: rest) :
    StepOk state step :=
  inv.program step (by rw [program]; exact List.mem_cons_self)

/-- What a step inside an operation leaves to the others. -/
structure Aside (state after : State) : Prop where
  todo : after.todo = state.todo
  disposal : after.disposalRequested = state.disposalRequested
  down : after.isShutdown = state.isShutdown

/-- What the history says about the fields. -/
structure Told (state : State) : Prop where
  disk : ∀ name ∈ onDisk state.history,
    state.finalName = some name ∨ state.temporaryName = some name
  addresses : ∀ uri ∈ unrevoked state.history, state.uri = some uri
  lawful : Lawful state.history

theorem Inv.told (inv : Inv state) : Told state := ⟨inv.disk, inv.addresses, inv.lawful⟩

/-- The operation goes on with a step of the program. -/
theorem Inv.goesOn (inv : Inv state) (program : state.program = step :: rest)
    (carries : step.carries = true) (aside : Aside state after) (queue : after.queue = state.queue)
    (slot : after.slotOwned = true ∧ Owned after.phase) (told : Told after)
    (continued : after.program = front ++ following :: rest)
    (quiet : ∀ step ∈ front, step.carries = false ∧ StepOk after step)
    (follows : following.carries = true) (relies : StepOk after following) : Inv after := by
  obtain ⟨_, noQueue, _, _⟩ := inv.alone program carries
  have noFront : front.countP WorkerStep.carries = 0 := by
    rw [List.countP_eq_zero]
    exact fun step member => Bool.eq_false_iff.mp (quiet step member).1
  apply @Inv.carry state after step rest (front ++ [following]) [] inv program carries aside.todo
    (queue.trans noQueue) _ aside.disposal aside.down _ _ _ _ _ told.disk told.addresses told.lawful
  · rw [continued, List.append_assoc]
    rfl
  · exact ⟨fun _ => slot.2, fun _ => slot.1⟩
  · rw [slot.1, List.countP_append, noFront, List.countP_cons_of_pos follows]
    rfl
  · exact fun _ member => (by cases member)
  · intro step member
    rcases List.mem_append.mp member with inFront | last
    · exact (quiet step inFront).2
    · rw [List.mem_singleton.mp last]
      exact relies
  · exact fun free => absurd (slot.1.symm.trans free) (by decide)

/-- The operation goes on with a new job. -/
theorem Inv.requeues (inv : Inv state) (program : state.program = step :: rest)
    (carries : step.carries = true) (aside : Aside state after) {job : Job}
    (queue : after.queue = state.queue ++ [job])
    (slot : after.slotOwned = true ∧ Owned after.phase) (told : Told after)
    (continued : after.program = rest) (relies : StepOk after job.first) : Inv after := by
  obtain ⟨_, noQueue, _, _⟩ := inv.alone program carries
  rw [noQueue] at queue
  apply @Inv.carry state after step rest [] [job] inv program carries aside.todo queue continued
    aside.disposal aside.down _ _ _ _ _ told.disk told.addresses told.lawful
  · exact ⟨fun _ => slot.2, fun _ => slot.1⟩
  · rw [slot.1]
    rfl
  · intro other member
    rw [List.mem_singleton.mp member]
    exact relies
  · exact fun _ member => (by cases member)
  · exact fun free => absurd (slot.1.symm.trans free) (by decide)

/-- The operation ends. -/
theorem Inv.ends (inv : Inv state) (program : state.program = step :: rest)
    (carries : step.carries = true) (aside : Aside state after) (queue : after.queue = state.queue)
    (slot : after.slotOwned = false ∧ ¬ Owned after.phase) (told : Told after)
    (continued : after.program = front ++ rest)
    (quiet : ∀ step ∈ front, step.carries = false ∧ StepOk after step)
    (resting : Resting after) : Inv after := by
  obtain ⟨_, noQueue, _, _⟩ := inv.alone program carries
  have noFront : front.countP WorkerStep.carries = 0 := by
    rw [List.countP_eq_zero]
    exact fun step member => Bool.eq_false_iff.mp (quiet step member).1
  apply @Inv.carry state after step rest front [] inv program carries aside.todo
    (queue.trans noQueue) continued aside.disposal aside.down _ _ _ _ _ told.disk told.addresses
    told.lawful
  · rw [slot.1]
    exact ⟨fun owned => (by cases owned), fun owned => absurd owned slot.2⟩
  · rw [slot.1, noFront]
    rfl
  · exact fun _ member => (by cases member)
  · exact fun step member => (quiet step member).2
  · exact fun _ => resting

/-- An operation keeps the slot. -/
theorem Inv.owned (inv : Inv state) (program : state.program = step :: rest)
    (carries : step.carries = true) : state.slotOwned = true ∧ Owned state.phase :=
  have owned := (inv.alone program carries).1
  ⟨owned, inv.slot.mp owned⟩

/-! ## Reconciliation -/

/-- A reconciliation begins when nothing is left of the last file. -/
theorem Inv.begins (inv : Inv state) (program : state.program = step :: rest)
    (carries : step.carries = true) {cleared : State} {success : Success} (defer : Bool)
    (aside : Aside state cleared) (queue : cleared.queue = state.queue)
    (slot : cleared.slotOwned = true ∧ Owned cleared.phase) (told : Told cleared)
    (idle : cleared.reconciliation = none) (isCleared : Cleared cleared)
    (succeeds : SuccessOk cleared success) :
    Inv (beginReconciliation success defer rest cleared) := by
  have reconciles : ∀ queue program, StepOk
      { cleared with reconciliation := some success, queue := queue, program := program }
      .reconcile := fun _ _ =>
    ⟨success, rfl, ⟨isCleared.1, isCleared.2, isCleared.3, isCleared.4⟩, succeeds⟩
  have told' : ∀ queue program, Told
      { cleared with reconciliation := some success, queue := queue, program := program } :=
    fun _ _ => ⟨told.1, told.2, told.3⟩
  have aside' : ∀ queue program, Aside state
      { cleared with reconciliation := some success, queue := queue, program := program } :=
    fun _ _ => ⟨aside.1, aside.2, aside.3⟩
  rw [beginReconciliation, idle]
  dsimp only [Option.isSome]
  rw [if_neg Bool.false_ne_true]
  cases defer with
  | false =>
      rw [if_pos (by decide : (!false) = true)]
      exact @Inv.goesOn state _ step .reconcile rest [] inv program carries (aside' _ _) queue slot
        (told' _ _) rfl (fun _ member => (by cases member)) rfl (reconciles _ _)
  | true =>
      rw [if_neg (by decide : ¬ (!true) = true)]
      split
      · rename_i isDown
        exact @Inv.goesOn state _ step (.finishCleanupFailure rejected) rest [] inv program carries
          (aside' _ _) queue slot (told' _ _) rfl (fun _ member => (by cases member)) rfl
          ⟨.inr (aside.disposal.trans (inv.shutdown (aside.down.symm.trans isDown))), isCleared.uri⟩
      · apply @Inv.requeues state _ step rest inv program carries (aside' _ _) .reconcile _ slot
          (told' _ _) rfl (reconciles _ _)
        rw [← queue]

theorem Inv.reconcileStep (inv : Inv state) (program : state.program = .reconcile :: rest)
    (answers : Answers) : Inv (reconcileStep answers rest state) := by
  obtain ⟨success, running, cleared, succeeds⟩ := inv.relies program
  have owned := inv.owned program rfl
  rw [RawShare.reconcileStep, running]
  dsimp only
  split
  · exact @Inv.goesOn state _ _ (.finishCleanupFailure _) rest [] inv program rfl ⟨rfl, rfl, rfl⟩ rfl
      owned ⟨inv.disk, inv.addresses, inv.lawful⟩ rfl (fun _ member => (by cases member)) rfl
      ⟨.inl rfl, cleared.uri⟩
  · split
    · exact @Inv.goesOn state _ _ (.finishCleanupFailure _) rest [] inv program rfl ⟨rfl, rfl, rfl⟩
        rfl owned ⟨inv.disk, inv.addresses, inv.lawful⟩ rfl (fun _ member => (by cases member)) rfl
        ⟨.inl rfl, cleared.uri⟩
    · exact @Inv.requeues state _ _ rest inv program rfl ⟨rfl, rfl, rfl⟩ .reconcile rfl owned
        ⟨inv.disk, inv.addresses, inv.lawful⟩ rfl
        ⟨success, rfl, ⟨cleared.1, cleared.2, cleared.3, cleared.4⟩, succeeds⟩
  · refine @Inv.goesOn state _ _ success.first rest [] inv program rfl ⟨rfl, rfl, rfl⟩ rfl owned
      ⟨inv.disk, inv.addresses, trivial, inv.lawful⟩ rfl (fun _ member => (by cases member)) ?_ ?_
    · cases success <;> rfl
    · cases success with
      | materialize operation =>
          exact ⟨rfl, ⟨cleared.1, cleared.2, cleared.3, cleared.4⟩, rfl, succeeds.2⟩
      | finishIdle => exact ⟨rfl, ⟨cleared.1, cleared.2, cleared.3, cleared.4⟩, rfl⟩
      | finishDisposal => exact succeeds

/-! ## Retiring the last file -/

theorem Inv.retireOwned (inv : Inv state) {success : Success}
    (program : state.program = .retire success :: rest) (answers : Answers) :
    Inv (retireOwned answers success rest state) := by
  obtain ⟨idle, fresh, succeeds⟩ := inv.relies program
  have owned := inv.owned program rfl
  have noAddress : state.uri = none → unrevoked state.history = [] := by
    intro absent
    apply List.eq_nil_iff_forall_not_mem.mpr
    intro uri member
    cases absent.symm.trans (inv.addresses uri member)
  have addresses := inv.addresses
  rw [RawShare.retireOwned]
  cases live : state.uri with
  | none =>
      rw [live] at addresses
      exact @Inv.goesOn state _ _ (.retiring none none success) rest [] inv program rfl
        ⟨rfl, rfl, rfl⟩ rfl owned ⟨inv.disk, addresses, inv.lawful⟩ rfl
        (fun _ member => (by cases member)) rfl ⟨idle, rfl, noAddress live, succeeds⟩
  | some uri =>
      rw [live] at addresses
      dsimp only
      rw [fresh (by rw [live]; exact Option.some_ne_none uri), if_neg Bool.false_ne_true]
      have revokes : unrevoked (.revoking uri :: state.history) = [] := by
        apply List.eq_nil_iff_forall_not_mem.mpr
        intro other member
        obtain ⟨inside, different⟩ := List.mem_filter.mp member
        exact of_decide_eq_true different (Option.some.inj (addresses other inside)).symm
      refine @Inv.goesOn state _ _ (.retiring (some uri) answers.revoke success) rest [] inv program
        rfl ⟨rfl, rfl, rfl⟩ rfl owned ⟨inv.disk, ?_, trivial, inv.lawful⟩ rfl
        (fun _ member => (by cases member)) rfl ⟨idle, live, revokes, succeeds⟩
      intro other member
      change other ∈ unrevoked (.revoking uri :: state.history) at member
      rw [revokes] at member
      cases member

/-- What the deletion of the names leaves to the others. -/
theorem Told.deleteNames (told : Told state) (answers : Answers) (failure : Option String) :
    Told (deleteNames answers failure state).1 := by
  obtain ⟨disk, addresses, _, _, lawful, _⟩ := deleteNames_spec answers failure state told.disk
  refine ⟨disk, ?_, lawful told.lawful⟩
  rw [addresses]
  exact told.addresses

theorem Inv.retireNames (inv : Inv state) {oldUri : Option Uri} {failure : Option String}
    {success : Success} (program : state.program = .retiring oldUri failure success :: rest)
    (answers : Answers) : Inv (retireNames answers oldUri failure success rest state) := by
  obtain ⟨idle, live, noAddress, succeeds⟩ := inv.relies program
  have owned := inv.owned program rfl
  rw [RawShare.retireNames]
  dsimp only
  generalize cleared_eq : (if oldUri ≠ none ∧ state.uri = oldUri then
    { state with uri := none, leaseExpiresAt := 0 } else state) = cleared
  have cleared_spec : cleared.uri = none ∧ Told cleared ∧ Aside state cleared ∧
      cleared.queue = state.queue ∧ cleared.slotOwned = state.slotOwned ∧
      cleared.phase = state.phase ∧ cleared.reconciliation = none ∧
      cleared.history = state.history ∧ SuccessOk cleared success := by
    rw [← cleared_eq]
    split
    · refine ⟨rfl, ⟨inv.disk, ?_, inv.lawful⟩, ⟨rfl, rfl, rfl⟩, rfl, rfl, rfl, idle, rfl, succeeds⟩
      rw [noAddress]
      exact fun _ member => (by cases member)
    · rename_i absent
      refine ⟨?_, inv.told, ⟨rfl, rfl, rfl⟩, rfl, rfl, rfl, idle, rfl, succeeds⟩
      by_contra present
      exact absent ⟨fun same => present (live.trans same), live⟩
  clear cleared_eq
  obtain ⟨noUri, told, aside, queue, slot, phase, notRunning, history, succeeds'⟩ := cleared_spec
  have slot' : cleared.slotOwned = true ∧ Owned cleared.phase := by rwa [slot, phase]
  have told' := told.deleteNames answers failure
  obtain ⟨_, _, pending, asked, _, gone⟩ := deleteNames_spec answers failure cleared told.disk
  cases failed : (deleteNames answers failure cleared).2.2 with
  | some problem =>
      exact @Inv.goesOn state _ _ (.finishCleanupFailure problem) rest [] inv program rfl
        ⟨aside.1, aside.2, aside.3⟩ queue slot' ⟨told'.1, told'.2, told'.3⟩ rfl
        (fun _ member => (by cases member)) rfl ⟨.inl notRunning, noUri⟩
  | none =>
      obtain ⟨noFinal, noTemporary⟩ := gone failed
      dsimp only
      refine @Inv.begins state _ rest inv program rfl
        { (deleteNames answers failure cleared).1 with revoked := false } success _
        ⟨aside.1, aside.2, aside.3⟩ queue slot' ⟨told'.1, told'.2, told'.3⟩ notRunning
        ⟨noFinal, noTemporary, noUri, rfl⟩ ?_
      cases success with
      | materialize operation =>
          refine ⟨pending.trans succeeds'.1, succeeds'.2.1, fun current => ?_⟩
          obtain ⟨open_, early, owner, asks, request⟩ := succeeds'.2.2 current
          exact ⟨open_, early, owner, asks, asked.trans request⟩
      | finishIdle => trivial
      | finishDisposal => exact succeeds'

/-! ## Materialization -/

theorem Inv.materialize (inv : Inv state) {operation : Nat}
    (program : state.program = .materialize operation :: rest) :
    Inv (materialize operation rest state) := by
  obtain ⟨idle, cleared, done, current⟩ := inv.relies program
  have owned := inv.owned program rfl
  rw [RawShare.materialize]
  split
  · exact @Inv.goesOn state _ _ (.terminalFailure stale) rest [] inv program rfl ⟨rfl, rfl, rfl⟩ rfl
      owned ⟨inv.disk, inv.addresses, inv.lawful⟩ rfl (fun _ member => (by cases member)) rfl
      ⟨idle, cleared.uri, cleared.revoked, done⟩
  · refine @Inv.goesOn state _ _ (.allocate operation state.pendingRaw) rest [.publish] inv program
      rfl ⟨rfl, rfl, rfl⟩ rfl ⟨owned.1, .inr (.inl rfl)⟩ ⟨inv.disk, inv.addresses, inv.lawful⟩ rfl
      ?_ rfl ⟨idle, ⟨cleared.1, cleared.2, cleared.3, cleared.4⟩, done, current.1, fun same => ?_⟩
    · intro step member
      rw [List.mem_singleton.mp member]
      exact ⟨rfl, trivial⟩
    · obtain ⟨open_, _, asker⟩ := current.2 same
      exact ⟨open_, .inr rfl, asker⟩

theorem Inv.allocate (inv : Inv state) {operation : Nat} {raw : Option String}
    (program : state.program = .allocate operation raw :: rest) (answers : Answers) :
    Inv (allocate answers operation raw rest state) := by
  obtain ⟨idle, cleared, done, current⟩ := inv.relies program
  have owned := inv.owned program rfl
  have empty : onDisk state.history = [] := by
    apply List.eq_nil_iff_forall_not_mem.mpr
    intro name member
    rcases inv.disk name member with final | temporary
    · cases cleared.finalName.symm.trans final
    · cases cleared.temporaryName.symm.trans temporary
  rw [RawShare.allocate]
  split
  · exact @Inv.goesOn state _ _ (.terminalFailure _) rest [] inv program rfl ⟨rfl, rfl, rfl⟩ rfl
      owned ⟨inv.disk, inv.addresses, inv.lawful⟩ rfl (fun _ member => (by cases member)) rfl
      ⟨idle, cleared.uri, cleared.revoked, done⟩
  · dsimp only
    split
    · exact @Inv.goesOn state _ _ (.terminalFailure stale) rest [] inv program rfl ⟨rfl, rfl, rfl⟩
        rfl owned ⟨inv.disk, inv.addresses, inv.lawful⟩ rfl (fun _ member => (by cases member)) rfl
        ⟨idle, cleared.uri, cleared.revoked, done⟩
    · refine @Inv.goesOn state _ _ (.write operation _) rest [] inv program rfl ⟨rfl, rfl, rfl⟩ rfl
        owned ⟨?_, inv.addresses, inv.lawful⟩ rfl (fun _ member => (by cases member)) rfl
        ⟨idle, cleared.uri, cleared.revoked, rfl, rfl, empty, done, current⟩
      rw [empty]
      exact fun _ member => (by cases member)

/-- The candidate appears if its owner still asks for it. -/
theorem Inv.commit {writing : State} (inv : Inv state) {operation : Nat} {token : String}
    (program : state.program = .write operation token :: rest) (uri : Uri)
    (same : writing = { state with history := writing.history })
    (final : ∀ name ∈ onDisk writing.history, writing.finalName = some name)
    (lawful : Lawful writing.history) (empty : unrevoked writing.history = []) (done : cleanupPending writing.history = false)
    (current : PrepareOk writing operation) : Inv (commit operation uri rest writing) := by
  obtain ⟨idle, absent, fresh, _, _, _, _, _⟩ := inv.relies program
  have owned := inv.owned program rfl
  have aside : Aside state writing := by
    rw [same]
    exact ⟨rfl, rfl, rfl⟩
  have queue : writing.queue = state.queue := by rw [same]
  have slot : writing.slotOwned = true ∧ Owned writing.phase := by
    rw [same]
    exact owned
  have relies : writing.reconciliation = none ∧ writing.uri = none ∧ writing.revoked = false := by
    rw [same]
    exact ⟨idle, absent, fresh⟩
  obtain ⟨idle, absent, fresh⟩ := relies
  clear same
  have addresses : ∀ other ∈ unrevoked writing.history, writing.uri = some other := by
    rw [empty]
    exact fun _ member => (by cases member)
  have isStale : Inv { writing with program := .cleanupStale uri :: rest } :=
    @Inv.goesOn state _ _ (.cleanupStale uri) rest [] inv program rfl
      ⟨aside.1, aside.2, aside.3⟩ queue slot
      ⟨fun name member => .inl (final name member), addresses, lawful⟩ rfl
      (fun _ member => (by cases member)) rfl ⟨idle, absent, fresh, done⟩
  unfold RawShare.commit
  split
  · exact isStale
  · rename_i owner asks
    split
    · exact isStale
    · rename_i notStale
      rw [not_or, not_not] at notStale
      obtain ⟨open_, _, asker, asks', request⟩ := current.2 notStale.1
      cases asks.symm.trans asks'
      refine @Inv.ends state _ _ rest [.publish] inv program rfl ⟨aside.1, aside.2, aside.3⟩ queue
        ⟨rfl, fun owned => by rcases owned with h | h | h <;> cases h⟩
        ⟨fun name member => .inl (final name member), ?_, request, lawful⟩ rfl ?_
        ⟨idle, fresh, done, open_, owner, operation, uri, asks, rfl, request, rfl⟩
      · intro other member
        change other ∈ uri :: unrevoked writing.history at member
        rw [empty, List.mem_singleton] at member
        rw [member]
      · intro step member
        rw [List.mem_singleton.mp member]
        exact ⟨rfl, trivial⟩

theorem Inv.write (inv : Inv state) {operation : Nat} {token : String}
    (program : state.program = .write operation token :: rest) (answers : Answers) :
    Inv (write answers operation token rest state) := by
  obtain ⟨idle, absent, fresh, final, temporary, empty, done, current⟩ := inv.relies program
  have owned := inv.owned program rfl
  have revoked : unrevoked state.history = [] := by
    apply List.eq_nil_iff_forall_not_mem.mpr
    intro uri member
    cases absent.symm.trans (inv.addresses uri member)
  have lawful : Lawful (.writing token :: state.history) := ⟨⟨empty, revoked⟩, inv.lawful⟩
  have names : onDisk (.writing token :: state.history) = [.final token, .temporary token] := by
    rw [onDisk, empty]
  have moved : onDisk (.written token :: .writing token :: state.history) = [.final token] := by
    rw [onDisk, names]
    simp
  rw [RawShare.write]
  dsimp only
  split
  · refine @Inv.goesOn state _ _ (.terminalFailure _) rest [] inv program rfl ⟨rfl, rfl, rfl⟩ rfl
      owned ⟨?_, inv.addresses, lawful⟩ rfl (fun _ member => (by cases member)) rfl
      ⟨idle, absent, fresh, done⟩
    intro name member
    change name ∈ onDisk (.writing token :: state.history) at member
    rw [names, List.mem_cons, List.mem_singleton] at member
    rcases member with rfl | rfl
    · exact .inl final
    · exact .inr temporary
  · refine @Inv.goesOn state _ _ (.terminalFailure _) rest [] inv program rfl ⟨rfl, rfl, rfl⟩ rfl
      owned ⟨?_, inv.addresses, trivial, lawful⟩ rfl (fun _ member => (by cases member)) rfl
      ⟨idle, absent, fresh, done⟩
    intro name member
    change name ∈ onDisk (.written token :: .writing token :: state.history) at member
    rw [moved, List.mem_singleton] at member
    rw [member]
    exact .inl final
  · refine inv.commit program _ rfl ?_ ⟨trivial, lawful⟩ revoked done current
    intro name member
    change name ∈ onDisk (.written token :: .writing token :: state.history) at member
    rw [moved, List.mem_singleton] at member
    rw [member]
    exact final

/-! ## Cleaning up after a failure -/

/-- What the cleanup of a candidate leaves to the others. -/
theorem cleanupCandidate_spec (answers : Answers) (candidate : Option Uri) (told : Told state) :
    let cleaned := cleanupCandidate answers candidate state
    Aside state cleaned.1 ∧ Told cleaned.1 ∧ cleaned.1.queue = state.queue ∧
      cleaned.1.slotOwned = state.slotOwned ∧ cleaned.1.phase = state.phase ∧
      cleaned.1.reconciliation = state.reconciliation ∧ cleaned.1.uri = state.uri ∧
      cleaned.1.revoked = state.revoked ∧
      cleanupPending cleaned.1.history = cleanupPending state.history ∧
      (cleaned.2.2 = none → cleaned.1.finalName = none ∧ cleaned.1.temporaryName = none) := by
  cases candidate with
  | none =>
      obtain ⟨_, _, pending, _, _, gone⟩ := deleteNames_spec answers none state told.disk
      exact ⟨⟨rfl, rfl, rfl⟩, told.deleteNames answers none, rfl, rfl, rfl, rfl, rfl, rfl, pending,
        gone⟩
  | some uri =>
      have told' : Told (state.record (.revoking uri)) :=
        ⟨told.disk, fun other member => told.addresses other (List.mem_of_mem_filter member),
          trivial, told.lawful⟩
      obtain ⟨_, _, pending, _, _, gone⟩ :=
        deleteNames_spec answers answers.revoke (state.record (.revoking uri)) told'.disk
      exact ⟨⟨rfl, rfl, rfl⟩, told'.deleteNames answers answers.revoke, rfl, rfl, rfl, rfl, rfl, rfl,
        pending, gone⟩

theorem Inv.cleanupStale (inv : Inv state) {uri : Uri}
    (program : state.program = .cleanupStale uri :: rest) (answers : Answers) :
    Inv (cleanupStale answers uri rest state) := by
  obtain ⟨idle, absent, fresh, done⟩ := inv.relies program
  have owned := inv.owned program rfl
  obtain ⟨aside, told, queue, slot, phase, running, address, revoked, pending, gone⟩ :=
    cleanupCandidate_spec answers (some uri) inv.told
  rw [← slot, ← phase] at owned
  rw [RawShare.cleanupStale]
  dsimp only
  split
  · exact @Inv.goesOn state _ _ (.terminalFailure _) rest [] inv program rfl
      ⟨aside.1, aside.2, aside.3⟩ queue owned ⟨told.1, told.2, told.3⟩ rfl
      (fun _ member => (by cases member)) rfl ⟨running.trans idle, address.trans absent,
        revoked.trans fresh, pending.trans done⟩
  · rename_i succeeded
    obtain ⟨noFinal, noTemporary⟩ := gone succeeded
    exact @Inv.goesOn state _ _ (.finishTerminal none) rest [] inv program rfl
      ⟨aside.1, aside.2, aside.3⟩ queue owned ⟨told.1, told.2, told.3⟩ rfl
      (fun _ member => (by cases member)) rfl ⟨running.trans idle,
        ⟨noFinal, noTemporary, address.trans absent, revoked.trans fresh⟩, pending.trans done⟩

theorem Inv.terminalFailure (inv : Inv state) {problem : String}
    (program : state.program = .terminalFailure problem :: rest) (answers : Answers) :
    Inv (terminalFailure answers problem rest state) := by
  obtain ⟨idle, absent, fresh, done⟩ := inv.relies program
  have owned := inv.owned program rfl
  obtain ⟨aside, told, queue, slot, phase, running, address, revoked, pending, gone⟩ :=
    cleanupCandidate_spec answers state.uri inv.told
  rw [← slot, ← phase] at owned
  rw [RawShare.terminalFailure]
  dsimp only
  split
  · exact @Inv.goesOn state _ _ (.finishCleanupFailure _) rest [] inv program rfl
      ⟨aside.1, aside.2, aside.3⟩ queue owned ⟨told.1, told.2, told.3⟩ rfl
      (fun _ member => (by cases member)) rfl ⟨.inl (running.trans idle), address.trans absent⟩
  · rename_i succeeded
    obtain ⟨noFinal, noTemporary⟩ := gone succeeded
    exact @Inv.goesOn state _ _ (.finishTerminal (some problem)) rest [] inv program rfl
      ⟨aside.1, aside.2, aside.3⟩ queue owned ⟨told.1, told.2, told.3⟩ rfl
      (fun _ member => (by cases member)) rfl ⟨running.trans idle,
        ⟨noFinal, noTemporary, address.trans absent, revoked.trans fresh⟩, pending.trans done⟩

/-! ## The ends of an operation -/

/-- The phase after an operation is no phase of one. -/
theorem not_owned_of_end {phase : Phase} (disposal : Bool) (idle : ¬ Owned phase) :
    ¬ Owned (if disposal then .disposed else phase) := by
  split
  · rintro (h | h | h) <;> cases h
  · exact idle

theorem Inv.finishTerminal (inv : Inv state) {problem : Option String}
    (program : state.program = .finishTerminal problem :: rest) :
    Inv (finishTerminal problem rest state) := by
  obtain ⟨idle, cleared, done⟩ := inv.relies program
  have addresses := inv.addresses
  rw [cleared.uri] at addresses
  have disk := inv.disk
  rw [cleared.finalName, cleared.temporaryName] at disk
  refine @Inv.ends state _ _ rest [.publish, .shutdownIfRequested] inv program rfl
    ⟨rfl, rfl, rfl⟩ rfl ⟨rfl, not_owned_of_end _ (by rintro (h | h | h) <;> cases h)⟩
    ⟨disk, addresses, inv.lawful⟩ rfl ?_ ?_
  · intro step member
    rcases List.mem_cons.mp member with rfl | last
    · exact ⟨rfl, trivial⟩
    · rw [List.mem_singleton.mp last]
      exact ⟨rfl, trivial⟩
  · cases disposal : state.disposalRequested with
    | true => simp [Resting, RawShare.finishTerminal, State.dropOperation, disposal]
    | false =>
        simp [Resting, RawShare.finishTerminal, State.dropOperation, disposal]
        exact ⟨idle, ⟨rfl, rfl, rfl, cleared.revoked⟩, done⟩

/-- The last publication, and the shutdown if the runtime is disposed. -/
theorem closing_eq (state : State) (rest : List WorkerStep) : ∃ front, closing state rest =
    front ++ rest ∧ ∀ step ∈ front, step.carries = false ∧
      ∀ after : State, after.disposalRequested = state.disposalRequested → StepOk after step := by
  cases disposal : state.disposalRequested with
  | true =>
      refine ⟨[.publish, .shutdown], by rw [closing, disposal]; rfl, ?_⟩
      intro step member
      rcases List.mem_cons.mp member with rfl | last
      · exact ⟨rfl, fun _ _ => trivial⟩
      · rw [List.mem_singleton.mp last]
        exact ⟨rfl, fun _ requested => requested⟩
  | false =>
      refine ⟨[.publish], by rw [closing, disposal]; rfl, ?_⟩
      intro step member
      rw [List.mem_singleton.mp member]
      exact ⟨rfl, fun _ _ => trivial⟩

theorem Inv.finishIdle (inv : Inv state) (program : state.program = .finishIdle :: rest) :
    Inv (finishIdle rest state) := by
  obtain ⟨idle, cleared, done⟩ := inv.relies program
  obtain ⟨front, continued, quiet⟩ := closing_eq state rest
  refine @Inv.ends state _ _ rest front inv program rfl
    ⟨rfl, rfl, rfl⟩ rfl ⟨rfl, not_owned_of_end _ (by rintro (h | h | h) <;> cases h)⟩
    ⟨inv.disk, inv.addresses, inv.lawful⟩ continued
    (fun step member => ⟨(quiet step member).1, (quiet step member).2 _ rfl⟩) ?_
  cases disposal : state.disposalRequested with
  | true => simp [Resting, RawShare.finishIdle, State.dropOperation, disposal]
  | false =>
      simp [Resting, RawShare.finishIdle, State.dropOperation, disposal]
      exact ⟨idle, ⟨cleared.1, cleared.2, cleared.3, cleared.4⟩, done⟩

theorem Inv.finishCleanupFailure (inv : Inv state) {problem : String}
    (program : state.program = .finishCleanupFailure problem :: rest) :
    Inv (finishCleanupFailure problem rest state) := by
  obtain ⟨idle, absent⟩ := inv.relies program
  obtain ⟨front, continued, quiet⟩ := closing_eq state rest
  refine @Inv.ends state _ _ rest front inv program rfl
    ⟨rfl, rfl, rfl⟩ rfl ⟨rfl, not_owned_of_end _ (by rintro (h | h | h) <;> cases h)⟩
    ⟨inv.disk, inv.addresses, trivial, inv.lawful⟩ continued
    (fun step member => ⟨(quiet step member).1, (quiet step member).2 _ rfl⟩) ?_
  cases disposal : state.disposalRequested with
  | true => simp [Resting, RawShare.finishCleanupFailure, State.dropOperation, State.record, disposal]
  | false =>
      rw [disposal] at idle
      simp [Resting, RawShare.finishCleanupFailure, State.dropOperation, State.record, disposal]
      exact ⟨idle.resolve_right Bool.false_ne_true, absent⟩

theorem Inv.finishDisposal (inv : Inv state) (program : state.program = .finishDisposal :: rest) :
    Inv (finishDisposal rest state) := by
  have requested := inv.relies program
  refine @Inv.ends state _ _ rest [.shutdown] inv program rfl ⟨rfl, rfl, rfl⟩ rfl
    ⟨rfl, by rintro (h | h | h) <;> cases h⟩ ⟨inv.disk, inv.addresses, inv.lawful⟩ rfl ?_ requested
  intro step member
  rw [List.mem_singleton.mp member]
  exact ⟨rfl, requested⟩

end CheckNetwork.Android.RawShare
