import CheckNetwork.Runner.Provenance

/-!
# Outcomes are delivered exactly once

A run refines exactly-once delivery: refusing a target or winning its claim
decides the slot, and the winner sends what it decided over the channel.
-/

namespace CheckNetwork.Runner.RunState

open Diagnostic Transition

variable {config : RunConfig} {state after : RunState} {slot : Nat} {task : Task} {claim : Claim}

/-- The outcome of a target once it is decided. -/
def decided (task : Task) : Option Result :=
  match task.refused with
  | some result => some result
  | none => task.claim.map Claim.result

/-- The delivery that a run carries out. -/
def delivery (config : RunConfig) (state : RunState) : Delivery Party Result where
  slots := config.slots
  decision slot := decided (state.tasks slot)
  holding slot := (state.tasks slot).publishing
  channel := state.channel
  results := state.results
  received := state.received

theorem delivery_initial (supervisor : CheckerSupervisor) :
    delivery config (initial config supervisor) = Delivery.empty config.slots :=
  rfl

theorem delivery_congr (tasks_eq : ∀ slot, decided (after.tasks slot) = decided (state.tasks slot) ∧
      (after.tasks slot).publishing = (state.tasks slot).publishing)
    (channel_eq : after.channel = state.channel) (results_eq : after.results = state.results)
    (received_eq : after.received = state.received) :
    delivery config after = delivery config state := by
  have decision_eq : (fun slot => decided (after.tasks slot)) = fun slot =>
      decided (state.tasks slot) := funext fun slot => (tasks_eq slot).1
  have holding_eq : (fun slot => (after.tasks slot).publishing) = fun slot =>
      (state.tasks slot).publishing := funext fun slot => (tasks_eq slot).2
  simp only [delivery, decision_eq, holding_eq, channel_eq, results_eq, received_eq]

variable (state) in
/-- A change of one task that neither decides nor sends. -/
theorem delivery_setTask (decided_eq : decided task = decided (state.tasks slot))
    (publishing_eq : task.publishing = (state.tasks slot).publishing)
    (tasks_eq : after.tasks = Function.update state.tasks slot task)
    (channel_eq : after.channel = state.channel) (results_eq : after.results = state.results)
    (received_eq : after.received = state.received) :
    delivery config after = delivery config state := by
  refine delivery_congr (fun other => ?_) channel_eq results_eq received_eq
  rw [tasks_eq, Function.update_apply]
  split
  · rename_i same
    rw [same]
    exact ⟨decided_eq, publishing_eq⟩
  · exact ⟨rfl, rfl⟩

/-- An undecided slot is decided by one of its parties. -/
theorem delivery_decide {party : Party} {result : Result} (below : slot < config.slots)
    (undecided : decided (state.tasks slot) = none)
    (decided_eq : decided task = some result)
    (publishing_eq : task.publishing =
      Function.update (state.tasks slot).publishing party (some result))
    (tasks_eq : after.tasks = Function.update state.tasks slot task)
    (channel_eq : after.channel = state.channel) (results_eq : after.results = state.results)
    (received_eq : after.received = state.received) :
    Delivery.next (delivery config state) (.decide slot party result) =
      some (delivery config after) := by
  have decision_eq : (fun slot => decided (after.tasks slot)) =
      Function.update (fun slot => decided (state.tasks slot)) slot (some result) := by
    funext other
    by_cases same : other = slot
    · subst same
      simp [tasks_eq, decided_eq]
    · simp [tasks_eq, same]
  have holding_eq : (fun slot => (after.tasks slot).publishing) =
      (delivery config state).setHolding slot party (some result) := by
    funext other
    unfold Delivery.setHolding
    by_cases same : other = slot
    · subst same
      simp [tasks_eq, publishing_eq, delivery]
    · simp [tasks_eq, same, delivery]
  have open_ : (delivery config state).decision slot = none := undecided
  have below' : slot < (delivery config state).slots := below
  simp only [Delivery.next, open_, if_pos below']
  simp only [delivery, decision_eq, holding_eq, channel_eq, results_eq, received_eq]

theorem delivery_send {party : Party} {result : Result}
    (held : (state.tasks slot).publishing party = some result)
    (room : state.channel.length < config.slots) :
    Delivery.next (delivery config state) (.send slot party) =
      some (delivery config
        (({ state.setTask slot (setPublishing (state.tasks slot) party none) with
            channel := state.channel ++ [(slot, result)] } : RunState).afterSend slot party)) := by
  have held' : (delivery config state).holding slot party = some result := held
  have room' : (delivery config state).channel.length < (delivery config state).slots := room
  simp only [Delivery.next, held', if_pos room']
  set sent := (({ state.setTask slot (setPublishing (state.tasks slot) party none) with
      channel := state.channel ++ [(slot, result)] } : RunState).afterSend slot party) with sent_eq
  have tasks_eq : sent.tasks = Function.update state.tasks slot
      (sentTask (state.tasks slot) party) := tasks_afterSend
  have decided_eq : decided (sentTask (state.tasks slot) party) = decided (state.tasks slot) := by
    cases party <;> rfl
  have decision_eq : (fun slot => decided (sent.tasks slot)) = fun slot =>
      decided (state.tasks slot) := by
    funext other
    rw [tasks_eq, Function.update_apply]
    split
    · rename_i same
      rw [same, decided_eq]
    · rfl
  have holding_eq : (fun slot => (sent.tasks slot).publishing) =
      (delivery config state).setHolding slot party none := by
    funext other holder
    unfold Delivery.setHolding
    by_cases same : other = slot
    · subst same
      simp [tasks_eq, publishing_sentTask, delivery, Function.update_apply]
    · simp [tasks_eq, same, delivery]
  have rest_eq : sent.channel = state.channel ++ [(slot, result)] ∧
      sent.results = state.results ∧ sent.received = state.received := by
    cases party <;> exact ⟨rfl, rfl, rfl⟩
  simp only [delivery, decision_eq, holding_eq, rest_eq]

theorem decided_of_unclaimed (coherent : task.Coherent) (leased : task.lease ≠ none)
    (unclaimed : task.claim = none) : decided task = none := by
  obtain ⟨lease, lease_eq⟩ := Option.ne_none_iff_exists'.mp leased
  simp [decided, coherent.refused_eq_none lease_eq, unclaimed]

theorem delivery_commit (shape : state.Shape config)
    (attempt : Attempt config state slot task claim) :
    delivery config (state.commit slot task claim) = delivery config state ∨
      ∃ op, Delivery.next (delivery config state) op =
        some (delivery config (state.commit slot task claim)) := by
  obtain ⟨lease_eq, refused_eq, claim_eq, publishing_eq, -⟩ := attempt.kept
  have coherent := shape.coherent slot
  have leased := attempt.leased coherent
  unfold commit
  split
  · refine .inl (delivery_setTask state ?_ publishing_eq rfl rfl rfl rfl)
    simp only [decided, refused_eq, claim_eq]
  · rename_i undecided
    rw [claim_eq] at undecided
    obtain ⟨lease, leased_eq⟩ := Option.ne_none_iff_exists'.mp leased
    have open_ := coherent.refused_eq_none leased_eq
    refine .inr ⟨.decide slot claim.party claim.result, delivery_decide
      ((shape.launched attempt.touched).trans_le shape.launched_le)
      (decided_of_unclaimed coherent leased undecided) ?_ ?_ rfl rfl rfl rfl⟩
    · simp [decided, setPublishing, refused_eq, open_]
    · simp only [setPublishing, publishing_eq]

/-- Every effect of a run leaves its delivery alone or is one of its steps. -/
theorem delivery_step (shape : state.Shape config) (effect : Effect config state after) :
    delivery config after = delivery config state ∨
      ∃ op, Delivery.next (delivery config state) op = some (delivery config after) := by
  cases effect with
  | clock | endParent | endRun | interfere | reject | begin | cancelAll | collect | finish =>
      exact .inl rfl
  | launch launching below =>
      have initial := shape.fresh state.launched le_rfl
      unfold launchSlot
      dsimp only
      split
      · refine .inr ⟨.decide state.launched .refusal
          (config.executionResult state.launched "checker_capacity_unavailable" state.now),
          delivery_decide below ?_ ?_ ?_ rfl rfl rfl rfl⟩
        · rw [initial]
          rfl
        · rfl
        · rw [initial]
          rfl
      · exact .inl (delivery_setTask state (by rw [initial]; rfl) (by rw [initial]) rfl rfl rfl rfl)
  | task changed =>
      obtain ⟨-, refused_eq, claim_eq, publishing_eq, -⟩ := changed.kept
      exact .inl (delivery_setTask state (by simp only [decided, refused_eq, claim_eq]) publishing_eq
        rfl rfl rfl rfl)
  | commit attempt => exact delivery_commit shape attempt
  | @release slot releasing =>
      refine .inl (delivery_setTask state ?_ ?_ rfl rfl rfl rfl) <;> rfl
  | send ready held room => exact .inr ⟨_, delivery_send held room⟩
  | receive collecting channel_eq waiting =>
      refine .inr ⟨.receive, ?_⟩
      have channel_eq' : (delivery config state).channel = _ := channel_eq
      simp only [Delivery.next, channel_eq']
      rfl

/-- A decision and a stored result are final. -/
theorem decided_final (shape : state.Shape config) (exact : (delivery config state).Exact)
    (effect : Effect config state after) :
    (∀ slot result, decided (state.tasks slot) = some result →
        decided (after.tasks slot) = some result) ∧
      ∀ slot result, state.results slot = some result → after.results slot = some result := by
  rcases delivery_step shape effect with same | ⟨op, stepped⟩
  · have decision_eq := congrArg Delivery.decision same
    have results_eq : after.results = state.results := congrArg Delivery.results same
    refine ⟨fun slot result found => ?_, fun slot result found => by rw [results_eq, found]⟩
    exact (congrFun decision_eq slot).trans found
  · exact ⟨fun slot result found => Delivery.next_decision stepped found,
      fun slot result found => Delivery.next_results exact stepped found⟩

/-- The winner of a claim is final. -/
theorem claim_final (shape : state.Shape config) (effect : Effect config state after)
    (claimed : (state.tasks slot).claim = some claim) :
    (after.tasks slot).claim = some claim := by
  have change := effect.change slot
  generalize after.tasks slot = task at change ⊢
  cases change with
  | same => exact claimed
  | task changed => exact changed.kept.2.2.1.trans claimed
  | lost attempt => exact attempt.kept.2.2.1.trans claimed
  | won attempt undecided =>
      have impossible := (attempt.kept.2.2.1.symm.trans undecided).symm.trans claimed
      cases impossible
  | release => exact claimed
  | @sent party => cases party <;> exact claimed
  | refused launched | spawned launched =>
      have initial := shape.fresh slot launched.ge
      simp [initial, Task.initial] at claimed

theorem reachable_claim_final {later : RunState} (shape : state.Shape config)
    (reachable : Reachable (next config) state later)
    (claimed : (state.tasks slot).claim = some claim) :
    later.Shape config ∧ (later.tasks slot).claim = some claim := by
  refine reachable.invariant
    (fun later => later.Shape config ∧ (later.tasks slot).claim = some claim)
    ⟨shape, claimed⟩ ?_
  intro middle action after held stepped
  have effect := Effect.of_next stepped
  exact ⟨held.1.step effect, claim_final held.1 effect held.2⟩

/-- What is stored for a claimed target is the claimed result. -/
theorem results_of_claim (shape : state.Shape config) (exact : (delivery config state).Exact)
    (claimed : (state.tasks slot).claim = some claim) {result : Result}
    (stored : state.results slot = some result) : result = claim.result := by
  have decided_eq : decided (state.tasks slot) = some result := exact.results_decision stored
  have leased := (shape.coherent slot).claim_lease (by simp [claimed])
  obtain ⟨lease, lease_eq⟩ := Option.ne_none_iff_exists'.mp leased
  simpa [decided, (shape.coherent slot).refused_eq_none lease_eq, claimed, eq_comm]
    using decided_eq

end CheckNetwork.Runner.RunState
