import CheckNetwork.Runner.Coherence

/-!
# The tasks of a run

Which slots have been launched, and what the goroutine of `RunWithID` may
still do to them.
-/

namespace CheckNetwork.Runner.RunState

open Diagnostic

variable {config : RunConfig} {state after : RunState} {slot : Nat} {task : Task} {claim : Claim}

/-- What the position of the launching goroutine says about the tasks. -/
def Placed (config : RunConfig) (state : RunState) : Prop :=
  match state.main with
  | .starting | .rejected _ => state.launched = 0
  | .launching => True
  | .refusing slot =>
      slot < state.launched ∧ ((state.tasks slot).publishing .refusal).isSome
  | .collecting => state.launched = config.slots
  | .returned _ => state.launched = 0 ∨ state.launched = config.slots

structure Shape (config : RunConfig) (state : RunState) : Prop where
  launched_le : state.launched ≤ config.slots
  fresh : ∀ slot, state.launched ≤ slot → state.tasks slot = Task.initial
  coherent : ∀ slot, (state.tasks slot).Coherent
  admitted : ∀ slot, slot < state.launched →
    (state.tasks slot).refused.isSome ∨ (state.tasks slot).lease.isSome
  placed : state.Placed config
  refusing : ∀ slot, ((state.tasks slot).publishing .refusal).isSome → state.main = .refusing slot

namespace Shape

theorem initial (supervisor : CheckerSupervisor) :
    (RunState.initial config supervisor).Shape config where
  launched_le := Nat.zero_le _
  fresh _ _ := rfl
  coherent _ := .initial
  admitted _ impossible := absurd impossible (Nat.not_lt_zero _)
  placed := rfl
  refusing _ impossible := by simp [RunState.initial, Task.initial] at impossible

/-- A slot whose task is not initial was launched. -/
theorem launched (shape : state.Shape config) (touched : state.tasks slot ≠ Task.initial) :
    slot < state.launched :=
  not_le.mp fun later => touched (shape.fresh slot later)

/-- A change of one launched task that keeps its lease and its refusal. -/
theorem setTask (shape : state.Shape config) (tasks_eq : after.tasks =
      Function.update state.tasks slot task)
    (launched_eq : after.launched = state.launched) (main_eq : after.main = state.main)
    (touched : state.tasks slot ≠ Task.initial) (coherent : task.Coherent)
    (lease_eq : task.lease = (state.tasks slot).lease)
    (refused_eq : task.refused = (state.tasks slot).refused)
    (refusal_eq : task.publishing .refusal = (state.tasks slot).publishing .refusal) :
    after.Shape config := by
  have same : ∀ {β : Type} (field : Task → β), field task = field (state.tasks slot) →
      ∀ other, field (after.tasks other) = field (state.tasks other) := by
    intro β field field_eq other
    rw [tasks_eq, Function.update_apply]
    split
    · rename_i equal
      rw [equal, field_eq]
    · rfl
  have leases := same Task.lease lease_eq
  have refusals := same Task.refused refused_eq
  have refusalsHeld := same (fun task => task.publishing .refusal) refusal_eq
  constructor
  case launched_le => exact launched_eq ▸ shape.launched_le
  case fresh =>
    intro other later
    rw [launched_eq] at later
    have other_ne : other ≠ slot := by
      rintro rfl
      exact touched (shape.fresh _ later)
    rw [tasks_eq, Function.update_of_ne other_ne]
    exact shape.fresh other later
  case coherent =>
    intro other
    rw [tasks_eq, Function.update_apply]
    split
    · exact coherent
    · exact shape.coherent other
  case admitted =>
    intro other below
    rw [leases, refusals]
    exact shape.admitted other (launched_eq ▸ below)
  case placed =>
    have placed := shape.placed
    unfold Placed at placed ⊢
    rw [main_eq]
    cases main : state.main with
    | refusing other =>
        rw [main] at placed
        simp only [refusalsHeld, launched_eq]
        exact placed
    | launching => trivial
    | starting | rejected | collecting | returned =>
        rw [main] at placed
        simpa only [launched_eq] using placed
  case refusing =>
    intro other holds
    rw [main_eq]
    exact shape.refusing other (refusalsHeld other ▸ holds)

theorem congr (shape : state.Shape config) (tasks_eq : after.tasks = state.tasks)
    (launched_eq : after.launched = state.launched) (main_eq : after.main = state.main) :
    after.Shape config where
  launched_le := launched_eq ▸ shape.launched_le
  fresh := by rw [launched_eq, tasks_eq]; exact shape.fresh
  coherent := tasks_eq ▸ shape.coherent
  admitted := by rw [launched_eq, tasks_eq]; exact shape.admitted
  placed := by
    have placed := shape.placed
    unfold Placed at placed ⊢
    rw [main_eq, launched_eq, tasks_eq]
    exact placed
  refusing := by rw [tasks_eq, main_eq]; exact shape.refusing

/-- The goroutine of `RunWithID` moves on while it has nothing to send. -/
theorem advance (shape : state.Shape config) (tasks_eq : after.tasks = state.tasks)
    (launched_eq : after.launched = state.launched)
    (idle : ∀ slot, state.main ≠ .refusing slot) (placed : after.Placed config) :
    after.Shape config where
  launched_le := launched_eq ▸ shape.launched_le
  fresh := by rw [launched_eq, tasks_eq]; exact shape.fresh
  coherent := tasks_eq ▸ shape.coherent
  admitted := by rw [launched_eq, tasks_eq]; exact shape.admitted
  placed := placed
  refusing := by
    rw [tasks_eq]
    exact fun slot holds => absurd (shape.refusing slot holds) (idle slot)

/-- One more slot is launched. -/
theorem launch (shape : state.Shape config) (below : state.launched < config.slots)
    (launching : state.main = .launching)
    (tasks_eq : after.tasks = Function.update state.tasks state.launched task)
    (launched_eq : after.launched = state.launched + 1) (coherent : task.Coherent)
    (admitted : task.refused.isSome ∨ task.lease.isSome)
    (main_eq : after.main = .launching ∧ task.publishing .refusal = none ∨
      after.main = .refusing state.launched ∧ (task.publishing .refusal).isSome) :
    after.Shape config where
  launched_le := by omega
  fresh := by
    intro slot later
    rw [tasks_eq, Function.update_of_ne (by omega)]
    exact shape.fresh slot (by omega)
  coherent := by
    intro slot
    rw [tasks_eq, Function.update_apply]
    split
    · exact coherent
    · exact shape.coherent slot
  admitted := by
    intro slot below
    rw [tasks_eq, Function.update_apply]
    split
    · exact admitted
    · exact shape.admitted slot (by omega)
  placed := by
    unfold Placed
    rcases main_eq with ⟨main_eq, -⟩ | ⟨main_eq, holds⟩
    · rw [main_eq]
      trivial
    · rw [main_eq]
      refine ⟨by omega, ?_⟩
      rw [tasks_eq, Function.update_self]
      exact holds
  refusing := by
    intro slot holds
    rw [tasks_eq, Function.update_apply] at holds
    split at holds
    · rename_i same
      rcases main_eq with ⟨-, silent⟩ | ⟨main_eq, -⟩
      · simp [silent] at holds
      · rw [main_eq, same]
    · have refusing := shape.refusing slot holds
      rw [launching] at refusing
      cases refusing

end Shape

theorem TaskEffect.touched (changed : TaskEffect config state slot task) :
    state.tasks slot ≠ Task.initial := by
  intro initial
  cases changed with
  | startCheck found | complete found | observe found | stopCutoffs found | endWorker found
  | endCheck found | fireCutoff found | observeParent found | observeServer found =>
      simp [initial, Task.initial, Worker.running] at found

theorem Attempt.touched (attempt : Attempt config state slot task claim) :
    state.tasks slot ≠ Task.initial := by
  intro initial
  cases attempt with
  | completion found | cutoff found => simp [initial, Task.initial] at found

/-- The only refusal that can be sent is that of the slot being refused. -/
theorem sent_touched {party : Party} {result : Result}
    (held : (state.tasks slot).publishing party = some result) :
    state.tasks slot ≠ Task.initial := by
  intro initial
  simp [initial, Task.initial] at held

theorem Shape.commit (shape : state.Shape config)
    (attempt : Attempt config state slot task claim) :
    (state.commit slot task claim).Shape config := by
  obtain ⟨lease_eq, refused_eq, claim_eq, publishing_eq, -⟩ := attempt.kept
  have coherent := shape.coherent slot
  unfold RunState.commit
  split
  · rename_i decided
    rw [claim_eq] at decided
    exact shape.setTask rfl rfl rfl attempt.touched
      (attempt.coherent_lost coherent (by simp [decided])) lease_eq refused_eq
      (by rw [publishing_eq])
  · rename_i undecided
    rw [claim_eq] at undecided
    refine shape.setTask rfl rfl rfl attempt.touched (attempt.coherent_won coherent undecided)
      lease_eq refused_eq ?_
    have party_ne : Party.refusal ≠ claim.party := by
      cases attempt with
      | @completion _ code _ => cases code <;> simp [completionClaim]
      | cutoff => simp [cutoffClaim]
    rw [publishing_setPublishing, if_neg party_ne]
    exact congrFun publishing_eq _

theorem Shape.send (shape : state.Shape config) {party : Party} {result : Result}
    {channel : List (Nat × Result)} (ready : state.atSend slot party = true)
    (held : (state.tasks slot).publishing party = some result) :
    (({ state.setTask slot (setPublishing (state.tasks slot) party none) with
        channel := channel } : RunState).afterSend slot party).Shape config := by
  have touched := sent_touched held
  have coherent := coherent_send (shape.coherent slot) ready (by simp [held])
  have keep : ∀ {party : Party}, party ≠ .refusal →
      (sentTask (state.tasks slot) party).Coherent →
      ((({ state.setTask slot (setPublishing (state.tasks slot) party none) with
        channel := channel } : RunState).afterSend slot party).main = state.main) →
      ((({ state.setTask slot (setPublishing (state.tasks slot) party none) with
        channel := channel } : RunState).afterSend slot party).launched = state.launched) →
      (({ state.setTask slot (setPublishing (state.tasks slot) party none) with
        channel := channel } : RunState).afterSend slot party).Shape config := by
    intro party other coherent main_eq launched_eq
    refine shape.setTask tasks_afterSend launched_eq main_eq touched coherent ?_ ?_ ?_
    · cases party <;> rfl
    · cases party <;> rfl
    · rw [publishing_sentTask, if_neg other.symm]
  cases party with
  | completion => exact keep (by simp) coherent rfl rfl
  | cutoff source => exact keep (by simp) coherent rfl rfl
  | refusal =>
      have refusing := shape.refusing slot (by simp [held])
      have launched := shape.launched touched
      constructor
      case launched_le => exact shape.launched_le
      case fresh =>
        intro other later
        have other_ne : other ≠ slot := by
          rintro rfl
          exact absurd launched (not_lt.mpr later)
        rw [tasks_afterSend, Function.update_of_ne other_ne]
        exact shape.fresh other later
      case coherent =>
        intro other
        rw [tasks_afterSend, Function.update_apply]
        split
        · exact coherent
        · exact shape.coherent other
      case admitted =>
        intro other below
        rw [tasks_afterSend, Function.update_apply]
        split
        · exact shape.admitted slot launched
        · exact shape.admitted other below
      case placed => trivial
      case refusing =>
        intro other holds
        rw [tasks_afterSend, Function.update_apply] at holds
        split at holds
        · simp [publishing_sentTask] at holds
        · rename_i other_ne
          have both := (shape.refusing other holds).symm.trans refusing
          cases both
          exact absurd rfl other_ne

theorem Shape.step (shape : state.Shape config) (effect : Effect config state after) :
    after.Shape config := by
  cases effect with
  | clock | endParent | endRun | interfere | receive => exact shape.congr rfl rfl rfl
  | reject starting | begin starting | cancelAll starting =>
      have placed := shape.placed
      unfold Placed at placed
      rw [starting] at placed
      refine shape.advance rfl rfl (by simp [starting]) ?_
      first | trivial | exact placed | exact .inl placed
  | collect launching all =>
      exact shape.advance rfl rfl (by simp [launching]) (shape.launched_le.antisymm all)
  | finish collecting =>
      have placed := shape.placed
      unfold Placed at placed
      rw [collecting] at placed
      exact shape.advance rfl rfl (by simp [collecting]) (.inr placed)
  | launch launching below =>
      unfold launchSlot
      dsimp only
      split
      · exact shape.launch below launching rfl rfl (.refused _) (.inl rfl) (.inr ⟨rfl, rfl⟩)
      · rename_i lease _
        exact shape.launch below launching rfl rfl (.spawned lease) (.inr rfl)
          (.inl ⟨launching, rfl⟩)
  | @task slot task changed =>
      obtain ⟨lease_eq, refused_eq, -, publishing_eq, -⟩ := changed.kept
      exact shape.setTask rfl rfl rfl changed.touched (changed.coherent (shape.coherent slot))
        lease_eq refused_eq (by rw [publishing_eq])
  | commit attempt => exact shape.commit attempt
  | @release slot releasing =>
      have touched : state.tasks slot ≠ Task.initial := by
        intro initial
        simp [initial, Task.initial] at releasing
      exact shape.setTask rfl rfl rfl touched (coherent_release (shape.coherent slot) releasing)
        rfl rfl rfl
  | send ready held => exact shape.send ready held

end CheckNetwork.Runner.RunState
