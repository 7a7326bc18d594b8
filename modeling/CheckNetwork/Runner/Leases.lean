import CheckNetwork.Runner.Shape

/-!
# The leases of a run

A lease belongs to one task, and is released in the supervisor exactly when
the goroutine of that task has come past its call of `release`.
-/

namespace CheckNetwork.Runner.RunState

open Transition

variable {config : RunConfig} {state after : RunState} {slot : Nat} {task : Task} {claim : Claim}

structure Leased (state : RunState) : Prop where
  accounting : state.supervisor.Accounting
  allocated : ∀ slot lease, (state.tasks slot).lease = some lease →
    lease < state.supervisor.nextLease
  distinct : ∀ slot other lease, (state.tasks slot).lease = some lease →
    (state.tasks other).lease = some lease → slot = other
  done_eq : ∀ slot lease, (state.tasks slot).lease = some lease →
    (state.supervisor.lease lease).done = (state.tasks slot).worker.stage.released

namespace Leased

theorem initial {supervisor : CheckerSupervisor} (accounting : supervisor.Accounting) :
    (RunState.initial config supervisor).Leased where
  accounting := accounting
  allocated _ _ impossible := by cases impossible
  distinct _ _ _ impossible := by cases impossible
  done_eq _ _ impossible := by cases impossible

/-- The supervisor works for others, or marks a lease. -/
theorem supervise (leased : state.Leased) {supervisor : CheckerSupervisor}
    (accounting : supervisor.Accounting)
    (nextLease_le : state.supervisor.nextLease ≤ supervisor.nextLease)
    (done_eq : ∀ slot lease, (state.tasks slot).lease = some lease →
      (supervisor.lease lease).done = (state.supervisor.lease lease).done) :
    ({ state with supervisor := supervisor } : RunState).Leased where
  accounting := accounting
  allocated slot lease found := (leased.allocated slot lease found).trans_le nextLease_le
  distinct := leased.distinct
  done_eq slot lease found := (done_eq slot lease found).trans (leased.done_eq slot lease found)

/-- Tasks change without getting or releasing a lease. -/
theorem congr (leased : state.Leased) (supervisor_eq : after.supervisor = state.supervisor)
    (tasks_eq : ∀ slot, (after.tasks slot).lease = (state.tasks slot).lease ∧
      (after.tasks slot).worker.stage.released = (state.tasks slot).worker.stage.released) :
    after.Leased where
  accounting := supervisor_eq ▸ leased.accounting
  allocated slot lease found := by
    rw [(tasks_eq slot).1] at found
    exact supervisor_eq ▸ leased.allocated slot lease found
  distinct slot other lease found found' := by
    rw [(tasks_eq slot).1] at found
    rw [(tasks_eq other).1] at found'
    exact leased.distinct slot other lease found found'
  done_eq slot lease found := by
    rw [(tasks_eq slot).1] at found
    rw [supervisor_eq, (tasks_eq slot).2]
    exact leased.done_eq slot lease found

theorem setTask (leased : state.Leased) (supervisor_eq : after.supervisor = state.supervisor)
    (tasks_eq : after.tasks = Function.update state.tasks slot task)
    (lease_eq : task.lease = (state.tasks slot).lease)
    (released_eq : task.worker.stage.released = (state.tasks slot).worker.stage.released) :
    after.Leased := by
  refine leased.congr supervisor_eq fun other => ?_
  rw [tasks_eq, Function.update_apply]
  split
  · rename_i same
    rw [same]
    exact ⟨lease_eq, released_eq⟩
  · exact ⟨rfl, rfl⟩

theorem interfere (leased : state.Leased) (shape : state.Shape config)
    {supervisor : CheckerSupervisor} (interference : Interference config state supervisor) :
    ({ state with supervisor := supervisor } : RunState).Leased := by
  cases interference with
  | shutdown =>
      exact leased.supervise leased.accounting.beginShutdown le_rfl fun _ _ _ => by simp
  | acquire =>
      exact leased.supervise leased.accounting.acquire
        (CheckerSupervisor.acquire_nextLease _) fun slot lease found =>
          CheckerSupervisor.acquire_done _ (leased.allocated slot lease found)
  | @release lease foreign allocated =>
      refine leased.supervise (leased.accounting.release (some lease) (by simpa using allocated))
        (by simp) fun slot other found => ?_
      have other_ne : other ≠ lease := by
        rintro rfl
        have touched : state.tasks slot ≠ Task.initial := by
          intro initial
          simp [initial, Task.initial] at found
        exact foreign ⟨slot, (shape.launched touched).trans_le shape.launched_le, found⟩
      simp [CheckerSupervisor.release_done, other_ne]
  | @mark lease foreign allocated =>
      exact leased.supervise
        (leased.accounting.markStuck (some lease) (by simpa using allocated)) (by simp)
        fun _ _ _ => by simp

theorem spawn (leased : state.Leased) (shape : state.Shape config)
    {supervisor : CheckerSupervisor} {lease : LeaseID}
    (acquired : state.supervisor.acquire = (supervisor, some lease))
    (supervisor_eq : after.supervisor = supervisor)
    (tasks_eq : after.tasks = Function.update state.tasks state.launched { Task.initial with
      lease := some lease, worker := .spawned, cutoff := fun _ => .armed }) : after.Leased := by
  obtain ⟨lease_eq, nextLease_eq, open_⟩ := CheckerSupervisor.acquire_eq_some _ acquired
  have accounting := leased.accounting.acquire
  have done_eq : ∀ slot other, (state.tasks slot).lease = some other →
      (supervisor.lease other).done = (state.supervisor.lease other).done := by
    intro slot other found
    have kept := CheckerSupervisor.acquire_done _ (leased.allocated slot other found)
    rwa [acquired] at kept
  rw [acquired] at accounting
  have fresh := shape.fresh state.launched le_rfl
  have owner : ∀ slot other, (after.tasks slot).lease = some other →
      (slot = state.launched ∧ other = lease) ∨
        (slot ≠ state.launched ∧ (state.tasks slot).lease = some other) := by
    intro slot other found
    rw [tasks_eq] at found
    by_cases same : slot = state.launched
    · subst same
      rw [Function.update_self] at found
      exact .inl ⟨rfl, (Option.some.inj found).symm⟩
    · rw [Function.update_of_ne same] at found
      exact .inr ⟨same, found⟩
  have old_lt : ∀ slot other, (state.tasks slot).lease = some other → other < lease :=
    fun slot other found => lease_eq ▸ leased.allocated slot other found
  constructor
  case accounting => exact supervisor_eq ▸ accounting
  case allocated =>
    intro slot other found
    rw [supervisor_eq, nextLease_eq]
    rcases owner slot other found with ⟨-, rfl⟩ | ⟨-, old⟩
    · exact Nat.lt_succ_self _
    · exact (old_lt slot other old).trans (Nat.lt_succ_self _)
  case distinct =>
    intro slot other shared found found'
    rcases owner slot shared found with ⟨rfl, rfl⟩ | ⟨-, old⟩
    · rcases owner other shared found' with ⟨rfl, -⟩ | ⟨-, old'⟩
      · rfl
      · exact absurd (old_lt other shared old') (lt_irrefl _)
    · rcases owner other shared found' with ⟨-, rfl⟩ | ⟨-, old'⟩
      · exact absurd (old_lt slot shared old) (lt_irrefl _)
      · exact leased.distinct slot other shared old old'
  case done_eq =>
    intro slot other found
    rw [supervisor_eq, tasks_eq]
    rcases owner slot other found with ⟨rfl, rfl⟩ | ⟨different, old⟩
    · rw [Function.update_self, open_]
      rfl
    · rw [Function.update_of_ne different, done_eq slot other old]
      exact leased.done_eq slot other old

theorem release (leased : state.Leased) (shape : state.Shape config)
    (releasing : (state.tasks slot).worker = .releasing) :
    (({ state with
        supervisor := state.supervisor.release (state.tasks slot).lease }.setTask slot
      { state.tasks slot with
        worker :=
          if ((state.tasks slot).publishing .completion).isSome then .sending else .exited
        releases := (state.tasks slot).releases + 1 }) : RunState).Leased := by
  obtain ⟨lease, lease_eq⟩ := (shape.coherent slot).lease_of_worker (by simp [releasing, Worker.stage])
  have allocated := leased.allocated slot lease lease_eq
  have keep : ∀ other, ((({ state with
        supervisor := state.supervisor.release (state.tasks slot).lease }.setTask slot
      { state.tasks slot with
        worker :=
          if ((state.tasks slot).publishing .completion).isSome then .sending else .exited
        releases := (state.tasks slot).releases + 1 }) : RunState).tasks other).lease =
      (state.tasks other).lease := by
    intro other
    simp only [RunState.setTask, Function.update_apply]
    split
    · rename_i same
      rw [same]
    · rfl
  constructor
  case accounting =>
    exact leased.accounting.release _ (by simpa [lease_eq] using allocated)
  case allocated =>
    intro other owned found
    rw [keep] at found
    simpa [RunState.setTask] using leased.allocated other owned found
  case distinct =>
    intro other another owned found found'
    rw [keep] at found found'
    exact leased.distinct other another owned found found'
  case done_eq =>
    intro other owned found
    rw [keep] at found
    simp only [RunState.setTask, lease_eq, CheckerSupervisor.release_done]
    by_cases same : other = slot
    · subst same
      cases Option.some.inj (lease_eq.symm.trans found)
      rw [Function.update_self]
      by_cases holds : ((state.tasks other).publishing .completion).isSome
      all_goals simp [holds, Worker.stage, Stage.released]
    · have owned_ne : owned ≠ lease := by
        rintro rfl
        exact same (leased.distinct other slot owned found lease_eq)
      rw [Function.update_of_ne same]
      simpa [owned_ne] using leased.done_eq other owned found

theorem commit (leased : state.Leased) (attempt : Attempt config state slot task claim) :
    (state.commit slot task claim).Leased := by
  obtain ⟨lease_eq, -, -, -, -⟩ := attempt.kept
  have released_eq : task.worker.stage.released = (state.tasks slot).worker.stage.released := by
    cases attempt with
    | completion claiming => rw [claiming]; rfl
    | cutoff => rfl
  have marked : ({ state with supervisor := state.supervisor.markStuck task.lease } :
      RunState).Leased := by
    refine leased.supervise (leased.accounting.markStuck _ ?_) (by simp) fun _ _ _ => by simp
    intro lease found
    exact leased.allocated slot lease (lease_eq.symm.trans found)
  unfold RunState.commit
  split
  · exact leased.setTask rfl rfl lease_eq released_eq
  · dsimp only
    split
    · exact marked.setTask rfl rfl lease_eq released_eq
    · exact leased.setTask rfl rfl lease_eq released_eq

theorem step (leased : state.Leased) (shape : state.Shape config)
    (effect : Effect config state after) : after.Leased := by
  cases effect with
  | clock | endParent | endRun | reject | cancelAll | begin | collect | receive | finish =>
      exact leased.congr rfl fun _ => ⟨rfl, rfl⟩
  | interfere interference => exact leased.interfere shape interference
  | launch launching below =>
      have initial := shape.fresh state.launched le_rfl
      unfold launchSlot
      dsimp only
      split
      · rename_i supervisor acquired
        have accounting := leased.accounting.acquire
        have nextLease_le := CheckerSupervisor.acquire_nextLease state.supervisor
        have done_eq := fun slot lease found =>
          CheckerSupervisor.acquire_done _ (leased.allocated slot lease found)
        rw [acquired] at accounting nextLease_le done_eq
        have supervised := leased.supervise accounting nextLease_le done_eq
        refine supervised.setTask rfl rfl ?_ ?_
        all_goals
          rw [initial]
          rfl
      · rename_i acquired
        exact leased.spawn shape acquired rfl rfl
  | @task slot task changed =>
      refine leased.setTask rfl rfl changed.kept.1 ?_
      cases changed with
      | startCheck found | complete found | stopCutoffs found =>
          rw [found]
          rfl
      | observe found =>
          rw [found]
          exact congrArg Stage.released (stage_observeStep _ _)
      | endWorker | endCheck | fireCutoff | observeParent | observeServer => rfl
  | commit attempt => exact leased.commit attempt
  | release releasing => exact leased.release shape releasing
  | @send slot party result ready held =>
      have supervisor_eq : ∀ {channel}, (({ state.setTask slot
          (setPublishing (state.tasks slot) party none) with channel := channel } :
          RunState).afterSend slot party).supervisor = state.supervisor := by
        cases party <;> exact rfl
      refine leased.setTask supervisor_eq tasks_afterSend ?_ ?_
      · cases party <;> rfl
      · cases party with
        | completion =>
            simp only [atSend] at ready
            split at ready
            · rename_i sending
              rw [sending]
              rfl
            · cases ready
        | refusal | cutoff => rfl

theorem of_reachable {supervisor : CheckerSupervisor} (accounting : supervisor.Accounting)
    (reachable : Reachable (next config) (RunState.initial config supervisor) state) :
    state.Leased := by
  have both := reachable_of_effect (fun state => state.Shape config ∧ state.Leased)
    ⟨.initial supervisor, .initial accounting⟩
    (fun _ _ held effect => ⟨held.1.step effect, held.2.step held.1 effect⟩) reachable
  exact both.2

end Leased

end CheckNetwork.Runner.RunState
