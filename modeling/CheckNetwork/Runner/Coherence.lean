import CheckNetwork.Runner.Effect

/-!
# The phases of a task

What the position of each goroutine of a target says about its lease, its
claim and the outcome it has to send.  The steps of the checker and of the
callbacks before a claim do not change the stage, so they keep every such fact
at once.
-/

namespace CheckNetwork.Runner

open Diagnostic

/-- How far the checker's goroutine is past its claim. -/
inductive Stage
  | absent | running | stopping | releasing | sending | exited
  deriving DecidableEq, Repr

def Worker.stage : Worker → Stage
  | absent => .absent
  | spawned | checking | completing _ _ | claiming _ _ => .running
  | stopping => .stopping
  | releasing => .releasing
  | sending => .sending
  | exited => .exited

def Stage.claimed : Stage → Bool
  | absent | running => false
  | _ => true

def Stage.released : Stage → Bool
  | sending | exited => true
  | _ => false

def Stage.publishes : Stage → Bool
  | stopping | releasing | sending => true
  | _ => false

inductive CutoffStage
  | absent | undecided | stopped | sending | finished
  deriving DecidableEq, Repr

def Cutoff.stage : Cutoff → CutoffStage
  | unregistered => .absent
  | armed | readingParent _ | readingServer _ | claiming _ _ => .undecided
  | stopped => .stopped
  | sending => .sending
  | finished => .finished

def CutoffStage.claimed : CutoffStage → Bool
  | absent | undecided => false
  | _ => true

@[simp]
theorem Worker.stage_eq_absent_iff {worker : Worker} : worker.stage = .absent ↔ worker = .absent := by
  cases worker <;> simp [stage]

@[simp]
theorem Worker.stage_eq_sending_iff {worker : Worker} :
    worker.stage = .sending ↔ worker = .sending := by
  cases worker <;> simp [stage]

@[simp]
theorem Cutoff.stage_eq_absent_iff {cutoff : Cutoff} :
    cutoff.stage = .absent ↔ cutoff = .unregistered := by
  cases cutoff <;> simp [stage]

@[simp]
theorem Cutoff.stage_eq_sending_iff {cutoff : Cutoff} :
    cutoff.stage = .sending ↔ cutoff = .sending := by
  cases cutoff <;> simp [stage]

@[simp]
theorem Cutoff.stop_eq_unregistered_iff {cutoff : Cutoff} :
    cutoff.stop = .unregistered ↔ cutoff = .unregistered := by
  cases cutoff <;> simp [stop]

@[simp]
theorem Cutoff.stop_eq_sending_iff {cutoff : Cutoff} :
    cutoff.stop = .sending ↔ cutoff = .sending := by
  cases cutoff <;> simp [stop]

namespace Task

/-- Facts about one task in every reachable state. -/
structure Coherent (task : Task) : Prop where
  refused_lease : task.refused.isSome → task.lease = none
  worker_absent : task.worker.stage = .absent ↔ task.lease = none
  cutoff_absent : ∀ source, (task.cutoff source).stage = .absent ↔ task.lease = none
  claim_lease : task.claim.isSome → task.lease ≠ none
  worker_claimed : task.worker.stage.claimed = true → task.claim.isSome
  cutoff_claimed : ∀ source, (task.cutoff source).stage.claimed = true → task.claim.isSome
  refusal_refused : (task.publishing .refusal).isSome → task.refused.isSome
  worker_publishes : (task.publishing .completion).isSome → task.worker.stage.publishes = true
  worker_sending : task.worker.stage = .sending → (task.publishing .completion).isSome
  cutoff_sending : ∀ source,
    (task.cutoff source).stage = .sending ↔ (task.publishing (.cutoff source)).isSome
  releases_eq : task.releases = if task.worker.stage.released then 1 else 0

namespace Coherent

variable {task after : Task}

theorem initial : Task.initial.Coherent := by
  constructor <;> simp [Task.initial, Worker.stage, Cutoff.stage, Stage.claimed,
    CutoffStage.claimed, Stage.released]

/-- Only the stages of the goroutines matter. -/
theorem of_stage (coherent : task.Coherent) (worker_eq : after.worker.stage = task.worker.stage)
    (cutoff_eq : ∀ source, (after.cutoff source).stage = (task.cutoff source).stage)
    (lease_eq : after.lease = task.lease) (refused_eq : after.refused = task.refused)
    (claim_eq : after.claim = task.claim) (publishing_eq : after.publishing = task.publishing)
    (releases_eq : after.releases = task.releases) : after.Coherent where
  refused_lease := by rw [refused_eq, lease_eq]; exact coherent.refused_lease
  worker_absent := by rw [worker_eq, lease_eq]; exact coherent.worker_absent
  cutoff_absent source := by rw [cutoff_eq, lease_eq]; exact coherent.cutoff_absent source
  claim_lease := by rw [claim_eq, lease_eq]; exact coherent.claim_lease
  worker_claimed := by rw [worker_eq, claim_eq]; exact coherent.worker_claimed
  cutoff_claimed source := by rw [cutoff_eq, claim_eq]; exact coherent.cutoff_claimed source
  refusal_refused := by rw [publishing_eq, refused_eq]; exact coherent.refusal_refused
  worker_publishes := by rw [publishing_eq, worker_eq]; exact coherent.worker_publishes
  worker_sending := by rw [publishing_eq, worker_eq]; exact coherent.worker_sending
  cutoff_sending source := by
    rw [publishing_eq, cutoff_eq]; exact coherent.cutoff_sending source
  releases_eq := by rw [releases_eq, worker_eq]; exact coherent.releases_eq

theorem refused (result : Result) : (RunState.setPublishing { Task.initial with
    refused := some result } .refusal (some result)).Coherent := by
  constructor <;> simp [RunState.setPublishing, Task.initial, Worker.stage, Cutoff.stage,
    Stage.claimed, CutoffStage.claimed, Stage.released, Function.update]

theorem spawned (lease : LeaseID) : ({ Task.initial with
    lease := some lease, worker := .spawned, cutoff := fun _ => .armed } : Task).Coherent := by
  constructor <;> simp [Task.initial, Worker.stage, Cutoff.stage, Stage.claimed,
    CutoffStage.claimed, Stage.released]

/-- A task whose worker has been started has a lease and was not refused. -/
theorem lease_of_worker (coherent : task.Coherent) (present : task.worker.stage ≠ .absent) :
    ∃ lease, task.lease = some lease :=
  Option.ne_none_iff_exists'.mp fun free => present (coherent.worker_absent.mpr free)

theorem refused_eq_none (coherent : task.Coherent) {lease : LeaseID}
    (leased : task.lease = some lease) : task.refused = none := by
  cases refused : task.refused with
  | none => rfl
  | some result => simp [coherent.refused_lease (by simp [refused])] at leased

end Coherent
end Task

namespace RunState

variable {config : RunConfig} {state after : RunState} {slot : Nat} {task : Task} {claim : Claim}

theorem stage_observeStep (completion : Completion) (reading : Reading) :
    (state.observeStep config slot task completion reading).stage = .running := by
  cases reading <;> simp only [observeStep] <;> split <;> rfl

theorem running_observeStep (completion : Completion) (reading : Reading) :
    (state.observeStep config slot task completion reading).running = true := by
  cases reading <;> simp only [observeStep] <;> split <;> rfl

theorem cutoff_setCutoff {source other : CutoffSource} {cutoff : Cutoff} :
    (setCutoff task source cutoff).cutoff other =
      if other = source then cutoff else task.cutoff other := by
  simp [setCutoff, Function.update_apply]

theorem publishing_setPublishing {party other : Party} {result : Option Result} :
    (setPublishing task party result).publishing other =
      if other = party then result else task.publishing other := by
  simp [setPublishing, Function.update_apply]

/-- Before a claim a task keeps its lease, its claim and its outcome. -/
theorem TaskEffect.kept (changed : TaskEffect config state slot task) :
    task.lease = (state.tasks slot).lease ∧ task.refused = (state.tasks slot).refused ∧
      task.claim = (state.tasks slot).claim ∧
      task.publishing = (state.tasks slot).publishing ∧
      task.releases = (state.tasks slot).releases := by
  cases changed <;> exact ⟨rfl, rfl, rfl, rfl, rfl⟩

theorem TaskEffect.coherent (changed : TaskEffect config state slot task)
    (coherent : (state.tasks slot).Coherent) : task.Coherent := by
  have keep : ∀ {after : Task}, TaskEffect config state slot after →
      after.worker.stage = (state.tasks slot).worker.stage →
      (∀ source, (after.cutoff source).stage = ((state.tasks slot).cutoff source).stage) →
      after.Coherent := by
    intro after changed worker_eq cutoff_eq
    obtain ⟨lease_eq, refused_eq, claim_eq, publishing_eq, releases_eq⟩ := changed.kept
    exact coherent.of_stage worker_eq cutoff_eq lease_eq refused_eq claim_eq publishing_eq
      releases_eq
  have keepCutoff : ∀ {source : CutoffSource} {cutoff : Cutoff},
      TaskEffect config state slot (setCutoff (state.tasks slot) source cutoff) →
      cutoff.stage = ((state.tasks slot).cutoff source).stage →
      (setCutoff (state.tasks slot) source cutoff).Coherent := by
    intro source cutoff changed stage_eq
    refine keep changed rfl fun other => ?_
    rw [cutoff_setCutoff]
    split
    · rename_i same
      rw [same, stage_eq]
    · rfl
  have source := changed
  cases changed with
  | startCheck spawned => exact keep source (by simp [Worker.stage, spawned]) fun _ => rfl
  | endWorker | endCheck => exact keep source rfl fun _ => rfl
  | complete checking => exact keep source (by simp [setWorker, Worker.stage, checking]) fun _ => rfl
  | observe completing =>
      refine keep source ?_ fun _ => rfl
      rw [completing]
      exact stage_observeStep _ _
  | fireCutoff armed => exact keepCutoff source (by simp [armed, Cutoff.stage])
  | observeParent reading =>
      exact keepCutoff source (by rw [reading]; split <;> rfl)
  | observeServer reading => exact keepCutoff source (by simp [reading, Cutoff.stage])
  | stopCutoffs stopping =>
      have claimed : (state.tasks slot).claim.isSome :=
        coherent.worker_claimed (by simp [stopping, Worker.stage, Stage.claimed])
      have old := coherent
      constructor
      case refused_lease => exact old.refused_lease
      case worker_absent =>
        have present := old.worker_absent
        rw [stopping] at present
        simpa [Worker.stage] using present
      case cutoff_absent =>
        intro other
        rw [← old.cutoff_absent other, Cutoff.stage_eq_absent_iff, Cutoff.stage_eq_absent_iff,
          Cutoff.stop_eq_unregistered_iff]
      case claim_lease => exact old.claim_lease
      case worker_claimed => exact fun _ => claimed
      case cutoff_claimed => exact fun _ _ => claimed
      case refusal_refused => exact old.refusal_refused
      case worker_publishes => exact fun _ => rfl
      case worker_sending => exact fun impossible => by cases impossible
      case cutoff_sending =>
        intro other
        rw [← old.cutoff_sending other, Cutoff.stage_eq_sending_iff, Cutoff.stage_eq_sending_iff,
          Cutoff.stop_eq_sending_iff]
      case releases_eq =>
        have released := old.releases_eq
        rw [stopping] at released
        exact released

/-- A caller of `claim` keeps all but its own position. -/
theorem Attempt.kept (attempt : Attempt config state slot task claim) :
    task.lease = (state.tasks slot).lease ∧ task.refused = (state.tasks slot).refused ∧
      task.claim = (state.tasks slot).claim ∧
      task.publishing = (state.tasks slot).publishing ∧
      task.releases = (state.tasks slot).releases := by
  cases attempt <;> exact ⟨rfl, rfl, rfl, rfl, rfl⟩

/-- Only a task that was granted a lease is claimed. -/
theorem Attempt.leased (attempt : Attempt config state slot task claim)
    (coherent : (state.tasks slot).Coherent) : (state.tasks slot).lease ≠ none := by
  intro free
  cases attempt with
  | completion claiming =>
      have absent := coherent.worker_absent.mpr free
      simp [claiming, Worker.stage] at absent
  | @cutoff source _ _ claiming =>
      have absent := (coherent.cutoff_absent source).mpr free
      simp [claiming, Cutoff.stage] at absent

/-- The losing caller of `claim` has nothing to send. -/
theorem Attempt.coherent_lost (attempt : Attempt config state slot task claim)
    (coherent : (state.tasks slot).Coherent) (decided : (state.tasks slot).claim.isSome) :
    task.Coherent := by
  have leased := attempt.leased coherent
  cases attempt with
  | completion claiming =>
      have unpublished : (state.tasks slot).publishing .completion = none := by
        have publishes := coherent.worker_publishes
        simpa [claiming, Worker.stage, Stage.publishes] using publishes
      have released := coherent.releases_eq
      rw [claiming] at released
      exact { coherent with
        worker_absent := by simpa [setWorker, Worker.stage] using leased
        worker_claimed := fun _ => decided
        worker_publishes := fun _ => rfl
        worker_sending := fun impossible => by cases impossible
        releases_eq := released }
  | @cutoff source _ _ claiming =>
      have undecided_ne : ((state.tasks slot).cutoff source).stage ≠ .sending := by
        simp [claiming]
      have open_ : ¬ (state.tasks slot).claim.isNone := by simp [Option.isNone_eq_false_iff.mpr decided]
      simp only [open_, Bool.false_eq_true, if_false]
      exact { coherent with
        cutoff_absent := by
          intro other
          rw [cutoff_setCutoff]
          split
          · simpa [Cutoff.stage, setCutoff] using leased
          · exact coherent.cutoff_absent other
        cutoff_claimed := fun _ _ => decided
        cutoff_sending := by
          intro other
          rw [cutoff_setCutoff]
          split
          · rename_i same
            rw [same]
            have silent := (coherent.cutoff_sending source).not.mp undecided_ne
            simpa [Cutoff.stage, setCutoff] using silent
          · exact coherent.cutoff_sending other }

/-- The winner of `claim` holds the outcome. -/
theorem Attempt.coherent_won (attempt : Attempt config state slot task claim)
    (coherent : (state.tasks slot).Coherent) (undecided : (state.tasks slot).claim = none) :
    (setPublishing { task with claim := some claim } claim.party
      (some claim.result)).Coherent := by
  have leased := attempt.leased coherent
  cases attempt with
  | @completion completion code claiming =>
      have party_eq : (state.completionClaim config slot completion code).party = .completion := by
        cases code <;> rfl
      have released := coherent.releases_eq
      rw [claiming] at released
      rw [party_eq]
      exact {
        refused_lease := coherent.refused_lease
        worker_absent := by simpa [setPublishing, setWorker, Worker.stage] using leased
        cutoff_absent := coherent.cutoff_absent
        claim_lease := fun _ => leased
        worker_claimed := fun _ => rfl
        cutoff_claimed := fun _ _ => rfl
        refusal_refused := by
          rw [publishing_setPublishing]
          exact coherent.refusal_refused
        worker_publishes := fun _ => rfl
        worker_sending := fun impossible => by cases impossible
        cutoff_sending := by
          intro other
          rw [publishing_setPublishing]
          exact coherent.cutoff_sending other
        releases_eq := released }
  | @cutoff source observation code claiming =>
      simp only [undecided, Option.isNone_none, if_true]
      exact {
        refused_lease := coherent.refused_lease
        worker_absent := coherent.worker_absent
        cutoff_absent := by
          intro other
          change ((setCutoff (state.tasks slot) source .sending).cutoff other).stage = .absent ↔ _
          rw [cutoff_setCutoff]
          split
          · simpa [Cutoff.stage, setPublishing, setCutoff] using leased
          · exact coherent.cutoff_absent other
        claim_lease := fun _ => leased
        worker_claimed := fun _ => rfl
        cutoff_claimed := fun _ _ => rfl
        refusal_refused := by
          rw [publishing_setPublishing]
          exact coherent.refusal_refused
        worker_publishes := by
          rw [publishing_setPublishing]
          exact coherent.worker_publishes
        worker_sending := by
          rw [publishing_setPublishing]
          exact coherent.worker_sending
        cutoff_sending := by
          intro other
          change ((setCutoff (state.tasks slot) source .sending).cutoff other).stage = .sending ↔ _
          rw [cutoff_setCutoff, publishing_setPublishing]
          by_cases same : other = source
          · simp [same, cutoffClaim, Cutoff.stage]
          · have different : Party.cutoff other ≠
                (state.cutoffClaim config slot source observation code).party := by
              simpa [cutoffClaim] using same
            simp only [same, different, if_false]
            exact coherent.cutoff_sending other
        releases_eq := coherent.releases_eq }

theorem coherent_release (coherent : (state.tasks slot).Coherent)
    (releasing : (state.tasks slot).worker = .releasing) :
    ({ state.tasks slot with
        worker :=
          if ((state.tasks slot).publishing .completion).isSome then .sending else .exited
        releases := (state.tasks slot).releases + 1 } : Task).Coherent := by
  have leased : (state.tasks slot).lease ≠ none := by
    intro free
    have absent := coherent.worker_absent.mpr free
    simp [releasing] at absent
  have claimed : (state.tasks slot).claim.isSome :=
    coherent.worker_claimed (by simp [releasing, Worker.stage, Stage.claimed])
  have released := coherent.releases_eq
  simp only [releasing, Worker.stage, Stage.released, Bool.false_eq_true, if_false] at released
  by_cases holds : ((state.tasks slot).publishing .completion).isSome
  · simp only [holds, if_true]
    exact { coherent with
      worker_absent := by simpa [Worker.stage] using leased
      worker_claimed := fun _ => claimed
      worker_publishes := fun _ => rfl
      worker_sending := fun _ => holds
      releases_eq := by simp [Worker.stage, Stage.released, released] }
  · simp only [holds, Bool.false_eq_true, if_false]
    exact { coherent with
      worker_absent := by simpa [Worker.stage] using leased
      worker_claimed := fun _ => claimed
      worker_publishes := fun impossible => absurd impossible holds
      worker_sending := fun impossible => by cases impossible
      releases_eq := by simp [Worker.stage, Stage.released, released] }

theorem publishing_sentTask {party other : Party} :
    (sentTask task party).publishing other =
      if other = party then none else task.publishing other := by
  cases party <;> exact publishing_setPublishing

theorem coherent_send {party : Party} (coherent : (state.tasks slot).Coherent)
    (ready : state.atSend slot party = true)
    (held : ((state.tasks slot).publishing party).isSome) :
    (sentTask (state.tasks slot) party).Coherent := by
  cases party with
  | refusal =>
      exact { coherent with
        refusal_refused := by simp [publishing_sentTask]
        worker_publishes := by
          rw [publishing_sentTask]
          exact coherent.worker_publishes
        worker_sending := by
          rw [publishing_sentTask]
          exact coherent.worker_sending
        cutoff_sending := by
          intro source
          rw [publishing_sentTask]
          exact coherent.cutoff_sending source }
  | completion =>
      have sending : (state.tasks slot).worker = .sending := by
        simp only [atSend] at ready
        split at ready
        · assumption
        · cases ready
      have leased : (state.tasks slot).lease ≠ none := by
        intro free
        have absent := coherent.worker_absent.mpr free
        simp [sending] at absent
      have claimed : (state.tasks slot).claim.isSome :=
        coherent.worker_claimed (by simp [sending, Worker.stage, Stage.claimed])
      have released := coherent.releases_eq
      rw [sending] at released
      exact { coherent with
        worker_absent := by
          simpa [sentTask, setWorker, setPublishing, Worker.stage] using leased
        worker_claimed := fun _ => claimed
        refusal_refused := by
          rw [publishing_sentTask]
          exact coherent.refusal_refused
        worker_publishes := by simp [publishing_sentTask]
        worker_sending := fun impossible => by cases impossible
        cutoff_sending := by
          intro source
          rw [publishing_sentTask]
          exact coherent.cutoff_sending source
        releases_eq := released }
  | cutoff source =>
      have sending : (state.tasks slot).cutoff source = .sending :=
        Cutoff.stage_eq_sending_iff.mp ((coherent.cutoff_sending source).mpr held)
      have leased : (state.tasks slot).lease ≠ none := by
        intro free
        have absent := (coherent.cutoff_absent source).mpr free
        simp [sending] at absent
      have claimed : (state.tasks slot).claim.isSome :=
        coherent.cutoff_claimed source (by simp [sending, Cutoff.stage, CutoffStage.claimed])
      exact { coherent with
        cutoff_absent := by
          intro other
          simp only [sentTask, cutoff_setCutoff]
          split
          · simpa [setCutoff, setPublishing, Cutoff.stage] using leased
          · exact coherent.cutoff_absent other
        cutoff_claimed := fun _ _ => claimed
        refusal_refused := by
          rw [publishing_sentTask]
          exact coherent.refusal_refused
        worker_publishes := by
          rw [publishing_sentTask]
          exact coherent.worker_publishes
        worker_sending := by
          rw [publishing_sentTask]
          exact coherent.worker_sending
        cutoff_sending := by
          intro other
          rw [publishing_sentTask]
          simp only [sentTask, cutoff_setCutoff]
          by_cases same : other = source
          · simp [same, Cutoff.stage]
          · have different : Party.cutoff other ≠ .cutoff source := by simpa using same
            simp only [same, different, if_false]
            exact coherent.cutoff_sending other }

end RunState
end CheckNetwork.Runner
