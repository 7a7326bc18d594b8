import CheckNetwork.Runner.Shape

/-!
# Where an outcome comes from

Every outcome of a target is a result its checker returned, the fixed result
of a recovered panic, or one of the fixed results of `executionResult`.
-/

namespace CheckNetwork.Runner.RunState

open Transition

variable {config : RunConfig} {state after : RunState} {slot : Nat} {task : Task} {claim : Claim}

def Completion.Genuine (config : RunConfig) (slot : Nat) (completion : Completion) : Prop :=
  if completion.panicked then
    ∃ started now, completion.result = config.panicResult slot started now
  else config.returns (config.target slot) completion.result = true

def Claim.Genuine (config : RunConfig) (slot : Nat) (claim : Claim) : Prop :=
  match claim.exit with
  | .capacity => False
  | .checker => claim.party = .completion ∧
      config.returns (config.target slot) claim.result = true
  | .panic => claim.party = .completion ∧
      ∃ started now, claim.result = config.panicResult slot started now
  | .cutoff code => claim.party ≠ .refusal ∧
      ∃ now, claim.result = config.executionResult slot code.text now

/-- The completion a checker's goroutine carries. -/
def Worker.completion? : Worker → Option Completion
  | .completing completion _ | .claiming completion _ => some completion
  | _ => none

structure TaskGenuine (config : RunConfig) (slot : Nat) (task : Task) : Prop where
  completion : ∀ completion, Worker.completion? task.worker = some completion →
    Completion.Genuine config slot completion
  claim : ∀ claim, task.claim = some claim → Claim.Genuine config slot claim
  refused : ∀ result, task.refused = some result →
    ∃ now, result = config.executionResult slot "checker_capacity_unavailable" now

theorem TaskGenuine.initial : TaskGenuine config slot Task.initial := by
  constructor <;> simp [Task.initial, Worker.completion?]

theorem completion?_observeStep (completion : Completion) (reading : Reading) :
    Worker.completion? (state.observeStep config slot task completion reading) =
      some completion := by
  cases reading <;> simp only [observeStep] <;> split <;> rfl

theorem Origin.genuine {completion : Completion} (origin : Origin config state slot completion) :
    Completion.Genuine config slot completion := by
  cases origin with
  | returned allowed => exact allowed
  | panicked => exact ⟨_, _, rfl⟩

/-- Losing a claim leaves what is known about the task. -/
theorem Attempt.genuine_lost (attempt : Attempt config state slot task claim)
    (genuine : TaskGenuine config slot (state.tasks slot)) : TaskGenuine config slot task := by
  cases attempt with
  | completion => exact { genuine with completion := fun _ impossible => by cases impossible }
  | cutoff => exact { genuine with }

theorem Attempt.genuine (attempt : Attempt config state slot task claim)
    (genuine : TaskGenuine config slot (state.tasks slot)) :
    Claim.Genuine config slot claim := by
  cases attempt with
  | @completion completion code claiming =>
      have known := genuine.completion completion (by simp [claiming, Worker.completion?])
      cases code with
      | some code => exact ⟨by simp [completionClaim], state.now, rfl⟩
      | none =>
          unfold Completion.Genuine at known
          split at known
          · rename_i panicked
            simpa [Claim.Genuine, completionClaim, Completion.exit, panicked] using known
          · rename_i returned
            simpa [Claim.Genuine, completionClaim, Completion.exit, returned] using known
  | cutoff => exact ⟨by simp [cutoffClaim], state.now, rfl⟩

theorem TaskGenuine.change (genuine : TaskGenuine config slot (state.tasks slot))
    (change : Change config state slot task) : TaskGenuine config slot task := by
  cases change with
  | same => exact genuine
  | task changed =>
      obtain ⟨-, refused_eq, claim_eq, -, -⟩ := changed.kept
      refine ⟨?_, by rw [claim_eq]; exact genuine.claim, by rw [refused_eq]; exact genuine.refused⟩
      intro completion found
      cases changed with
      | startCheck | stopCutoffs => cases found
      | endWorker | endCheck | fireCutoff | observeParent | observeServer =>
          exact genuine.completion completion found
      | complete checking origin =>
          cases Option.some.inj found
          exact origin.genuine
      | @observe observed reading completing =>
          have same := (completion?_observeStep observed reading).symm.trans found
          cases Option.some.inj same
          exact genuine.completion completion (by simp [completing, Worker.completion?])
  | lost attempt => exact attempt.genuine_lost genuine
  | won attempt undecided =>
      have known := attempt.genuine_lost genuine
      exact { known with
        claim := by
          intro other found
          cases Option.some.inj found
          exact attempt.genuine genuine }
  | release releasing =>
      refine ⟨?_, genuine.claim, genuine.refused⟩
      intro completion found
      dsimp only at found
      split at found <;> cases found
  | @sent party =>
      cases party with
      | completion => exact { genuine with completion := fun _ impossible => by cases impossible }
      | refusal | cutoff => exact { genuine with }
  | refused =>
      constructor
      · simp [setPublishing, Task.initial, Worker.completion?]
      · simp [setPublishing, Task.initial]
      · intro result found
        cases Option.some.inj found
        exact ⟨state.now, rfl⟩
  | spawned => constructor <;> simp [Task.initial, Worker.completion?]

theorem genuine_of_reachable {supervisor : CheckerSupervisor}
    (reachable : Reachable (next config) (RunState.initial config supervisor) state)
    (slot : Nat) : TaskGenuine config slot (state.tasks slot) := by
  refine reachable_of_effect (fun state => ∀ slot, TaskGenuine config slot (state.tasks slot))
    ?_ (fun _ _ genuine effect slot => (genuine slot).change (effect.change slot)) reachable slot
  exact fun _ => .initial

end CheckNetwork.Runner.RunState
