import CheckNetwork.Runner.Outcome

/-!
# What each reading has established

The reads of `complete` and of `cutoff` happen one after another, and the
contexts they read may end between two of them.  This file records what is
known once each read has been made, in terms of the moment at which the path
began to observe.
-/

namespace CheckNetwork.Runner.RunState

open Diagnostic

variable {config : RunConfig} {state after : RunState} {slot : Nat} {task : Task} {claim : Claim}

/-- The caller gave up or the supervisor was shut down. -/
def Cancelled (state : RunState) : Prop :=
  state.parentErr.isSome ∨ state.supervisor.cancelled = true

def Returned (state : RunState) : Prop :=
  ∃ results, state.main = .returned results

/-- The run context exists. -/
def Begun (state : RunState) : Prop :=
  state.main = .launching ∨ 0 < state.launched

/-- Time has not run back since the observation, and cancellation never ends. -/
def Observed (state : RunState) (observation : Observation) : Prop :=
  observation.time ≤ state.now ∧ (observation.parentDone = true → state.parentErr.isSome) ∧
    (observation.serverDone = true → state.supervisor.cancelled = true)

def Observation.Uncancelled (observation : Observation) : Prop :=
  observation.parentDone = false ∧ observation.serverDone = false

/-- Kinds whose checkers have a deadline of their own. -/
def Bounded (config : RunConfig) (slot : Nat) : Prop :=
  (config.target slot).kind ≠ .traceroute

/-- What `complete` has established when it comes to a read. -/
def Passed (config : RunConfig) (state : RunState) (slot : Nat) (task : Task)
    (observation : Observation) : Reading → Prop
  | .parent => True
  | .server => observation.parentDone = false
  | .run => Observation.Uncancelled observation
  | .check => Observation.Uncancelled observation ∧ observation.time < state.runDeadline
  | .checkCancelled => Observation.Uncancelled observation ∧
      observation.time < state.runDeadline ∧
      (Bounded config slot → observation.time < task.checkDeadline)

/-- A deadline of the target has passed. -/
def Expired (config : RunConfig) (state : RunState) (slot : Nat) (task : Task) : Prop :=
  state.runDeadline ≤ state.now ∨ Bounded config slot ∧ task.checkDeadline ≤ state.now

def WorkerTimely (config : RunConfig) (state : RunState) (slot : Nat) (task : Task) :
    Worker → Prop
  | .completing completion reading => Observed state completion.observation ∧
      Passed config state slot task completion.observation reading
  | .claiming completion none =>
      Passed config state slot task completion.observation .checkCancelled
  | .claiming completion (some .timeout) =>
      Observation.Uncancelled completion.observation ∧ Expired config state slot task
  | .claiming _ (some .cancelled) => state.Cancelled ∨ state.Returned
  | _ => True

def CutoffTimely (state : RunState) : Cutoff → Prop
  | .readingParent observation => Observed state observation ∧
      (state.Cancelled ∨ state.runDeadline ≤ state.now ∨ state.Returned)
  | .readingServer observation => Observed state observation ∧ observation.parentDone = false ∧
      (state.supervisor.cancelled = true ∨ state.runDeadline ≤ state.now ∨ state.Returned)
  | .claiming observation .timeout => Observation.Uncancelled observation ∧
      (state.runDeadline ≤ state.now ∨ state.Returned)
  | .claiming _ .cancelled => state.Cancelled
  | _ => True

def ClaimTimely (config : RunConfig) (state : RunState) (slot : Nat) (task : Task)
    (claim : Claim) : Prop :=
  match claim.exit with
  | .capacity => True
  | .checker | .panic => claim.party = .completion ∧
      Passed config state slot task claim.observation .checkCancelled
  | .cutoff .timeout => Observation.Uncancelled claim.observation ∧
      (state.runDeadline ≤ state.now ∨
        claim.party = .completion ∧ Expired config state slot task)
  | .cutoff .cancelled => state.Cancelled

/-- What is known about one task. -/
structure TaskTimely (config : RunConfig) (state : RunState) (slot : Nat) (task : Task) :
    Prop where
  worker_expired : task.workerErr = some .deadlineExceeded → state.runDeadline ≤ state.now
  worker_cancelled : task.workerErr = some .canceled → state.Cancelled ∨ state.Returned
  check_expired : task.checkErr = some .deadlineExceeded → state.runDeadline ≤ state.now ∨
    task.checkDeadline ≤ state.now
  check_cancelled : task.checkErr = some .canceled → state.Cancelled ∨ state.Returned
  unchecked : task.worker.running = false → task.checkErr = none
  deadline_eq : task.worker.running = true →
    task.checkDeadline = config.checkDeadline slot state.runDeadline task.checkStarted
  worker : WorkerTimely config state slot task task.worker
  cutoff : ∀ source, CutoffTimely state (task.cutoff source)
  claim : ∀ claim, task.claim = some claim → ClaimTimely config state slot task claim
  claim_party : ∀ claim, task.claim = some claim → claim.party = .completion →
    task.worker.stage.claimed = true

/-- What is known about the context of the run. -/
structure ContextTimely (config : RunConfig) (state : RunState) : Prop where
  unstarted : state.main = .starting → state.runTimed = false
  parent_expired : state.parentErr = some .deadlineExceeded →
    ∃ deadline, config.parentDeadline = some deadline ∧ deadline ≤ state.now
  run_cause : state.runErr.isSome → state.parentErr.isSome ∨ state.main ≠ .starting
  opened : state.Begun → ∃ opened ≤ state.now,
    state.runDeadline = config.runDeadline opened ∧ state.runTimed = config.runTimed opened
  run_le : state.Begun → ∀ deadline, config.parentDeadline = some deadline →
    state.runDeadline ≤ deadline
  run_expired : state.Begun → state.runErr = some .deadlineExceeded →
    state.runDeadline ≤ state.now
  run_cancelled : state.runErr = some .canceled → state.parentErr.isSome ∨ state.Returned

/-! ## Facts that stay -/

/-- Contexts that have ended stay ended. -/
structure Later (state after : RunState) : Prop where
  now_le : state.now ≤ after.now
  parent : state.parentErr.isSome → after.parentErr.isSome
  server : state.supervisor.cancelled = true → after.supervisor.cancelled = true
  returned : state.Returned → after.Returned
  deadline_eq : after.runDeadline = state.runDeadline

namespace Later

variable (later : state.Later after)

include later

theorem cancelled (cancelled : state.Cancelled) : after.Cancelled :=
  cancelled.imp later.parent later.server

theorem expired (reached : state.runDeadline ≤ state.now) : after.runDeadline ≤ after.now := by
  rw [later.deadline_eq]
  exact reached.trans later.now_le

theorem observed {observation : Observation} (observed : state.Observed observation) :
    after.Observed observation :=
  ⟨observed.1.trans later.now_le, later.parent ∘ observed.2.1, later.server ∘ observed.2.2⟩

theorem passed {observation : Observation} {reading : Reading}
    (passed : Passed config state slot task observation reading) :
    Passed config after slot task observation reading := by
  cases reading with
  | parent | server | run => exact passed
  | check | checkCancelled =>
      simp only [Passed, later.deadline_eq] at passed ⊢
      exact passed

theorem taskExpired (expired : Expired config state slot task) :
    Expired config after slot task :=
  expired.imp later.expired (And.imp_right fun reached => reached.trans later.now_le)

theorem workerTimely {worker : Worker} (timely : WorkerTimely config state slot task worker) :
    WorkerTimely config after slot task worker := by
  cases worker with
  | completing completion reading => exact ⟨later.observed timely.1, later.passed timely.2⟩
  | claiming completion code =>
      rcases code with _ | _ | _
      · have passed : Passed config state slot task completion.observation .checkCancelled := timely
        exact later.passed passed
      · exact ⟨timely.1, later.taskExpired timely.2⟩
      · exact timely.imp later.cancelled later.returned
  | _ => trivial

theorem cutoffTimely {cutoff : Cutoff} (timely : CutoffTimely state cutoff) :
    CutoffTimely after cutoff := by
  cases cutoff with
  | readingParent observation =>
      exact ⟨later.observed timely.1,
        timely.2.imp later.cancelled (Or.imp later.expired later.returned)⟩
  | readingServer observation =>
      exact ⟨later.observed timely.1, timely.2.1,
        timely.2.2.imp later.server (Or.imp later.expired later.returned)⟩
  | claiming observation code =>
      cases code with
      | timeout => exact ⟨timely.1, timely.2.imp later.expired later.returned⟩
      | cancelled => exact later.cancelled timely
  | _ => trivial

theorem claimTimely (timely : ClaimTimely config state slot task claim) :
    ClaimTimely config after slot task claim := by
  unfold ClaimTimely at timely ⊢
  split at timely
  · trivial
  · exact ⟨timely.1, later.passed timely.2⟩
  · exact ⟨timely.1, later.passed timely.2⟩
  · exact ⟨timely.1, timely.2.imp later.expired (And.imp_right later.taskExpired)⟩
  · exact later.cancelled timely

theorem taskTimely (timely : TaskTimely config state slot task) :
    TaskTimely config after slot task where
  worker_expired ended := later.expired (timely.worker_expired ended)
  worker_cancelled ended := (timely.worker_cancelled ended).imp later.cancelled later.returned
  check_expired ended := (timely.check_expired ended).imp later.expired
    fun reached => reached.trans later.now_le
  check_cancelled ended := (timely.check_cancelled ended).imp later.cancelled later.returned
  unchecked := timely.unchecked
  deadline_eq := by rw [later.deadline_eq]; exact timely.deadline_eq
  worker := later.workerTimely timely.worker
  cutoff source := later.cutoffTimely (timely.cutoff source)
  claim claim found := later.claimTimely (timely.claim claim found)
  claim_party := timely.claim_party

end Later

theorem Interference.cancelled {supervisor : CheckerSupervisor}
    (interference : Interference config state supervisor)
    (cancelled : state.supervisor.cancelled = true) : supervisor.cancelled = true := by
  cases interference with
  | shutdown => rfl
  | acquire | release | mark => simpa using cancelled

theorem commit_fields (state : RunState) (slot : Nat) (task : Task) (claim : Claim) :
    (state.commit slot task claim).now = state.now ∧
      (state.commit slot task claim).parentErr = state.parentErr ∧
      (state.commit slot task claim).runErr = state.runErr ∧
      (state.commit slot task claim).runDeadline = state.runDeadline ∧
      (state.commit slot task claim).runTimed = state.runTimed ∧
      (state.commit slot task claim).main = state.main ∧
      (state.commit slot task claim).launched = state.launched ∧
      (state.commit slot task claim).supervisor.cancelled = state.supervisor.cancelled := by
  unfold commit
  split
  · exact ⟨rfl, rfl, rfl, rfl, rfl, rfl, rfl, rfl⟩
  · refine ⟨rfl, rfl, rfl, rfl, rfl, rfl, rfl, ?_⟩
    simp only [setTask]
    split <;> simp

/-- Once the run context exists, its deadline is fixed. -/
theorem Effect.later (effect : Effect config state after) (started : state.main ≠ .starting) :
    state.Later after := by
  have keep : ∀ {after : RunState}, after.now = state.now → after.parentErr = state.parentErr →
      (state.supervisor.cancelled = true → after.supervisor.cancelled = true) →
      (state.Returned → after.Returned) → after.runDeadline = state.runDeadline →
      state.Later after := by
    intro after now_eq parent_eq server returned deadline_eq
    exact ⟨now_eq.ge, by rw [parent_eq]; exact id, server, returned, deadline_eq⟩
  have notReturned : ∀ {main : Main} {after : RunState}, state.main = main →
      (∀ results, main ≠ .returned results) → state.Returned → after.Returned := by
    rintro main after main_eq different ⟨results, returned⟩
    exact absurd (main_eq.symm.trans returned) (different results)
  cases effect with
  | clock elapsed => exact ⟨by simp, id, id, id, rfl⟩
  | endParent => exact ⟨le_rfl, fun _ => rfl, id, id, rfl⟩
  | endRun | receive | task => exact keep rfl rfl id id rfl
  | interfere interference => exact keep rfl rfl interference.cancelled id rfl
  | reject starting | cancelAll starting | begin starting => exact absurd starting started
  | collect launching => exact keep rfl rfl id (notReturned launching (by simp)) rfl
  | finish collecting => exact keep rfl rfl id (fun _ => ⟨_, rfl⟩) rfl
  | release => exact keep rfl rfl (by simp [setTask]) id rfl
  | commit =>
      obtain ⟨now_eq, parent_eq, -, deadline_eq, -, main_eq, -, server_eq⟩ :=
        commit_fields state _ _ _
      refine keep now_eq parent_eq (by rw [server_eq]; exact id) ?_ deadline_eq
      rintro ⟨results, returned⟩
      exact ⟨results, main_eq.trans returned⟩
  | launch launching =>
      have server : state.supervisor.acquire.1.cancelled = state.supervisor.cancelled := by simp
      unfold launchSlot
      dsimp only
      split
      · rename_i supervisor acquired
        rw [acquired] at server
        exact keep rfl rfl (by rw [← server]; exact id) (notReturned launching (by simp)) rfl
      · rename_i supervisor lease acquired
        rw [acquired] at server
        exact keep rfl rfl (by rw [← server]; exact id) id rfl
  | @send slot party result ready held room =>
      cases party with
      | refusal =>
          simp only [atSend] at ready
          split at ready
          · rename_i refusing
            exact keep rfl rfl id (notReturned refusing (by simp)) rfl
          · cases ready
      | completion | cutoff => exact keep rfl rfl id id rfl

end CheckNetwork.Runner.RunState
