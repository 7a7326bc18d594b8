import CheckNetwork.Runner.Timing

/-!
# Cancellation, then the report deadline, then the checker's

A checker's result is published only for a completion that was observed before
every deadline and before cancellation, and a cutoff is published under the
code of the first cause that applied.
-/

namespace CheckNetwork.Runner.RunState

open Diagnostic Transition

variable {config : RunConfig} {state after : RunState} {slot : Nat} {task : Task} {claim : Claim}

namespace ContextTimely

theorem initial (supervisor : CheckerSupervisor) :
    (RunState.initial config supervisor).ContextTimely config := by
  constructor <;> simp [RunState.initial, Begun]

theorem congr (timely : state.ContextTimely config) (now_eq : after.now = state.now)
    (parent_eq : after.parentErr = state.parentErr) (run_eq : after.runErr = state.runErr)
    (deadline_eq : after.runDeadline = state.runDeadline)
    (timed_eq : after.runTimed = state.runTimed)
    (starting : after.main = .starting → state.main = .starting)
    (begun : after.Begun → state.Begun) (returned : state.Returned → after.Returned) :
    after.ContextTimely config where
  unstarted started := timed_eq.trans (timely.unstarted (starting started))
  parent_expired := by rw [parent_eq, now_eq]; exact timely.parent_expired
  run_cause := by
    rw [run_eq, parent_eq]
    exact fun ended => (timely.run_cause ended).imp_right (mt starting)
  opened started := by rw [deadline_eq, now_eq, timed_eq]; exact timely.opened (begun started)
  run_le started := by rw [deadline_eq]; exact timely.run_le (begun started)
  run_expired started := by
    rw [run_eq, deadline_eq, now_eq]
    exact timely.run_expired (begun started)
  run_cancelled := by
    rw [run_eq, parent_eq]
    exact fun ended => (timely.run_cancelled ended).imp_right returned

/-- An idle context that is created now has not ended. -/
theorem runErr_none (timely : state.ContextTimely config) (starting : state.main = .starting)
    (open_ : state.parentErr = none) : state.runErr = none := by
  cases ended : state.runErr with
  | none => rfl
  | some error =>
      rcases timely.run_cause (by simp [ended]) with done | started
      · simp [open_] at done
      · exact absurd starting started

theorem step (timely : state.ContextTimely config) (shape : state.Shape config)
    (effect : Effect config state after) : after.ContextTimely config := by
  cases effect with
  | clock elapsed =>
      constructor
      case unstarted => exact timely.unstarted
      case parent_expired =>
        intro ended
        obtain ⟨deadline, deadline_eq, reached⟩ := timely.parent_expired ended
        exact ⟨deadline, deadline_eq, reached.trans (by simp)⟩
      case run_cause => exact timely.run_cause
      case opened =>
        intro begun
        obtain ⟨opened, past, same⟩ := timely.opened begun
        exact ⟨opened, past.trans (by simp), same⟩
      case run_le => exact timely.run_le
      case run_expired => exact fun begun ended => (timely.run_expired begun ended).trans (by simp)
      case run_cancelled => exact timely.run_cancelled
  | @endParent error running cause =>
      constructor
      case unstarted => exact timely.unstarted
      case parent_expired => exact fun ended => cause (Option.some.inj ended)
      case run_cause => exact fun _ => .inl rfl
      case opened => exact timely.opened
      case run_le => exact timely.run_le
      case run_expired => exact timely.run_expired
      case run_cancelled => exact fun _ => .inl rfl
  | @endRun error running cause =>
      constructor
      case unstarted => exact timely.unstarted
      case parent_expired => exact timely.parent_expired
      case run_cause =>
        intro _
        rcases cause with parent_eq | ⟨-, timed, -⟩
        · exact .inl (by simp [parent_eq])
        · refine .inr fun starting => ?_
          simp [timely.unstarted starting] at timed
      case opened => exact timely.opened
      case run_le => exact timely.run_le
      case run_expired =>
        intro begun ended
        cases Option.some.inj ended
        rcases cause with parent_eq | ⟨-, -, reached⟩
        · obtain ⟨deadline, deadline_eq, reached⟩ := timely.parent_expired parent_eq
          exact (timely.run_le begun deadline deadline_eq).trans reached
        · exact reached
      case run_cancelled =>
        intro ended
        cases Option.some.inj ended
        rcases cause with parent_eq | ⟨impossible, -⟩
        · exact .inl (by simp [parent_eq])
        · cases impossible
  | interfere | receive | task | release => exact timely.congr rfl rfl rfl rfl rfl id id id
  | reject starting =>
      refine timely.congr rfl rfl rfl rfl rfl (by simp)
        (Or.imp_left fun impossible => by cases impossible) ?_
      rintro ⟨results, returned⟩
      cases starting.symm.trans returned
  | cancelAll starting =>
      exact timely.congr rfl rfl rfl rfl rfl (by simp)
        (Or.imp_left fun impossible => by cases impossible) fun _ => ⟨_, rfl⟩
  | begin starting accepted open_ =>
      have run_none := timely.runErr_none starting open_
      constructor
      case unstarted => exact fun impossible => by cases impossible
      case parent_expired => exact timely.parent_expired
      case run_cause => exact fun _ => .inr (by simp)
      case opened => exact fun _ => ⟨state.now, le_rfl, rfl, rfl⟩
      case run_le =>
        intro _ deadline deadline_eq
        simp only [RunConfig.runDeadline, deadline_eq]
        exact min_le_left _ _
      case run_expired => simp [run_none]
      case run_cancelled => simp [run_none]
  | launch launching =>
      have begun : state.Begun := .inl launching
      have notReturned : ¬ state.Returned := by
        rintro ⟨results, returned⟩
        cases launching.symm.trans returned
      unfold launchSlot
      dsimp only
      split
      · exact timely.congr rfl rfl rfl rfl rfl (by simp [setTask]) (fun _ => begun)
          fun returned => absurd returned notReturned
      · exact timely.congr rfl rfl rfl rfl rfl (by simp [setTask]) (fun _ => begun)
          fun returned => absurd returned notReturned
  | collect launching =>
      refine timely.congr rfl rfl rfl rfl rfl (by simp) (fun _ => .inl launching) ?_
      rintro ⟨results, returned⟩
      cases launching.symm.trans returned
  | commit =>
      obtain ⟨now_eq, parent_eq, run_eq, deadline_eq, timed_eq, main_eq, launched_eq, -⟩ :=
        commit_fields state _ _ _
      refine timely.congr now_eq parent_eq run_eq deadline_eq timed_eq (by rw [main_eq]; exact id)
        (by rw [Begun, Begun, main_eq, launched_eq]; exact id) ?_
      rintro ⟨results, returned⟩
      exact ⟨results, main_eq.trans returned⟩
  | @send slot party result ready held =>
      cases party with
      | refusal =>
          have refusing := shape.refusing slot (by simp [held])
          have launched := shape.launched (sent_touched held)
          refine timely.congr rfl rfl rfl rfl rfl (by simp [afterSend])
            (fun _ => .inr (Nat.zero_lt_of_lt launched)) ?_
          rintro ⟨results, returned⟩
          cases refusing.symm.trans returned
      | completion | cutoff => exact timely.congr rfl rfl rfl rfl rfl id id id
  | finish collecting =>
      constructor
      case unstarted => exact fun impossible => by cases impossible
      case parent_expired => exact timely.parent_expired
      case run_cause => exact fun _ => .inr (by simp)
      case opened =>
        intro begun
        rcases begun with impossible | launched
        · cases impossible
        · exact timely.opened (.inr launched)
      case run_le =>
        intro begun
        rcases begun with impossible | launched
        · cases impossible
        · exact timely.run_le (.inr launched)
      case run_expired =>
        intro begun ended
        rcases begun with impossible | launched
        · cases impossible
        · refine timely.run_expired (.inr launched) ?_
          dsimp only at ended
          split at ended
          · exact ended
          · cases ended
      case run_cancelled => exact fun _ => .inr ⟨_, rfl⟩

end ContextTimely

/-! ## Every started slot is decided before the run returns -/

/-- What is returned: the cancellation of every target, or the decision of
every target. -/
def Settled (config : RunConfig) (state : RunState) : Prop :=
  ∀ results, state.main = .returned results →
    (state.launched = 0 ∧ ∃ now, results = (List.range config.slots).map fun slot =>
      config.executionResult slot "cancelled" now) ∨
    (state.launched = config.slots ∧ results.length = config.slots ∧
      ∀ slot < config.slots, ∃ result, results[slot]? = some result ∧
        decided (state.tasks slot) = some result)

theorem Settled.decided (settled : state.Settled config) (returned : state.Returned)
    (launched : slot < state.launched) : decided (state.tasks slot) ≠ none := by
  obtain ⟨results, returned⟩ := returned
  rcases settled results returned with ⟨none_launched, -⟩ | ⟨all_launched, -, known⟩
  · omega
  · obtain ⟨result, -, decision⟩ := known slot (all_launched ▸ launched)
    simp [decision]

theorem settled_finish (shape : state.Shape config) (exact : (delivery config state).Exact)
    (collecting : state.main = .collecting) (all : state.received = config.slots) {runErr} :
    ({ state with main := .returned (state.collected config), runErr := runErr } :
      RunState).Settled config := by
  intro results returned
  cases returned
  have placed := shape.placed
  unfold Placed at placed
  rw [collecting] at placed
  refine .inr ⟨placed, by simp [collected], fun slot below => ?_⟩
  obtain ⟨result, stored⟩ := exact.complete all below
  have stored' : state.results slot = some result := stored
  refine ⟨result, ?_, exact.results_decision stored⟩
  simp [collected, stored', below]

theorem Settled.step (settled : state.Settled config) (shape : state.Shape config)
    (exact : (delivery config state).Exact) (effect : Effect config state after) :
    after.Settled config := by
  have kept := (decided_final shape exact effect).1
  have keep : (∀ results, after.main = .returned results → state.main = .returned results) →
      after.launched = state.launched → after.Settled config := by
    intro returned launched_eq results done
    rcases settled results (returned results done) with early | ⟨launched, length_eq, known⟩
    · exact .inl (launched_eq ▸ early)
    · refine .inr ⟨launched_eq.trans launched, length_eq, fun slot below => ?_⟩
      obtain ⟨result, found, decision⟩ := known slot below
      exact ⟨result, found, kept slot result decision⟩
  have running : ∀ {main : Main}, after.main = main → (∀ results, main ≠ .returned results) →
      after.Settled config := by
    intro main main_eq different results returned
    exact absurd (main_eq.symm.trans returned) (different results)
  cases effect with
  | clock | endParent | endRun | interfere | receive | task | release =>
      exact keep (fun _ => id) rfl
  | reject | begin | collect => exact running rfl (by simp)
  | cancelAll starting =>
      intro results returned
      cases returned
      have placed := shape.placed
      unfold Placed at placed
      rw [starting] at placed
      exact .inl ⟨placed, state.now, rfl⟩
  | launch launching =>
      revert running
      unfold launchSlot
      dsimp only
      split
      · exact fun running => running (rfl : _ = Main.refusing state.launched) (by simp)
      · exact fun running => running launching (by simp)
  | commit =>
      obtain ⟨-, -, -, -, -, main_eq, launched_eq, -⟩ := commit_fields state _ _ _
      exact keep (fun results returned => main_eq.symm.trans returned) launched_eq
  | @send slot party result ready held =>
      cases party with
      | refusal => exact running (rfl : _ = Main.launching) (by simp)
      | completion | cutoff => exact keep (fun _ => id) rfl
  | finish collecting all => exact settled_finish shape exact collecting all

/-! ## The reads of a task -/

theorem observed_observation : state.Observed state.observation :=
  ⟨le_rfl, id, id⟩

/-- `deadlineReached` at an instant of the past. -/
theorem le_now_of_deadlineReached {error : Option ContextError} {deadline completedAt : Int}
    (reached : deadlineReached error deadline completedAt = true)
    (past : completedAt ≤ state.now) :
    error = some .deadlineExceeded ∨ deadline ≤ state.now := by
  simp only [deadlineReached, Bool.or_eq_true, decide_eq_true_eq] at reached
  exact reached.imp id past.trans'

theorem lt_of_not_deadlineReached {error : Option ContextError} {deadline completedAt : Int}
    (open_ : ¬ deadlineReached error deadline completedAt = true) : completedAt < deadline := by
  simp only [deadlineReached, Bool.or_eq_true, decide_eq_true_eq, not_or] at open_
  exact not_le.mp open_.2

theorem CutoffTimely.stop {cutoff : Cutoff} (timely : CutoffTimely state cutoff) :
    CutoffTimely state cutoff.stop := by
  cases cutoff with
  | armed => trivial
  | _ => exact timely

namespace TaskTimely

theorem initial : TaskTimely config state slot Task.initial := by
  constructor <;> simp [Task.initial, WorkerTimely, CutoffTimely, Worker.running]

/-- The cutoff of one source moves on. -/
theorem setCutoff (timely : TaskTimely config state slot task) {source : CutoffSource}
    {cutoff : Cutoff} (moved : CutoffTimely state cutoff) :
    TaskTimely config state slot (RunState.setCutoff task source cutoff) :=
  { timely with
    cutoff := by
      intro other
      rw [cutoff_setCutoff]
      split
      · exact moved
      · exact timely.cutoff other }

/-- The worker moves on, having started its checker. -/
theorem setWorker (timely : TaskTimely config state slot task) {worker : Worker}
    (was : task.worker.running = true) (moved : WorkerTimely config state slot task worker)
    (running : worker.running = true)
    (claimed : task.worker.stage.claimed = true → worker.stage.claimed = true) :
    TaskTimely config state slot (RunState.setWorker task worker) :=
  { timely with
    unchecked := fun idle => by simp [RunState.setWorker, running] at idle
    deadline_eq := fun _ => timely.deadline_eq was
    worker := moved
    claim_party := fun claim found party =>
      claimed (timely.claim_party claim found party) }

theorem startCheck (timely : TaskTimely config state slot task)
    (spawned : task.worker = .spawned) :
    TaskTimely config state slot { task with
      worker := .checking
      checkStarted := state.now
      checkDeadline := config.checkDeadline slot state.runDeadline state.now
      checkTimed := config.checkTimed slot state.runDeadline state.now } := by
  have notCompletion : ∀ claim, task.claim = some claim → claim.party ≠ .completion := by
    intro claim found party
    simpa [spawned, Worker.stage, Stage.claimed] using timely.claim_party claim found party
  have unchecked := timely.unchecked (by simp [spawned, Worker.running])
  exact {
    worker_expired := timely.worker_expired
    worker_cancelled := timely.worker_cancelled
    check_expired := by simp [unchecked]
    check_cancelled := by simp [unchecked]
    unchecked := fun _ => unchecked
    deadline_eq := fun _ => rfl
    worker := trivial
    cutoff := timely.cutoff
    claim := by
      intro claim found
      have known := timely.claim claim found
      have other := notCompletion claim found
      unfold ClaimTimely at known ⊢
      split at known
      · trivial
      · exact absurd known.1 other
      · exact absurd known.1 other
      · exact ⟨known.1, .inl (known.2.resolve_right fun both => other both.1)⟩
      · exact known
    claim_party := fun claim found party => absurd party (notCompletion claim found) }

/-- One read of `complete`. -/
theorem observe (timely : TaskTimely config state slot task) {completion : Completion}
    {reading : Reading} (completing : task.worker = .completing completion reading)
    (context : state.ContextTimely config) (begun : state.Begun) :
    WorkerTimely config state slot task
      (state.observeStep config slot task completion reading) := by
  have known := timely.worker
  rw [completing] at known
  obtain ⟨observed, passed⟩ := known
  cases reading with
  | parent =>
      simp only [observeStep]
      split
      · rename_i done
        exact .inl (.inl done)
      · rename_i running
        refine ⟨observed, ?_⟩
        simpa [Passed] using mt observed.2.1 running
  | server =>
      simp only [observeStep]
      split
      · rename_i done
        exact .inl (.inr done)
      · rename_i running
        exact ⟨observed, passed, by simpa using mt observed.2.2 running⟩
  | run =>
      simp only [observeStep]
      split
      · rename_i reached
        refine ⟨passed, .inl ?_⟩
        exact (le_now_of_deadlineReached reached observed.1).elim (context.run_expired begun) id
      · rename_i open_
        exact ⟨observed, passed, lt_of_not_deadlineReached open_⟩
  | check =>
      simp only [observeStep]
      split
      · rename_i reached
        refine ⟨passed.1, ?_⟩
        rcases le_now_of_deadlineReached reached.2 observed.1 with expired | reached'
        · rcases timely.check_expired expired with run | own
          · exact .inl run
          · exact .inr ⟨reached.1, own⟩
        · exact .inr ⟨reached.1, reached'⟩
      · rename_i open_
        refine ⟨observed, passed.1, passed.2, fun bounded => ?_⟩
        exact lt_of_not_deadlineReached fun reached => open_ ⟨bounded, reached⟩
  | checkCancelled =>
      simp only [observeStep]
      split
      · rename_i ended
        exact timely.check_cancelled ended
      · exact passed

end TaskTimely

theorem TaskEffect.timely (changed : TaskEffect config state slot task)
    (timely : TaskTimely config state slot (state.tasks slot))
    (context : state.ContextTimely config) (begun : state.Begun) :
    TaskTimely config state slot task := by
  cases changed with
  | startCheck spawned => exact timely.startCheck spawned
  | @endWorker error running open_ cause =>
      exact { timely with
        worker_expired := by
          intro ended
          cases Option.some.inj ended
          rcases cause with run_eq | ⟨impossible, -⟩
          · exact context.run_expired begun run_eq
          · cases impossible
        worker_cancelled := by
          intro ended
          cases Option.some.inj ended
          rcases cause with run_eq | ⟨-, cancelled⟩
          · exact (context.run_cancelled run_eq).imp_left .inl
          · exact .inl (.inr cancelled) }
  | @endCheck error running open_ cause =>
      exact { timely with
        check_expired := by
          intro ended
          cases Option.some.inj ended
          rcases cause with worker_eq | ⟨-, -, reached⟩
          · exact .inl (timely.worker_expired worker_eq)
          · exact .inr reached
        check_cancelled := by
          intro ended
          cases Option.some.inj ended
          rcases cause with worker_eq | ⟨impossible, -⟩
          · exact timely.worker_cancelled worker_eq
          · cases impossible
        unchecked := fun idle => by simp [running] at idle }
  | @complete completion checking origin =>
      have observed : state.Observed completion.observation := by
        cases origin <;> exact observed_observation
      exact timely.setWorker (by simp [checking, Worker.running]) ⟨observed, trivial⟩ rfl
        (by simp [checking, Worker.stage, Stage.claimed])
  | @observe completion reading completing =>
      exact timely.setWorker (by simp [completing, Worker.running])
        (timely.observe completing context begun) (running_observeStep completion reading) (by simp [completing, Worker.stage, Stage.claimed])
  | stopCutoffs stopping =>
      exact { timely with
        unchecked := fun idle => by simp [Worker.running] at idle
        deadline_eq := fun _ => timely.deadline_eq (by simp [stopping, Worker.running])
        worker := trivial
        cutoff := fun source => (timely.cutoff source).stop
        claim_party := fun _ _ _ => rfl }
  | @fireCutoff source armed done =>
      refine timely.setCutoff ⟨observed_observation, ?_⟩
      cases source with
      | server => exact .inl (.inr done)
      | run =>
          obtain ⟨error, run_eq⟩ := Option.isSome_iff_exists.mp done
          cases error with
          | deadlineExceeded => exact .inr (.inl (context.run_expired begun run_eq))
          | canceled =>
              rcases context.run_cancelled run_eq with cancelled | returned
              · exact .inl (.inl cancelled)
              · exact .inr (.inr returned)
  | @observeParent source observation reading =>
      have known := timely.cutoff source
      rw [reading] at known
      refine timely.setCutoff ?_
      split
      · rename_i done
        exact .inl done
      · rename_i running
        refine ⟨known.1, by simpa using mt known.1.2.1 running, ?_⟩
        rcases known.2 with (parent | server) | rest
        · exact absurd parent running
        · exact .inl server
        · exact .inr rest
  | @observeServer source observation reading =>
      have known := timely.cutoff source
      rw [reading] at known
      refine timely.setCutoff ?_
      split
      · rename_i done
        exact .inr done
      · rename_i running
        exact ⟨⟨known.2.1, by simpa using mt known.1.2.2 running⟩,
          known.2.2.resolve_left running⟩

/-- A claim is made with what its path has established. -/
theorem Attempt.claimTimely (attempt : Attempt config state slot task claim)
    (timely : TaskTimely config state slot (state.tasks slot)) (open_ : ¬ state.Returned) :
    ClaimTimely config state slot (state.tasks slot) claim := by
  cases attempt with
  | @completion completion code claiming =>
      have known := timely.worker
      rw [claiming] at known
      rcases code with _ | _ | _
      · have exit_eq : completion.exit = .checker ∨ completion.exit = .panic := by
          unfold Completion.exit
          split
          · exact .inr rfl
          · exact .inl rfl
        unfold ClaimTimely completionClaim
        rcases exit_eq with exit_eq | exit_eq
        · simp only [exit_eq]
          exact ⟨trivial, known⟩
        · simp only [exit_eq]
          exact ⟨trivial, known⟩
      · exact ⟨known.1, .inr ⟨rfl, known.2⟩⟩
      · exact known.resolve_right open_
  | @cutoff source observation code claiming =>
      have known := timely.cutoff source
      rw [claiming] at known
      cases code with
      | timeout => exact ⟨known.1, .inl (known.2.resolve_right open_)⟩
      | cancelled => exact known

/-- A losing or winning caller of `claim` has nothing more to observe. -/
theorem Attempt.timely (attempt : Attempt config state slot task claim)
    (timely : TaskTimely config state slot (state.tasks slot)) :
    TaskTimely config state slot task := by
  cases attempt with
  | completion claiming =>
      exact timely.setWorker (by simp [claiming, Worker.running]) trivial rfl
        (by simp [claiming, Worker.stage, Stage.claimed])
  | cutoff claiming =>
      refine timely.setCutoff ?_
      split <;> trivial

theorem Attempt.timely_won (attempt : Attempt config state slot task claim)
    (timely : TaskTimely config state slot (state.tasks slot)) (open_ : ¬ state.Returned) :
    TaskTimely config state slot (setPublishing { task with claim := some claim } claim.party
      (some claim.result)) := by
  have moved := attempt.timely timely
  have known := attempt.claimTimely timely open_
  exact { moved with
    claim := by
      intro other found
      cases Option.some.inj found
      cases attempt <;> exact known
    claim_party := by
      intro other found party
      cases Option.some.inj found
      cases attempt with
      | completion => rfl
      | cutoff => cases party }

/-- What is known about every task of a run. -/
structure Timely (config : RunConfig) (state : RunState) : Prop where
  shape : state.Shape config
  exact : (delivery config state).Exact
  settled : state.Settled config
  context : state.ContextTimely config
  task : ∀ slot, TaskTimely config state slot (state.tasks slot)

namespace Timely

theorem initial (supervisor : CheckerSupervisor) :
    (RunState.initial config supervisor).Timely config where
  shape := .initial supervisor
  exact := by
    rw [delivery_initial]
    exact .empty config.slots
  settled _ impossible := by cases impossible
  context := .initial supervisor
  task _ := .initial

theorem begun (timely : state.Timely config) (touched : state.tasks slot ≠ Task.initial) :
    state.Begun :=
  .inr (Nat.zero_lt_of_lt (timely.shape.launched touched))

theorem started (timely : state.Timely config) (touched : state.tasks slot ≠ Task.initial) :
    state.main ≠ .starting := by
  intro starting
  have placed := timely.shape.placed
  unfold Placed at placed
  rw [starting] at placed
  exact absurd (timely.shape.launched touched) (by simp [placed])

/-- A change of one task, made with facts that hold before the change. -/
theorem setTask (timely : state.Timely config) (effect : Effect config state after)
    (touched : state.tasks slot ≠ Task.initial)
    (moved : TaskTimely config state slot task)
    (tasks_eq : after.tasks = Function.update state.tasks slot task) (other : Nat) :
    TaskTimely config after other (after.tasks other) := by
  have later := effect.later (timely.started touched)
  rw [tasks_eq, Function.update_apply]
  split
  · rename_i same
    rw [same]
    exact later.taskTimely moved
  · exact later.taskTimely (timely.task other)

theorem commit (timely : state.Timely config) (attempt : Attempt config state slot task claim)
    (other : Nat) : TaskTimely config (state.commit slot task claim) other
      ((state.commit slot task claim).tasks other) := by
  obtain ⟨-, -, claim_eq, -, -⟩ := attempt.kept
  have known := timely.task slot
  cases decided_eq : (state.tasks slot).claim with
  | some winner =>
      refine timely.setTask (.commit attempt) attempt.touched (attempt.timely known) ?_ other
      simp only [RunState.commit, claim_eq, decided_eq, RunState.setTask]
  | none =>
      have open_ : ¬ state.Returned := by
        intro returned
        exact timely.settled.decided returned (timely.shape.launched attempt.touched)
          (decided_of_unclaimed (timely.shape.coherent slot)
            (attempt.leased (timely.shape.coherent slot)) decided_eq)
      refine timely.setTask (.commit attempt) attempt.touched (attempt.timely_won known open_) ?_
        other
      simp only [RunState.commit, claim_eq, decided_eq, RunState.setTask]

theorem sent {party : Party} (known : TaskTimely config state slot (state.tasks slot))
    (ready : state.atSend slot party = true) :
    TaskTimely config state slot (sentTask (state.tasks slot) party) := by
  cases party with
  | refusal => exact { known with }
  | completion =>
      have sending : (state.tasks slot).worker = .sending := by
        simp only [atSend] at ready
        split at ready
        · assumption
        · cases ready
      exact { known with
        unchecked := fun idle => by cases idle
        deadline_eq := fun _ => known.deadline_eq (by simp [sending, Worker.running])
        worker := trivial
        claim_party := fun _ _ _ => rfl }
  | cutoff source =>
      exact { known with
        cutoff := by
          intro other
          simp only [sentTask, cutoff_setCutoff]
          split
          · trivial
          · exact known.cutoff other }

theorem released (known : TaskTimely config state slot task)
    (releasing : task.worker = .releasing) : TaskTimely config state slot { task with
      worker := if (task.publishing .completion).isSome then .sending else .exited
      releases := task.releases + 1 } := by
  by_cases holds : (task.publishing .completion).isSome
  all_goals
    simp only [holds, Bool.false_eq_true, if_true, if_false]
    exact { known with
      unchecked := fun idle => by cases idle
      deadline_eq := fun _ => known.deadline_eq (by simp [releasing, Worker.running])
      worker := trivial
      claim_party := fun _ _ _ => rfl }

theorem step (timely : state.Timely config) (effect : Effect config state after) :
    after.Timely config where
  shape := timely.shape.step effect
  exact := by
    rcases delivery_step timely.shape effect with same | ⟨op, stepped⟩
    · exact same ▸ timely.exact
    · exact timely.exact.step stepped
  settled := timely.settled.step timely.shape timely.exact effect
  context := timely.context.step timely.shape effect
  task := by
    intro other
    by_cases starting : state.main = .starting
    · have after_fresh : after.tasks other = Task.initial := by
        have initial : ∀ slot, state.tasks slot = Task.initial := by
          intro slot
          by_contra touched
          exact timely.started touched starting
        cases effect with
        | clock | endParent | endRun | interfere | reject | cancelAll | begin => exact initial other
        | launch main | collect main | receive main | finish main =>
            cases starting.symm.trans main
        | task changed => exact absurd (initial _) changed.touched
        | commit attempt => exact absurd (initial _) attempt.touched
        | @release slot releasing => simp [initial slot, Task.initial] at releasing
        | send ready held => exact absurd (initial _) (sent_touched held)
      rw [after_fresh]
      exact .initial
    · have later := effect.later starting
      cases effect with
      | clock | endParent | endRun | interfere | receive | collect | finish | reject | cancelAll
      | begin => exact later.taskTimely (timely.task other)
      | @task slot task changed =>
          exact timely.setTask (.task changed) changed.touched
            (changed.timely (timely.task slot) timely.context (timely.begun changed.touched)) rfl
            other
      | commit attempt => exact timely.commit attempt other
      | @release slot releasing =>
          have touched : state.tasks slot ≠ Task.initial := by
            intro initial
            simp [initial, Task.initial] at releasing
          exact timely.setTask (.release releasing) touched (released (timely.task slot) releasing)
            rfl other
      | @send slot party result ready held room =>
          exact timely.setTask (.send ready held room) (sent_touched held)
            (sent (timely.task slot) ready) tasks_afterSend other
      | launch launching below =>
          have fresh := timely.shape.fresh state.launched le_rfl
          revert later
          unfold launchSlot
          dsimp only
          split
          all_goals
            intro later
            by_cases same : other = state.launched
            · subst same
              simp only [RunState.setTask, Function.update_self]
              constructor <;>
                simp [setPublishing, Task.initial, WorkerTimely, CutoffTimely, Worker.running]
            · have known := later.taskTimely (timely.task other)
              simpa only [RunState.setTask, Function.update_of_ne same] using known

theorem of_reachable {supervisor : CheckerSupervisor}
    (reachable : Reachable (next config) (RunState.initial config supervisor) state) :
    state.Timely config :=
  reachable_of_effect _ (.initial supervisor) (fun _ _ timely effect => timely.step effect)
    reachable

end Timely

/-- When an outcome may be published.  A completion was observed before every
deadline of its target and before cancellation; a timeout was not preceded by
cancellation. -/
def Punctual (config : RunConfig) (state : RunState) (slot : Nat) (claim : Claim) : Prop :=
  let task := state.tasks slot
  let observation := claim.observation
  match claim.exit with
  | .capacity => False
  | .checker | .panic =>
      observation.parentDone = false ∧ observation.serverDone = false ∧
        observation.time < state.runDeadline ∧
        ((config.target slot).kind ≠ .traceroute → observation.time <
          config.checkDeadline slot state.runDeadline task.checkStarted)
  | .cutoff .timeout =>
      observation.parentDone = false ∧ observation.serverDone = false ∧
        (state.runDeadline ≤ state.now ∨
          (config.target slot).kind ≠ .traceroute ∧
            config.checkDeadline slot state.runDeadline task.checkStarted ≤ state.now)
  | .cutoff .cancelled => state.Cancelled

theorem Timely.punctual (timely : state.Timely config)
    (genuine : TaskGenuine config slot (state.tasks slot))
    (claimed : (state.tasks slot).claim = some claim) : Punctual config state slot claim := by
  have known := timely.task slot
  have made := known.claim claim claimed
  have origin := genuine.claim claim claimed
  have deadline_eq : claim.party = .completion → (state.tasks slot).checkDeadline =
      config.checkDeadline slot state.runDeadline (state.tasks slot).checkStarted := by
    intro party
    refine known.deadline_eq ?_
    have stage := known.claim_party claim claimed party
    revert stage
    cases (state.tasks slot).worker <;> simp [Worker.stage, Stage.claimed, Worker.running]
  cases exit_eq : claim.exit with
  | capacity => simp [Claim.Genuine, exit_eq] at origin
  | checker | panic =>
      simp only [ClaimTimely, exit_eq] at made
      simp only [Punctual, exit_eq]
      rw [← deadline_eq made.1]
      exact ⟨made.2.1.1, made.2.1.2, made.2.2⟩
  | cutoff code =>
      cases code with
      | timeout =>
          simp only [ClaimTimely, exit_eq] at made
          simp only [Punctual, exit_eq]
          refine ⟨made.1.1, made.1.2, ?_⟩
          rcases made.2 with run | ⟨party, run | own⟩
          · exact .inl run
          · exact .inl run
          · rw [← deadline_eq party]
            exact .inr own
      | cancelled =>
          simp only [ClaimTimely, exit_eq] at made
          simp only [Punctual, exit_eq]
          exact made

/-- A report on one target whose checker returns at once. -/
def loneTarget : RunConfig where
  reportID := ("0123456789abcdef01234567" : String)
  request := ⟨[⟨.http, ("example.org" : String), 0, 0⟩], 0, .unset, false⟩
  supported _ := true
  parentDeadline := none
  started := 0
  returns _ _ := true

def loneResult : Result := loneTarget.executionResult 0 "timeout" 7

def loneSupervisor : CheckerSupervisor :=
  (CheckerSupervisor.create 1).get (by decide)

def loneRun : List RunAction :=
  [.begin, .launch, .startCheck 0, .tick 5, .returnCheck 0 loneResult, .observe 0, .observe 0,
    .observe 0, .observe 0, .observe 0, .claim 0, .stopCutoffs 0, .release 0,
    .send 0 .completion, .launch, .receive]

def loneFinal : RunState :=
  (execute (next loneTarget) (initial loneTarget loneSupervisor) loneRun).get (by decide +kernel)

theorem loneFinal_reachable :
    Reachable (next loneTarget) (initial loneTarget loneSupervisor) loneFinal :=
  .of_execute (Option.some_get _).symm

end CheckNetwork.Runner.RunState
