import CheckNetwork.Runner.Run

/-!
# What a step of a run does

Each enabled action of a run as one of a few kinds of change of the state,
with the facts under which it is made.  Most actions change one task only; a
claim, a release and a send also reach the supervisor or the channel.
Invariants of a run are proved from these cases, and those of a task from the
cases of `TaskEffect` and `Attempt`.
-/

namespace CheckNetwork.Runner.RunState

open Diagnostic Transition

/-- What other users of the supervisor can do to it. -/
inductive Interference (config : RunConfig) (state : RunState) : CheckerSupervisor → Prop
  | shutdown : Interference config state state.supervisor.beginShutdown.1
  | acquire : Interference config state state.supervisor.acquire.1
  | release {lease : LeaseID} (foreign : ¬ state.Owns config lease)
      (allocated : lease < state.supervisor.nextLease) :
      Interference config state (state.supervisor.release (some lease))
  | mark {lease : LeaseID} (foreign : ¬ state.Owns config lease)
      (allocated : lease < state.supervisor.nextLease) :
      Interference config state (state.supervisor.markStuck (some lease))

/-- How the deferred function of `runChecker` got its result. -/
inductive Origin (config : RunConfig) (state : RunState) (slot : Nat) : Completion → Prop
  | returned {result : Result} (allowed : config.returns (config.target slot) result = true) :
      Origin config state slot ⟨result, false, state.observation⟩
  | panicked : Origin config state slot
      ⟨config.panicResult slot (state.tasks slot).checkStarted state.now, true,
        state.observation⟩

/-- Changes of the task of a slot that nothing else sees. -/
inductive TaskEffect (config : RunConfig) (state : RunState) (slot : Nat) : Task → Prop
  | startCheck (spawned : (state.tasks slot).worker = .spawned) :
      TaskEffect config state slot { state.tasks slot with
        worker := .checking
        checkStarted := state.now
        checkDeadline := config.checkDeadline slot state.runDeadline state.now
        checkTimed := config.checkTimed slot state.runDeadline state.now }
  | endWorker {error : ContextError} (running : (state.tasks slot).worker.running = true)
      (open_ : (state.tasks slot).workerErr = none)
      (cause : state.runErr = some error ∨
        (error = .canceled ∧ state.supervisor.cancelled = true)) :
      TaskEffect config state slot { state.tasks slot with workerErr := some error }
  | endCheck {error : ContextError} (running : (state.tasks slot).worker.running = true)
      (open_ : (state.tasks slot).checkErr = none)
      (cause : (state.tasks slot).workerErr = some error ∨
        (error = .deadlineExceeded ∧ (state.tasks slot).checkTimed = true ∧
          (state.tasks slot).checkDeadline ≤ state.now)) :
      TaskEffect config state slot { state.tasks slot with checkErr := some error }
  | complete {completion : Completion} (checking : (state.tasks slot).worker = .checking)
      (origin : Origin config state slot completion) :
      TaskEffect config state slot
        (setWorker (state.tasks slot) (.completing completion .parent))
  | observe {completion : Completion} {reading : Reading}
      (completing : (state.tasks slot).worker = .completing completion reading) :
      TaskEffect config state slot (setWorker (state.tasks slot)
        (state.observeStep config slot (state.tasks slot) completion reading))
  | stopCutoffs (stopping : (state.tasks slot).worker = .stopping) :
      TaskEffect config state slot { state.tasks slot with
        worker := .releasing
        cutoff := fun source => ((state.tasks slot).cutoff source).stop }
  | fireCutoff {source : CutoffSource} (armed : (state.tasks slot).cutoff source = .armed)
      (done : state.sourceDone source = true) :
      TaskEffect config state slot (setCutoff (state.tasks slot) source
        (.readingParent state.observation))
  | observeParent {source : CutoffSource} {observation : Observation}
      (reading : (state.tasks slot).cutoff source = .readingParent observation) :
      TaskEffect config state slot (setCutoff (state.tasks slot) source
        (if state.parentErr.isSome then .claiming observation .cancelled
          else .readingServer observation))
  | observeServer {source : CutoffSource} {observation : Observation}
      (reading : (state.tasks slot).cutoff source = .readingServer observation) :
      TaskEffect config state slot (setCutoff (state.tasks slot) source
        (.claiming observation (if state.supervisor.cancelled then .cancelled else .timeout)))

/-- A call of `claim`: the task as the caller leaves it, and what it claims. -/
inductive Attempt (config : RunConfig) (state : RunState) (slot : Nat) : Task → Claim → Prop
  | completion {completion : Completion} {code : Option CutoffCode}
      (claiming : (state.tasks slot).worker = .claiming completion code) :
      Attempt config state slot (setWorker (state.tasks slot) .stopping)
        (state.completionClaim config slot completion code)
  | cutoff {source : CutoffSource} {observation : Observation} {code : CutoffCode}
      (claiming : (state.tasks slot).cutoff source = .claiming observation code) :
      Attempt config state slot
        (setCutoff (state.tasks slot) source
          (if (state.tasks slot).claim.isNone then .sending else .finished))
        (state.cutoffClaim config slot source observation code)

inductive Effect (config : RunConfig) (state : RunState) : RunState → Prop
  | clock (elapsed : Nat) : Effect config state { state with now := state.now + elapsed }
  | endParent {error : ContextError} (running : state.parentErr = none)
      (cause : error = .deadlineExceeded → ∃ deadline, config.parentDeadline = some deadline ∧
        deadline ≤ state.now) :
      Effect config state { state with parentErr := some error }
  | endRun {error : ContextError} (running : state.runErr = none)
      (cause : state.parentErr = some error ∨
        (error = .deadlineExceeded ∧ state.runTimed = true ∧ state.runDeadline ≤ state.now)) :
      Effect config state { state with runErr := some error }
  | interfere {supervisor : CheckerSupervisor}
      (interference : Interference config state supervisor) :
      Effect config state { state with supervisor := supervisor }
  | reject {error : String} (starting : state.main = .starting)
      (rejected : config.rejection = some error) :
      Effect config state { state with main := .rejected error }
  | cancelAll (starting : state.main = .starting) (accepted : config.rejection = none)
      (done : state.parentErr.isSome) :
      Effect config state { state with main := .returned ((List.range config.slots).map
        fun slot => config.executionResult slot "cancelled" state.now) }
  | begin (starting : state.main = .starting) (accepted : config.rejection = none)
      (open_ : state.parentErr = none) :
      Effect config state { state with
        main := .launching
        runDeadline := config.runDeadline state.now
        runTimed := config.runTimed state.now }
  | launch (launching : state.main = .launching) (below : state.launched < config.slots) :
      Effect config state (state.launchSlot config)
  | collect (launching : state.main = .launching) (all : config.slots ≤ state.launched) :
      Effect config state { state with main := .collecting }
  | task {slot : Nat} {task : Task} (changed : TaskEffect config state slot task) :
      Effect config state (state.setTask slot task)
  | commit {slot : Nat} {task : Task} {claim : Claim}
      (attempt : Attempt config state slot task claim) :
      Effect config state (state.commit slot task claim)
  | release {slot : Nat} (releasing : (state.tasks slot).worker = .releasing) :
      Effect config state
        ({ state with
            supervisor := state.supervisor.release (state.tasks slot).lease }.setTask slot
          { state.tasks slot with
            worker :=
              if ((state.tasks slot).publishing .completion).isSome then .sending else .exited
            releases := (state.tasks slot).releases + 1 })
  | send {slot : Nat} {party : Party} {result : Result} (ready : state.atSend slot party = true)
      (held : (state.tasks slot).publishing party = some result)
      (room : state.channel.length < config.slots) :
      Effect config state
        (({ state.setTask slot (setPublishing (state.tasks slot) party none) with
            channel := state.channel ++ [(slot, result)] } : RunState).afterSend slot party)
  | receive {slot : Nat} {result : Result} {rest : List (Nat × Result)}
      (collecting : state.main = .collecting)
      (channel_eq : state.channel = (slot, result) :: rest)
      (waiting : state.received < config.slots) :
      Effect config state { state with
        channel := rest
        results := Function.update state.results slot (some result)
        received := state.received + 1 }
  | finish (collecting : state.main = .collecting) (all : state.received = config.slots) :
      Effect config state { state with
        main := .returned (state.collected config)
        runErr := if state.runErr.isSome then state.runErr else some .canceled }

variable {config : RunConfig} {state after : RunState} {action : RunAction} {slot : Nat}

theorem Effect.of_next (stepped : next config state action = some after) :
    Effect config state after := by
  cases action with
  | tick elapsed =>
      cases stepped
      exact .clock elapsed
  | shutdown =>
      cases stepped
      exact .interfere .shutdown
  | otherAcquire =>
      cases stepped
      exact .interfere .acquire
  | cancelParent error =>
      simp only [next, Option.ite_none_right_eq_some, Option.some.injEq] at stepped
      obtain ⟨⟨running, cause⟩, rfl⟩ := stepped
      refine .endParent (Option.isNone_iff_eq_none.mp running) fun expired => ?_
      cases deadline : config.parentDeadline with
      | none => simp [expired, deadline] at cause
      | some parentDeadline =>
          refine ⟨parentDeadline, rfl, ?_⟩
          simpa [expired, deadline] using cause
  | inheritRun =>
      simp only [next, Option.ite_none_right_eq_some, Option.some.injEq] at stepped
      obtain ⟨⟨running, done⟩, rfl⟩ := stepped
      obtain ⟨error, parent_eq⟩ := Option.isSome_iff_exists.mp done
      have ended : Effect config state _ :=
        .endRun (Option.isNone_iff_eq_none.mp running) (.inl parent_eq)
      rwa [← parent_eq] at ended
  | expireRun =>
      simp only [next, Option.ite_none_right_eq_some, Option.some.injEq] at stepped
      obtain ⟨⟨running, timed, reached⟩, rfl⟩ := stepped
      exact .endRun (Option.isNone_iff_eq_none.mp running) (.inr ⟨rfl, timed, reached⟩)
  | otherRelease lease =>
      simp only [next, Option.ite_none_left_eq_some, Option.some.injEq, not_or, not_le] at stepped
      rw [← stepped.2]
      exact .interfere (.release stepped.1.1 stepped.1.2)
  | otherMark lease =>
      simp only [next, Option.ite_none_left_eq_some, Option.some.injEq, not_or, not_le] at stepped
      rw [← stepped.2]
      exact .interfere (.mark stepped.1.1 stepped.1.2)
  | begin =>
      simp only [next] at stepped
      split at stepped
      · rename_i starting
        split at stepped
        · rename_i error rejected
          cases stepped
          exact .reject starting rejected
        · rename_i accepted
          split at stepped
          · rename_i done
            cases stepped
            exact .cancelAll starting accepted done
          · rename_i running
            cases stepped
            exact .begin starting accepted (by simpa using running)
      · cases stepped
  | launch =>
      simp only [next] at stepped
      split at stepped
      · rename_i launching
        split at stepped
        · rename_i below
          cases stepped
          exact .launch launching below
        · rename_i all
          cases stepped
          exact .collect launching (not_lt.mp all)
      · cases stepped
  | startCheck slot =>
      simp only [next] at stepped
      split at stepped
      · rename_i spawned
        cases stepped
        exact .task (.startCheck spawned)
      · cases stepped
  | inheritWorker slot =>
      simp only [next, Option.ite_none_right_eq_some, Option.some.injEq] at stepped
      obtain ⟨⟨running, open_, done⟩, rfl⟩ := stepped
      obtain ⟨error, run_eq⟩ := Option.isSome_iff_exists.mp done
      rw [run_eq]
      exact .task (.endWorker running (Option.isNone_iff_eq_none.mp open_) (.inl run_eq))
  | cancelWorker slot =>
      simp only [next, Option.ite_none_right_eq_some, Option.some.injEq] at stepped
      obtain ⟨⟨running, open_, done⟩, rfl⟩ := stepped
      exact .task (.endWorker running (Option.isNone_iff_eq_none.mp open_) (.inr ⟨rfl, done⟩))
  | inheritCheck slot =>
      simp only [next, Option.ite_none_right_eq_some, Option.some.injEq] at stepped
      obtain ⟨⟨running, open_, done⟩, rfl⟩ := stepped
      obtain ⟨error, worker_eq⟩ := Option.isSome_iff_exists.mp done
      have ended : TaskEffect config state slot _ :=
        .endCheck running (Option.isNone_iff_eq_none.mp open_) (.inl worker_eq)
      rw [← worker_eq] at ended
      exact .task ended
  | expireCheck slot =>
      simp only [next, Option.ite_none_right_eq_some, Option.some.injEq] at stepped
      obtain ⟨⟨running, open_, timed, reached⟩, rfl⟩ := stepped
      exact .task
        (.endCheck running (Option.isNone_iff_eq_none.mp open_) (.inr ⟨rfl, timed, reached⟩))
  | returnCheck slot result =>
      simp only [next] at stepped
      split at stepped
      · rename_i checking
        split at stepped
        · rename_i allowed
          cases stepped
          exact .task (.complete checking (.returned allowed))
        · cases stepped
      · cases stepped
  | panicCheck slot =>
      simp only [next] at stepped
      split at stepped
      · rename_i checking
        cases stepped
        exact .task (.complete checking .panicked)
      · cases stepped
  | observe slot =>
      simp only [next] at stepped
      split at stepped
      · rename_i completing
        cases stepped
        exact .task (.observe completing)
      · cases stepped
  | claim slot =>
      simp only [next] at stepped
      split at stepped
      · rename_i claiming
        cases stepped
        exact .commit (.completion claiming)
      · cases stepped
  | stopCutoffs slot =>
      simp only [next] at stepped
      split at stepped
      · rename_i stopping
        cases stepped
        exact .task (.stopCutoffs stopping)
      · cases stepped
  | release slot =>
      simp only [next] at stepped
      split at stepped
      · rename_i releasing
        cases stepped
        exact .release releasing
      · cases stepped
  | fireCutoff slot source =>
      simp only [next] at stepped
      split at stepped
      · rename_i armed
        split at stepped
        · rename_i done
          cases stepped
          exact .task (.fireCutoff armed done)
        · cases stepped
      · cases stepped
  | observeCutoff slot source =>
      simp only [next] at stepped
      split at stepped
      · rename_i reading
        cases stepped
        exact .task (.observeParent reading)
      · rename_i reading
        cases stepped
        exact .task (.observeServer reading)
      · cases stepped
  | claimCutoff slot source =>
      simp only [next] at stepped
      split at stepped
      · rename_i claiming
        cases stepped
        exact .commit (.cutoff claiming)
      · cases stepped
  | send slot party =>
      simp only [next] at stepped
      split at stepped
      · rename_i ready
        split at stepped
        · cases stepped
        · rename_i held
          split at stepped
          · rename_i room
            cases stepped
            exact .send ready held room
          · cases stepped
      · cases stepped
  | receive =>
      simp only [next] at stepped
      split at stepped
      · rename_i collecting channel_eq
        split at stepped
        · rename_i waiting
          cases stepped
          exact .receive collecting channel_eq waiting
        · cases stepped
      · cases stepped
  | finish =>
      simp only [next] at stepped
      split at stepped
      · rename_i collecting
        split at stepped
        · rename_i all
          cases stepped
          exact .finish collecting all
        · cases stepped
      · cases stepped

/-- An invariant of a run needs to be shown for these effects only. -/
theorem reachable_of_effect {supervisor : CheckerSupervisor} (property : RunState → Prop)
    (base : property (initial config supervisor))
    (preserved : ∀ ⦃state after⦄, property state → Effect config state after → property after)
    (reachable : Reachable (next config) (initial config supervisor) state) :
    property state :=
  reachable.invariant property base fun _ _ _ held stepped =>
    preserved held (.of_next stepped)

/-! ## What a step does to one task -/

/-- The task of a slot after one of its parties has sent. -/
def sentTask (task : Task) : Party → Task
  | .refusal => setPublishing task .refusal none
  | .completion => setWorker (setPublishing task .completion none) .exited
  | .cutoff source => setCutoff (setPublishing task (.cutoff source) none) source .finished

theorem tasks_afterSend {party : Party} {channel : List (Nat × Result)} :
    (({ state.setTask slot (setPublishing (state.tasks slot) party none) with
        channel := channel } : RunState).afterSend slot party).tasks =
      Function.update state.tasks slot (sentTask (state.tasks slot) party) := by
  cases party <;> simp [afterSend, setTask, sentTask]

inductive Change (config : RunConfig) (state : RunState) (slot : Nat) : Task → Prop
  | same : Change config state slot (state.tasks slot)
  | task {task : Task} (changed : TaskEffect config state slot task) :
      Change config state slot task
  | lost {task : Task} {claim : Claim} (attempt : Attempt config state slot task claim)
      (decided : task.claim.isSome) : Change config state slot task
  | won {task : Task} {claim : Claim} (attempt : Attempt config state slot task claim)
      (undecided : task.claim = none) :
      Change config state slot (setPublishing { task with claim := some claim } claim.party
        (some claim.result))
  | release (releasing : (state.tasks slot).worker = .releasing) :
      Change config state slot { state.tasks slot with
        worker :=
          if ((state.tasks slot).publishing .completion).isSome then .sending else .exited
        releases := (state.tasks slot).releases + 1 }
  | sent {party : Party} {result : Result} (ready : state.atSend slot party = true)
      (held : (state.tasks slot).publishing party = some result) :
      Change config state slot (sentTask (state.tasks slot) party)
  | refused (launched : slot = state.launched) :
      Change config state slot (setPublishing { Task.initial with
        refused := some (config.executionResult slot "checker_capacity_unavailable" state.now) }
        .refusal (some (config.executionResult slot "checker_capacity_unavailable" state.now)))
  | spawned {supervisor : CheckerSupervisor} {lease : LeaseID} (launched : slot = state.launched)
      (acquired : state.supervisor.acquire = (supervisor, some lease)) :
      Change config state slot { Task.initial with
        lease := some lease, worker := .spawned, cutoff := fun _ => .armed }

theorem Change.of_update {task : Task} (changed : Change config state slot task)
    (tasks_eq : after.tasks = Function.update state.tasks slot task) (other : Nat) :
    Change config state other (after.tasks other) := by
  rw [tasks_eq]
  by_cases same : other = slot
  · subst same
    rw [Function.update_self]
    exact changed
  · rw [Function.update_of_ne same]
    exact .same

theorem Effect.change (effect : Effect config state after) (other : Nat) :
    Change config state other (after.tasks other) := by
  cases effect with
  | clock | endParent | endRun | interfere | reject | cancelAll | begin | collect | receive
  | finish => exact .same
  | launch launching below =>
      unfold launchSlot
      dsimp only
      split
      · exact Change.of_update (.refused rfl) rfl other
      · rename_i acquired
        exact Change.of_update (.spawned rfl acquired) rfl other
  | task changed => exact Change.of_update (.task changed) rfl other
  | @commit slot task claim attempt =>
      unfold RunState.commit
      split
      · rename_i decided
        exact Change.of_update (.lost attempt (by simp [decided])) rfl other
      · rename_i undecided
        exact Change.of_update (.won attempt undecided) rfl other
  | release releasing => exact Change.of_update (.release releasing) rfl other
  | send ready held room => exact Change.of_update (.sent ready held) tasks_afterSend other

end CheckNetwork.Runner.RunState
