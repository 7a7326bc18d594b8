import CheckNetwork.Runner.Priority
import Mathlib.Algebra.BigOperators.Group.Finset.Basic

/-!
# A report returns

Once the report deadline has passed, the timers of the run and its own
goroutines bring it to its return: as long as it has not returned one of them
can move, and each move lowers a rank.
-/

namespace CheckNetwork.Runner

open Diagnostic

/-- Moves of the report's goroutines and of the timers of its contexts, which
wait for no checker and no caller. -/
def RunAction.driven : RunAction → Bool
  | cancelParent .deadlineExceeded | inheritRun | expireRun | begin | launch | startCheck _
  | observe _ | claim _ | stopCutoffs _ | release _ | fireCutoff _ _ | observeCutoff _ _
  | claimCutoff _ _ | send _ _ | receive | finish => true
  | _ => false

def Reading.rank : Reading → Nat
  | parent => 5
  | server => 4
  | run => 3
  | check => 2
  | checkCancelled => 1

def Worker.rank : Worker → Nat
  | absent | exited => 0
  | spawned => 14
  | checking => 13
  | completing _ reading => 7 + reading.rank
  | claiming _ _ => 6
  | stopping => 5
  | releasing => 4
  | sending => 3

def Cutoff.rank : Cutoff → Nat
  | unregistered | stopped | finished => 0
  | armed => 6
  | readingParent _ => 5
  | readingServer _ => 4
  | claiming _ _ => 3
  | sending => 2

namespace RunState

variable {config : RunConfig} {state after : RunState} {slot : Nat} {task : Task} {claim : Claim}

def taskRank (task : Task) : Nat :=
  task.worker.rank + ((task.cutoff .run).rank + (task.cutoff .server).rank)

/-- A launch leaves at most this much to do for its target. -/
def launchRank : Nat := 30

def mainRank (config : RunConfig) (state : RunState) : Nat :=
  match state.main with
  | .starting => launchRank * config.slots + 3
  | .launching => launchRank * (config.slots - state.launched) + 2
  | .refusing _ => launchRank * (config.slots - state.launched) + 4
  | .collecting => 1
  | .rejected _ | .returned _ => 0

def contextRank (state : RunState) : Nat :=
  (if state.parentErr.isSome then 0 else 1) + (if state.runErr.isSome then 0 else 1)

/-- What is left to do before the run returns. -/
def rank (config : RunConfig) (state : RunState) : Nat :=
  contextRank state + mainRank config state + state.channel.length +
    ∑ slot ∈ Finset.range config.slots, taskRank (state.tasks slot)

theorem sum_taskRank_update (tasks : Nat → Task) (task : Task) {count : Nat}
    (below : slot < count) :
    ∑ other ∈ Finset.range count, taskRank (Function.update tasks slot task other) +
        taskRank (tasks slot) =
      ∑ other ∈ Finset.range count, taskRank (tasks other) + taskRank task := by
  have member := Finset.mem_range.mpr below
  have rest : ∑ other ∈ (Finset.range count).erase slot,
        taskRank (Function.update tasks slot task other) =
      ∑ other ∈ (Finset.range count).erase slot, taskRank (tasks other) := by
    refine Finset.sum_congr rfl fun other otherMem => ?_
    rw [Function.update_of_ne (Finset.ne_of_mem_erase otherMem)]
  rw [← Finset.add_sum_erase _ _ member, ← Finset.add_sum_erase _ (fun other =>
    taskRank (tasks other)) member, rest, Function.update_self]
  omega

/-- One task moves on while the rest of the run stays. -/
theorem rank_lt_of_task (task : Task) (below : slot < config.slots)
    (tasks_eq : after.tasks = Function.update state.tasks slot task)
    (lower : taskRank task + after.channel.length + mainRank config after <
      taskRank (state.tasks slot) + state.channel.length + mainRank config state)
    (context_eq : contextRank after = contextRank state) :
    rank config after < rank config state := by
  have sum_eq := sum_taskRank_update state.tasks task below
  unfold rank
  rw [tasks_eq, context_eq]
  omega

theorem taskRank_setWorker {worker : Worker} (lower : worker.rank < task.worker.rank) :
    taskRank (setWorker task worker) < taskRank task := by
  unfold taskRank setWorker
  dsimp only
  omega

theorem taskRank_setCutoff (task : Task) (source : CutoffSource) (cutoff : Cutoff) (amount : Nat)
    (lower : cutoff.rank + amount < (task.cutoff source).rank) :
    taskRank (setCutoff task source cutoff) + amount < taskRank task := by
  unfold taskRank
  simp only [cutoff_setCutoff]
  cases source <;> simp [setCutoff] <;> omega

theorem Cutoff.rank_stop_le (cutoff : Cutoff) : cutoff.stop.rank ≤ cutoff.rank := by
  cases cutoff <;> simp [Cutoff.stop, Cutoff.rank]

theorem rank_observeStep (completion : Completion) (reading : Reading) :
    (state.observeStep config slot task completion reading).rank < 7 + reading.rank := by
  cases reading <;> simp only [observeStep] <;> split <;> simp [Worker.rank, Reading.rank]

theorem rank_commit (claim : Claim) (below : slot < config.slots)
    (lower : taskRank task < taskRank (state.tasks slot)) :
    rank config (state.commit slot task claim) < rank config state := by
  unfold commit
  split
  · exact rank_lt_of_task task below rfl (by simpa [setTask, mainRank] using lower) rfl
  · have won : taskRank (setPublishing { task with claim := some claim } claim.party
        (some claim.result)) < taskRank (state.tasks slot) := lower
    exact rank_lt_of_task _ below rfl (by simpa [setTask, mainRank] using won) rfl

theorem rank_send {party : Party} {result : Result} (below : slot < config.slots)
    (coherent : (state.tasks slot).Coherent) (ready : state.atSend slot party = true)
    (held : (state.tasks slot).publishing party = some result) :
    rank config (({ state.setTask slot (setPublishing (state.tasks slot) party none) with
        channel := state.channel ++ [(slot, result)] } : RunState).afterSend slot party) <
      rank config state := by
  refine rank_lt_of_task (sentTask (state.tasks slot) party) below tasks_afterSend ?_ ?_
  · cases party with
    | refusal =>
        simp only [atSend] at ready
        split at ready
        · rename_i refusing
          simp only [afterSend, sentTask, setPublishing, taskRank, mainRank, refusing, setTask,
            List.length_append, List.length_singleton]
          omega
        · cases ready
    | completion =>
        simp only [atSend] at ready
        split at ready
        · rename_i sending
          simp [afterSend, sentTask, setPublishing, setWorker, taskRank, mainRank, sending, setTask,
            Worker.rank]
          omega
        · cases ready
    | cutoff source =>
        have sending : (state.tasks slot).cutoff source = .sending :=
          Cutoff.stage_eq_sending_iff.mp ((coherent.cutoff_sending source).mpr (by simp [held]))
        have lower : taskRank (sentTask (state.tasks slot) (.cutoff source)) + 1 <
            taskRank (state.tasks slot) :=
          taskRank_setCutoff (state.tasks slot) source .finished 1 (by simp [sending, Cutoff.rank])
        change taskRank (sentTask (state.tasks slot) (.cutoff source)) +
          (state.channel ++ [(slot, result)]).length + mainRank config state < _
        rw [List.length_append, List.length_singleton]
        omega
  · cases party <;> rfl

theorem launchSlot_rank (fresh : state.tasks state.launched = Task.initial)
    (launching : state.main = .launching) (below : state.launched < config.slots) :
    rank config (state.launchSlot config) < rank config state := by
  have initial_rank : taskRank (state.tasks state.launched) = 0 := by
    rw [fresh]
    rfl
  have room : config.slots - state.launched = (config.slots - (state.launched + 1)) + 1 := by omega
  unfold launchSlot
  dsimp only
  split
  · refine rank_lt_of_task _ below rfl ?_ rfl
    have refused_rank : ∀ result, taskRank (setPublishing { Task.initial with
        refused := some result } .refusal (some result)) = 0 := fun _ => rfl
    simp only [setTask, mainRank, launching, refused_rank, initial_rank, room, launchRank]
    omega
  · rename_i lease _
    refine rank_lt_of_task _ below rfl ?_ rfl
    have spawned_rank : taskRank { Task.initial with
        lease := some lease, worker := .spawned, cutoff := fun _ => .armed } = 26 := rfl
    simp only [setTask, mainRank, launching, spawned_rank, initial_rank, room, launchRank]
    omega

/-- The goroutine of `RunWithID` or a context moves on. -/
theorem rank_lt_of_main (tasks_eq : after.tasks = state.tasks)
    (lower : contextRank after + mainRank config after + after.channel.length <
      contextRank state + mainRank config state + state.channel.length) :
    rank config after < rank config state := by
  unfold rank
  rw [tasks_eq]
  omega

/-- Every move lowers the rank. -/
theorem rank_lt_of_driven (shape : state.Shape config) {action : RunAction}
    (driven : action.driven = true) (stepped : next config state action = some after) :
    rank config after < rank config state := by
  have below : ∀ {slot}, state.tasks slot ≠ Task.initial → slot < config.slots :=
    fun touched => (shape.launched touched).trans_le shape.launched_le
  have setTask_lt : ∀ {slot : Nat} {task : Task}, state.tasks slot ≠ Task.initial →
      taskRank task < taskRank (state.tasks slot) →
      rank config (state.setTask slot task) < rank config state := by
    intro slot task touched lower
    exact rank_lt_of_task task (below touched) rfl (by simpa [setTask, mainRank] using lower) rfl
  cases action with
  | tick | shutdown | otherAcquire | otherRelease | otherMark | inheritWorker | cancelWorker
  | inheritCheck | expireCheck | returnCheck | panicCheck => cases driven
  | cancelParent error =>
      simp only [next, Option.ite_none_right_eq_some, Option.some.injEq] at stepped
      obtain ⟨⟨running, -⟩, rfl⟩ := stepped
      refine rank_lt_of_main rfl ?_
      simp only [contextRank, mainRank, Option.isNone_iff_eq_none.mp running]
      simp
  | inheritRun =>
      simp only [next, Option.ite_none_right_eq_some, Option.some.injEq] at stepped
      obtain ⟨⟨running, done⟩, rfl⟩ := stepped
      refine rank_lt_of_main rfl ?_
      simp only [contextRank, mainRank, Option.isNone_iff_eq_none.mp running, done]
      simp
  | expireRun =>
      simp only [next, Option.ite_none_right_eq_some, Option.some.injEq] at stepped
      obtain ⟨⟨running, -⟩, rfl⟩ := stepped
      refine rank_lt_of_main rfl ?_
      simp only [contextRank, mainRank, Option.isNone_iff_eq_none.mp running]
      simp
  | begin =>
      simp only [next] at stepped
      split at stepped
      · rename_i starting
        split at stepped
        · cases stepped
          exact rank_lt_of_main rfl (by simp [contextRank, mainRank, starting])
        · split at stepped
          · cases stepped
            exact rank_lt_of_main rfl (by simp [contextRank, mainRank, starting])
          · cases stepped
            refine rank_lt_of_main rfl ?_
            have room : launchRank * (config.slots - state.launched) ≤ launchRank * config.slots :=
              Nat.mul_le_mul_left _ (Nat.sub_le _ _)
            simp only [contextRank, mainRank, starting]
            omega
      · cases stepped
  | launch =>
      simp only [next] at stepped
      split at stepped
      · rename_i launching
        split at stepped
        · rename_i room
          cases stepped
          exact launchSlot_rank (shape.fresh _ le_rfl) launching room
        · cases stepped
          exact rank_lt_of_main rfl (by simp [contextRank, mainRank, launching])
      · cases stepped
  | startCheck slot =>
      simp only [next] at stepped
      split at stepped
      · rename_i spawned
        cases stepped
        refine setTask_lt (fun initial => by simp [initial, Task.initial] at spawned) ?_
        simp [taskRank, spawned, Worker.rank]
      · cases stepped
  | observe slot =>
      simp only [next] at stepped
      split at stepped
      · rename_i completion reading completing
        cases stepped
        refine setTask_lt (fun initial => by simp [initial, Task.initial] at completing)
          (taskRank_setWorker ?_)
        rw [completing]
        exact rank_observeStep completion reading
      · cases stepped
  | claim slot =>
      simp only [next] at stepped
      split at stepped
      · rename_i claiming
        cases stepped
        exact rank_commit _ (below (fun initial => by simp [initial, Task.initial] at claiming))
          (taskRank_setWorker (by simp [claiming, Worker.rank]))
      · cases stepped
  | stopCutoffs slot =>
      simp only [next] at stepped
      split at stepped
      · rename_i stopping
        cases stepped
        refine setTask_lt (fun initial => by simp [initial, Task.initial] at stopping) ?_
        have run := Cutoff.rank_stop_le ((state.tasks slot).cutoff .run)
        have server := Cutoff.rank_stop_le ((state.tasks slot).cutoff .server)
        simp only [taskRank, stopping, Worker.rank]
        omega
      · cases stepped
  | release slot =>
      simp only [next] at stepped
      split at stepped
      · rename_i releasing
        cases stepped
        have touched : state.tasks slot ≠ Task.initial := fun initial => by
          simp [initial, Task.initial] at releasing
        refine rank_lt_of_task _ (below touched) rfl ?_ rfl
        by_cases holds : ((state.tasks slot).publishing .completion).isSome
        all_goals simp [taskRank, setTask, mainRank, releasing, holds, Worker.rank]
      · cases stepped
  | fireCutoff slot source =>
      simp only [next] at stepped
      split at stepped
      · rename_i armed
        split at stepped
        · cases stepped
          exact setTask_lt (fun initial => by simp [initial, Task.initial] at armed)
            (taskRank_setCutoff _ _ _ 0 (by simp [armed, Cutoff.rank]))
        · cases stepped
      · cases stepped
  | observeCutoff slot source =>
      simp only [next] at stepped
      split at stepped
      · rename_i reading
        cases stepped
        refine setTask_lt (fun initial => by simp [initial, Task.initial] at reading)
          (taskRank_setCutoff _ _ _ 0 ?_)
        rw [reading]
        split <;> simp [Cutoff.rank]
      · rename_i reading
        cases stepped
        exact setTask_lt (fun initial => by simp [initial, Task.initial] at reading)
          (taskRank_setCutoff _ _ _ 0 (by simp [reading, Cutoff.rank]))
      · cases stepped
  | claimCutoff slot source =>
      simp only [next] at stepped
      split at stepped
      · rename_i claiming
        cases stepped
        refine rank_commit _ (below (fun initial => by simp [initial, Task.initial] at claiming))
          (taskRank_setCutoff _ _ _ 0 ?_)
        rw [claiming]
        split <;> simp [Cutoff.rank]
      · cases stepped
  | send slot party =>
      simp only [next] at stepped
      split at stepped
      · rename_i ready
        split at stepped
        · cases stepped
        · rename_i held
          split at stepped
          · cases stepped
            exact rank_send (below (sent_touched held)) (shape.coherent slot) ready held
          · cases stepped
      · cases stepped
  | receive =>
      simp only [next] at stepped
      split at stepped
      · rename_i collecting channel_eq
        split at stepped
        · cases stepped
          exact rank_lt_of_main rfl (by simp [contextRank, mainRank, collecting, channel_eq])
        · cases stepped
      · cases stepped
  | finish =>
      simp only [next] at stepped
      split at stepped
      · rename_i collecting
        split at stepped
        · cases stepped
          refine rank_lt_of_main rfl ?_
          simp only [contextRank, mainRank, collecting]
          cases state.runErr with
          | none =>
              simp only [Option.isSome_none, Option.isSome_some, Bool.false_eq_true, if_false,
                if_true]
              omega
          | some error => simp
        · cases stepped
      · cases stepped

/-! ## Somebody can move -/

theorem send_enabled (exact : (delivery config state).Exact) {party : Party}
    (ready : state.atSend slot party = true)
    (held : ((state.tasks slot).publishing party).isSome) :
    (next config state (.send slot party)).isSome := by
  obtain ⟨result, held⟩ := Option.isSome_iff_exists.mp held
  have room : state.channel.length < config.slots :=
    exact.room (show (delivery config state).holding slot party = some result from held)
  simp [next, ready, held, room]

/-- The holder of an outcome can bring it to the channel. -/
theorem holder_enabled (shape : state.Shape config) (exact : (delivery config state).Exact)
    {party : Party} (held : ((state.tasks slot).publishing party).isSome) :
    ∃ action : RunAction, action.driven = true ∧ (next config state action).isSome := by
  have coherent := shape.coherent slot
  cases party with
  | refusal =>
      refine ⟨.send slot .refusal, rfl, send_enabled exact ?_ held⟩
      simp [atSend, shape.refusing slot held]
  | cutoff source =>
      have sending := Cutoff.stage_eq_sending_iff.mp ((coherent.cutoff_sending source).mpr held)
      exact ⟨.send slot (.cutoff source), rfl, send_enabled exact (by simp [atSend, sending]) held⟩
  | completion =>
      have publishes := coherent.worker_publishes held
      cases worker_eq : (state.tasks slot).worker with
      | stopping => exact ⟨.stopCutoffs slot, rfl, by simp [next, worker_eq]⟩
      | releasing => exact ⟨.release slot, rfl, by simp [next, worker_eq]⟩
      | sending =>
          exact ⟨.send slot .completion, rfl, send_enabled exact (by simp [atSend, worker_eq]) held⟩
      | absent | spawned | checking | completing | claiming | exited =>
          simp [worker_eq, Worker.stage, Stage.publishes] at publishes

/-- After the end of the run context the cutoff of an undecided target can
move. -/
theorem undecided_enabled (shape : state.Shape config) (ended : state.runErr.isSome)
    (launched : slot < state.launched) (undecided : decided (state.tasks slot) = none) :
    ∃ action : RunAction, action.driven = true ∧ (next config state action).isSome := by
  have coherent := shape.coherent slot
  have unrefused : (state.tasks slot).refused = none := by
    cases refused : (state.tasks slot).refused with
    | none => rfl
    | some result => simp [decided, refused] at undecided
  have unclaimed : (state.tasks slot).claim = none := by
    simpa [decided, unrefused] using undecided
  have leased : (state.tasks slot).lease ≠ none := by
    have admitted := shape.admitted slot launched
    simpa [unrefused, Option.isSome_iff_ne_none] using admitted
  have present := (coherent.cutoff_absent .run).not.mpr leased
  have open_ := coherent.cutoff_claimed .run
  cases cutoff_eq : (state.tasks slot).cutoff .run with
  | armed => exact ⟨.fireCutoff slot .run, rfl, by simp [next, cutoff_eq, sourceDone, ended]⟩
  | readingParent | readingServer =>
      exact ⟨.observeCutoff slot .run, rfl, by simp [next, cutoff_eq]⟩
  | claiming => exact ⟨.claimCutoff slot .run, rfl, by simp [next, cutoff_eq]⟩
  | unregistered => simp [cutoff_eq] at present
  | stopped | sending | finished =>
      simp [cutoff_eq, Cutoff.stage, CutoffStage.claimed, unclaimed] at open_

/-- Once the report deadline has passed, the context of the run ends. -/
theorem context_enabled (context : state.ContextTimely config) (begun : state.Begun)
    (reached : state.runDeadline ≤ state.now) (running : state.runErr = none) :
    ∃ action : RunAction, action.driven = true ∧ (next config state action).isSome := by
  obtain ⟨opened, -, deadline_eq, timed_eq⟩ := context.opened begun
  by_cases timed : state.runTimed = true
  · exact ⟨.expireRun, rfl, by simp [next, running, timed, reached]⟩
  · cases parent_eq : state.parentErr with
    | some error => exact ⟨.inheritRun, rfl, by simp [next, running, parent_eq]⟩
    | none =>
        refine ⟨.cancelParent .deadlineExceeded, rfl, ?_⟩
        rw [timed_eq] at timed
        unfold RunConfig.runTimed at timed
        unfold RunConfig.runDeadline at deadline_eq
        cases deadline : config.parentDeadline with
        | none => simp [deadline] at timed
        | some parentDeadline =>
            simp only [deadline, decide_eq_true_eq, not_le] at timed deadline_eq
            rw [min_eq_left timed.le] at deadline_eq
            simp [next, parent_eq, deadline, ← deadline_eq, reached]

/-- After the report deadline a run that has not returned can move. -/
theorem driven_enabled (timely : state.Timely config) (begun : state.Begun)
    (reached : state.runDeadline ≤ state.now) (open_ : ¬ state.Returned) :
    ∃ action : RunAction, action.driven = true ∧ (next config state action).isSome := by
  have placed := timely.shape.placed
  unfold Placed at placed
  cases main_eq : state.main with
  | starting | rejected =>
      rw [main_eq] at placed
      simp [Begun, main_eq, placed] at begun
  | launching =>
      refine ⟨.launch, rfl, ?_⟩
      simp only [next, main_eq]
      split <;> rfl
  | refusing slot =>
      rw [main_eq] at placed
      exact holder_enabled timely.shape timely.exact placed.2
  | returned results => exact absurd ⟨results, main_eq⟩ open_
  | collecting =>
      rw [main_eq] at placed
      have received_le : state.received ≤ config.slots := timely.exact.received_le
      rcases received_le.eq_or_lt with all | waiting
      · exact ⟨.finish, rfl, by simp [next, main_eq, all]⟩
      · obtain ⟨slot, below, missing⟩ := timely.exact.exists_missing waiting
        cases running : state.runErr with
        | none => exact context_enabled timely.context begun reached running
        | some error =>
            cases decision : decided (state.tasks slot) with
            | none =>
                exact undecided_enabled timely.shape (by simp [running]) (placed ▸ below) decision
            | some result =>
                rcases timely.exact.kept decision with ⟨party, held⟩ | sent | stored
                · exact holder_enabled timely.shape timely.exact (Option.isSome_of_eq_some held)
                · refine ⟨.receive, rfl, ?_⟩
                  have member : (slot, result) ∈ state.channel := sent
                  obtain ⟨head, rest, channel_eq⟩ := List.exists_cons_of_ne_nil
                    (List.ne_nil_of_mem member)
                  simp [next, main_eq, channel_eq, waiting]
                · exact absurd (missing.symm.trans stored) (by simp)

end RunState
end CheckNetwork.Runner
