import CheckNetwork.Runner.Leases
import CheckNetwork.Runner.Progress

/-!
# One outcome for each target

The run of an accepted request returns exactly one result for each target, in
target order, whatever its checkers, deadlines, cancellation and shutdown do,
and gives every lease back once.
-/

namespace CheckNetwork.Runner.RunState

open Diagnostic Transition

variable {config : RunConfig} {state after : RunState} {slot : Nat} {claim : Claim}

/-- What a target's result carries, by the way it came about. -/
structure Carries (config : RunConfig) (slot : Nat) (exit : Exit) (result : Result) : Prop where
  kind : (∀ result, config.returns (config.target slot) result = true →
    result.kind = (config.target slot).kind) → result.kind = (config.target slot).kind
  address : (∀ result, config.returns (config.target slot) result = true →
    result.address = (config.target slot).address) → exit ≠ .panic →
      result.address = (config.target slot).address
  panic : exit = .panic → result.address = [] ∧
    result.errorCode = ("checker_panic" : String) ∧
    result.message = ("checker execution failed" : String) ∧ result.details = none

theorem Carries.executionResult (exit : Exit) (other : exit ≠ .panic) (code : String) (now : Int) :
    Carries config slot exit (config.executionResult slot code now) where
  kind _ := rfl
  address _ _ := rfl
  panic impossible := absurd impossible other

theorem Claim.Genuine.carries (genuine : Claim.Genuine config slot claim) :
    Carries config slot claim.exit claim.result := by
  unfold Claim.Genuine at genuine
  split at genuine
  · exact genuine.elim
  · rename_i exit_eq
    exact {
      kind := fun echoes => echoes _ genuine.2
      address := fun echoes _ => echoes _ genuine.2
      panic := fun impossible => by simp [exit_eq] at impossible }
  · rename_i exit_eq
    obtain ⟨-, started, now, result_eq⟩ := genuine
    rw [result_eq]
    exact {
      kind := fun _ => rfl
      address := fun _ other => absurd exit_eq other
      panic := fun _ => ⟨rfl, rfl, rfl, rfl⟩ }
  · rename_i code exit_eq
    obtain ⟨-, now, result_eq⟩ := genuine
    rw [result_eq]
    exact .executionResult _ (by simp [exit_eq]) _ _

/-- A decided target was refused at admission, or one of its completion and
its cutoffs won its claim. -/
def DecidedBy (config : RunConfig) (state : RunState) (slot : Nat) (result : Result) : Prop :=
  ((state.tasks slot).lease = none ∧ Carries config slot .capacity result) ∨
    ∃ claim, (state.tasks slot).claim = some claim ∧ claim.party ≠ .refusal ∧
      claim.result = result ∧ Carries config slot claim.exit result

theorem decidedBy (shape : state.Shape config) (genuine : TaskGenuine config slot (state.tasks slot))
    {result : Result} (decision : decided (state.tasks slot) = some result) :
    DecidedBy config state slot result := by
  unfold decided at decision
  split at decision
  · rename_i refused
    cases Option.some.inj decision
    obtain ⟨now, rfl⟩ := genuine.refused result refused
    exact .inl ⟨(shape.coherent slot).refused_lease (by simp [refused]),
      .executionResult _ (by simp) _ _⟩
  · obtain ⟨claim, claimed, rfl⟩ := Option.map_eq_some_iff.mp decision
    have known := genuine.claim claim claimed
    refine .inr ⟨claim, claimed, ?_, rfl, known.carries⟩
    intro refusal
    unfold Claim.Genuine at known
    split at known <;> simp [refusal] at known

/-- Every goroutine of the report that is at its send has room in the channel. -/
theorem send_room (shape : state.Shape config) (exact : (delivery config state).Exact)
    {party : Party} (ready : state.atSend slot party = true) :
    state.channel.length < config.slots := by
  have coherent := shape.coherent slot
  have held : ((state.tasks slot).publishing party).isSome := by
    cases party with
    | refusal =>
        have placed := shape.placed
        simp only [atSend] at ready
        split at ready
        · rename_i other refusing
          unfold Placed at placed
          rw [refusing] at placed
          have same : other = slot := by simpa using ready
          exact same ▸ placed.2
        · cases ready
    | completion =>
        simp only [atSend] at ready
        split at ready
        · rename_i sending
          exact coherent.worker_sending (by simp [sending])
        · cases ready
    | cutoff source =>
        simp only [atSend] at ready
        split at ready
        · rename_i sending
          exact (coherent.cutoff_sending source).mp (by simp [sending])
        · cases ready
  obtain ⟨result, held⟩ := Option.isSome_iff_exists.mp held
  exact exact.room (show (delivery config state).holding slot party = some result from held)

/-- No goroutine of the report and no timer of its contexts can move. -/
def Quiescent (config : RunConfig) (state : RunState) : Prop :=
  ∀ action : RunAction, action.driven = true → next config state action = none

theorem Quiescent.not_enabled (quiescent : state.Quiescent config) :
    ¬ ∃ action : RunAction, action.driven = true ∧ (next config state action).isSome := by
  rintro ⟨action, driven, enabled⟩
  simp [quiescent action driven] at enabled

/-- A target's goroutine only stops in its checker or at its end. -/
theorem Quiescent.worker (quiescent : state.Quiescent config) (shape : state.Shape config)
    (exact : (delivery config state).Exact) (leased : (state.tasks slot).lease ≠ none) :
    (state.tasks slot).worker = .checking ∨ (state.tasks slot).worker = .exited := by
  have coherent := shape.coherent slot
  have present := coherent.worker_absent.not.mpr leased
  have moved : ∀ action : RunAction, action.driven = true →
      ¬ (next config state action).isSome := fun action driven enabled =>
    quiescent.not_enabled ⟨action, driven, enabled⟩
  cases worker_eq : (state.tasks slot).worker with
  | checking => exact .inl rfl
  | exited => exact .inr rfl
  | absent => simp [worker_eq] at present
  | spawned => exact absurd (by simp [next, worker_eq]) (moved (.startCheck slot) rfl)
  | completing => exact absurd (by simp [next, worker_eq]) (moved (.observe slot) rfl)
  | claiming => exact absurd (by simp [next, worker_eq]) (moved (.claim slot) rfl)
  | stopping => exact absurd (by simp [next, worker_eq]) (moved (.stopCutoffs slot) rfl)
  | releasing => exact absurd (by simp [next, worker_eq]) (moved (.release slot) rfl)
  | sending =>
      have held := coherent.worker_sending (by simp [worker_eq])
      exact absurd (send_enabled exact (by simp [atSend, worker_eq]) held)
        (moved (.send slot .completion) rfl)

/-- The moves of the report end after at most `rank` steps. -/
theorem driven_bounded (shape : state.Shape config) {actions : List RunAction} {final : RunState}
    (driven : ∀ action ∈ actions, action.driven = true)
    (run : execute (next config) state actions = some final) :
    actions.length ≤ rank config state := by
  have bounded := length_le_of_execute
    (fun _ _ _ shape driven stepped =>
      ⟨shape.step (.of_next stepped), rank_lt_of_driven shape driven stepped⟩) shape driven run
  exact (Nat.le_add_right _ _).trans bounded

theorem returned_final (effect : Effect config state after) {results : List Result}
    (returned : state.main = .returned results) : after.main = .returned results := by
  cases effect with
  | clock | endParent | endRun | interfere | task | release => exact returned
  | reject main | cancelAll main | begin main | launch main | collect main | receive main
  | finish main => cases main.symm.trans returned
  | commit =>
      obtain ⟨-, -, -, -, -, main_eq, -⟩ := commit_fields state _ _ _
      exact main_eq.trans returned
  | @send slot party result ready =>
      cases party with
      | refusal => simp [atSend, returned] at ready
      | completion | cutoff => exact returned

/-- Whether a run is rejected depends on its arguments only. -/
theorem main_of_rejection {supervisor : CheckerSupervisor}
    (reachable : Reachable (next config) (RunState.initial config supervisor) state) :
    (∀ error, config.rejection = some error →
      state.main = .starting ∨ state.main = .rejected error) ∧
    ∀ error, state.main = .rejected error → config.rejection = some error := by
  refine reachable_of_effect (fun state => (∀ error, config.rejection = some error →
      state.main = .starting ∨ state.main = .rejected error) ∧
    ∀ error, state.main = .rejected error → config.rejection = some error)
    ⟨fun _ _ => .inl rfl, fun _ impossible => by cases impossible⟩ ?_ reachable
  intro state after held effect
  have keep : after.main = state.main → (∀ error, config.rejection = some error →
      after.main = .starting ∨ after.main = .rejected error) ∧
      ∀ error, after.main = .rejected error → config.rejection = some error := by
    intro main_eq
    rwa [main_eq]
  have running : ∀ {main main' : Main}, state.main = main → main ≠ .starting →
      (∀ error, main ≠ .rejected error) → after.main = main' →
      (∀ error, main' ≠ .rejected error) → (∀ error, config.rejection = some error →
        after.main = .starting ∨ after.main = .rejected error) ∧
        ∀ error, after.main = .rejected error → config.rejection = some error := by
    intro main main' main_eq started unrejected after_eq unrejected'
    constructor
    · intro error rejected
      rcases held.1 error rejected with starting | done
      · exact absurd (main_eq.symm.trans starting) started
      · exact absurd (main_eq.symm.trans done) (unrejected error)
    · intro error done
      exact absurd (after_eq.symm.trans done) (unrejected' error)
  cases effect with
  | clock | endParent | endRun | interfere | task | release | receive => exact keep rfl
  | commit =>
      obtain ⟨-, -, -, -, -, main_eq, -⟩ := commit_fields state _ _ _
      exact keep main_eq
  | reject starting rejected =>
      constructor
      · intro error found
        cases Option.some.inj (rejected.symm.trans found)
        exact .inr rfl
      · intro error done
        cases done
        exact rejected
  | cancelAll starting accepted | begin starting accepted =>
      exact ⟨by simp [accepted], fun _ impossible => by cases impossible⟩
  | launch launching =>
      revert running
      unfold launchSlot
      dsimp only
      split
      · exact fun running => running launching (by simp) (by simp)
          (rfl : _ = Main.refusing state.launched) (by simp)
      · exact fun running => running launching (by simp) (by simp) launching (by simp)
  | collect launching =>
      exact running launching (by simp) (by simp) (rfl : _ = Main.collecting) (by simp)
  | finish collecting =>
      exact running collecting (by simp) (by simp) (rfl : _ = Main.returned _) (by simp)
  | @send slot party result ready =>
      cases party with
      | completion | cutoff => exact keep rfl
      | refusal =>
          simp only [atSend] at ready
          split at ready
          · rename_i refusing
            exact running refusing (by simp) (by simp) (rfl : _ = Main.launching) (by simp)
          · cases ready

/-! ## The outcomes of a run -/

/-- An accepted run that has launched nothing can move too. -/
theorem unbegun_enabled (timely : state.Timely config)
    (rejected : ∀ error, state.main = .rejected error → config.rejection = some error)
    (accepted : config.rejection = none) (unbegun : ¬ state.Begun) (open_ : ¬ state.Returned) :
    ∃ action : RunAction, action.driven = true ∧ (next config state action).isSome := by
  have none_launched : state.launched = 0 := by
    by_contra launched
    exact unbegun (.inr (Nat.pos_of_ne_zero launched))
  have placed := timely.shape.placed
  unfold Placed at placed
  cases main_eq : state.main with
  | starting =>
      refine ⟨.begin, rfl, ?_⟩
      simp only [next, main_eq, accepted]
      split <;> rfl
  | rejected error => exact absurd (rejected error main_eq) (by simp [accepted])
  | launching => exact absurd (.inl main_eq) unbegun
  | refusing slot =>
      rw [main_eq] at placed
      exact absurd placed.1 (by simp [none_launched])
  | returned results => exact absurd ⟨results, main_eq⟩ open_
  | collecting =>
      rw [main_eq, none_launched] at placed
      have received_le : state.received ≤ config.slots := timely.exact.received_le
      have all : state.received = config.slots := by omega
      exact ⟨.finish, rfl, by simp [next, main_eq, all]⟩

/-- What holds of every state of a run. -/
structure OneOutcome (config : RunConfig) (state : RunState) : Prop where
  returned : ∀ results, state.main = .returned results → results.length = config.slots ∧
    ∀ slot < config.slots, ∃ result, results[slot]? = some result ∧
      (Carries config slot (.cutoff .cancelled) result ∧ state.launched = 0 ∨
        DecidedBy config state slot result)
  room : ∀ slot party, state.atSend slot party = true → state.channel.length < config.slots
  bounded : ∀ actions final, (∀ action ∈ actions, RunAction.driven action = true) →
    execute (next config) state actions = some final → actions.length ≤ rank config state
  quiescent_returned : state.Quiescent config → config.rejection = none →
    (state.Begun → state.runDeadline ≤ state.now) → state.Returned
  quiescent_released : state.Quiescent config → ∀ slot lease,
    (state.tasks slot).lease = some lease → (state.tasks slot).worker = .checking ∨
      (state.tasks slot).releases = 1
  released_once : ∀ slot lease, (state.tasks slot).lease = some lease →
    (state.tasks slot).releases ≤ 1 ∧
      ((state.supervisor.lease lease).done = true ↔ (state.tasks slot).releases = 1) ∧
      ∀ other, (state.tasks other).lease = some lease → other = slot

theorem oneOutcome {supervisor : CheckerSupervisor} (accounting : supervisor.Accounting)
    (reachable : Reachable (next config) (RunState.initial config supervisor) state) :
    state.OneOutcome config := by
  have timely := Timely.of_reachable reachable
  have leases := Leased.of_reachable accounting reachable
  have shape := timely.shape
  constructor
  case returned =>
    intro results returned
    rcases timely.settled results returned with ⟨launched, now, rfl⟩ | ⟨launched, length_eq, known⟩
    · refine ⟨by simp, fun slot below => ⟨config.executionResult slot "cancelled" now, ?_, ?_⟩⟩
      · simp [below]
      · exact .inl ⟨.executionResult _ (by simp) _ _, launched⟩
    · refine ⟨length_eq, fun slot below => ?_⟩
      obtain ⟨result, found, decision⟩ := known slot below
      exact ⟨result, found, .inr (decidedBy shape (genuine_of_reachable reachable slot) decision)⟩
  case room => exact fun slot party ready => send_room shape timely.exact ready
  case bounded => exact fun actions final driven run => driven_bounded shape driven run
  case quiescent_returned =>
    intro quiescent accepted reached
    by_contra open_
    by_cases begun : state.Begun
    · exact quiescent.not_enabled (driven_enabled timely begun (reached begun) open_)
    · exact quiescent.not_enabled
        (unbegun_enabled timely (main_of_rejection reachable).2 accepted begun open_)
  case quiescent_released =>
    intro quiescent slot lease leased
    refine (quiescent.worker shape timely.exact (by simp [leased])).imp_right fun exited => ?_
    rw [(shape.coherent slot).releases_eq, exited]
    rfl
  case released_once =>
    intro slot lease leased
    rw [(shape.coherent slot).releases_eq, leases.done_eq slot lease leased]
    refine ⟨by split <;> simp, by simp, fun other found => ?_⟩
    exact leases.distinct other slot lease found leased

/-- A report on more targets than a request may have. -/
def crowded : RunConfig :=
  { loneTarget with request := { loneTarget.request with
      targets := List.replicate 21 (loneTarget.target 0) } }

def strayFinal : RunState :=
  (execute (next loneTarget) (initial loneTarget loneSupervisor)
    [.begin, .launch, .startCheck 0, .returnCheck 0 { loneResult with kind := .dns }, .observe 0,
      .observe 0, .observe 0, .observe 0, .observe 0, .claim 0, .stopCutoffs 0, .release 0,
      .send 0 .completion, .launch, .receive, .finish]).get (by decide +kernel)

end CheckNetwork.Runner.RunState
