import CheckNetwork.Runner.Supervisor

/-!
# Runs of the checker supervisor

The supervisor is shared by concurrent reports and by the shutdown path.  A
run interleaves its operations arbitrarily: leases may be released or marked
any number of times and in any order, and any number of `ShutdownSnapshot`
calls may be waiting at once.  A waiting call returns through either branch of
its `select`, each enabled only while its channel is ready.
-/

namespace CheckNetwork.Runner

open Transition

/-- Progress of one `ShutdownSnapshot` call.  `expired` is whether the context
passed to the call is done. -/
inductive ShutdownCall
  | idle
  | waiting (drained : ChannelID) (expired : Bool)
  | returned (snapshot : CheckerSupervisorSnapshot) (expired : Bool)
  deriving DecidableEq

structure AdmissionState where
  supervisor : CheckerSupervisor
  calls : Nat → ShutdownCall

inductive AdmissionAction
  | acquire
  | release (lease : Option LeaseID)
  | markStuck (lease : Option LeaseID)
  | shutdown (call : Nat)
  | expire (call : Nat)
  | returnDrained (call : Nat)
  | returnExpired (call : Nat)

namespace AdmissionState

def initial (supervisor : CheckerSupervisor) : AdmissionState :=
  ⟨supervisor, fun _ => .idle⟩

def setCall (state : AdmissionState) (call : Nat) (progress : ShutdownCall) :
    AdmissionState :=
  { state with calls := Function.update state.calls call progress }

/-- A lease argument is `nil` or was returned by an earlier `acquire`. -/
def Allocated (state : AdmissionState) (lease : Option LeaseID) : Prop :=
  ∀ id ∈ lease, id < state.supervisor.nextLease

instance (state : AdmissionState) (lease : Option LeaseID) :
    Decidable (state.Allocated lease) :=
  match lease with
  | none => isTrue (by simp [Allocated])
  | some id => decidable_of_iff (id < state.supervisor.nextLease) (by simp [Allocated])

def next : Step AdmissionState AdmissionAction
  | state, .acquire => some { state with supervisor := state.supervisor.acquire.1 }
  | state, .release lease =>
      if state.Allocated lease then
        some { state with supervisor := state.supervisor.release lease }
      else none
  | state, .markStuck lease =>
      if state.Allocated lease then
        some { state with supervisor := state.supervisor.markStuck lease }
      else none
  | state, .shutdown call =>
      match state.calls call with
      | .idle =>
          let (supervisor, drained) := state.supervisor.beginShutdown
          some ({ state with supervisor := supervisor }.setCall call (.waiting drained false))
      | _ => none
  | state, .expire call =>
      match state.calls call with
      | .waiting drained _ => some (state.setCall call (.waiting drained true))
      | _ => none
  | state, .returnDrained call =>
      match state.calls call with
      | .waiting drained expired =>
          if state.supervisor.IsClosed drained then
            some (state.setCall call (.returned state.supervisor.snapshot expired))
          else none
      | _ => none
  | state, .returnExpired call =>
      match state.calls call with
      | .waiting _ true =>
          some (state.setCall call (.returned state.supervisor.snapshot true))
      | _ => none

/-- The invariant of a run.  A call that has begun closed admission, so the
drained channel it captured stays the current one. -/
structure Admission (state : AdmissionState) : Prop where
  accounting : state.supervisor.Accounting
  begun : ∀ call, state.calls call ≠ .idle → state.supervisor.admitting = false
  waiting : ∀ call drained expired, state.calls call = .waiting drained expired →
    drained = state.supervisor.drained
  returned : ∀ call snapshot, state.calls call = .returned snapshot false →
    snapshot.active = 0

namespace Admission

variable {state after : AdmissionState}

theorem initial {supervisor : CheckerSupervisor} (accounting : supervisor.Accounting) :
    (AdmissionState.initial supervisor).Admission where
  accounting := accounting
  begun call started := absurd rfl started
  waiting := by simp [AdmissionState.initial]
  returned := by simp [AdmissionState.initial]

/-- An operation that keeps admission and the drained channel keeps the
invariant. -/
theorem operate (admission : state.Admission) {supervisor : CheckerSupervisor}
    (accounting : supervisor.Accounting)
    (admitting_eq : supervisor.admitting = state.supervisor.admitting)
    (drained_eq : supervisor.drained = state.supervisor.drained) :
    ({ state with supervisor := supervisor } : AdmissionState).Admission where
  accounting := accounting
  begun call started := admitting_eq.trans (admission.begun call started)
  waiting call drained expired progress :=
    (admission.waiting call drained expired progress).trans drained_eq.symm
  returned := admission.returned

theorem acquire (admission : state.Admission) :
    ({ state with supervisor := state.supervisor.acquire.1 } : AdmissionState).Admission := by
  by_cases closed : state.supervisor.admitting = false
  · rw [state.supervisor.acquire_of_not_admitting closed]
    exact admission
  · have nothingBegun : ∀ call, state.calls call = .idle := by
      intro call
      by_contra started
      exact closed (admission.begun call started)
    exact {
      accounting := admission.accounting.acquire
      begun := fun call started => absurd (nothingBegun call) started
      waiting := by simp [nothingBegun]
      returned := by simp [nothingBegun] }

/-- Recording the progress of one call keeps the invariant when the new
progress satisfies its own clause. -/
theorem setCall (admission : state.Admission) {call : Nat} {progress : ShutdownCall}
    (closed : state.supervisor.admitting = false)
    (waiting : ∀ drained expired, progress = .waiting drained expired →
      drained = state.supervisor.drained)
    (returned : ∀ snapshot, progress = .returned snapshot false → snapshot.active = 0) :
    (state.setCall call progress).Admission where
  accounting := admission.accounting
  begun _ _ := closed
  waiting other drained expired := by
    by_cases same : other = call
    · subst same
      simpa [AdmissionState.setCall] using waiting drained expired
    · simpa [AdmissionState.setCall, same] using admission.waiting other drained expired
  returned other snapshot := by
    by_cases same : other = call
    · subst same
      simpa [AdmissionState.setCall] using returned snapshot
    · simpa [AdmissionState.setCall, same] using admission.returned other snapshot

theorem shutdown (admission : state.Admission) :
    ({ state with supervisor := state.supervisor.beginShutdown.1 } :
      AdmissionState).Admission where
  accounting := admission.accounting.beginShutdown
  begun _ _ := rfl
  waiting := admission.waiting
  returned := admission.returned

theorem step (admission : state.Admission) {action : AdmissionAction}
    (stepped : next state action = some after) : after.Admission := by
  cases action with
  | acquire =>
      cases stepped
      exact admission.acquire
  | release lease =>
      simp only [next] at stepped
      split at stepped
      · rename_i allocated
        cases stepped
        exact admission.operate (admission.accounting.release lease allocated)
          (state.supervisor.release_admitting lease)
          (state.supervisor.release_drained lease)
      · cases stepped
  | markStuck lease =>
      simp only [next] at stepped
      split at stepped
      · rename_i allocated
        cases stepped
        exact admission.operate (admission.accounting.markStuck lease allocated)
          (state.supervisor.markStuck_admitting lease)
          (state.supervisor.markStuck_drained lease)
      · cases stepped
  | shutdown call =>
      simp only [next] at stepped
      split at stepped
      · cases stepped
        apply admission.shutdown.setCall rfl
        · intro drained expired progress
          cases progress
          rfl
        · intro snapshot progress
          cases progress
      · cases stepped
  | expire call =>
      simp only [next] at stepped
      split at stepped
      · rename_i drained expired progress
        cases stepped
        apply admission.setCall (admission.begun call (by simp [progress]))
        · intro drained' expired' updated
          cases updated
          exact admission.waiting call _ _ progress
        · intro snapshot updated
          cases updated
      · cases stepped
  | returnDrained call =>
      simp only [next] at stepped
      split at stepped
      · rename_i drained expired progress
        split at stepped
        · rename_i closed
          cases stepped
          have current := admission.waiting call drained expired progress
          apply admission.setCall (admission.begun call (by simp [progress]))
          · intro drained' expired' updated
            cases updated
          · intro snapshot updated
            cases updated
            exact admission.accounting.drained_iff.mp (current ▸ closed)
        · cases stepped
      · cases stepped
  | returnExpired call =>
      simp only [next] at stepped
      split at stepped
      · rename_i drained progress
        cases stepped
        apply admission.setCall (admission.begun call (by simp [progress]))
        · intro drained' expired' updated
          cases updated
        · intro snapshot updated
          cases updated
      · cases stepped

end Admission

/-- Admission never reopens. -/
theorem next_admitting {state after : AdmissionState} {action : AdmissionAction}
    (closed : state.supervisor.admitting = false)
    (stepped : next state action = some after) : after.supervisor.admitting = false := by
  cases action with
  | acquire =>
      cases stepped
      simpa [state.supervisor.acquire_of_not_admitting closed] using closed
  | release lease =>
      simp only [next, Option.ite_none_right_eq_some, Option.some.injEq] at stepped
      rw [← stepped.2]
      simpa using closed
  | markStuck lease =>
      simp only [next, Option.ite_none_right_eq_some, Option.some.injEq] at stepped
      rw [← stepped.2]
      simpa using closed
  | shutdown call =>
      simp only [next] at stepped
      split at stepped
      · cases stepped
        rfl
      · cases stepped
  | expire call | returnDrained call | returnExpired call =>
      simp only [next] at stepped
      repeat' split at stepped
      all_goals cases stepped
      all_goals exact closed

/-- In every interleaving the counters count the unreleased leases, the
current drained channel is closed exactly while nothing is active, no channel
is closed twice, nothing is admitted from the first shutdown on, and a
shutdown whose context did not expire reports no active checker. -/
theorem reachable_accounting {requested : Int} {supervisor : CheckerSupervisor}
    {state : AdmissionState}
    (created : CheckerSupervisor.create requested = some supervisor)
    (reachable : Reachable next (initial supervisor) state) :
    (state.supervisor.active = state.supervisor.unreleased.card ∧
      0 ≤ state.supervisor.stuck ∧
      state.supervisor.stuck ≤ state.supervisor.active ∧
      state.supervisor.active ≤ state.supervisor.capacity) ∧
    (state.supervisor.IsClosed state.supervisor.drained ↔ state.supervisor.active = 0) ∧
    (∀ channel, state.supervisor.closes channel ≤ 1) ∧
    (∀ call, state.calls call ≠ .idle → ∀ later, Reachable next state later →
      later.supervisor.acquire = (later.supervisor, none)) ∧
    (∀ call snapshot, state.calls call = .returned snapshot false →
      snapshot.active = 0) := by
  have admission : state.Admission :=
    reachable.invariant Admission (Admission.initial (.create created))
      (fun _ _ _ held stepped => held.step stepped)
  have accounting := admission.accounting
  refine ⟨⟨?_, accounting.stuck_nonneg, accounting.stuck_le_active, accounting.active_le⟩,
    accounting.drained_iff, accounting.closes_le, ?_, admission.returned⟩
  · rw [accounting.active_eq, accounting.leases_eq]
  · intro call started later continued
    apply CheckerSupervisor.acquire_of_not_admitting
    exact continued.invariant (fun reached => reached.supervisor.admitting = false)
      (admission.begun call started) (fun _ _ _ => next_admitting)

/-- A supervisor of capacity one, before its first lease. -/
def idleSupervisor : CheckerSupervisor :=
  (CheckerSupervisor.create 1).get rfl

/-- One lease is granted, marked, released twice, and then shut down. -/
def drainedRun : List AdmissionAction :=
  [.acquire, .markStuck (some 0), .shutdown 0, .release (some 0), .release (some 0),
    .markStuck (some 0), .returnDrained 0]

def drainedState : AdmissionState :=
  (execute next (initial idleSupervisor) drainedRun).get rfl

theorem drainedRun_accounting :
    drainedState.calls 0 = .returned ⟨0, 1, 0⟩ false ∧
      drainedState.supervisor.active = drainedState.supervisor.unreleased.card ∧
      drainedState.supervisor.acquire = (drainedState.supervisor, none) := by
  have reachable : Reachable next (initial idleSupervisor) drainedState :=
    .of_execute (Option.some_get _).symm
  have accounted := reachable_accounting (Option.some_get _).symm reachable
  exact ⟨rfl, accounted.1.1, accounted.2.2.2.1 0 (by decide) drainedState .refl⟩

end AdmissionState
end CheckNetwork.Runner
