import CheckNetwork.Transition.Core
import Mathlib.Data.Finset.Card
import Mathlib.Data.Finset.Range
import Mathlib.Logic.Function.Basic

/-!
# Checker admission

`CheckerSupervisor` owns the process-wide execution limit of the checkers.
Every method holds its mutex for its whole body, so each is one atomic
operation here; `ShutdownSnapshot` releases the mutex while it waits, and is
split at that point.  Leases and drained channels are references in the source
and are named by allocation order, with the fields the source reads through
them kept as finite maps.
-/

namespace CheckNetwork.Runner

abbrev LeaseID := Nat

abbrev ChannelID := Nat

/-- The two fields of a `checkerLease`. -/
structure CheckerLease where
  stuck : Bool
  done : Bool
  deriving DecidableEq, Repr

structure CheckerSupervisorSnapshot where
  active : Int
  capacity : Int
  stuck : Int
  deriving DecidableEq, Repr

/-- Supervisor fields, together with the leases and channels it has allocated.
`closes` counts the `close` calls on each channel; a second one would panic. -/
structure CheckerSupervisor where
  capacity : Int
  active : Int
  stuck : Int
  leases : Finset LeaseID
  admitting : Bool
  cancelled : Bool
  drained : ChannelID
  lease : LeaseID → CheckerLease
  nextLease : LeaseID
  closes : ChannelID → Nat
  nextChannel : ChannelID

def defaultCheckerCapacity : Int := 80

def maxCheckerCapacity : Int := 1024

namespace CheckerSupervisor

/-- `NewCheckerSupervisor`: capacity zero selects the default, and the drained
channel of an idle supervisor starts closed. -/
def create (requested : Int) : Option CheckerSupervisor :=
  let capacity := if requested = 0 then defaultCheckerCapacity else requested
  if capacity < 1 ∨ capacity > maxCheckerCapacity then none
  else some {
    capacity := capacity
    active := 0
    stuck := 0
    leases := ∅
    admitting := true
    cancelled := false
    drained := 0
    lease := fun _ => ⟨false, false⟩
    nextLease := 0
    closes := fun channel => if channel = 0 then 1 else 0
    nextChannel := 1 }

def makeDrained (supervisor : CheckerSupervisor) : CheckerSupervisor :=
  { supervisor with
    drained := supervisor.nextChannel
    nextChannel := supervisor.nextChannel + 1 }

/-- Record a new lease. -/
def grant (supervisor : CheckerSupervisor) : CheckerSupervisor :=
  { supervisor with
    active := supervisor.active + 1
    leases := insert supervisor.nextLease supervisor.leases
    lease := Function.update supervisor.lease supervisor.nextLease ⟨false, false⟩
    nextLease := supervisor.nextLease + 1 }

/-- The returned lease is `none` exactly where the source returns `nil`. -/
def acquire (supervisor : CheckerSupervisor) : CheckerSupervisor × Option LeaseID :=
  if !supervisor.admitting ∨ supervisor.active ≥ supervisor.capacity then
    (supervisor, none)
  else
    let ready := if supervisor.active = 0 then supervisor.makeDrained else supervisor
    (ready.grant, some ready.nextLease)

def closeDrained (supervisor : CheckerSupervisor) : CheckerSupervisor :=
  { supervisor with
    closes := Function.update supervisor.closes supervisor.drained
      (supervisor.closes supervisor.drained + 1) }

/-- The part of `release` below its early return. -/
def releaseLive (supervisor : CheckerSupervisor) (id : LeaseID) : CheckerSupervisor :=
  let record := supervisor.lease id
  let remaining := { supervisor with
    lease := Function.update supervisor.lease id { record with done := true }
    leases := supervisor.leases.erase id
    stuck := if record.stuck then supervisor.stuck - 1 else supervisor.stuck
    active := supervisor.active - 1 }
  if remaining.active = 0 then remaining.closeDrained else remaining

def release (supervisor : CheckerSupervisor) : Option LeaseID → CheckerSupervisor
  | none => supervisor
  | some id => if (supervisor.lease id).done then supervisor else supervisor.releaseLive id

def markStuck (supervisor : CheckerSupervisor) : Option LeaseID → CheckerSupervisor
  | none => supervisor
  | some id =>
      let record := supervisor.lease id
      if record.done ∨ record.stuck then supervisor
      else { supervisor with
        lease := Function.update supervisor.lease id { record with stuck := true }
        stuck := supervisor.stuck + 1 }

def snapshot (supervisor : CheckerSupervisor) : CheckerSupervisorSnapshot :=
  ⟨supervisor.active, supervisor.capacity, supervisor.stuck⟩

/-- Leases that the loop of `ShutdownSnapshot` marks. -/
def unmarked (supervisor : CheckerSupervisor) : Finset LeaseID :=
  supervisor.leases.filter fun id =>
    !(supervisor.lease id).done && !(supervisor.lease id).stuck

/-- `ShutdownSnapshot` up to its wait.  It captures the current drained
channel, which the caller then waits on. -/
def beginShutdown (supervisor : CheckerSupervisor) : CheckerSupervisor × ChannelID :=
  ({ supervisor with
      admitting := false
      lease := fun id =>
        if id ∈ supervisor.unmarked then { supervisor.lease id with stuck := true }
        else supervisor.lease id
      stuck := supervisor.stuck + supervisor.unmarked.card
      cancelled := true },
    supervisor.drained)

def IsClosed (supervisor : CheckerSupervisor) (channel : ChannelID) : Prop :=
  0 < supervisor.closes channel

instance (supervisor : CheckerSupervisor) (channel : ChannelID) :
    Decidable (supervisor.IsClosed channel) :=
  inferInstanceAs (Decidable (0 < supervisor.closes channel))

/-- Leases handed out and not yet released. -/
def unreleased (supervisor : CheckerSupervisor) : Finset LeaseID :=
  (Finset.range supervisor.nextLease).filter fun id => !(supervisor.lease id).done

@[simp]
theorem mem_unreleased {supervisor : CheckerSupervisor} {id : LeaseID} :
    id ∈ supervisor.unreleased ↔
      id < supervisor.nextLease ∧ (supervisor.lease id).done = false := by
  simp [unreleased]

/-! ## The counters -/

/-- What every operation preserves.  The lease map holds exactly the
unreleased leases, both counters count it, and the current drained channel is
the only one that can still be open. -/
structure Accounting (supervisor : CheckerSupervisor) : Prop where
  leases_eq : supervisor.leases = supervisor.unreleased
  active_eq : supervisor.active = supervisor.leases.card
  stuck_eq : supervisor.stuck =
    (supervisor.leases.filter fun id => (supervisor.lease id).stuck).card
  active_le : supervisor.active ≤ supervisor.capacity
  closes_le : ∀ channel, supervisor.closes channel ≤ 1
  drained_iff : supervisor.IsClosed supervisor.drained ↔ supervisor.active = 0
  drained_lt : supervisor.drained < supervisor.nextChannel
  fresh_open : ∀ channel, supervisor.nextChannel ≤ channel → supervisor.closes channel = 0

namespace Accounting

variable {supervisor : CheckerSupervisor}

theorem mem_leases (accounting : supervisor.Accounting) {id : LeaseID} :
    id ∈ supervisor.leases ↔
      id < supervisor.nextLease ∧ (supervisor.lease id).done = false := by
  rw [accounting.leases_eq, mem_unreleased]

theorem stuck_nonneg (accounting : supervisor.Accounting) : 0 ≤ supervisor.stuck := by
  rw [accounting.stuck_eq]
  exact Int.natCast_nonneg _

theorem stuck_le_active (accounting : supervisor.Accounting) :
    supervisor.stuck ≤ supervisor.active := by
  rw [accounting.stuck_eq, accounting.active_eq]
  exact_mod_cast Finset.card_filter_le _ _

theorem create {requested : Int} {fresh : CheckerSupervisor}
    (created : CheckerSupervisor.create requested = some fresh) : fresh.Accounting := by
  unfold CheckerSupervisor.create at created
  dsimp only at created
  generalize selected : (if requested = 0 then defaultCheckerCapacity else requested) =
    capacity at created
  by_cases refused : capacity < 1 ∨ capacity > maxCheckerCapacity
  · simp [refused] at created
  · rw [if_neg refused] at created
    cases created
    refine ⟨rfl, rfl, rfl, ?_, ?_, by simp [IsClosed], Nat.zero_lt_one, ?_⟩
    · change (0 : Int) ≤ capacity
      omega
    · intro channel
      dsimp only
      split <;> omega
    · intro channel fresh
      have positive : channel ≠ 0 := Nat.one_le_iff_ne_zero.mp fresh
      simp [positive]

/-- Recording a lease below the capacity keeps the accounting, provided the
current drained channel is open. -/
theorem grant (leases_eq : supervisor.leases = supervisor.unreleased)
    (active_eq : supervisor.active = supervisor.leases.card)
    (stuck_eq : supervisor.stuck =
      (supervisor.leases.filter fun id => (supervisor.lease id).stuck).card)
    (active_lt : supervisor.active < supervisor.capacity)
    (closes_le : ∀ channel, supervisor.closes channel ≤ 1)
    (drained_open : supervisor.closes supervisor.drained = 0)
    (drained_lt : supervisor.drained < supervisor.nextChannel)
    (fresh_open : ∀ channel, supervisor.nextChannel ≤ channel →
      supervisor.closes channel = 0) : supervisor.grant.Accounting where
  leases_eq := by
    ext id
    simp only [CheckerSupervisor.grant, mem_unreleased, Finset.mem_insert, leases_eq]
    by_cases new : id = supervisor.nextLease
    · subst new
      simp
    · simp only [new, false_or, Function.update_of_ne new]
      constructor
      · rintro ⟨below, live⟩
        exact ⟨Nat.lt_succ_of_lt below, live⟩
      · rintro ⟨below, live⟩
        exact ⟨lt_of_le_of_ne (Nat.lt_succ_iff.mp below) new, live⟩
  active_eq := by
    have new : supervisor.nextLease ∉ supervisor.leases := by simp [leases_eq]
    simp only [CheckerSupervisor.grant, Finset.card_insert_of_notMem new, active_eq]
    push_cast
    rfl
  stuck_eq := by
    have new : supervisor.nextLease ∉ supervisor.leases := by simp [leases_eq]
    simp only [CheckerSupervisor.grant, Finset.filter_insert, Function.update_self,
      Bool.false_eq_true, if_false, stuck_eq]
    congr 2
    apply Finset.filter_congr
    intro id idMem
    have old : id ≠ supervisor.nextLease := fun equal => new (equal ▸ idMem)
    rw [Function.update_of_ne old]
  active_le := by
    simp only [CheckerSupervisor.grant]
    omega
  closes_le := closes_le
  drained_iff := by
    have nonneg : 0 ≤ supervisor.active := active_eq ▸ Int.natCast_nonneg _
    simp only [IsClosed, CheckerSupervisor.grant, drained_open]
    omega
  drained_lt := drained_lt
  fresh_open := fresh_open

theorem acquire (accounting : supervisor.Accounting) :
    supervisor.acquire.1.Accounting := by
  unfold CheckerSupervisor.acquire
  by_cases refused : !supervisor.admitting ∨ supervisor.active ≥ supervisor.capacity
  · rwa [if_pos refused]
  · rw [if_neg refused]
    have active_lt : supervisor.active < supervisor.capacity :=
      not_le.mp (not_or.mp refused).2
    by_cases idle : supervisor.active = 0
    · simp only [idle, if_true]
      exact grant accounting.leases_eq
        accounting.active_eq accounting.stuck_eq active_lt accounting.closes_le
        (accounting.fresh_open _ le_rfl) (Nat.lt_succ_self _)
        (fun _ above => accounting.fresh_open _ (Nat.le_of_succ_le above))
    · simp only [idle, if_false]
      have drained_open : supervisor.closes supervisor.drained = 0 :=
        Nat.eq_zero_of_not_pos (mt accounting.drained_iff.mp idle)
      exact grant accounting.leases_eq accounting.active_eq accounting.stuck_eq
        active_lt accounting.closes_le drained_open accounting.drained_lt
        accounting.fresh_open

theorem unreleased_finish {id : LeaseID} (record : CheckerLease) :
    ((Finset.range supervisor.nextLease).filter fun other =>
        !(Function.update supervisor.lease id { record with done := true } other).done) =
      supervisor.unreleased.erase id := by
  ext other
  by_cases same : other = id
  · subst same
    simp
  · simp [same]

theorem stuck_finish (accounting : supervisor.Accounting) {id : LeaseID}
    (idMem : id ∈ supervisor.leases) :
    (if (supervisor.lease id).stuck then supervisor.stuck - 1 else supervisor.stuck) =
      (((supervisor.leases.erase id).filter fun other =>
        (Function.update supervisor.lease id
          { supervisor.lease id with done := true } other).stuck).card : Int) := by
  have others : ((supervisor.leases.erase id).filter fun other =>
        (Function.update supervisor.lease id
          { supervisor.lease id with done := true } other).stuck) =
      (supervisor.leases.filter fun other => (supervisor.lease other).stuck).erase id := by
    ext other
    by_cases same : other = id
    · subst same
      simp
    · simp [same]
  rw [others, accounting.stuck_eq]
  by_cases marked : (supervisor.lease id).stuck
  · have idStuck : id ∈ supervisor.leases.filter fun other => (supervisor.lease other).stuck :=
      Finset.mem_filter.mpr ⟨idMem, marked⟩
    have positive := Finset.card_pos.mpr ⟨id, idStuck⟩
    rw [if_pos marked, Finset.card_erase_of_mem idStuck]
    omega
  · have notStuck : id ∉ supervisor.leases.filter fun other => (supervisor.lease other).stuck :=
      fun member => marked (Finset.mem_filter.mp member).2
    rw [if_neg marked, Finset.erase_eq_of_notMem notStuck]

theorem releaseLive (accounting : supervisor.Accounting) {id : LeaseID}
    (idMem : id ∈ supervisor.leases) : (supervisor.releaseLive id).Accounting := by
  have positive : 0 < supervisor.leases.card := Finset.card_pos.mpr ⟨id, idMem⟩
  have active_eq := accounting.active_eq
  have busy : supervisor.active ≠ 0 := by omega
  have drained_open : supervisor.closes supervisor.drained = 0 :=
    Nat.eq_zero_of_not_pos (mt accounting.drained_iff.mp busy)
  have remaining_eq : supervisor.leases.erase id = supervisor.unreleased.erase id := by
    rw [accounting.leases_eq]
  have active_after : supervisor.active - 1 = ((supervisor.leases.erase id).card : Int) := by
    rw [Finset.card_erase_of_mem idMem]
    omega
  have active_le : supervisor.active - 1 ≤ supervisor.capacity := by
    have := accounting.active_le
    omega
  unfold CheckerSupervisor.releaseLive
  dsimp only
  by_cases last : supervisor.active - 1 = 0
  · rw [if_pos last]
    refine ⟨remaining_eq.trans (unreleased_finish _).symm, active_after,
      accounting.stuck_finish idMem, active_le, ?_, ?_, accounting.drained_lt, ?_⟩
    · intro channel
      by_cases current : channel = supervisor.drained
      · subst current
        simp [closeDrained, drained_open]
      · simpa [closeDrained, current] using accounting.closes_le channel
    · simp [IsClosed, closeDrained, last]
    · intro channel above
      have other : channel ≠ supervisor.drained :=
        fun equal => absurd accounting.drained_lt (not_lt.mpr (equal ▸ above))
      simpa [closeDrained, other] using accounting.fresh_open channel above
  · rw [if_neg last]
    exact ⟨remaining_eq.trans (unreleased_finish _).symm, active_after,
      accounting.stuck_finish idMem, active_le, accounting.closes_le,
      by simp [IsClosed, drained_open, last], accounting.drained_lt, accounting.fresh_open⟩

/-- A second release, and a release of `nil`, change nothing. -/
theorem release (accounting : supervisor.Accounting) (lease : Option LeaseID)
    (allocated : ∀ id ∈ lease, id < supervisor.nextLease) :
    (supervisor.release lease).Accounting := by
  cases lease with
  | none => exact accounting
  | some id =>
      by_cases released : (supervisor.lease id).done
      · simpa [CheckerSupervisor.release, released] using accounting
      · simp only [CheckerSupervisor.release, released, Bool.false_eq_true, if_false]
        exact accounting.releaseLive
          (accounting.mem_leases.mpr ⟨allocated id rfl, by simpa using released⟩)

/-- Marking leases as stuck adds exactly the newly marked unreleased ones. -/
theorem mark (accounting : supervisor.Accounting) (marked : Finset LeaseID)
    (subset : marked ⊆ supervisor.leases)
    (unmarked : ∀ id ∈ marked, (supervisor.lease id).stuck = false) :
    ({ supervisor with
        lease := fun id =>
          if id ∈ marked then { supervisor.lease id with stuck := true }
          else supervisor.lease id
        stuck := supervisor.stuck + marked.card } : CheckerSupervisor).Accounting where
  leases_eq := by
    rw [accounting.leases_eq]
    ext id
    simp only [mem_unreleased]
    split <;> rfl
  active_eq := accounting.active_eq
  stuck_eq := by
    have split_eq : (supervisor.leases.filter fun id =>
          (if id ∈ marked then { supervisor.lease id with stuck := true }
            else supervisor.lease id : CheckerLease).stuck) =
        (supervisor.leases.filter fun id => (supervisor.lease id).stuck) ∪ marked := by
      ext id
      by_cases chosen : id ∈ marked
      · simp [chosen, subset chosen]
      · simp [chosen]
    have apart : Disjoint (supervisor.leases.filter fun id => (supervisor.lease id).stuck)
        marked := by
      rw [Finset.disjoint_left]
      intro id idStuck chosen
      have := unmarked id chosen
      simp [this] at idStuck
    simp only [split_eq, Finset.card_union_of_disjoint apart, accounting.stuck_eq]
    push_cast
    rfl
  active_le := accounting.active_le
  closes_le := accounting.closes_le
  drained_iff := accounting.drained_iff
  drained_lt := accounting.drained_lt
  fresh_open := accounting.fresh_open

theorem markStuck (accounting : supervisor.Accounting) (lease : Option LeaseID)
    (allocated : ∀ id ∈ lease, id < supervisor.nextLease) :
    (supervisor.markStuck lease).Accounting := by
  cases lease with
  | none => exact accounting
  | some id =>
      by_cases settled : (supervisor.lease id).done ∨ (supervisor.lease id).stuck
      · simpa [CheckerSupervisor.markStuck, settled] using accounting
      · have live : (supervisor.lease id).done = false := by
          simpa using (not_or.mp settled).1
        have fresh : (supervisor.lease id).stuck = false := by
          simpa using (not_or.mp settled).2
        have marked := accounting.mark {id}
          (Finset.singleton_subset_iff.mpr
            (accounting.mem_leases.mpr ⟨allocated id rfl, live⟩))
          (fun other member => Finset.mem_singleton.mp member ▸ fresh)
        have lease_eq : (fun other =>
              if other ∈ ({id} : Finset LeaseID) then
                { supervisor.lease other with stuck := true }
              else supervisor.lease other) =
            Function.update supervisor.lease id
              { supervisor.lease id with stuck := true } := by
          funext other
          by_cases same : other = id
          · subst same
            simp
          · simp [same]
        rw [lease_eq] at marked
        simpa [CheckerSupervisor.markStuck, settled] using marked

theorem beginShutdown (accounting : supervisor.Accounting) :
    supervisor.beginShutdown.1.Accounting := by
  have marked := accounting.mark supervisor.unmarked
    (Finset.filter_subset _ _)
    (fun id member => by
      have := (Finset.mem_filter.mp member).2
      simp only [Bool.and_eq_true, Bool.not_eq_true'] at this
      exact this.2)
  exact { marked with }

end Accounting

/-! ## Admission after a shutdown began -/

variable (supervisor : CheckerSupervisor)

theorem acquire_of_not_admitting (closed : supervisor.admitting = false) :
    supervisor.acquire = (supervisor, none) := by
  simp [acquire, closed]

@[simp]
theorem release_admitting (lease : Option LeaseID) :
    (supervisor.release lease).admitting = supervisor.admitting := by
  cases lease with
  | none => rfl
  | some id =>
      simp only [release, releaseLive]
      split
      · rfl
      · split <;> rfl

@[simp]
theorem release_drained (lease : Option LeaseID) :
    (supervisor.release lease).drained = supervisor.drained := by
  cases lease with
  | none => rfl
  | some id =>
      simp only [release, releaseLive]
      split
      · rfl
      · split <;> rfl

@[simp]
theorem markStuck_admitting (lease : Option LeaseID) :
    (supervisor.markStuck lease).admitting = supervisor.admitting := by
  cases lease with
  | none => rfl
  | some id =>
      simp only [markStuck]
      split <;> rfl

@[simp]
theorem markStuck_drained (lease : Option LeaseID) :
    (supervisor.markStuck lease).drained = supervisor.drained := by
  cases lease with
  | none => rfl
  | some id =>
      simp only [markStuck]
      split <;> rfl

@[simp]
theorem release_cancelled (lease : Option LeaseID) :
    (supervisor.release lease).cancelled = supervisor.cancelled := by
  cases lease with
  | none => rfl
  | some id =>
      simp only [release, releaseLive]
      split
      · rfl
      · split <;> rfl

@[simp]
theorem markStuck_cancelled (lease : Option LeaseID) :
    (supervisor.markStuck lease).cancelled = supervisor.cancelled := by
  cases lease with
  | none => rfl
  | some id =>
      simp only [markStuck]
      split <;> rfl

@[simp]
theorem acquire_cancelled : supervisor.acquire.1.cancelled = supervisor.cancelled := by
  unfold acquire
  split
  · rfl
  · dsimp only
    split <;> rfl

/-! ## Leases that have been handed out -/

@[simp]
theorem release_nextLease (lease : Option LeaseID) :
    (supervisor.release lease).nextLease = supervisor.nextLease := by
  cases lease with
  | none => rfl
  | some id =>
      simp only [release, releaseLive]
      split
      · rfl
      · split <;> rfl

@[simp]
theorem markStuck_nextLease (lease : Option LeaseID) :
    (supervisor.markStuck lease).nextLease = supervisor.nextLease := by
  cases lease with
  | none => rfl
  | some id =>
      simp only [markStuck]
      split <;> rfl

theorem acquire_nextLease (supervisor : CheckerSupervisor) :
    supervisor.nextLease ≤ supervisor.acquire.1.nextLease := by
  unfold acquire
  split
  · exact le_rfl
  · dsimp only
    split <;> exact Nat.le_succ _

/-- A granted lease is the next one, and is not released yet. -/
theorem acquire_eq_some {after : CheckerSupervisor} {id : LeaseID}
    (acquired : supervisor.acquire = (after, some id)) :
    id = supervisor.nextLease ∧ after.nextLease = id + 1 ∧ (after.lease id).done = false := by
  unfold acquire at acquired
  split at acquired
  · cases acquired
  · dsimp only at acquired
    split at acquired
    all_goals
      cases acquired
      exact ⟨rfl, rfl, by simp [grant, makeDrained]⟩

theorem acquire_done {id : LeaseID} (allocated : id < supervisor.nextLease) :
    (supervisor.acquire.1.lease id).done = (supervisor.lease id).done := by
  unfold acquire
  split
  · rfl
  · dsimp only
    split
    all_goals
      simp only [grant, makeDrained]
      rw [Function.update_of_ne allocated.ne]

theorem release_done (released id : LeaseID) :
    ((supervisor.release (some released)).lease id).done =
      (decide (id = released) || (supervisor.lease id).done) := by
  simp only [release]
  by_cases same : id = released
  · subst same
    split
    · rename_i done
      simp [done]
    · simp only [releaseLive]
      split <;> simp [closeDrained]
  · split
    · simp [same]
    · simp only [releaseLive]
      split <;> simp [closeDrained, same]

@[simp]
theorem markStuck_done (lease : Option LeaseID) (id : LeaseID) :
    ((supervisor.markStuck lease).lease id).done = (supervisor.lease id).done := by
  cases lease with
  | none => rfl
  | some marked =>
      simp only [markStuck]
      split
      · rfl
      · by_cases same : id = marked
        · subst same
          simp
        · simp [same]

@[simp]
theorem beginShutdown_done (id : LeaseID) :
    (supervisor.beginShutdown.1.lease id).done = (supervisor.lease id).done := by
  simp only [beginShutdown]
  split <;> rfl

end CheckerSupervisor
end CheckNetwork.Runner
