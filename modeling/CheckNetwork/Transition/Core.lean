import Mathlib.Data.List.Basic

/-!
# Labelled partial transitions

A component is a partial step function on its states, labelled by the actions
of its environment.  `none` means that the action is not enabled.  The file
supplies finite executions, reachability from a start state, the induction
rule by which an invariant of one step becomes an invariant of every reachable
state, and a bound on executions along which a rank decreases.
-/

namespace CheckNetwork.Transition

universe u v

/-- One labelled partial step. -/
abbrev Step (σ : Type u) (α : Type v) := σ → α → Option σ

variable {σ : Type u} {α : Type v} {next : Step σ α}

/-- Execute a list of actions, failing at the first disabled one. -/
def execute (next : Step σ α) : σ → List α → Option σ
  | state, [] => some state
  | state, action :: actions => (next state action).bind (execute next · actions)

@[simp]
theorem execute_nil (state : σ) : execute next state [] = some state :=
  rfl

theorem execute_cons_eq_some_iff {state final : σ} {action : α} {actions : List α} :
    execute next state (action :: actions) = some final ↔
      ∃ middle, next state action = some middle ∧
        execute next middle actions = some final := by
  simp [execute, Option.bind_eq_some_iff]

/-- States reached from `start` by finitely many enabled actions. -/
inductive Reachable (next : Step σ α) (start : σ) : σ → Prop
  | refl : Reachable next start start
  | tail {middle final : σ} (action : α) :
      Reachable next start middle → next middle action = some final →
        Reachable next start final

namespace Reachable

variable {start middle final : σ}

theorem trans (first : Reachable next start middle)
    (second : Reachable next middle final) : Reachable next start final := by
  induction second with
  | refl => exact first
  | tail action _ step ih => exact ih.tail action step

/-- Every successful execution reaches its final state. -/
theorem of_execute {actions : List α}
    (run : execute next start actions = some final) :
    Reachable next start final := by
  induction actions generalizing start with
  | nil =>
      cases run
      exact .refl
  | cons action actions ih =>
      obtain ⟨after, step, rest⟩ := execute_cons_eq_some_iff.mp run
      exact (Reachable.refl.tail action step).trans (ih rest)

/-- The invariant rule: a property of the start state preserved by every
enabled action holds of every reachable state. -/
theorem invariant (property : σ → Prop) (base : property start)
    (preserved : ∀ ⦃state action after⦄, property state →
      next state action = some after → property after)
    (reachable : Reachable next start final) : property final := by
  induction reachable with
  | refl => exact base
  | tail action _ step ih => exact preserved ih step

end Reachable

/-- Along allowed actions that each keep an invariant and lower a rank, an
execution is no longer than the rank of its first state. -/
theorem length_le_of_execute {rank : σ → Nat} {property : σ → Prop} {allowed : α → Prop}
    (lowers : ∀ ⦃state action after⦄, property state → allowed action →
      next state action = some after → property after ∧ rank after < rank state)
    {start final : σ} {actions : List α} (held : property start)
    (every : ∀ action ∈ actions, allowed action)
    (run : execute next start actions = some final) :
    actions.length + rank final ≤ rank start := by
  induction actions generalizing start with
  | nil =>
      cases run
      simp
  | cons action actions ih =>
      obtain ⟨after, step, rest⟩ := execute_cons_eq_some_iff.mp run
      obtain ⟨kept, lowered⟩ := lowers held (every action List.mem_cons_self) step
      have bounded := ih kept (fun other member => every other (List.mem_cons_of_mem _ member)) rest
      simp only [List.length_cons]
      omega

end CheckNetwork.Transition
