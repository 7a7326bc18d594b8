import Mathlib.Data.List.Sublists

/-!
# Turns in rotation

A queue serves the first of its items that is open and goes on after it.  An
item that is served twice has let every other open item be served in between.
-/

namespace CheckNetwork.Collection

universe u

variable {α : Type u}

/-- `item` is served: what stands before it is not open, and what stands behind
it comes next. -/
def Served (isOpen : α → Prop) (queue : List α) (item : α) (next : List α) : Prop :=
  ∃ before after, queue = before ++ item :: after ∧ (∀ other ∈ before, ¬isOpen other) ∧
    isOpen item ∧ next = after ++ (before ++ [item])

namespace Served

variable {isOpen : α → Prop} {queue next : List α} {item other first : α}

/-- What was served is the last one to be served again. -/
theorem sublist_self (served : Served isOpen queue item next) (member : other ∈ queue)
    (different : other ≠ item) : [other, item].Sublist next := by
  obtain ⟨before, after, rfl, -, -, rfl⟩ := served
  have kept : other ∈ after ++ before := by
    rcases List.mem_append.mp member with early | late
    · exact List.mem_append_right _ early
    · exact List.mem_append_left _ ((List.mem_cons.mp late).resolve_left different)
  rw [← List.append_assoc]
  exact (List.singleton_sublist.mpr kept).append (List.Sublist.refl [item])

/-- An open item is served before the items behind it. -/
theorem sublist_of_ne (served : Served isOpen queue item next) (nodup : queue.Nodup)
    (ahead : [other, first].Sublist queue) (open_ : isOpen other) (different : item ≠ other) :
    item ≠ first ∧ [other, first].Sublist next := by
  obtain ⟨before, after, rfl, closed, -, rfl⟩ := served
  have behind : [other, first].Sublist (item :: after) := by
    clear nodup
    induction before with
    | nil => exact ahead
    | cons passed before ih =>
        rw [List.forall_mem_cons] at closed
        rcases List.sublist_cons_iff.mp ahead with kept | ⟨rest, rest_eq, -⟩
        · exact ih kept closed.2
        · rw [List.cons.injEq] at rest_eq
          exact absurd (rest_eq.1 ▸ open_) closed.1
  have later : [other, first].Sublist after := by
    rcases List.sublist_cons_iff.mp behind with kept | ⟨rest, rest_eq, -⟩
    · exact kept
    · rw [List.cons.injEq] at rest_eq
      exact absurd rest_eq.1.symm different
  refine ⟨?_, later.trans (List.sublist_append_left _ _)⟩
  rintro rfl
  have once := (List.nodup_cons.mp (List.nodup_append.mp nodup).2.1).1
  exact once (later.subset (by simp))

end Served

/-- A queue over time, in which at most one item is served at a time and an item
that is not open stays so. -/
structure Rotation (queue : Nat → List α) (isOpen : Nat → α → Prop) (served : Nat → Option α) :
    Prop where
  nodup : ∀ time, (queue time).Nodup
  step : ∀ time item, served time = some item →
    Served (isOpen time) (queue time) item (queue (time + 1))
  idle : ∀ time, served time = none → queue (time + 1) = queue time
  closes : ∀ time item, isOpen (time + 1) item → isOpen time item

namespace Rotation

variable {queue : Nat → List α} {isOpen : Nat → α → Prop} {served : Nat → Option α}
  (rotation : Rotation queue isOpen served)

include rotation

theorem isOpen_of_le {early late : Nat} (le : early ≤ late) {item : α} (open_ : isOpen late item) :
    isOpen early item := by
  induction late, le using Nat.le_induction with
  | base => exact open_
  | succ late _ ih => exact ih (rotation.closes late item open_)

/-- Between two turns of an item, every other item that is still open is
served. -/
theorem served_between {early late : Nat} (lt : early < late) {item other : α}
    (first : served early = some item) (again : served late = some item)
    (member : other ∈ queue early) (different : other ≠ item) (open_ : isOpen late other) :
    ∃ time, early < time ∧ time < late ∧ served time = some other := by
  by_contra never
  push Not at never
  have ahead : ∀ time, early + 1 ≤ time → time ≤ late → [other, item].Sublist (queue time) := by
    intro time after
    induction time, after using Nat.le_induction with
    | base => exact fun _ => (rotation.step early item first).sublist_self member different
    | succ time after ih =>
        intro within
        have earlier := ih (Nat.le_of_succ_le within)
        have skipped := never time after within
        cases turn : served time with
        | none => rwa [rotation.idle time turn]
        | some next =>
            rw [turn] at skipped
            exact ((rotation.step time next turn).sublist_of_ne (rotation.nodup time) earlier
              (rotation.isOpen_of_le (Nat.le_of_succ_le within) open_)
              (fun same => skipped (congrArg some same))).2
  exact ((rotation.step late item again).sublist_of_ne (rotation.nodup late) (ahead late lt le_rfl)
    open_ (Ne.symm different)).1 rfl

end Rotation

end CheckNetwork.Collection
