import CheckNetwork.Payload.Validate

/-!
# The active references during a walk

A walk leaves the active references as they were, whatever it returns, and
depends on them only through its guard.
-/

namespace CheckNetwork.Payload

open Go Diagnostic Check

section Check

variable {first second : Check} {meter : Meter}

theorem andThen_of_none (passed : (first meter).1 = none) :
    first.andThen second meter = second (first meter).2 := by
  rw [andThen]
  split
  · next same => rw [same]
  · next same => rw [same] at passed; cases passed

theorem andThen_of_some {failure : Failure} (failed : (first meter).1 = some failure) :
    first.andThen second meter = first meter := by
  rw [andThen]
  split
  · next same => rw [same] at failed; cases failed
  · next same => rw [same]

/-- What passes in sequence passes in turn. -/
theorem andThen_eq_none_iff : (first.andThen second meter).1 = none ↔
    (first meter).1 = none ∧ (second (first meter).2).1 = none := by
  cases outcome : (first meter).1 with
  | none => rw [andThen_of_none outcome]; exact (and_iff_right rfl).symm
  | some failure =>
      rw [andThen_of_some outcome, outcome]
      exact ⟨fun absurd => (Option.some_ne_none _ absurd).elim, fun both => both.1⟩

end Check

/-! ## What every step of a walk keeps -/

/-- A property of checks that the steps of a walk have and its sequencing and
its guard keep. -/
structure Kept (guard : Reference → Check → Check) (R : Check → Prop) : Prop where
  pass : R pass
  fail : ∀ failure, R (fail failure)
  andThen : ∀ {first second}, R first → R second → R (first.andThen second)
  addNode : R addNode
  addContainer : ∀ elements, R (addContainer elements)
  addString : ∀ length, R (addString length)
  addStringKey : ∀ key, R (addStringKey key)
  addTopologyNode : ∀ type, R (addTopologyNode type)
  addTopologyLink : ∀ type, R (addTopologyLink type)
  guard : ∀ reference {visit}, R visit → R (guard reference visit)

namespace Kept

variable {guard : Reference → Check → Check} {R : Check → Prop} {heap : Heap}

theorem all (kept : Kept guard R) {checks : List Check} (each : ∀ check ∈ checks, R check) :
    R (all checks) := by
  induction checks with
  | nil => exact kept.pass
  | cons first rest ih =>
      rw [List.forall_mem_cons] at each
      exact kept.andThen each.1 (ih each.2)

theorem all_map (kept : Kept guard R) {A : Type} {check : A → Check} (each : ∀ item, R (check item))
    (items : List A) : R (Check.all (items.map check)) := by
  apply kept.all
  rw [List.forall_mem_map]
  exact fun item _ => each item

theorem contents (kept : Kept guard R) {visit : Bool → Value → Check}
    (visited : ∀ dynamic value, R (visit dynamic value)) (dynamic : Bool) (value : Value) :
    R (contents guard heap visit dynamic value) := by
  cases value with
  | nilInterface | interface | other => exact kept.fail _
  | bool | int | uint | time | nilPointer | nilMap | nilSlice => exact kept.pass
  | string => exact kept.addString _
  | float =>
      rw [Payload.contents]
      split
      · exact kept.fail _
      · exact kept.pass
  | pointer =>
      rw [Payload.contents]
      split
      · exact kept.guard _ (visited _ _)
      · exact kept.fail _
  | struct type fields =>
      rw [Payload.contents]
      split
      · apply kept.andThen (kept.addTopologyNode _)
        apply kept.andThen (kept.addTopologyLink _)
        apply kept.andThen (kept.addContainer _)
        exact kept.all_map (fun member => visited _ _) _
      · exact kept.fail _
  | map =>
      rw [Payload.contents]
      split_ifs
      · exact kept.fail _
      · exact kept.fail _
      · exact kept.fail _
      · apply kept.andThen (kept.addContainer _)
        apply kept.guard
        exact kept.all_map (fun entry => kept.andThen (kept.addStringKey _) (visited _ _)) _
  | slice =>
      rw [Payload.contents]
      split_ifs
      · exact kept.fail _
      · exact kept.andThen (kept.addContainer _) kept.pass
      · exact kept.andThen (kept.addContainer _) (kept.guard _ (kept.all_map (fun _ => visited _ _) _))
  | array =>
      rw [Payload.contents]
      split_ifs
      · exact kept.fail _
      · exact kept.andThen (kept.addContainer _) (kept.all_map (visited _) _)

theorem walk (kept : Kept guard R) (value : Value) (depth : Nat) (dynamic : Bool) :
    R (walk guard heap value depth dynamic) := by
  induction value, depth, dynamic using walk.induct with
  | case1 value depth dynamic null =>
      rw [Payload.walk, if_pos null]
      exact kept.addNode
  | case2 value depth dynamic proper ih =>
      rw [Payload.walk, if_neg proper]
      apply kept.andThen kept.addNode
      split_ifs with deep custom
      · exact kept.fail _
      · exact kept.fail _
      · exact kept.contents (ih deep) _ _

end Kept

/-! ## Active references -/

/-- The active references are after a check as before it. -/
def Restores (check : Check) : Prop := ∀ meter, (check meter).2.active = meter.active

/-- A check for which the active references are of no account. -/
def Indifferent (check : Check) : Prop :=
  ∀ meter active, check { meter with active } =
    ((check meter).1, { (check meter).2 with active })

theorem Restores.andThen {first second : Check} (one : Restores first) (two : Restores second) :
    Restores (first.andThen second) := by
  intro meter
  cases outcome : (first meter).1 with
  | none =>
      rw [andThen_of_none outcome, two, one]
  | some failure =>
      rw [andThen_of_some outcome, one]

theorem Indifferent.andThen {first second : Check} (one : Indifferent first)
    (two : Indifferent second) : Indifferent (first.andThen second) := by
  intro meter active
  cases outcome : (first meter).1 with
  | none =>
      rw [andThen_of_none outcome, andThen_of_none, one meter active, two]
      rw [one meter active]
      exact outcome
  | some failure =>
      rw [andThen_of_some outcome, andThen_of_some, one meter active]
      rw [one meter active]
      exact outcome

theorem restores_withActive {reference : Reference} {visit : Check} (inner : Restores visit) :
    Restores (withActive reference visit) := by
  intro meter
  rw [withActive]
  split_ifs
  · rfl
  · dsimp only
    rw [inner, List.erase_cons_head]

section Steps

theorem kept_restores (guard : Reference → Check → Check)
    (guarded : ∀ reference {visit}, Restores visit → Restores (guard reference visit)) :
    Kept guard Restores where
  pass _ := rfl
  fail _ _ := rfl
  andThen := Restores.andThen
  addNode meter := by unfold addNode; dsimp only; split <;> rfl
  addContainer _ meter := by unfold addContainer; dsimp only; split_ifs <;> rfl
  addString _ meter := by unfold addString; split <;> rfl
  addStringKey _ meter := by unfold addStringKey addString; split_ifs <;> rfl
  addTopologyNode _ meter := by unfold addTopologyNode; dsimp only; split_ifs <;> rfl
  addTopologyLink _ meter := by unfold addTopologyLink; dsimp only; split_ifs <;> rfl
  guard := guarded

theorem restores_guarded : Kept withActive Restores :=
  kept_restores withActive fun _ _ => restores_withActive

theorem kept_indifferent :
    Kept (fun _ visit => visit) Indifferent where
  pass _ _ := rfl
  fail _ _ _ := rfl
  andThen := Indifferent.andThen
  addNode meter _ := by unfold addNode; dsimp only; split <;> rfl
  addContainer _ meter _ := by unfold addContainer; dsimp only; split_ifs <;> rfl
  addString _ meter _ := by unfold addString; dsimp only; split <;> rfl
  addStringKey _ meter _ := by unfold addStringKey addString; dsimp only; split_ifs <;> rfl
  addTopologyNode _ meter _ := by unfold addTopologyNode; dsimp only; split_ifs <;> rfl
  addTopologyLink _ meter _ := by unfold addTopologyLink; dsimp only; split_ifs <;> rfl
  guard _ _ inner := inner

end Steps

/-- The walk leaves the active references as it found them, on success and on
failure. -/
theorem restores_walk (heap : Heap) (value : Value) (depth : Nat) (dynamic : Bool) :
    Restores (walk withActive heap value depth dynamic) :=
  restores_guarded.walk value depth dynamic

theorem restores_unguarded (heap : Heap) (value : Value) (depth : Nat) (dynamic : Bool) :
    Restores (walk (fun _ visit => visit) heap value depth dynamic) :=
  (kept_restores (fun _ visit => visit) fun _ _ inner => inner).walk value depth dynamic

theorem indifferent_unguarded (heap : Heap) (value : Value) (depth : Nat) (dynamic : Bool) :
    Indifferent (walk (fun _ visit => visit) heap value depth dynamic) :=
  kept_indifferent.walk value depth dynamic

end CheckNetwork.Payload
