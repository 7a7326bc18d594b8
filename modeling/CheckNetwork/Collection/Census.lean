import Mathlib

/-!
# Counting in a changing population

How many members of a list have a property, when one member changes or a new
one arrives.
-/

namespace CheckNetwork.Collection

universe u

variable {A : Type u} {property : A → Bool} {members : List A} {index : Nat} {old new : A}

/-- One member changes. -/
theorem countP_set_add (found : members[index]? = some old) :
    (members.set index new).countP property + (property old).toNat =
      members.countP property + (property new).toNat := by
  induction members generalizing index with
  | nil => cases found
  | cons first rest ih =>
      cases index with
      | zero =>
          cases Option.some.inj found
          simp only [List.set_cons_zero, List.countP_cons]
          cases property old <;> cases property new <;> simp
      | succ index =>
          have tail := @ih index found
          simp only [List.set_cons_succ, List.countP_cons]
          omega

/-- A sum over the members. -/
theorem sum_map_set_add {weight : A → Nat} (found : members[index]? = some old) :
    ((members.set index new).map weight).sum + weight old =
      (members.map weight).sum + weight new := by
  induction members generalizing index with
  | nil => cases found
  | cons first rest ih =>
      cases index with
      | zero =>
          cases Option.some.inj found
          simp only [List.set_cons_zero, List.map_cons, List.sum_cons]
          omega
      | succ index =>
          have tail := @ih index found
          simp only [List.set_cons_succ, List.map_cons, List.sum_cons]
          omega

theorem modify_eq_set {change : A → A} (found : members[index]? = some old) :
    members.modify index change = members.set index (change old) := by
  induction members generalizing index with
  | nil => cases found
  | cons first rest ih =>
      cases index with
      | zero =>
          cases Option.some.inj found
          rfl
      | succ index => exact congrArg (first :: ·) (ih found)

theorem countP_concat (property : A → Bool) (members : List A) (new : A) :
    (members ++ [new]).countP property = members.countP property + (property new).toNat := by
  rw [List.countP_append, List.countP_singleton]
  cases property new <;> rfl

theorem countP_pos_of_getElem? (found : members[index]? = some old) (holds : property old = true) :
    0 < members.countP property :=
  List.countP_pos_iff.mpr ⟨old, List.mem_of_getElem? found, holds⟩

/-- Members of a changed list are old members or the new one. -/
theorem getElem?_set_cases {position : Nat} {member : A} (found : members[index]? = some old) :
    (members.set index new)[position]? = some member ↔
      (position = index ∧ member = new) ∨
        (position ≠ index ∧ members[position]? = some member) := by
  have inside : index < members.length := by
    by_contra outside
    rw [List.getElem?_eq_none (Nat.le_of_not_lt outside)] at found
    cases found
  by_cases same : position = index
  · rw [same, List.getElem?_set_self inside]
    simp [eq_comm]
  · rw [List.getElem?_set_ne (Ne.symm same)]
    simp [same]

theorem getElem?_concat_cases {position : Nat} {member : A} :
    (members ++ [new])[position]? = some member ↔
      (position = members.length ∧ member = new) ∨ members[position]? = some member := by
  rcases Nat.lt_trichotomy position members.length with before | same | past
  · rw [List.getElem?_append_left before]
    simp [Nat.ne_of_lt before]
  · rw [same, List.getElem?_concat_length, List.getElem?_eq_none (Nat.le_refl _)]
    simp [eq_comm]
  · rw [List.getElem?_eq_none (by simp only [List.length_append, List.length_singleton]; omega),
      List.getElem?_eq_none (Nat.le_of_lt past)]
    simp [Nat.ne_of_gt past]

end CheckNetwork.Collection
