import Mathlib.Data.List.Sort

/-!
# Comparators

A comparator tells by the sign of a number which of two values comes first.
The file supplies the consistent ones, how they are put together, and the
stable sort by one of them.
-/

namespace CheckNetwork.Js

universe u v

variable {α : Type u} {β : Type v}

/-- `compare` orders all values, with ties. -/
structure Consistent (compare : α → α → Int) : Prop where
  total : ∀ a b, compare a b ≤ 0 ∨ compare b a ≤ 0
  trans : ∀ {a b c}, compare a b ≤ 0 → compare b c ≤ 0 → compare a c ≤ 0

/-- The second comparator settles the ties of the first. -/
def orElse (first second : α → α → Int) (a b : α) : Int :=
  if first a b ≠ 0 then first a b else second a b

/-- The difference of two values of a function. -/
def difference (value : α → Int) (a b : α) : Int := value a - value b

/-- The first of two families comes before the second; each has its own order. -/
def families (first : α → Bool) (inner outer : α → α → Int) (a b : α) : Int :=
  if first a ≠ first b then (if first a then -1 else 1)
  else if first a then inner a b
  else outer a b

/-- The first difference of two arrays at one of the places. -/
def firstDifference : List Nat → List Nat → List Nat → Int → Int
  | [], _, _, otherwise => otherwise
  | place :: places, a, b, otherwise =>
      if a.getD place 0 ≠ b.getD place 0 then (a.getD place 0 : Int) - b.getD place 0
      else firstDifference places a b otherwise

theorem consistent_zero : Consistent fun _ _ : α => 0 where
  total := fun _ _ => .inl (le_refl 0)
  trans := fun _ _ => le_refl 0

namespace Consistent

variable {compare : α → α → Int}

theorem orElse_difference_nonpos {value : α → Int} {a b : α} :
    orElse (difference value) compare a b ≤ 0 ↔
      value a < value b ∨ value a = value b ∧ compare a b ≤ 0 := by
  rw [orElse, difference]
  by_cases same : value a = value b
  · rw [if_neg (not_not.mpr (Int.sub_eq_zero.mpr same))]
    simp [same]
  · rw [if_pos (mt Int.sub_eq_zero.mp same)]
    omega

/-- What comes first by a function is settled by it; ties are settled later. -/
theorem difference_orElse (consistent : Consistent compare) (value : α → Int) :
    Consistent (orElse (difference value) compare) where
  total := by
    intro a b
    rw [orElse_difference_nonpos, orElse_difference_nonpos]
    rcases lt_trichotomy (value a) (value b) with before | same | after
    · exact .inl (.inl before)
    · rcases consistent.total a b with first | second
      · exact .inl (.inr ⟨same, first⟩)
      · exact .inr (.inr ⟨same.symm, second⟩)
    · exact .inr (.inl after)
  trans := by
    intro a b c
    rw [orElse_difference_nonpos, orElse_difference_nonpos, orElse_difference_nonpos]
    rintro (before | ⟨same, first⟩) (later | ⟨same', second⟩)
    · exact .inl (before.trans later)
    · exact .inl (same' ▸ before)
    · exact .inl (same ▸ later)
    · exact .inr ⟨same.trans same', consistent.trans first second⟩

theorem firstDifference (consistent : Consistent compare) (places : List Nat)
    (array : α → List Nat) :
    Consistent fun a b => firstDifference places (array a) (array b) (compare a b) := by
  induction places with
  | nil => exact consistent
  | cons place places ih =>
      have settled := ih.difference_orElse fun a => ((array a).getD place 0 : Int)
      convert settled using 3 with a b
      rw [Js.firstDifference, orElse, difference]
      by_cases same : (array a).getD place 0 = (array b).getD place 0
      · rw [if_neg (not_not.mpr same), if_neg (not_not.mpr (by rw [same, Int.sub_self]))]
      · rw [if_pos same, if_pos (by omega)]

theorem families {inner outer : α → α → Int} (innerConsistent : Consistent inner)
    (outerConsistent : Consistent outer) (first : α → Bool) :
    Consistent (families first inner outer) where
  total := by
    intro a b
    have inside := innerConsistent.total a b
    have outside := outerConsistent.total a b
    simp only [Js.families]
    cases first a <;> cases first b <;> simp [inside, outside]
  trans := by
    intro a b c
    have inside := @innerConsistent.trans a b c
    have outside := @outerConsistent.trans a b c
    simp only [Js.families]
    cases first a <;> cases first b <;> cases first c <;> simp
    · exact outside
    · exact inside

theorem comp (consistent : Consistent compare) (view : β → α) :
    Consistent fun a b => compare (view a) (view b) where
  total := fun _ _ => consistent.total _ _
  trans := consistent.trans

end Consistent

/-- `Array.prototype.sort`. -/
def sort (compare : α → α → Int) (values : List α) : List α :=
  values.insertionSort fun a b => compare a b ≤ 0

section Sorted

variable {compare : α → α → Int}

theorem perm_sort (values : List α) : (sort compare values).Perm values :=
  List.perm_insertionSort _ _

theorem pairwise_sort (consistent : Consistent compare) (values : List α) :
    (sort compare values).Pairwise fun a b => compare a b ≤ 0 := by
  have : Std.Total fun a b => compare a b ≤ 0 := ⟨consistent.total⟩
  have : IsTrans α fun a b => compare a b ≤ 0 := ⟨fun _ _ _ => consistent.trans⟩
  exact List.pairwise_insertionSort _ _

/-- What is sorted stays as it is. -/
theorem sort_eq_self {values : List α} (sorted : values.Pairwise fun a b => compare a b ≤ 0) :
    sort compare values = values :=
  sorted.insertionSort_eq

end Sorted

end CheckNetwork.Js
