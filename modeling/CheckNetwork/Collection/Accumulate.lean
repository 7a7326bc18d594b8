import Mathlib

/-!
# Keyed accumulation

A loop that folds every item of a list into the entry of its key.  The entry
of one key is the fold of the items that have this key, in their order.
-/

namespace CheckNetwork.Collection

universe u v w

variable {K : Type u} {X : Type v} {A : Type w} [DecidableEq K]

/-- Fold the items into a table that has no entry for the other keys. -/
def accumulate (key : X → K) (step : Option A → X → A) (table : K → Option A) (items : List X) :
    K → Option A :=
  items.foldl (fun table item =>
    Function.update table (key item) (some (step (table (key item)) item))) table

variable {key : X → K} {step : Option A → X → A}

@[simp]
theorem accumulate_nil (table : K → Option A) : accumulate key step table [] = table :=
  rfl

theorem accumulate_cons (table : K → Option A) (item : X) (items : List X) :
    accumulate key step table (item :: items) =
      accumulate key step
        (Function.update table (key item) (some (step (table (key item)) item))) items :=
  rfl

/-- The entry of a key sees the items of this key only. -/
theorem accumulate_apply (table : K → Option A) (items : List X) (place : K) :
    accumulate key step table items place =
      (items.filter fun item => key item = place).foldl
        (fun entry item => some (step entry item)) (table place) := by
  induction items generalizing table with
  | nil => rfl
  | cons item items ih =>
      rw [accumulate_cons, ih]
      by_cases same : key item = place
      · subst same
        simp
      · simp [same, Ne.symm same]

theorem isSome_foldl_some {f : Option A → X → A} {entry : Option A} (items : List X)
    (present : entry.isSome) :
    (items.foldl (fun entry item => some (f entry item)) entry).isSome := by
  induction items generalizing entry with
  | nil => exact present
  | cons item items ih => exact ih rfl

/-- A key has an entry as soon as one item has this key. -/
theorem accumulate_isSome_iff (items : List X) (place : K) :
    (accumulate key step (fun _ => none) items place).isSome ↔
      ∃ item ∈ items, key item = place := by
  rw [accumulate_apply]
  constructor
  · intro found
    cases filtered : items.filter fun item => key item = place with
    | nil => simp [filtered] at found
    | cons item rest =>
        have member : item ∈ items.filter fun item => key item = place := by simp [filtered]
        exact ⟨item, (List.mem_filter.mp member).1, by simpa using (List.mem_filter.mp member).2⟩
  · rintro ⟨item, member, same⟩
    have kept : item ∈ items.filter fun item => key item = place :=
      List.mem_filter.mpr ⟨member, by simpa using same⟩
    obtain ⟨first, last, split⟩ := List.append_of_mem kept
    rw [split, List.foldl_append, List.foldl_cons]
    exact isSome_foldl_some last rfl

/-- An invariant of the fold of one entry. -/
theorem accumulate_invariant (property : List X → A → Prop) (items : List X) (place : K)
    {entry : A} (found : accumulate key step (fun _ => none) items place = some entry)
    (first : ∀ item, property [item] (step none item))
    (rest : ∀ seen entry item, property seen entry →
      property (seen ++ [item]) (step (some entry) item)) :
    property (items.filter fun item => key item = place) entry := by
  rw [accumulate_apply] at found
  revert entry
  generalize (items.filter fun item => key item = place) = chosen
  induction chosen using List.reverseRecOn with
  | nil => intro entry found; cases found
  | append_singleton seen item ih =>
      intro entry found
      rw [List.foldl_append, List.foldl_cons, List.foldl_nil, Option.some.injEq] at found
      subst found
      cases before : seen.foldl (fun entry item => some (step entry item)) none with
      | some earlier => exact rest seen earlier item (ih before)
      | none =>
          cases seen with
          | nil => exact first item
          | cons other seen =>
              have present := @isSome_foldl_some X A step (some (step none other)) seen rfl
              rw [List.foldl_cons] at before
              simp [before] at present

/-- The sums over the classes of a partition add up. -/
theorem sum_partition {place : X → Nat} (weight : X → Int) {count : Nat} {items : List X}
    (placed : ∀ item ∈ items, place item < count) :
    ((List.range count).map fun index =>
        ((items.filter fun item => place item = index).map weight).sum).sum =
      (items.map weight).sum := by
  induction items with
  | nil => simp
  | cons item items ih =>
      have rest := ih fun other member => placed other (List.mem_cons_of_mem _ member)
      have split_eq : ∀ index,
          (((item :: items).filter fun item => place item = index).map weight).sum =
            (if index = place item then weight item else 0) +
              ((items.filter fun item => place item = index).map weight).sum := by
        intro index
        by_cases here : place item = index
        · simp [here]
        · simp [here, Ne.symm here]
      have once : ((List.range count).map fun index =>
          if index = place item then weight item else 0).sum = weight item := by
        rw [List.sum_map_ite_eq, List.nodup_range.count,
          if_pos (List.mem_range.mpr (placed item List.mem_cons_self)), one_nsmul]
        simp
      simp only [split_eq]
      rw [List.sum_map_add, once, rest, List.map_cons, List.sum_cons]

end CheckNetwork.Collection
