import Mathlib.Data.List.Nodup

/-!
# Entries of a map

A map as the list of its entries, one for each key.
-/

namespace CheckNetwork.Go.Entries

universe u v

variable {K : Type u} {V : Type v} [BEq K] [LawfulBEq K] {entries : List (K × V)} {key : K} {value : V}

theorem mem_of_lookup (found : entries.lookup key = some value) : (key, value) ∈ entries := by
  obtain ⟨before, after, split_eq, _⟩ := List.lookup_eq_some_iff.mp found
  rw [split_eq]
  exact List.mem_append_right _ List.mem_cons_self

/-- Of distinct keys, each is found with its value. -/
theorem lookup_of_mem (distinct : (entries.map Prod.fst).Nodup) (member : (key, value) ∈ entries) :
    entries.lookup key = some value := by
  induction entries with
  | nil => cases member
  | cons first rest ih =>
      rcases first with ⟨name, other⟩
      rw [List.map_cons, List.nodup_cons] at distinct
      rw [List.lookup_cons]
      rcases List.mem_cons.mp member with same | later
      · cases same
        rw [beq_self_eq_true]
      · have different : key ≠ name := by
          rintro rfl
          exact distinct.1 (List.mem_map.mpr ⟨_, later, rfl⟩)
        rw [beq_false_of_ne different]
        exact ih distinct.2 later

theorem notMem_of_lookup_eq_none (absent : entries.lookup key = none) :
    key ∉ entries.map Prod.fst := by
  intro member
  obtain ⟨entry, inside, rfl⟩ := List.mem_map.mp member
  have different := List.lookup_eq_none_iff.mp absent entry inside
  simp at different

end CheckNetwork.Go.Entries
