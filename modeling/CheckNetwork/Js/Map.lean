import Mathlib.Data.List.Nodup
import Mathlib.Data.List.Perm.Basic
import CheckNetwork.Js.Comparator

/-!
# Maps in the order of insertion

The entries of a `Map`, of which no two have one key.  Setting a key that is
there changes its value and leaves it in its place.
-/

namespace CheckNetwork.Js

universe u v

structure Map (K : Type u) (V : Type v) where
  entries : List (K × V)
  nodup : (entries.map Prod.fst).Nodup

namespace Map

variable {K : Type u} {V : Type v}

def empty : Map K V := ⟨[], List.nodup_nil⟩

def keys (map : Map K V) : List K := map.entries.map Prod.fst

def values (map : Map K V) : List V := map.entries.map Prod.snd

def size (map : Map K V) : Nat := map.entries.length

@[ext]
theorem ext {first second : Map K V} (same : first.entries = second.entries) : first = second := by
  cases first
  cases second
  cases same
  rfl

/-- The entries in the order of a comparator of their keys. -/
def sort (compare : K → K → Int) (map : Map K V) : Map K V where
  entries := Js.sort (fun a b => compare a.1 b.1) map.entries
  nodup := ((perm_sort map.entries).map Prod.fst).nodup_iff.mpr map.nodup

/-- The first entries. -/
def take (count : Nat) (map : Map K V) : Map K V where
  entries := map.entries.take count
  nodup := map.nodup.sublist ((List.take_sublist _ _).map Prod.fst)

theorem take_eq_self {map : Map K V} {count : Nat} (short : map.size ≤ count) :
    map.take count = map :=
  ext (List.take_of_length_le short)

/-- A map has one entry of a key. -/
theorem eq_of_mem {map : Map K V} {first second : K × V} (firstMem : first ∈ map.entries)
    (secondMem : second ∈ map.entries) (same : first.1 = second.1) : first = second :=
  List.inj_on_of_nodup_map map.nodup firstMem secondMem same

theorem mem_sort {map : Map K V} {compare : K → K → Int} {entry : K × V} :
    entry ∈ (map.sort compare).entries ↔ entry ∈ map.entries :=
  (perm_sort map.entries).mem_iff

theorem size_sort {map : Map K V} {compare : K → K → Int} : (map.sort compare).size = map.size :=
  (perm_sort map.entries).length_eq

variable [DecidableEq K]

def get? (map : Map K V) (key : K) : Option V :=
  (map.entries.find? fun entry => entry.1 = key).map Prod.snd

theorem nodup_set (map : Map K V) (key : K) (value : V) :
    ((if key ∈ map.keys then
        map.entries.map fun entry => if entry.1 = key then (key, value) else entry
      else map.entries ++ [(key, value)]).map Prod.fst).Nodup := by
  split
  · rw [List.map_map]
    have same : (Prod.fst ∘ fun entry : K × V => if entry.1 = key then (key, value) else entry) =
        Prod.fst := by
      funext entry
      rw [Function.comp_apply]
      split
      · rename_i here
        exact here.symm
      · rfl
    rw [same]
    exact map.nodup
  · rename_i fresh
    rw [List.map_append, List.map_singleton, List.nodup_append]
    refine ⟨map.nodup, List.nodup_singleton key, ?_⟩
    intro other member added here same
    rw [List.mem_singleton] at here
    rw [same, here] at member
    exact fresh member

def set (map : Map K V) (key : K) (value : V) : Map K V where
  entries := if key ∈ map.keys then
      map.entries.map fun entry => if entry.1 = key then (key, value) else entry
    else map.entries ++ [(key, value)]
  nodup := nodup_set map key value

def delete (map : Map K V) (key : K) : Map K V where
  entries := map.entries.filter fun entry => entry.1 ≠ key
  nodup := map.nodup.sublist (List.filter_sublist.map Prod.fst)

section Entries

variable {map : Map K V} {key : K} {value : V} {entry : K × V}

theorem get?_eq_some_iff : map.get? key = some value ↔ (key, value) ∈ map.entries := by
  rw [get?, Option.map_eq_some_iff]
  constructor
  · rintro ⟨⟨known, _⟩, found, rfl⟩
    have here := List.find?_some found
    rw [decide_eq_true_eq] at here
    exact here ▸ List.mem_of_find?_eq_some found
  · intro member
    obtain ⟨entry, found⟩ := Option.isSome_iff_exists.mp (List.find?_isSome.mpr
      ⟨_, member, decide_eq_true rfl⟩ :
        (map.entries.find? fun entry => entry.1 = key).isSome = true)
    have here := List.find?_some found
    rw [decide_eq_true_eq] at here
    have same := eq_of_mem (List.mem_of_find?_eq_some found) member here
    exact ⟨entry, found, by rw [same]⟩

theorem mem_set : entry ∈ (map.set key value).entries ↔
    entry = (key, value) ∨ entry ∈ map.entries ∧ entry.1 ≠ key := by
  rw [set]
  dsimp only
  split
  · rename_i known
    rw [List.mem_map]
    constructor
    · rintro ⟨old, member, rfl⟩
      split
      · exact .inl rfl
      · rename_i other
        exact .inr ⟨member, other⟩
    · rintro (rfl | ⟨member, other⟩)
      · obtain ⟨old, oldMem, rfl⟩ := List.mem_map.mp known
        exact ⟨old, oldMem, if_pos rfl⟩
      · exact ⟨entry, member, if_neg other⟩
  · rename_i fresh
    rw [List.mem_append, List.mem_singleton, or_comm, and_iff_left_of_imp]
    intro member here
    exact fresh (here ▸ List.mem_map_of_mem member)

theorem mem_keys_set {other : K} :
    other ∈ (map.set key value).keys ↔ other = key ∨ other ∈ map.keys := by
  rw [keys, keys, List.mem_map, List.mem_map]
  constructor
  · rintro ⟨entry, member, rfl⟩
    rcases mem_set.mp member with rfl | ⟨old, -⟩
    · exact .inl rfl
    · exact .inr ⟨entry, old, rfl⟩
  · by_cases here : other = key
    · exact fun _ => ⟨(key, value), mem_set.mpr (.inl rfl), here.symm⟩
    · rintro (same | ⟨entry, member, rfl⟩)
      · exact absurd same here
      · exact ⟨entry, mem_set.mpr (.inr ⟨member, here⟩), rfl⟩

/-- A key that is there stays in its place. -/
theorem keys_set (known : key ∈ map.keys) : (map.set key value).keys = map.keys := by
  rw [set, keys]
  dsimp only
  rw [if_pos known, List.map_map]
  apply List.map_congr_left
  intro entry _
  rw [Function.comp_apply]
  split
  · rename_i here
    exact here.symm
  · rfl

theorem size_set : (map.set key value).size = if key ∈ map.keys then map.size else map.size + 1 := by
  rw [size, set]
  dsimp only
  split
  · rw [List.length_map]
    rfl
  · rw [List.length_append]
    rfl

theorem mem_delete : entry ∈ (map.delete key).entries ↔ entry ∈ map.entries ∧ entry.1 ≠ key := by
  rw [delete, List.mem_filter, decide_eq_true_eq]

theorem keys_delete_sublist : (map.delete key).keys.Sublist map.keys :=
  List.filter_sublist.map Prod.fst

theorem size_delete_le : (map.delete key).size ≤ map.size :=
  List.length_filter_le _ _

/-- A fresh key comes last. -/
theorem entries_set (fresh : key ∉ map.keys) :
    (map.set key value).entries = map.entries ++ [(key, value)] :=
  if_neg fresh

end Entries

end Map

end CheckNetwork.Js
