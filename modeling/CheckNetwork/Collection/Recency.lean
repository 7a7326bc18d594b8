import Mathlib.Data.List.AList
import Mathlib.Data.List.MinMax

/-!
# Stores with a record of recent use

A store maps keys to values that carry the number of their last use.  Numbers
are given in increasing order, so that they tell values apart, and the value
with the least number is the one that was not used for the longest time.
-/

namespace CheckNetwork.Collection

universe u v

abbrev Store (K : Type u) (V : Type v) := AList fun _ : K => V

namespace Store

variable {K : Type u} {V : Type v} [DecidableEq K]

def size (store : Store K V) : Nat := store.entries.length

/-- Keep the values that pass a test. -/
def keep (test : K → V → Bool) (store : Store K V) : Store K V :=
  ⟨store.entries.filter fun entry => test entry.1 entry.2,
    store.nodupKeys.sublist List.filter_sublist⟩

/-- The key that was not used for the longest time. -/
def stalest (used : V → Nat) (store : Store K V) : Option K :=
  (store.entries.argmin fun entry => used entry.2).map Sigma.fst

section Size

variable {store : Store K V} {key : K}

omit [DecidableEq K] in
theorem size_eq_length_keys (store : Store K V) : size store = store.keys.length := by
  simp [size, AList.keys, List.keys]

theorem size_erase (present : key ∈ store) : size (store.erase key) + 1 = size store := by
  rw [size_eq_length_keys, size_eq_length_keys, AList.keys_erase,
    List.length_erase_of_mem (AList.mem_keys.mp present)]
  have pos := List.length_pos_of_mem (AList.mem_keys.mp present)
  omega

theorem size_insert_of_mem (present : key ∈ store) (value : V) :
    size (store.insert key value) = size store := by
  rw [← size_erase present]
  simp [size_eq_length_keys, AList.keys_insert, AList.keys_erase]

theorem size_insert_of_notMem (absent : key ∉ store) (value : V) :
    size (store.insert key value) = size store + 1 := by
  rw [size, AList.entries_insert_of_notMem absent, List.length_cons, size]

theorem size_erase_le (store : Store K V) (key : K) : size (store.erase key) ≤ size store := by
  rw [size_eq_length_keys, size_eq_length_keys, AList.keys_erase]
  exact List.length_erase_le

omit [DecidableEq K] in
theorem size_keep_le (test : K → V → Bool) (store : Store K V) :
    size (keep test store) ≤ size store :=
  List.length_filter_le _ _

end Size

section Lookup

variable {store : Store K V} {key : K} {value : V}

theorem lookup_keep (test : K → V → Bool) (store : Store K V) (key : K) :
    (keep test store).lookup key = (store.lookup key).filter (test key) := by
  apply Option.ext
  intro value
  rw [Option.filter_eq_some_iff]
  exact AList.mem_lookup_iff.trans
    (List.mem_filter.trans (and_congr_left' AList.mem_lookup_iff.symm))

theorem lookup_erase_eq_some {other : K} :
    (store.erase other).lookup key = some value ↔ key ≠ other ∧ store.lookup key = some value := by
  by_cases same : key = other
  · rw [same, AList.lookup_erase]
    simp
  · rw [AList.lookup_erase_ne same]
    exact ⟨fun found => ⟨same, found⟩, And.right⟩

theorem lookup_insert_eq_some {other : K} {new : V} :
    (store.insert other new).lookup key = some value ↔
      (key = other ∧ value = new) ∨ (key ≠ other ∧ store.lookup key = some value) := by
  by_cases same : key = other
  · rw [same, AList.lookup_insert]
    simp [eq_comm]
  · rw [AList.lookup_insert_ne same]
    simp [same]

theorem mem_of_lookup (found : store.lookup key = some value) : key ∈ store :=
  AList.lookup_isSome.mp (by rw [found]; rfl)

end Lookup

section Stalest

variable {used : V → Nat} {store : Store K V} {key : K}

theorem exists_of_stalest (found : stalest used store = some key) :
    ∃ value, store.lookup key = some value ∧
      ∀ other rival, store.lookup other = some rival → used value ≤ used rival := by
  obtain ⟨⟨_, value⟩, least, rfl⟩ := Option.map_eq_some_iff.mp found
  refine ⟨value, AList.mem_lookup_iff.mpr (List.argmin_mem least), ?_⟩
  intro other rival present
  have member : (⟨other, rival⟩ : Sigma fun _ : K => V) ∈ store.entries :=
    AList.mem_lookup_iff.mp present
  exact @List.le_of_mem_argmin _ _ _ (fun entry : Sigma fun _ : K => V => used entry.2) _ _ _
    member least

omit [DecidableEq K] in
theorem exists_stalest (nonempty : 0 < size store) : ∃ key, stalest used store = some key := by
  cases least : store.entries.argmin fun entry => used entry.2 with
  | none =>
      rw [List.argmin_eq_none] at least
      rw [size, least] at nonempty
      exact absurd nonempty (lt_irrefl 0)
  | some entry => exact ⟨entry.1, by rw [stalest, least]; rfl⟩

end Stalest

/-! ## Numbers of use -/

/-- Every value was used at a different time, and none after `latest`. -/
structure Stamped (used : V → Nat) (latest : Nat) (store : Store K V) : Prop where
  le : ∀ key value, store.lookup key = some value → used value ≤ latest
  inj : ∀ key other value rival, store.lookup key = some value →
    store.lookup other = some rival → used value = used rival → key = other

namespace Stamped

variable {used : V → Nat} {latest : Nat} {store fewer : Store K V}

theorem empty : Stamped used latest (∅ : Store K V) where
  le _ _ found := by cases found
  inj _ _ _ _ found := by cases found

/-- A store that lost entries is stamped as before. -/
theorem of_le (stamped : Stamped used latest store)
    (kept : ∀ key value, fewer.lookup key = some value → store.lookup key = some value) :
    Stamped used latest fewer where
  le key value found := stamped.le key value (kept key value found)
  inj key other value rival found foundOther :=
    stamped.inj key other value rival (kept key value found) (kept other rival foundOther)

theorem erase (stamped : Stamped used latest store) (key : K) :
    Stamped used latest (store.erase key) :=
  stamped.of_le fun _ _ found => (lookup_erase_eq_some.mp found).2

theorem keep (stamped : Stamped used latest store) (test : K → V → Bool) :
    Stamped used latest (keep test store) := by
  apply stamped.of_le
  intro key value found
  rw [lookup_keep] at found
  exact (Option.filter_eq_some_iff.mp found).1

theorem insert (stamped : Stamped used latest store) (key : K) {value : V} {now : Nat}
    (later : latest < now) (used_eq : used value = now) :
    Stamped used now (store.insert key value) where
  le other rival found := by
    rcases lookup_insert_eq_some.mp found with ⟨_, rfl⟩ | ⟨_, older⟩
    · exact used_eq.le
    · exact (stamped.le other rival older).trans later.le
  inj first second rival rival' found found' same := by
    rcases lookup_insert_eq_some.mp found with ⟨rfl, rfl⟩ | ⟨_, older⟩
    · rcases lookup_insert_eq_some.mp found' with ⟨rfl, rfl⟩ | ⟨_, older'⟩
      · rfl
      · have := stamped.le second rival' older'
        omega
    · rcases lookup_insert_eq_some.mp found' with ⟨rfl, rfl⟩ | ⟨_, older'⟩
      · have := stamped.le first rival older
        omega
      · exact stamped.inj first second rival rival' older older' same

end Stamped
end Store
end CheckNetwork.Collection
