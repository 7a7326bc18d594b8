import CheckNetwork.Payload.Frame

/-!
# What the validator admits

A value that passes is a tree of bounded height in which no reference lies
inside itself.
-/

namespace CheckNetwork.Payload

open Go Diagnostic Check

/-- A value that has a JSON text of its own or that of its parts. -/
def Value.isRegular : Value → Bool
  | .other _ | .nilInterface | .interface _ => false
  | .float _ _ value => !(value.isNaN || value.isInf)
  | _ => true

/-- The tree of calls of a walk that passes. -/
inductive Valid (heap : Heap) : Nat → List Reference → Value → Prop
  | null {depth : Nat} {active : List Reference} {value : Value}
      (null : value.elem.isNilInterface = true) : Valid heap depth active value
  | node {depth : Nat} {active : List Reference} {value : Value}
      (shallow : depth ≤ maxFullResponseDepth) (regular : value.elem.isRegular = true)
      (outside : ∀ reference, value.reference = some reference → reference ∉ active)
      (inside : ∀ child, Child heap value child →
        Valid heap (depth + 1) (value.reference.toList ++ active) child) :
      Valid heap depth active value

section Steps

variable {heap : Heap} {visit : Bool → Value → Check} {dynamic : Bool} {value : Value}
  {meter : Meter}

/-- A visit that passes under the given active references. -/
def Passes (visit : Bool → Value → Check) (active : List Reference) (value : Value) : Prop :=
  ∃ dynamic meter, meter.active = active ∧ (visit dynamic value meter).1 = none

theorem passes_of_all {checks : List Check} (restores : ∀ check ∈ checks, Restores check)
    (passed : (all checks meter).1 = none) :
    ∀ check ∈ checks, ∃ other : Meter, other.active = meter.active ∧ (check other).1 = none := by
  induction checks generalizing meter with
  | nil => exact List.forall_mem_nil _
  | cons first rest ih =>
      rw [all, andThen_eq_none_iff] at passed
      rw [List.forall_mem_cons] at restores ⊢
      constructor
      · exact ⟨meter, rfl, passed.1⟩
      · intro check member
        obtain ⟨other, same, again⟩ := ih restores.2 passed.2 check member
        exact ⟨other, same.trans (restores.1 meter), again⟩

theorem passes_of_map {A : Type} {check : A → Check} {items : List A} (values : A → Value)
    (restores : ∀ item, Restores (check item)) (passed : (all (items.map check) meter).1 = none)
    (visits : ∀ item other, (check item other).1 = none →
      Passes visit other.active (values item)) :
    ∀ child ∈ items.map values, Passes visit meter.active child := by
  rw [List.forall_mem_map]
  intro item member
  have each := passes_of_all (List.forall_mem_map.mpr fun item _ => restores item) passed
  obtain ⟨other, same, again⟩ := each _ (List.mem_map_of_mem member)
  rw [← same]
  exact visits item other again

theorem withActive_eq_none {reference : Reference} {check : Check}
    (passed : (withActive reference check meter).1 = none) :
    reference ∉ meter.active ∧
      (check { meter with active := reference :: meter.active }).1 = none := by
  rw [withActive] at passed
  split at passed
  · cases passed
  · next outside => exact ⟨outside, passed⟩

theorem addContainer_active (elements : Nat) : (addContainer elements meter).2.active = meter.active :=
  restores_guarded.addContainer elements meter

/-- What a value shows of itself when the walk passes it. -/
theorem contents_passes (restores : ∀ dynamic value, Restores (visit dynamic value))
    (passed : (contents withActive heap visit dynamic value meter).1 = none) :
    value.isRegular = true ∧
      (∀ reference, value.reference = some reference → reference ∉ meter.active) ∧
        ∀ child ∈ children heap value,
          Passes visit (value.reference.toList ++ meter.active) child := by
  have leaf : ∀ {value : Value}, value.isRegular = true → value.reference = none →
      children heap value = [] → value.isRegular = true ∧
        (∀ reference, value.reference = some reference → reference ∉ meter.active) ∧
          ∀ child ∈ children heap value,
            Passes visit (value.reference.toList ++ meter.active) child := by
    intro value regular unnamed empty
    rw [unnamed, empty]
    exact ⟨regular, (fun _ named => by cases named), List.forall_mem_nil _⟩
  cases value with
  | nilInterface | interface | other => cases passed
  | bool | int | uint | time | nilPointer | nilMap | nilSlice | string => exact leaf rfl rfl rfl
  | float type single value =>
      rw [contents] at passed
      split at passed
      · cases passed
      · next finite =>
          apply leaf _ rfl rfl
          rw [Value.isRegular, Bool.not_eq_true', ← Bool.not_eq_true]
          exact finite
  | pointer type target spelling address =>
      rw [contents] at passed
      split at passed
      · obtain ⟨outside, within⟩ := withActive_eq_none passed
        refine ⟨rfl, ?_, ?_⟩
        · rintro _ ⟨rfl⟩
          exact outside
        · intro child same
          rw [children, List.mem_singleton] at same
          rw [same]
          exact ⟨dynamic, _, rfl, within⟩
      · cases passed
  | struct type fields =>
      rw [contents] at passed
      split at passed
      · rw [andThen_eq_none_iff, andThen_eq_none_iff, andThen_eq_none_iff] at passed
        refine ⟨rfl, (fun _ named => by cases named), ?_⟩
        have each := passes_of_map Member.value (fun _ => restores _ _)
          passed.2.2.2 fun member other again => ⟨_, other, rfl, again⟩
        rw [addContainer_active, restores_guarded.addTopologyLink, restores_guarded.addTopologyNode] at each
        exact each
      · cases passed
  | map type key spelling address =>
      rw [contents] at passed
      dsimp only at passed
      split_ifs at passed
      · cases passed
      · cases passed
      · cases passed
      · rw [andThen_eq_none_iff] at passed
        obtain ⟨outside, within⟩ := withActive_eq_none passed.2
        rw [addContainer_active] at outside within
        refine ⟨rfl, ?_, ?_⟩
        · rintro _ ⟨rfl⟩
          exact outside
        · refine passes_of_map _ (fun entry => (restores_guarded.addStringKey _).andThen (restores _ _)) within ?_
          rintro ⟨name, value⟩ other again
          rw [andThen_eq_none_iff] at again
          exact ⟨_, _, restores_guarded.addStringKey _ _, again.2⟩
  | slice type element spelling address length =>
      rw [contents] at passed
      split_ifs at passed with large empty
      · cases passed
      · rw [empty]
        exact leaf rfl rfl rfl
      · rw [andThen_eq_none_iff] at passed
        obtain ⟨outside, within⟩ := withActive_eq_none passed.2
        rw [addContainer_active] at outside within
        rw [Value.reference, if_neg empty]
        refine ⟨rfl, ?_, ?_⟩
        · rintro _ ⟨rfl⟩
          exact outside
        · exact passes_of_map _ (fun _ => restores _ _) within
            fun index other again => ⟨_, other, rfl, again⟩
  | array type elements =>
      rw [contents] at passed
      split_ifs at passed
      · cases passed
      · rw [andThen_eq_none_iff] at passed
        refine ⟨rfl, (fun _ named => by cases named), ?_⟩
        have each := passes_of_map id (fun _ => restores _ _)
          passed.2 fun child other again => ⟨_, other, rfl, again⟩
        rw [addContainer_active, List.map_id] at each
        exact each

end Steps

/-- A walk that passes has a tree of calls. -/
theorem valid_of_walk {heap : Heap} {value : Value} {depth : Nat} {dynamic : Bool} {meter : Meter}
    (passed : (walk withActive heap value depth dynamic meter).1 = none) :
    Valid heap depth meter.active value := by
  induction value, depth, dynamic using walk.induct generalizing meter with
  | case1 value depth dynamic null => exact .null null
  | case2 value depth dynamic proper ih =>
      rw [walk, if_neg proper, andThen_eq_none_iff] at passed
      have counted := passed.2
      split_ifs at counted with deep custom
      · cases counted
      · cases counted
      · have restores := fun dynamic child => restores_walk heap child (depth + 1) dynamic
        obtain ⟨regular, outside, inside⟩ := contents_passes restores counted
        have same : (addNode meter).2.active = meter.active :=
          restores_guarded.addNode meter
        rw [Value.reference_elem, same] at outside
        rw [Value.reference_elem, children_elem, same] at inside
        refine .node (Nat.not_lt.mp deep) regular outside ?_
        intro child member
        obtain ⟨dynamic, other, under, again⟩ := inside child member
        rw [← under]
        exact ih deep dynamic child again

section Acyclic

variable {heap : Heap} {depth : Nat} {active : List Reference} {value below : Value}

theorem reference_of_null (null : value.elem.isNilInterface = true) : value.reference = none := by
  rw [← Value.reference_elem]
  cases inner : value.elem with
  | nilInterface => rfl
  | _ => rw [inner] at null; cases null

theorem children_of_null (null : value.elem.isNilInterface = true) : children heap value = [] := by
  rw [← children_elem]
  cases inner : value.elem with
  | nilInterface => rfl
  | _ => rw [inner] at null; cases null

/-- No reference that is active comes back below. -/
theorem Valid.outside (valid : Valid heap depth active value) (reached : Reaches heap value below)
    {reference : Reference} (named : below.reference = some reference) : reference ∉ active := by
  induction valid with
  | null null =>
      rcases reached.cases_head with same | ⟨child, member, _⟩
      · rw [← same, reference_of_null null] at named
        cases named
      · rw [Child, children_of_null null] at member
        cases member
  | node shallow regular outside inside ih =>
      rcases reached.cases_head with same | ⟨child, member, rest⟩
      · rw [← same] at named
        exact outside reference named
      · intro old
        exact ih child member rest (List.mem_append_right _ old)

theorem Valid.reaches (valid : Valid heap depth active value) (reached : Reaches heap value below) :
    ∃ depth active, Valid heap depth active below := by
  induction valid with
  | null null =>
      rcases reached.cases_head with same | ⟨child, member, _⟩
      · rw [← same]
        exact ⟨0, [], .null null⟩
      · rw [Child, children_of_null null] at member
        cases member
  | node shallow regular outside inside ih =>
      rcases reached.cases_head with same | ⟨child, member, rest⟩
      · rw [← same]
        exact ⟨_, _, .node shallow regular outside inside⟩
      · exact ih child member rest

/-- What passes has no reference cycle. -/
theorem Valid.acyclic (valid : Valid heap depth active value) : ¬ Cyclic heap value := by
  rintro ⟨outer, child, inner, reference, reached, named, member, rest, again⟩
  obtain ⟨_, _, valid⟩ := valid.reaches reached
  cases valid with
  | null null =>
      rw [reference_of_null null] at named
      cases named
  | node shallow regular outside inside =>
      apply (inside child member).outside rest again
      rw [named]
      exact List.mem_cons_self

end Acyclic

end CheckNetwork.Payload
