import CheckNetwork.Payload.Valid

/-!
# Sharing

On a graph without reference cycles the guard of the walk is never felt: parts
that are shared count as often as they are visited.
-/

namespace CheckNetwork.Payload

open Go Diagnostic Check

/-- Checks that do the same where the given references are active. -/
def Agree (active : List Reference) (guarded free : Check) : Prop :=
  ∀ meter : Meter, meter.active = active → guarded meter = free meter

namespace Agree

variable {active : List Reference} {first second first' second' : Check}

theorem refl (check : Check) : Agree active check check := fun _ _ => rfl

theorem andThen (restores : Restores first') (one : Agree active first first')
    (two : Agree active second second') :
    Agree active (first.andThen second) (first'.andThen second') := by
  intro meter same
  have begin := one meter same
  cases outcome : (first' meter).1 with
  | none =>
      rw [andThen_of_none outcome, andThen_of_none (by rw [begin]; exact outcome), begin]
      exact two _ ((restores meter).trans same)
  | some failure =>
      rw [andThen_of_some outcome, andThen_of_some (by rw [begin]; exact outcome), begin]

theorem all {A : Type} {guarded free : A → Check} {items : List A}
    (restores : ∀ item, Restores (free item))
    (each : ∀ item ∈ items, Agree active (guarded item) (free item)) :
    Agree active (Check.all (items.map guarded)) (Check.all (items.map free)) := by
  induction items with
  | nil => exact .refl pass
  | cons first rest ih =>
      rw [List.forall_mem_cons] at each
      exact .andThen (restores first) each.1 (ih each.2)

theorem withActive {reference : Reference} {visit visit' : Check} (outside : reference ∉ active)
    (restores : Restores visit') (indifferent : Indifferent visit')
    (inner : Agree (reference :: active) visit visit') :
    Agree active (Payload.withActive reference visit) visit' := by
  intro meter same
  rw [← same] at outside inner
  rw [Payload.withActive, if_neg outside, inner _ rfl, indifferent]
  dsimp only
  rw [List.erase_cons_head, ← restores meter]

end Agree

section Walk

variable {heap : Heap} {visit visit' : Bool → Value → Check} {active : List Reference}
  {value : Value}

theorem agree_contents (dynamic : Bool)
    (restores : ∀ dynamic value, Restores (visit' dynamic value))
    (indifferent : ∀ dynamic value, Indifferent (visit' dynamic value))
    (outside : ∀ reference, value.reference = some reference → reference ∉ active)
    (inside : ∀ child ∈ children heap value, ∀ dynamic,
      Agree (value.reference.toList ++ active) (visit dynamic child) (visit' dynamic child)) :
    Agree active (contents withActive heap visit dynamic value)
      (contents (fun _ visit => visit) heap visit' dynamic value) := by
  have free := kept_restores (fun _ visit => visit) fun _ _ inner => inner
  cases value with
  | nilInterface | interface | other | bool | int | uint | time | nilPointer | nilMap | nilSlice
  | string | float => exact .refl _
  | pointer type target spelling address =>
      rw [contents, contents]
      split
      · apply Agree.withActive (outside _ rfl) (restores _ _) (indifferent _ _)
        exact inside _ List.mem_cons_self _
      · exact .refl _
  | struct type fields =>
      rw [contents, contents]
      split
      · apply Agree.andThen (free.addTopologyNode _) (.refl _)
        apply Agree.andThen (free.addTopologyLink _) (.refl _)
        apply Agree.andThen (free.addContainer _) (.refl _)
        apply Agree.all fun _ => restores _ _
        intro member present
        exact inside _ (List.mem_map_of_mem present) _
      · exact .refl _
  | map type key spelling address =>
      rw [contents, contents]
      split_ifs
      · exact .refl _
      · exact .refl _
      · exact .refl _
      · apply Agree.andThen (free.addContainer _) (.refl _)
        apply Agree.withActive (outside _ rfl)
        · exact free.all_map (fun entry => free.andThen (free.addStringKey _) (restores _ _)) _
        · exact kept_indifferent.all_map (fun entry =>
            kept_indifferent.andThen (kept_indifferent.addStringKey _) (indifferent _ _)) _
        · apply Agree.all fun entry => free.andThen (free.addStringKey _) (restores _ _)
          intro entry present
          apply Agree.andThen (free.addStringKey _) (.refl _)
          exact inside _ (List.mem_map_of_mem present) _
  | slice type element spelling address length =>
      rw [contents, contents]
      split_ifs with large empty
      · exact .refl _
      · exact .refl _
      · rw [Value.reference, if_neg empty] at outside inside
        apply Agree.andThen (free.addContainer _) (.refl _)
        apply Agree.withActive (outside _ rfl) (free.all_map (fun _ => restores _ _) _)
          (kept_indifferent.all_map (fun _ => indifferent _ _) _)
        apply Agree.all fun _ => restores _ _
        intro index present
        exact inside _ (List.mem_map_of_mem present) _
  | array type elements =>
      rw [contents, contents]
      split_ifs
      · exact .refl _
      · apply Agree.andThen (free.addContainer _) (.refl _)
        apply Agree.all fun _ => restores _ _
        exact fun child present => inside child present _

/-- Outside every reference that lies below, the guard of the walk makes no
difference on an acyclic graph. -/
theorem agree_walk (depth : Nat) (dynamic : Bool) (acyclic : ¬ Cyclic heap value)
    (outside : ∀ below reference, Reaches heap value below → below.reference = some reference →
      reference ∉ active) :
    Agree active (walk withActive heap value depth dynamic)
      (walk (fun _ visit => visit) heap value depth dynamic) := by
  induction value, depth, dynamic using walk.induct generalizing active with
  | case1 value depth dynamic null =>
      rw [walk, walk, if_pos null, if_pos null]
      exact .refl _
  | case2 value depth dynamic proper ih =>
      rw [walk, walk, if_neg proper, if_neg proper]
      apply Agree.andThen (restores_guarded.addNode) (.refl _)
      split_ifs with deep custom
      · exact .refl _
      · exact .refl _
      · apply agree_contents dynamic
          (fun dynamic child => restores_unguarded heap child (depth + 1) dynamic)
          (fun dynamic child => indifferent_unguarded heap child (depth + 1) dynamic)
        · intro reference named
          rw [Value.reference_elem] at named
          exact outside value reference .refl named
        · rw [children_elem, Value.reference_elem]
          intro child member again
          apply ih deep again child (fun cyclic => acyclic (cyclic.of_child member))
          intro below reference reached named old
          rcases List.mem_append.mp old with own | older
          · apply reference_ne_of_acyclic acyclic _ member reached named
            exact Option.mem_toList.mp own
          · exact outside below reference (.head member reached) named older

/-- A graph without reference cycles fares as it does where references are
free. -/
theorem validate_eq_survey (meter : Meter) (acyclic : ¬ Cyclic heap value)
    (idle : meter.active = []) : validate heap value meter = survey heap value meter :=
  agree_walk 0 false acyclic (fun _ _ _ _ => List.not_mem_nil) meter idle

end Walk

end CheckNetwork.Payload
