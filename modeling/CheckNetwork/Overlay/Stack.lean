import Mathlib.Data.List.Induction
import Mathlib.Data.List.Basic


/-!
# Stacks of layers

A layer adds nodes to the tree of the layers below it and hides paths of these.
A projection follows single files through a stack: it forgets what a layer hides
and keeps what was written last.  It is the merged tree exactly for the files that
nothing displaces.
-/

namespace CheckNetwork.Overlay

universe u v

variable {P : Type u} {F : Type v}

inductive Node (F : Type v)
  | file (content : F)
  | directory
  | special
  deriving DecidableEq

def Node.isFile : Node F → Bool
  | .file _ => true
  | _ => false

def Node.isDirectory : Node F → Bool
  | .directory => true
  | _ => false

/-- A member of a layer. -/
inductive Item (P : Type u) (F : Type v)
  | hide (hidden : P → Bool)
  | add (path : P) (node : Node F)

def Item.hides (path : P) : Item P F → Bool
  | .hide hidden => hidden path
  | .add _ _ => false

/-- What is at each path. -/
abbrev Tree (P : Type u) (F : Type v) := P → Option (Node F)

def fileAt (tree : Tree P F) (path : P) : Option F :=
  match tree path with
  | some (.file content) => some content
  | _ => none

section Merge

variable [DecidableEq P] (below : P → P → Bool)

/-- A node replaces another one at its path.  What is above it is a directory, and
below it there is nothing unless it is one itself. -/
def place (path : P) (node : Node F) (tree : Tree P F) : Tree P F := fun other =>
  if other = path then some node
  else if below path other then some .directory
  else if below other path && !node.isDirectory then none
  else tree other

def applyItem (tree : Tree P F) : Item P F → Tree P F
  | .hide _ => tree
  | .add path node => place below path node tree

/-- What a layer hides is of the layers below. -/
def applyLayer (tree : Tree P F) (layer : List (Item P F)) : Tree P F :=
  layer.foldl (applyItem below) fun path =>
    if layer.any (Item.hides path) then none else tree path

/-- The tree of a stack, the lowest layer first. -/
def merged (stack : List (List (Item P F))) : Tree P F :=
  stack.foldl (applyLayer below) fun _ => none

def Item.writes (path : P) : Item P F → Option F
  | .add other (.file content) => if other = path then some content else none
  | _ => none

def projectLayer (files : P → Option F) (layer : List (Item P F)) : P → Option F := fun path =>
  ((layer.filterMap (Item.writes path)).getLast?).or
    (if layer.any (Item.hides path) then none else files path)

/-- The file that was written last at each path and not hidden since. -/
def projected (stack : List (List (Item P F))) : P → Option F :=
  stack.foldl projectLayer fun _ => none

/-! ## What displaces a file -/

/-- The member leaves no file at the path: something else stands there, or above it
something that is no directory, or a member below it. -/
def Item.displaces (path : P) : Item P F → Bool
  | .hide _ => false
  | .add other node =>
      if other = path then !node.isFile
      else below other path || (below path other && !node.isDirectory)

/-- A layer writes the file, no later member writes or hides its path, and these are
the members that follow. -/
def Survives (stack : List (List (Item P F))) (path : P) (content : F)
    (since : List (Item P F)) : Prop :=
  ∃ lower front back upper, stack = lower ++ (front ++ .add path (.file content) :: back) :: upper ∧
    (∀ item ∈ back, item.writes path = none) ∧
    (∀ layer ∈ upper, ∀ item ∈ layer, item.writes path = none ∧ item.hides path = false) ∧
    since = back ++ upper.flatten

/-- A file that is written, and neither written again nor hidden, is displaced. -/
def Displaced (stack : List (List (Item P F))) (path : P) : Prop :=
  ∃ content since, Survives stack path content since ∧ ∃ item ∈ since, item.displaces below path

/-! ## Following one file -/

def follow (path : P) (state : Option (F × List (Item P F))) (item : Item P F) :
    Option (F × List (Item P F)) :=
  match item.writes path with
  | some content => some (content, [])
  | none => state.map fun kept => (kept.1, kept.2 ++ [item])

def followLayer (path : P) (state : Option (F × List (Item P F))) (layer : List (Item P F)) :
    Option (F × List (Item P F)) :=
  layer.foldl (follow path) (if layer.any (Item.hides path) then none else state)

/-- The file that is written last and the members after it. -/
def survivor (stack : List (List (Item P F))) (path : P) : Option (F × List (Item P F)) :=
  stack.foldl (followLayer path) none

section Items

variable {path : P} {state : Option (F × List (Item P F))} {content : F}
  {layer since : List (Item P F)} {stack : List (List (Item P F))} {tree : Tree P F}

theorem writes_eq_some_iff {item : Item P F} :
    item.writes path = some content ↔ item = .add path (.file content) := by
  constructor
  · intro writes
    cases item with
    | hide hidden => cases writes
    | add other node =>
        cases node with
        | file old =>
            rcases ite_eq_iff.mp writes with ⟨rfl, same⟩ | ⟨_, other⟩
            · cases same
              rfl
            · cases other
        | directory => cases writes
        | special => cases writes
  · rintro rfl
    exact if_pos rfl

theorem map_foldl_follow (layer : List (Item P F)) (state : Option (F × List (Item P F))) :
    (layer.foldl (follow path) state).map Prod.fst =
      ((layer.filterMap (Item.writes path)).getLast?).or (state.map Prod.fst) := by
  induction layer using List.reverseRecOn with
  | nil => rfl
  | append_singleton layer item ih =>
      rw [List.foldl_append, List.foldl_cons, List.foldl_nil, List.filterMap_append]
      cases writes : item.writes path with
      | some content =>
          rw [List.filterMap_cons_some writes, List.filterMap_nil, List.getLast?_concat, follow,
            writes]
          rfl
      | none =>
          rw [List.filterMap_cons_none writes, List.filterMap_nil, List.append_nil, ← ih, follow,
            writes, Option.map_map]
          rfl

theorem projected_eq_survivor (stack : List (List (Item P F))) (path : P) :
    projected stack path = (survivor stack path).map Prod.fst := by
  induction stack using List.reverseRecOn with
  | nil => rfl
  | append_singleton stack layer ih =>
      rw [projected, survivor, List.foldl_append, List.foldl_append, List.foldl_cons,
        List.foldl_nil, List.foldl_cons, List.foldl_nil, followLayer, map_foldl_follow]
      change ((layer.filterMap (Item.writes path)).getLast?).or
        (if layer.any (Item.hides path) then none else projected stack path) = _
      rw [ih]
      split <;> rfl

/-- One member leaves a file, takes it away, or leaves the file that was there. -/
theorem fileAt_applyItem (tree : Tree P F) (item : Item P F) :
    fileAt (applyItem below tree item) path = (item.writes path).or
      (if item.displaces below path then none else fileAt tree path) := by
  cases item with
  | hide hidden => rfl
  | add other node =>
      by_cases same : other = path
      · subst same
        cases node <;> simp [fileAt, applyItem, place, Item.writes, Item.displaces, Node.isFile]
      · have writes : (Item.add other node).writes path = none := by
          cases node with
          | file content => exact if_neg same
          | directory => rfl
          | special => rfl
        rw [writes, Option.none_or]
        simp only [fileAt, applyItem, place, Item.displaces, if_neg same, if_neg (Ne.symm same)]
        cases above : below other path with
        | true => simp
        | false =>
            cases under : below path other && !node.isDirectory with
            | true => simp
            | false => simp

/-- What is left of the file when the members after it are known. -/
def settle (path : P) (state : Option (F × List (Item P F))) : Option F :=
  state.bind fun kept => if kept.2.any (Item.displaces below path) then none else some kept.1

theorem settle_follow (state : Option (F × List (Item P F))) (item : Item P F) :
    settle below path (follow path state item) = (item.writes path).or
      (if item.displaces below path then none else settle below path state) := by
  unfold follow
  cases item.writes path with
  | some content => rfl
  | none =>
      cases state with
      | none => simp [settle]
      | some kept =>
          cases displaced : item.displaces below path <;>
            simp [settle, displaced]

theorem fileAt_foldl (layer : List (Item P F)) (same : fileAt tree path = settle below path state) :
    fileAt (layer.foldl (applyItem below) tree) path =
      settle below path (layer.foldl (follow path) state) := by
  induction layer generalizing tree state with
  | nil => exact same
  | cons item layer ih =>
      refine ih ?_
      rw [fileAt_applyItem, settle_follow, same]

theorem fileAt_merged (stack : List (List (Item P F))) (path : P) :
    fileAt (merged below stack) path = settle below path (survivor stack path) := by
  induction stack using List.reverseRecOn with
  | nil => rfl
  | append_singleton stack layer ih =>
      rw [merged, survivor, List.foldl_append, List.foldl_append, List.foldl_cons,
        List.foldl_nil, List.foldl_cons, List.foldl_nil]
      refine fileAt_foldl below layer ?_
      change fileAt (fun path => if layer.any (Item.hides path) then none
        else merged below stack path) path = _
      cases hidden : layer.any (Item.hides path) with
      | true => simp [fileAt, hidden, settle]
      | false =>
          simp only [fileAt, hidden, Bool.false_eq_true, if_false]
          exact ih

/-! ## Where a file is written -/

theorem foldl_follow_eq_some_iff : layer.foldl (follow path) state = some (content, since) ↔
    (∃ front, layer = front ++ .add path (.file content) :: since ∧
      ∀ item ∈ since, item.writes path = none) ∨
    (∃ before, state = some (content, before) ∧ since = before ++ layer ∧
      ∀ item ∈ layer, item.writes path = none) := by
  induction layer using List.reverseRecOn generalizing since with
  | nil => simp
  | append_singleton layer item ih =>
      rw [List.foldl_append, List.foldl_cons, List.foldl_nil, follow]
      cases writes : item.writes path with
      | some written =>
          rw [writes_eq_some_iff] at writes
          subst writes
          constructor
          · rintro ⟨rfl, rfl⟩
            exact .inl ⟨layer, rfl, fun _ member => (by cases member)⟩
          · rintro (⟨front, split_eq, quiet⟩ | ⟨before, _, _, quiet⟩)
            · cases since using List.reverseRecOn with
              | nil =>
                  obtain ⟨rfl, same⟩ := List.append_inj' split_eq rfl
                  cases same
                  rfl
              | append_singleton since last =>
                  rw [← List.cons_append, ← List.append_assoc] at split_eq
                  obtain ⟨_, same⟩ := List.append_inj' split_eq rfl
                  cases same
                  have silent := quiet _ (List.mem_append_right _ (List.mem_singleton_self _))
                  rw [Item.writes, if_pos rfl] at silent
                  cases silent
            · have silent := quiet _ (List.mem_append_right _ (List.mem_singleton_self _))
              rw [Item.writes, if_pos rfl] at silent
              cases silent
      | none =>
          rw [Option.map_eq_some_iff]
          constructor
          · rintro ⟨⟨old, before⟩, folded, same⟩
            cases same
            rcases ih.mp folded with ⟨front, rfl, quiet⟩ | ⟨start, rfl, rfl, quiet⟩
            · refine .inl ⟨front, by simp, ?_⟩
              intro other member
              rcases List.mem_append.mp member with earlier | last
              · exact quiet other earlier
              · rw [List.mem_singleton.mp last]
                exact writes
            · refine .inr ⟨start, rfl, List.append_assoc _ _ _, ?_⟩
              intro other member
              rcases List.mem_append.mp member with earlier | last
              · exact quiet other earlier
              · rw [List.mem_singleton.mp last]
                exact writes
          · rintro (⟨front, split_eq, quiet⟩ | ⟨before, rfl, rfl, quiet⟩)
            · cases since using List.reverseRecOn with
              | nil =>
                  obtain ⟨_, same⟩ := List.append_inj' split_eq rfl
                  cases same
                  rw [Item.writes, if_pos rfl] at writes
                  cases writes
              | append_singleton since last =>
                  rw [← List.cons_append, ← List.append_assoc] at split_eq
                  obtain ⟨rfl, same⟩ := List.append_inj' split_eq rfl
                  cases same
                  exact ⟨(content, since), ih.mpr (.inl ⟨front, rfl, fun other member =>
                    quiet other (List.mem_append_left _ member)⟩), rfl⟩
            · refine ⟨(content, before ++ layer), ih.mpr (.inr ⟨before, rfl, rfl, fun other member =>
                quiet other (List.mem_append_left _ member)⟩), ?_⟩
              rw [List.append_assoc]

theorem survives_concat_iff : Survives (stack ++ [layer]) path content since ↔
    (∃ front, layer = front ++ .add path (.file content) :: since ∧
      ∀ item ∈ since, item.writes path = none) ∨
    (∃ before, Survives stack path content before ∧ since = before ++ layer ∧
      ∀ item ∈ layer, item.writes path = none ∧ item.hides path = false) := by
  constructor
  · rintro ⟨lower, front, back, upper, split_eq, quiet, later, rfl⟩
    cases upper using List.reverseRecOn with
    | nil =>
        obtain ⟨_, same⟩ := List.append_inj' split_eq rfl
        cases same
        exact .inl ⟨front, by simp, by simpa using quiet⟩
    | append_singleton upper last =>
        rw [← List.cons_append, ← List.append_assoc] at split_eq
        obtain ⟨rfl, same⟩ := List.append_inj' split_eq rfl
        cases same
        refine .inr ⟨back ++ upper.flatten, ⟨lower, front, back, upper, rfl, quiet,
          fun other member => later other (List.mem_append_left _ member), rfl⟩, by simp, ?_⟩
        exact later layer (List.mem_append_right _ (List.mem_singleton_self _))
  · rintro (⟨front, rfl, quiet⟩ | ⟨_, ⟨lower, front, back, upper, rfl, quiet, later, rfl⟩, rfl, silent⟩)
    · exact ⟨stack, front, since, [], rfl, quiet, fun _ member => (by cases member), by simp⟩
    · refine ⟨lower, front, back, upper ++ [layer], by simp, quiet, ?_, by simp⟩
      intro other member
      rcases List.mem_append.mp member with earlier | last
      · exact later other earlier
      · rw [List.mem_singleton.mp last]
        exact silent

theorem survivor_eq_some_iff : survivor stack path = some (content, since) ↔
    Survives stack path content since := by
  induction stack using List.reverseRecOn generalizing since with
  | nil =>
      constructor
      · intro found
        cases found
      · rintro ⟨lower, front, back, upper, split_eq, _⟩
        simp at split_eq
  | append_singleton stack layer ih =>
      rw [survivor, List.foldl_append, List.foldl_cons, List.foldl_nil, followLayer,
        foldl_follow_eq_some_iff, survives_concat_iff]
      refine or_congr_right ?_
      change (∃ before, (if layer.any (Item.hides path) then none else survivor stack path) =
        some (content, before) ∧ _) ↔ _
      constructor
      · rintro ⟨before, kept, rfl, quiet⟩
        rcases ite_eq_iff.mp kept with ⟨_, other⟩ | ⟨shown, kept⟩
        · cases other
        · refine ⟨before, ih.mp kept, rfl, fun item member => ⟨quiet item member, ?_⟩⟩
          rw [Bool.eq_false_iff]
          exact fun hides => shown (List.any_eq_true.mpr ⟨item, member, hides⟩)
      · rintro ⟨before, survives, rfl, silent⟩
        refine ⟨before, ?_, rfl, fun item member => (silent item member).1⟩
        rw [if_neg, ih.mpr survives]
        intro hidden
        obtain ⟨item, member, hides⟩ := List.any_eq_true.mp hidden
        cases (silent item member).2.symm.trans hides

/-- A projection has the files of the merged tree exactly where nothing displaces them. -/
theorem fileAt_merged_eq_projected_iff (stack : List (List (Item P F))) (path : P) :
    fileAt (merged below stack) path = projected stack path ↔ ¬ Displaced below stack path := by
  rw [fileAt_merged, projected_eq_survivor]
  cases found : survivor stack path with
  | none =>
      refine iff_of_true rfl ?_
      rintro ⟨content, since, survives, _⟩
      cases (survivor_eq_some_iff.mpr survives).symm.trans found
  | some kept =>
      obtain ⟨content, since⟩ := kept
      have survives := survivor_eq_some_iff.mp found
      constructor
      · rintro same ⟨other, after, survives', item, member, displaces⟩
        cases found.symm.trans (survivor_eq_some_iff.mpr survives')
        simp only [settle, Option.bind_some, Option.map_some, ite_eq_right_iff, reduceCtorEq,
          imp_false] at same
        exact same (List.any_eq_true.mpr ⟨item, member, displaces⟩)
      · intro undisturbed
        refine if_neg ?_
        intro displaced
        obtain ⟨item, member, displaces⟩ := List.any_eq_true.mp displaced
        exact undisturbed ⟨content, since, survives, item, member, displaces⟩

end Items

end Merge

end CheckNetwork.Overlay
