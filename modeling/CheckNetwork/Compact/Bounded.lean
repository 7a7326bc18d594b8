import CheckNetwork.Compact.Selection
import Mathlib.Algebra.Order.BigOperators.Group.Finset

/-!
# The selection loop stops, and why a route is cut

The work that is left decreases in every round that goes on.  A route that was
blocked stays blocked for a reason: the nodes and links selected later only
make its next hop cost as much or leave less room for it.
-/

namespace CheckNetwork.Compact

open Diagnostic Go

variable {order : List GoString} {links : List EdgeKey} {key : GoString} {edge other : EdgeKey}

theorem mem_addSelected {place : GoString} :
    place ∈ addSelected order key ↔ place ∈ order ∨ place = key := by
  unfold addSelected
  split
  · rename_i member
    constructor
    · exact .inl
    · rintro (old | rfl)
      · exact old
      · exact member
  · simp

theorem nodup_addSelected (nodup : order.Nodup) : (addSelected order key).Nodup := by
  unfold addSelected
  split
  · exact nodup
  · rename_i fresh
    exact List.nodup_append.mpr ⟨nodup, by simp, fun place member other otherMem => by
      rintro rfl
      exact fresh (List.mem_singleton.mp otherMem ▸ member)⟩

namespace Selection

/-! ## Costs -/

/-- Selecting one more node leaves no more room for a hop. -/
theorem nodeCost_addSelected_le (order : List GoString) (key : GoString) (edge : EdgeKey) :
    order.length + nodeCost order edge ≤
      (addSelected order key).length + nodeCost (addSelected order key) edge := by
  unfold addSelected
  split
  · exact le_rfl
  · simp only [nodeCost, List.mem_append, List.mem_singleton, List.length_append,
      List.length_singleton]
    by_cases source : edge.source ∈ order
    · by_cases target : edge.target ∈ order
      · simp [source, target]
      · simp only [source, target, true_or, if_true, false_or, if_false]
        split_ifs <;> omega
    · by_cases same : edge.target = edge.source
      · simp only [source, same, false_or, if_true, if_false]
        split_ifs <;> omega
      · by_cases target : edge.target ∈ order
        · simp only [source, target, same, true_or, false_or, if_true, if_false]
          split_ifs <;> omega
        · simp only [source, target, same, false_or, if_false]
          by_cases first : edge.source = key
          · have second : edge.target ≠ key := fun equal => same (equal.trans first.symm)
            simp only [first, second, if_true, if_false]
            omega
          · simp only [first, if_false]
            split_ifs <;> omega

/-- The length of the order after a hop is taken. -/
theorem length_addSelected_hop (order : List GoString) (edge : EdgeKey) :
    (addSelected (addSelected order edge.source) edge.target).length =
      order.length + nodeCost order edge := by
  by_cases source : edge.source ∈ order
  · by_cases target : edge.target ∈ order
    · simp [addSelected, nodeCost, source, target]
    · have different : edge.target ≠ edge.source := by
        rintro same
        exact target (same ▸ source)
      simp [addSelected, nodeCost, source, target, different]
  · by_cases same : edge.target = edge.source
    · simp [addSelected, nodeCost, source, same]
    · by_cases target : edge.target ∈ order
      · simp [addSelected, nodeCost, source, target]
      · simp [addSelected, nodeCost, source, target, same]

theorem linkCost_append_le (links : List EdgeKey) (taken edge : EdgeKey) :
    links.length + linkCost links edge ≤
      (links ++ [taken]).length + linkCost (links ++ [taken]) edge := by
  simp only [linkCost, List.mem_append, List.mem_singleton, List.length_append,
    List.length_singleton]
  split
  · omega
  · split <;> split <;> omega

/-! ## The invariant -/

variable {routes : List RawRoute} {limits : SelectionLimits} {state after : Selection}
  {routeIndex : Nat}

/-- Hops that a route has taken. -/
def taken (routes : List RawRoute) (state : Selection) (routeIndex : Nat) : List EdgeKey :=
  (edgesAt routes routeIndex).take (state.progress routeIndex).accepted

/-- Taking a hop would exceed the node or the link limit. -/
def Full (limits : SelectionLimits) (state : Selection) (edge : EdgeKey) : Prop :=
  limits.nodes < state.order.length + nodeCost state.order edge ∨
    limits.links < state.links.length + linkCost state.links edge

structure Sound (routes : List RawRoute) (limits : SelectionLimits) (state : Selection) :
    Prop where
  order_nodup : state.order.Nodup
  links_nodup : state.links.Nodup
  order_le : state.order.length ≤ limits.nodes
  links_le : state.links.length ≤ limits.links
  accepted_le : ∀ routeIndex,
    (state.progress routeIndex).accepted ≤ (edgesAt routes routeIndex).length
  taken_order : ∀ routeIndex, ∀ edge ∈ state.taken routes routeIndex,
    edge.source ∈ state.order ∧ edge.target ∈ state.order
  taken_links : ∀ routeIndex, ∀ edge ∈ state.taken routes routeIndex,
    edge.source ≠ edge.target → edge ∈ state.links
  order_taken : ∀ key ∈ state.order, key ∈ preselected routes ∨
    ∃ routeIndex, ∃ edge ∈ state.taken routes routeIndex, key = edge.source ∨ key = edge.target
  preselected_subset : ∀ key ∈ preselected routes, key ∈ state.order
  blocked_full : ∀ routeIndex, (state.progress routeIndex).blocked = true →
    ∃ edge, (edgesAt routes routeIndex)[(state.progress routeIndex).accepted]? = some edge ∧
      state.Full limits edge
  limited : state.nodeLimited = true ∨ state.linkLimited = true ↔
    ∃ routeIndex, (state.progress routeIndex).blocked = true

namespace Sound

theorem initial (room : 1 ≤ limits.nodes) : (Selection.initial routes).Sound routes limits := by
  have short : (preselected routes).length ≤ 1 := by
    unfold preselected
    split
    · exact Option.length_toList_le
    · simp
  constructor
  case order_nodup =>
    match order_eq : preselected routes, short with
    | [], _ => simp [Selection.initial, order_eq]
    | [key], _ => simp [Selection.initial, order_eq]
  case order_le => exact short.trans room
  case order_taken => exact fun key member => .inl member
  case preselected_subset => exact fun key member => member
  all_goals simp [Selection.initial, Selection.taken]

/-- The cursors say nothing about what is selected. -/
theorem congr (sound : state.Sound routes limits) (cursors : Nat → Nat) :
    ({ state with cursors := cursors } : Selection).Sound routes limits :=
  { sound with }

theorem block (sound : state.Sound routes limits) {edge : EdgeKey}
    (next : (edgesAt routes routeIndex)[(state.progress routeIndex).accepted]? = some edge)
    (full : state.Full limits edge) {nodeLimited linkLimited : Bool}
    (limited : nodeLimited = true ∨ linkLimited = true) :
    ({ state with
        progress := state.block routeIndex
        nodeLimited := nodeLimited
        linkLimited := linkLimited } : Selection).Sound routes limits := by
  have accepted_eq : ∀ other, (state.block routeIndex other).accepted =
      (state.progress other).accepted := by
    intro other
    unfold Selection.block
    rw [Function.update_apply]
    split
    · rename_i same
      rw [same]
    · rfl
  have taken_eq : ∀ other, ({ state with
        progress := state.block routeIndex
        nodeLimited := nodeLimited
        linkLimited := linkLimited } : Selection).taken routes other =
      state.taken routes other := by
    intro other
    simp only [Selection.taken, accepted_eq]
  constructor
  case order_nodup => exact sound.order_nodup
  case links_nodup => exact sound.links_nodup
  case order_le => exact sound.order_le
  case links_le => exact sound.links_le
  case accepted_le =>
    intro other
    rw [accepted_eq]
    exact sound.accepted_le other
  case taken_order =>
    intro other
    rw [taken_eq]
    exact sound.taken_order other
  case taken_links =>
    intro other
    rw [taken_eq]
    exact sound.taken_links other
  case order_taken =>
    intro key member
    simp only [taken_eq]
    exact sound.order_taken key member
  case preselected_subset => exact sound.preselected_subset
  case blocked_full =>
    intro other blocked
    rw [accepted_eq]
    by_cases same : other = routeIndex
    · subst same
      exact ⟨edge, next, full⟩
    · simp only [Selection.block, Function.update_of_ne same] at blocked
      exact sound.blocked_full other blocked
  case limited =>
    refine ⟨fun _ => ⟨routeIndex, ?_⟩, fun _ => limited⟩
    simp [Selection.block]

theorem take (sound : state.Sound routes limits) {edge : EdgeKey}
    (next : (edgesAt routes routeIndex)[(state.progress routeIndex).accepted]? = some edge)
    (unblocked : (state.progress routeIndex).blocked = false)
    (nodeRoom : state.order.length + nodeCost state.order edge ≤ limits.nodes)
    (linkRoom : state.links.length + linkCost state.links edge ≤ limits.links) {count : Nat} :
    ({ state with
        order := addSelected (addSelected state.order edge.source) edge.target
        links :=
          if edge.source = edge.target ∨ edge ∈ state.links then state.links
          else state.links ++ [edge]
        progress := Function.update state.progress routeIndex
          { state.progress routeIndex with accepted := (state.progress routeIndex).accepted + 1 }
        acceptedTransactions := count } : Selection).Sound routes limits := by
  set moved : Selection := { state with
        order := addSelected (addSelected state.order edge.source) edge.target
        links :=
          if edge.source = edge.target ∨ edge ∈ state.links then state.links
          else state.links ++ [edge]
        progress := Function.update state.progress routeIndex
          { state.progress routeIndex with accepted := (state.progress routeIndex).accepted + 1 }
        acceptedTransactions := count } with moved_eq
  have order_grows : ∀ key ∈ state.order, key ∈ moved.order := fun key member =>
    mem_addSelected.mpr (.inl (mem_addSelected.mpr (.inl member)))
  have links_grow : ∀ link ∈ state.links, link ∈ moved.links := by
    intro link member
    simp only [moved_eq]
    split
    · exact member
    · exact List.mem_append_left _ member
  have taken_self : moved.taken routes routeIndex = state.taken routes routeIndex ++ [edge] := by
    simp only [Selection.taken, moved_eq, Function.update_self]
    rw [List.take_add_one, next]
    rfl
  have taken_other : ∀ other, other ≠ routeIndex →
      moved.taken routes other = state.taken routes other := by
    intro other different
    simp only [Selection.taken, moved_eq, Function.update_of_ne different]
  have mem_taken : ∀ other hop, hop ∈ moved.taken routes other →
      hop ∈ state.taken routes other ∨ hop = edge := by
    intro other hop member
    by_cases same : other = routeIndex
    · subst same
      rw [taken_self] at member
      simpa using member
    · rw [taken_other other same] at member
      exact .inl member
  have taken_grows : ∀ other hop, hop ∈ state.taken routes other →
      hop ∈ moved.taken routes other := by
    intro other hop member
    by_cases same : other = routeIndex
    · subst same
      rw [taken_self]
      exact List.mem_append_left _ member
    · rwa [taken_other other same]
  have full_stays : ∀ hop, state.Full limits hop → moved.Full limits hop := by
    intro hop full
    refine full.imp ?_ ?_
    · intro exceeded
      have first := nodeCost_addSelected_le state.order edge.source hop
      have second := nodeCost_addSelected_le (addSelected state.order edge.source) edge.target hop
      exact exceeded.trans_le (first.trans second)
    · intro exceeded
      simp only [moved_eq]
      split
      · exact exceeded
      · exact exceeded.trans_le (linkCost_append_le state.links edge hop)
  constructor
  case order_nodup => exact nodup_addSelected (nodup_addSelected sound.order_nodup)
  case links_nodup =>
    simp only [moved_eq]
    split
    · exact sound.links_nodup
    · rename_i fresh
      exact List.nodup_append.mpr ⟨sound.links_nodup, by simp, fun link member other otherMem => by
        rintro rfl
        exact fresh (.inr (List.mem_singleton.mp otherMem ▸ member))⟩
  case order_le =>
    simp only [moved_eq, length_addSelected_hop]
    exact nodeRoom
  case links_le =>
    simp only [moved_eq]
    split
    · exact sound.links_le
    · rename_i fresh
      have different := (not_or.mp fresh).1
      have absent := (not_or.mp fresh).2
      simpa [linkCost, different, absent] using linkRoom
  case accepted_le =>
    intro other
    by_cases same : other = routeIndex
    · subst same
      simp only [moved_eq, Function.update_self]
      exact (List.getElem?_eq_some_iff.mp next).1
    · simp only [moved_eq, Function.update_of_ne same]
      exact sound.accepted_le other
  case taken_order =>
    intro other hop member
    rcases mem_taken other hop member with old | rfl
    · have known := sound.taken_order other hop old
      exact ⟨order_grows _ known.1, order_grows _ known.2⟩
    · exact ⟨mem_addSelected.mpr (.inl (mem_addSelected.mpr (.inr rfl))),
        mem_addSelected.mpr (.inr rfl)⟩
  case taken_links =>
    intro other hop member different
    rcases mem_taken other hop member with old | rfl
    · exact links_grow hop (sound.taken_links other hop old different)
    · simp only [moved_eq]
      split
      · rename_i known
        exact known.resolve_left different
      · simp
  case order_taken =>
    intro key member
    have new : edge ∈ moved.taken routes routeIndex := by
      rw [taken_self]
      simp
    rcases mem_addSelected.mp member with inner | rfl
    · rcases mem_addSelected.mp inner with old | rfl
      · rcases sound.order_taken key old with first | ⟨other, hop, hopMem, ends⟩
        · exact .inl first
        · exact .inr ⟨other, hop, taken_grows other hop hopMem, ends⟩
      · exact .inr ⟨routeIndex, edge, new, .inl rfl⟩
    · exact .inr ⟨routeIndex, edge, new, .inr rfl⟩
  case preselected_subset =>
    exact fun key member => order_grows key (sound.preselected_subset key member)
  case blocked_full =>
    intro other blocked
    have different : other ≠ routeIndex := by
      rintro rfl
      simp [moved_eq, unblocked] at blocked
    simp only [moved_eq, Function.update_of_ne different] at blocked ⊢
    obtain ⟨hop, hop_eq, full⟩ := sound.blocked_full other blocked
    exact ⟨hop, hop_eq, full_stays hop full⟩
  case limited =>
    have blocked_eq : ∀ other, (moved.progress other).blocked = (state.progress other).blocked := by
      intro other
      simp only [moved_eq, Function.update_apply]
      split
      · rename_i same
        rw [same]
      · rfl
    simp only [blocked_eq]
    exact sound.limited

theorem advance (sound : state.Sound routes limits)
    (unblocked : (state.progress routeIndex).blocked = false) :
    (state.advance routes limits routeIndex).Sound routes limits := by
  unfold Selection.advance
  split
  · exact sound
  · rename_i edge next
    split
    · rename_i exceeded
      exact sound.block next (.inl exceeded) (.inl rfl)
    · rename_i nodeRoom
      split
      · rename_i exceeded
        exact sound.block next (.inr exceeded) (.inr rfl)
      · rename_i linkRoom
        exact sound.take next unblocked (not_lt.mp nodeRoom) (not_lt.mp linkRoom)

end Sound

/-! ## Turns and rounds -/

theorem choose_eq_some {group : List Nat} {cursor next : Nat}
    (chosen : state.choose routes group cursor = some (routeIndex, next)) :
    routeIndex ∈ group ∧ state.selectable routes routeIndex = true := by
  unfold choose at chosen
  obtain ⟨scanned, -, found⟩ := List.exists_of_findSome?_eq_some chosen
  dsimp only at found
  split at found
  · rename_i candidate position
    split at found
    · rename_i open_
      cases found
      exact ⟨List.mem_of_getElem? position, open_⟩
    · cases found
  · cases found

/-- A turn passes only when no route of the group can be lengthened. -/
theorem choose_eq_none {group : List Nat} {cursor : Nat}
    (passed : state.choose routes group cursor = none) (member : routeIndex ∈ group) :
    state.selectable routes routeIndex = false := by
  obtain ⟨position, position_lt, position_eq⟩ := List.mem_iff_getElem.mp member
  have length_pos : 0 < group.length := Nat.zero_lt_of_lt position_lt
  have cursor_lt := Nat.mod_lt cursor length_pos
  -- the scan that meets this position
  have reached : (cursor + (position + (group.length - cursor % group.length)) % group.length) %
      group.length = position := by
    have sum_eq : cursor % group.length + (position + (group.length - cursor % group.length)) =
        position + group.length := by omega
    rw [Nat.add_mod_mod, ← Nat.mod_add_mod, sum_eq, Nat.add_mod_right,
      Nat.mod_eq_of_lt position_lt]
  unfold choose at passed
  have skipped := List.findSome?_eq_none_iff.mp passed
    ((position + (group.length - cursor % group.length)) % group.length)
    (List.mem_range.mpr (Nat.mod_lt _ length_pos))
  dsimp only at skipped
  rw [reached, List.getElem?_eq_getElem position_lt, position_eq] at skipped
  cases open_ : state.selectable routes routeIndex with
  | false => rfl
  | true => simp [open_] at skipped

theorem selectable_iff : state.selectable routes routeIndex = true ↔
    (state.progress routeIndex).blocked = false ∧
      (state.progress routeIndex).accepted < (edgesAt routes routeIndex).length := by
  simp [selectable]

theorem lt_length_of_selectable (open_ : state.selectable routes routeIndex = true) :
    routeIndex < routes.length := by
  by_contra beyond
  have edges_nil : edgesAt routes routeIndex = [] := by
    simp [edgesAt, List.getElem?_eq_none (not_lt.mp beyond)]
  simp [selectable_iff, edges_nil] at open_

/-- A turn that is used lowers the work. -/
theorem work_advance_lt (open_ : state.selectable routes routeIndex = true) :
    (state.advance routes limits routeIndex).work routes < state.work routes := by
  obtain ⟨unblocked, short⟩ := selectable_iff.mp open_
  have member := Finset.mem_range.mpr (lt_length_of_selectable open_)
  have lower : ∀ (after : Selection), (∀ other, other ≠ routeIndex →
        after.progress other = state.progress other) →
      ((after.progress routeIndex).blocked = true ∨
        (after.progress routeIndex).accepted = (state.progress routeIndex).accepted + 1) →
      after.work routes < state.work routes := by
    intro after others moved
    unfold work
    refine Finset.sum_lt_sum (fun other _ => ?_) ⟨routeIndex, member, ?_⟩
    · by_cases same : other = routeIndex
      · subst same
        rw [unblocked]
        rcases moved with blocked | accepted
        · simp [blocked]
        · simp only [accepted, Bool.false_eq_true, if_false]
          split <;> omega
      · rw [others other same]
    · rw [unblocked]
      rcases moved with blocked | accepted
      · simp [blocked]
        omega
      · simp only [accepted, Bool.false_eq_true, if_false]
        split <;> omega
  unfold advance
  rw [List.getElem?_eq_getElem short]
  dsimp only
  split
  · exact lower _ (fun other different => by simp [block, different]) (.inl (by simp [block]))
  · split
    · exact lower _ (fun other different => by simp [block, different]) (.inl (by simp [block]))
    · exact lower _ (fun other different => by simp [different]) (.inr (by simp))

/-- What the turns of a round amount to, from the state before the round. -/
structure Turns (routes : List RawRoute) (limits : SelectionLimits) (state after : Selection)
    (active : Bool) : Prop where
  work_le : after.work routes ≤ state.work routes
  moved : active = true → after.exhausted limits = true ∨ after.work routes < state.work routes
  idle : active = false → after = state

theorem turns_visit {current : Selection} {active : Bool}
    (turns : Turns routes limits state current active) (resultIndex : Nat) :
    Turns routes limits state (visit routes limits (current, active) resultIndex).1
      (visit routes limits (current, active) resultIndex).2 := by
  unfold visit
  dsimp only
  split
  · exact turns
  · rename_i routeIndex cursor chosen
    have open_ := (choose_eq_some chosen).2
    split
    · rename_i exhausted
      exact ⟨turns.work_le, fun _ => .inl exhausted, fun idle => by cases idle⟩
    · have lowered : (Selection.advance routes limits { current with
            cursors := Function.update current.cursors resultIndex cursor } routeIndex).work routes <
          current.work routes := work_advance_lt open_
      exact ⟨lowered.le.trans turns.work_le, fun _ => .inr (lowered.trans_le turns.work_le),
        fun idle => by cases idle⟩

theorem turns_round (state : Selection) (resultCount : Nat) :
    Turns routes limits state (state.round routes limits resultCount).1
      (state.round routes limits resultCount).2 := by
  unfold round
  generalize List.range resultCount = results
  have fold : ∀ (current : Selection × Bool), Turns routes limits state current.1 current.2 →
      Turns routes limits state (results.foldl (visit routes limits) current).1
        (results.foldl (visit routes limits) current).2 := by
    induction results with
    | nil => exact fun current turns => turns
    | cons result results ih =>
        exact fun current turns => ih _ (turns_visit turns result)
  exact fold (state, false) ⟨le_rfl, fun active => absurd active (by simp), fun _ => rfl⟩

/-- In a round without an active turn every turn passed. -/
theorem round_idle (resultCount : Nat)
    (idle : (state.round routes limits resultCount).2 = false) {resultIndex : Nat}
    (below : resultIndex < resultCount) :
    state.choose routes (groupOf routes resultIndex) (state.cursors resultIndex) = none := by
  unfold round at idle
  have member := List.mem_range.mpr below
  revert member idle
  generalize List.range resultCount = results
  have sticky : ∀ (results : List Nat) (current : Selection),
      (results.foldl (visit routes limits) (current, true)).2 = true := by
    intro results
    induction results with
    | nil => exact fun _ => rfl
    | cons result results ih =>
        intro current
        rw [List.foldl_cons]
        have active : (visit routes limits (current, true) result).2 = true := by
          unfold visit
          dsimp only
          split
          · rfl
          · split <;> rfl
        rw [← @Prod.mk.eta _ _ (visit routes limits (current, true) result), active]
        exact ih _
  intro idle member
  induction results with
  | nil => cases member
  | cons result results ih =>
      rw [List.foldl_cons] at idle
      cases chosen : state.choose routes (groupOf routes result) (state.cursors result) with
      | some choice =>
          have active : (visit routes limits (state, false) result).2 = true := by
            simp only [visit, chosen]
            split <;> rfl
          rw [← @Prod.mk.eta _ _ (visit routes limits (state, false) result), active,
            sticky] at idle
          cases idle
      | none =>
          have passed : visit routes limits (state, false) result = (state, false) := by
            simp only [visit, chosen]
          rcases List.mem_cons.mp member with rfl | later
          · exact chosen
          · exact ih (passed ▸ idle) later

/-- Nothing is left to select, or the transaction limit is reached. -/
def Stopped (routes : List RawRoute) (limits : SelectionLimits) (resultCount : Nat)
    (state : Selection) : Prop :=
  state.exhausted limits = true ∨ ∀ resultIndex < resultCount, ∀ routeIndex ∈
    groupOf routes resultIndex, state.selectable routes routeIndex = false

theorem select_stopped (resultCount : Nat) {fuel : Nat} (enough : state.work routes < fuel) :
    ∃ final, select routes limits resultCount fuel state = some final ∧
      Stopped routes limits resultCount final := by
  induction fuel generalizing state with
  | zero => omega
  | succ fuel ih =>
      have turns := @turns_round routes limits state resultCount
      rw [select]
      dsimp only
      split
      · rename_i stop
        refine ⟨_, rfl, ?_⟩
        by_cases exhausted : (state.round routes limits resultCount).1.exhausted limits = true
        · exact .inl exhausted
        · have idle : (state.round routes limits resultCount).2 = false := by
            simpa [exhausted] using stop
          rw [turns.idle idle]
          exact .inr fun resultIndex below routeIndex member =>
            choose_eq_none (round_idle resultCount idle below) member
      · rename_i stop
        have active : (state.round routes limits resultCount).2 = true := by
          by_contra idle
          simp [idle] at stop
        have open_ : ¬ (state.round routes limits resultCount).1.exhausted limits = true := by
          intro exhausted
          simp [exhausted] at stop
        have lowered := (turns.moved active).resolve_left open_
        exact ih (by omega)

/-- A property that the turns keep holds where the loop stops. -/
theorem select_invariant {property : Selection → Prop}
    (moved : ∀ (state : Selection) cursors, property state →
      property { state with cursors := cursors })
    (advanced : ∀ (state : Selection) routeIndex, property state →
      state.selectable routes routeIndex = true →
      property (state.advance routes limits routeIndex))
    (resultCount : Nat) {fuel : Nat} {final : Selection} (held : property state)
    (stopped : select routes limits resultCount fuel state = some final) : property final := by
  have visited : ∀ (current : Selection × Bool) result, property current.1 →
      property (visit routes limits current result).1 := by
    intro current result held
    unfold visit
    dsimp only
    split
    · exact held
    · rename_i routeIndex cursor chosen
      split
      · exact moved _ _ held
      · exact advanced _ _ (moved _ _ held) (choose_eq_some chosen).2
  have rounded : ∀ (state : Selection), property state →
      property (state.round routes limits resultCount).1 := by
    intro state held
    unfold round
    generalize List.range resultCount = results
    have fold : ∀ (current : Selection × Bool), property current.1 →
        property (results.foldl (visit routes limits) current).1 := by
      induction results with
      | nil => exact fun _ held => held
      | cons result results ih => exact fun current held => ih _ (visited current result held)
    exact fold (state, false) held
  induction fuel generalizing state with
  | zero => cases stopped
  | succ fuel ih =>
      rw [select] at stopped
      dsimp only at stopped
      split at stopped
      · cases stopped
        exact rounded state held
      · exact ih (rounded state held) stopped

end Selection

/-! ## Where the loop stops -/

section Selected

open Selection

variable {routes : List RawRoute} {limits : SelectionLimits}

theorem sum_range_getElem? (values : List Nat) :
    ∑ index ∈ Finset.range values.length, values[index]?.getD 0 = values.sum := by
  induction values with
  | nil => rfl
  | cons value values ih =>
      rw [List.length_cons, Finset.sum_range_succ', List.sum_cons, ← ih]
      simp [Nat.add_comm]

theorem work_initial (routes : List RawRoute) :
    (Selection.initial routes).work routes + 1 = selectionFuel routes := by
  have edges_eq : ∀ routeIndex, (edgesAt routes routeIndex).length =
      ((routes.map fun route => route.edges.length)[routeIndex]?).getD 0 := by
    intro routeIndex
    unfold edgesAt
    rw [List.getElem?_map]
    cases routes[routeIndex]? <;> rfl
  unfold Selection.work selectionFuel
  rw [← sum_range_getElem?]
  simp [Selection.initial, edges_eq]

theorem select_eq_selected (resultCount : Nat) :
    Selection.select routes limits resultCount (selectionFuel routes) (Selection.initial routes) =
      some (selected routes limits resultCount) ∧
    Stopped routes limits resultCount (selected routes limits resultCount) := by
  have enough : (Selection.initial routes).work routes < selectionFuel routes := by
    rw [← work_initial]
    exact Nat.lt_succ_self _
  obtain ⟨final, stopped, known⟩ := @select_stopped routes limits (Selection.initial routes)
    resultCount _ enough
  have final_eq : selected routes limits resultCount = final := by
    unfold selected
    rw [stopped, Option.getD_some]
  rw [final_eq]
  exact ⟨stopped, known⟩

theorem selected_sound (room : 1 ≤ limits.nodes) (resultCount : Nat) :
    (selected routes limits resultCount).Sound routes limits :=
  select_invariant (fun _ cursors sound => sound.congr cursors)
    (fun _ _ sound open_ => sound.advance (selectable_iff.mp open_).1) resultCount
    (.initial room) (select_eq_selected resultCount).1

/-- Without a transaction limit a route is complete or blocked. -/
theorem selected_complete_or_blocked (unlimited : limits.transactions < 0) {resultCount : Nat}
    (placed : ∀ route ∈ routes, route.resultIndex < resultCount) (routeIndex : Nat)
    (room : 1 ≤ limits.nodes) :
    ((selected routes limits resultCount).progress routeIndex).accepted =
        (edgesAt routes routeIndex).length ∨
      ((selected routes limits resultCount).progress routeIndex).blocked = true := by
  have sound := @selected_sound routes _ room resultCount
  have stopped := (@select_eq_selected routes limits resultCount).2
  rcases (sound.accepted_le routeIndex).eq_or_lt with complete | short
  · exact .inl complete
  · refine .inr ?_
    have below : routeIndex < routes.length := by
      by_contra beyond
      simp [edgesAt, List.getElem?_eq_none (not_lt.mp beyond)] at short
    rcases stopped with limited | idle
    · simp only [exhausted, decide_eq_true_eq] at limited
      omega
    · have member : routeIndex ∈ groupOf routes routes[routeIndex].resultIndex := by
        simp [groupOf, below]
      have passed := idle _ (placed _ (List.getElem_mem below)) routeIndex member
      by_contra unblocked
      have open_ := selectable_iff.mpr ⟨by simpa using unblocked, short⟩
      rw [passed] at open_
      cases open_

end Selected
end CheckNetwork.Compact
