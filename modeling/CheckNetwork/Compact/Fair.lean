import CheckNetwork.Collection.RoundRobin
import CheckNetwork.Compact.Limited
import Mathlib.Data.List.Rotate

/-!
# Fairness of the selection

Without a transaction limit, every result that still has a hop to offer has
used its turn in every round, and the routes of a result take turns.
-/

namespace CheckNetwork.Compact

open Collection Diagnostic

namespace Selection

variable (routes : List RawRoute) (limits : SelectionLimits)

/-- The variables of the loop after some rounds. -/
def rounds (resultCount : Nat) : Nat → Selection
  | 0 => initial routes
  | count + 1 => ((rounds resultCount count).round routes limits resultCount).1

/-- The variables at the turn of a result in the round after some others. -/
def atTurn (resultCount count resultIndex : Nat) : Selection :=
  ((List.range resultIndex).foldl (visit routes limits)
    (rounds routes limits resultCount count, false)).1

/-- The route that this turn serves. -/
def served (resultCount resultIndex count : Nat) : Option Nat :=
  let state := atTurn routes limits resultCount count resultIndex
  (state.choose routes (groupOf routes resultIndex) (state.cursors resultIndex)).map Prod.fst

/-- Steps of a result: accepted transactions and routes found blocked. -/
def consumed (state : Selection) (resultIndex : Nat) : Nat :=
  ((groupOf routes resultIndex).map fun routeIndex =>
    (state.progress routeIndex).accepted +
      if (state.progress routeIndex).blocked then 1 else 0).sum

/-- A result has a route that is neither finished nor blocked. -/
def Open (state : Selection) (resultIndex : Nat) : Prop :=
  ∃ routeIndex ∈ groupOf routes resultIndex, state.selectable routes routeIndex = true

variable {routes : List RawRoute} {limits : SelectionLimits} {state after : Selection}
  {resultIndex routeIndex : Nat}

theorem mem_groupOf : routeIndex ∈ groupOf routes resultIndex ↔
    routeIndex < routes.length ∧ (routes[routeIndex]?.map RawRoute.resultIndex) = some resultIndex := by
  simp [groupOf]

theorem nodup_groupOf (resultIndex : Nat) : (groupOf routes resultIndex).Nodup :=
  List.nodup_range.filter _

theorem eq_of_mem_groupOf {other : Nat} (first : routeIndex ∈ groupOf routes resultIndex)
    (second : routeIndex ∈ groupOf routes other) : resultIndex = other := by
  have same := (mem_groupOf.mp first).2.symm.trans (mem_groupOf.mp second).2
  exact Option.some.inj same

/-! ## The turns of one result -/

/-- What concerns one result is unchanged. -/
structure Same (routes : List RawRoute) (resultIndex : Nat) (state after : Selection) : Prop where
  cursor : after.cursors resultIndex = state.cursors resultIndex
  progress : ∀ routeIndex ∈ groupOf routes resultIndex,
    after.progress routeIndex = state.progress routeIndex

namespace Same

theorem refl (state : Selection) : Same routes resultIndex state state :=
  ⟨rfl, fun _ _ => rfl⟩

theorem trans {last : Selection} (first : Same routes resultIndex state after)
    (second : Same routes resultIndex after last) : Same routes resultIndex state last :=
  ⟨second.cursor.trans first.cursor,
    fun routeIndex member => (second.progress routeIndex member).trans
      (first.progress routeIndex member)⟩

theorem consumed_eq (same : Same routes resultIndex state after) :
    consumed routes after resultIndex = consumed routes state resultIndex := by
  unfold consumed
  apply congrArg List.sum
  exact List.map_congr_left fun routeIndex member => by rw [same.progress routeIndex member]

theorem selectable_eq (same : Same routes resultIndex state after)
    (member : routeIndex ∈ groupOf routes resultIndex) :
    after.selectable routes routeIndex = state.selectable routes routeIndex := by
  unfold selectable
  rw [same.progress routeIndex member]

end Same

theorem progress_advance_of_ne {other : Nat} (different : other ≠ routeIndex) :
    (state.advance routes limits routeIndex).progress other = state.progress other := by
  unfold advance
  split
  · rfl
  · split
    · exact Function.update_of_ne different _ _
    · split
      · exact Function.update_of_ne different _ _
      · exact Function.update_of_ne different _ _

theorem cursors_advance : (state.advance routes limits routeIndex).cursors = state.cursors := by
  unfold advance
  split
  · rfl
  · split
    · rfl
    · split <;> rfl

/-- The turn of another result. -/
theorem same_visit {active : Bool} {other : Nat} (different : other ≠ resultIndex) :
    Same routes resultIndex state (visit routes limits (state, active) other).1 := by
  unfold visit
  dsimp only
  split
  · exact .refl state
  · rename_i chosen cursor found
    have moved : Same routes resultIndex state
        { state with cursors := Function.update state.cursors other cursor } :=
      ⟨Function.update_of_ne (Ne.symm different) _ _, fun _ _ => rfl⟩
    split
    · exact moved
    · refine moved.trans ⟨congrFun cursors_advance resultIndex, ?_⟩
      intro routeIndex member
      apply progress_advance_of_ne
      rintro rfl
      exact different (eq_of_mem_groupOf (choose_eq_some found).1 member)

theorem same_turns {active : Bool} (results : List Nat) (others : resultIndex ∉ results) :
    Same routes resultIndex state (results.foldl (visit routes limits) (state, active)).1 := by
  induction results generalizing state active with
  | nil => exact .refl state
  | cons result results ih =>
      rw [List.mem_cons, not_or] at others
      exact (same_visit (Ne.symm others.1)).trans (ih others.2)

theorem same_atTurn (resultCount count resultIndex : Nat) :
    Same routes resultIndex (rounds routes limits resultCount count)
      (atTurn routes limits resultCount count resultIndex) :=
  same_turns _ (by simp)

/-- The rest of a round leaves alone what the turn of a result made of it. -/
theorem same_round (resultCount count : Nat) {resultIndex : Nat} (lt : resultIndex < resultCount) :
    ∃ active, Same routes resultIndex
      (visit routes limits (atTurn routes limits resultCount count resultIndex, active)
        resultIndex).1 (rounds routes limits resultCount (count + 1)) := by
  obtain ⟨later, rfl⟩ := Nat.exists_eq_add_of_lt lt
  have range_eq : List.range (resultIndex + later + 1) = List.range resultIndex ++
      resultIndex :: (List.range later).map fun index => index + (resultIndex + 1) := by
    rw [Nat.add_assoc, List.range_add, Nat.add_comm later 1, List.range_add, List.map_append]
    simp [List.range_one, Nat.add_comm, Nat.add_left_comm]
  rw [rounds, round, range_eq, List.foldl_append, List.foldl_cons]
  refine ⟨_, same_turns _ ?_⟩
  simp only [List.mem_map, List.mem_range, not_exists, not_and]
  intro index _
  omega

/-! ## Serving -/

/-- A turn serves the first open route behind the cursor. -/
theorem served_choose {group : List Nat} {cursor next : Nat}
    (chosen : state.choose routes group cursor = some (routeIndex, next)) :
    Served (fun other => state.selectable routes other = true) (group.rotate cursor) routeIndex
      (group.rotate next) := by
  have open_ := (choose_eq_some chosen).2
  unfold choose at chosen
  obtain ⟨first, scanned, last, range_eq, found, skipped⟩ :=
    List.findSome?_eq_some_iff.mp chosen
  have first_eq : first = List.range scanned ∧ scanned < group.length := by
    have place : (List.range group.length)[first.length]? = some scanned := by
      rw [range_eq, List.getElem?_append_right le_rfl, Nat.sub_self, List.getElem?_cons_zero]
    obtain ⟨below, same⟩ := List.getElem?_eq_some_iff.mp place
    rw [List.getElem_range] at same
    rw [List.length_range] at below
    subst same
    refine ⟨?_, below⟩
    have taken := congrArg (List.take first.length) range_eq
    rw [List.take_left, List.take_range, min_eq_left below.le] at taken
    exact taken.symm
  obtain ⟨rfl, below⟩ := first_eq
  have rotated : ∀ place, place < group.length →
      (group.rotate cursor)[place]? = group[(cursor + place) % group.length]? := by
    intro place lt
    rw [List.getElem?_rotate lt, Nat.add_comm]
  have long : scanned < (group.rotate cursor).length := by rwa [List.length_rotate]
  dsimp only at found
  split at found
  · rename_i candidate position
    split at found
    · cases found
      have here : (group.rotate cursor)[scanned] = routeIndex := by
        have same := rotated scanned below
        rw [position, List.getElem?_eq_getElem long, Option.some.injEq] at same
        exact same
      refine ⟨(group.rotate cursor).take scanned, (group.rotate cursor).drop (scanned + 1), ?_, ?_,
        open_, ?_⟩
      · rw [← here, List.cons_getElem_drop_succ, List.take_append_drop]
      · intro other member isOpen
        obtain ⟨place, lt, rfl⟩ := List.mem_take_iff_getElem.mp member
        have early : place < scanned := lt.trans_le (Nat.min_le_left _ _)
        have passed := skipped place (List.mem_range.mpr early)
        dsimp only at passed
        rw [← rotated place (early.trans below), List.getElem?_eq_getElem (early.trans long)] at passed
        dsimp only at passed
        rw [isOpen, if_pos rfl] at passed
        cases passed
      · have next_eq : group.rotate (((cursor + scanned) % group.length + 1) % group.length) =
            (group.rotate cursor).rotate (scanned + 1) := by
          rw [Nat.mod_add_mod, List.rotate_mod, List.rotate_rotate, Nat.add_assoc]
        rw [next_eq, List.rotate_eq_drop_append_take long, List.take_succ_eq_append_getElem long, here]
    · cases found
  · cases found

/-- One value of a sum grows by one. -/
theorem sum_map_succ {values : List Nat} {before after : Nat → Nat} {item : Nat}
    (nodup : values.Nodup) (member : item ∈ values) (grown : after item = before item + 1)
    (others : ∀ other ∈ values, other ≠ item → after other = before other) :
    (values.map after).sum = (values.map before).sum + 1 := by
  induction values with
  | nil => cases member
  | cons first values ih =>
      rw [List.nodup_cons] at nodup
      rw [List.forall_mem_cons] at others
      rw [List.map_cons, List.map_cons, List.sum_cons, List.sum_cons]
      rcases List.mem_cons.mp member with rfl | later
      · have rest : values.map after = values.map before :=
          List.map_congr_left fun other otherMem =>
            others.2 other otherMem (fun same => nodup.1 (same ▸ otherMem))
        rw [grown, rest]
        omega
      · have different : first ≠ item := fun same => nodup.1 (same ▸ later)
        rw [others.1 different, ih nodup.2 later others.2]
        omega

/-- A turn that is used costs one step. -/
theorem consumed_advance (open_ : state.selectable routes routeIndex = true)
    (member : routeIndex ∈ groupOf routes resultIndex) :
    consumed routes (state.advance routes limits routeIndex) resultIndex =
      consumed routes state resultIndex + 1 := by
  have unblocked := (selectable_iff.mp open_).1
  apply sum_map_succ (nodup_groupOf resultIndex) member
  · obtain ⟨edge, -, ⟨nodeLimited, linkLimited, refused⟩ | taken⟩ :=
      @advance_cases routes limits state routeIndex open_
    · rw [refused, unblocked]
      simp [block]
    · rw [taken, unblocked]
      simp [unblocked]
  · intro other _ different
    rw [progress_advance_of_ne different]

/-! ## Rounds -/

section Rounds

variable {resultCount : Nat}

/-- What a round does to a result: nothing when it has no open route, and
otherwise a route is served for one step. -/
theorem round_cases (unlimited : limits.transactions < 0) (lt : resultIndex < resultCount)
    (count : Nat) :
    (served routes limits resultCount resultIndex count = none ∧
      Same routes resultIndex (rounds routes limits resultCount count)
        (rounds routes limits resultCount (count + 1)) ∧
      ¬Open routes (rounds routes limits resultCount count) resultIndex) ∨
    ∃ routeIndex, served routes limits resultCount resultIndex count = some routeIndex ∧
      Served (fun other => (rounds routes limits resultCount count).selectable routes other = true)
        ((groupOf routes resultIndex).rotate
          ((rounds routes limits resultCount count).cursors resultIndex)) routeIndex
        ((groupOf routes resultIndex).rotate
          ((rounds routes limits resultCount (count + 1)).cursors resultIndex)) ∧
      consumed routes (rounds routes limits resultCount (count + 1)) resultIndex =
        consumed routes (rounds routes limits resultCount count) resultIndex + 1 ∧
      ∀ other ∈ groupOf routes resultIndex,
        (rounds routes limits resultCount (count + 1)).selectable routes other = true →
          (rounds routes limits resultCount count).selectable routes other = true := by
  have before := @same_atTurn routes limits resultCount count resultIndex
  obtain ⟨active, later⟩ := @same_round routes limits resultCount count resultIndex lt
  unfold served
  dsimp only
  generalize atTurn routes limits resultCount count resultIndex = state at before later ⊢
  unfold visit at later
  dsimp only at later
  cases chosen : state.choose routes (groupOf routes resultIndex) (state.cursors resultIndex) with
  | none =>
      rw [chosen] at later
      refine .inl ⟨rfl, before.trans later, ?_⟩
      rintro ⟨routeIndex, member, open_⟩
      have closed := choose_eq_none chosen member
      rw [before.selectable_eq member, open_] at closed
      cases closed
  | some choice =>
      obtain ⟨routeIndex, cursor⟩ := choice
      rw [chosen] at later
      dsimp only at later
      have running : exhausted limits { state with
          cursors := Function.update state.cursors resultIndex cursor } = false :=
        exhausted_of_neg unlimited
      rw [running, if_neg Bool.false_ne_true] at later
      obtain ⟨member, open_⟩ := choose_eq_some chosen
      have moved : selectable routes { state with
          cursors := Function.update state.cursors resultIndex cursor } routeIndex = true := open_
      refine .inr ⟨routeIndex, rfl, ?_, ?_, ?_⟩
      · have cursor_eq : (rounds routes limits resultCount (count + 1)).cursors resultIndex =
            cursor := by
          rw [later.cursor, cursors_advance]
          exact Function.update_self resultIndex cursor state.cursors
        obtain ⟨passed, rest, queue_eq, closed, isOpen, next_eq⟩ := served_choose chosen
        have known : ∀ other ∈ (groupOf routes resultIndex).rotate (state.cursors resultIndex),
            (rounds routes limits resultCount count).selectable routes other =
              state.selectable routes other := by
          intro other otherMem
          exact (before.selectable_eq (List.mem_rotate.mp otherMem)).symm
        rw [cursor_eq, ← before.cursor]
        refine ⟨passed, rest, queue_eq, ?_, ?_, next_eq⟩
        · intro other otherMem
          dsimp only
          rw [known other (queue_eq ▸ List.mem_append_left _ otherMem)]
          exact closed other otherMem
        · dsimp only
          rw [known routeIndex (List.mem_rotate.mpr member)]
          exact isOpen
      · rw [later.consumed_eq, consumed_advance moved member, ← before.consumed_eq]
        rfl
      · intro other otherMem stays
        rw [← before.selectable_eq otherMem]
        by_cases same : other = routeIndex
        · rw [same]
          exact open_
        · rw [later.selectable_eq otherMem] at stays
          unfold selectable at stays ⊢
          rwa [progress_advance_of_ne same] at stays

/-- An open route was open before. -/
theorem open_of_succ (unlimited : limits.transactions < 0) (lt : resultIndex < resultCount)
    {count : Nat} (open_ : Open routes (rounds routes limits resultCount (count + 1)) resultIndex) :
    Open routes (rounds routes limits resultCount count) resultIndex := by
  obtain ⟨routeIndex, member, stays⟩ := open_
  rcases @round_cases routes limits resultIndex resultCount unlimited lt count with
    ⟨-, same, -⟩ | ⟨_, -, -, -, closes⟩
  · exact ⟨routeIndex, member, (same.selectable_eq member) ▸ stays⟩
  · exact ⟨routeIndex, member, closes routeIndex member stays⟩

theorem consumed_rounds (unlimited : limits.transactions < 0) (lt : resultIndex < resultCount)
    (count : Nat) :
    consumed routes (rounds routes limits resultCount count) resultIndex ≤ count ∧
      (Open routes (rounds routes limits resultCount count) resultIndex →
        consumed routes (rounds routes limits resultCount count) resultIndex = count) := by
  induction count with
  | zero =>
      have nothing : consumed routes (initial routes) resultIndex = 0 := by
        simp [consumed, initial]
      exact ⟨nothing.le, fun _ => nothing⟩
  | succ count ih =>
      rcases @round_cases routes limits resultIndex resultCount unlimited lt count with
        ⟨-, same, closed⟩ | ⟨_, -, -, step, -⟩
      · refine ⟨same.consumed_eq.le.trans (ih.1.trans (Nat.le_succ count)), fun open_ => ?_⟩
        exact absurd (open_of_succ unlimited lt open_) closed
      · rw [step]
        refine ⟨Nat.succ_le_succ ih.1, fun open_ => ?_⟩
        rw [ih.2 (open_of_succ unlimited lt open_)]

/-- The routes of a result take turns. -/
theorem rotation_rounds (unlimited : limits.transactions < 0) (lt : resultIndex < resultCount) :
    Rotation (fun count => (groupOf routes resultIndex).rotate
        ((rounds routes limits resultCount count).cursors resultIndex))
      (fun count routeIndex => routeIndex ∈ groupOf routes resultIndex ∧
        (rounds routes limits resultCount count).selectable routes routeIndex = true)
      (served routes limits resultCount resultIndex) := by
  constructor
  · exact fun count => List.nodup_rotate.mpr (nodup_groupOf resultIndex)
  · intro count routeIndex turn
    rcases @round_cases routes limits resultIndex resultCount unlimited lt count with
      ⟨passed, -⟩ | ⟨_, chosen, ⟨before, rest, queue_eq, closed, isOpen, next_eq⟩, -⟩
    · rw [passed] at turn
      cases turn
    · rw [chosen] at turn
      cases turn
      refine ⟨before, rest, queue_eq, fun other member => fun ⟨_, open_⟩ =>
        closed other member open_, ⟨?_, isOpen⟩, next_eq⟩
      rw [← @List.mem_rotate _ _ _ ((rounds routes limits resultCount count).cursors resultIndex),
        queue_eq]
      exact List.mem_append_right _ List.mem_cons_self
  · intro count passed
    rcases @round_cases routes limits resultIndex resultCount unlimited lt count with
      ⟨-, same, -⟩ | ⟨_, chosen, -⟩
    · rw [same.cursor]
    · rw [chosen] at passed
      cases passed
  · rintro count routeIndex ⟨member, stays⟩
    refine ⟨member, ?_⟩
    rcases @round_cases routes limits resultIndex resultCount unlimited lt count with
      ⟨-, same, -⟩ | ⟨_, -, -, -, closes⟩
    · rwa [same.selectable_eq member] at stays
    · exact closes routeIndex member stays

/-- The loop ends after some rounds. -/
theorem exists_rounds (fuel count : Nat) {final : Selection}
    (stopped : select routes limits resultCount fuel (rounds routes limits resultCount count) =
      some final) :
    ∃ total, count ≤ total ∧ final = rounds routes limits resultCount total := by
  induction fuel generalizing count with
  | zero => cases stopped
  | succ fuel ih =>
      rw [select] at stopped
      dsimp only at stopped
      split at stopped
      · cases stopped
        exact ⟨count + 1, Nat.le_succ count, rfl⟩
      · obtain ⟨total, le, same⟩ := ih (count + 1) stopped
        exact ⟨total, (Nat.le_succ count).trans le, same⟩

end Rounds

end Selection

open Selection

/-- The loop without a transaction limit is a number of rounds.  After each of
them, a result with an open route has used one step for every round, which no
result exceeds, and between two turns of a route every other open route of its
result has had one. -/
theorem fair_selection (routes : List RawRoute) {limits : SelectionLimits}
    (unlimited : limits.transactions < 0) (resultCount : Nat) :
    (∃ total, selected routes limits resultCount = rounds routes limits resultCount total) ∧
    (∀ count, ∀ resultIndex < resultCount,
      Open routes (rounds routes limits resultCount count) resultIndex →
        consumed routes (rounds routes limits resultCount count) resultIndex = count ∧
        ∀ other < resultCount,
          consumed routes (rounds routes limits resultCount count) other ≤
            consumed routes (rounds routes limits resultCount count) resultIndex) ∧
    ∀ resultIndex < resultCount, ∀ early late routeIndex, early < late →
      served routes limits resultCount resultIndex early = some routeIndex →
      served routes limits resultCount resultIndex late = some routeIndex →
      ∀ other ∈ groupOf routes resultIndex, other ≠ routeIndex →
        (rounds routes limits resultCount late).selectable routes other = true →
        ∃ count, early < count ∧ count < late ∧
          served routes limits resultCount resultIndex count = some other := by
  refine ⟨?_, ?_, ?_⟩
  · obtain ⟨total, -, same⟩ := exists_rounds (selectionFuel routes) 0
      (@select_eq_selected routes limits resultCount).1
    exact ⟨total, same⟩
  · intro count resultIndex lt open_
    have used := (consumed_rounds unlimited lt count).2 open_
    refine ⟨used, fun other otherLt => ?_⟩
    rw [used]
    exact (consumed_rounds unlimited otherLt count).1
  · intro resultIndex lt early late routeIndex before first again other member different open_
    exact (rotation_rounds unlimited lt).served_between before first again
      (List.mem_rotate.mpr member) different ⟨member, open_⟩

/-- Two results with routes of one and of two hops. -/
def unevenResults : List Result :=
  [reachedResult [respondingHop 0 "here", respondingHop 1 "near", respondingHop 2 "far"],
    reachedResult [respondingHop 0 "here", respondingHop 1 "near"]]

/-- After one round both of them have used one step, and the first one has a
route that is open. -/
theorem fair_selection_uneven :
    let routes := compactRoutes hostnames unevenResults
    let limits := BuildOptions.selectionLimits ⟨0, 0, -1, false⟩
    consumed routes (rounds routes limits 2 1) 1 ≤ consumed routes (rounds routes limits 2 1) 0 ∧
      consumed routes (rounds routes limits 2 1) 0 = 1 := by
  intro routes limits
  have fair := (fair_selection routes (by decide : limits.transactions < 0) 2).2.1 1 0 (by decide)
  have open_ : Open routes (rounds routes limits 2 1) 0 := ⟨0, by decide +kernel⟩
  exact ⟨(fair open_).2 1 (by decide), (fair open_).1⟩

end CheckNetwork.Compact
