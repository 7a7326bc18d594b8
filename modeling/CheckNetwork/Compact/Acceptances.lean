import CheckNetwork.Compact.Aggregate
import Mathlib.Data.List.Infix

/-!
# The order of acceptances

The turns of the selection loop accept hops one after another.  Their order
decides what is selected, and a build with a transaction limit accepts the
first hops that the build without it accepts.
-/

namespace CheckNetwork.Compact

open Diagnostic Go

namespace Selection

variable (routes : List RawRoute) (limits : SelectionLimits)

/-! ## A log of the loop -/

/-- The route whose hop the turn of a result accepted. -/
def acceptedBy (before after : Selection) (resultIndex : Nat) : List Nat :=
  match before.choose routes (groupOf routes resultIndex) (before.cursors resultIndex) with
  | some (routeIndex, _) =>
      if before.acceptedTransactions < after.acceptedTransactions then [routeIndex] else []
  | none => []

/-- A turn, which also writes down what it accepts. -/
def visitLogged (state : (Selection × Bool) × List Nat) (resultIndex : Nat) :
    (Selection × Bool) × List Nat :=
  let after := visit routes limits state.1 resultIndex
  (after, state.2 ++ acceptedBy routes state.1.1 after.1 resultIndex)

def roundLogged (resultCount : Nat) (state : Selection × List Nat) :
    (Selection × Bool) × List Nat :=
  (List.range resultCount).foldl (visitLogged routes limits) ((state.1, false), state.2)

def selectLogged (resultCount : Nat) : Nat → Selection × List Nat → Option (Selection × List Nat)
  | 0, _ => none
  | fuel + 1, state =>
      let ((after, active), log) := roundLogged routes limits resultCount state
      if !active || after.exhausted limits then some (after, log)
      else selectLogged resultCount fuel (after, log)

end Selection

/-- The routes of the accepted hops, in the order of acceptance. -/
def acceptances (routes : List RawRoute) (limits : SelectionLimits) (resultCount : Nat) :
    List Nat :=
  ((Selection.selectLogged routes limits resultCount (selectionFuel routes)
    (Selection.initial routes, [])).map Prod.snd).getD []

namespace Selection

variable {routes : List RawRoute} {limits : SelectionLimits} {state after : Selection}

/-! ## The log changes nothing -/

theorem foldl_visitLogged (results : List Nat) (current : Selection × Bool) (log : List Nat) :
    (results.foldl (visitLogged routes limits) (current, log)).1 =
      results.foldl (visit routes limits) current := by
  induction results generalizing current log with
  | nil => rfl
  | cons result results ih => exact ih _ _

theorem roundLogged_fst (resultCount : Nat) (log : List Nat) :
    (roundLogged routes limits resultCount (state, log)).1 =
      state.round routes limits resultCount :=
  foldl_visitLogged _ _ _

theorem map_selectLogged (resultCount fuel : Nat) (state : Selection) (log : List Nat) :
    (selectLogged routes limits resultCount fuel (state, log)).map Prod.fst =
      select routes limits resultCount fuel state := by
  induction fuel generalizing state log with
  | zero => rfl
  | succ fuel ih =>
      rw [selectLogged, select, ← roundLogged_fst resultCount log]
      obtain ⟨⟨after, active⟩, grown⟩ := roundLogged routes limits resultCount (state, log)
      dsimp only
      split
      · rfl
      · exact ih after grown

/-! ## What a log selects -/

/-- The hops that a log accepts after the hops of another one. -/
def hops (routes : List RawRoute) : List Nat → List Nat → List EdgeKey
  | _, [] => []
  | seen, routeIndex :: log =>
      ((edgesAt routes routeIndex)[seen.count routeIndex]?).toList ++
        hops routes (seen ++ [routeIndex]) log

theorem hops_append (seen first last : List Nat) : hops routes seen (first ++ last) =
    hops routes seen first ++ hops routes (seen ++ first) last := by
  induction first generalizing seen with
  | nil => rw [List.nil_append, List.append_nil, hops, List.nil_append]
  | cons routeIndex first ih =>
      rw [List.cons_append, hops, hops, ih, List.append_assoc, List.append_assoc,
        List.singleton_append]

def orderOf (start : List GoString) (edges : List EdgeKey) : List GoString :=
  edges.foldl (fun order edge => addSelected (addSelected order edge.source) edge.target) start

def linksOf (edges : List EdgeKey) : List EdgeKey :=
  edges.foldl (fun links edge =>
    if edge.source = edge.target ∨ edge ∈ links then links else links ++ [edge]) []

theorem orderOf_concat (start : List GoString) (edges : List EdgeKey) (edge : EdgeKey) :
    orderOf start (edges ++ [edge]) =
      addSelected (addSelected (orderOf start edges) edge.source) edge.target :=
  List.foldl_append

theorem linksOf_concat (edges : List EdgeKey) (edge : EdgeKey) : linksOf (edges ++ [edge]) =
    if edge.source = edge.target ∨ edge ∈ linksOf edges then linksOf edges
    else linksOf edges ++ [edge] :=
  List.foldl_append

/-- A state whose selection is that of a log. -/
structure Replays (routes : List RawRoute) (state : Selection) (log : List Nat) : Prop where
  accepted : ∀ routeIndex, (state.progress routeIndex).accepted = log.count routeIndex
  order : state.order = orderOf (preselected routes) (hops routes [] log)
  links : state.links = linksOf (hops routes [] log)
  transactions : state.acceptedTransactions = log.length

theorem replays_initial : Replays routes (initial routes) [] :=
  ⟨fun _ => rfl, rfl, rfl, rfl⟩

/-- An advance refuses the next hop of a route, or takes it. -/
theorem advance_cases {routeIndex : Nat} (open_ : state.selectable routes routeIndex = true) :
    ∃ edge, (edgesAt routes routeIndex)[(state.progress routeIndex).accepted]? = some edge ∧
      ((∃ nodeLimited linkLimited, state.advance routes limits routeIndex =
          { state with
            progress := state.block routeIndex
            nodeLimited := nodeLimited
            linkLimited := linkLimited }) ∨
        state.advance routes limits routeIndex =
          { state with
            order := addSelected (addSelected state.order edge.source) edge.target
            links :=
              if edge.source = edge.target ∨ edge ∈ state.links then state.links
              else state.links ++ [edge]
            progress := Function.update state.progress routeIndex
              { state.progress routeIndex with
                accepted := (state.progress routeIndex).accepted + 1 }
            acceptedTransactions := state.acceptedTransactions + 1 }) := by
  obtain ⟨-, short⟩ := selectable_iff.mp open_
  refine ⟨_, List.getElem?_eq_getElem short, ?_⟩
  unfold advance
  rw [List.getElem?_eq_getElem short]
  dsimp only
  split
  · exact .inl ⟨true, state.linkLimited, rfl⟩
  · split
    · exact .inl ⟨state.nodeLimited, true, rfl⟩
    · exact .inr rfl

theorem accepted_block (routeIndex other : Nat) :
    (state.block routeIndex other).accepted = (state.progress other).accepted := by
  unfold block
  rw [Function.update_apply]
  split
  · rename_i same
    rw [same]
  · rfl

/-- A turn passes, goes unused, refuses a hop, or takes one and logs it. -/
theorem Replays.visit {log : List Nat} {active : Bool} (replays : Replays routes state log)
    (resultIndex : Nat) :
    Replays routes (visitLogged routes limits ((state, active), log) resultIndex).1.1
      (visitLogged routes limits ((state, active), log) resultIndex).2 := by
  unfold visitLogged Selection.visit acceptedBy
  dsimp only
  cases chosen : state.choose routes (groupOf routes resultIndex) (state.cursors resultIndex) with
  | none =>
      dsimp only
      rw [List.append_nil]
      exact replays
  | some choice =>
      obtain ⟨routeIndex, cursor⟩ := choice
      dsimp only
      split
      · dsimp only
        rw [if_neg (lt_irrefl _), List.append_nil]
        exact ⟨replays.accepted, replays.order, replays.links, replays.transactions⟩
      · have open_ : selectable routes { state with
            cursors := Function.update state.cursors resultIndex cursor } routeIndex = true :=
          (choose_eq_some chosen).2
        obtain ⟨edge, next, refused | taken⟩ := @advance_cases routes limits _ routeIndex open_
        · obtain ⟨nodeLimited, linkLimited, advanced⟩ := refused
          rw [advanced]
          dsimp only
          rw [if_neg (lt_irrefl _), List.append_nil]
          refine ⟨fun other => ?_, replays.order, replays.links, replays.transactions⟩
          exact (accepted_block routeIndex other).trans (replays.accepted other)
        · have hops_eq : hops routes [] (log ++ [routeIndex]) = hops routes [] log ++ [edge] := by
            dsimp only at next
            rw [replays.accepted routeIndex] at next
            rw [hops_append, hops, hops, List.nil_append, next]
            rfl
          rw [taken]
          dsimp only
          rw [if_pos (Nat.lt_succ_self _)]
          constructor
          · intro other
            rw [List.count_append, List.count_singleton']
            dsimp only
            by_cases same : other = routeIndex
            · rw [same, Function.update_self, if_pos rfl, replays.accepted routeIndex]
            · rw [Function.update_of_ne same, if_neg (Ne.symm same), Nat.add_zero,
                replays.accepted other]
          · rw [hops_eq, orderOf_concat, ← replays.order]
          · rw [hops_eq, linksOf_concat, ← replays.links]
          · rw [List.length_append, ← replays.transactions]
            rfl

theorem Replays.turns {log : List Nat} {active : Bool} (replays : Replays routes state log)
    (results : List Nat) :
    Replays routes (results.foldl (visitLogged routes limits) ((state, active), log)).1.1
      (results.foldl (visitLogged routes limits) ((state, active), log)).2 := by
  induction results generalizing state active log with
  | nil => exact replays
  | cons result results ih => exact ih (replays.visit result)

theorem Replays.loop {log : List Nat} (replays : Replays routes state log) {resultCount : Nat}
    {fuel : Nat} {final : Selection × List Nat}
    (stopped : selectLogged routes limits resultCount fuel (state, log) = some final) :
    Replays routes final.1 final.2 := by
  induction fuel generalizing state log with
  | zero => cases stopped
  | succ fuel ih =>
      have rounded : Replays routes (roundLogged routes limits resultCount (state, log)).1.1
          (roundLogged routes limits resultCount (state, log)).2 := replays.turns _
      rw [selectLogged] at stopped
      generalize roundLogged routes limits resultCount (state, log) = after at rounded stopped
      obtain ⟨⟨after, active⟩, grown⟩ := after
      dsimp only at rounded stopped
      split at stopped
      · cases stopped
        exact rounded
      · exact ih rounded stopped

/-! ## Stopping early -/

/-- A log only grows. -/
theorem prefix_turns (results : List Nat) (current : Selection × Bool) (log : List Nat) :
    log <+: (results.foldl (visitLogged routes limits) (current, log)).2 := by
  induction results generalizing current log with
  | nil => exact List.prefix_rfl
  | cons result results ih => exact (List.prefix_append _ _).trans (ih _ _)

theorem prefix_loop {resultCount fuel : Nat} {log : List Nat} {final : Selection × List Nat}
    (stopped : selectLogged routes limits resultCount fuel (state, log) = some final) :
    log <+: final.2 := by
  induction fuel generalizing state log with
  | zero => cases stopped
  | succ fuel ih =>
      have grows : log <+: (roundLogged routes limits resultCount (state, log)).2 :=
        prefix_turns _ _ _
      rw [selectLogged] at stopped
      generalize roundLogged routes limits resultCount (state, log) = after at grows stopped
      obtain ⟨⟨after, active⟩, grown⟩ := after
      dsimp only at grows stopped
      split at stopped
      · cases stopped
        exact grows
      · exact grows.trans (ih stopped)

theorem exhausted_of_neg (below : limits.transactions < 0) : state.exhausted limits = false := by
  rw [exhausted, decide_eq_false_iff_not]
  omega

theorem exhausted_iff {log : List Nat} {count : Nat} (replays : Replays routes state log)
    (limit : limits.transactions = count) :
    state.exhausted limits = true ↔ count ≤ log.length := by
  rw [exhausted, decide_eq_true_eq, limit, replays.transactions]
  omega

/-- The run with a limit beside the run without: they are the same as long as
the limit is not exceeded, and then the former has accepted what it may. -/
def Beside (count : Nat) (limited free : (Selection × Bool) × List Nat) : Prop :=
  limited = free ∧ limited.2.length ≤ count ∨ limited.2.length = count ∧ limited.2 <+: free.2

variable {free : SelectionLimits}

/-- The same limits but for those on transactions, of which the second has
none. -/
structure Frees (limits free : SelectionLimits) : Prop where
  nodes : free.nodes = limits.nodes
  links : free.links = limits.links
  transactions : free.transactions < 0

theorem Frees.visit {active : Bool} (frees : Frees limits free)
    (open_ : state.exhausted limits = false) (resultIndex : Nat) :
    visit routes free (state, active) resultIndex =
      visit routes limits (state, active) resultIndex := by
  have stays : ∀ cursors, ({ state with cursors := cursors } : Selection).exhausted limits = false :=
    fun _ => open_
  have advanced : ∀ (state : Selection) (routeIndex : Nat),
      state.advance routes free routeIndex = state.advance routes limits routeIndex := by
    intro state routeIndex
    unfold advance
    rw [frees.nodes, frees.links]
  unfold Selection.visit
  dsimp only
  split
  · rfl
  · rw [stays, exhausted_of_neg frees.transactions, advanced]

theorem acceptedBy_of_eq (same : after.acceptedTransactions = state.acceptedTransactions)
    (resultIndex : Nat) : acceptedBy routes state after resultIndex = [] := by
  unfold acceptedBy
  split
  · rw [same, if_neg (lt_irrefl _)]
  · rfl

/-- An exhausted run accepts nothing more. -/
theorem visitLogged_exhausted {active : Bool} {log : List Nat}
    (exhausted : state.exhausted limits = true) (resultIndex : Nat) :
    (visitLogged routes limits ((state, active), log) resultIndex).2 = log := by
  have stays : ∀ cursors, ({ state with cursors := cursors } : Selection).exhausted limits = true :=
    fun _ => exhausted
  have unused : (visit routes limits (state, active) resultIndex).1.acceptedTransactions =
      state.acceptedTransactions := by
    unfold visit
    dsimp only
    split
    · rfl
    · rw [stays, if_pos rfl]
  unfold visitLogged
  dsimp only
  rw [acceptedBy_of_eq unused, List.append_nil]

theorem length_visitLogged_le (current : (Selection × Bool) × List Nat) (resultIndex : Nat) :
    (visitLogged routes limits current resultIndex).2.length ≤ current.2.length + 1 := by
  unfold visitLogged acceptedBy
  rw [List.length_append]
  apply Nat.add_le_add_left
  split
  · split
    · exact le_rfl
    · exact Nat.zero_le _
  · exact Nat.zero_le _

theorem beside_visit {count : Nat} {limited other : (Selection × Bool) × List Nat}
    (frees : Frees limits free) (limit : limits.transactions = count)
    (replays : Replays routes limited.1.1 limited.2) (beside : Beside count limited other)
    (resultIndex : Nat) :
    Beside count (visitLogged routes limits limited resultIndex)
      (visitLogged routes free other resultIndex) := by
  obtain ⟨⟨state, active⟩, log⟩ := limited
  have full : count ≤ log.length → log <+: other.2 →
      Beside count (visitLogged routes limits ((state, active), log) resultIndex)
        (visitLogged routes free other resultIndex) := by
    intro reached grown
    have kept : (visitLogged routes limits ((state, active), log) resultIndex).2 = log :=
      visitLogged_exhausted ((exhausted_iff replays limit).mpr reached) resultIndex
    right
    rw [kept]
    refine ⟨?_, grown.trans (List.prefix_append _ _)⟩
    rcases beside with ⟨-, le⟩ | ⟨eq, -⟩
    · exact le_antisymm le reached
    · exact eq
  rcases beside with ⟨rfl, le⟩ | ⟨eq, grown⟩
  · rcases (show log.length ≤ count from le).lt_or_eq with short | eq
    · have open_ : state.exhausted limits = false := by
        rw [← Bool.not_eq_true, exhausted_iff replays limit]
        exact Nat.not_le.mpr short
      left
      refine ⟨?_, (length_visitLogged_le _ _).trans short⟩
      unfold visitLogged
      rw [frees.visit open_]
    · exact full eq.ge List.prefix_rfl
  · exact full eq.ge grown

theorem beside_turns {count : Nat} {limited other : (Selection × Bool) × List Nat}
    (frees : Frees limits free) (limit : limits.transactions = count)
    (replays : Replays routes limited.1.1 limited.2) (beside : Beside count limited other)
    (results : List Nat) :
    Beside count (results.foldl (visitLogged routes limits) limited)
      (results.foldl (visitLogged routes free) other) := by
  induction results generalizing limited other with
  | nil => exact beside
  | cons result results ih =>
      exact ih (replays.visit result) (beside_visit frees limit replays beside result)

/-- Where the run without a limit stops, the run with one has accepted the
first hops. -/
theorem take_loop {count resultCount fuel : Nat} {log : List Nat} {final : Selection × List Nat}
    (frees : Frees limits free) (limit : limits.transactions = count)
    (replays : Replays routes state log) (le : log.length ≤ count)
    (stopped : selectLogged routes free resultCount fuel (state, log) = some final) :
    ∃ limited, selectLogged routes limits resultCount fuel (state, log) = some limited ∧
      limited.2 = final.2.take count := by
  induction fuel generalizing state log with
  | zero => cases stopped
  | succ fuel ih =>
      have beside : Beside count (roundLogged routes limits resultCount (state, log))
          (roundLogged routes free resultCount (state, log)) :=
        beside_turns frees limit replays (.inl ⟨rfl, le⟩) _
      have rounded : Replays routes (roundLogged routes limits resultCount (state, log)).1.1
          (roundLogged routes limits resultCount (state, log)).2 := replays.turns _
      rw [selectLogged] at stopped ⊢
      generalize roundLogged routes limits resultCount (state, log) = limited
        at beside rounded ⊢
      generalize roundLogged routes free resultCount (state, log) = other
        at beside stopped
      obtain ⟨⟨after, active⟩, grown⟩ := limited
      obtain ⟨⟨other, otherActive⟩, otherGrown⟩ := other
      dsimp only at rounded stopped ⊢
      rw [exhausted_of_neg frees.transactions, Bool.or_false] at stopped
      have grows : otherGrown <+: final.2 := by
        split at stopped
        · cases stopped
          exact List.prefix_rfl
        · exact prefix_loop stopped
      have full : count ≤ grown.length → grown.length ≤ count → grown <+: otherGrown →
          ∃ limited, (if (!active || after.exhausted limits) = true then some (after, grown)
            else selectLogged routes limits resultCount fuel (after, grown)) = some limited ∧
              limited.2 = final.2.take count := by
        intro reached short earlier
        rw [(exhausted_iff rounded limit).mpr reached, Bool.or_true, if_pos rfl]
        refine ⟨_, rfl, ?_⟩
        rw [← le_antisymm short reached]
        exact List.prefix_iff_eq_take.mp (earlier.trans grows)
      rcases beside with ⟨same, short⟩ | ⟨eq, earlier⟩
      · cases same
        by_cases reached : count ≤ grown.length
        · exact full reached short List.prefix_rfl
        · have open_ : after.exhausted limits = false := by
            rw [← Bool.not_eq_true, exhausted_iff rounded limit]
            exact reached
          rw [open_, Bool.or_false]
          split
          · rename_i idle
            rw [if_pos idle] at stopped
            cases stopped
            exact ⟨_, rfl, (List.take_of_length_le short).symm⟩
          · rename_i busy
            rw [if_neg busy] at stopped
            exact ih rounded short stopped
      · exact full eq.ge eq.le earlier

end Selection

/-! ## Acceptances -/

section Acceptances

open Selection

variable {routes : List RawRoute} {limits free : SelectionLimits}

theorem selectLogged_eq (routes : List RawRoute) (limits : SelectionLimits) (resultCount : Nat) :
    selectLogged routes limits resultCount (selectionFuel routes) (initial routes, []) =
      some (selected routes limits resultCount, acceptances routes limits resultCount) := by
  have erased := @map_selectLogged routes limits resultCount (selectionFuel routes)
    (initial routes) []
  rw [(@select_eq_selected routes limits resultCount).1] at erased
  rw [acceptances]
  cases logged : selectLogged routes limits resultCount (selectionFuel routes)
      (initial routes, []) with
  | none => rw [logged] at erased; cases erased
  | some final =>
      rw [logged, Option.map_some, Option.some.injEq] at erased
      rw [Option.map_some, Option.getD_some, ← erased]

theorem replays_selected (routes : List RawRoute) (limits : SelectionLimits) (resultCount : Nat) :
    Replays routes (selected routes limits resultCount) (acceptances routes limits resultCount) :=
  replays_initial.loop (selectLogged_eq routes limits resultCount)

/-- With a limit, the first hops are accepted. -/
theorem acceptances_eq_take (frees : Frees limits free) {count : Nat}
    (limit : limits.transactions = count) (resultCount : Nat) :
    acceptances routes limits resultCount = (acceptances routes free resultCount).take count := by
  obtain ⟨limited, stopped, taken⟩ := take_loop frees limit replays_initial (Nat.zero_le count)
    (selectLogged_eq routes free resultCount)
  rw [selectLogged_eq, Option.some.injEq] at stopped
  rw [← stopped] at taken
  exact taken

end Acceptances

end CheckNetwork.Compact
