import CheckNetwork.Compact.Acceptances
import CheckNetwork.Compact.Honest

/-!
# Builds with a transaction limit

A build that may accept more transactions shows at least what another build
shows, and all of them together show what the build without a limit shows.
-/

namespace CheckNetwork.Compact

open Diagnostic Go

/-- The routes that a build lengthens, in this order. -/
def buildAcceptances (library : Library) (results : List Result) (maxAcceptedTransactions : Int) :
    List Nat :=
  acceptances (compactRoutes library results)
    (BuildOptions.selectionLimits ⟨0, 0, maxAcceptedTransactions, false⟩) results.length

/-- The variables of the selection loop of a build, at its end. -/
def buildSelection (library : Library) (results : List Result) (maxAcceptedTransactions : Int) :
    Selection :=
  selected (compactRoutes library results)
    (BuildOptions.selectionLimits ⟨0, 0, maxAcceptedTransactions, false⟩) results.length

theorem topology_buildWithOptions (library : Library) (results : List Result)
    (maxAcceptedTransactions : Int) (includeGeo : Bool) :
    (buildWithOptions library results maxAcceptedTransactions includeGeo).topology =
      topologyOf library (compactRoutes library results) results.length includeGeo
        (buildSelection library results maxAcceptedTransactions) :=
  rfl

/-! ## More of the same -/

/-- A selection shows at least what another one shows: the prefixes of the
routes, the nodes, and the links with their observations. -/
structure Extends (routes : List RawRoute) (small large : Selection) : Prop where
  shown : ∀ routeIndex route, routes[routeIndex]? = some route →
    ∀ entry, displayedRoute small route routeIndex = some entry →
      ∃ longer, displayedRoute large route routeIndex = some longer ∧
        entry.accepted ≤ longer.accepted ∧ entry.keys <+: longer.keys
  nodes : displayedKeys small.order (displayedRoutes routes small) ⊆
    displayedKeys large.order (displayedRoutes routes large)
  links : ∀ edge aggregate, linkAggregates (displayedRoutes routes small) edge = some aggregate →
    ∃ larger, linkAggregates (displayedRoutes routes large) edge = some larger ∧
      aggregate.observations ≤ larger.observations

theorem pairs_sublist {α : Type*} {first last : List α} (shorter : first <+: last) :
    (pairs first).Sublist (pairs last) := by
  rw [List.prefix_iff_eq_take.mp shorter]
  cases first.length with
  | zero => exact List.nil_sublist _
  | succ count =>
      rw [← take_pairs]
      exact List.take_sublist _ _

namespace Selection

variable {routes : List RawRoute} {limits : SelectionLimits} {small large : Selection}
  {log longer : List Nat}

theorem subset_orderOf (start : List GoString) (edges : List EdgeKey) :
    start ⊆ orderOf start edges := by
  induction edges using List.reverseRecOn with
  | nil => exact List.Subset.refl _
  | append_singleton edges edge ih =>
      rw [orderOf_concat]
      exact fun key member =>
        mem_addSelected.mpr (.inl (mem_addSelected.mpr (.inl (ih member))))

theorem Replays.order_subset (replays : Replays routes small log)
    (others : Replays routes large longer) (earlier : log <+: longer) :
    small.order ⊆ large.order := by
  obtain ⟨rest, rfl⟩ := earlier
  rw [replays.order, others.order, hops_append, orderOf, orderOf, List.foldl_append]
  exact subset_orderOf _ _

theorem Replays.accepted_le (replays : Replays routes small log)
    (others : Replays routes large longer) (earlier : log <+: longer) (routeIndex : Nat) :
    (small.progress routeIndex).accepted ≤ (large.progress routeIndex).accepted := by
  rw [replays.accepted, others.accepted]
  exact earlier.sublist.count_le routeIndex

end Selection

section Extends

open Selection

variable {routes : List RawRoute} {limits free : SelectionLimits} {small large : Selection}

theorem displayedNodeCount_le {small large : List GoString} (subset : small ⊆ large)
    (route : RawRoute) {accepted more : Nat} (le : accepted ≤ more) :
    displayedNodeCount small route accepted ≤ displayedNodeCount large route more := by
  unfold displayedNodeCount
  by_cases moved : 0 < accepted
  · rw [if_pos moved, if_pos (moved.trans_le le)]
    exact Nat.succ_le_succ le
  · have none_ : accepted = 0 := Nat.eq_zero_of_not_pos moved
    subst none_
    rw [if_neg moved]
    split
    · rename_i alone
      cases route.nodes.head? with
      | none => exact Nat.zero_le _
      | some observation =>
          dsimp only
          split
          · rename_i member
            by_cases grown : 0 < more
            · rw [if_pos grown]
              exact Nat.succ_le_succ (Nat.zero_le more)
            · have same : more = 0 := Nat.eq_zero_of_not_pos grown
              subst same
              rw [if_neg grown, if_pos alone, if_pos (subset member)]
          · exact Nat.zero_le _
    · exact Nat.zero_le _

theorem displayedRoute_mono (order : small.order ⊆ large.order)
    (accepted : ∀ routeIndex,
      (small.progress routeIndex).accepted ≤ (large.progress routeIndex).accepted)
    {route : RawRoute} {routeIndex : Nat} {entry : Displayed}
    (shown : displayedRoute small route routeIndex = some entry) :
    ∃ longer, displayedRoute large route routeIndex = some longer ∧
      entry.accepted ≤ longer.accepted ∧ entry.keys <+: longer.keys := by
  have le := displayedNodeCount_le order route (accepted routeIndex)
  unfold displayedRoute at shown ⊢
  dsimp only at shown ⊢
  split at shown
  · cases shown
  · rename_i positive
    cases shown
    have shownToo : displayedNodeCount large.order route (large.progress routeIndex).accepted ≠ 0 := by
      intro none_
      rw [none_] at le
      exact positive (Nat.le_zero.mp le)
    rw [if_neg shownToo]
    exact ⟨_, rfl, accepted routeIndex, List.take_prefix_take_left le⟩

/-- What is shown of routes is extended route by route. -/
theorem shownEdges_sublist {smaller larger : RawRoute × Nat → Option Displayed}
    (entries : List (RawRoute × Nat))
    (extended : ∀ item ∈ entries, ∀ entry, smaller item = some entry →
      ∃ longer, larger item = some longer ∧ entry.keys <+: longer.keys) :
    (shownEdges (entries.filterMap smaller)).Sublist (shownEdges (entries.filterMap larger)) := by
  induction entries with
  | nil => exact List.Sublist.refl _
  | cons item entries ih =>
      rw [List.forall_mem_cons] at extended
      have rest := ih extended.2
      rw [List.filterMap_cons, List.filterMap_cons]
      cases shown : smaller item with
      | none =>
          cases larger item with
          | none => exact rest
          | some longer =>
              dsimp only
              exact rest.trans (List.sublist_append_right _ _)
      | some entry =>
          obtain ⟨longer, found, shorter⟩ := extended.1 entry shown
          rw [found]
          dsimp only
          rw [shownEdges, List.flatMap_cons, shownEdges, List.flatMap_cons]
          exact ((pairs_sublist shorter).map _).append rest

theorem extends_of_replays (wellFormed : ∀ route ∈ routes, route.WellFormed)
    (sound : small.Sound routes limits) (largeSound : large.Sound routes free)
    (order : small.order ⊆ large.order)
    (accepted : ∀ routeIndex,
      (small.progress routeIndex).accepted ≤ (large.progress routeIndex).accepted) :
    Extends routes small large := by
  have proper : ∀ entry ∈ displayedRoutes routes small, entry.Proper := fun _ member =>
    proper_of_mem_displayedRoutes wellFormed sound.accepted_le member
  have largeProper : ∀ entry ∈ displayedRoutes routes large, entry.Proper := fun _ member =>
    proper_of_mem_displayedRoutes wellFormed largeSound.accepted_le member
  constructor
  · intro routeIndex route _ entry shown
    exact displayedRoute_mono order accepted shown
  · intro key member
    obtain ⟨selected, found⟩ := List.mem_filter.mp member
    rw [isSome_nodeAggregates_iff proper] at found
    obtain ⟨entry, shown, keyMem⟩ := found
    obtain ⟨⟨route, routeIndex⟩, listed, displayed⟩ := List.mem_filterMap.mp shown
    obtain ⟨longer, also, -, shorter⟩ := displayedRoute_mono order accepted displayed
    apply List.mem_filter.mpr
    rw [isSome_nodeAggregates_iff largeProper]
    exact ⟨order selected, longer, List.mem_filterMap.mpr ⟨(route, routeIndex), listed, also⟩,
      shorter.subset keyMem⟩
  · intro edge aggregate found
    have sublist : (shownEdges (displayedRoutes routes small)).Sublist
        (shownEdges (displayedRoutes routes large)) := by
      apply shownEdges_sublist
      intro item _ entry displayed
      obtain ⟨longer, also, -, shorter⟩ := displayedRoute_mono order accepted displayed
      exact ⟨longer, also, shorter⟩
    have member := (isSome_linkAggregates_iff proper).mp (Option.isSome_of_mem found)
    obtain ⟨larger, also⟩ := Option.isSome_iff_exists.mp
      ((isSome_linkAggregates_iff largeProper).mpr (sublist.subset member))
    refine ⟨larger, also, ?_⟩
    rw [observations_linkAggregates proper found, observations_linkAggregates largeProper also]
    exact sublist.count_le edge

/-- The topology is decided by the order of the nodes and the prefixes of the
routes, the reasons of its truncation aside. -/
theorem topologyOf_congr (library : Library) (resultCount : Nat) (includeGeo : Bool)
    (order : small.order = large.order)
    (accepted : ∀ routeIndex,
      (small.progress routeIndex).accepted = (large.progress routeIndex).accepted) :
    topologyOf library routes resultCount includeGeo small =
      { topologyOf library routes resultCount includeGeo large with
        truncated := (topologyOf library routes resultCount includeGeo small).truncated
        truncationReasons :=
          (topologyOf library routes resultCount includeGeo small).truncationReasons } := by
  have displayed : displayedRoutes routes small = displayedRoutes routes large := by
    unfold displayedRoutes displayedRoute
    rw [order]
    simp only [accepted]
  unfold topologyOf
  rw [displayed, order]

end Extends

/-! ## Builds -/

section Builds

open Selection

theorem frees_build {bound : Int} (below : bound < 0) (count : Nat) :
    Frees (BuildOptions.selectionLimits ⟨0, 0, count, false⟩)
      (BuildOptions.selectionLimits ⟨0, 0, bound, false⟩) :=
  ⟨rfl, rfl, below⟩

variable {library : Library} {results : List Result}

theorem extends_build {fewer more : Int}
    (earlier : buildAcceptances library results fewer <+: buildAcceptances library results more) :
    Extends (compactRoutes library results) (buildSelection library results fewer)
      (buildSelection library results more) := by
  have small := replays_selected (compactRoutes library results)
    (BuildOptions.selectionLimits ⟨0, 0, fewer, false⟩) results.length
  have large := replays_selected (compactRoutes library results)
    (BuildOptions.selectionLimits ⟨0, 0, more, false⟩) results.length
  have room : 1 ≤ maxNodes := by decide
  exact extends_of_replays (wellFormed_compactRoutes library results)
    (selected_sound room results.length) (selected_sound room results.length)
    (small.order_subset large earlier) (small.accepted_le large earlier)

end Builds

/-- The build with a limit accepts the first transactions of the build without
one.  A larger limit shows more of the same, and the number of all transactions
as a limit shows the same, up to the reasons for a truncation. -/
theorem buildWithOptions_limited (library : Library) (results : List Result) (includeGeo : Bool)
    {bound : Int} (below : bound < 0) :
    (buildWithOptions library results bound includeGeo).acceptedTransactions =
        (buildAcceptances library results bound).length ∧
      (∀ count : Nat,
        buildAcceptances library results count =
            (buildAcceptances library results bound).take count ∧
          (buildWithOptions library results count includeGeo).acceptedTransactions =
            min count (buildWithOptions library results bound includeGeo).acceptedTransactions ∧
          Extends (compactRoutes library results) (buildSelection library results count)
            (buildSelection library results bound)) ∧
      (∀ fewer more : Nat, fewer ≤ more →
        Extends (compactRoutes library results) (buildSelection library results fewer)
          (buildSelection library results more)) ∧
      ∀ total : Nat,
        total = (buildWithOptions library results bound includeGeo).acceptedTransactions →
        (buildWithOptions library results total includeGeo).topology =
          { (buildWithOptions library results bound includeGeo).topology with
            truncated := (buildWithOptions library results total includeGeo).topology.truncated
            truncationReasons :=
              (buildWithOptions library results total includeGeo).topology.truncationReasons } := by
  have replays : ∀ limit : Int, Selection.Replays (compactRoutes library results)
      (buildSelection library results limit) (buildAcceptances library results limit) :=
    fun limit => replays_selected _ _ _
  have counted : ∀ limit : Int,
      (buildWithOptions library results limit includeGeo).acceptedTransactions =
        (buildAcceptances library results limit).length :=
    fun limit => (replays limit).transactions
  have taken : ∀ count : Nat, buildAcceptances library results count =
      (buildAcceptances library results bound).take count :=
    fun count => acceptances_eq_take (frees_build below count) rfl _
  refine ⟨counted bound, ?_, ?_, ?_⟩
  · intro count
    refine ⟨taken count, ?_, extends_build ?_⟩
    · rw [counted, counted, taken, List.length_take]
    · rw [taken]
      exact List.take_prefix _ _
  · intro fewer more le
    apply extends_build
    rw [taken, taken]
    exact List.take_prefix_take_left le
  · intro total same
    have log_eq : buildAcceptances library results total = buildAcceptances library results bound := by
      rw [taken, same, counted, List.take_length]
    rw [topology_buildWithOptions, topology_buildWithOptions]
    apply topologyOf_congr
    · rw [(replays total).order, (replays bound).order, log_eq]
    · intro routeIndex
      rw [(replays total).accepted, (replays bound).accepted, log_eq]

/-- Two results with two hops each; the third turn is the first one's again. -/
theorem buildAcceptances_take_three :
    let hops := [respondingHop 0 "here", respondingHop 1 "near", respondingHop 2 "far"]
    buildAcceptances hostnames [reachedResult hops, reachedResult hops] 3 = [0, 1, 0] := by
  intro hops
  have first := ((buildWithOptions_limited hostnames [reachedResult hops, reachedResult hops] false
    (by decide : (-1 : Int) < 0)).2.1 3).1
  have all : buildAcceptances hostnames [reachedResult hops, reachedResult hops] (-1) =
      [0, 1, 0, 1] := by
    decide +kernel
  exact first.trans (by rw [all]; rfl)

end CheckNetwork.Compact
