import CheckNetwork.Compact.Counts
import CheckNetwork.Trace.Shape

/-!
# Bounded, maximal and honest selection

The selection stays within its limits, leaves a route incomplete only where
its next hop would exceed one of them, and says so.
-/

namespace CheckNetwork.Compact

open Diagnostic Go
open CheckNetwork.Trace (Shaped Traced)

/-! ## Parsed routes are long -/

theorem kind_canonicalNode_ne_local {library : Library} {node : TopologyNode} {resultIndex : Nat}
    {attempt : Int} {occurrence nodeIndex : Nat} (later : nodeIndex ≠ 0) :
    (canonicalNode library node resultIndex attempt occurrence nodeIndex).kind ≠ .localNode := by
  unfold canonicalNode
  rw [if_neg (by simp [later])]
  dsimp only
  split
  · simp
  · split <;> simp

theorem Canonical.Spelled.key_ne_local {canonical : Canonical} (spelled : canonical.Spelled)
    (remote : canonical.kind ≠ .localNode) : canonical.key ≠ GoString.ofString "local" := by
  unfold Canonical.Spelled at spelled
  split at spelled
  · exact absurd ‹_› remote
  · simp [spelled, GoString.ofString]
  · simp [spelled, GoString.ofString]
  · obtain ⟨⟨place, key_eq⟩, -⟩ := spelled
    simp [key_eq, GoString.ofString]

theorem sortedNodes_eq_of_shaped {source : Source} (shaped : Shaped source.topology) :
    source.sortedNodes = source.topology.nodes := by
  obtain ⟨hops, nodes_eq, -, hopsShaped, increasing⟩ := shaped.nodes_eq
  refine List.Pairwise.insertionSort_eq ?_
  rw [nodes_eq, List.pairwise_cons]
  constructor
  · intro node member
    exact (hopsShaped node member).hop_pos.le
  · exact (List.pairwise_map.mp increasing).imp fun less => less.le

/-- A traced route has at least one hop after the local node. -/
theorem two_le_canonicalKeys {library : Library} {source : Source}
    (shaped : Shaped source.topology) : 2 ≤ (source.canonicalKeys library).length := by
  obtain ⟨hops, nodes_eq, some_hop, -, -⟩ := shaped.nodes_eq
  obtain ⟨next, rest, rfl⟩ := List.exists_cons_of_ne_nil some_hop
  unfold Source.canonicalKeys Source.canonicalNodes
  rw [sortedNodes_eq_of_shaped shaped, nodes_eq, List.zipIdx_cons, List.zipIdx_cons]
  simp only [List.map_cons, Nat.zero_add]
  rw [List.destutter_cons', List.destutter'_cons_pos]
  · rw [List.length_cons]
    exact Nat.succ_le_succ (List.length_pos_iff.mpr (List.destutter'_ne_nil _ _))
  · exact fun same => (spelled_canonicalNode _ _ _ _ _ _).key_ne_local
      (kind_canonicalNode_ne_local Nat.one_ne_zero) same.symm

/-! ## What is shown in full -/

/-- The whole route is displayed. -/
def ShownInFull (routes : List RawRoute) (state : Selection) (routeIndex : Nat) : Prop :=
  ∃ route displayed, routes[routeIndex]? = some route ∧
    displayedRoute state route routeIndex = some displayed ∧ displayed.complete = true

section Routes

variable {routes : List RawRoute} {state : Selection} {limits : SelectionLimits}
  {routeIndex : Nat} {route : RawRoute}

/-- A route with a first hop is shown in full when all its hops are accepted. -/
theorem displayedRoute_of_complete (wellFormed : route.WellFormed) (long : 2 ≤ route.nodes.length)
    (accepted : (state.progress routeIndex).accepted = route.edges.length) :
    displayedRoute state route routeIndex =
      some ⟨route, route.edges.length, route.nodes.length⟩ := by
  have length_edges := wellFormed.length_edges
  have some_edge : 0 < route.edges.length := by omega
  have count_eq : displayedNodeCount state.order route route.edges.length =
      route.nodes.length := by
    rw [displayedNodeCount, if_pos some_edge]
    omega
  simp only [displayedRoute, accepted, count_eq]
  rw [if_neg (by omega)]

theorem shownInFull_of_complete (found : routes[routeIndex]? = some route)
    (wellFormed : route.WellFormed) (long : 2 ≤ route.nodes.length)
    (accepted : (state.progress routeIndex).accepted = route.edges.length) :
    ShownInFull routes state routeIndex :=
  ⟨route, _, found, displayedRoute_of_complete wellFormed long accepted,
    by simp [Displayed.complete]⟩

/-- A route with an open hop is not shown in full. -/
theorem not_shownInFull_of_short (found : routes[routeIndex]? = some route)
    (short : (state.progress routeIndex).accepted < route.edges.length) :
    ¬ ShownInFull routes state routeIndex := by
  rintro ⟨other, displayed, otherFound, shown, complete⟩
  rw [found, Option.some.injEq] at otherFound
  subst otherFound
  simp only [displayedRoute] at shown
  split at shown
  · cases shown
  · cases shown
    simp [Displayed.complete, short.ne] at complete

/-- When every route is long and all its hops are accepted, everything is
displayed. -/
theorem displayedRoutes_of_complete
    (complete : ∀ routeIndex route, routes[routeIndex]? = some route →
      route.WellFormed ∧ 2 ≤ route.nodes.length ∧
        (state.progress routeIndex).accepted = route.edges.length) :
    displayedRoutes routes state =
      routes.map fun route => ⟨route, route.edges.length, route.nodes.length⟩ := by
  have by_route : (routes.zipIdx.filterMap fun entry => displayedRoute state entry.1 entry.2) =
      (routes.zipIdx.map Prod.fst).filterMap fun route =>
        some (⟨route, route.edges.length, route.nodes.length⟩ : Displayed) := by
    rw [List.filterMap_map]
    refine List.filterMap_congr ?_
    rintro ⟨route, routeIndex⟩ member
    obtain ⟨wellFormed, long, accepted⟩ :=
      complete routeIndex route (List.mem_zipIdx_iff_getElem?.mp member)
    exact displayedRoute_of_complete wellFormed long accepted
  rw [displayedRoutes_eq, by_route, List.zipIdx_map_fst, List.filterMap_eq_map']

end Routes

/-! ## Nothing is omitted -/

/-- All counts of the topology are complete. -/
structure NothingOmitted (topology : CompactTopology) : Prop where
  nodes : topology.stats.nodes.omitted = 0
  links : topology.stats.links.omitted = 0
  routes : topology.stats.routes.omitted = 0 ∧ topology.stats.routes.partialCount = 0
  nodeObservations : topology.stats.nodeObservations.omitted = 0
  linkObservations : topology.stats.linkObservations.omitted = 0
  results : ∀ result ∈ topology.resultStats, result.routes.omitted = 0 ∧
    result.nodeObservations.omitted = 0 ∧ result.linkObservations.omitted = 0

section Whole

variable {library : Library} {routes : List RawRoute} {state : Selection}
  {limits : SelectionLimits} {resultCount : Nat} {includeGeo : Bool}

/-- What `displayedRoutes` is when every route is shown in full. -/
def whole (routes : List RawRoute) : List Displayed :=
  routes.map fun route => ⟨route, route.edges.length, route.nodes.length⟩

theorem routeStats_whole (routes : List RawRoute) :
    (routeStats routes (whole routes)).omitted = 0 ∧
      (routeStats routes (whole routes)).partialCount = 0 := by
  simp [routeStats, whole, Displayed.complete, List.countP_map, Function.comp_def]

theorem nodeObservationStats_whole (routes : List RawRoute) :
    (nodeObservationStats routes (whole routes)).omitted = 0 := by
  simp [nodeObservationStats, finishCount, whole, Function.comp_def]

theorem linkObservationStats_whole (routes : List RawRoute) :
    (linkObservationStats routes (whole routes)).omitted = 0 := by
  simp [linkObservationStats, finishCount, whole, Function.comp_def]

theorem filter_whole (routes : List RawRoute) (resultIndex : Nat) :
    (whole routes).filter (fun entry => entry.route.resultIndex = resultIndex) =
      whole (routes.filter fun route => route.resultIndex = resultIndex) := by
  simp [whole, List.filter_map, Function.comp_def]

theorem shownKeys_whole (routes : List RawRoute) :
    shownKeys (whole routes) = routes.flatMap RawRoute.keys := by
  rw [shownKeys, whole, List.flatMap_map]
  refine List.flatMap_congr fun route _ => ?_
  rw [Displayed.keys, List.take_of_length_le]
  simp [RawRoute.keys]

theorem shownEdges_whole (wellFormed : ∀ route ∈ routes, route.WellFormed) :
    shownEdges (whole routes) = routes.flatMap RawRoute.edges := by
  rw [shownEdges, whole, List.flatMap_map]
  refine List.flatMap_congr fun route member => ?_
  rw [Displayed.keys, List.take_of_length_le (by simp [RawRoute.keys]),
    (wellFormed route member).edges_eq]

theorem nothingOmitted_of_whole (sound : state.Sound routes limits)
    (wellFormed : ∀ route ∈ routes, route.WellFormed)
    (placed : ∀ route ∈ routes, route.resultIndex < resultCount)
    (displayed_eq : displayedRoutes routes state = whole routes) :
    NothingOmitted (topologyOf library routes resultCount includeGeo state) := by
  have proper : ∀ entry ∈ whole routes, entry.Proper := fun entry member =>
    proper_of_mem_displayedRoutes wellFormed sound.accepted_le (displayed_eq ▸ member)
  have ordered : ∀ key ∈ shownKeys (whole routes), key ∈ state.order := by
    intro key member
    obtain ⟨entry, entryMem, shown⟩ := List.mem_flatMap.mp member
    exact keys_subset_order sound wellFormed (displayed_eq ▸ entryMem) shown
  have displayedPlaced : ∀ entry ∈ whole routes, entry.route.resultIndex < resultCount := by
    intro entry member
    obtain ⟨route, routeMem, rfl⟩ := List.mem_map.mp member
    exact placed route routeMem
  unfold topologyOf
  rw [displayed_eq]
  constructor
  case nodes =>
    simp only [finishCount, List.length_map]
    rw [length_numbered sound.order_nodup, length_displayedKeys proper sound.order_nodup ordered,
      shownKeys_whole, fullNodes_eq, sub_self]
  case links =>
    simp only [finishCount]
    rw [length_compactLinks proper sound.order_nodup ordered, shownEdges_whole wellFormed,
      fullLinks_eq wellFormed, sub_self]
  case routes =>
    constructor
    · simp [whole]
    · simp only [List.map_map]
      refine List.sum_eq_zero fun count member => ?_
      obtain ⟨resultIndex, -, rfl⟩ := List.mem_map.mp member
      simp only [Function.comp_apply, resultStats, filter_whole]
      exact (routeStats_whole _).2
  case nodeObservations =>
    exact (congrArg CountStats.omitted (sumCounts_nodeObservations placed displayedPlaced)).trans
      (nodeObservationStats_whole routes)
  case linkObservations =>
    exact (congrArg CountStats.omitted (sumCounts_linkObservations placed displayedPlaced)).trans
      (linkObservationStats_whole routes)
  case results =>
    intro result member
    obtain ⟨resultIndex, -, rfl⟩ := List.mem_map.mp member
    simp only [resultStats, filter_whole]
    exact ⟨(routeStats_whole _).1, nodeObservationStats_whole _, linkObservationStats_whole _⟩

end Whole

/-! ## The selection of a report -/

/-- How the selection that a topology is built from ends. -/
structure Honest (library : Library) (trace : Trace.Library) (results : List Result)
    (limits : SelectionLimits) (final : Selection) (topology : CompactTopology) : Prop where
  terminates : Selection.select (compactRoutes library results) limits results.length
    (selectionFuel (compactRoutes library results))
    (Selection.initial (compactRoutes library results)) = some final
  order_le : final.order.length ≤ maxNodes ∧ topology.nodes.length ≤ maxNodes
  links_le : final.links.length ≤ maxLinks ∧ topology.links.length ≤ maxLinks
  maximal : limits.transactions < 0 → ∀ routeIndex route,
    (compactRoutes library results)[routeIndex]? = some route → 2 ≤ route.nodes.length →
      ¬ ShownInFull (compactRoutes library results) final routeIndex →
        (final.progress routeIndex).blocked = true ∧
          ∃ edge, route.edges[(final.progress routeIndex).accepted]? = some edge ∧
            final.Full limits edge
  complete : limits.transactions < 0 → .nodeLimit ∉ topology.truncationReasons →
    .linkLimit ∉ topology.truncationReasons → ∀ routeIndex source,
      (sources library results)[routeIndex]? = some source → Traced trace source.topology →
        ShownInFull (compactRoutes library results) final routeIndex
  nothing_omitted : limits.transactions < 0 → .nodeLimit ∉ topology.truncationReasons →
    .linkLimit ∉ topology.truncationReasons →
      (∀ source ∈ sources library results, Traced trace source.topology) →
        NothingOmitted topology
  shortened : .nodeLimit ∈ topology.truncationReasons ∨
    .linkLimit ∈ topology.truncationReasons → ∃ routeIndex route,
      (compactRoutes library results)[routeIndex]? = some route ∧
        (final.progress routeIndex).accepted < route.edges.length ∧
          ¬ ShownInFull (compactRoutes library results) final routeIndex

theorem nodeLimit_mem_truncationReasons {nodeLimited linkLimited geoLimited : Bool} :
    .nodeLimit ∈ truncationReasons nodeLimited linkLimited geoLimited ↔ nodeLimited = true := by
  cases nodeLimited <;> cases linkLimited <;> cases geoLimited <;> simp [truncationReasons]

theorem linkLimit_mem_truncationReasons {nodeLimited linkLimited geoLimited : Bool} :
    .linkLimit ∈ truncationReasons nodeLimited linkLimited geoLimited ↔ linkLimited = true := by
  cases nodeLimited <;> cases linkLimited <;> cases geoLimited <;> simp [truncationReasons]

theorem edgesAt_eq {routes : List RawRoute} {routeIndex : Nat} {route : RawRoute}
    (found : routes[routeIndex]? = some route) : edgesAt routes routeIndex = route.edges := by
  simp [edgesAt, found]

theorem buildWithOptions_honest (library : Library) (trace : Trace.Library)
    (results : List Result) (transactions : Int) (includeGeo : Bool) :
    ∃ final, Honest library trace results
      (BuildOptions.selectionLimits ⟨0, 0, transactions, includeGeo⟩) final
      (buildWithOptions library results transactions includeGeo).topology := by
  set limits := BuildOptions.selectionLimits ⟨0, 0, transactions, includeGeo⟩ with limits_eq
  set routes := compactRoutes library results with routes_eq
  set final := selected routes limits results.length with final_eq
  have room : 1 ≤ limits.nodes := one_le_selectionLimits_nodes _
  have sound : final.Sound routes limits := selected_sound room results.length
  have wellFormed : ∀ route ∈ routes, route.WellFormed := wellFormed_compactRoutes library results
  have placed : ∀ route ∈ routes, route.resultIndex < results.length :=
    placed_compactRoutes library results
  have proper : ∀ entry ∈ displayedRoutes routes final, entry.Proper := fun entry member =>
    proper_of_mem_displayedRoutes wellFormed sound.accepted_le member
  have ordered : ∀ key ∈ shownKeys (displayedRoutes routes final), key ∈ final.order := by
    intro key member
    obtain ⟨entry, entryMem, shown⟩ := List.mem_flatMap.mp member
    exact keys_subset_order sound wellFormed entryMem shown
  have unblocked : final.nodeLimited = false → final.linkLimited = false →
      ∀ routeIndex, (final.progress routeIndex).blocked = false := by
    intro nodeFree linkFree routeIndex
    by_contra blocked
    have limited := sound.limited.mpr ⟨routeIndex, by simpa using blocked⟩
    simp [nodeFree, linkFree] at limited
  have all_accepted : limits.transactions < 0 → final.nodeLimited = false →
      final.linkLimited = false → ∀ routeIndex route, routes[routeIndex]? = some route →
        (final.progress routeIndex).accepted = route.edges.length := by
    intro unlimited nodeFree linkFree routeIndex route found
    rcases selected_complete_or_blocked unlimited placed routeIndex room with complete | blocked
    · rw [← edgesAt_eq found]
      exact complete
    · rw [← final_eq, unblocked nodeFree linkFree routeIndex] at blocked
      cases blocked
  have traced_long : ∀ (routeIndex : Nat) (source : Source), (sources library results)[routeIndex]? = some source →
      Traced trace source.topology → routes[routeIndex]? = some (source.rawRoute library) ∧
        2 ≤ (source.rawRoute library).nodes.length := by
    intro routeIndex source found traced
    constructor
    · rw [routes_eq, compactRoutes, List.getElem?_map, found, Option.map_some]
    · have long := @two_le_canonicalKeys library source traced.shaped
      rwa [← Source.keys_rawRoute, RawRoute.keys, List.length_map] at long
  have reasons_eq : (buildWithOptions library results transactions includeGeo).topology =
      topologyOf library routes results.length includeGeo final := rfl
  refine ⟨final, ?_⟩
  rw [reasons_eq]
  constructor
  case terminates => exact (select_eq_selected results.length).1
  case order_le =>
    refine ⟨sound.order_le, ?_⟩
    change ((numbered _ _).map _).length ≤ _
    rw [List.length_map, length_numbered sound.order_nodup]
    exact (List.length_filter_le _ _).trans sound.order_le
  case links_le =>
    refine ⟨sound.links_le, ?_⟩
    change (compactLinks _ _).length ≤ _
    rw [length_compactLinks proper sound.order_nodup ordered]
    have taken : (shownEdges (displayedRoutes routes final)).dedup ⊆ final.links := by
      intro edge member
      obtain ⟨entry, entryMem, edgeMem⟩ := List.mem_flatMap.mp (List.mem_dedup.mp member)
      obtain ⟨routeIndex, found, accepted_eq, -⟩ := mem_displayedRoutes.mp entryMem
      rw [Displayed.keys, (proper entry entryMem).nodeCount_eq,
        ← (proper entry entryMem).wellFormed.take_edges, accepted_eq] at edgeMem
      refine sound.taken_links routeIndex edge ?_
        ((proper entry entryMem).wellFormed.source_ne_target (List.mem_of_mem_take edgeMem))
      rwa [Selection.taken, edgesAt_eq found]
    exact ((List.nodup_dedup _).subperm taken).length_le.trans sound.links_le
  case maximal =>
    intro unlimited routeIndex route found long hidden
    rcases selected_complete_or_blocked unlimited placed routeIndex room with complete | blocked
    · rw [edgesAt_eq found] at complete
      exact absurd (shownInFull_of_complete found (wellFormed route (List.mem_of_getElem? found))
        long complete) hidden
    · obtain ⟨edge, next, full⟩ := sound.blocked_full routeIndex blocked
      rw [edgesAt_eq found] at next
      exact ⟨blocked, edge, next, full⟩
  case complete =>
    intro unlimited nodeFree linkFree routeIndex source found traced
    change _ ∉ truncationReasons _ _ _ at nodeFree linkFree
    rw [nodeLimit_mem_truncationReasons, Bool.not_eq_true] at nodeFree
    rw [linkLimit_mem_truncationReasons, Bool.not_eq_true] at linkFree
    obtain ⟨routeFound, long⟩ := traced_long routeIndex source found traced
    exact shownInFull_of_complete routeFound (source.wellFormed_rawRoute library) long
      (all_accepted unlimited nodeFree linkFree routeIndex _ routeFound)
  case nothing_omitted =>
    intro unlimited nodeFree linkFree traced
    change _ ∉ truncationReasons _ _ _ at nodeFree linkFree
    rw [nodeLimit_mem_truncationReasons, Bool.not_eq_true] at nodeFree
    rw [linkLimit_mem_truncationReasons, Bool.not_eq_true] at linkFree
    refine nothingOmitted_of_whole sound wellFormed placed (displayedRoutes_of_complete ?_)
    intro routeIndex route found
    have sourceFound := found
    rw [routes_eq, compactRoutes, List.getElem?_map, Option.map_eq_some_iff] at sourceFound
    obtain ⟨source, source_eq, rfl⟩ := sourceFound
    exact ⟨source.wellFormed_rawRoute library,
      (traced_long routeIndex source source_eq (traced source (List.mem_of_getElem? source_eq))).2,
      all_accepted unlimited nodeFree linkFree routeIndex _ found⟩
  case shortened =>
    intro limited
    change _ ∈ truncationReasons _ _ _ ∨ _ ∈ truncationReasons _ _ _ at limited
    rw [nodeLimit_mem_truncationReasons, linkLimit_mem_truncationReasons] at limited
    obtain ⟨routeIndex, blocked⟩ := sound.limited.mp limited
    obtain ⟨edge, next, -⟩ := sound.blocked_full routeIndex blocked
    obtain ⟨short, -⟩ := List.getElem?_eq_some_iff.mp next
    have found : ∃ route, routes[routeIndex]? = some route := by
      by_contra absent
      simp only [← Option.ne_none_iff_exists', not_not] at absent
      simp [edgesAt, absent] at short
    obtain ⟨route, found⟩ := found
    rw [edgesAt_eq found] at short
    exact ⟨routeIndex, route, found, short, not_shownInFull_of_short found short⟩

/-- A library for hostnames only. -/
def hostnames : Library where
  canonicalIP _ := none
  toLower text := text
  convertAttempts _ := none
  nodeBytes _ := none

def respondingHop (hop : Int) (address : String) : TopologyNode :=
  { Trace.unknownHop hop with address := GoString.ofString address, status := .healthy }

/-- A traceroute result with one reached attempt. -/
def reachedResult (nodes : List TopologyNode) : Result where
  kind := .traceroute
  address := []
  status := .healthy
  latencyMS := 0
  startedAt := ⟨0, 0⟩
  errorCode := []
  message := []
  details := some [("attempts", .attempts [⟨1, .healthy, some ⟨true, nodes, []⟩, [], []⟩])]

/-- Without a transaction limit, a route that has no hop to take is neither
shown nor blocked; and a transaction limit leaves a route out without any
reason. -/
theorem selection_counterexample :
    (¬ ShownInFull (compactRoutes hostnames [reachedResult [respondingHop 1 "a"]])
        (selected (compactRoutes hostnames [reachedResult [respondingHop 1 "a"]])
          (BuildOptions.selectionLimits ⟨0, 0, -1, true⟩) 1) 0 ∧
      ((selected (compactRoutes hostnames [reachedResult [respondingHop 1 "a"]])
        (BuildOptions.selectionLimits ⟨0, 0, -1, true⟩) 1).progress 0).blocked = false ∧
      (compactRoutes hostnames [reachedResult [respondingHop 1 "a"]]).length = 1) ∧
    Shaped ⟨true, [Trace.localHop, respondingHop 1 "a"], []⟩ ∧
    (buildWithOptions hostnames [reachedResult [Trace.localHop, respondingHop 1 "a"]] 0
        true).topology.truncationReasons = [] ∧
      (buildWithOptions hostnames [reachedResult [Trace.localHop, respondingHop 1 "a"]] 0
        true).topology.stats.routes = ⟨1, 0, 0, 0, 1⟩ := by
  refine ⟨⟨?_, by decide, by decide⟩, ⟨_, rfl, by simp, ?_, by simp⟩, by decide, by decide⟩
  · rintro ⟨route, displayed, found, shown, -⟩
    have hidden : ((compactRoutes hostnames [reachedResult [respondingHop 1 "a"]])[0]?.bind
        fun route => displayedRoute
          (selected (compactRoutes hostnames [reachedResult [respondingHop 1 "a"]])
            (BuildOptions.selectionLimits ⟨0, 0, -1, true⟩) 1) route 0) = none := by decide
    rw [found, Option.bind_some, shown] at hidden
    cases hidden
  · intro node member
    rw [List.mem_singleton.mp member]
    exact ⟨by decide, by decide, by decide, .inl rfl, fun _ => by decide, fun _ => ⟨rfl, rfl⟩⟩

end CheckNetwork.Compact
