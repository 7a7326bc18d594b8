import CheckNetwork.Compact.Aggregate

/-!
# The compact topology is a projection

The routes of the compact topology are prefixes of the canonical sequences of
eligible attempts, and its nodes and links are those of these prefixes, with
what the displayed observations say about them.
-/

namespace CheckNetwork.Compact

open Collection Diagnostic Go

/-! ## Where routes come from -/

section Sources

variable {library : Library} {results : List Result}

/-- A source is an eligible attempt of a traceroute result, at its place in the
stable order of attempt numbers. -/
structure Source.From (library : Library) (results : List Result) (source : Source) : Prop where
  result : ∃ result attempts, results[source.resultIndex]? = some result ∧
    result.kind = .traceroute ∧
    traceAttempts library (result.detail? "attempts") = some attempts ∧
    (attempts.insertionSort fun left right => left.attempt ≤ right.attempt)[source.occurrence]? =
      some source.attempt
  eligible : traceAttemptEligible source.attempt = true
  topology_eq : source.attempt.topology = some source.topology

theorem mem_sources {source : Source} :
    source ∈ sources library results ↔ source.From library results := by
  unfold sources
  rw [List.mem_flatMap]
  constructor
  · rintro ⟨⟨result, resultIndex⟩, resultMem, member⟩
    have found := List.mem_zipIdx_iff_getElem?.mp resultMem
    simp only [resultSources] at member
    split at member
    · rename_i traced
      cases read : traceAttempts library (result.detail? "attempts") with
      | none => simp [read] at member
      | some attempts =>
          simp only [read, List.mem_filterMap] at member
          obtain ⟨⟨attempt, occurrence⟩, attemptMem, chosen⟩ := member
          have placed := List.mem_zipIdx_iff_getElem?.mp attemptMem
          simp only at chosen
          split at chosen
          · rename_i eligible
            obtain ⟨topology, topology_eq, rfl⟩ := Option.map_eq_some_iff.mp chosen
            exact ⟨⟨result, attempts, found, traced.1, read, placed⟩, eligible, topology_eq⟩
          · cases chosen
    · cases member
  · rintro ⟨⟨result, attempts, found, traced, read, placed⟩, eligible, topology_eq⟩
    refine ⟨(result, source.resultIndex), List.mem_zipIdx_iff_getElem?.mpr found, ?_⟩
    have details : result.details.isSome := by
      cases details_eq : result.details with
      | some details => rfl
      | none => simp [Result.detail?, details_eq, traceAttempts] at read
    simp only [resultSources, traced, details, and_self, if_true, read, List.mem_filterMap]
    refine ⟨(source.attempt, source.occurrence), List.mem_zipIdx_iff_getElem?.mpr placed, ?_⟩
    simp [eligible, topology_eq]

/-- Different entries of `sources` are different attempts. -/
theorem nodup_places_sources (library : Library) (results : List Result) :
    ((sources library results).map fun source =>
      (source.resultIndex, source.occurrence)).Nodup := by
  have placed : ∀ (result : Result) (resultIndex : Nat),
      ∀ source ∈ resultSources library result resultIndex, source.resultIndex = resultIndex := by
    intro result resultIndex source member
    unfold resultSources at member
    split at member
    · split at member
      · cases member
      · obtain ⟨⟨attempt, occurrence⟩, -, chosen⟩ := List.mem_filterMap.mp member
        simp only at chosen
        split at chosen
        · obtain ⟨topology, -, rfl⟩ := Option.map_eq_some_iff.mp chosen
          rfl
        · cases chosen
    · cases member
  have occurrences : ∀ (result : Result) (resultIndex : Nat),
      ((resultSources library result resultIndex).map Source.occurrence).Nodup := by
    intro result resultIndex
    unfold resultSources
    split
    · split
      · exact List.nodup_nil
      · rename_i attempts _
        have sublist : ∀ entries : List (TraceAttempt × Nat),
            ((entries.filterMap fun entry =>
              if traceAttemptEligible entry.1 then
                entry.1.topology.map fun topology =>
                  (⟨resultIndex, entry.2, entry.1, topology⟩ : Source)
              else none).map Source.occurrence).Sublist (entries.map Prod.snd) := by
          intro entries
          induction entries with
          | nil => exact List.Sublist.refl _
          | cons entry entries ih =>
              obtain ⟨attempt, occurrence⟩ := entry
              rw [List.filterMap_cons]
              dsimp only
              split
              · exact ih.cons _
              · rename_i source chosen
                split at chosen
                · obtain ⟨topology, -, rfl⟩ := Option.map_eq_some_iff.mp chosen
                  exact ih.cons_cons _
                · cases chosen
        refine (sublist _).nodup ?_
        rw [List.zipIdx_map_snd]
        exact List.nodup_range'
    · exact List.nodup_nil
  unfold sources
  rw [List.map_flatMap, List.nodup_flatMap]
  constructor
  · rintro ⟨result, resultIndex⟩ -
    refine List.Nodup.of_map Prod.snd ?_
    rw [List.map_map]
    exact occurrences result resultIndex
  · have indices : (results.zipIdx.map Prod.snd).Nodup := by
      rw [List.zipIdx_map_snd]
      exact List.nodup_range'
    refine (List.pairwise_map.mp indices).imp ?_
    rintro ⟨first, firstIndex⟩ ⟨second, secondIndex⟩ different
    rw [Function.onFun, List.disjoint_left]
    intro place firstMem secondMem
    obtain ⟨left, leftMem, rfl⟩ := List.mem_map.mp firstMem
    obtain ⟨right, rightMem, same⟩ := List.mem_map.mp secondMem
    have index_eq := congrArg Prod.fst same
    rw [placed _ _ _ leftMem, placed _ _ _ rightMem] at index_eq
    exact different index_eq.symm

end Sources

/-- The key of a canonical node spells out its kind and its address. -/
def Canonical.Spelled (canonical : Canonical) : Prop :=
  match canonical.kind with
  | .localNode => canonical.key = GoString.ofString "local" ∧
      canonical.address = GoString.ofString "local"
  | .ip => canonical.key = GoString.ofString "ip:" ++ canonical.address
  | .hostname => canonical.key = GoString.ofString "host:" ++ canonical.address
  | .unknown => (∃ place, canonical.key = GoString.ofString "unknown:" ++ place) ∧
      canonical.address = []

theorem spelled_canonicalNode (library : Library) (node : TopologyNode) (resultIndex : Nat)
    (attempt : Int) (occurrence nodeIndex : Nat) :
    (canonicalNode library node resultIndex attempt occurrence nodeIndex).Spelled := by
  unfold canonicalNode
  split
  · exact ⟨rfl, rfl⟩
  · dsimp only
    split
    · refine ⟨⟨GoString.ofString s!"{resultIndex}:{attempt}:{occurrence}:{node.hop}", ?_⟩, rfl⟩
      simp only [GoString.ofString, String.toList_append, List.map_append, List.append_assoc]
      rfl
    · split
      · rfl
      · rfl

/-- A canonical key stands for one kind and one address. -/
theorem Canonical.Spelled.eq {first second : Canonical} (firstSpelled : first.Spelled)
    (secondSpelled : second.Spelled) (same : first.key = second.key) : first = second := by
  obtain ⟨firstKey, firstKind, firstAddress⟩ := first
  obtain ⟨secondKey, secondKind, secondAddress⟩ := second
  simp only at same
  subst same
  cases firstKind <;> cases secondKind <;>
    simp only [Canonical.Spelled, GoString.ofString] at firstSpelled secondSpelled
  case localNode.localNode => rw [firstSpelled.2, secondSpelled.2]
  case ip.ip => simpa [firstSpelled] using secondSpelled
  case hostname.hostname => simpa [firstSpelled] using secondSpelled
  case unknown.unknown => rw [firstSpelled.2, secondSpelled.2]
  all_goals
    exfalso
    grind

theorem spelled_of_mem_nodes {library : Library} {results : List Result} {route : RawRoute}
    (routeMem : route ∈ compactRoutes library results) {observation : Observation}
    (member : observation ∈ route.nodes) : observation.canonical.Spelled := by
  obtain ⟨source, -, rfl⟩ := List.mem_map.mp routeMem
  obtain ⟨⟨canonical, node⟩, entryMem, canonical_eq⟩ :=
    List.mem_map.mp (canonical_of_mem_collapse member)
  obtain ⟨⟨raw, nodeIndex⟩, -, entry_eq⟩ := List.mem_map.mp entryMem
  cases entry_eq
  rw [← canonical_eq]
  exact spelled_canonicalNode _ _ _ _ _ _

/-! ## Shown prefixes -/

/-- A prefix of the canonical sequence of an eligible attempt. -/
structure Shown where
  source : Source
  count : Nat

namespace Shown

variable (library : Library) (shown : Shown)

def keys : List GoString :=
  (shown.source.canonicalKeys library).take shown.count

def observations : List Observation :=
  (shown.source.rawRoute library).nodes.take shown.count

/-- The raw nodes of the prefix under a key. -/
def rawsAt (key : GoString) : List TopologyNode :=
  (shown.observations library).flatMap fun observation =>
    if observation.canonical.key = key then observation.raw else []

def route (label : GoString → String) : Route where
  resultIndex := shown.source.resultIndex
  attempt := shown.source.attempt.attempt
  status := shown.source.attempt.status
  reached := shown.source.topology.reached
  complete := shown.count = (shown.source.canonicalKeys library).length
  nodeIDs := (shown.keys library).map label

/-- The same prefix as the build holds it. -/
def displayed : Displayed where
  route := shown.source.rawRoute library
  accepted := shown.count - 1
  nodeCount := shown.count

theorem keys_displayed : (shown.displayed library).keys = shown.keys library := by
  simp [displayed, Displayed.keys, Source.keys_rawRoute, keys]

theorem length_canonicalKeys :
    (shown.source.canonicalKeys library).length = (shown.source.rawRoute library).nodes.length := by
  rw [← Source.keys_rawRoute, RawRoute.keys, List.length_map]

end Shown

/-- Displayed routes are prefixes of the sources they come from. -/
theorem exists_shown {library : Library} {displayed : List Displayed} {chosen : List Source}
    (proper : ∀ entry ∈ displayed, entry.Proper)
    (same : displayed.map Displayed.route = chosen.map (Source.rawRoute library)) :
    ∃ shown : List Shown, shown.map Shown.source = chosen ∧
      shown.map (Shown.displayed library) = displayed := by
  induction displayed generalizing chosen with
  | nil =>
      rw [List.map_nil, eq_comm, List.map_eq_nil_iff] at same
      exact ⟨[], same.symm, rfl⟩
  | cons entry rest ih =>
      obtain ⟨source, sources, rfl, route_eq, rest_eq⟩ := List.map_eq_cons_iff.mp same.symm
      obtain ⟨shown, sources_eq, displayed_eq⟩ :=
        ih (fun other member => proper other (List.mem_cons_of_mem _ member)) rest_eq.symm
      refine ⟨⟨source, entry.nodeCount⟩ :: shown, by rw [List.map_cons, sources_eq], ?_⟩
      have counted := (proper entry List.mem_cons_self).nodeCount_eq
      have entry_eq : Shown.displayed library ⟨source, entry.nodeCount⟩ = entry := by
        obtain ⟨route, accepted, nodeCount⟩ := entry
        simp only at counted route_eq
        subst counted route_eq
        rfl
      rw [List.map_cons, entry_eq, displayed_eq]

theorem rawsAt_displayed (library : Library) (shown : List Shown) (key : GoString) :
    rawsAt (shown.map (Shown.displayed library)) key =
      shown.flatMap fun entry => entry.rawsAt library key := by
  have of_observation : ∀ observation : Observation,
      ((observation.raw.map fun raw => (observation.canonical, raw)).filter
        fun entry => entry.1.key = key).map Prod.snd =
      if observation.canonical.key = key then observation.raw else [] := by
    intro observation
    by_cases same : observation.canonical.key = key
    · simp [same, List.filter_map, Function.comp_def]
    · simp [same]
  unfold rawsAt nodeEntries
  rw [List.flatMap_map, List.filter_flatMap, List.map_flatMap]
  refine List.flatMap_congr fun entry _ => ?_
  rw [List.filter_flatMap, List.map_flatMap]
  exact List.flatMap_congr fun observation _ => of_observation observation

/-- The topology shows the prefixes: `keys` lists the canonical nodes on them
and `label` is the identifier of each. -/
structure Projects (library : Library) (results : List Result) (shown : List Shown)
    (keys : List GoString) (label : GoString → String) (topology : CompactTopology) : Prop where
  source_from : ∀ entry ∈ shown, entry.source.From library results
  places_nodup : (shown.map fun entry =>
    (entry.source.resultIndex, entry.source.occurrence)).Nodup
  count_bounds : ∀ entry ∈ shown,
    0 < entry.count ∧ entry.count ≤ (entry.source.canonicalKeys library).length
  routes_eq : topology.routes = shown.map fun entry => entry.route library label
  keys_nodup : keys.Nodup
  label_injOn : Set.InjOn label {key | key ∈ keys}
  mem_keys : ∀ key, key ∈ keys ↔ ∃ entry ∈ shown, key ∈ entry.keys library
  nodes_label : topology.nodes.map Node.id = keys.map label
  node_summarizes : ∀ key ∈ keys, ∃ node ∈ topology.nodes, node.id = label key ∧
    Summarizes (shown.flatMap fun entry => entry.rawsAt library key) node ∧
    ∀ entry ∈ shown, ∀ observation ∈ entry.observations library,
      observation.canonical.key = key →
        node.kind = observation.canonical.kind ∧ node.address = observation.canonical.address
  links_nodup : (topology.links.map fun link => (link.source, link.target)).Nodup
  link_shown : ∀ link ∈ topology.links, ∃ pair ∈
    (shown.flatMap fun entry => pairs (entry.keys library)),
      link.source = label pair.1 ∧ link.target = label pair.2 ∧
        link.observations = (shown.flatMap fun entry => pairs (entry.keys library)).count pair
  shown_link : ∀ pair ∈ (shown.flatMap fun entry => pairs (entry.keys library)),
    pair.1 ≠ pair.2 ∧ ∃ link ∈ topology.links,
      link.source = label pair.1 ∧ link.target = label pair.2
  routes_total : topology.stats.routes.total = (sources library results).length
  nodeObservations_total : topology.stats.nodeObservations.total =
    ((sources library results).map fun source =>
      ((source.canonicalKeys library).length : Int)).sum
  nodeObservations_displayed : topology.stats.nodeObservations.displayed =
    (shown.map fun entry => (entry.count : Int)).sum

/-! ## The topology of a selection -/

section Numbered

variable {keys : List GoString} {displayed : List Displayed}

theorem nodeID_of_mem_zipIdx (nodup : keys.Nodup) {key : GoString} {index : Nat}
    (member : (key, index) ∈ keys.zipIdx) : nodeID (index + 1) = idOf keys key := by
  obtain ⟨below, key_eq⟩ := List.mem_zipIdx' member
  rw [key_eq, idOf_of_mem (List.getElem_mem below), nodup.idxOf_getElem index below]

/-- The numbers are the identifiers of the keys. -/
theorem numbered_eq (nodup : keys.Nodup) : numbered keys displayed =
    keys.filterMap fun key =>
      (nodeAggregates displayed key).map fun aggregate => (aggregate, idOf keys key) := by
  have by_key : numbered keys displayed = keys.zipIdx.filterMap
      ((fun key => (nodeAggregates displayed key).map fun aggregate =>
        (aggregate, idOf keys key)) ∘ Prod.fst) := by
    unfold numbered
    refine List.filterMap_congr ?_
    rintro ⟨key, index⟩ member
    simp only [Function.comp_apply, nodeID_of_mem_zipIdx nodup member]
  rw [by_key, ← List.filterMap_map, List.zipIdx_map_fst]

theorem mem_numbered (nodup : keys.Nodup) {aggregate : NodeAggregate} {id : String} :
    (aggregate, id) ∈ numbered keys displayed ↔
      ∃ key ∈ keys, nodeAggregates displayed key = some aggregate ∧ idOf keys key = id := by
  simp [numbered_eq nodup]

theorem map_snd_numbered (nodup : keys.Nodup)
    (present : ∀ key ∈ keys, (nodeAggregates displayed key).isSome) :
    (numbered keys displayed).map Prod.snd = keys.map (idOf keys) := by
  rw [numbered_eq nodup, List.map_filterMap, ← List.filterMap_eq_map]
  refine List.filterMap_congr fun key member => ?_
  obtain ⟨aggregate, found⟩ := Option.isSome_iff_exists.mp (present key member)
  simp [found]

end Numbered

section Topology

variable {library : Library} {routes : List RawRoute} {state : Selection}
  {limits : SelectionLimits} {displayed : List Displayed} {order : List GoString}

theorem mem_displayedKeys {key : GoString} : key ∈ displayedKeys order displayed ↔
    key ∈ order ∧ (nodeAggregates displayed key).isSome := by
  simp [displayedKeys]

theorem mem_compactLinks {link : Link} : link ∈ compactLinks order displayed ↔
    ∃ source ∈ order, ∃ target ∈ order, ∃ aggregate,
      linkAggregates displayed ⟨source, target⟩ = some aggregate ∧
        link = ⟨idOf (displayedKeys order displayed) source,
          idOf (displayedKeys order displayed) target, aggregate.status,
          aggregate.observations⟩ := by
  unfold compactLinks
  dsimp only
  rw [List.mem_filterMap]
  constructor
  · rintro ⟨⟨source, target⟩, member, link_eq⟩
    obtain ⟨aggregate, found, rfl⟩ := Option.map_eq_some_iff.mp link_eq
    obtain ⟨sourceMem, targetMem⟩ := List.mem_product.mp member
    exact ⟨source, sourceMem, target, targetMem, aggregate, found, rfl⟩
  · rintro ⟨source, sourceMem, target, targetMem, aggregate, found, rfl⟩
    exact ⟨(source, target), List.mem_product.mpr ⟨sourceMem, targetMem⟩, by simp [found]⟩

/-- No two links have the same ends. -/
theorem nodup_ends_compactLinks (nodup : order.Nodup)
    (ends : ∀ source target, (linkAggregates displayed ⟨source, target⟩).isSome →
      source ∈ displayedKeys order displayed ∧ target ∈ displayedKeys order displayed) :
    ((compactLinks order displayed).map fun link => (link.source, link.target)).Nodup := by
  unfold compactLinks
  dsimp only
  rw [List.map_filterMap]
  refine List.Nodup.filterMap ?_ (nodup.product nodup)
  rintro ⟨source, target⟩ ⟨otherSource, otherTarget⟩ labels member otherMem
  simp only [Option.map_map, Option.mem_def, Option.map_eq_some_iff] at member otherMem
  obtain ⟨aggregate, found, rfl⟩ := member
  obtain ⟨other, otherFound, same⟩ := otherMem
  obtain ⟨sourceMem, targetMem⟩ := ends source target (by simp [found])
  obtain ⟨otherSourceMem, otherTargetMem⟩ := ends otherSource otherTarget (by simp [otherFound])
  simp only [Function.comp_apply, Prod.mk.injEq] at same
  rw [idOf_injOn _ otherSourceMem sourceMem same.1, idOf_injOn _ otherTargetMem targetMem same.2]

theorem compactRoute_eq {keys : List GoString} {entry : Displayed} (proper : entry.Proper) :
    compactRoute keys entry =
      { resultIndex := entry.route.resultIndex
        attempt := entry.route.attempt
        status := entry.route.status
        reached := entry.route.reached
        complete := entry.nodeCount = entry.route.nodes.length
        nodeIDs := entry.keys.map (idOf keys) } := by
  have length_edges := proper.length_edges
  have counted := proper.nodeCount_eq
  have bounded := proper.nodeCount_le
  have count_eq : (if entry.route.edges = [] then 1 else entry.accepted + 1) =
      entry.nodeCount := by
    split
    · rename_i none_
      rw [none_, List.length_nil] at length_edges
      omega
    · exact counted.symm
  have complete_eq : entry.complete = decide (entry.nodeCount = entry.route.nodes.length) := by
    rw [Bool.eq_iff_iff, proper.complete_iff, decide_eq_true_iff]
  unfold compactRoute
  rw [count_eq, complete_eq, ← entry.map_key_observations, List.map_map]
  rfl

theorem shown_keys_subset (sound : state.Sound routes limits)
    (wellFormed : ∀ route ∈ routes, route.WellFormed) {key : GoString} :
    key ∈ displayedKeys state.order (displayedRoutes routes state) ↔
      ∃ entry ∈ displayedRoutes routes state, key ∈ entry.keys := by
  have proper : ∀ entry ∈ displayedRoutes routes state, entry.Proper := fun entry member =>
    proper_of_mem_displayedRoutes wellFormed sound.accepted_le member
  rw [mem_displayedKeys, isSome_nodeAggregates_iff proper]
  constructor
  · exact And.right
  · rintro ⟨entry, member, shown⟩
    exact ⟨keys_subset_order sound wellFormed member shown, entry, member, shown⟩

/-- The counts of observations are sums over all routes. -/
theorem sumCounts_nodeObservations {resultCount : Nat}
    (placed : ∀ route ∈ routes, route.resultIndex < resultCount)
    (displayedPlaced : ∀ entry ∈ displayed, entry.route.resultIndex < resultCount) :
    sumCounts (((List.range resultCount).map (resultStats routes displayed)).map
      ResultStats.nodeObservations) = nodeObservationStats routes displayed := by
  unfold sumCounts nodeObservationStats
  simp only [List.map_map]
  rw [← sum_partition (fun route : RawRoute => (route.nodes.length : Int)) placed,
    ← sum_partition (fun entry : Displayed => (entry.nodeCount : Int)) displayedPlaced]
  rfl

theorem sumCounts_linkObservations {resultCount : Nat}
    (placed : ∀ route ∈ routes, route.resultIndex < resultCount)
    (displayedPlaced : ∀ entry ∈ displayed, entry.route.resultIndex < resultCount) :
    sumCounts (((List.range resultCount).map (resultStats routes displayed)).map
      ResultStats.linkObservations) = linkObservationStats routes displayed := by
  unfold sumCounts linkObservationStats
  simp only [List.map_map]
  rw [← sum_partition
      (fun route : RawRoute => (nonSelfEdgeCount route.edges route.edges.length : Int)) placed,
    ← sum_partition
      (fun entry : Displayed => (nonSelfEdgeCount entry.route.edges entry.accepted : Int))
      displayedPlaced]
  rfl

end Topology

theorem placed_compactRoutes (library : Library) (results : List Result) :
    ∀ route ∈ compactRoutes library results, route.resultIndex < results.length := by
  intro route member
  obtain ⟨source, sourceMem, rfl⟩ := List.mem_map.mp member
  obtain ⟨result, attempts, found, -⟩ := (mem_sources.mp sourceMem).result
  exact (List.getElem?_eq_some_iff.mp found).1

/-- The displayed routes of a report are shown prefixes of its sources. -/
theorem exists_shown_compactRoutes {library : Library} {results : List Result}
    {limits : SelectionLimits} {state : Selection}
    (sound : state.Sound (compactRoutes library results) limits) :
    ∃ shown : List Shown, (shown.map Shown.source).Sublist (sources library results) ∧
      shown.map (Shown.displayed library) =
        displayedRoutes (compactRoutes library results) state := by
  obtain ⟨chosen, sublist, route_eq⟩ := List.sublist_map_iff.mp
    (@map_route_displayedRoutes_sublist (compactRoutes library results) state)
  obtain ⟨shown, source_eq, displayed_eq⟩ := exists_shown (fun entry member =>
    proper_of_mem_displayedRoutes (wellFormed_compactRoutes library results) sound.accepted_le
      member) route_eq
  exact ⟨shown, source_eq ▸ sublist, displayed_eq⟩

theorem topologyOf_projects {library : Library} {results : List Result}
    {limits : SelectionLimits} {state : Selection} (includeGeo : Bool)
    (sound : state.Sound (compactRoutes library results) limits) :
    ∃ shown keys label, Projects library results shown keys label
      (topologyOf library (compactRoutes library results) results.length includeGeo state) := by
  have wellFormed := wellFormed_compactRoutes library results
  obtain ⟨shown, sublist, displayed_eq⟩ := exists_shown_compactRoutes sound
  set displayed := displayedRoutes (compactRoutes library results) state with displayed_def
  set keys := displayedKeys state.order displayed with keys_def
  have proper : ∀ entry ∈ displayed, entry.Proper := fun entry member =>
    proper_of_mem_displayedRoutes wellFormed sound.accepted_le member
  have shownProper : ∀ entry ∈ shown, (entry.displayed library).Proper := fun entry member =>
    proper _ (displayed_eq ▸ List.mem_map_of_mem member)
  have nodup : keys.Nodup := sound.order_nodup.filter _
  have keyPresent : ∀ key ∈ keys, (nodeAggregates displayed key).isSome := fun key member =>
    (mem_displayedKeys.mp member).2
  have mem_keys : ∀ key, key ∈ keys ↔ ∃ entry ∈ shown, key ∈ entry.keys library := by
    intro key
    rw [keys_def, displayed_def, shown_keys_subset sound wellFormed, ← displayed_def,
      ← displayed_eq]
    simp [Shown.keys_displayed]
  have edges_eq : shownEdges displayed =
      (shown.flatMap fun entry => pairs (entry.keys library)).map
        fun pair => (⟨pair.1, pair.2⟩ : EdgeKey) := by
    rw [← displayed_eq, shownEdges, List.flatMap_map, List.map_flatMap]
    exact List.flatMap_congr fun entry _ => by rw [Shown.keys_displayed]
  have count_eq : ∀ pair : GoString × GoString, (shownEdges displayed).count ⟨pair.1, pair.2⟩ =
      (shown.flatMap fun entry => pairs (entry.keys library)).count pair := by
    intro pair
    rw [edges_eq]
    have injective : Function.Injective fun pair : GoString × GoString =>
        (⟨pair.1, pair.2⟩ : EdgeKey) := by
      intro first second same
      simpa [Prod.ext_iff] using same
    exact List.count_map_of_injective _ _ injective pair
  have linkEnds : ∀ source target, (linkAggregates displayed ⟨source, target⟩).isSome →
      source ∈ keys ∧ target ∈ keys := by
    intro source target found
    obtain ⟨entry, entryMem, sourceMem, targetMem⟩ :=
      mem_of_mem_shownEdges ((isSome_linkAggregates_iff proper).mp found)
    constructor
    · exact (shown_keys_subset sound wellFormed).mpr ⟨entry, entryMem, sourceMem⟩
    · exact (shown_keys_subset sound wellFormed).mpr ⟨entry, entryMem, targetMem⟩
  have placed := placed_compactRoutes library results
  have displayedPlaced : ∀ entry ∈ displayed, entry.route.resultIndex < results.length := by
    intro entry member
    obtain ⟨routeIndex, found, -⟩ := mem_displayedRoutes.mp member
    exact placed _ (List.mem_of_getElem? found)
  refine ⟨shown, keys, idOf keys, ?_⟩
  constructor
  case source_from =>
    exact fun entry member => mem_sources.mp (sublist.subset (List.mem_map_of_mem member))
  case places_nodup =>
    have places := (sublist.map fun source => (source.resultIndex, source.occurrence)).nodup
      (nodup_places_sources library results)
    rwa [List.map_map] at places
  case count_bounds =>
    intro entry member
    have known := shownProper entry member
    have counted : entry.count = entry.count - 1 + 1 := known.nodeCount_eq
    rw [entry.length_canonicalKeys]
    exact ⟨by omega, known.nodeCount_le⟩
  case routes_eq =>
    change displayed.map (compactRoute keys) = _
    rw [← displayed_eq, List.map_map]
    refine List.map_congr_left fun entry member => ?_
    rw [Function.comp_apply, compactRoute_eq (shownProper entry member), entry.keys_displayed,
      Shown.route, entry.length_canonicalKeys]
    rfl
  case keys_nodup => exact nodup
  case label_injOn => exact idOf_injOn keys
  case mem_keys => exact mem_keys
  case nodes_label =>
    rw [← map_snd_numbered nodup keyPresent]
    change ((numbered keys displayed).map _).map _ = _
    rw [List.map_map]
    refine List.map_congr_left fun entry _ => ?_
    simp
  case node_summarizes =>
    intro key member
    obtain ⟨aggregate, found⟩ := Option.isSome_iff_exists.mp (keyPresent key member)
    refine ⟨aggregate.node library includeGeo (idOf keys key), ?_, by simp, ?_, ?_⟩
    · exact List.mem_map.mpr ⟨(aggregate, idOf keys key),
        (mem_numbered nodup).mpr ⟨key, member, found, rfl⟩, rfl⟩
    · rw [← rawsAt_displayed, displayed_eq]
      exact NodeAggregate.summarizes_node library includeGeo
        (summarizes_nodeAggregates found _)
    · intro entry entryMem observation observationMem key_eq
      obtain ⟨first, firstMem, firstKey, kind_eq, address_eq⟩ := canonical_nodeAggregates found
      obtain ⟨other, otherMem, origin, originMem, origin_eq, -⟩ := mem_nodeEntries.mp firstMem
      have spelled : ∀ entry ∈ displayed, ∀ observation ∈ entry.observations,
          observation.canonical.Spelled := by
        intro entry entryMem observation observationMem
        obtain ⟨routeIndex, routeFound, -⟩ := mem_displayedRoutes.mp entryMem
        exact spelled_of_mem_nodes (List.mem_of_getElem? routeFound)
          (List.mem_of_mem_take observationMem)
      have same : observation.canonical = first.1 := by
        refine (spelled (entry.displayed library)
          (displayed_eq ▸ List.mem_map_of_mem entryMem) observation observationMem).eq ?_
            (key_eq.trans firstKey.symm)
        rw [← origin_eq]
        exact spelled other otherMem origin originMem
      rw [NodeAggregate.kind_node, NodeAggregate.address_node, same]
      exact ⟨kind_eq, address_eq⟩
  case links_nodup => exact nodup_ends_compactLinks sound.order_nodup linkEnds
  case link_shown =>
    intro link member
    obtain ⟨source, -, target, -, aggregate, found, rfl⟩ := mem_compactLinks.mp member
    have edgeMem := (isSome_linkAggregates_iff proper).mp (Option.isSome_of_mem found)
    rw [edges_eq] at edgeMem
    obtain ⟨pair, pairMem, pair_eq⟩ := List.mem_map.mp edgeMem
    cases pair_eq
    refine ⟨pair, pairMem, rfl, rfl, ?_⟩
    rw [← count_eq]
    exact observations_linkAggregates proper found
  case shown_link =>
    intro pair pairMem
    have edgeMem : (⟨pair.1, pair.2⟩ : EdgeKey) ∈ shownEdges displayed := by
      rw [edges_eq]
      exact List.mem_map.mpr ⟨pair, pairMem, rfl⟩
    obtain ⟨aggregate, found⟩ :=
      Option.isSome_iff_exists.mp ((isSome_linkAggregates_iff proper).mpr edgeMem)
    obtain ⟨sourceMem, targetMem⟩ := linkEnds pair.1 pair.2 (by simp [found])
    constructor
    · obtain ⟨entry, entryMem, inside⟩ := List.mem_flatMap.mp pairMem
      have chain : (entry.keys library).IsChain (· ≠ ·) :=
        (List.isChain_destutter _ _).take _
      exact ne_of_mem_pairs chain inside
    · exact ⟨_, mem_compactLinks.mpr ⟨pair.1, (mem_displayedKeys.mp sourceMem).1, pair.2,
        (mem_displayedKeys.mp targetMem).1, aggregate, found, rfl⟩, rfl, rfl⟩
  case routes_total =>
    change ((compactRoutes library results).length : Int) = _
    rw [compactRoutes, List.length_map]
  case nodeObservations_total =>
    refine (congrArg CountStats.total (sumCounts_nodeObservations placed displayedPlaced)).trans ?_
    change ((compactRoutes library results).map fun route => (route.nodes.length : Int)).sum = _
    rw [compactRoutes, List.map_map]
    congr 1
    refine List.map_congr_left fun source _ => ?_
    rw [Function.comp_apply, ← Source.keys_rawRoute, RawRoute.keys, List.length_map]
  case nodeObservations_displayed =>
    refine (congrArg CountStats.displayed
      (sumCounts_nodeObservations placed displayedPlaced)).trans ?_
    change (displayed.map fun entry => (entry.nodeCount : Int)).sum = _
    rw [← displayed_eq, List.map_map]
    rfl

theorem one_le_selectionLimits_nodes (options : BuildOptions) :
    1 ≤ options.selectionLimits.nodes := by
  unfold BuildOptions.selectionLimits
  dsimp only
  split
  · decide
  · omega

/-- Whatever the transaction limit, the compact topology shows prefixes of the
eligible attempts and nothing else. -/
theorem buildWithOptions_projects (library : Library) (results : List Result)
    (maxAcceptedTransactions : Int) (includeGeo : Bool) :
    ∃ shown keys label, Projects library results shown keys label
      (buildWithOptions library results maxAcceptedTransactions includeGeo).topology :=
  topologyOf_projects includeGeo
    (selected_sound (one_le_selectionLimits_nodes _) results.length)

end CheckNetwork.Compact
