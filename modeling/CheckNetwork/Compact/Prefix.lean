import CheckNetwork.Compact.Bounded
import CheckNetwork.Compact.Build

/-!
# Displayed prefixes

A route is well formed when its edges are the consecutive pairs of its nodes,
no two of which are equal.  What is displayed of such a route is a nonempty
prefix of its nodes together with all edges between them.
-/

namespace CheckNetwork.Compact

open Diagnostic Go

universe u

/-- Adjacent elements. -/
def pairs {α : Type u} (values : List α) : List (α × α) :=
  values.zip values.tail

section Pairs

variable {α : Type u} {values : List α}

@[simp]
theorem pairs_nil : pairs ([] : List α) = [] :=
  rfl

@[simp]
theorem pairs_singleton (value : α) : pairs [value] = [] :=
  rfl

@[simp]
theorem pairs_cons_cons (first second : α) (rest : List α) :
    pairs (first :: second :: rest) = (first, second) :: pairs (second :: rest) :=
  rfl

theorem length_pairs (values : List α) : (pairs values).length = values.length - 1 := by
  simp [pairs]

theorem take_pairs (values : List α) (count : Nat) :
    (pairs values).take count = pairs (values.take (count + 1)) := by
  induction values generalizing count with
  | nil => simp
  | cons first rest ih =>
      cases rest with
      | nil => simp
      | cons second rest =>
          cases count with
          | zero => simp
          | succ count => simp [ih count]

theorem mem_of_mem_pairs {pair : α × α} (member : pair ∈ pairs values) :
    pair.1 ∈ values ∧ pair.2 ∈ values :=
  ⟨(List.of_mem_zip member).1, List.mem_of_mem_tail (List.of_mem_zip member).2⟩

/-- The elements of a list of at least two are those of its pairs. -/
theorem exists_mem_pairs {value : α} (member : value ∈ values) (long : 2 ≤ values.length) :
    ∃ pair ∈ pairs values, value = pair.1 ∨ value = pair.2 := by
  induction values with
  | nil => cases member
  | cons first rest ih =>
      cases rest with
      | nil => simp at long
      | cons second rest =>
          rcases List.mem_cons.mp member with rfl | later
          · exact ⟨(value, second), by simp, .inl rfl⟩
          · cases rest with
            | nil => exact ⟨(first, second), by simp, .inr (by simpa using later)⟩
            | cons third rest =>
                obtain ⟨pair, pairMem, ends⟩ := ih later (by simp)
                exact ⟨pair, List.mem_cons_of_mem _ pairMem, ends⟩

theorem ne_of_mem_pairs (chain : values.IsChain (· ≠ ·)) {pair : α × α}
    (member : pair ∈ pairs values) : pair.1 ≠ pair.2 := by
  induction values with
  | nil => cases member
  | cons first rest ih =>
      cases rest with
      | nil => cases member
      | cons second rest =>
          rw [List.isChain_cons_cons] at chain
          rcases List.mem_cons.mp member with rfl | later
          · exact chain.1
          · exact ih chain.2 later

end Pairs

/-- The route is the sequence of its nodes. -/
structure RawRoute.WellFormed (route : RawRoute) : Prop where
  edges_eq : route.edges = (pairs route.keys).map fun pair => ⟨pair.1, pair.2⟩
  edgeStatuses_length : route.edgeStatuses.length = route.edges.length
  keys_chain : route.keys.IsChain (· ≠ ·)
  raw_ne_nil : ∀ observation ∈ route.nodes, observation.raw ≠ []

theorem edgesOf_eq (observations : List Observation) :
    edgesOf observations =
      (pairs (observations.map fun observation => observation.canonical.key)).map
        fun pair => ⟨pair.1, pair.2⟩ := by
  induction observations with
  | nil => rfl
  | cons first rest ih =>
      cases rest with
      | nil => rfl
      | cons second rest =>
          rw [edgesOf, ih]
          rfl

theorem length_edgeStatusesOf (links : List TopologyLink) (observations : List Observation) :
    (edgeStatusesOf links observations).length = (edgesOf observations).length := by
  induction observations with
  | nil => rfl
  | cons first rest ih =>
      cases rest with
      | nil => rfl
      | cons second rest => simp [edgeStatusesOf, edgesOf, ih]

theorem raw_ne_nil_of_mem_collapse {entries : List (Canonical × TopologyNode)}
    {observation : Observation} (member : observation ∈ collapse entries) :
    observation.raw ≠ [] := by
  induction entries generalizing observation with
  | nil => cases member
  | cons entry rest ih =>
      obtain ⟨canonical, node⟩ := entry
      rw [collapse] at member
      cases collapsed : collapse rest with
      | nil =>
          simp only [collapsed, List.mem_singleton] at member
          simp [member]
      | cons first more =>
          rw [collapsed] at member ih
          simp only at member
          split at member
          · rcases List.mem_cons.mp member with rfl | later
            · simp
            · exact ih (List.mem_cons_of_mem _ later)
          · rcases List.mem_cons.mp member with rfl | later
            · simp
            · exact ih later

theorem canonical_of_mem_collapse {entries : List (Canonical × TopologyNode)}
    {observation : Observation} (member : observation ∈ collapse entries) :
    observation.canonical ∈ entries.map Prod.fst := by
  induction entries generalizing observation with
  | nil => cases member
  | cons entry rest ih =>
      obtain ⟨canonical, node⟩ := entry
      rw [collapse] at member
      rw [List.map_cons]
      cases collapsed : collapse rest with
      | nil =>
          simp only [collapsed, List.mem_singleton] at member
          simp [member]
      | cons first more =>
          rw [collapsed] at member ih
          simp only at member
          split at member
          · rcases List.mem_cons.mp member with rfl | later
            · simp
            · exact List.mem_cons_of_mem _ (ih (List.mem_cons_of_mem _ later))
          · rcases List.mem_cons.mp member with rfl | later
            · simp
            · exact List.mem_cons_of_mem _ (ih later)

theorem Source.wellFormed_rawRoute (library : Library) (source : Source) :
    (source.rawRoute library).WellFormed where
  edges_eq := edgesOf_eq _
  edgeStatuses_length := length_edgeStatusesOf _ _
  keys_chain := by
    rw [Source.keys_rawRoute]
    exact List.isChain_destutter _ _
  raw_ne_nil := fun _ member => raw_ne_nil_of_mem_collapse member

theorem wellFormed_compactRoutes (library : Library) (results : List Result) :
    ∀ route ∈ compactRoutes library results, route.WellFormed := by
  intro route member
  obtain ⟨source, -, rfl⟩ := List.mem_map.mp member
  exact source.wellFormed_rawRoute library

namespace RawRoute.WellFormed

variable {route : RawRoute} (wellFormed : route.WellFormed)

include wellFormed

theorem length_edges : route.edges.length = route.nodes.length - 1 := by
  rw [wellFormed.edges_eq, List.length_map, length_pairs, RawRoute.keys, List.length_map]

theorem take_edges (count : Nat) :
    route.edges.take count =
      (pairs (route.keys.take (count + 1))).map fun pair => ⟨pair.1, pair.2⟩ := by
  rw [wellFormed.edges_eq, ← List.map_take, take_pairs]

theorem source_ne_target {edge : EdgeKey} (member : edge ∈ route.edges) :
    edge.source ≠ edge.target := by
  rw [wellFormed.edges_eq] at member
  obtain ⟨pair, pairMem, rfl⟩ := List.mem_map.mp member
  exact ne_of_mem_pairs wellFormed.keys_chain pairMem

end RawRoute.WellFormed

/-! ## What is displayed of a route -/

namespace Displayed

/-- Keys of the prefix. -/
def keys (displayed : Displayed) : List GoString :=
  displayed.route.keys.take displayed.nodeCount

theorem map_key_observations (displayed : Displayed) :
    displayed.observations.map (fun observation => observation.canonical.key) = displayed.keys := by
  simp [observations, keys, RawRoute.keys, List.map_take]

/-- A nonempty prefix with the edges inside it. -/
structure Proper (displayed : Displayed) : Prop where
  wellFormed : displayed.route.WellFormed
  nodeCount_eq : displayed.nodeCount = displayed.accepted + 1
  nodeCount_le : displayed.nodeCount ≤ displayed.route.nodes.length

namespace Proper

variable {displayed : Displayed} (proper : displayed.Proper)

include proper

theorem length_edges : displayed.route.edges.length + 1 = displayed.route.nodes.length := by
  have positive := proper.nodeCount_le
  have counted := proper.nodeCount_eq
  rw [proper.wellFormed.length_edges]
  omega

theorem length_keys : displayed.keys.length = displayed.nodeCount := by
  rw [keys, List.length_take, RawRoute.keys, List.length_map]
  exact min_eq_left proper.nodeCount_le

theorem map_fst_links :
    displayed.links.map Prod.fst =
      (pairs displayed.keys).map fun pair => ⟨pair.1, pair.2⟩ := by
  unfold links keys
  rw [List.map_take, List.map_fst_zip proper.wellFormed.edgeStatuses_length.ge,
    proper.wellFormed.take_edges, proper.nodeCount_eq]

theorem complete_iff : displayed.complete = true ↔
    displayed.nodeCount = displayed.route.nodes.length := by
  have length_edges := proper.length_edges
  have counted := proper.nodeCount_eq
  simp only [complete, decide_eq_true_eq]
  omega

theorem filter_links :
    (displayed.links.filter fun link => link.1.source ≠ link.1.target) = displayed.links := by
  rw [List.filter_eq_self]
  intro link member
  have edgeMem : link.1 ∈ displayed.route.edges :=
    (List.of_mem_zip (List.mem_of_mem_take member)).1
  simpa using proper.wellFormed.source_ne_target edgeMem

end Proper
end Displayed

section DisplayedRoutes

variable {routes : List RawRoute} {state : Selection} {limits : SelectionLimits}

theorem mem_displayedRoutes {displayed : Displayed} :
    displayed ∈ displayedRoutes routes state ↔
      ∃ routeIndex, routes[routeIndex]? = some displayed.route ∧
        displayed.accepted = (state.progress routeIndex).accepted ∧
        displayed.nodeCount =
          displayedNodeCount state.order displayed.route displayed.accepted ∧
        displayed.nodeCount ≠ 0 := by
  unfold displayedRoutes
  rw [List.mem_filterMap]
  constructor
  · rintro ⟨⟨route, routeIndex⟩, member, shown⟩
    simp only [displayedRoute] at shown
    split at shown
    · cases shown
    · rename_i positive
      cases shown
      exact ⟨routeIndex, List.mem_zipIdx_iff_getElem?.mp member, rfl, rfl, positive⟩
  · rintro ⟨routeIndex, found, accepted_eq, nodeCount_eq, positive⟩
    refine ⟨(displayed.route, routeIndex), List.mem_zipIdx_iff_getElem?.mpr found, ?_⟩
    simp only [displayedRoute, ← accepted_eq, ← nodeCount_eq, if_neg positive]

/-- Displayed routes keep the order of the routes. -/
theorem map_route_displayedRoutes_sublist :
    ((displayedRoutes routes state).map Displayed.route).Sublist routes := by
  have entries : ∀ entries : List (RawRoute × Nat),
      ((entries.filterMap fun entry => displayedRoute state entry.1 entry.2).map
        Displayed.route).Sublist (entries.map Prod.fst) := by
    intro entries
    induction entries with
    | nil => exact List.Sublist.refl _
    | cons entry entries ih =>
        obtain ⟨route, routeIndex⟩ := entry
        rw [List.filterMap_cons]
        dsimp only
        split
        · exact ih.cons _
        · rename_i shown found
          have route_eq : shown.route = route := by
            simp only [displayedRoute] at found
            split at found
            · cases found
            · cases found
              rfl
          rw [List.map_cons, List.map_cons, route_eq]
          exact ih.cons_cons _
  have all := entries routes.zipIdx
  rwa [List.zipIdx_map_fst] at all

theorem proper_of_mem_displayedRoutes (wellFormed : ∀ route ∈ routes, route.WellFormed)
    (accepted_le : ∀ routeIndex,
      (state.progress routeIndex).accepted ≤ (edgesAt routes routeIndex).length)
    {displayed : Displayed} (member : displayed ∈ displayedRoutes routes state) :
    displayed.Proper := by
  obtain ⟨routeIndex, found, accepted_eq, nodeCount_eq, positive⟩ := mem_displayedRoutes.mp member
  have known := wellFormed _ (List.mem_of_getElem? found)
  have bounded := accepted_le routeIndex
  simp only [edgesAt, found, Option.map_some, Option.getD_some, ← accepted_eq,
    known.length_edges] at bounded
  unfold displayedNodeCount at nodeCount_eq
  split at nodeCount_eq
  · exact ⟨known, nodeCount_eq, by omega⟩
  · rename_i none_
    split at nodeCount_eq
    · rename_i lone
      split at nodeCount_eq
      · split at nodeCount_eq
        · exact ⟨known, by omega, by omega⟩
        · exact absurd nodeCount_eq positive
      · exact absurd nodeCount_eq positive
    · exact absurd nodeCount_eq positive

/-- Displayed nodes are selected. -/
theorem keys_subset_order (sound : state.Sound routes limits)
    (wellFormed : ∀ route ∈ routes, route.WellFormed) {displayed : Displayed}
    (member : displayed ∈ displayedRoutes routes state) {key : GoString}
    (shown : key ∈ displayed.keys) : key ∈ state.order := by
  have proper := proper_of_mem_displayedRoutes wellFormed sound.accepted_le member
  obtain ⟨routeIndex, found, accepted_eq, nodeCount_eq, positive⟩ := mem_displayedRoutes.mp member
  by_cases moved : 0 < displayed.accepted
  · have long : 2 ≤ displayed.keys.length := by
      rw [proper.length_keys, proper.nodeCount_eq]
      omega
    obtain ⟨pair, pairMem, ends⟩ := exists_mem_pairs shown long
    have taken : (⟨pair.1, pair.2⟩ : EdgeKey) ∈ state.taken routes routeIndex := by
      simp only [Selection.taken, edgesAt, found, Option.map_some, Option.getD_some,
        ← accepted_eq]
      rw [proper.wellFormed.take_edges, ← proper.nodeCount_eq]
      exact List.mem_map_of_mem pairMem
    have ordered := sound.taken_order routeIndex _ taken
    rcases ends with rfl | rfl
    · exact ordered.1
    · exact ordered.2
  · unfold displayedNodeCount at nodeCount_eq
    rw [if_neg moved] at nodeCount_eq
    split at nodeCount_eq
    · split at nodeCount_eq
      · rename_i observation head_eq
        split at nodeCount_eq
        · rename_i selected
          have keys_eq : displayed.keys = [observation.canonical.key] := by
            obtain ⟨rest, nodes_eq⟩ := List.head?_eq_some_iff.mp head_eq
            simp [Displayed.keys, RawRoute.keys, nodes_eq, nodeCount_eq]
          rw [keys_eq, List.mem_singleton] at shown
          rwa [shown]
        · exact absurd nodeCount_eq positive
      · exact absurd nodeCount_eq positive
    · exact absurd nodeCount_eq positive

end DisplayedRoutes

end CheckNetwork.Compact
