import CheckNetwork.Compact.Prefix
import Mathlib

/-!
# What the aggregates say

The entry of a node summarizes exactly the raw nodes displayed under its key,
and the entry of a link counts exactly its displayed occurrences.
-/

namespace CheckNetwork.Compact

open Collection Diagnostic Go

/-! ## Nodes -/

/-- The node reports the worst status of some raw nodes, the range of their
hops and their number. -/
structure Summarizes (raws : List TopologyNode) (node : Node) : Prop where
  observations_eq : node.observations = raws.length
  status_mem : ∃ raw ∈ raws, normalizedTopologyStatus raw.status = node.status
  status_worst : ∀ raw ∈ raws,
    statusRank (normalizedTopologyStatus raw.status) ≤ statusRank node.status
  hopMin_isLeast : IsLeast {hop | ∃ raw ∈ raws, raw.hop = hop} node.hopMin
  hopMax_isGreatest : IsGreatest {hop | ∃ raw ∈ raws, raw.hop = hop} node.hopMax

theorem normalizedTopologyStatus_ne_other (status : TopologyStatus) (name : String) :
    normalizedTopologyStatus status ≠ .other name := by
  cases status <;> simp [normalizedTopologyStatus]

/-- The worse of two statuses has the higher rank. -/
theorem worstStatus_eq {left right : TopologyStatus} (named : left ≠ .other "") :
    worstStatus left right = if statusRank left < statusRank right then right else left := by
  simp [worstStatus, named]

theorem statusRank_worstStatus {left right : TopologyStatus} (named : left ≠ .other "") :
    statusRank (worstStatus left right) = max (statusRank left) (statusRank right) := by
  rw [worstStatus_eq named]
  split
  · omega
  · omega

namespace NodeAggregate

theorem summarizes_step_none (id : String) (entry : Canonical × TopologyNode) :
    Summarizes [entry.2] ((step none entry).plain id) := by
  have status_eq : ((step none entry).plain id).status =
      normalizedTopologyStatus entry.2.status := by
    simp [step, start, add, plain, worstStatus,
      normalizedTopologyStatus_ne_other]
  constructor
  case observations_eq => rfl
  case status_mem => exact ⟨entry.2, by simp, status_eq.symm⟩
  case status_worst =>
    intro raw member
    rw [List.mem_singleton.mp member, status_eq]
  case hopMin_isLeast => simp [step, start, add, plain, isLeast_singleton]
  case hopMax_isGreatest => simp [step, start, add, plain, isGreatest_singleton]

theorem summarizes_step_some {id : String} {raws : List TopologyNode} {aggregate : NodeAggregate}
    (summary : Summarizes raws (aggregate.plain id)) (entry : Canonical × TopologyNode) :
    Summarizes (raws ++ [entry.2]) ((step (some aggregate) entry).plain id) := by
  obtain ⟨worst, worstMem, worst_eq⟩ := summary.status_mem
  have named : aggregate.status ≠ .other "" := by
    change _ = aggregate.status at worst_eq
    rw [← worst_eq]
    exact normalizedTopologyStatus_ne_other _ _
  have hops_eq : {hop | ∃ raw ∈ raws ++ [entry.2], raw.hop = hop} =
      {hop | ∃ raw ∈ raws, raw.hop = hop} ∪ {entry.2.hop} := by
    ext hop
    simp [or_and_right, exists_or, eq_comm, or_comm]
  constructor
  case observations_eq =>
    rw [List.length_append, ← summary.observations_eq]
    rfl
  case status_mem =>
    change ∃ raw ∈ raws ++ [entry.2], normalizedTopologyStatus raw.status =
      worstStatus aggregate.status (normalizedTopologyStatus entry.2.status)
    rw [worstStatus_eq named]
    split
    · exact ⟨entry.2, by simp, rfl⟩
    · exact ⟨worst, by simp [worstMem], worst_eq⟩
  case status_worst =>
    intro raw member
    change _ ≤ statusRank
      (worstStatus aggregate.status (normalizedTopologyStatus entry.2.status))
    rw [statusRank_worstStatus named]
    rcases List.mem_append.mp member with old | new
    · exact (summary.status_worst raw old).trans (le_max_left _ _)
    · rw [List.mem_singleton.mp new]
      exact le_max_right _ _
  case hopMin_isLeast =>
    rw [hops_eq]
    exact summary.hopMin_isLeast.union isLeast_singleton
  case hopMax_isGreatest =>
    rw [hops_eq]
    exact summary.hopMax_isGreatest.union isGreatest_singleton

@[simp]
theorem id_node (library : Library) (includeGeo : Bool) (aggregate : NodeAggregate) (id : String) :
    (aggregate.node library includeGeo id).id = id := by
  unfold node
  split <;> rfl

@[simp]
theorem kind_node (library : Library) (includeGeo : Bool) (aggregate : NodeAggregate)
    (id : String) : (aggregate.node library includeGeo id).kind = aggregate.kind := by
  unfold node
  split <;> rfl

@[simp]
theorem address_node (library : Library) (includeGeo : Bool) (aggregate : NodeAggregate)
    (id : String) : (aggregate.node library includeGeo id).address = aggregate.address := by
  unfold node
  split <;> rfl

/-- The bundle is no part of the summary. -/
theorem summarizes_node (library : Library) (includeGeo : Bool) {aggregate : NodeAggregate}
    {id : String} {raws : List TopologyNode} (summary : Summarizes raws (aggregate.plain id)) :
    Summarizes raws (aggregate.node library includeGeo id) := by
  unfold node
  split
  · exact { summary with }
  · exact summary

end NodeAggregate

section Entries

variable {displayed : List Displayed} {key : GoString} {aggregate : NodeAggregate}

/-- The raw nodes displayed under a key. -/
def rawsAt (displayed : List Displayed) (key : GoString) : List TopologyNode :=
  ((nodeEntries displayed).filter fun entry => entry.1.key = key).map Prod.snd

theorem summarizes_nodeAggregates (found : nodeAggregates displayed key = some aggregate)
    (id : String) : Summarizes (rawsAt displayed key) (aggregate.plain id) :=
  accumulate_invariant
    (fun seen (aggregate : NodeAggregate) => Summarizes (seen.map Prod.snd) (aggregate.plain id))
    (nodeEntries displayed) key found
    (fun entry => NodeAggregate.summarizes_step_none id entry)
    (fun seen earlier entry summary => by
      rw [List.map_append]
      exact NodeAggregate.summarizes_step_some summary entry)

/-- A node shows the canonical form of a raw node with its key. -/
theorem canonical_nodeAggregates (found : nodeAggregates displayed key = some aggregate) :
    ∃ entry ∈ nodeEntries displayed, entry.1.key = key ∧ aggregate.kind = entry.1.kind ∧
      aggregate.address = entry.1.address := by
  have first : ∃ entry ∈ (nodeEntries displayed).filter (fun entry => entry.1.key = key),
      aggregate.kind = entry.1.kind ∧ aggregate.address = entry.1.address :=
    accumulate_invariant
      (fun seen aggregate => ∃ entry ∈ seen,
        aggregate.kind = entry.1.kind ∧ aggregate.address = entry.1.address)
      (nodeEntries displayed) key found (fun entry => ⟨entry, by simp, rfl, rfl⟩)
      (fun seen earlier entry known => by
        obtain ⟨first, member, kind_eq, address_eq⟩ := known
        exact ⟨first, List.mem_append_left _ member, kind_eq, address_eq⟩)
  obtain ⟨entry, member, same⟩ := first
  rw [List.mem_filter] at member
  exact ⟨entry, member.1, by simpa using member.2, same⟩

theorem mem_nodeEntries {entry : Canonical × TopologyNode} :
    entry ∈ nodeEntries displayed ↔ ∃ shown ∈ displayed, ∃ observation ∈ shown.observations,
      observation.canonical = entry.1 ∧ entry.2 ∈ observation.raw := by
  obtain ⟨canonical, raw⟩ := entry
  simp only [nodeEntries, List.mem_flatMap, List.mem_map, Prod.mk.injEq]
  constructor
  · rintro ⟨shown, shownMem, observation, observationMem, node, nodeMem, rfl, rfl⟩
    exact ⟨shown, shownMem, observation, observationMem, rfl, nodeMem⟩
  · rintro ⟨shown, shownMem, observation, observationMem, rfl, nodeMem⟩
    exact ⟨shown, shownMem, observation, observationMem, raw, nodeMem, rfl, rfl⟩

/-- A key has an entry when it is on a displayed prefix. -/
theorem isSome_nodeAggregates_iff (proper : ∀ shown ∈ displayed, shown.Proper) :
    (nodeAggregates displayed key).isSome ↔ ∃ shown ∈ displayed, key ∈ shown.keys := by
  rw [nodeAggregates, accumulate_isSome_iff]
  constructor
  · rintro ⟨entry, member, rfl⟩
    obtain ⟨shown, shownMem, observation, observationMem, same, -⟩ := mem_nodeEntries.mp member
    refine ⟨shown, shownMem, ?_⟩
    rw [← shown.map_key_observations, ← same]
    exact List.mem_map_of_mem observationMem
  · rintro ⟨shown, shownMem, member⟩
    rw [← shown.map_key_observations] at member
    obtain ⟨observation, observationMem, rfl⟩ := List.mem_map.mp member
    have some_raw := (proper shown shownMem).wellFormed.raw_ne_nil observation
      (List.mem_of_mem_take observationMem)
    obtain ⟨raw, rawMem⟩ := List.exists_mem_of_ne_nil _ some_raw
    exact ⟨(observation.canonical, raw),
      mem_nodeEntries.mpr ⟨shown, shownMem, observation, observationMem, rfl, rawMem⟩, rfl⟩

end Entries

/-! ## Links -/

section Links

variable {displayed : List Displayed} {edge : EdgeKey} {aggregate : LinkAggregate}

/-- Consecutive keys on the displayed prefixes. -/
def shownEdges (displayed : List Displayed) : List EdgeKey :=
  displayed.flatMap fun shown => (pairs shown.keys).map fun pair => ⟨pair.1, pair.2⟩

theorem map_fst_linkEntries (proper : ∀ shown ∈ displayed, shown.Proper) :
    (linkEntries displayed).map Prod.fst = shownEdges displayed := by
  unfold linkEntries shownEdges
  rw [List.map_flatMap]
  refine List.flatMap_congr fun shown member => ?_
  rw [(proper shown member).filter_links, (proper shown member).map_fst_links]

theorem isSome_linkAggregates_iff (proper : ∀ shown ∈ displayed, shown.Proper) :
    (linkAggregates displayed edge).isSome ↔ edge ∈ shownEdges displayed := by
  rw [linkAggregates, accumulate_isSome_iff, ← map_fst_linkEntries proper, List.mem_map]

theorem observations_linkAggregates (proper : ∀ shown ∈ displayed, shown.Proper)
    (found : linkAggregates displayed edge = some aggregate) :
    aggregate.observations = (shownEdges displayed).count edge := by
  have counted : aggregate.observations =
      ((linkEntries displayed).filter fun entry => entry.1 = edge).length :=
    accumulate_invariant (fun seen entry => entry.observations = seen.length) _ _ found
      (fun entry => rfl) (fun seen earlier entry known => by
        rw [List.length_append, ← known]
        rfl)
  rw [counted, ← map_fst_linkEntries proper, List.count, List.countP_map,
    List.countP_eq_length_filter]
  congr 1

theorem mem_of_mem_shownEdges (member : edge ∈ shownEdges displayed) :
    ∃ shown ∈ displayed, edge.source ∈ shown.keys ∧ edge.target ∈ shown.keys := by
  obtain ⟨shown, shownMem, edgeMem⟩ := List.mem_flatMap.mp member
  obtain ⟨pair, pairMem, rfl⟩ := List.mem_map.mp edgeMem
  exact ⟨shown, shownMem, mem_of_mem_pairs pairMem⟩

end Links

/-! ## Identifiers -/

theorem toList_nodeID (number : Nat) : (nodeID number).toList =
    'n' :: (List.replicate (6 - (Nat.toDigits 10 number).length) '0' ++
      Nat.toDigits 10 number) := by
  simp [nodeID, F64.zeros, Nat.toString_eq_repr, Nat.repr_eq_ofList_toDigits]

/-- The number is read off the digits. -/
theorem nodeID_injective : Function.Injective nodeID := by
  intro first second same
  have digits_eq := congrArg String.toList same
  rw [toList_nodeID, toList_nodeID, List.cons.injEq] at digits_eq
  have number_eq := congrArg (fun digits => Nat.ofDigitChars 10 digits 0) digits_eq.2
  simpa [Nat.ofDigitChars_append, Nat.ofDigitChars_replicate_zero] using number_eq

theorem idOf_of_mem {keys : List GoString} {key : GoString} (member : key ∈ keys) :
    idOf keys key = nodeID (keys.idxOf key + 1) :=
  if_pos member

theorem idOf_injOn (keys : List GoString) : Set.InjOn (idOf keys) {key | key ∈ keys} := by
  intro first firstMem second secondMem same
  rw [idOf_of_mem firstMem, idOf_of_mem secondMem] at same
  have index_eq := Nat.add_right_cancel (nodeID_injective same)
  exact (List.idxOf_inj firstMem).mp index_eq

end CheckNetwork.Compact
