import CheckNetwork.Trace.Check
import Mathlib.Data.Int.Interval

/-!
# The shape of a traced route

Every topology that the parser returns starts at the local node, goes on with
hops in strictly increasing order, and carries a sample on every responsive
hop.  Enrichment keeps this shape.
-/

namespace CheckNetwork.Trace

open Diagnostic Go

/-- A node after the local one. -/
structure HopShaped (node : TopologyNode) : Prop where
  id_eq : node.id = hopID node.hop
  hop_pos : 0 < node.hop
  hop_le : node.hop ≤ maxTraceHops + 1
  status_known : node.status = .healthy ∨ node.status = .degraded ∨ node.status = .unknown ∨
    node.status = .failure
  sample_valid : node.status = .healthy ∨ node.status = .degraded →
    isValidTraceLatency node.latencyMS = true
  bundle_public : node.publicIP = false → node.geolocation = none ∧ node.asn = none

/-- The local node, then hops. -/
structure Shaped (topology : Topology) : Prop where
  nodes_eq : ∃ hops, topology.nodes = localHop :: hops ∧ hops ≠ [] ∧
    (∀ node ∈ hops, HopShaped node) ∧ (hops.map TopologyNode.hop).Pairwise (· < ·)

/-! ## Rows -/

/-- A row adds an address and perhaps a sample to the hop of its number. -/
structure RowShaped (hop : Int) (node : TopologyNode) : Prop where
  id_eq : node.id = hopID hop
  hop_eq : node.hop = hop
  sampled : node.status = .unknown ∨
    node.status = .healthy ∧ isValidTraceLatency node.latencyMS = true
  bare : node.publicIP = false ∧ node.geolocation = none ∧ node.asn = none

theorem rowShaped_unknownHop (hop : Int) : RowShaped hop (unknownHop hop) :=
  ⟨rfl, rfl, .inl rfl, rfl, rfl, rfl⟩

theorem readLatency_valid {library : Library} {token : GoString} {latency : F64}
    (read : readLatency library token = some latency) : isValidTraceLatency latency = true :=
  (Option.filter_eq_some_iff.mp read).2

theorem rowShaped_parseUnixTraceHop {library : Library} {line : GoString}
    {fields : List GoString} {hop : Int} {start node : TopologyNode} (row : RowShaped hop start)
    (parsed : parseUnixTraceHop library line fields start = .ok node) : RowShaped hop node := by
  unfold parseUnixTraceHop at parsed
  split at parsed
  · split at parsed
    · cases parsed
      exact row
    · dsimp only at parsed
      split at parsed
      · cases parsed
        exact { row with }
      · split at parsed
        · cases parsed
        · rename_i latency read
          cases parsed
          exact { row with sampled := .inr ⟨rfl, readLatency_valid read⟩ }
  · cases parsed
    exact row

theorem windowsProbes_valid {library : Library} {count : Nat} {fields rest : List GoString}
    {before after : Option F64}
    (valid : ∀ latency, before = some latency → isValidTraceLatency latency = true)
    (parsed : windowsProbes library count fields before = .ok (after, rest)) :
    ∀ latency, after = some latency → isValidTraceLatency latency = true := by
  induction count generalizing fields before with
  | zero =>
      rw [windowsProbes] at parsed
      cases parsed
      exact valid
  | succ count ih =>
      cases fields with
      | nil => cases parsed
      | cons field fields =>
          rw [windowsProbes] at parsed
          split at parsed
          · exact ih valid parsed
          · dsimp only at parsed
            cases fields with
            | nil => cases parsed
            | cons unit fields =>
                dsimp only at parsed
                split at parsed
                · cases parsed
                · split at parsed
                  · cases parsed
                  · rename_i latency read
                    have fresh := (Option.filter_eq_some_iff.mp read).2
                    refine ih ?_ parsed
                    intro least least_eq
                    rw [Option.some.injEq] at least_eq
                    subst least_eq
                    cases before with
                    | none => exact fresh
                    | some minimum =>
                        dsimp only
                        split
                        · exact fresh
                        · exact valid minimum rfl

theorem rowShaped_parseWindowsTraceHop {library : Library} {fields : List GoString} {hop : Int}
    {start node : TopologyNode} (row : RowShaped hop start)
    (parsed : parseWindowsTraceHop library fields start = .ok node) : RowShaped hop node := by
  unfold parseWindowsTraceHop at parsed
  cases probes : windowsProbes library 3 fields.tail none with
  | error error =>
      rw [probes] at parsed
      cases parsed
  | ok answer =>
      obtain ⟨minimum, rest⟩ := answer
      rw [probes] at parsed
      simp only [Except.map, Except.ok.injEq] at parsed
      subst parsed
      have valid := windowsProbes_valid (fun latency none_ => by cases none_) probes
      cases minimum with
      | none => exact { row with }
      | some latency => exact { row with sampled := .inr ⟨rfl, valid latency rfl⟩ }

theorem rowShaped_parseHop {library : Library} {header : Header} {line : GoString} {hop : Int}
    {node : TopologyNode} (parsed : parseHop library header line hop = .ok node) :
    RowShaped hop node := by
  unfold parseHop at parsed
  split at parsed
  · exact rowShaped_parseWindowsTraceHop (rowShaped_unknownHop hop) parsed
  · exact rowShaped_parseUnixTraceHop (rowShaped_unknownHop hop) parsed

/-- The rows come in strictly increasing order within the hop limit. -/
theorem rowShaped_parseRows {library : Library} {header : Header} {requested : GoString}
    {lines : List GoString} {previous : Int} {nodes : List TopologyNode} {reached : Bool}
    (parsed : parseRows library header requested lines previous = .ok (nodes, reached)) :
    (∀ node ∈ nodes, RowShaped node.hop node ∧ previous < node.hop ∧
      node.hop ≤ maxTraceHops) ∧ (nodes.map TopologyNode.hop).Pairwise (· < ·) := by
  induction lines generalizing previous nodes reached with
  | nil =>
      rw [parseRows] at parsed
      cases parsed
      simp
  | cons line lines ih =>
      rw [parseRows] at parsed
      dsimp only at parsed
      split at parsed
      · exact ih parsed
      · rename_i hop _
        split at parsed
        · cases parsed
        · rename_i within
          split at parsed
          · cases parsed
          · rename_i later
            cases read : parseHop library header line hop with
            | error error =>
                rw [read] at parsed
                cases parsed
            | ok node =>
                have row := rowShaped_parseHop read
                have here : RowShaped node.hop node ∧ previous < node.hop ∧
                    node.hop ≤ maxTraceHops := by
                  rw [row.hop_eq]
                  exact ⟨row, not_le.mp later, not_lt.mp within⟩
                rw [read] at parsed
                change (if node.address = header.destination ∨ node.address = requested then
                  pure ([node], true) else _) = _ at parsed
                split at parsed
                · cases parsed
                  simpa using here
                · cases more : parseRows library header requested lines hop with
                  | error error =>
                      rw [more] at parsed
                      cases parsed
                  | ok answer =>
                      obtain ⟨rest, restReached⟩ := answer
                      rw [more] at parsed
                      cases parsed
                      have known := ih more
                      constructor
                      · rintro other (_ | member)
                        · exact here
                        · have other_known := known.1 other ‹_›
                          exact ⟨other_known.1, (not_le.mp later).trans other_known.2.1,
                            other_known.2.2⟩
                      · rw [List.map_cons, List.pairwise_cons]
                        refine ⟨?_, known.2⟩
                        intro other member
                        obtain ⟨next, nextMem, rfl⟩ := List.mem_map.mp member
                        rw [row.hop_eq]
                        exact (known.1 next nextMem).2.1

theorem RowShaped.hopShaped {node : TopologyNode} (row : RowShaped node.hop node)
    (pos : 0 < node.hop) (le : node.hop ≤ maxTraceHops + 1) : HopShaped node where
  id_eq := row.id_eq
  hop_pos := pos
  hop_le := le
  status_known := by
    rcases row.sampled with unknown | ⟨healthy, -⟩
    · exact .inr (.inr (.inl unknown))
    · exact .inl healthy
  sample_valid := by
    rintro responsive
    rcases row.sampled with unknown | ⟨-, valid⟩
    · rw [unknown] at responsive
      simp at responsive
    · exact valid
  bundle_public := fun _ => row.bare.2

theorem hopShaped_failedDestination {requested : GoString} {hop : Int} (pos : 0 < hop)
    (le : hop ≤ maxTraceHops + 1) : HopShaped (failedDestination requested hop) where
  id_eq := rfl
  hop_pos := pos
  hop_le := le
  status_known := .inr (.inr (.inr rfl))
  sample_valid := by simp [failedDestination]
  bundle_public := fun _ => ⟨rfl, rfl⟩

/-! ## Classification -/

/-- Classification only turns a healthy hop into a degraded one. -/
theorem classifyLink_node (previous current : TopologyNode) :
    (classifyLink previous current).2 = current ∨
      current.status = .healthy ∧
        (classifyLink previous current).2 = { current with status := .degraded } := by
  unfold classifyLink
  dsimp only
  split
  · rename_i responsive
    split
    · exact .inl rfl
    · split
      · exact .inr ⟨responsive.1, rfl⟩
      · exact .inl rfl
  · exact .inl rfl

theorem HopShaped.classify {current : TopologyNode} (shaped : HopShaped current)
    (previous : TopologyNode) : HopShaped (classifyLink previous current).2 := by
  rcases classifyLink_node previous current with same | ⟨healthy, degraded⟩
  · rwa [same]
  · rw [degraded]
    exact { shaped with
      status_known := .inr (.inl rfl)
      sample_valid := fun _ => shaped.sample_valid (.inl healthy) }

theorem hop_classifyLink (previous current : TopologyNode) :
    (classifyLink previous current).2.hop = current.hop := by
  rcases classifyLink_node previous current with same | ⟨-, degraded⟩
  · rw [same]
  · rw [degraded]

theorem hopShaped_classifyRest {previous : TopologyNode} {rest : List TopologyNode}
    (shaped : ∀ node ∈ rest, HopShaped node) :
    (∀ node ∈ (classifyRest previous rest).1, HopShaped node) ∧
      (classifyRest previous rest).1.map TopologyNode.hop = rest.map TopologyNode.hop := by
  induction rest generalizing previous with
  | nil => simp [classifyRest]
  | cons current rest ih =>
      have known := @ih (classifyLink previous current).2 fun node member =>
        shaped node (List.mem_cons_of_mem _ member)
      rw [classifyRest]
      constructor
      · rintro node (_ | member)
        · exact (shaped current List.mem_cons_self).classify previous
        · exact known.1 node ‹_›
      · rw [List.map_cons, List.map_cons, known.2, hop_classifyLink]

/-- Every parsed topology has the shape of a traced route. -/
theorem shaped_parseTraceroute {library : Library} {output requested : GoString}
    {topology : Topology} (parsed : parseTraceroute library output requested = .ok topology) :
    Shaped topology := by
  unfold parseTraceroute at parsed
  split at parsed
  · cases parsed
  · dsimp only at parsed
    split at parsed
    · cases parsed
    · split at parsed
      · cases parsed
      · rename_i line rows _
        cases rows_eq : parseRows library (readHeader library requested line) requested rows 0 with
        | error error =>
            rw [rows_eq] at parsed
            cases parsed
        | ok answer =>
            obtain ⟨nodes, reached⟩ := answer
            rw [rows_eq] at parsed
            simp only [bind, Except.bind] at parsed
            cases last_eq : nodes.getLast? with
            | none =>
                rw [last_eq] at parsed
                cases parsed
            | some last =>
                rw [last_eq] at parsed
                cases parsed
                obtain ⟨rowsShaped, increasing⟩ := rowShaped_parseRows rows_eq
                obtain ⟨earlier, nodes_eq⟩ := List.getLast?_eq_some_iff.mp last_eq
                have lastMem : last ∈ nodes := by simp [nodes_eq]
                have last_known := rowsShaped last lastMem
                have before_last : ∀ node ∈ nodes, node.hop ≤ last.hop := by
                  intro node member
                  rw [nodes_eq] at member increasing
                  rw [List.map_append, List.pairwise_append] at increasing
                  rcases List.mem_append.mp member with old | new
                  · exact (increasing.2.2 _ (List.mem_map_of_mem old) last.hop (by simp)).le
                  · rw [List.mem_singleton.mp new]
                set tail := if reached then [] else
                  [failedDestination requested (last.hop + 1)] with tail_eq
                have hopsShaped : ∀ node ∈ nodes ++ tail, HopShaped node := by
                  intro node member
                  rcases List.mem_append.mp member with old | new
                  · have known := rowsShaped node old
                    exact known.1.hopShaped known.2.1 (by omega)
                  · rw [tail_eq] at new
                    split at new
                    · cases new
                    · rw [List.mem_singleton.mp new]
                      exact hopShaped_failedDestination (by omega) (by omega)
                have hopsIncreasing :
                    ((nodes ++ tail).map TopologyNode.hop).Pairwise (· < ·) := by
                  rw [List.map_append, List.pairwise_append]
                  refine ⟨increasing, ?_, ?_⟩
                  · rw [tail_eq]
                    split <;> simp
                  · intro hop hopMem other otherMem
                    obtain ⟨node, member, rfl⟩ := List.mem_map.mp hopMem
                    rw [tail_eq] at otherMem
                    split at otherMem
                    · cases otherMem
                    · have other_eq : other = last.hop + 1 := by
                        simpa [failedDestination, unknownHop] using otherMem
                      have le := before_last node member
                      omega
                have classified := @hopShaped_classifyRest localHop _ hopsShaped
                refine ⟨⟨(classifyRest localHop (nodes ++ tail)).1, rfl, ?_, classified.1, ?_⟩⟩
                · intro none_
                  have hops_eq := classified.2
                  rw [none_, List.map_nil, eq_comm, List.map_eq_nil_iff] at hops_eq
                  simp [nodes_eq] at hops_eq
                · rw [classified.2]
                  exact hopsIncreasing

/-! ## Enrichment -/

theorem enrichNode_localHop (library : Library) (geoIP : GeoIP) :
    enrichNode library geoIP localHop = localHop := by
  unfold enrichNode
  rw [show localHop.address = GoString.ofString "local" from rfl, library.parseIP_local]

/-- Enrichment writes the metadata of a node and nothing else. -/
theorem enrichNode_eq (library : Library) (geoIP : GeoIP) (node : TopologyNode) :
    enrichNode library geoIP node =
      { node with
        publicIP := (enrichNode library geoIP node).publicIP
        geolocation := (enrichNode library geoIP node).geolocation
        asn := (enrichNode library geoIP node).asn } := by
  unfold enrichNode
  split
  · rfl
  · split
    · split <;> rfl
    · rfl

theorem HopShaped.enrich {node : TopologyNode} (shaped : HopShaped node) (library : Library)
    (geoIP : GeoIP) : HopShaped (enrichNode library geoIP node) := by
  unfold enrichNode
  split
  · exact shaped
  · split
    · split
      · exact { shaped with bundle_public := fun hidden => by cases hidden }
      · exact { shaped with bundle_public := fun _ => ⟨rfl, rfl⟩ }
    · exact { shaped with bundle_public := fun _ => ⟨rfl, rfl⟩ }

theorem Shaped.enrich {topology : Topology} (shaped : Shaped topology) (library : Library)
    (geoIP : GeoIP) :
    Shaped { topology with nodes := topology.nodes.map (enrichNode library geoIP) } := by
  obtain ⟨hops, nodes_eq, some_hop, hopsShaped, increasing⟩ := shaped.nodes_eq
  refine ⟨⟨hops.map (enrichNode library geoIP), ?_, by simpa using some_hop, ?_, ?_⟩⟩
  · rw [nodes_eq, List.map_cons, enrichNode_localHop]
  · intro node member
    obtain ⟨hop, hopMem, rfl⟩ := List.mem_map.mp member
    exact (hopsShaped hop hopMem).enrich library geoIP
  · rw [List.map_map]
    have hop_eq : TopologyNode.hop ∘ enrichNode library geoIP = TopologyNode.hop := by
      funext node
      rw [Function.comp_apply, enrichNode_eq]
    rwa [hop_eq]

/-- The status of a route does not look at metadata. -/
theorem topologyStatus_enrich (library : Library) (geoIP : GeoIP) (topology : Topology) :
    topologyStatus { topology with nodes := topology.nodes.map (enrichNode library geoIP) } =
      topologyStatus topology := by
  have status_eq : ∀ node, (enrichNode library geoIP node).status = node.status := by
    intro node
    rw [enrichNode_eq]
  simp [topologyStatus, List.any_map, Function.comp_def, status_eq]

/-- A topology that the checker publishes: a parsed one, perhaps enriched. -/
inductive Traced (library : Library) : Topology → Prop
  | parsed {output requested : GoString} {topology : Topology}
      (parsed : parseTraceroute library output requested = .ok topology) : Traced library topology
  | enriched {topology : Topology} (geoIP : GeoIP) (traced : Traced library topology) :
      Traced library { topology with nodes := topology.nodes.map (enrichNode library geoIP) }

theorem Traced.shaped {library : Library} {topology : Topology}
    (traced : Traced library topology) : Shaped topology := by
  induction traced with
  | parsed parsed => exact shaped_parseTraceroute parsed
  | enriched geoIP _ ih => exact ih.enrich library geoIP

/-! ## Bounds -/

/-- There are at most as many hops as hop numbers. -/
theorem length_le_of_increasing {hops : List Int} {bound : Nat}
    (increasing : hops.Pairwise (· < ·)) (range : ∀ hop ∈ hops, 0 < hop ∧ hop ≤ bound) :
    hops.length ≤ bound := by
  have nodup : hops.Nodup := increasing.imp fun less => less.ne
  have inside : hops.toFinset ⊆ Finset.Ioc 0 (bound : Int) := by
    intro hop member
    simpa using range hop (List.mem_toFinset.mp member)
  have counted := Finset.card_le_card inside
  rwa [List.toFinset_card_of_nodup nodup, Int.card_Ioc, sub_zero, Int.toNat_natCast] at counted

theorem Shaped.length_hops {topology : Topology} (shaped : Shaped topology) :
    2 ≤ topology.nodes.length ∧ topology.nodes.length ≤ maxTraceHops + 2 := by
  obtain ⟨hops, nodes_eq, some_hop, hopsShaped, increasing⟩ := shaped.nodes_eq
  have bounded := @length_le_of_increasing _ (maxTraceHops + 1) increasing (by
    intro hop member
    obtain ⟨node, nodeMem, rfl⟩ := List.mem_map.mp member
    exact ⟨(hopsShaped node nodeMem).hop_pos, (hopsShaped node nodeMem).hop_le⟩)
  rw [List.length_map] at bounded
  rw [nodes_eq, List.length_cons]
  exact ⟨Nat.succ_le_succ (List.length_pos_iff.mpr some_hop), by omega⟩

end CheckNetwork.Trace
