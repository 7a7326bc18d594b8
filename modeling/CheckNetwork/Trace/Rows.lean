import CheckNetwork.Trace.Shape
import Mathlib

/-!
# From rows to routes

What the parser makes of an output, row by row: it reads the rows up to the
first one with the address of the destination, and refuses the output when one
of them is out of order, too far or without a valid sample.
-/

namespace CheckNetwork.Trace

open Diagnostic Go

/-! ## Rows -/

/-- The header of an output and the lines after it. -/
def headed (library : Library) (output requestedDestination : GoString) :
    Option (Header × List GoString) :=
  match (output.trimSpace.splitAt '\n').dropWhile fun line =>
      !isHeader (library.toLower line.trimSpace) with
  | [] => none
  | line :: lines => some (readHeader library requestedDestination line, lines)

/-- A line of two fields or more, of which the first is a hop number. -/
def hopRow (line : GoString) : Option (Int × GoString) :=
  (if line.fields.length < 2 then none else line.fields.head?.bind GoString.atoi).map fun hop =>
    (hop, line)

def hopRows (lines : List GoString) : List (Int × GoString) := lines.filterMap hopRow

/-- A row is read as a node. -/
def Reads (library : Library) (header : Header) (row : Int × GoString) (node : TopologyNode) :
    Prop :=
  parseHop library header row.2 row.1 = .ok node

/-- A node has the address of the destination. -/
def Arrives (header : Header) (requestedDestination : GoString) (node : TopologyNode) : Prop :=
  node.address = header.destination ∨ node.address = requestedDestination

/-- One of the next probes of a Windows row is missing, has no unit, or has no
valid latency. -/
inductive InvalidProbe (library : Library) : Nat → List GoString → Prop
  | missing {count : Nat} : InvalidProbe library (count + 1) []
  | alone {count : Nat} {field : GoString} (sampled : field ≠ "*") :
      InvalidProbe library (count + 1) [field]
  | unit {count : Nat} {field unit : GoString} {fields : List GoString} (sampled : field ≠ "*")
      (other : isMilliseconds unit = false) :
      InvalidProbe library (count + 1) (field :: unit :: fields)
  | value {count : Nat} {field unit : GoString} {fields : List GoString} (sampled : field ≠ "*")
      (invalid : readLatency library field = none) :
      InvalidProbe library (count + 1) (field :: unit :: fields)
  | silent {count : Nat} {fields : List GoString} (later : InvalidProbe library count fields) :
      InvalidProbe library (count + 1) ("*" :: fields)
  | later {count : Nat} {field unit : GoString} {fields : List GoString} (sampled : field ≠ "*")
      (later : InvalidProbe library count fields) :
      InvalidProbe library (count + 1) (field :: unit :: fields)

/-- The samples that are read are not all valid: the three probes of a Windows
row, or the first latency of a Unix row whose first probe was answered. -/
def InvalidSample (library : Library) (header : Header) (line : GoString) : Prop :=
  if header.windows then InvalidProbe library 3 line.fields.tail
  else ∃ first second more token, line.fields = first :: second :: more ∧ second ≠ "*" ∧
    latencyToken line = some token ∧ readLatency library token = none

section Samples

variable {library : Library} {header : Header} {line : GoString} {hop : Int}

theorem not_invalidProbe {count : Nat} {fields rest : List GoString} {before after : Option F64}
    (parsed : windowsProbes library count fields before = .ok (after, rest)) :
    ¬InvalidProbe library count fields := by
  intro invalid
  induction invalid generalizing before with
  | missing => cases parsed
  | alone sampled =>
      rw [windowsProbes, if_neg sampled] at parsed
      cases parsed
  | unit sampled other =>
      rw [windowsProbes, if_neg sampled] at parsed
      dsimp only at parsed
      rw [other] at parsed
      cases parsed
  | value sampled invalid =>
      rw [windowsProbes, if_neg sampled] at parsed
      dsimp only at parsed
      unfold readLatency at invalid
      rw [invalid] at parsed
      split at parsed <;> cases parsed
  | silent _ ih =>
      rw [windowsProbes, if_pos rfl] at parsed
      exact ih parsed
  | later sampled _ ih =>
      rw [windowsProbes, if_neg sampled] at parsed
      dsimp only at parsed
      split at parsed
      · cases parsed
      · split at parsed
        · cases parsed
        · exact ih parsed

/-- A row with an invalid sample is not read. -/
theorem not_invalidSample {row : Int × GoString} {node : TopologyNode}
    (reads : Reads library header row node) : ¬InvalidSample library header row.2 := by
  unfold Reads parseHop at reads
  unfold InvalidSample
  cases windows : header.windows with
  | true =>
      rw [windows, if_pos rfl] at reads
      rw [if_pos rfl]
      unfold parseWindowsTraceHop at reads
      cases probes : windowsProbes library 3 row.2.fields.tail none with
      | error error =>
          rw [probes] at reads
          cases reads
      | ok answer => exact not_invalidProbe probes
  | false =>
      rw [windows, if_neg Bool.false_ne_true] at reads
      rw [if_neg Bool.false_ne_true]
      rintro ⟨first, second, more, token, fields_eq, answered, found, invalid⟩
      unfold parseUnixTraceHop at reads
      rw [fields_eq] at reads
      dsimp only at reads
      rw [if_neg answered, found] at reads
      dsimp only at reads
      rw [invalid] at reads
      cases reads

end Samples

/-! ## Reading rows -/

section Reading

variable {library : Library} {header : Header} {requested : GoString} {lines : List GoString}
  {previous : Int} {nodes : List TopologyNode} {reached : Bool}

/-- The rows that were read, each of them as a node: all rows, or those up to
the first one that arrives. -/
structure Taken (library : Library) (header : Header) (requested : GoString) (previous : Int)
    (rows : List (Int × GoString)) (nodes : List TopologyNode) (reached : Bool)
    (taken rest : List (Int × GoString)) : Prop where
  rows_eq : rows = taken ++ rest
  reads : List.Forall₂ (Reads library header) taken nodes
  increasing : (previous :: taken.map Prod.fst).Pairwise (· < ·)
  near : ∀ row ∈ taken, row.1 ≤ maxTraceHops
  arrived : reached = true → ∃ earlier last, nodes = earlier ++ [last] ∧
    Arrives header requested last ∧ ∀ node ∈ earlier, ¬Arrives header requested node
  astray : reached = false → rest = [] ∧ ∀ node ∈ nodes, ¬Arrives header requested node

theorem taken_parseRows
    (parsed : parseRows library header requested lines previous = .ok (nodes, reached)) :
    ∃ taken rest, Taken library header requested previous (hopRows lines) nodes reached taken
      rest := by
  induction lines generalizing previous nodes reached with
  | nil =>
      rw [parseRows] at parsed
      cases parsed
      exact ⟨[], [], rfl, .nil, List.pairwise_singleton _ _, by simp, by simp, by simp⟩
  | cons line lines ih =>
      rw [parseRows] at parsed
      dsimp only at parsed
      rw [hopRows, List.filterMap_cons, hopRow]
      cases number : (if line.fields.length < 2 then none else line.fields.head?.bind GoString.atoi)
      with
      | none =>
          rw [number] at parsed
          exact ih parsed
      | some hop =>
          rw [number] at parsed
          dsimp only [Option.map_some] at parsed ⊢
          split at parsed
          · cases parsed
          · rename_i near
            split at parsed
            · cases parsed
            · rename_i later
              cases read : parseHop library header line hop with
              | error error =>
                  rw [read] at parsed
                  cases parsed
              | ok node =>
                  rw [read] at parsed
                  change (if node.address = header.destination ∨ node.address = requested then
                    pure ([node], true) else _) = _ at parsed
                  split at parsed
                  · rename_i arrives
                    cases parsed
                    refine ⟨[(hop, line)], hopRows lines, rfl, .cons read .nil, ?_, ?_, ?_, by simp⟩
                    · simpa using not_le.mp later
                    · simpa using near
                    · exact fun _ => ⟨[], node, rfl, arrives, by simp⟩
                  · rename_i passes
                    cases more : parseRows library header requested lines hop with
                    | error error =>
                        rw [more] at parsed
                        cases parsed
                    | ok answer =>
                        obtain ⟨others, others_reached⟩ := answer
                        rw [more] at parsed
                        cases parsed
                        obtain ⟨taken, rest, known⟩ := ih more
                        refine ⟨(hop, line) :: taken, rest, ?_, .cons read known.reads, ?_, ?_, ?_, ?_⟩
                        · exact congrArg ((hop, line) :: ·) known.rows_eq
                        · rw [List.map_cons, List.pairwise_cons]
                          refine ⟨?_, known.increasing⟩
                          intro other member
                          rcases List.mem_cons.mp member with rfl | after
                          · exact not_le.mp later
                          · exact (not_le.mp later).trans
                              ((List.pairwise_cons.mp known.increasing).1 other after)
                        · rw [List.forall_mem_cons]
                          exact ⟨not_lt.mp near, known.near⟩
                        · intro arrived
                          obtain ⟨earlier, last, rfl, arrives, before⟩ := known.arrived arrived
                          refine ⟨node :: earlier, last, rfl, arrives, ?_⟩
                          rw [List.forall_mem_cons]
                          exact ⟨passes, before⟩
                        · intro astray
                          obtain ⟨rfl, none_⟩ := known.astray astray
                          refine ⟨rfl, ?_⟩
                          rw [List.forall_mem_cons]
                          exact ⟨passes, none_⟩

end Reading

/-! ## Classifying -/

section Classifying

/-- A link goes from a node to the next one and has its status. -/
def linkTo (pair : TopologyNode × TopologyNode) : GoString × GoString × TopologyStatus :=
  (pair.1.id, pair.2.id, pair.2.status)

theorem classifyLink_link (previous current : TopologyNode) :
    (classifyLink previous current).1.source = previous.id ∧
      (classifyLink previous current).1.target = (classifyLink previous current).2.id ∧
      (classifyLink previous current).1.status = (classifyLink previous current).2.status := by
  unfold classifyLink
  dsimp only
  split
  · split
    · exact ⟨rfl, rfl, rfl⟩
    · split <;> exact ⟨rfl, rfl, rfl⟩
  · exact ⟨rfl, rfl, rfl⟩

theorem links_classifyRest (previous : TopologyNode) (rest : List TopologyNode) :
    ((classifyRest previous rest).2.map fun link => (link.source, link.target, link.status)) =
      ((previous :: (classifyRest previous rest).1).zip (classifyRest previous rest).1).map
        linkTo := by
  induction rest generalizing previous with
  | nil => rfl
  | cons current rest ih =>
      obtain ⟨source, target, status⟩ := classifyLink_link previous current
      rw [classifyRest]
      dsimp only
      rw [List.map_cons, List.zip_cons_cons, List.map_cons, ih, linkTo, source, target, status]

theorem classifyRest_concat (previous : TopologyNode) (rest : List TopologyNode)
    (last : TopologyNode) : ∃ before, (classifyRest previous (rest ++ [last])).1 =
      (classifyRest previous rest).1 ++ [(classifyLink before last).2] := by
  induction rest generalizing previous with
  | nil => exact ⟨previous, rfl⟩
  | cons current rest ih =>
      obtain ⟨before, same⟩ := ih (classifyLink previous current).2
      exact ⟨before, congrArg ((classifyLink previous current).2 :: ·) same⟩

theorem status_classifyLink (previous current : TopologyNode) :
    (classifyLink previous current).2 =
      { current with status := (classifyLink previous current).2.status } := by
  rcases classifyLink_node previous current with same | ⟨-, degraded⟩
  · rw [same]
  · rw [degraded]

/-- Classification makes no failure and keeps one. -/
theorem ne_failure_classifyRest {previous : TopologyNode} {rest : List TopologyNode}
    (known : ∀ node ∈ rest, node.status ≠ .failure) :
    ∀ node ∈ (classifyRest previous rest).1, node.status ≠ .failure := by
  induction rest generalizing previous with
  | nil => exact fun _ member => by cases member
  | cons current rest ih =>
      rw [List.forall_mem_cons] at known
      rw [classifyRest, List.forall_mem_cons]
      refine ⟨?_, ih known.2⟩
      rcases classifyLink_node previous current with same | ⟨-, degraded⟩
      · rw [same]
        exact known.1
      · rw [degraded]
        exact fun impossible => by cases impossible

theorem classifyLink_failure (previous : TopologyNode) (requested : GoString) (hop : Int) :
    (classifyLink previous (failedDestination requested hop)).2 =
      failedDestination requested hop := by
  rcases classifyLink_node previous (failedDestination requested hop) with same | ⟨healthy, -⟩
  · exact same
  · cases healthy

end Classifying

/-! ## Identifiers -/

theorem hopID_inj {first second : Nat} (same : hopID first = hopID second) : first = second := by
  have texts : "hop-" ++ toString first = "hop-" ++ toString second := GoString.ofString_inj.mp same
  have digits := congrArg String.toList texts
  rw [String.toList_append, String.toList_append, List.append_cancel_left_eq,
    Nat.toString_eq_ofList_toDigits, Nat.toString_eq_ofList_toDigits, String.toList_ofList,
    String.toList_ofList] at digits
  have read := congrArg (fun digits => Nat.ofDigitChars 10 digits 0) digits
  simpa using read

/-- Hops in order have distinct identifiers. -/
theorem nodup_hopID {hops : List Int} (increasing : hops.Pairwise (· < ·))
    (nonneg : ∀ hop ∈ hops, 0 ≤ hop) : (hops.map hopID).Nodup := by
  apply List.Nodup.map_on _ (increasing.imp fun less => less.ne)
  intro first firstMem second secondMem same
  obtain ⟨first, rfl⟩ := Int.eq_ofNat_of_zero_le (nonneg first firstMem)
  obtain ⟨second, rfl⟩ := Int.eq_ofNat_of_zero_le (nonneg second secondMem)
  rw [hopID_inj same]

/-! ## Outputs -/

section Outputs

variable {library : Library} {output requested : GoString} {topology : Topology}

/-- What a successful parse has read. -/
structure Parsed (library : Library) (output requested : GoString) (topology : Topology)
    (header : Header) (lines : List GoString) (nodes : List TopologyNode)
    (taken rest : List (Int × GoString)) : Prop where
  headed_eq : headed library output requested = some (header, lines)
  parsed : parseRows library header requested lines 0 = .ok (nodes, topology.reached)
  taken : Taken library header requested 0 (hopRows lines) nodes topology.reached taken rest
  last : ∃ last, nodes.getLast? = some last ∧
    topology.nodes = localHop :: (classifyRest localHop (nodes ++
      if topology.reached then [] else [failedDestination requested (last.hop + 1)])).1 ∧
    topology.links = (classifyRest localHop (nodes ++
      if topology.reached then [] else [failedDestination requested (last.hop + 1)])).2

theorem parsed_parseTraceroute (success : parseTraceroute library output requested = .ok topology) :
    ∃ header lines nodes taken rest,
      Parsed library output requested topology header lines nodes taken rest := by
  unfold parseTraceroute at success
  split at success
  · cases success
  · dsimp only at success
    split at success
    · cases success
    · split at success
      · cases success
      · rename_i line rows found
        have headed_eq : headed library output requested =
            some (readHeader library requested line, rows) := by
          rw [headed, found]
        cases parsed : parseRows library (readHeader library requested line) requested rows 0 with
        | error error =>
            rw [parsed] at success
            cases success
        | ok answer =>
            obtain ⟨nodes, reached⟩ := answer
            rw [parsed] at success
            simp only [bind, Except.bind] at success
            cases last_eq : nodes.getLast? with
            | none =>
                rw [last_eq] at success
                cases success
            | some last =>
                rw [last_eq] at success
                cases success
                obtain ⟨taken, rest, known⟩ := taken_parseRows parsed
                exact ⟨_, rows, nodes, taken, rest, headed_eq, parsed, known, last, last_eq, rfl,
                  List.nil_append _⟩

/-- The first row with the address of the destination is read as a node. -/
structure FirstArrival (library : Library) (header : Header) (requested : GoString)
    (rows : List (Int × GoString)) (node : TopologyNode) : Prop where
  exists_row : ∃ before row after, rows = before ++ row :: after ∧ Reads library header row node ∧
    Arrives header requested node ∧ ∀ other ∈ before, ∀ node, Reads library header other node →
      ¬Arrives header requested node

/-- What holds of the topology of an output. -/
structure Follows (library : Library) (output requested : GoString) (topology : Topology) :
    Prop where
  start : topology.nodes.head? = some localHop
  increasing : (topology.nodes.map TopologyNode.hop).Pairwise (· < ·)
  few : topology.nodes.length ≤ 32
  ids_nodup : (topology.nodes.map TopologyNode.id).Nodup
  links : (topology.links.map fun link => (link.source, link.target)) =
    (topology.nodes.zip topology.nodes.tail).map fun pair => (pair.1.id, pair.2.id)
  degraded : ∀ pair ∈ topology.links.zip topology.nodes.tail,
    pair.1.status = .degraded ↔ pair.2.status = .degraded
  sampled : ∀ node ∈ topology.nodes.tail, node.status = .healthy ∨ node.status = .degraded →
    isValidTraceLatency node.latencyMS = true
  reached_iff : topology.reached = true ↔ ∃ header lines node status,
    headed library output requested = some (header, lines) ∧
      FirstArrival library header requested (hopRows lines) node ∧
      topology.nodes.getLast? = some { node with status := status }
  unreached : topology.reached = false → ∃ header lines row earlier,
    headed library output requested = some (header, lines) ∧
      (hopRows lines).getLast? = some row ∧
      topology.nodes = earlier ++ [failedDestination requested (row.1 + 1)] ∧
      ∀ node ∈ earlier, node.status ≠ .failure

namespace Parsed

variable {header : Header} {lines : List GoString} {nodes : List TopologyNode}
  {taken rest : List (Int × GoString)}

theorem reads_last (parsed : Parsed library output requested topology header lines nodes taken rest)
    {earlier : List TopologyNode} {last : TopologyNode} (nodes_eq : nodes = earlier ++ [last]) :
    ∃ before row, taken = before ++ [row] ∧ List.Forall₂ (Reads library header) before earlier ∧
      Reads library header row last := by
  have reads := parsed.taken.reads
  rw [nodes_eq] at reads
  have final := List.forall₂_drop_append taken earlier [last] reads
  have split := List.take_append_drop earlier.length taken
  generalize taken.drop earlier.length = ending at final split
  cases final with
  | cons read none_ =>
      cases none_
      exact ⟨_, _, split.symm, List.forall₂_take_append taken earlier [last] reads, read⟩

theorem rowShaped (parsed : Parsed library output requested topology header lines nodes taken rest)
    {node : TopologyNode} (member : node ∈ nodes) : RowShaped node.hop node :=
  ((rowShaped_parseRows parsed.parsed).1 node member).1

/-- A route that arrived ends with its first row with the destination. -/
theorem arrived (parsed : Parsed library output requested topology header lines nodes taken rest)
    (reached : topology.reached = true) : ∃ node status,
      FirstArrival library header requested (hopRows lines) node ∧
        topology.nodes.getLast? = some { node with status := status } := by
  obtain ⟨earlier, last, nodes_eq, arrives, passed⟩ := parsed.taken.arrived reached
  obtain ⟨before, row, taken_eq, beforeReads, reads⟩ := parsed.reads_last nodes_eq
  obtain ⟨final, -, shown, -⟩ := parsed.last
  obtain ⟨previous, classified⟩ := classifyRest_concat localHop earlier last
  rw [reached, if_pos rfl, List.append_nil, nodes_eq, classified] at shown
  refine ⟨last, (classifyLink previous last).2.status, ⟨before, row, rest, ?_, reads, arrives, ?_⟩, ?_⟩
  · rw [parsed.taken.rows_eq, taken_eq, List.append_assoc, List.singleton_append]
  · intro other member node otherReads arrives
    obtain ⟨place, lt, other_eq⟩ := List.mem_iff_getElem.mp member
    have length_eq := beforeReads.length_eq
    have read := beforeReads.get lt (length_eq ▸ lt)
    rw [List.get_eq_getElem, List.get_eq_getElem, other_eq, Reads] at read
    rw [Reads, read, Except.ok.injEq] at otherReads
    exact passed node (otherReads ▸ List.getElem_mem _) arrives
  · rw [shown, ← List.cons_append, List.getLast?_concat, ← status_classifyLink]

/-- A route that did not arrive ends with a failure behind its last row. -/
theorem astray (parsed : Parsed library output requested topology header lines nodes taken rest)
    (unreached : topology.reached = false) : ∃ row earlier,
      (hopRows lines).getLast? = some row ∧
        topology.nodes = earlier ++ [failedDestination requested (row.1 + 1)] ∧
        ∀ node ∈ earlier, node.status ≠ .failure := by
  obtain ⟨rfl, -⟩ := parsed.taken.astray unreached
  obtain ⟨last, last_eq, shown, -⟩ := parsed.last
  obtain ⟨earlier, nodes_eq⟩ := List.getLast?_eq_some_iff.mp last_eq
  obtain ⟨before, row, taken_eq, -, reads⟩ := parsed.reads_last nodes_eq
  obtain ⟨previous, classified⟩ := classifyRest_concat localHop nodes
    (failedDestination requested (last.hop + 1))
  rw [unreached, if_neg Bool.false_ne_true, classified, classifyLink_failure] at shown
  refine ⟨row, localHop :: (classifyRest localHop nodes).1, ?_, ?_, ?_⟩
  · rw [parsed.taken.rows_eq, List.append_nil, taken_eq, List.getLast?_concat]
  · rw [shown, (rowShaped_parseHop reads).hop_eq, List.cons_append]
  · rw [List.forall_mem_cons]
    refine ⟨fun impossible => (by cases impossible), ne_failure_classifyRest ?_⟩
    intro node member failed
    rcases (parsed.rowShaped member).sampled with unknown | ⟨healthy, -⟩
    · rw [unknown] at failed
      cases failed
    · rw [healthy] at failed
      cases failed

/-- Without an arrival, no row has the address of the destination. -/
theorem reached_of_firstArrival
    (parsed : Parsed library output requested topology header lines nodes taken rest)
    {node : TopologyNode} (first : FirstArrival library header requested (hopRows lines) node) :
    topology.reached = true := by
  by_contra unreached
  obtain ⟨rfl, none_⟩ := parsed.taken.astray (Bool.not_eq_true _ ▸ unreached)
  obtain ⟨before, row, after, rows_eq, reads, arrives, -⟩ := first.exists_row
  rw [parsed.taken.rows_eq, List.append_nil] at rows_eq
  have member : row ∈ taken := by
    rw [rows_eq]
    exact List.mem_append_right _ List.mem_cons_self
  obtain ⟨place, lt, row_eq⟩ := List.mem_iff_getElem.mp member
  have length_eq := parsed.taken.reads.length_eq
  have read := parsed.taken.reads.get lt (length_eq ▸ lt)
  rw [List.get_eq_getElem, List.get_eq_getElem, row_eq, Reads] at read
  rw [Reads, read, Except.ok.injEq] at reads
  exact none_ node (reads ▸ List.getElem_mem _) arrives

/-- A row up to the first arrival was read, after the rows before it. -/
theorem row_taken (parsed : Parsed library output requested topology header lines nodes taken rest)
    {before after : List (Int × GoString)} {row : Int × GoString}
    (rows_eq : hopRows lines = before ++ row :: after)
    (passed : ∀ other ∈ before, ∀ node, Reads library header other node →
      ¬Arrives header requested node) : ∃ more, taken = before ++ row :: more := by
  have split := parsed.taken.rows_eq.symm.trans rows_eq
  have short : ¬∃ others, before = taken ++ others := by
    rintro ⟨others, before_eq⟩
    cases reached : topology.reached with
    | false =>
        obtain ⟨rfl, -⟩ := parsed.taken.astray reached
        rw [before_eq, List.append_nil, List.append_assoc, List.self_eq_append_right] at split
        simp at split
    | true =>
        obtain ⟨earlier, last, nodes_eq, arrives, -⟩ := parsed.taken.arrived reached
        obtain ⟨first, final, taken_eq, -, reads⟩ := parsed.reads_last nodes_eq
        have member : final ∈ before := by
          rw [before_eq, taken_eq]
          simp
        exact passed final member last reads arrives
  rcases List.append_eq_append_iff.mp split with ⟨others, before_eq, -⟩ | ⟨others, taken_eq, more⟩
  · exact absurd ⟨others, before_eq⟩ short
  · cases others with
    | nil => exact absurd ⟨[], by rw [taken_eq, List.append_nil, List.append_nil]⟩ short
    | cons first others =>
        rw [List.cons_append, List.cons.injEq] at more
        exact ⟨others, by rw [taken_eq, more.1]⟩

end Parsed

theorem follows_parseTraceroute
    (success : parseTraceroute library output requested = .ok topology) :
    Follows library output requested topology := by
  have shaped := shaped_parseTraceroute success
  obtain ⟨header, lines, nodes, taken, rest, parsed⟩ := parsed_parseTraceroute success
  obtain ⟨hops, nodes_eq, -, hopsShaped, increasing⟩ := shaped.nodes_eq
  have all_increasing : (topology.nodes.map TopologyNode.hop).Pairwise (· < ·) := by
    rw [nodes_eq, List.map_cons, List.pairwise_cons]
    refine ⟨?_, increasing⟩
    intro hop member
    obtain ⟨node, nodeMem, rfl⟩ := List.mem_map.mp member
    exact (hopsShaped node nodeMem).hop_pos
  have ids : topology.nodes.map TopologyNode.id = (topology.nodes.map TopologyNode.hop).map hopID := by
    rw [List.map_map, nodes_eq, List.map_cons, List.map_cons]
    exact congrArg₂ List.cons rfl (List.map_congr_left fun node member => (hopsShaped node member).id_eq)
  have links : (topology.links.map fun link => (link.source, link.target, link.status)) =
      (topology.nodes.zip topology.nodes.tail).map linkTo := by
    obtain ⟨last, -, shown, linked⟩ := parsed.last
    rw [linked, shown]
    exact links_classifyRest _ _
  refine ⟨?_, all_increasing, (shaped.length_hops).2, ?_, ?_, ?_, ?_, ?_, ?_⟩
  · rw [nodes_eq]
    rfl
  · rw [ids]
    apply nodup_hopID all_increasing
    intro hop member
    obtain ⟨node, nodeMem, rfl⟩ := List.mem_map.mp member
    rw [nodes_eq] at nodeMem
    rcases List.mem_cons.mp nodeMem with rfl | later
    · exact le_rfl
    · exact (hopsShaped node later).hop_pos.le
  · have ends := congrArg (List.map fun link => (link.1, link.2.1)) links
    rw [List.map_map, List.map_map] at ends
    exact ends
  · have length_eq := congrArg List.length links
    rw [List.length_map, List.length_map] at length_eq
    intro pair member
    obtain ⟨place, lt, pair_eq⟩ := List.mem_iff_getElem.mp member
    have there := congrArg (fun entries => entries[place]?.map fun link => link.2.2) links
    rw [List.length_zip] at lt
    have linkLt : place < topology.links.length := lt.trans_le (min_le_left _ _)
    have tailLt : place < topology.nodes.tail.length := lt.trans_le (min_le_right _ _)
    have pairLt : place < (topology.nodes.zip topology.nodes.tail).length := length_eq ▸ linkLt
    rw [List.getElem_zip] at pair_eq
    simp only [List.getElem?_map, List.getElem?_eq_getElem linkLt, List.getElem?_eq_getElem pairLt,
      Option.map_some, Option.some.injEq, List.getElem_zip, linkTo] at there
    rw [← pair_eq, there]
  · intro node member
    rw [nodes_eq, List.tail_cons] at member
    exact (hopsShaped node member).sample_valid
  · constructor
    · intro reached
      obtain ⟨node, status, first, last⟩ := parsed.arrived reached
      exact ⟨header, lines, node, status, parsed.headed_eq, first, last⟩
    · rintro ⟨other, others, node, status, headed_eq, first, -⟩
      rw [parsed.headed_eq, Option.some.injEq, Prod.mk.injEq] at headed_eq
      obtain ⟨rfl, rfl⟩ := headed_eq
      exact parsed.reached_of_firstArrival first
  · intro unreached
    obtain ⟨row, earlier, last, shown, sound⟩ := parsed.astray unreached
    exact ⟨header, lines, row, earlier, parsed.headed_eq, last, shown, sound⟩

/-- A row is not read after the rows before it: it repeats or lowers their hop
number, is too far, or has an invalid sample. -/
def Refused (library : Library) (header : Header) (before : List (Int × GoString))
    (row : Int × GoString) : Prop :=
  row.1 ≤ (before.getLast?.map Prod.fst).getD 0 ∨ (maxTraceHops : Int) < row.1 ∨
    InvalidSample library header row.2

theorem not_refused {header : Header} {lines : List GoString} {nodes : List TopologyNode}
    {taken rest : List (Int × GoString)}
    (parsed : Parsed library output requested topology header lines nodes taken rest)
    {before after : List (Int × GoString)} {row : Int × GoString}
    (rows_eq : hopRows lines = before ++ row :: after)
    (passed : ∀ other ∈ before, ∀ node, Reads library header other node →
      ¬Arrives header requested node) : ¬Refused library header before row := by
  obtain ⟨more, rfl⟩ := parsed.row_taken rows_eq passed
  rintro (low | far | invalid)
  · have increasing := parsed.taken.increasing
    rw [List.map_append, List.map_cons, ← List.cons_append, List.pairwise_append] at increasing
    have above := increasing.2.2
    cases last : before.getLast? with
    | none =>
        rw [last] at low
        have less := above 0 List.mem_cons_self row.1 List.mem_cons_self
        exact absurd low (not_le.mpr less)
    | some final =>
        rw [last] at low
        have less := above final.1
          (List.mem_cons_of_mem _ (List.mem_map_of_mem (List.mem_of_getLast? last))) row.1
          List.mem_cons_self
        exact absurd low (not_le.mpr less)
  · exact absurd far (not_lt.mpr (parsed.taken.near row (by simp)))
  · obtain ⟨node, -, reads⟩ : ∃ node, node ∈ nodes ∧ Reads library header row node := by
      obtain ⟨place, lt, row_eq⟩ := List.mem_iff_getElem.mp
        (show row ∈ before ++ row :: more from List.mem_append_right _ List.mem_cons_self)
      have read := parsed.taken.reads.get lt (parsed.taken.reads.length_eq ▸ lt)
      rw [List.get_eq_getElem, List.get_eq_getElem, row_eq] at read
      exact ⟨_, List.getElem_mem _, read⟩
    exact not_invalidSample reads invalid

end Outputs

/-- What a parse gives.  A topology follows the rows of its output; and without
a header, without a row, or with a row up to the first arrival that is refused,
there is an error and no topology. -/
theorem parseTraceroute_follows (library : Library) (output requested : GoString) :
    (∀ topology, parseTraceroute library output requested = .ok topology →
      Follows library output requested topology) ∧
    (headed library output requested = none →
      ∃ error, parseTraceroute library output requested = .error error) ∧
    ∀ header lines, headed library output requested = some (header, lines) →
      (hopRows lines = [] → ∃ error, parseTraceroute library output requested = .error error) ∧
      ∀ before row after, hopRows lines = before ++ row :: after →
        (∀ other ∈ before, ∀ node, Reads library header other node →
          ¬Arrives header requested node) →
        Refused library header before row →
          ∃ error, parseTraceroute library output requested = .error error := by
  cases outcome : parseTraceroute library output requested with
  | error error =>
      exact ⟨fun _ impossible => (by cases impossible), fun _ => ⟨error, rfl⟩, fun _ _ _ =>
        ⟨fun _ => ⟨error, rfl⟩, fun _ _ _ _ _ _ => ⟨error, rfl⟩⟩⟩
  | ok topology =>
      obtain ⟨header, lines, nodes, taken, rest, parsed⟩ := parsed_parseTraceroute outcome
      refine ⟨?_, ?_, ?_⟩
      · intro other same
        cases same
        exact follows_parseTraceroute outcome
      · intro none_
        rw [parsed.headed_eq] at none_
        cases none_
      · intro otherHeader otherLines headed_eq
        rw [parsed.headed_eq, Option.some.injEq, Prod.mk.injEq] at headed_eq
        obtain ⟨rfl, rfl⟩ := headed_eq
        constructor
        · intro none_
          exfalso
          obtain ⟨last, last_eq, -⟩ := parsed.last
          obtain ⟨earlier, nodes_eq⟩ := List.getLast?_eq_some_iff.mp last_eq
          obtain ⟨before, row, taken_eq, -⟩ := parsed.reads_last nodes_eq
          have rows_eq := parsed.taken.rows_eq
          rw [none_, taken_eq] at rows_eq
          simp at rows_eq
        · intro before row after rows_eq passed refused
          exact absurd refused (not_refused parsed rows_eq passed)

/-- Some number of milliseconds in a row is not a valid latency. -/
def CarriesInvalidLatency (library : Library) (line : GoString) : Prop :=
  ∃ before value unit after, line.fields = before ++ value :: unit :: after ∧
    isMilliseconds unit = true ∧ readLatency library value = none

theorem decimals_local : (if GoString.ofString "local" = "10.0.0.1" then
    some (GoString.ofString "local") else none) = none := by
  decide

/-- A library for decimal numbers and one address. -/
def decimals : Library where
  parseIP text := if text = "10.0.0.1" then some text else none
  parseFloat text := (GoString.decimal? text).map fun value => .finite value
  toLower text := text
  quote text := text
  parseIP_local := decimals_local

def twoProbesRow : GoString := "1 10.0.0.1 1 ms 90000 ms"

def twoProbes : GoString :=
  GoString.ofString "traceroute to a (10.0.0.1)" ++ .scalar '\n' :: twoProbesRow

def twoProbesHeader : Header := ⟨false, "10.0.0.1"⟩

/-- A Unix row is read for its first sample, whatever the others are. -/
theorem second_sample_unread :
    ¬∀ header lines before row after,
      headed decimals twoProbes "10.0.0.1" = some (header, lines) →
      hopRows lines = before ++ row :: after →
      (∀ other ∈ before, ∀ node, Reads decimals header other node →
        ¬Arrives header "10.0.0.1" node) →
      CarriesInvalidLatency decimals row.2 →
        ∃ error, parseTraceroute decimals twoProbes "10.0.0.1" = .error error := by
  intro all
  have evaluated : headed decimals twoProbes "10.0.0.1" = some (twoProbesHeader, [twoProbesRow]) ∧
      hopRows [twoProbesRow] = [(1, twoProbesRow)] ∧
      (parseTraceroute decimals twoProbes "10.0.0.1").toOption.isSome = true := by
    decide +kernel
  obtain ⟨headed_eq, rows_eq, success⟩ := evaluated
  have carries : CarriesInvalidLatency decimals twoProbesRow :=
    ⟨["1", "10.0.0.1", "1", "ms"], "90000", "ms", [], by decide, by decide, by decide⟩
  obtain ⟨error, failed⟩ := all _ _ [] _ [] headed_eq rows_eq (fun _ member => (by cases member))
    carries
  rw [failed] at success
  cases success

end CheckNetwork.Trace
