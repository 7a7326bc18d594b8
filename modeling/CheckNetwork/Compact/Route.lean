import CheckNetwork.Compact.Model
import Mathlib.Data.List.Destutter
import Mathlib.Data.List.Sort

/-!
# Raw routes

The eligible attempts of a report, each as the sequence of its canonical
nodes: attempts and nodes in their stable numeric order, and adjacent nodes
with the same canonical key observed as one.
-/

namespace CheckNetwork.Compact

open Diagnostic Go

/-- The three results of `compactCanonicalNode`. -/
structure Canonical where
  key : GoString
  kind : NodeKind
  address : GoString
  deriving DecidableEq

/-- `compactNodeObservation`. -/
structure Observation where
  canonical : Canonical
  raw : List TopologyNode
  deriving DecidableEq

/-- `compactEdgeKey`. -/
structure EdgeKey where
  source : GoString
  target : GoString
  deriving DecidableEq

/-- `compactRawRoute` without its progress, which is kept apart. -/
structure RawRoute where
  resultIndex : Nat
  attempt : Int
  occurrence : Nat
  status : Status
  reached : Bool
  nodes : List Observation
  edges : List EdgeKey
  edgeStatuses : List TopologyStatus
  deriving DecidableEq

def trimSuffixDot (text : GoString) : GoString :=
  if text.getLast? = some (.scalar '.') then text.dropLast else text

def canonicalNode (library : Library) (node : TopologyNode) (resultIndex : Nat) (attempt : Int)
    (occurrence nodeIndex : Nat) : Canonical :=
  if nodeIndex = 0 ∧ node.hop = 0 then
    ⟨("local" : String), .localNode, ("local" : String)⟩
  else
    let address := node.address.trimSpace
    if address = [] then
      ⟨s!"unknown:{resultIndex}:{attempt}:{occurrence}:{node.hop}", .unknown, []⟩
    else
      match library.canonicalIP address with
      | some canonical => ⟨GoString.ofString "ip:" ++ canonical, .ip, canonical⟩
      | none =>
          let hostname := library.toLower (trimSuffixDot address)
          ⟨GoString.ofString "host:" ++ hostname, .hostname, hostname⟩

def normalizedTopologyStatus : TopologyStatus → TopologyStatus
  | .healthy => .healthy
  | .degraded => .degraded
  | .unknown => .unknown
  | .failure => .failure
  | .unreachable => .failure
  | .other _ => .unknown

/-- One observation for each run of adjacent nodes with the same key. -/
def collapse : List (Canonical × TopologyNode) → List Observation
  | [] => []
  | (canonical, node) :: rest =>
      match collapse rest with
      | observation :: more =>
          if observation.canonical.key = canonical.key then
            ⟨canonical, node :: observation.raw⟩ :: more
          else ⟨canonical, [node]⟩ :: observation :: more
      | [] => [⟨canonical, [node]⟩]

/-- Consecutive keys. -/
def edgesOf : List Observation → List EdgeKey
  | first :: second :: rest =>
      ⟨first.canonical.key, second.canonical.key⟩ :: edgesOf (second :: rest)
  | _ => []

/-- The status of an edge is that of the first link between the last raw node
of its source and the first raw node of its target. -/
def edgeStatus (links : List TopologyLink) (source target : Observation) : TopologyStatus :=
  match source.raw.getLast?, target.raw.head? with
  | some last, some first =>
      match links.find? fun link => link.source = last.id && link.target = first.id with
      | some link => normalizedTopologyStatus link.status
      | none => normalizedTopologyStatus first.status
  | _, _ => .unknown

def edgeStatusesOf (links : List TopologyLink) : List Observation → List TopologyStatus
  | first :: second :: rest =>
      edgeStatus links first second :: edgeStatusesOf links (second :: rest)
  | _ => []

/-- `compactTraceAttempts` on `result.Details["attempts"]`. -/
def traceAttempts (library : Library) : Option Detail → Option (List TraceAttempt)
  | none | some (.reflected .nilInterface) => none
  | some (.attempts attempts) => some attempts
  | some other => library.convertAttempts other

/-- Where a route comes from: an eligible attempt at its place in a result. -/
structure Source where
  resultIndex : Nat
  occurrence : Nat
  attempt : TraceAttempt
  topology : Topology

namespace Source

variable (library : Library) (source : Source)

def sortedNodes : List TopologyNode :=
  source.topology.nodes.insertionSort (fun left right => left.hop ≤ right.hop)

def canonicalNodes : List (Canonical × TopologyNode) :=
  source.sortedNodes.zipIdx.map fun (node, nodeIndex) =>
    (canonicalNode library node source.resultIndex source.attempt.attempt source.occurrence
      nodeIndex, node)

def rawRoute : RawRoute :=
  let nodes := collapse (source.canonicalNodes library)
  { resultIndex := source.resultIndex
    attempt := source.attempt.attempt
    occurrence := source.occurrence
    status := source.attempt.status
    reached := source.topology.reached
    nodes := nodes
    edges := edgesOf nodes
    edgeStatuses := edgeStatusesOf source.topology.links nodes }

end Source

/-- The eligible attempts of one result. -/
def resultSources (library : Library) (result : Result) (resultIndex : Nat) : List Source :=
  if result.kind = .traceroute ∧ result.details.isSome then
    match traceAttempts library (result.detail? "attempts") with
    | none => []
    | some attempts =>
        let sorted := attempts.insertionSort (fun left right => left.attempt ≤ right.attempt)
        sorted.zipIdx.filterMap fun (attempt, occurrence) =>
          if traceAttemptEligible attempt then
            attempt.topology.map fun topology => ⟨resultIndex, occurrence, attempt, topology⟩
          else none
  else []

/-- The eligible attempts of a report. -/
def sources (library : Library) (results : List Result) : List Source :=
  results.zipIdx.flatMap fun (result, resultIndex) => resultSources library result resultIndex

/-- `compactRoutes`. -/
def compactRoutes (library : Library) (results : List Result) : List RawRoute :=
  (sources library results).map (Source.rawRoute library)

/-! ## The canonical sequence of an attempt -/

/-- The keys of the nodes of an attempt, adjacent duplicates removed. -/
def Source.canonicalKeys (library : Library) (source : Source) : List GoString :=
  ((source.canonicalNodes library).map fun entry => entry.1.key).destutter (· ≠ ·)

def RawRoute.keys (route : RawRoute) : List GoString :=
  route.nodes.map fun observation => observation.canonical.key

theorem keys_collapse (entries : List (Canonical × TopologyNode)) :
    (collapse entries).map (fun observation => observation.canonical.key) =
      (entries.map fun entry => entry.1.key).destutter (· ≠ ·) := by
  have from_head : ∀ (canonical : Canonical) (node : TopologyNode)
      (rest : List (Canonical × TopologyNode)),
      (collapse ((canonical, node) :: rest)).map (fun observation => observation.canonical.key) =
        (rest.map fun entry => entry.1.key).destutter' (· ≠ ·) canonical.key := by
    intro canonical node rest
    induction rest generalizing canonical node with
    | nil => rfl
    | cons entry rest ih =>
        obtain ⟨next, nextNode⟩ := entry
        have known := ih next nextNode
        rw [collapse]
        cases collapsed : collapse ((next, nextNode) :: rest) with
        | nil =>
            rw [collapsed] at known
            exact absurd known.symm (List.destutter'_ne_nil _ _)
        | cons observation more =>
            have head_eq : observation.canonical.key = next.key := by
              rw [collapse] at collapsed
              split at collapsed
              · split at collapsed
                · cases collapsed
                  rfl
                · cases collapsed
                  rfl
              · cases collapsed
                rfl
            rw [collapsed] at known
            by_cases same : observation.canonical.key = canonical.key
            · simp only [same, if_true, List.map_cons]
              rw [List.destutter'_cons_neg _ (by simp [← head_eq, same])]
              rw [← head_eq, same] at known
              rw [← known, List.map_cons, same]
            · simp only [same, if_false, List.map_cons]
              rw [List.destutter'_cons_pos _ (by rw [← head_eq]; exact Ne.symm same)]
              rw [← known, List.map_cons]
  cases entries with
  | nil => rfl
  | cons entry rest =>
      rw [List.map_cons, List.destutter_cons']
      exact from_head entry.1 entry.2 rest

theorem Source.keys_rawRoute (library : Library) (source : Source) :
    (source.rawRoute library).keys = source.canonicalKeys library :=
  keys_collapse _

end CheckNetwork.Compact
