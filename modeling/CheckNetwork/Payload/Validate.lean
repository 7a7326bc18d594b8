import CheckNetwork.Payload.Graph
import Mathlib

/-!
# The response validator

The walk that admits a value to the closed transport domain before anything is
encoded.  It is written over the guard that it puts around the parts of a
reference, so that it can be compared with the walk that has none.
-/

namespace CheckNetwork.Payload

open Go Diagnostic

def maxFullResponseBytes : Nat := 8388608
def maxFullResponseDepth : Nat := 64
def maxFullResponseContainers : Nat := 32768
def maxFullResponseNodes : Nat := 262144
def maxFullResponseStringBytes : Nat := 1000000
def maxFullResponseTopologyNodes : Nat := 8192
def maxFullResponseTopologyLinks : Nat := 16384
def maxFullResponseContainerElements : Nat := 32768

/-- The errors of the full response. -/
inductive Failure
  | tooLarge
  | unsupported
  | cycle
  | depthLimit
  | containerLimit
  | nodeLimit
  | stringLimit
  | nonFinite
  | serialization
  deriving DecidableEq, Repr

/-- `isFullResponseBudgetError`. -/
def Failure.isBudget : Failure → Bool
  | tooLarge | stringLimit | containerLimit | nodeLimit | depthLimit | cycle => true
  | unsupported | nonFinite | serialization => false

/-- `fullResponseValidator`. -/
structure Meter where
  active : List Reference
  stringKeys : List GoString
  containers : Nat
  nodes : Nat
  stringBytes : Nat
  topologyNodes : Nat
  topologyLinks : Nat
  deriving DecidableEq, Repr

def Meter.fresh : Meter := ⟨[], [], 0, 0, 0, 0, 0⟩

/-! ## Checks -/

/-- A check that may fail and moves the meter either way. -/
abbrev Check := Meter → Option Failure × Meter

namespace Check

def pass : Check := fun meter => (none, meter)

def fail (failure : Failure) : Check := fun meter => (some failure, meter)

def andThen (first second : Check) : Check := fun meter =>
  match first meter with
  | (none, meter) => second meter
  | (some failure, meter) => (some failure, meter)

def all : List Check → Check
  | [] => pass
  | first :: rest => first.andThen (all rest)

end Check

open Check

def addNode : Check := fun meter =>
  let meter := { meter with nodes := meter.nodes + 1 }
  if maxFullResponseNodes < meter.nodes then (some .nodeLimit, meter) else (none, meter)

def addContainer (elements : Nat) : Check := fun meter =>
  if maxFullResponseContainerElements < elements then (some .containerLimit, meter)
  else
    let meter := { meter with containers := meter.containers + 1 }
    if maxFullResponseContainers < meter.containers then (some .containerLimit, meter)
    else (none, meter)

def addString (length : Nat) : Check := fun meter =>
  if maxFullResponseStringBytes < length ∨ maxFullResponseStringBytes - length < meter.stringBytes
  then (some .stringLimit, meter)
  else (none, { meter with stringBytes := meter.stringBytes + length })

/-- A key counts where it comes first. -/
def addStringKey (key : GoString) : Check := fun meter =>
  if key ∈ meter.stringKeys then (none, meter)
  else
    match addString key.byteLength meter with
    | (none, meter) => (none, { meter with stringKeys := key :: meter.stringKeys })
    | (some failure, meter) => (some failure, meter)

def addTopologyNode (type : GoType) : Check := fun meter =>
  if type.name = "TopologyNode" ∨ type.name = "CompactTopologyNode" then
    let meter := { meter with topologyNodes := meter.topologyNodes + 1 }
    if maxFullResponseTopologyNodes < meter.topologyNodes then (some .nodeLimit, meter)
    else (none, meter)
  else (none, meter)

def addTopologyLink (type : GoType) : Check := fun meter =>
  if type.name = "TopologyLink" ∨ type.name = "CompactTopologyLink" then
    let meter := { meter with topologyLinks := meter.topologyLinks + 1 }
    if maxFullResponseTopologyLinks < meter.topologyLinks then (some .nodeLimit, meter)
    else (none, meter)
  else (none, meter)

def withActive (reference : Reference) (visit : Check) : Check := fun meter =>
  if reference ∈ meter.active then (some .cycle, meter)
  else
    let (failure, meter) := visit { meter with active := reference :: meter.active }
    (failure, { meter with active := meter.active.erase reference })

/-! ## Types -/

/-- A struct that details may hold. -/
def dynamicStructNames : List String :=
  ["TraceAttempt", "Topology", "TopologyNode", "TopologyLink", "GeoLocation", "ASNInfo",
    "IPMetadata"]

def staticStructNames : List String :=
  ["Result", "Summary", "Analysis", "Finding", "Evidence", "Action", "CoverageIssue", "Coverage",
    "TraceAttempt", "Topology", "TopologyNode", "TopologyLink", "GeoLocation", "ASNInfo",
    "IPMetadata", "CompactTopology", "CompactTopologyLimits", "CompactTopologyNode",
    "CompactTopologyLink", "CompactTopologyRoute", "CompactCountStats", "CompactRouteStats",
    "CompactTopologyStats", "CompactResultStats", "CompactGeoStats", "GeoDetailsSidecar",
    "GeoDetailsEntry"]

def allowedStruct (type : GoType) (dynamic : Bool) : Bool :=
  if type = structType "Report" then !dynamic
  else if type = structType "EnrichmentCoverage" ∨ type = structType "EnrichmentFailure" then true
  else if type.package ≠ diagnosticPackage then false
  else if dynamic then type.name ∈ dynamicStructNames
  else type.name ∈ staticStructNames

def allowedPointerTarget (target : GoType) (dynamic : Bool) : Bool :=
  if target = GoType.time ∨ allowedStruct target dynamic then true
  else if dynamic then false
  else
    match target.kind with
    | .bool | .int | .uint | .uint8 | .float | .string => true
    | _ => false

def dynamicDetailsField (owner : GoType) (field : StructField) : Bool :=
  owner.name == "Result" && owner.package == diagnosticPackage && field.name == "Details"

/-! ## The walk -/

/-- What the walk asks of the parts of a value that is no interface; `visit`
is the walk one level deeper. -/
def contents (guard : Reference → Check → Check) (heap : Heap) (visit : Bool → Value → Check)
    (dynamic : Bool) : Value → Check
  | .bool .. | .int .. | .uint .. | .time _ | .nilPointer .. | .nilMap ..
  | .nilSlice .. => pass
  | .float _ _ value => if value.isNaN || value.isInf then fail .nonFinite else pass
  | .string _ text => addString text.byteLength
  | .pointer _ elem spelling address =>
      if allowedPointerTarget elem dynamic then
        guard ⟨.pointer, spelling, address, 0⟩ (visit dynamic (heap.target spelling address))
      else fail .unsupported
  | .struct type fields =>
      if allowedStruct type dynamic then
        (addTopologyNode type).andThen <| (addTopologyLink type).andThen <|
          (addContainer fields.length).andThen <| all <| (members heap fields).map fun member =>
            visit (dynamicDetailsField type member.field) member.value
      else fail .unsupported
  | .map _ key spelling address =>
      let entries := heap.entries spelling address
      if key.kind ≠ .string then fail .unsupported
      else if maxFullResponseContainerElements < entries.length then fail .containerLimit
      else if key.marshaler then fail .unsupported
      else
        (addContainer entries.length).andThen <| guard ⟨.map, spelling, address, 0⟩ <| all <|
          entries.map fun (name, value) => (addStringKey name).andThen (visit dynamic value)
  | .slice _ element spelling address length =>
      if maxFullResponseContainerElements < length then fail .containerLimit
      else
        (addContainer length).andThen <|
          if length = 0 then pass
          else guard ⟨.slice, spelling, address, length⟩ <| all <|
            (List.range length).map fun place =>
              visit dynamic (heap.index element spelling address place)
  | .array _ elements =>
      if maxFullResponseContainerElements < elements.length then fail .containerLimit
      else (addContainer elements.length).andThen (all (elements.map (visit dynamic)))
  | .nilInterface | .interface _ | .other _ => fail .unsupported

/-- `validate`, under a guard. -/
def walk (guard : Reference → Check → Check) (heap : Heap) (value : Value) (depth : Nat)
    (dynamic : Bool) : Check :=
  if value.elem.isNilInterface then addNode
  else
    addNode.andThen <|
      if maxFullResponseDepth < depth then fail .depthLimit
      else if value.elem.type ≠ GoType.time ∧ value.elem.type.marshaler then fail .unsupported
      else contents guard heap (fun dynamic child => walk guard heap child (depth + 1) dynamic)
        dynamic value.elem
termination_by maxFullResponseDepth + 1 - depth

/-- The validator, from the root of a graph. -/
def validate (heap : Heap) (root : Value) : Check := walk withActive heap root 0 false

/-- The walk that does not know where it is. -/
def survey (heap : Heap) (root : Value) : Check := walk (fun _ visit => visit) heap root 0 false

end CheckNetwork.Payload
