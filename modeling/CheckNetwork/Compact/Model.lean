import CheckNetwork.Diagnostic.Model

/-!
# Compact topologies

The transport form of the routes of a report: nodes shared between routes,
links between them, the displayed prefix of each route, and the counts of what
was left out.
-/

namespace CheckNetwork.Compact

open Diagnostic Go

def schemaV1 : String := "compact-v1"

def selectionV1 : String := "fair-complete-prefix-v1"

def maxNodes : Nat := 500

def maxLinks : Nat := 1000

def maxResponseBytes : Nat := 1048576

def maxGeoBundleBytes : Nat := 4096

def maxGeoStringBytes : Nat := maxGeoBundleBytes

inductive NodeKind
  | localNode | ip | hostname | unknown
  deriving DecidableEq, Repr

def NodeKind.text : NodeKind → String
  | localNode => "local"
  | ip => "ip"
  | hostname => "hostname"
  | unknown => "unknown"

inductive TruncationReason
  | nodeLimit | linkLimit | geoLimit | responseSize
  deriving DecidableEq, Repr

structure Limits where
  nodes : Nat
  links : Nat
  maxResponseBytesExclusive : Nat
  maxGeoBundleBytes : Nat
  deriving DecidableEq, Repr

structure Node where
  id : String
  kind : NodeKind
  address : GoString
  status : TopologyStatus
  hopMin : Int
  hopMax : Int
  latencyMSAvg : Option F64
  observations : Nat
  publicIP : Bool
  geolocation : Option GeoLocation
  asn : Option ASNInfo
  deriving DecidableEq

structure Link where
  source : String
  target : String
  status : TopologyStatus
  observations : Nat
  deriving DecidableEq, Repr

structure Route where
  resultIndex : Nat
  attempt : Int
  status : Status
  reached : Bool
  complete : Bool
  nodeIDs : List String
  deriving DecidableEq, Repr

structure CountStats where
  total : Int
  displayed : Int
  omitted : Int
  deriving DecidableEq, Repr

structure RouteStats where
  total : Int
  displayed : Int
  complete : Int
  partialCount : Int
  omitted : Int
  deriving DecidableEq, Repr

structure Stats where
  nodes : CountStats
  links : CountStats
  routes : RouteStats
  nodeObservations : CountStats
  linkObservations : CountStats
  deriving DecidableEq, Repr

structure ResultStats where
  resultIndex : Nat
  routes : RouteStats
  nodeObservations : CountStats
  linkObservations : CountStats
  deriving DecidableEq, Repr

structure GeoStats where
  eligible : Int
  available : Int
  included : Int
  omitted : Int
  unavailable : Int
  deriving DecidableEq, Repr

structure CompactTopology where
  schema : String
  selection : String
  limits : Limits
  nodes : List Node
  links : List Link
  routes : List Route
  stats : Stats
  resultStats : List ResultStats
  geo : GeoStats
  truncated : Bool
  truncationReasons : List TruncationReason
  deriving DecidableEq

structure BuildOptions where
  maxNodes : Int
  maxLinks : Int
  maxAcceptedTransactions : Int
  includeGeo : Bool
  deriving DecidableEq, Repr

structure BuildResult where
  topology : CompactTopology
  acceptedTransactions : Nat

/-- What a build takes from the standard library: the canonical text of an
address that `netip.ParseAddr` accepts, after `Unmap`; `strings.ToLower`; the
conversion of a value of another type through JSON; and the length of
`json.Marshal` of a node, absent when that fails. -/
structure Library where
  canonicalIP : GoString → Option GoString
  toLower : GoString → GoString
  convertAttempts : Detail → Option (List TraceAttempt)
  nodeBytes : Node → Option Nat

end CheckNetwork.Compact
