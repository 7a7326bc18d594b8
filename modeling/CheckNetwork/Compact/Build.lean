import CheckNetwork.Collection.Accumulate
import CheckNetwork.Compact.Selection
import Mathlib

/-!
# Building the compact topology

`buildCompactTopology` after its selection loop: the displayed prefixes are
aggregated by node and by link, numbered in the order of selection, and
counted against everything the report holds.
-/

namespace CheckNetwork.Compact

open Collection Diagnostic Go

/-! ## Displayed prefixes -/

/-- An entry of `displayedRoutes`. -/
structure Displayed where
  route : RawRoute
  accepted : Nat
  nodeCount : Nat
  deriving DecidableEq

namespace Displayed

variable (displayed : Displayed)

def complete : Bool := displayed.accepted = displayed.route.edges.length

def observations : List Observation := displayed.route.nodes.take displayed.nodeCount

/-- The links of the prefix with their status. -/
def links : List (EdgeKey × TopologyStatus) :=
  (displayed.route.edges.zip displayed.route.edgeStatuses).take displayed.accepted

end Displayed

/-- How many nodes of a route are displayed. -/
def displayedNodeCount (order : List GoString) (route : RawRoute) (accepted : Nat) : Nat :=
  if 0 < accepted then accepted + 1
  else if accepted = route.edges.length ∧ route.nodes.length = 1 then
    match route.nodes.head? with
    | some observation => if observation.canonical.key ∈ order then 1 else 0
    | none => 0
  else 0

def displayedRoute (state : Selection) (route : RawRoute) (routeIndex : Nat) : Option Displayed :=
  let accepted := (state.progress routeIndex).accepted
  let nodeCount := displayedNodeCount state.order route accepted
  if nodeCount = 0 then none else some ⟨route, accepted, nodeCount⟩

def displayedRoutes (routes : List RawRoute) (state : Selection) : List Displayed :=
  routes.zipIdx.filterMap fun (route, routeIndex) => displayedRoute state route routeIndex

theorem displayedRoutes_eq (routes : List RawRoute) (state : Selection) :
    displayedRoutes routes state =
      routes.zipIdx.filterMap fun entry => displayedRoute state entry.1 entry.2 :=
  rfl

def nonSelfEdgeCount (edges : List EdgeKey) (count : Nat) : Nat :=
  ((edges.take count).filter fun edge => edge.source ≠ edge.target).length

/-! ## Aggregates -/

def statusRank : TopologyStatus → Nat
  | .healthy => 0
  | .degraded => 1
  | .unknown => 2
  | .failure | .unreachable => 3
  | .other _ => 2

def worstStatus (left right : TopologyStatus) : TopologyStatus :=
  if statusRank left < statusRank right then right
  else if left = .other "" then right
  else left

def canonicalASNInfo : Option ASNInfo → Option ASNInfo
  | none => none
  | some asn => if asn.number = 0 ∧ asn.organization = [] then none else some asn

/-- `compactNodeAggregate`. -/
structure NodeAggregate where
  kind : NodeKind
  address : GoString
  status : TopologyStatus
  hopMin : Int
  hopMax : Int
  observations : Nat
  latencyTotal : F64
  latencyCount : Nat
  publicIP : Bool
  geolocation : Option GeoLocation
  asn : Option ASNInfo
  deriving DecidableEq

namespace NodeAggregate

def start (canonical : Canonical) (raw : TopologyNode) : NodeAggregate where
  kind := canonical.kind
  address := canonical.address
  status := normalizedTopologyStatus raw.status
  hopMin := raw.hop
  hopMax := raw.hop
  observations := 0
  latencyTotal := .finite 0
  latencyCount := 0
  publicIP := false
  geolocation := none
  asn := none

/-- Unknown hops and synthetic destinations carry no sample; a responsive zero
does. -/
def sampled (raw : TopologyNode) : Bool :=
  0 < raw.hop && (raw.status = .healthy || raw.status = .degraded) &&
    (F64.finite 0).le raw.latencyMS && !raw.latencyMS.isNaN && !raw.latencyMS.isInf

def add (aggregate : NodeAggregate) (raw : TopologyNode) : NodeAggregate :=
  let asn := canonicalASNInfo raw.asn
  let taken := aggregate.geolocation.isNone && aggregate.asn.isNone &&
    (raw.geolocation.isSome || asn.isSome)
  { aggregate with
    status := worstStatus aggregate.status (normalizedTopologyStatus raw.status)
    hopMin := min aggregate.hopMin raw.hop
    hopMax := max aggregate.hopMax raw.hop
    observations := aggregate.observations + 1
    latencyTotal :=
      if sampled raw then aggregate.latencyTotal.add raw.latencyMS else aggregate.latencyTotal
    latencyCount :=
      if sampled raw then aggregate.latencyCount + 1 else aggregate.latencyCount
    publicIP := aggregate.publicIP || raw.publicIP
    geolocation := if taken then raw.geolocation else aggregate.geolocation
    asn := if taken then asn else aggregate.asn }

def step (aggregate : Option NodeAggregate) (entry : Canonical × TopologyNode) : NodeAggregate :=
  (aggregate.getD (start entry.1 entry.2)).add entry.2

/-- The average of the samples, where it is a number. -/
def latencyMSAvg (aggregate : NodeAggregate) : Option F64 :=
  if 0 < aggregate.latencyCount then
    let average := aggregate.latencyTotal.div (.ofInt aggregate.latencyCount)
    if !average.isNaN && !average.isInf then some average else none
  else none

end NodeAggregate

/-- `compactLinkAggregate`. -/
structure LinkAggregate where
  status : TopologyStatus
  observations : Nat
  deriving DecidableEq

def LinkAggregate.step (aggregate : Option LinkAggregate) (entry : EdgeKey × TopologyStatus) :
    LinkAggregate :=
  let earlier := aggregate.getD ⟨entry.2, 0⟩
  ⟨worstStatus earlier.status entry.2, earlier.observations + 1⟩

def nodeEntries (displayed : List Displayed) : List (Canonical × TopologyNode) :=
  displayed.flatMap fun entry => entry.observations.flatMap fun observation =>
    observation.raw.map fun raw => (observation.canonical, raw)

def linkEntries (displayed : List Displayed) : List (EdgeKey × TopologyStatus) :=
  displayed.flatMap fun entry => entry.links.filter fun link => link.1.source ≠ link.1.target

def nodeAggregates (displayed : List Displayed) : GoString → Option NodeAggregate :=
  accumulate (fun entry : Canonical × TopologyNode => entry.1.key) NodeAggregate.step
    (fun _ => none) (nodeEntries displayed)

def linkAggregates (displayed : List Displayed) : EdgeKey → Option LinkAggregate :=
  accumulate Prod.fst LinkAggregate.step (fun _ => none) (linkEntries displayed)

/-! ## Nodes -/

/-- `fmt.Sprintf("n%06d", number)`. -/
def nodeID (number : Nat) : String :=
  "n" ++ F64.zeros (6 - (toString number).length) ++ toString number

def validGeoString (text : GoString) : Bool :=
  text.byteLength ≤ maxGeoStringBytes && text.isValid

/-- A number in a closed range. -/
def validCoordinate (value : F64) (bound : Int) : Bool :=
  !value.isNaN && !value.isInf && !value.lt (.ofInt (-bound)) && !(F64.ofInt bound).lt value

def geoBundleValid (geolocation : Option GeoLocation) (asn : Option ASNInfo) : Bool :=
  (geolocation.all fun geolocation =>
    validCoordinate geolocation.latitude 90 && validCoordinate geolocation.longitude 180 &&
      validGeoString geolocation.city && validGeoString geolocation.region &&
      validGeoString geolocation.country && validGeoString geolocation.countryCode) &&
  asn.all fun asn => asn.number ≤ 4294967295 && validGeoString asn.organization

/-- The bytes that a bundle adds to the text of its node. -/
def geoBundleContribution (library : Library) (node : Node) (geolocation : Option GeoLocation)
    (asn : Option ASNInfo) : Nat :=
  match library.nodeBytes node,
      library.nodeBytes { node with geolocation := geolocation, asn := asn } with
  | some without, some withBundle =>
      if withBundle < without then maxGeoBundleBytes + 1 else withBundle - without
  | _, _ => maxGeoBundleBytes + 1

/-- What became of the bundle of a node. -/
inductive GeoOutcome
  | ineligible | unavailable | included | omitted
  deriving DecidableEq, Repr

/-- The node of an aggregate without its bundle. -/
def NodeAggregate.plain (aggregate : NodeAggregate) (id : String) : Node where
  id := id
  kind := aggregate.kind
  address := aggregate.address
  status := aggregate.status
  hopMin := aggregate.hopMin
  hopMax := aggregate.hopMax
  latencyMSAvg := aggregate.latencyMSAvg
  observations := aggregate.observations
  publicIP := aggregate.publicIP
  geolocation := none
  asn := none

def NodeAggregate.geoOutcome (library : Library) (includeGeo : Bool) (aggregate : NodeAggregate)
    (id : String) : GeoOutcome :=
  if !aggregate.publicIP then .ineligible
  else if aggregate.geolocation.isNone && aggregate.asn.isNone then .unavailable
  else if !geoBundleValid aggregate.geolocation aggregate.asn then .unavailable
  else if includeGeo && geoBundleContribution library (aggregate.plain id) aggregate.geolocation
      aggregate.asn ≤ maxGeoBundleBytes then .included
  else .omitted

def NodeAggregate.node (library : Library) (includeGeo : Bool) (aggregate : NodeAggregate)
    (id : String) : Node :=
  if aggregate.geoOutcome library includeGeo id = .included then
    { aggregate.plain id with
      geolocation := aggregate.geolocation
      asn := canonicalASNInfo aggregate.asn }
  else aggregate.plain id

/-- The selected nodes that have an aggregate. -/
def displayedKeys (order : List GoString) (displayed : List Displayed) : List GoString :=
  order.filter fun key => (nodeAggregates displayed key).isSome

/-- The numbered aggregates. -/
def numbered (keys : List GoString) (displayed : List Displayed) :
    List (NodeAggregate × String) :=
  keys.zipIdx.filterMap fun (key, index) =>
    (nodeAggregates displayed key).map fun aggregate => (aggregate, nodeID (index + 1))

/-- `ids[key]`. -/
def idOf (keys : List GoString) (key : GoString) : String :=
  if key ∈ keys then nodeID (keys.idxOf key + 1) else ""

def geoStats (outcomes : List GeoOutcome) : GeoStats where
  eligible := outcomes.countP (· ≠ .ineligible)
  available := outcomes.countP fun outcome => outcome = .included || outcome = .omitted
  included := outcomes.count .included
  omitted := outcomes.count .omitted
  unavailable := outcomes.count .unavailable

/-! ## Links and routes -/

def compactLinks (order : List GoString) (displayed : List Displayed) : List Link :=
  let keys := displayedKeys order displayed
  (order ×ˢ order).filterMap fun (source, target) =>
    (linkAggregates displayed ⟨source, target⟩).map fun aggregate =>
      { source := idOf keys source
        target := idOf keys target
        status := aggregate.status
        observations := aggregate.observations }

def compactRoute (keys : List GoString) (displayed : Displayed) : Route where
  resultIndex := displayed.route.resultIndex
  attempt := displayed.route.attempt
  status := displayed.route.status
  reached := displayed.route.reached
  complete := displayed.complete
  nodeIDs :=
    let nodeCount := if displayed.route.edges = [] then 1 else displayed.accepted + 1
    (displayed.route.nodes.take nodeCount).map fun observation =>
      idOf keys observation.canonical.key

/-! ## Counts -/

def finishCount (total displayed : Int) : CountStats :=
  ⟨total, displayed, total - displayed⟩

/-- The counts of some of the routes. -/
def routeStats (routes : List RawRoute) (displayed : List Displayed) : RouteStats where
  total := routes.length
  displayed := displayed.length
  complete := displayed.countP Displayed.complete
  partialCount := displayed.countP fun entry => !entry.complete
  omitted := routes.length - displayed.length

def nodeObservationStats (routes : List RawRoute) (displayed : List Displayed) : CountStats :=
  finishCount (routes.map fun route => (route.nodes.length : Int)).sum
    (displayed.map fun entry => (entry.nodeCount : Int)).sum

def linkObservationStats (routes : List RawRoute) (displayed : List Displayed) : CountStats :=
  finishCount (routes.map fun route => (nonSelfEdgeCount route.edges route.edges.length : Int)).sum
    (displayed.map fun entry => (nonSelfEdgeCount entry.route.edges entry.accepted : Int)).sum

def resultStats (routes : List RawRoute) (displayed : List Displayed) (resultIndex : Nat) :
    ResultStats :=
  let ofResult := routes.filter fun route => route.resultIndex = resultIndex
  let displayedOfResult := displayed.filter fun entry => entry.route.resultIndex = resultIndex
  { resultIndex := resultIndex
    routes := routeStats ofResult displayedOfResult
    nodeObservations := nodeObservationStats ofResult displayedOfResult
    linkObservations := linkObservationStats ofResult displayedOfResult }

def fullNodes (routes : List RawRoute) : List GoString :=
  (routes.flatMap fun route => route.nodes.map fun observation => observation.canonical.key).dedup

def fullLinks (routes : List RawRoute) : List EdgeKey :=
  (routes.flatMap fun route => route.edges.filter fun edge => edge.source ≠ edge.target).dedup

/-- Sums over the results. -/
def sumCounts (counts : List CountStats) : CountStats :=
  finishCount (counts.map CountStats.total).sum (counts.map CountStats.displayed).sum

def truncationReasons (nodeLimited linkLimited geoLimited : Bool) : List TruncationReason :=
  (if nodeLimited then [.nodeLimit] else []) ++ (if linkLimited then [.linkLimit] else []) ++
    if geoLimited then [.geoLimit] else []

/-! ## The topology -/

/-- The topology of a selection. -/
def topologyOf (library : Library) (routes : List RawRoute) (resultCount : Nat)
    (includeGeo : Bool) (state : Selection) : CompactTopology :=
  let displayed := displayedRoutes routes state
  let keys := displayedKeys state.order displayed
  let entries := numbered keys displayed
  let nodes := entries.map fun (aggregate, id) => aggregate.node library includeGeo id
  let outcomes := entries.map fun (aggregate, id) => aggregate.geoOutcome library includeGeo id
  let links := compactLinks state.order displayed
  let results := (List.range resultCount).map (resultStats routes displayed)
  let shown := displayed.map (compactRoute keys)
  let reasons := truncationReasons state.nodeLimited state.linkLimited
    (outcomes.contains .omitted)
  { schema := schemaV1
    selection := selectionV1
    limits := ⟨maxNodes, maxLinks, maxResponseBytes, maxGeoBundleBytes⟩
    nodes := nodes
    links := links
    routes := shown
    stats :=
      { nodes := finishCount (fullNodes routes).length nodes.length
        links := finishCount (fullLinks routes).length links.length
        routes :=
          { total := routes.length
            displayed := shown.length
            complete := (results.map fun result => result.routes.complete).sum
            partialCount := (results.map fun result => result.routes.partialCount).sum
            omitted := routes.length - shown.length }
        nodeObservations := sumCounts (results.map ResultStats.nodeObservations)
        linkObservations := sumCounts (results.map ResultStats.linkObservations) }
    resultStats := results
    geo := geoStats outcomes
    truncated := reasons ≠ []
    truncationReasons := reasons }

def buildCompactTopology (library : Library) (results : List Result) (options : BuildOptions) :
    BuildResult :=
  let routes := compactRoutes library results
  let state := selected routes options.selectionLimits results.length
  { topology := topologyOf library routes results.length options.includeGeo state
    acceptedTransactions := state.acceptedTransactions }

/-- `BuildCompactTopologyWithOptions`. -/
def buildWithOptions (library : Library) (results : List Result) (maxAcceptedTransactions : Int)
    (includeGeo : Bool) : BuildResult :=
  buildCompactTopology library results ⟨0, 0, maxAcceptedTransactions, includeGeo⟩

end CheckNetwork.Compact
