import CheckNetwork.Compact.Route
import Mathlib.Algebra.BigOperators.Group.Finset.Basic

/-!
# Fair selection of route prefixes

The selection loop of `buildCompactTopology`: round after round every result
offers the next hop of one of its routes, in turn, until no route can be
lengthened or enough transactions were accepted.  A hop that would exceed the
node or link limit blocks its route.
-/

namespace CheckNetwork.Compact

open Diagnostic Go

structure Progress where
  accepted : Nat
  blocked : Bool
  deriving DecidableEq, Repr

/-- The variables of the loop.  `order` lists the selected nodes in the order
of their selection and `links` the selected links. -/
structure Selection where
  progress : Nat → Progress
  order : List GoString
  links : List EdgeKey
  cursors : Nat → Nat
  nodeLimited : Bool
  linkLimited : Bool
  acceptedTransactions : Nat

/-- The limits the loop runs under. -/
structure SelectionLimits where
  nodes : Nat
  links : Nat
  transactions : Int

namespace BuildOptions

/-- A limit that is not positive selects the default. -/
def selectionLimits (options : BuildOptions) : SelectionLimits where
  nodes := if options.maxNodes ≤ 0 then Compact.maxNodes else options.maxNodes.toNat
  links := if options.maxLinks ≤ 0 then Compact.maxLinks else options.maxLinks.toNat
  transactions := options.maxAcceptedTransactions

end BuildOptions

def addSelected (order : List GoString) (key : GoString) : List GoString :=
  if key ∈ order then order else order ++ [key]

/-- The first route that starts at the local node selects it. -/
def preselected (routes : List RawRoute) : List GoString :=
  match routes.find? fun route =>
      match route.nodes.head? with
      | some observation => observation.canonical.kind = .localNode
      | none => false with
  | some route => (route.nodes.head?.map fun observation => observation.canonical.key).toList
  | none => []

/-- The routes of each result. -/
def groupOf (routes : List RawRoute) (resultIndex : Nat) : List Nat :=
  (List.range routes.length).filter fun routeIndex =>
    (routes[routeIndex]?.map RawRoute.resultIndex) = some resultIndex

def edgesAt (routes : List RawRoute) (routeIndex : Nat) : List EdgeKey :=
  (routes[routeIndex]?.map RawRoute.edges).getD []

namespace Selection

def initial (routes : List RawRoute) : Selection where
  progress _ := ⟨0, false⟩
  order := preselected routes
  links := []
  cursors _ := 0
  nodeLimited := false
  linkLimited := false
  acceptedTransactions := 0

variable (routes : List RawRoute) (limits : SelectionLimits)

/-- The transaction limit is reached. -/
def exhausted (state : Selection) : Bool :=
  0 ≤ limits.transactions ∧ limits.transactions ≤ state.acceptedTransactions

def selectable (state : Selection) (routeIndex : Nat) : Bool :=
  !(state.progress routeIndex).blocked &&
    (state.progress routeIndex).accepted < (edgesAt routes routeIndex).length

/-- The route of a group whose turn it is, and the cursor after it. -/
def choose (state : Selection) (group : List Nat) (cursor : Nat) : Option (Nat × Nat) :=
  (List.range group.length).findSome? fun scanned =>
    let position := (cursor + scanned) % group.length
    match group[position]? with
    | some routeIndex =>
        if state.selectable routes routeIndex then
          some (routeIndex, (position + 1) % group.length)
        else none
    | none => none

def nodeCost (order : List GoString) (edge : EdgeKey) : Nat :=
  (if edge.source ∈ order then 0 else 1) +
    (if edge.target = edge.source then 0 else if edge.target ∈ order then 0 else 1)

def linkCost (links : List EdgeKey) (edge : EdgeKey) : Nat :=
  if edge.source = edge.target then 0 else if edge ∈ links then 0 else 1

def block (state : Selection) (routeIndex : Nat) : Nat → Progress :=
  Function.update state.progress routeIndex { state.progress routeIndex with blocked := true }

/-- Take or refuse the next hop of a route. -/
def advance (state : Selection) (routeIndex : Nat) : Selection :=
  match (edgesAt routes routeIndex)[(state.progress routeIndex).accepted]? with
  | none => state
  | some edge =>
      if state.order.length + nodeCost state.order edge > limits.nodes then
        { state with progress := state.block routeIndex, nodeLimited := true }
      else if state.links.length + linkCost state.links edge > limits.links then
        { state with progress := state.block routeIndex, linkLimited := true }
      else { state with
        order := addSelected (addSelected state.order edge.source) edge.target
        links :=
          if edge.source = edge.target ∨ edge ∈ state.links then state.links
          else state.links ++ [edge]
        progress := Function.update state.progress routeIndex
          { state.progress routeIndex with accepted := (state.progress routeIndex).accepted + 1 }
        acceptedTransactions := state.acceptedTransactions + 1 }

/-- The turn of one result.  The flag is `active`. -/
def visit (state : Selection × Bool) (resultIndex : Nat) : Selection × Bool :=
  let group := groupOf routes resultIndex
  match state.1.choose routes group (state.1.cursors resultIndex) with
  | none => state
  | some (routeIndex, cursor) =>
      let moved := { state.1 with cursors := Function.update state.1.cursors resultIndex cursor }
      if moved.exhausted limits then (moved, true)
      else (moved.advance routes limits routeIndex, true)

def round (resultCount : Nat) (state : Selection) : Selection × Bool :=
  (List.range resultCount).foldl (visit routes limits) (state, false)

/-- The loop, for at most `fuel` rounds. -/
def select (resultCount : Nat) : Nat → Selection → Option Selection
  | 0, _ => none
  | fuel + 1, state =>
      let (after, active) := state.round routes limits resultCount
      if !active || after.exhausted limits then some after
      else select resultCount fuel after

/-- Hops that are still open. -/
def work (state : Selection) : Nat :=
  ∑ routeIndex ∈ Finset.range routes.length,
    if (state.progress routeIndex).blocked then 0
    else (edgesAt routes routeIndex).length - (state.progress routeIndex).accepted

end Selection

/-- Rounds that always suffice. -/
def selectionFuel (routes : List RawRoute) : Nat :=
  (routes.map fun route => route.edges.length).sum + 1

/-- The state in which the loop stops. -/
def selected (routes : List RawRoute) (limits : SelectionLimits) (resultCount : Nat) : Selection :=
  (Selection.select routes limits resultCount (selectionFuel routes)
    (Selection.initial routes)).getD (Selection.initial routes)

end CheckNetwork.Compact
