import CheckNetwork.Compact.Build
import CheckNetwork.Diagnostic.GeoDetails
import CheckNetwork.Payload.Closed

/-!
# Compact responses

How a report with a compact topology is made to fit: first as it is, then with
fewer details of places, then with fewer transactions.  What is kept of the
report that was encoded last is the one whose text is returned.
-/

namespace CheckNetwork.Api

open CheckNetwork.Go CheckNetwork.Diagnostic CheckNetwork.Compact CheckNetwork.Payload

/-- A report without its sidecar.  `Rest` are the fields that are only
transported, and `snapshots` the snapshots of the nodes of its attempts, by
result, attempt and node. -/
structure Report (Rest : Type) where
  rest : Rest
  results : List Result
  snapshots : Nat → Nat → Nat → GeoDetailSnapshot
  compactTopology : Option CompactTopology
  compactBuild : Option BuildResult

/-- The fields of a report as reflection presents them, but for the sidecar. -/
structure View where
  id : Value
  status : Value
  startedAt : Value
  durationMS : Value
  summary : Value
  results : Value
  analysis : Value
  compactTopology : Value
  compactBuild : Value

def reportValue (view : View) (geoDetails : Value) : Value :=
  .struct (structType "Report") (reportFields.zip
    [view.id, view.status, view.startedAt, view.durationMS, view.summary, view.results,
      view.analysis, view.compactTopology, geoDetails, view.compactBuild])

def noSidecar : Value := .nilPointer (.unnamed .pointer) (structType "GeoDetailsSidecar")

/-- Where responses are made: the memory, and how it presents a report. -/
structure Server (Rest : Type) where
  library : Payload.Library
  heap : Heap
  view : Report Rest → View
  builder : Compact.Library

inductive ResponseFailure
  | closed (failure : Failure)
  | serialization (failure : Failure)
  | compactTooLarge
  | sidecar
  deriving DecidableEq, Repr

/-! ## Candidates -/

def hasGeo (node : Node) : Bool := node.geolocation.isSome || node.asn.isSome

def compactGeoBundleCount (topology : CompactTopology) : Nat :=
  (topology.nodes.filter hasGeo).length

/-- The nodes without the first so many bundles, and the number removed. -/
def stripGeo : Nat → List Node → List Node × Nat
  | 0, nodes => (nodes, 0)
  | _ + 1, [] => ([], 0)
  | removed + 1, node :: rest =>
      if hasGeo node then
        let (nodes, stripped) := stripGeo removed rest
        ({ node with geolocation := none, asn := none } :: nodes, stripped + 1)
      else
        let (nodes, stripped) := stripGeo (removed + 1) rest
        (node :: nodes, stripped)

def compactTopologyWithoutLastGeoBundles (source : CompactTopology) (removed : Nat) :
    CompactTopology :=
  let (nodes, stripped) := stripGeo removed source.nodes.reverse
  { source with
    nodes := nodes.reverse
    geo := { source.geo with
      included := source.geo.included - stripped
      omitted := source.geo.omitted + stripped } }

def setCompactTruncationReasons (topology : CompactTopology) (responseLimited geoLimited : Bool) :
    CompactTopology :=
  let present := fun reason => topology.truncationReasons.contains reason ||
    (reason == .responseSize && responseLimited) || (reason == .geoLimit && geoLimited)
  let reasons := [TruncationReason.nodeLimit, .linkLimit, .responseSize, .geoLimit].filter present
  { topology with truncated := reasons ≠ [], truncationReasons := reasons }

/-- A result without the routes that the compact topology replaces. -/
def prunedResult (result : Result) : Result :=
  if result.kind ≠ .traceroute then result
  else
    { result with
      details := result.details.map fun details =>
        details.filter fun entry => entry.1 ≠ "attempts" ∧ entry.1 ≠ "topology" }

variable {Rest : Type}

def buildCompactReport (report : Report Rest) (topology : CompactTopology) : Report Rest :=
  { report with
    results := report.results.map prunedResult
    compactTopology := some topology }

/-! ## Fitting -/

section Fitting

variable (server : Server Rest) (report : Report Rest)

/-- The closed response of a report with a sidecar. -/
def marshalReport (report : Report Rest) (geoDetails : Value) (outputCap : Nat) (newline : Bool) :
    Except Failure (List Char) :=
  marshalClosed server.library server.heap (reportValue (server.view report) geoDetails) outputCap
    newline

/-- What an attempt leaves: the text, whether it fits, and the winner. -/
abbrev Attempt (Rest : Type) := List Char × Bool × Report Rest

def marshalTopology (winner : Report Rest) (topology : CompactTopology)
    (responseLimited geoLimited : Bool) : Except ResponseFailure (Attempt Rest) :=
  let candidate := buildCompactReport report
    (setCompactTruncationReasons topology responseLimited geoLimited)
  match marshalReport server candidate noSidecar (maxResponseBytes - 1) false with
  | .error failure =>
      if failure.isBudget then .ok ([], false, winner) else .error (.serialization failure)
  | .ok text =>
      let payload := text ++ ['\n']
      let fits := utf8Length payload < maxResponseBytes
      .ok (payload, fits, if fits then candidate else winner)

/-- The best text so far, and the winner. -/
abbrev Progress (Rest : Type) := Option (List Char) × Report Rest

def searchGeoBundles (initial : CompactTopology) (progress : Progress Rest) (low high : Int) :
    Except ResponseFailure (Progress Rest) :=
  if low ≤ high then
    let removed := low + (high - low) / 2
    match marshalTopology server report progress.2
        (compactTopologyWithoutLastGeoBundles initial removed.toNat) true true with
    | .error failure => .error failure
    | .ok (payload, true, winner) =>
        searchGeoBundles initial (some payload, winner) low (removed - 1)
    | .ok (_, false, winner) => searchGeoBundles initial (progress.1, winner) (removed + 1) high
  else .ok progress
termination_by (high + 1 - low).toNat

def searchTransactions (geoLimited : Bool) (progress : Progress Rest) (low high : Int) :
    Except ResponseFailure (Progress Rest) :=
  if low ≤ high then
    let transactionLimit := low + (high - low) / 2
    let build := buildWithOptions server.builder report.results transactionLimit false
    match marshalTopology server report progress.2 build.topology true geoLimited with
    | .error failure => .error failure
    | .ok (payload, true, winner) =>
        searchTransactions geoLimited (some payload, winner) (transactionLimit + 1) high
    | .ok (_, false, winner) =>
        searchTransactions geoLimited (progress.1, winner) low (transactionLimit - 1)
  else .ok progress
termination_by (high + 1 - low).toNat

/-- `marshalCompactResponseRetainingSnapshot`: the text, and the winner that is
left. -/
def marshalCompactResponse (winner : Report Rest) :
    Except ResponseFailure (List Char × Report Rest) := do
  let build := report.compactBuild.getD (buildWithOptions server.builder report.results (-1) true)
  let initial := build.topology
  match ← marshalTopology server report winner initial false false with
  | (payload, true, winner) => pure (payload, winner)
  | (_, false, winner) =>
      let shown := setCompactTruncationReasons initial false false
      let geoBundles := compactGeoBundleCount shown
      match ← searchGeoBundles server report shown (none, winner) 1 geoBundles with
      | (some payload, winner) => pure (payload, winner)
      | (none, winner) =>
          match ← searchTransactions server report (0 < geoBundles) (none, winner) 0
              (build.acceptedTransactions - 1 : Int) with
          | (some payload, winner) => pure (payload, winner)
          | (none, _) => .error .compactTooLarge

end Fitting

/-! ## The winner -/

section Winner

variable {server : Server Rest} {report winner initialWinner : Report Rest} {payload : List Char}

theorem bind_eq_ok {A B E : Type} {first : Except E A} {next : A → Except E B} {value : B}
    (made : first >>= next = .ok value) : ∃ middle, first = .ok middle ∧ next middle = .ok value := by
  cases first with
  | error failure => cases made
  | ok middle => exact ⟨middle, rfl, made⟩

/-- A text is that of a report, with the final newline, and fits. -/
structure Retained (server : Server Rest) (winner : Report Rest) (payload : List Char) : Prop where
  text : ∃ text, marshalReport server winner noSidecar (maxResponseBytes - 1) false = .ok text ∧
    payload = text ++ ['\n']
  fits : utf8Length payload < maxResponseBytes

theorem retained_of_marshalTopology {topology : CompactTopology}
    {responseLimited geoLimited : Bool}
    (made : marshalTopology server report initialWinner topology responseLimited geoLimited =
      .ok (payload, true, winner)) : Retained server winner payload := by
  rw [marshalTopology] at made
  dsimp only at made
  split at made
  · split at made
    · cases made
    · cases made
  · next text written =>
      injection made with same
      injection same with text_eq rest
      injection rest with fits winner_eq
      rw [decide_eq_true_iff] at fits
      rw [if_pos fits] at winner_eq
      rw [← winner_eq, ← text_eq]
      exact ⟨⟨text, written, rfl⟩, fits⟩

/-- The best text is that of the winner. -/
def Consistent (server : Server Rest) (progress : Progress Rest) : Prop :=
  ∀ payload, progress.1 = some payload → Retained server progress.2 payload

theorem winner_of_unfit {topology : CompactTopology} {responseLimited geoLimited : Bool}
    (made : marshalTopology server report initialWinner topology responseLimited geoLimited =
      .ok (payload, false, winner)) : winner = initialWinner := by
  rw [marshalTopology] at made
  dsimp only at made
  split at made
  · split at made
    · cases made
      rfl
    · cases made
  · injection made with same
    injection same with text_eq rest
    injection rest with fits winner_eq
    rw [decide_eq_false_iff_not] at fits
    rw [if_neg fits] at winner_eq
    exact winner_eq.symm

theorem consistent_some (retained : Retained server winner payload) :
    Consistent server (some payload, winner) := by
  rintro _ ⟨rfl⟩
  exact retained

theorem consistent_searchGeoBundles {initial : CompactTopology} {progress result : Progress Rest}
    {low high : Int} (consistent : Consistent server progress)
    (found : searchGeoBundles server report initial progress low high = .ok result) :
    Consistent server result := by
  induction progress, low, high using searchGeoBundles.induct server report initial with
  | case1 progress low high inside removed failure failed =>
      rw [searchGeoBundles, if_pos inside] at found
      dsimp only [removed] at failed
      simp only [failed] at found
      cases found
  | case2 progress low high inside removed payload winner made ih =>
      rw [searchGeoBundles, if_pos inside] at found
      dsimp only [removed] at made
      simp only [made] at found
      exact ih (consistent_some (retained_of_marshalTopology made)) found
  | case3 progress low high inside removed payload winner made ih =>
      rw [searchGeoBundles, if_pos inside] at found
      dsimp only [removed] at made
      simp only [made] at found
      apply ih _ found
      rw [winner_of_unfit made]
      exact consistent
  | case4 progress low high outside =>
      rw [searchGeoBundles, if_neg outside] at found
      cases found
      exact consistent

theorem consistent_searchTransactions {geoLimited : Bool} {progress result : Progress Rest}
    {low high : Int} (consistent : Consistent server progress)
    (found : searchTransactions server report geoLimited progress low high = .ok result) :
    Consistent server result := by
  induction progress, low, high using searchTransactions.induct server report geoLimited with
  | case1 progress low high inside limit build failure failed =>
      rw [searchTransactions, if_pos inside] at found
      dsimp only [limit, build] at failed
      simp only [failed] at found
      cases found
  | case2 progress low high inside limit build payload winner made ih =>
      rw [searchTransactions, if_pos inside] at found
      dsimp only [limit, build] at made
      simp only [made] at found
      exact ih (consistent_some (retained_of_marshalTopology made)) found
  | case3 progress low high inside limit build payload winner made ih =>
      rw [searchTransactions, if_pos inside] at found
      dsimp only [limit, build] at made
      simp only [made] at found
      apply ih _ found
      rw [winner_of_unfit made]
      exact consistent
  | case4 progress low high outside =>
      rw [searchTransactions, if_neg outside] at found
      cases found
      exact consistent

/-- The text that is returned is that of the winner that is left. -/
theorem retained_of_marshalCompactResponse
    (made : marshalCompactResponse server report initialWinner = .ok (payload, winner)) :
    Retained server winner payload := by
  rw [marshalCompactResponse] at made
  obtain ⟨⟨first, fits, left⟩, begun, made⟩ := bind_eq_ok made
  cases fits with
  | true =>
      cases made
      exact retained_of_marshalTopology begun
  | false =>
      obtain ⟨⟨best, left⟩, searched, made⟩ := bind_eq_ok made
      have nothing : ∀ left, Consistent server (none, left) := fun _ _ absurd => by cases absurd
      cases best with
      | some found =>
          cases made
          exact consistent_searchGeoBundles (nothing _) searched _ rfl
      | none =>
          obtain ⟨⟨best, left⟩, searched, made⟩ := bind_eq_ok made
          cases best with
          | some found =>
              cases made
              exact consistent_searchTransactions (nothing _) searched _ rfl
          | none => cases made

end Winner

end CheckNetwork.Api
