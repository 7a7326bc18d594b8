import CheckNetwork.Api.CompactResponse
import CheckNetwork.Api.GeoDetails
import CheckNetwork.Api.SidecarText
import CheckNetwork.Runner.Request

/-!
# Report responses

A report response with details is the one without them and the longest prefix
of the details that fits.
-/

namespace CheckNetwork.Api

open Go Network Diagnostic Payload

variable {Rest : Type}

/-! ## The response -/

section Response

variable (parseAddr : GoString → Option Addr) (server : Server Rest) (report : Report Rest)

def MarshalFailure.of (failure : Failure) : MarshalFailure :=
  if failure.isBudget then .budget else .other

def attachable (heap : Heap) (sidecar : GeoDetailsSidecar) : Except MarshalFailure Unit :=
  match (validate heap (sidecarValue sidecar) .fresh).1 with
  | none => .ok ()
  | some failure => .error (.of failure)

/-- The closed encoder on a winner with a sidecar. -/
def attached (winner : Report Rest) (limit : Nat) (sidecar : GeoDetailsSidecar) :
    Except MarshalFailure (List Char) :=
  (marshalReport server winner (sidecarPointer sidecar.entries.length) limit true).mapError .of

/-- The raw details of a report. -/
def details : Option GeoDetailsSidecar :=
  buildGeoDetails parseAddr report.snapshots report.results

/-- The memory in which both responses of a report are made: what its details
are made into is there for whoever asks for it. -/
def Server.serving : Server Rest :=
  { server with
    heap := ((details parseAddr report).map (withDetails server.heap)).getD server.heap }

def responseLimit (mode : Runner.TopologyMode) : Nat :=
  if mode = .compact then Compact.maxResponseBytes - 1 else maxFullResponseBytes

/-- The response without details, and the report that it shows. -/
def legacyResponse (mode : Runner.TopologyMode) :
    Except ResponseFailure (List Char × Report Rest) :=
  if mode = .compact then marshalCompactResponse (server.serving parseAddr report) report report
  else
    ((marshalReport (server.serving parseAddr report) report noSidecar maxFullResponseBytes
      true).mapError ResponseFailure.closed).map fun text => (text, report)

def marshalReportResponse (mode : Runner.TopologyMode) (geoDetails : Bool) :
    Except ResponseFailure (List Char) := do
  let raw := if geoDetails then details parseAddr report else none
  let (legacy, winner) ← legacyResponse parseAddr server report mode
  match raw with
  | none => pure legacy
  | some raw =>
      let serving := server.serving parseAddr report
      (fitGeoDetails (attachable serving.heap) (attached serving winner (responseLimit mode)) raw
        legacy).mapError fun _ => .sidecar

end Response

/-! ## The text of a report -/

section Text

variable {server : Server Rest} {heap : Heap} {raw : GeoDetailsSidecar} {winner : Report Rest}
  {limit count : Nat} {legacy : List Char}

/-- The fields before the sidecar. -/
def front (view : View) : List (StructField × Value) :=
  (reportFields.take 8).zip [view.id, view.status, view.startedAt, view.durationMS, view.summary,
    view.results, view.analysis, view.compactTopology]

def sidecarField : StructField := Diagnostic.optional "GeoDetails" "geo_details"

theorem reportValue_eq (view : View) (geoDetails : Value) :
    reportValue view geoDetails = .struct (structType "Report") (front view ++
      [(sidecarField, geoDetails), (hidden "compactBuild", view.compactBuild)]) := rfl

theorem members_append (first second : List (StructField × Value)) :
    members heap (first ++ second) = members heap first ++ members heap second :=
  List.filterMap_append

theorem members_noSidecar (view : View) : members heap (front view ++
    [(sidecarField, noSidecar), (hidden "compactBuild", view.compactBuild)]) =
      members heap (front view) := by
  rw [members_append]
  exact List.append_nil _

theorem members_sidecarPointer (view : View) (count : Nat) : members heap (front view ++
    [(sidecarField, sidecarPointer count), (hidden "compactBuild", view.compactBuild)]) =
      members heap (front view ++
        [(sidecarField, noSidecar), (hidden "compactBuild", view.compactBuild)]) ++
          [⟨"geo_details", sidecarField, sidecarPointer count⟩] := by
  rw [members_noSidecar, members_append]
  rfl

theorem members_front_ne_nil (view : View) : members heap (front view ++
    [(sidecarField, noSidecar), (hidden "compactBuild", view.compactBuild)]) ≠ [] :=
  List.cons_ne_nil _ _

theorem validate_sidecar (view : View) (count : Nat) :
    validate heap (reportValue view (sidecarPointer count)) =
      (validate heap (reportValue view noSidecar)).andThen
        (walk withActive heap (sidecarPointer count) 1 false) := by
  rw [validate, validate, reportValue_eq, reportValue_eq]
  refine walk_struct_concat ?_ (members_sidecarPointer view count) 0 false
  rfl

/-- What a report with a sidecar asks for beyond the one without. -/
structure Attaches (server : Server Rest) (winner : Report Rest) (limit : Nat)
    (legacy : List Char) (raw : GeoDetailsSidecar) (count : Nat) : Prop where
  together : (validate server.heap (reportValue (server.view winner) (sidecarPointer count))
    .fresh).1 = none
  room : utf8Length legacy + 15 + Json.length (raw.first count).json ≤ limit

/-- The text of a report with the details between its last two marks. -/
def withSidecar (body : List Char) (sidecar : GeoDetailsSidecar) : List Char :=
  '{' :: (body ++ ",\"geo_details\":".toList ++ Json.encode sidecar.json ++ ['}', '\n'])

theorem length_withSidecar (body : List Char) (sidecar : GeoDetailsSidecar) :
    utf8Length (withSidecar body sidecar) =
      utf8Length ('{' :: (body ++ ['}', '\n'])) + 15 + Json.length sidecar.json := by
  have key : utf8Length ",\"geo_details\":".toList = 15 := by decide
  rw [withSidecar, Json.length]
  simp only [utf8Length_cons, utf8Length_append, key]
  omega

/-- A legacy response ends where the sidecar goes. -/
theorem exists_body (same : server.heap = withDetails heap raw)
    (plain : marshalReport server winner noSidecar limit true = .ok legacy) :
    ∃ body, legacy = '{' :: (body ++ ['}', '\n']) ∧ ∀ count ≤ raw.entries.length,
      ∃ pieces, encode server.library server.heap (maxFullResponseDepth + 2)
          (reportValue (server.view winner) (sidecarPointer count)) = some pieces ∧
        (∀ failure, .error failure ∉ pieces) ∧
          texts pieces ++ ending true = withSidecar body (raw.first count) := by
  rw [marshalReport, marshalClosed_eq_ok_iff] at plain
  obtain ⟨_, pieces, written, clean, whole, _⟩ := plain
  rw [reportValue_eq] at written
  have split : ∀ count ≤ raw.entries.length, ∃ inner, pieces =
      .ok ['{'] :: (inner ++ [.ok ['}']]) ∧ ∃ more,
        encode server.library server.heap (maxFullResponseDepth + 2)
          (reportValue (server.view winner) (sidecarPointer count)) =
            some (.ok ['{'] :: (inner ++ .ok [','] :: named (Json.quote "geo_details") more ++
              [.ok ['}']])) ∧ Shows more (raw.first count).json := by
    intro count room
    obtain ⟨more, shown, shows⟩ := encode_pointer server.library heap
      (maxFullResponseDepth - 4) room
    rw [← same] at shown
    obtain ⟨inner, pieces_eq, whole⟩ := encode_struct_concat (members_front_ne_nil _)
      (members_sidecarPointer (server.view winner) count) written shown
    exact ⟨inner, pieces_eq, more, whole, shows⟩
  obtain ⟨inner, pieces_eq, _⟩ := split 0 (Nat.zero_le _)
  refine ⟨texts inner, ?_, fun count room => ?_⟩
  · rw [whole, pieces_eq]
    simp [ending]
  · obtain ⟨other, other_eq, more, shown, shows⟩ := split count room
    have inner_eq : other = inner := by
      rw [pieces_eq] at other_eq
      simpa using other_eq.symm
    rw [inner_eq] at shown
    refine ⟨_, shown, ?_, ?_⟩
    · intro failure member
      have before := clean failure
      rw [pieces_eq] at before
      have after := shows.1 failure
      simp only [named, List.mem_cons, List.mem_append, reduceCtorEq, false_or, List.not_mem_nil,
        or_false] at member before
      exact member.elim before after
    · rw [withSidecar]
      simp only [texts_cons_ok, texts_append, named, shows.2, texts_nil, ending, if_true]
      have key : Json.quote (GoString.ofString "geo_details") = "\"geo_details\"".toList := by decide
      rw [key]
      simp

theorem attached_spec (same : server.heap = withDetails heap raw)
    (plain : marshalReport server winner noSidecar limit true = .ok legacy) :
    ∃ body, legacy = '{' :: (body ++ ['}', '\n']) ∧ ∀ count ≤ raw.entries.length,
      (Attaches server winner limit legacy raw count →
        attached server winner limit (raw.first count) =
          .ok (withSidecar body (raw.first count))) ∧
      (¬ Attaches server winner limit legacy raw count →
        attached server winner limit (raw.first count) = .error .budget) := by
  obtain ⟨body, legacy_eq, each⟩ := exists_body same plain
  refine ⟨body, legacy_eq, fun count room => ?_⟩
  obtain ⟨pieces, written, clean, whole⟩ := each count room
  have length_eq : (raw.first count).entries.length = count := List.length_take_of_le room
  rw [attached, length_eq]
  have size := length_withSidecar body (raw.first count)
  rw [← legacy_eq] at size
  constructor
  · intro attaches
    have made : marshalReport server winner (sidecarPointer count) limit true =
        .ok (withSidecar body (raw.first count)) := by
      rw [marshalReport, marshalClosed_eq_ok_iff]
      refine ⟨attaches.together, pieces, written, clean, whole.symm, ?_⟩
      rw [size]
      exact attaches.room
    rw [made]
    rfl
  · intro refused
    cases outcome : (validate server.heap
        (reportValue (server.view winner) (sidecarPointer count)) .fresh).1 with
    | some failure =>
        have budget : failure.isBudget = true := by
          rw [validate_sidecar, same] at outcome
          rw [marshalReport, marshalClosed_eq_ok_iff, same] at plain
          rw [andThen_of_none plain.1] at outcome
          exact budgetOnly_pointer count (by decide) _ _ outcome
        rw [marshalReport, marshalClosed_of_failed outcome, Except.mapError, MarshalFailure.of,
          if_pos budget]
    | none =>
        rcases marshalClosed_of_passed limit true outcome written clean with
          ⟨text, made⟩ | large
        · obtain ⟨_, again, same_pieces, _, text_eq, fits⟩ := marshalClosed_eq_ok_iff.mp made
          rw [written] at same_pieces
          cases same_pieces
          rw [text_eq, whole, size] at fits
          exact absurd ⟨outcome, fits⟩ refused
        · rw [marshalReport, large]
          rfl

end Text

/-! ## The longest prefix -/

section Longest

variable {P : Type} {validate : GeoDetailsSidecar → Except MarshalFailure Unit}
  {marshal : GeoDetailsSidecar → Except MarshalFailure P} {raw : GeoDetailsSidecar}
  {fits : Nat → Prop} {text : Nat → P} {bound : Nat}

theorem fits_of_le (shorter : ∀ count < bound, fits (count + 1) → fits count) {fewer more : Nat}
    (le : fewer ≤ more) (inside : more ≤ bound) (fit : fits more) : fits fewer := by
  induction more, le using Nat.le_induction with
  | base => exact fit
  | succ more le ih => exact ih (Nat.le_of_succ_le inside) (shorter more inside fit)

/-- The search ends with the longest prefix that fits, or with what it began
with when none from its lower bound on does. -/
theorem search_longest
    (accepts : ∀ count ≤ bound, fits count → marshalPrefix validate marshal raw count =
      .ok (text count))
    (refuses : ∀ count ≤ bound, ¬ fits count → marshalPrefix validate marshal raw count =
      .error .budget)
    (shorter : ∀ count < bound, fits (count + 1) → fits count) (best : P) (low high : Int)
    (pos : 0 ≤ low) (inside : high ≤ bound)
    (above : ∀ count ≤ bound, fits count → (count : Int) ≤ high) :
    ∃ result, search validate marshal raw best low high = .ok result ∧
      ((∃ count, IsGreatest {count | count ≤ bound ∧ fits count} count ∧ result = text count) ∨
        result = best ∧ ∀ count ≤ bound, fits count → (count : Int) < low) := by
  induction best, low, high using search.induct validate marshal raw with
  | case1 best low high within count failed =>
      exfalso
      dsimp only [count] at failed
      by_cases fit : fits (low + (high - low) / 2).toNat
      · rw [accepts _ (by omega) fit] at failed
        cases failed
      · rw [refuses _ (by omega) fit] at failed
        cases failed
  | case2 best low high within count failed ih =>
      rw [search, if_pos within]
      dsimp only [count] at failed ih
      simp only [failed]
      have unfit : ¬ fits (low + (high - low) / 2).toNat := by
        intro fit
        rw [accepts _ (by omega) fit] at failed
        cases failed
      apply ih pos (by omega)
      intro more le fit
      by_contra beyond
      exact unfit (fits_of_le shorter (by omega) le fit)
  | case3 best low high within count payload made ih =>
      rw [search, if_pos within]
      dsimp only [count] at made ih
      simp only [made]
      have fit : fits (low + (high - low) / 2).toNat := by
        by_contra unfit
        rw [refuses _ (by omega) unfit] at made
        cases made
      rw [accepts _ (by omega) fit] at made
      cases made
      obtain ⟨result, found, longest⟩ := ih (by omega) inside above
      refine ⟨result, found, .inl ?_⟩
      rcases longest with longest | ⟨same, none⟩
      · exact longest
      · refine ⟨_, ⟨⟨by omega, fit⟩, ?_⟩, same⟩
        rintro more ⟨le, other⟩
        have before := none more le other
        omega
  | case4 best low high outside =>
      rw [search, if_neg outside]
      refine ⟨best, rfl, .inr ⟨rfl, fun count le fit => ?_⟩⟩
      have last := above count le fit
      omega

end Longest

/-! ## Fitting the details -/

section Fitting

variable {server : Server Rest} {heap : Heap} {raw : GeoDetailsSidecar} {winner : Report Rest}
  {limit count : Nat} {legacy body : List Char}

/-- A prefix of the details fits: alone, and with the report. -/
structure Fits (server : Server Rest) (winner : Report Rest) (limit : Nat) (legacy : List Char)
    (raw : GeoDetailsSidecar) (count : Nat) : Prop where
  alone : (Payload.validate server.heap (sidecarValue (raw.first count)) .fresh).1 = none
  small : Json.length (raw.first count).json ≤ geoDetailsMaxBytes
  attaches : Attaches server winner limit legacy raw count

theorem fits_of_succ (same : server.heap = withDetails heap raw) (room : count < raw.entries.length)
    (fits : Fits server winner limit legacy raw (count + 1)) :
    Fits server winner limit legacy raw count := by
  have shorter := length_first_succ room
  refine ⟨?_, shorter.trans fits.small, ?_, ?_⟩
  · have alone := fits.alone
    rw [same] at alone ⊢
    exact easier_sidecar room (by decide) .fresh [] [] (List.forall_mem_nil _)
      (List.forall_mem_nil _) alone
  · have together := fits.attaches.together
    rw [validate_sidecar, andThen_eq_none_iff, same] at together ⊢
    refine ⟨together.1, easier_pointer room (by decide) ?_ together.2⟩
    exact restores_walk _ _ _ _ _
  · exact (Nat.add_le_add_left shorter _).trans fits.attaches.room

theorem attachable_of_failed {failure : Failure} {sidecar : GeoDetailsSidecar}
    (failed : (Payload.validate (withDetails heap raw) (sidecarValue sidecar) .fresh).1 =
      some failure) : attachable (withDetails heap raw) sidecar = .error .budget := by
  have budget : failure.isBudget = true := budgetOnly_sidecar sidecar (by decide) _ _ failed
  rw [attachable, failed]
  dsimp only
  rw [MarshalFailure.of, if_pos budget]

theorem marshalPrefix_spec (same : server.heap = withDetails heap raw)
    (attach : Attaches server winner limit legacy raw count →
      attached server winner limit (raw.first count) = .ok (withSidecar body (raw.first count)))
    (refuse : ¬ Attaches server winner limit legacy raw count →
      attached server winner limit (raw.first count) = .error .budget) :
    (Fits server winner limit legacy raw count →
      marshalPrefix (attachable server.heap) (attached server winner limit) raw count =
        .ok (withSidecar body (raw.first count))) ∧
    (¬ Fits server winner limit legacy raw count →
      marshalPrefix (attachable server.heap) (attached server winner limit) raw count =
        .error .budget) := by
  rw [marshalPrefix, marshalGeoDetailsSidecar]
  cases outcome : (Payload.validate server.heap (sidecarValue (raw.first count)) .fresh).1 with
  | some failure =>
      constructor
      · intro fits
        rw [fits.alone] at outcome
        cases outcome
      · intro _
        rw [same] at outcome ⊢
        rw [attachable_of_failed outcome]
        rfl
  | none =>
      have alone : attachable server.heap (raw.first count) = .ok () := by
        rw [attachable, outcome]
      rw [alone, Except.bind]
      by_cases small : Json.length (raw.first count).json ≤ geoDetailsMaxBytes
      · rw [if_neg (Nat.not_lt.mpr small), Except.bind]
        constructor
        · exact fun fits => attach fits.attaches
        · exact fun unfit => refuse fun attaches => unfit ⟨outcome, small, attaches⟩
      · rw [if_pos (Nat.not_le.mp small), Except.bind]
        constructor
        · exact fun fits => absurd fits.small small
        · exact fun _ => rfl

theorem withSidecar_ne (body : List Char) (sidecar : GeoDetailsSidecar) :
    withSidecar body sidecar ≠ '{' :: (body ++ ['}', '\n']) := by
  intro same
  have size := length_withSidecar body sidecar
  rw [same] at size
  omega

theorem marshalReport_of_attached {payload : List Char} (room : count ≤ raw.entries.length)
    (made : attached server winner limit (raw.first count) = .ok payload) :
    marshalReport server winner (sidecarPointer count) limit true = .ok payload := by
  have length_eq : (raw.first count).entries.length = count := List.length_take_of_le room
  rw [attached, length_eq] at made
  cases outcome : marshalReport server winner (sidecarPointer count) limit true with
  | error failure =>
      rw [outcome] at made
      cases made
  | ok text =>
      rw [outcome] at made
      cases made
      rfl

/-- The details that are attached are the longest prefix that fits. -/
theorem fitGeoDetails_longest (same : server.heap = withDetails heap raw)
    (plain : marshalReport server winner noSidecar limit true = .ok legacy) :
    ∃ body payload, legacy = '{' :: (body ++ ['}', '\n']) ∧
      fitGeoDetails (attachable server.heap) (attached server winner limit) raw legacy =
        .ok payload ∧
      (payload = legacy ↔ ¬ Fits server winner limit legacy raw 0) ∧
      (Fits server winner limit legacy raw 0 → ∃ count,
        IsGreatest {count | count ≤ min raw.entries.length geoDetailsMaxEntries ∧
          Fits server winner limit legacy raw count} count ∧
          payload = withSidecar body (raw.first count) ∧
            marshalReport server winner (sidecarPointer count) limit true = .ok payload) := by
  obtain ⟨body, legacy_eq, each⟩ := attached_spec same plain
  have room : ∀ {count}, count ≤ min raw.entries.length geoDetailsMaxEntries →
      count ≤ raw.entries.length := fun le => le.trans (Nat.min_le_left _ _)
  have marshalled : ∀ count ≤ min raw.entries.length geoDetailsMaxEntries, _ :=
    fun count le => marshalPrefix_spec same (each count (room le)).1 (each count (room le)).2
  obtain ⟨payload, found, longest⟩ := search_longest
    (fun count le => (marshalled count le).1) (fun count le => (marshalled count le).2)
    (fun count lt => fits_of_succ same (lt.trans_le (Nat.min_le_left _ _))) legacy 0
    (min raw.entries.length geoDetailsMaxEntries : Nat) (le_refl 0) (le_refl _)
    (fun count le _ => Int.ofNat_le.mpr le)
  refine ⟨body, payload, legacy_eq, found, ?_⟩
  rcases longest with ⟨count, greatest, same_text⟩ | ⟨same_text, none⟩
  · have made := (each count (room greatest.1.1)).1 greatest.1.2.attaches
    have zero : Fits server winner limit legacy raw 0 :=
      fits_of_le (fun count lt => fits_of_succ same (lt.trans_le (Nat.min_le_left _ _)))
        (Nat.zero_le count) greatest.1.1 greatest.1.2
    refine ⟨⟨fun equal => ?_, fun unfit => absurd zero unfit⟩, fun _ => ?_⟩
    · rw [same_text, legacy_eq] at equal
      exact absurd equal (withSidecar_ne body _)
    · rw [← same_text] at made
      exact ⟨count, greatest, same_text, marshalReport_of_attached (room greatest.1.1) made⟩
  · have unfit : ¬ Fits server winner limit legacy raw 0 :=
      fun fits => absurd (none 0 (Nat.zero_le _) fits) (lt_irrefl 0)
    exact ⟨⟨fun _ => unfit, fun _ => same_text⟩, fun fits => absurd fits unfit⟩

end Fitting

/-! ## Both responses -/

section Both

variable {parseAddr : GoString → Option Addr} {server : Server Rest}
  {report winner : Report Rest} {mode : Runner.TopologyMode} {legacy : List Char}

/-- The response without details is the text of the report that is kept, under
the limit of the response with details. -/
theorem marshalReport_of_legacy
    (made : legacyResponse parseAddr server report mode = .ok (legacy, winner)) :
    marshalReport (server.serving parseAddr report) winner noSidecar (responseLimit mode) true =
      .ok legacy := by
  rw [legacyResponse] at made
  rw [responseLimit]
  by_cases compact : mode = .compact
  · rw [if_pos compact] at made ⊢
    obtain ⟨⟨text, written, whole⟩, fits⟩ := retained_of_marshalCompactResponse made
    rw [marshalReport, marshalClosed_eq_ok_iff] at written ⊢
    obtain ⟨passed, pieces, pieces_eq, clean, same, _⟩ := written
    refine ⟨passed, pieces, pieces_eq, clean, ?_, Nat.le_sub_one_of_lt fits⟩
    rw [whole, same]
    simp [ending]
  · rw [if_neg compact] at made ⊢
    cases outcome : marshalReport (server.serving parseAddr report) report noSidecar
        maxFullResponseBytes true with
    | error failure =>
        rw [outcome] at made
        cases made
    | ok text =>
        rw [outcome] at made
        cases made
        exact outcome

theorem heap_serving {raw : GeoDetailsSidecar} (found : details parseAddr report = some raw) :
    (server.serving parseAddr report).heap = withDetails server.heap raw := by
  rw [Server.serving, found]
  rfl

/-- A response with details is the one without them and, before its last two
marks, the longest prefix of the details that fits; it is the one without them
exactly when not even no entries fit. -/
theorem marshalReportResponse_geoDetails (parseAddr : GoString → Option Addr)
    (server : Server Rest) (report : Report Rest) (mode : Runner.TopologyMode) :
    (∀ failure, marshalReportResponse parseAddr server report mode false = .error failure →
      marshalReportResponse parseAddr server report mode true = .error failure) ∧
    ∀ legacy, marshalReportResponse parseAddr server report mode false = .ok legacy →
      (details parseAddr report = none →
        marshalReportResponse parseAddr server report mode true = .ok legacy) ∧
      ∀ raw, details parseAddr report = some raw → ∃ winner body payload,
        legacyResponse parseAddr server report mode = .ok (legacy, winner) ∧
        marshalReport (server.serving parseAddr report) winner noSidecar (responseLimit mode)
          true = .ok legacy ∧
        legacy = '{' :: (body ++ ['}', '\n']) ∧
        marshalReportResponse parseAddr server report mode true = .ok payload ∧
        (payload = legacy ↔
          ¬ Fits (server.serving parseAddr report) winner (responseLimit mode) legacy raw 0) ∧
        (Fits (server.serving parseAddr report) winner (responseLimit mode) legacy raw 0 →
          ∃ count, IsGreatest {count | count ≤ min raw.entries.length geoDetailsMaxEntries ∧
            Fits (server.serving parseAddr report) winner (responseLimit mode) legacy raw count}
              count ∧
            payload = withSidecar body (raw.first count) ∧
            marshalReport (server.serving parseAddr report) winner (sidecarPointer count)
              (responseLimit mode) true = .ok payload) := by
  cases outcome : legacyResponse parseAddr server report mode with
  | error failure =>
      have failed : ∀ geoDetails,
          marshalReportResponse parseAddr server report mode geoDetails = .error failure := by
        intro geoDetails
        rw [marshalReportResponse, outcome]
        rfl
      rw [failed, failed]
      exact ⟨fun _ same => same, fun _ absurd => by cases absurd⟩
  | ok made =>
      obtain ⟨text, winner⟩ := made
      have without : marshalReportResponse parseAddr server report mode false = .ok text := by
        rw [marshalReportResponse, outcome]
        rfl
      rw [without]
      refine ⟨(fun _ absurd => by cases absurd), ?_⟩
      rintro legacy ⟨rfl⟩
      constructor
      · intro none
        rw [marshalReportResponse, outcome, if_pos rfl, none]
        rfl
      · intro raw found
        have plain := marshalReport_of_legacy outcome
        obtain ⟨body, payload, legacy_eq, fitted, rest⟩ :=
          fitGeoDetails_longest (heap_serving found) plain
        refine ⟨winner, body, payload, rfl, plain, legacy_eq, ?_, rest⟩
        rw [marshalReportResponse, outcome, if_pos rfl, found]
        change Except.mapError _ (fitGeoDetails _ _ raw text) = _
        rw [fitted]
        rfl

end Both

end CheckNetwork.Api
