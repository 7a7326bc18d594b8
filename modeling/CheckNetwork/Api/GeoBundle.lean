import CheckNetwork.Android.GeoBundle
import CheckNetwork.Frontend.GeoBundle

/-!
# The sizes of bundles

The clients count the bytes of a bundle as the server does, and refuse no bundle
that the server has admitted.
-/

namespace CheckNetwork.Api

open CheckNetwork.Compact
open CheckNetwork.Diagnostic
open CheckNetwork.Go

section Bundles

variable {numbers : F64 → Option JsonNumber} {spelled : F64 → List Char}
  {doubleValue : JsonNumber → F64} {goJSONNumberBytes : F64 → Nat}

/-- Both clients find the bytes of a string, or refuse it for its length. -/
theorem string_bytes (value path : String) :
    Frontend.goJSONUnitBytes (utf16 value.toList) path maxGeoBundleBytes =
      (if utf8Length value.toList ≤ maxGeoBundleBytes then
        .ok (Json.length (.string (.ofString value)))
      else Frontend.schemaError path "Geo string exceeds byte limit") ∧
    Android.goJSONStringBytes (utf16 value.toList) path =
      (if utf8Length value.toList ≤ maxGeoBundleBytes then
        .ok (Json.length (.string (.ofString value)))
      else Android.error path "Geo string exceeds byte limit") :=
  ⟨Frontend.goJSONUnitBytes_eq value path _, Android.goJSONStringBytes_eq value path⟩

/-- What the clients count of a bundle is what the server adds to its node. -/
theorem bundle_bytes (spells : Frontend.SpellsAs numbers spelled)
    (counts : Android.CountsAs numbers doubleValue goJSONNumberBytes) (library : Library)
    {node : Node} (alone : node.geolocation = none ∧ node.asn = none)
    {geolocation : Option GeoLocation} {asn : Option ASNInfo}
    (valid : geoBundleValid geolocation asn = true) {written : JsonValue}
    (json : { node with geolocation := geolocation, asn := asn }.json numbers = some written)
    (path : String) :
    Frontend.compactGeoBundleBytes spelled (Frontend.shownBundle geolocation asn) path =
      .ok (geoBundleContribution (library.marshalling numbers) node geolocation asn) ∧
    ∃ geo system : Option Android.JSONObject,
      (geolocation.bind (geoLocationJson numbers)).map Json.clean = geo.map .object ∧
      (asn.map fun asn => Json.clean (asnInfoJson asn)) = system.map .object ∧
      Android.compactGeoBundleContribution doubleValue goJSONNumberBytes geo system path =
        .ok (geoBundleContribution (library.marshalling numbers) node geolocation asn) := by
  obtain ⟨latency, location, latencyWritten, located⟩ := exists_written json
  have contribution := @geoBundleContribution_eq _ library _ _ asn alone _ _ latencyWritten located
  obtain ⟨geo, system, geoClean, systemClean, -, -, counted⟩ :=
    Android.exists_bundle counts valid located
  have same : geolocation.bind (geoLocationJson numbers) = location := by
    cases geolocation with
    | none =>
        cases located
        rfl
    | some geolocation =>
        obtain ⟨value, found, rfl⟩ := Option.map_eq_some_iff.mp located
        exact found
  rw [contribution]
  exact ⟨Frontend.compactGeoBundleBytes_shown spells valid located path, geo, system,
    same ▸ geoClean, systemClean, counted path⟩

/-- A bundle that the server admits is written, and both clients take it. -/
theorem admitted_accepted (spells : Frontend.SpellsAs numbers spelled)
    (counts : Android.CountsAs numbers doubleValue goJSONNumberBytes) {library : Library}
    {aggregate : NodeAggregate} {includeGeo : Bool} {id : String}
    (admitted : aggregate.geoOutcome (library.marshalling numbers) includeGeo id = .included)
    (path : String) :
    ∃ written browser android,
      (aggregate.node (library.marshalling numbers) includeGeo id).json numbers = some written ∧
      Frontend.JsValue.ofJson written = .object browser ∧ Json.clean written = .object android ∧
      Frontend.normalizeGeoBundle spelled browser path = .ok
        (Frontend.shownBundle aggregate.geolocation (canonicalASNInfo aggregate.asn)) ∧
      Android.checkGeoBundle doubleValue goJSONNumberBytes android path = .ok () := by
  have shape : aggregate.node (library.marshalling numbers) includeGeo id =
      { aggregate.plain id with
        geolocation := aggregate.geolocation, asn := canonicalASNInfo aggregate.asn } := by
    rw [NodeAggregate.node, if_pos admitted]
  obtain ⟨isPublic, valid, within⟩ := included_of_geoOutcome admitted
  obtain ⟨raw, rawJson⟩ := exists_json_of_le within
  obtain ⟨latency, location, latencyWritten, located⟩ := exists_written rawJson
  obtain ⟨written, json⟩ : ∃ written, { aggregate.plain id with
      geolocation := aggregate.geolocation, asn := canonicalASNInfo aggregate.asn }.json numbers =
        some written := by
    rw [Node.json]
    dsimp only at latencyWritten located ⊢
    rw [latencyWritten, located]
    exact ⟨_, rfl⟩
  have contribution := @geoBundleContribution_eq _ library (aggregate.plain id) _ aggregate.asn
    ⟨rfl, rfl⟩ _ _ latencyWritten located
  have smaller := fieldBytes_canonicalASNInfo_le aggregate.asn
  have kept := geoBundleValid_canonicalASNInfo valid
  have canonical := canonicalASNInfo_idem aggregate.asn
  obtain ⟨browser, location', browserJson, located', browserRun⟩ :=
    Frontend.normalizeGeoBundle_json spells isPublic kept canonical json path
  obtain ⟨android, location'', androidJson, located'', androidRun⟩ :=
    Android.checkGeoBundle_json counts isPublic kept canonical json path
  obtain rfl := Option.some.inj (located.symm.trans located')
  obtain rfl := Option.some.inj (located.symm.trans located'')
  rw [contribution] at within
  refine ⟨written, browser, android, shape ▸ json, browserJson, androidJson, ?_, ?_⟩
  · rw [browserRun, if_neg]
    exact not_lt.mpr ((Nat.add_le_add_left smaller _).trans within)
  · rw [androidRun, if_neg]
    exact not_lt.mpr ((Nat.add_le_add_left smaller _).trans within)

/-- The clients count strings and bundles as the server does, and take what it
admits. -/
theorem clients_count (spells : Frontend.SpellsAs numbers spelled)
    (counts : Android.CountsAs numbers doubleValue goJSONNumberBytes) (path : String) :
    (∀ value : String,
      Frontend.goJSONUnitBytes (utf16 value.toList) path maxGeoBundleBytes =
        (if utf8Length value.toList ≤ maxGeoBundleBytes then
          .ok (Json.length (.string (.ofString value)))
        else Frontend.schemaError path "Geo string exceeds byte limit") ∧
      Android.goJSONStringBytes (utf16 value.toList) path =
        (if utf8Length value.toList ≤ maxGeoBundleBytes then
          .ok (Json.length (.string (.ofString value)))
        else Android.error path "Geo string exceeds byte limit")) ∧
    (∀ (library : Library) (node : Node) (geolocation : Option GeoLocation) (asn : Option ASNInfo)
      (written : JsonValue), node.geolocation = none ∧ node.asn = none →
      geoBundleValid geolocation asn = true →
      { node with geolocation := geolocation, asn := asn }.json numbers = some written →
      Frontend.compactGeoBundleBytes spelled (Frontend.shownBundle geolocation asn) path =
        .ok (geoBundleContribution (library.marshalling numbers) node geolocation asn) ∧
      ∃ geo system : Option Android.JSONObject,
        (geolocation.bind (geoLocationJson numbers)).map Json.clean = geo.map .object ∧
        (asn.map fun asn => Json.clean (asnInfoJson asn)) = system.map .object ∧
        Android.compactGeoBundleContribution doubleValue goJSONNumberBytes geo system path =
          .ok (geoBundleContribution (library.marshalling numbers) node geolocation asn)) ∧
    ∀ (library : Library) (aggregate : NodeAggregate) (includeGeo : Bool) (id : String),
      aggregate.geoOutcome (library.marshalling numbers) includeGeo id = .included →
      ∃ written browser android,
        (aggregate.node (library.marshalling numbers) includeGeo id).json numbers =
          some written ∧
        Frontend.JsValue.ofJson written = .object browser ∧
        Json.clean written = .object android ∧
        Frontend.normalizeGeoBundle spelled browser path = .ok
          (Frontend.shownBundle aggregate.geolocation (canonicalASNInfo aggregate.asn)) ∧
        Android.checkGeoBundle doubleValue goJSONNumberBytes android path = .ok () :=
  ⟨fun value => string_bytes value path,
    fun library _ _ _ _ alone valid json =>
      bundle_bytes spells counts library alone valid json path,
    fun _ _ _ _ admitted => admitted_accepted spells counts admitted path⟩

end Bundles

/-! ## Examples -/

section Paris

/-- The texts of two numbers. -/
def parisNumbers (value : F64) : Option JsonNumber :=
  if value = .finite 48 then some (.ofNat 48)
  else if value = .finite 2 then some (.ofNat 2)
  else none

def parisSpelled : F64 → List Char
  | .finite value => Decimal.digits value.num.toNat
  | _ => []

def parisNumberBytes (value : F64) : Nat := (parisNumbers value).elim 0 (·.text.length)

theorem parisNumbers_eq {value : F64} {number : JsonNumber}
    (written : parisNumbers value = some number) :
    value = .finite 48 ∧ number = .ofNat 48 ∨ value = .finite 2 ∧ number = .ofNat 2 := by
  rw [parisNumbers] at written
  split at written
  · exact .inl ⟨‹_›, (Option.some.inj written).symm⟩
  · split at written
    · exact .inr ⟨‹_›, (Option.some.inj written).symm⟩
    · cases written

theorem parisSpells : Frontend.SpellsAs parisNumbers parisSpelled where
  float := by
    intro value number written _
    rcases parisNumbers_eq written with ⟨rfl, rfl⟩ | ⟨rfl, rfl⟩ <;> rfl
  zero := by
    intro number written
    rcases parisNumbers_eq written with ⟨zero, -⟩ | ⟨zero, -⟩ <;> cases zero
  integer := by
    intro value small
    have read := @Frontend.round_natCast value (by omega)
    rw [F64.ofInt, Int.cast_natCast, read, parisSpelled, Rat.num_natCast, Int.toNat_natCast]
  read := by
    intro value number written
    rcases parisNumbers_eq written with ⟨rfl, rfl⟩ | ⟨rfl, rfl⟩
    · exact_mod_cast @Frontend.toNumber_ofNat 48 (by decide)
    · exact_mod_cast @Frontend.toNumber_ofNat 2 (by decide)

theorem parisCounts : Android.CountsAs parisNumbers Frontend.toNumber parisNumberBytes where
  read := parisSpells.read
  length := by
    intro value number written
    rw [parisNumberBytes, written]
    rfl

def paris : GeoLocation :=
  ⟨.ofString "Paris", [], .ofString "France", .ofString "FR", .finite 48, .finite 2⟩

def parisNode : Node :=
  ⟨"n000001", .ip, .ofString "192.0.2.1", .healthy, 1, 1, none, 1, true, none, none⟩

def parisLibrary : Library := ⟨fun _ => none, id, fun _ => none, fun _ => none⟩

theorem clients_count_paris :
    Frontend.compactGeoBundleBytes parisSpelled
        (Frontend.shownBundle (some paris) (some ⟨3215, .ofString "Orange"⟩)) "report" =
      .ok (geoBundleContribution (parisLibrary.marshalling parisNumbers) parisNode (some paris)
        (some ⟨3215, .ofString "Orange"⟩)) :=
  ((clients_count parisSpells parisCounts "report").2.1 parisLibrary parisNode (some paris)
    (some ⟨3215, .ofString "Orange"⟩) _ ⟨rfl, rfl⟩ (by decide +kernel) rfl).1

end Paris

/-- Both clients refuse a string of more than the limit. -/
theorem long_string_refused :
    Frontend.goJSONUnitBytes (utf16 (List.replicate 4097 'a')) "report" maxGeoBundleBytes ≠
        .ok (Json.length (.string (.ofString (String.ofList (List.replicate 4097 'a'))))) ∧
      Android.goJSONStringBytes (utf16 (List.replicate 4097 'a')) "report" ≠
        .ok (Json.length (.string (.ofString (String.ofList (List.replicate 4097 'a'))))) := by
  obtain ⟨browser, android⟩ := string_bytes (String.ofList (List.replicate 4097 'a')) "report"
  have length : utf8Length (List.replicate 4097 'a') = 4097 := by
    rw [utf8Length, List.map_replicate, List.sum_replicate]
    rfl
  rw [String.toList_ofList, if_neg (by rw [length]; decide)] at browser android
  rw [browser, android]
  constructor
  · intro same
    cases same
  · intro same
    cases same

end CheckNetwork.Api
