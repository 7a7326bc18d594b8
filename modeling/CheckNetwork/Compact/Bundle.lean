import CheckNetwork.Compact.Build
import CheckNetwork.Go.JsonSize
import CheckNetwork.Go.JsonStruct

/-!
# The text of a bundle

What `json.Marshal` writes for a node, and how many bytes of it are those of the
location and the system of the node.  The texts of floating-point numbers are a
parameter; there is none for a number that is not finite.
-/

namespace CheckNetwork.Compact

open Diagnostic Go

variable (numbers : F64 → Option JsonNumber)

/-! ## Nodes -/

def geoLocationFields (geolocation : GeoLocation) : Option (List (String × Option JsonValue)) := do
  let latitude ← numbers geolocation.latitude
  let longitude ← numbers geolocation.longitude
  some [("city", Json.omitempty geolocation.city), ("region", Json.omitempty geolocation.region),
    ("country", Json.omitempty geolocation.country),
    ("country_code", Json.omitempty geolocation.countryCode),
    ("latitude", some (.number latitude)), ("longitude", some (.number longitude))]

def geoLocationJson (geolocation : GeoLocation) : Option JsonValue :=
  (geoLocationFields numbers geolocation).map fun fields => .object (Json.members fields)

def asnInfoFields (asn : ASNInfo) : List (String × Option JsonValue) :=
  [("number", if asn.number = 0 then none else some (.number (.ofNat asn.number))),
    ("organization", Json.omitempty asn.organization)]

def asnInfoJson (asn : ASNInfo) : JsonValue := .object (Json.members (asnInfoFields asn))

/-- A pointer with the option `omitempty`. -/
def pointer {A : Type} (write : A → Option JsonValue) : Option A → Option (Option JsonValue)
  | none => some none
  | some value => (write value).map some

/-- The members of a node before its bundle. -/
def Node.plainFields (node : Node) (latency : Option JsonValue) :
    List (String × Option JsonValue) :=
  [("id", some (.string (.ofString node.id))), ("kind", some (.string (.ofString node.kind.text))),
    ("address", Json.omitempty node.address),
    ("status", some (.string (.ofString node.status.text))),
    ("hop_min", some (.number (.ofInt node.hopMin))),
    ("hop_max", some (.number (.ofInt node.hopMax))), ("latency_ms_avg", latency),
    ("observations", some (.number (.ofNat node.observations))),
    ("public_ip", if node.publicIP then some (.bool true) else none)]

def Node.json (node : Node) : Option JsonValue := do
  let latency ← pointer (fun value => (numbers value).map .number) node.latencyMSAvg
  let geolocation ← pointer (geoLocationJson numbers) node.geolocation
  some (.object (Json.members (node.plainFields latency ++
    [("geolocation", geolocation), ("asn", node.asn.map asnInfoJson)])))

/-- The functions of the library, where a node is written so. -/
def Library.marshalling (library : Library) : Library :=
  { library with nodeBytes := fun node => (node.json numbers).map Json.length }

/-! ## Contributions -/

section Contribution

variable {numbers} {library : Library} {node : Node} {geolocation : Option GeoLocation}
  {asn : Option ASNInfo}

/-- The bytes of a member that may be left out, with its comma. -/
def fieldBytes (field : String × Option JsonValue) : Nat :=
  field.2.elim 0 fun value => Json.memberLength (field.1, value)

theorem length_members {fields : List (String × Option JsonValue)}
    (nonempty : Json.members fields ≠ []) :
    Json.length (.object (Json.members fields)) = (fields.map fieldBytes).sum + 1 := by
  rw [Json.length_object nonempty, Json.sum_map_members]
  rfl

/-- The members of a bundle follow those of the node. -/
theorem geoBundleContribution_eq (alone : node.geolocation = none ∧ node.asn = none)
    {latency written : Option JsonValue}
    (latencyWritten : pointer (fun value => (numbers value).map JsonValue.number)
      node.latencyMSAvg = some latency)
    (geoWritten : pointer (geoLocationJson numbers) geolocation = some written) :
    geoBundleContribution (library.marshalling numbers) node geolocation asn =
      fieldBytes ("geolocation", written) + fieldBytes ("asn", asn.map asnInfoJson) := by
  have nonempty : ∀ more, Json.members (node.plainFields latency ++ more) ≠ [] := fun _ => nofun
  have plain : node.json numbers = some (.object (Json.members (node.plainFields latency ++
      [("geolocation", none), ("asn", none)]))) := by
    rw [Node.json, latencyWritten, alone.1, alone.2]
    rfl
  have full : { node with geolocation := geolocation, asn := asn }.json numbers =
      some (.object (Json.members (node.plainFields latency ++
        [("geolocation", written), ("asn", asn.map asnInfoJson)]))) := by
    rw [Node.json]
    dsimp only
    rw [latencyWritten, geoWritten]
    rfl
  unfold geoBundleContribution Library.marshalling
  dsimp only
  rw [plain, full, Option.map_some, Option.map_some]
  dsimp only
  rw [length_members (nonempty _), length_members (nonempty _), List.map_append, List.map_append,
    List.sum_append, List.sum_append]
  have none_ : ∀ key, fieldBytes (key, none) = 0 := fun _ => rfl
  simp only [List.map_cons, List.map_nil, List.sum_cons, List.sum_nil, none_]
  rw [if_neg (by omega)]
  omega

/-- The parts of a node that is written. -/
theorem exists_written {written : JsonValue} (json : node.json numbers = some written) :
    ∃ latency location, pointer (fun value => (numbers value).map JsonValue.number)
        node.latencyMSAvg = some latency ∧
      pointer (geoLocationJson numbers) node.geolocation = some location := by
  obtain ⟨latency, latencyWritten, json⟩ := Option.bind_eq_some_iff.mp json
  obtain ⟨location, located, -⟩ := Option.bind_eq_some_iff.mp json
  exact ⟨latency, location, latencyWritten, located⟩

/-- A node that cannot be written is past the limit. -/
theorem exists_json_of_le
    (within : geoBundleContribution (library.marshalling numbers) node geolocation asn ≤
      maxGeoBundleBytes) :
    ∃ written, { node with geolocation := geolocation, asn := asn }.json numbers =
      some written := by
  by_contra absent
  push Not at absent
  have none_ := Option.eq_none_iff_forall_ne_some.mpr absent
  have past : geoBundleContribution (library.marshalling numbers) node geolocation asn =
      maxGeoBundleBytes + 1 := by
    unfold geoBundleContribution Library.marshalling
    dsimp only
    rw [none_]
    cases node.json numbers <;> rfl
  omega

/-- What admits a bundle. -/
theorem included_of_geoOutcome {aggregate : NodeAggregate} {includeGeo : Bool} {id : String}
    (included : aggregate.geoOutcome library includeGeo id = .included) :
    aggregate.publicIP = true ∧ geoBundleValid aggregate.geolocation aggregate.asn = true ∧
      geoBundleContribution library (aggregate.plain id) aggregate.geolocation aggregate.asn ≤
        maxGeoBundleBytes := by
  unfold NodeAggregate.geoOutcome at included
  split at included
  · cases included
  · rename_i isPublic
    split at included
    · cases included
    · split at included
      · cases included
      · rename_i valid
        split at included
        · rename_i within
          rw [Bool.and_eq_true, decide_eq_true_iff] at within
          exact ⟨by simpa using isPublic, by simpa using valid, within.2⟩
        · cases included

/-- A bundle is no larger without an empty system. -/
theorem fieldBytes_canonicalASNInfo_le (asn : Option ASNInfo) :
    fieldBytes ("asn", (canonicalASNInfo asn).map asnInfoJson) ≤
      fieldBytes ("asn", asn.map asnInfoJson) := by
  cases asn with
  | none => exact le_rfl
  | some asn =>
      rw [canonicalASNInfo]
      split
      · exact Nat.zero_le _
      · exact le_rfl

theorem canonicalASNInfo_idem (asn : Option ASNInfo) :
    canonicalASNInfo (canonicalASNInfo asn) = canonicalASNInfo asn := by
  cases asn with
  | none => rfl
  | some asn =>
      rw [canonicalASNInfo]
      split
      · rfl
      · rename_i kept
        exact if_neg kept

theorem geoBundleValid_canonicalASNInfo (valid : geoBundleValid geolocation asn = true) :
    geoBundleValid geolocation (canonicalASNInfo asn) = true := by
  cases asn with
  | none => exact valid
  | some asn =>
      rw [canonicalASNInfo]
      split
      · rw [geoBundleValid, Bool.and_eq_true] at valid ⊢
        exact ⟨valid.1, rfl⟩
      · exact valid

/-- What admits a location. -/
theorem valid_of_geoBundleValid {geolocation : GeoLocation}
    (valid : geoBundleValid (some geolocation) asn = true) :
    validCoordinate geolocation.latitude 90 = true ∧
      validCoordinate geolocation.longitude 180 = true ∧
      validGeoString geolocation.city = true ∧ validGeoString geolocation.region = true ∧
      validGeoString geolocation.country = true ∧
      validGeoString geolocation.countryCode = true := by
  rw [geoBundleValid, Bool.and_eq_true, Option.all_some] at valid
  simp only [Bool.and_eq_true] at valid
  obtain ⟨⟨⟨⟨⟨⟨latitude, longitude⟩, city⟩, region⟩, country⟩, countryCode⟩, -⟩ := valid
  exact ⟨latitude, longitude, city, region, country, countryCode⟩

/-- What admits a system. -/
theorem asn_of_geoBundleValid {asn : ASNInfo}
    (valid : geoBundleValid geolocation (some asn) = true) :
    asn.number ≤ 4294967295 ∧ validGeoString asn.organization = true := by
  rw [geoBundleValid, Bool.and_eq_true, Option.all_some, Bool.and_eq_true,
    decide_eq_true_iff] at valid
  exact valid.2

/-- What admits a coordinate. -/
theorem finite_of_validCoordinate {value : F64} {bound : Int}
    (valid : validCoordinate value bound = true) :
    value.value?.isNone = false ∧ value.lt (.ofInt (-bound)) = false ∧
      (F64.ofInt bound).lt value = false := by
  simp only [validCoordinate, Bool.and_eq_true, Bool.not_eq_true'] at valid
  obtain ⟨⟨⟨nan, inf⟩, least⟩, greatest⟩ := valid
  refine ⟨?_, least, greatest⟩
  cases value with
  | nan => cases nan
  | infinite negative => cases inf
  | negativeZero => rfl
  | finite value => rfl

/-- The coordinates of a location that is written. -/
theorem exists_coordinates {geolocation : GeoLocation} {written : JsonValue}
    (json : geoLocationJson numbers geolocation = some written) :
    ∃ latitude longitude, numbers geolocation.latitude = some latitude ∧
      numbers geolocation.longitude = some longitude := by
  obtain ⟨fields, found, -⟩ := Option.map_eq_some_iff.mp json
  rw [geoLocationFields] at found
  obtain ⟨latitude, latitudeText, found⟩ := Option.bind_eq_some_iff.mp found
  obtain ⟨longitude, longitudeText, -⟩ := Option.bind_eq_some_iff.mp found
  exact ⟨latitude, longitude, latitudeText, longitudeText⟩

end Contribution

end CheckNetwork.Compact
