import CheckNetwork.Compact.BundleBytes
import CheckNetwork.Frontend.GeoDetails

/-!
# Bundles in the browser

The browser checks the location and the system of a node, and counts again how
many bytes the server has written for them.
-/

namespace CheckNetwork.Frontend

open CheckNetwork.Compact
open CheckNetwork.Diagnostic
open CheckNetwork.Go

/-! ## Sizes -/

/-- `goJSONStringBytes`, on the code units of a string. -/
def goJSONUnitBytes (units : List Nat) (path : String) (maxUTF8 : Nat) : Checked Nat :=
  (Json.stringBytes maxUTF8 units).mapError fun problem => ⟨path, problem.message⟩

/-- The text that a number has as a string; `-0` is written as such. -/
def goJSONNumberBytes (spelled : F64 → List Char) (value : F64) : Nat :=
  if value = .negativeZero then "-0".length else (spelled value).length

/-- What the browser has read of a bundle. -/
structure GeoBundle where
  hasGeo : Bool
  city : String
  region : String
  country : String
  countryCode : String
  latitude : F64
  longitude : F64
  hasASN : Bool
  asnNumber : Int
  organization : String

def noBundle : GeoBundle :=
  ⟨false, "", "", "", "", F64.ofInt 0, F64.ofInt 0, false, 0, ""⟩

def geoTextBytes (path : String) (counted : Counted) (field : String × String) :
    Checked Counted :=
  if field.2 = "" then .ok counted
  else (goJSONUnitBytes (utf16 field.2.toList) (path ++ ".geolocation." ++ field.1)
    maxGeoBundleBytes).map (counted.add field.1)

def geolocationBytes (spelled : F64 → List Char) (bundle : GeoBundle) (path : String) :
    Checked Nat :=
  if bundle.hasGeo then
    ([("city", bundle.city), ("region", bundle.region), ("country", bundle.country),
      ("country_code", bundle.countryCode)].foldlM (geoTextBytes path)
        ⟨",\"geolocation\":\x7b".length, true⟩).map fun counted =>
      coordinatesBytes counted (goJSONNumberBytes spelled bundle.latitude)
        (goJSONNumberBytes spelled bundle.longitude)
  else .ok 0

def organizationBytes (bundle : GeoBundle) (path : String) : Checked (Option Nat) :=
  if bundle.organization = "" then .ok none
  else (goJSONUnitBytes (utf16 bundle.organization.toList) (path ++ ".asn.organization")
    maxGeoBundleBytes).map some

def numberBytes (spelled : F64 → List Char) (bundle : GeoBundle) : Option Nat :=
  if bundle.asnNumber = 0 then none
  else some (goJSONNumberBytes spelled (F64.ofInt bundle.asnNumber))

def compactGeoBundleBytes (spelled : F64 → List Char) (bundle : GeoBundle) (path : String) :
    Checked Nat := do
  let bytes ← geolocationBytes spelled bundle path
  if bundle.hasASN then do
    let organization ← organizationBytes bundle path
    .ok (systemBytes bytes (numberBytes spelled bundle) organization)
  else .ok bytes

/-! ## Nodes -/

/-- `finite`. -/
def finiteNumber (value : JsValue) (path : String) (min max : Int) : Checked F64 :=
  match value with
  | .number number =>
      if number.value?.isNone || number.lt (.ofInt min) || (F64.ofInt max).lt number then
        schemaError path "expected bounded finite number"
      else .ok number
  | _ => schemaError path "expected bounded finite number"

/-- A text that may be left out. -/
def textOr (members : List (String × JsValue)) (path key : String) : Checked String :=
  match members.lookup key with
  | none => .ok ""
  | some value => text value (path ++ "." ++ key) 4096

/-- `public_ip` of a node, which is there only if it is true. -/
def publicIP (item : List (String × JsValue)) (path : String) : Checked Bool :=
  match item.lookup "public_ip" with
  | none => .ok false
  | some (.bool true) => .ok true
  | some (.bool false) => schemaError (path ++ ".public_ip") "present value must be true"
  | some _ => schemaError (path ++ ".public_ip") "expected boolean"

def normalizeGeoLocation (value : JsValue) (path : String) : Checked GeoBundle := do
  let geo ← object value path
  allowedFields geo ["latitude", "longitude"] ["city", "region", "country", "country_code"] path
  let city ← textOr geo path "city"
  let region ← textOr geo path "region"
  let country ← textOr geo path "country"
  let countryCode ← textOr geo path "country_code"
  let latitude ← finiteNumber (.get geo "latitude") (path ++ ".latitude") (-90) 90
  let longitude ← finiteNumber (.get geo "longitude") (path ++ ".longitude") (-180) 180
  .ok { noBundle with
    hasGeo := true, city, region, country, countryCode, latitude, longitude }

/-- A number that may be left out. -/
def numberOr (asn : List (String × JsValue)) (path : String) : Checked Int :=
  match asn.lookup "number" with
  | none => .ok 0
  | some number => integer number (path ++ ".number") 1 4294967295

def normalizeASN (bundle : GeoBundle) (value : JsValue) (path : String) : Checked GeoBundle := do
  let asn ← object value path
  allowedFields asn [] ["number", "organization"] path
  let asnNumber ← numberOr asn path
  let organization ← textOr asn path "organization"
  if asnNumber = 0 ∧ organization = "" then schemaError path "empty ASN is not canonical"
  else .ok { bundle with hasASN := true, asnNumber, organization }

/-- What is read of the bundle of a node. -/
def normalizeGeoBundle (spelled : F64 → List Char) (item : List (String × JsValue))
    (path : String) : Checked GeoBundle := do
  let isPublic ← publicIP item path
  let geolocation := item.lookup "geolocation"
  let asn := item.lookup "asn"
  if (geolocation.isSome || asn.isSome) && !isPublic then
    schemaError path "Geo bundle requires public_ip true"
  else do
    let bundle ← geolocation.elim (.ok noBundle) (normalizeGeoLocation · (path ++ ".geolocation"))
    let bundle ← asn.elim (.ok bundle) (normalizeASN bundle · (path ++ ".asn"))
    let bytes ← compactGeoBundleBytes spelled bundle path
    if maxGeoBundleBytes < bytes then schemaError path "Geo bundle exceeds byte limit"
    else .ok bundle

/-! ## Sizes agree -/

/-- The browser spells a number as the server writes it, and reads it back. -/
structure SpellsAs (numbers : F64 → Option JsonNumber) (spelled : F64 → List Char) : Prop where
  float : ∀ value number, numbers value = some number → value ≠ .negativeZero →
    spelled value = number.text
  zero : ∀ number, numbers .negativeZero = some number → number.text = ['-', '0']
  integer : ∀ value : Nat, value ≤ 4294967295 → spelled (F64.ofInt value) = Decimal.digits value
  read : ∀ value number, numbers value = some number → toNumber number = value

section Sizes

variable {numbers : F64 → Option JsonNumber} {spelled : F64 → List Char}

/-- The browser counts what the server writes, and refuses what is too long. -/
theorem goJSONUnitBytes_eq (value path : String) (maxUTF8 : Nat) :
    goJSONUnitBytes (utf16 value.toList) path maxUTF8 =
      if utf8Length value.toList ≤ maxUTF8 then .ok (utf8Length (Json.quote (.ofString value)))
      else schemaError path "Geo string exceeds byte limit" := by
  rw [goJSONUnitBytes, Json.stringBytes_utf16]
  split <;> rfl

theorem goJSONNumberBytes_eq (spells : SpellsAs numbers spelled) {value : F64} {number : JsonNumber}
    (written : numbers value = some number) :
    goJSONNumberBytes spelled value = number.text.length := by
  rw [goJSONNumberBytes]
  split
  · rename_i zero
    rw [zero] at written
    rw [spells.zero number written]
    rfl
  · rename_i nonzero
    rw [spells.float value number written nonzero]

theorem goJSONNumberBytes_ofInt (spells : SpellsAs numbers spelled) {value : Nat}
    (small : value ≤ 4294967295) :
    goJSONNumberBytes spelled (F64.ofInt value) = (Decimal.digits value).length := by
  have plain : F64.ofInt value ≠ .negativeZero := by
    have read := @round_natCast value (by omega)
    rw [F64.ofInt, Int.cast_natCast, read]
    nofun
  rw [goJSONNumberBytes, if_neg plain, spells.integer value small]

/-- A text is counted as it is written. -/
theorem exists_geoTextBytes {key : String} {text : GoString} (plain : PlainKey key)
    (valid : validGeoString text = true) (path : String) (counted : Counted) :
    ∃ next, geoTextBytes path counted (key, text.text) = .ok next ∧
      next.whole = counted.whole + fieldBytes (key, Json.omitempty text) := by
  rw [validGeoString, Bool.and_eq_true, decide_eq_true_iff] at valid
  by_cases empty : text = []
  · refine ⟨counted, ?_, ?_⟩
    · rw [geoTextBytes, empty]
      exact if_pos rfl
    · rw [empty]
      rfl
  · have length := GoString.utf8Length_text valid.2
    refine ⟨counted.add key (utf8Length (Json.quote text)), ?_, ?_⟩
    · rw [geoTextBytes, if_neg (GoString.text_ne_empty empty)]
      dsimp only
      rw [goJSONUnitBytes_eq, if_pos (length ▸ valid.1), GoString.ofString_text valid.2]
      rfl
    · rw [Counted.whole_add, fieldBytes_omitempty plain empty]

/-- What the browser reads of a bundle that the server has written. -/
def shownBundle (geolocation : Option GeoLocation) (asn : Option ASNInfo) : GeoBundle where
  hasGeo := geolocation.isSome
  city := geolocation.elim "" (·.city.text)
  region := geolocation.elim "" (·.region.text)
  country := geolocation.elim "" (·.country.text)
  countryCode := geolocation.elim "" (·.countryCode.text)
  latitude := geolocation.elim (F64.ofInt 0) (·.latitude)
  longitude := geolocation.elim (F64.ofInt 0) (·.longitude)
  hasASN := asn.isSome
  asnNumber := asn.elim 0 (·.number)
  organization := asn.elim "" (·.organization.text)

theorem shownBundle_none : shownBundle none none = noBundle := by
  simp only [shownBundle, noBundle, Option.elim_none, Option.isSome_none]

theorem plainKey_geoTexts {geolocation : GeoLocation} :
    ∀ field ∈ geoTexts geolocation, PlainKey field.1 := by
  simp only [geoTexts, List.forall_mem_cons, List.not_mem_nil, false_imp_iff, implies_true, and_true]
  decide

/-- The bytes of a location. -/
theorem geolocationBytes_shown (spells : SpellsAs numbers spelled)
    {geolocation : Option GeoLocation} {asn : Option ASNInfo} {written : Option JsonValue}
    (valid : geoBundleValid geolocation asn = true)
    (json : pointer (geoLocationJson numbers) geolocation = some written) (path : String) :
    geolocationBytes spelled (shownBundle geolocation asn) path =
      .ok (fieldBytes ("geolocation", written)) := by
  cases geolocation with
  | none =>
      cases json
      rfl
  | some geolocation =>
      obtain ⟨location, located, rfl⟩ := Option.map_eq_some_iff.mp json
      obtain ⟨-, -, city, region, country, countryCode⟩ := valid_of_geoBundleValid valid
      obtain ⟨latitude, longitude, latitudeText, longitudeText⟩ := exists_coordinates located
      have texts : ∀ field ∈ geoTexts geolocation, validGeoString field.2 = true := by
        simp [geoTexts, city, region, country, countryCode]
      obtain ⟨counted, run, whole⟩ := @exists_counted _
        (fun counted field => geoTextBytes path counted (field.1, field.2.text)) _
        (fun field member => exists_geoTextBytes (plainKey_geoTexts field member)
          (texts field member) path) ⟨",\"geolocation\":\x7b".length, true⟩
      have total := coordinatesBytes_eq latitudeText longitudeText whole
      rw [located, ← goJSONNumberBytes_eq spells latitudeText,
        ← goJSONNumberBytes_eq spells longitudeText] at total
      rw [geolocationBytes, ← total]
      exact (if_pos rfl).trans (congrArg (Except.map _) run)

theorem organizationBytes_shown {geolocation : Option GeoLocation} {asn : ASNInfo}
    (valid : validGeoString asn.organization = true) (path : String) :
    organizationBytes (shownBundle geolocation (some asn)) path =
      .ok (if asn.organization = [] then none
        else some (utf8Length (Json.quote asn.organization))) := by
  rw [validGeoString, Bool.and_eq_true, decide_eq_true_iff] at valid
  have length := GoString.utf8Length_text valid.2
  have shown : (shownBundle geolocation (some asn)).organization = asn.organization.text := rfl
  rw [organizationBytes, shown]
  by_cases empty : asn.organization = []
  · rw [empty]
    rfl
  · rw [if_neg (GoString.text_ne_empty empty), if_neg empty, goJSONUnitBytes_eq,
      if_pos (length ▸ valid.1), GoString.ofString_text valid.2]
    rfl

theorem numberBytes_shown (spells : SpellsAs numbers spelled) {geolocation : Option GeoLocation}
    {asn : ASNInfo} (small : asn.number ≤ 4294967295) :
    numberBytes spelled (shownBundle geolocation (some asn)) =
      if asn.number = 0 then none else some (Decimal.digits asn.number).length := by
  have shown : (shownBundle geolocation (some asn)).asnNumber = (asn.number : Int) := rfl
  rw [numberBytes, shown, goJSONNumberBytes_ofInt spells small]
  by_cases zero : asn.number = 0
  · rw [if_pos zero, if_pos (by exact_mod_cast zero)]
  · rw [if_neg zero, if_neg (by exact_mod_cast zero)]

/-- The browser counts a bundle as the server has written it. -/
theorem compactGeoBundleBytes_shown (spells : SpellsAs numbers spelled)
    {geolocation : Option GeoLocation} {asn : Option ASNInfo} {written : Option JsonValue}
    (valid : geoBundleValid geolocation asn = true)
    (json : pointer (geoLocationJson numbers) geolocation = some written) (path : String) :
    compactGeoBundleBytes spelled (shownBundle geolocation asn) path =
      .ok (fieldBytes ("geolocation", written) + fieldBytes ("asn", asn.map asnInfoJson)) := by
  have location := geolocationBytes_shown spells valid json path
  unfold compactGeoBundleBytes
  rw [location]
  cases asn with
  | none => rfl
  | some asn =>
      obtain ⟨small, organization⟩ := asn_of_geoBundleValid valid
      have total := systemBytes_eq (fieldBytes ("geolocation", written)) asn
      rw [Option.map_some, ← total, ← @numberBytes_shown _ _ spells geolocation _ small]
      change (organizationBytes (shownBundle geolocation (some asn)) path >>= _) = _
      rw [organizationBytes_shown organization]
      rfl

end Sizes

/-! ## Bundles are accepted -/

section Accepted

variable {numbers : F64 → Option JsonNumber} {spelled : F64 → List Char}

/-- A text that the server admits is read as it is. -/
theorem textOr_ofFields {fields : List (String × Option JsonValue)} {key : String}
    {value : GoString} (distinct : (fields.map Prod.fst).Nodup)
    (found : fields.lookup key = some (Json.omitempty value))
    (valid : validGeoString value = true) (path : String) :
    textOr (JsValue.ofFields fields) path key = .ok value.text := by
  rw [validGeoString, Bool.and_eq_true, decide_eq_true_iff] at valid
  rw [textOr, JsValue.lookup_ofFields distinct, found, Option.join_some, map_omitempty]
  by_cases empty : value = []
  · rw [if_pos empty, empty]
    rfl
  · rw [if_neg empty]
    exact text_eq (GoString.utf8Length_text valid.2 ▸ valid.1) (GoString.text_ne_empty empty)

/-- A coordinate that the server admits is read as it is. -/
theorem finiteNumber_number (spells : SpellsAs numbers spelled) {value : F64} {number : JsonNumber}
    (written : numbers value = some number) {bound : Int}
    (valid : validCoordinate value bound = true) (path : String) :
    finiteNumber (JsValue.ofJson (.number number)) path (-bound) bound = .ok value := by
  obtain ⟨whole, least, greatest⟩ := finite_of_validCoordinate valid
  rw [JsValue.ofJson, spells.read value number written, finiteNumber, whole, least, greatest]
  rfl

theorem normalizeGeoLocation_json (spells : SpellsAs numbers spelled) {geolocation : GeoLocation}
    {asn : Option ASNInfo} (valid : geoBundleValid (some geolocation) asn = true)
    {written : JsonValue} (json : geoLocationJson numbers geolocation = some written)
    (path : String) : normalizeGeoLocation (JsValue.ofJson written) path =
      .ok (shownBundle (some geolocation) none) := by
  obtain ⟨latitudeValid, longitudeValid, city, region, country, countryCode⟩ :=
    valid_of_geoBundleValid valid
  obtain ⟨latitude, longitude, latitudeText, longitudeText⟩ := exists_coordinates json
  rw [geoLocationJson, Compact.geoLocationFields, latitudeText, longitudeText] at json
  obtain rfl := Option.some.inj json
  set fields : List (String × Option JsonValue) :=
    [("city", Json.omitempty geolocation.city), ("region", Json.omitempty geolocation.region),
      ("country", Json.omitempty geolocation.country),
      ("country_code", Json.omitempty geolocation.countryCode),
      ("latitude", some (.number latitude)), ("longitude", some (.number longitude))]
  have keys : fields.map Prod.fst =
    ["city", "region", "country", "country_code", "latitude", "longitude"] := rfl
  have distinct : (fields.map Prod.fst).Nodup := by
    rw [keys]
    decide
  have allowed : allowedFields (JsValue.ofFields fields) ["latitude", "longitude"]
      ["city", "region", "country", "country_code"] path = .ok () := by
    apply allowedFields_ofFields
    · rw [keys]
      decide
    · intro key member
      rw [JsValue.lookup_ofFields distinct]
      rcases List.mem_pair.mp member with rfl | rfl <;> rfl
  have number : ∀ key written, fields.lookup key = some (some (.number written)) →
      JsValue.get (JsValue.ofFields fields) key = JsValue.ofJson (.number written) := by
    intro key written found
    rw [JsValue.get, JsValue.lookup_ofFields distinct, found]
    rfl
  have text : ∀ key value, fields.lookup key = some (Json.omitempty value) →
      validGeoString value = true →
      textOr (JsValue.ofFields fields) path key = .ok value.text :=
    fun key value found valid => textOr_ofFields distinct found valid path
  unfold normalizeGeoLocation
  rw [JsValue.ofJson_members distinct]
  simp only [bind, Except.bind, object, allowed, text "city" _ rfl city,
    text "region" _ rfl region, text "country" _ rfl country,
    text "country_code" _ rfl countryCode, number "latitude" latitude rfl,
    number "longitude" longitude rfl, finiteNumber_number spells latitudeText latitudeValid,
    finiteNumber_number spells longitudeText longitudeValid]
  rfl

theorem normalizeASN_json {geolocation : Option GeoLocation} {asn : ASNInfo}
    (valid : geoBundleValid geolocation (some asn) = true)
    (canonical : ¬(asn.number = 0 ∧ asn.organization = [])) (path : String) :
    normalizeASN (shownBundle geolocation none) (JsValue.ofJson (asnInfoJson asn)) path =
      .ok (shownBundle geolocation (some asn)) := by
  obtain ⟨small, organization⟩ := asn_of_geoBundleValid valid
  have keys : (asnInfoFields asn).map Prod.fst = ["number", "organization"] := rfl
  have distinct : ((asnInfoFields asn).map Prod.fst).Nodup := by
    rw [keys]
    decide
  have allowed : allowedFields (JsValue.ofFields (asnInfoFields asn)) []
      ["number", "organization"] path = .ok () := by
    apply allowedFields_ofFields
    · rw [keys]
      decide
    · exact fun _ => nofun
  have text : textOr (JsValue.ofFields (asnInfoFields asn)) path "organization" =
      .ok asn.organization.text := textOr_ofFields distinct rfl organization path
  have number : numberOr (JsValue.ofFields (asnInfoFields asn)) path = .ok asn.number := by
    rw [numberOr, JsValue.lookup_ofFields distinct]
    have found : (asnInfoFields asn).lookup "number" =
      some (if asn.number = 0 then none else some (.number (.ofNat asn.number))) := rfl
    rw [found, Option.join_some]
    by_cases zero : asn.number = 0
    · rw [if_pos zero, zero]
      rfl
    · rw [if_neg zero, Option.map_some, JsValue.ofJson, toNumber_ofNat (by omega)]
      dsimp only
      exact integer_natCast (by omega) (by omega) (by rw [maxSafeInteger]; omega)
  have kept : ¬((asn.number : Int) = 0 ∧ asn.organization.text = "") := by
    rintro ⟨zero, empty⟩
    refine canonical ⟨by exact_mod_cast zero, ?_⟩
    by_contra nonempty
    exact GoString.text_ne_empty nonempty empty
  unfold normalizeASN
  rw [asnInfoJson, JsValue.ofJson_members distinct]
  simp only [bind, Except.bind, object, allowed, number, text]
  rw [if_neg kept]
  rfl

/-- The browser takes a bundle as the server has written it, unless it is too
large. -/
theorem normalizeGeoBundle_json (spells : SpellsAs numbers spelled) {node : Node}
    (isPublic : node.publicIP = true) (valid : geoBundleValid node.geolocation node.asn = true)
    (canonical : canonicalASNInfo node.asn = node.asn) {written : JsonValue}
    (json : node.json numbers = some written) (path : String) :
    ∃ item location, JsValue.ofJson written = .object item ∧
      pointer (geoLocationJson numbers) node.geolocation = some location ∧
      normalizeGeoBundle spelled item path =
        if maxGeoBundleBytes < fieldBytes ("geolocation", location) +
          fieldBytes ("asn", node.asn.map asnInfoJson) then
            schemaError path "Geo bundle exceeds byte limit"
        else .ok (shownBundle node.geolocation node.asn) := by
  obtain ⟨latency, -, json⟩ := Option.bind_eq_some_iff.mp json
  obtain ⟨location, located, json⟩ := Option.bind_eq_some_iff.mp json
  obtain rfl := Option.some.inj json
  have keys : (node.plainFields latency ++ [("geolocation", location),
      ("asn", node.asn.map asnInfoJson)]).map Prod.fst = ["id", "kind", "address", "status",
        "hop_min", "hop_max", "latency_ms_avg", "observations", "public_ip", "geolocation",
        "asn"] := rfl
  have distinct : ((node.plainFields latency ++ [("geolocation", location),
      ("asn", node.asn.map asnInfoJson)]).map Prod.fst).Nodup := by
    rw [keys]
    decide
  refine ⟨_, location, JsValue.ofJson_members distinct, located, ?_⟩
  set item := JsValue.ofFields (node.plainFields latency ++ [("geolocation", location),
    ("asn", node.asn.map asnInfoJson)])
  have flag : item.lookup "public_ip" = some (.bool true) := by
    rw [JsValue.lookup_ofFields distinct]
    have found : (node.plainFields latency ++ [("geolocation", location),
      ("asn", node.asn.map asnInfoJson)]).lookup "public_ip" =
        some (if node.publicIP then some (.bool true) else none) := rfl
    rw [found, isPublic]
    rfl
  have geo : item.lookup "geolocation" = location.map JsValue.ofJson :=
    JsValue.lookup_ofFields distinct
  have system : item.lookup "asn" =
      node.asn.map fun asn => JsValue.ofJson (asnInfoJson asn) := by
    have mapped := Option.map_map JsValue.ofJson asnInfoJson node.asn
    rw [JsValue.lookup_ofFields distinct]
    exact mapped
  have allowed : publicIP item path = .ok true := by
    rw [publicIP, flag]
  have first : (location.map JsValue.ofJson).elim (.ok noBundle)
      (normalizeGeoLocation · (path ++ ".geolocation")) =
        .ok (shownBundle node.geolocation none) := by
    cases bundle : node.geolocation with
    | none =>
        rw [bundle] at located
        cases located
        rw [shownBundle_none]
        rfl
    | some geolocation =>
        rw [bundle] at located valid
        obtain ⟨written, found, rfl⟩ := Option.map_eq_some_iff.mp located
        exact normalizeGeoLocation_json spells valid found _
  have second : (node.asn.map fun asn => JsValue.ofJson (asnInfoJson asn)).elim
      (.ok (shownBundle node.geolocation none))
      (normalizeASN (shownBundle node.geolocation none) · (path ++ ".asn")) =
        .ok (shownBundle node.geolocation node.asn) := by
    cases present : node.asn with
    | none => rfl
    | some asn =>
        rw [present] at valid canonical
        refine normalizeASN_json valid ?_ _
        intro empty
        rw [canonicalASNInfo, if_pos empty] at canonical
        cases canonical
  unfold normalizeGeoBundle
  rw [geo, system, allowed]
  dsimp only [bind, Except.bind]
  rw [Bool.not_true, Bool.and_false, if_neg Bool.false_ne_true, first]
  dsimp only
  rw [second]
  dsimp only
  rw [compactGeoBundleBytes_shown spells valid located]

end Accepted

end CheckNetwork.Frontend
