import CheckNetwork.Compact.BundleBytes
import CheckNetwork.Go.JsonUnits

/-!
# Bundles in the Android client

The client checks the location and the system of a node, and counts again how
many bytes the server has written for them.  How it reads a number, and the text
it gives to one, are parameters.
-/

namespace CheckNetwork.Android

open CheckNetwork.Compact
open CheckNetwork.Diagnostic
open CheckNetwork.Go

structure ReportParseError where
  path : String
  message : String
  deriving DecidableEq

abbrev Parsed := Except ReportParseError

def error {A : Type} (path message : String) : Parsed A := .error ⟨path, message⟩

abbrev JSONObject := List (String × JsonValue)

def maxCompactGeoBundleBytes : Nat := 4096

/-! ## Values -/

def required (members : JSONObject) (key path : String) : Parsed JsonValue :=
  match members.lookup key with
  | none | some .null => error path "required"
  | some value => .ok value

def object (value : JsonValue) (path : String) : Parsed JSONObject :=
  match value with
  | .object members => .ok members
  | _ => error path "expected object"

def text (members : JSONObject) (key path : String) (nonempty : Bool) (max : Nat) :
    Parsed String := do
  match ← required members key path with
  | .string value =>
      let units := utf16 value.text.toList
      if max < units.length ∨ nonempty ∧ units = [] then error path "invalid string length"
      else .ok value.text
  | _ => error path "expected string"

/-- `-?\d+`. -/
def isIntegral (text : List Char) : Bool :=
  match text with
  | '-' :: digits => digits ≠ [] && digits.all Char.isDigit
  | digits => digits ≠ [] && digits.all Char.isDigit

/-- The integer that such a text denotes. -/
def integral (text : List Char) : Int :=
  match text with
  | '-' :: digits => -(Nat.ofDigitChars 10 digits 0 : Int)
  | digits => Nat.ofDigitChars 10 digits 0

def longInteger (members : JSONObject) (key path : String) (min max : Int) : Parsed Int := do
  match ← required members key path with
  | .number number =>
      if !isIntegral number.text then error path "expected integer"
      else
        let parsed := integral number.text
        if parsed < -2 ^ 63 ∨ 2 ^ 63 ≤ parsed then error path "expected bounded integer"
        else if parsed < min ∨ max < parsed then error path "out of range"
        else .ok parsed
  | _ => error path "expected integer"

def booleanValue (members : JSONObject) (key path : String) : Parsed Bool := do
  match ← required members key path with
  | .bool value => .ok value
  | _ => error path "expected boolean"

def allowedFields (members : JSONObject) (allowed : List String) (path : String) : Parsed Unit :=
  if members.any (fun member => member.1 ∉ allowed) then error path "contains unsupported field"
  else .ok ()

/-- `has(key) ? text(..) : ""`. -/
def textOr (members : JSONObject) (key path : String) (nonempty : Bool) : Parsed String :=
  if (members.lookup key).isSome then text members key path nonempty maxCompactGeoBundleBytes
  else .ok ""

/-- `has("number") ? integer(..) : 0`. -/
def numberOr (asn : JSONObject) (path : String) (min : Int) : Parsed Int :=
  if (asn.lookup "number").isSome then longInteger asn "number" path min 4294967295
  else .ok 0

section Numbers

variable (doubleValue : JsonNumber → F64)

def finite (members : JSONObject) (key path : String) (min max : Int) : Parsed F64 := do
  match ← required members key path with
  | .number number =>
      let parsed := doubleValue number
      if parsed.value?.isNone || parsed.lt (.ofInt min) || (F64.ofInt max).lt parsed then
        error path "expected bounded finite number"
      else .ok parsed
  | _ => error path "expected number"

/-! ## Sizes -/

/-- `goJSONStringBytes`, on the code units of a string. -/
def goJSONStringBytes (units : List Nat) (path : String) : Parsed Nat :=
  (Json.stringBytes maxCompactGeoBundleBytes units).mapError fun problem =>
    ⟨path, problem.message⟩

def geoTextBytes (geo : JSONObject) (path : String) (counted : Counted) (key : String) :
    Parsed Counted := do
  let path := path ++ ".geolocation." ++ key
  let value ← textOr geo key path false
  if value = "" then .ok counted
  else (goJSONStringBytes (utf16 value.toList) path).map (counted.add key)

variable (goJSONNumberBytes : F64 → Nat)

def geolocationBytes (geo : JSONObject) (path : String) : Parsed Nat := do
  let counted ← ["city", "region", "country", "country_code"].foldlM (geoTextBytes geo path)
    ⟨",\"geolocation\":\x7b".length, true⟩
  let latitude ← finite doubleValue geo "latitude" (path ++ ".geolocation.latitude") (-90) 90
  let longitude ← finite doubleValue geo "longitude" (path ++ ".geolocation.longitude") (-180) 180
  .ok (coordinatesBytes counted (goJSONNumberBytes latitude) (goJSONNumberBytes longitude))

def organizationBytes (organization path : String) : Parsed (Option Nat) :=
  if organization = "" then .ok none
  else (goJSONStringBytes (utf16 organization.toList) path).map some

/-- The bytes of a system after those of a location. -/
def asnBytes (bytes : Nat) (asn : JSONObject) (path : String) : Parsed Nat := do
  let number ← numberOr asn (path ++ ".asn.number") 0
  let organization ← textOr asn "organization" (path ++ ".asn.organization") false
  let size ← organizationBytes organization (path ++ ".asn.organization")
  .ok (systemBytes bytes (if number = 0 then none else some (toString number).length) size)

def compactGeoBundleContribution (geo asn : Option JSONObject) (path : String) : Parsed Nat := do
  let bytes ← geo.elim (.ok 0) (geolocationBytes doubleValue goJSONNumberBytes · path)
  asn.elim (.ok bytes) (asnBytes bytes · path)

/-! ## Nodes -/

/-- A text that may be left out but not be empty. -/
def optionalText (members : JSONObject) (path key : String) : Parsed Unit :=
  (textOr members key (path ++ "." ++ key) true).map fun _ => ()

def validateCompactGeoLocation (geo : JSONObject) (path : String) : Parsed Unit := do
  allowedFields geo ["city", "region", "country", "country_code", "latitude", "longitude"] path
  ["city", "region", "country", "country_code"].forM (optionalText geo path)
  let _ ← finite doubleValue geo "latitude" (path ++ ".latitude") (-90) 90
  let _ ← finite doubleValue geo "longitude" (path ++ ".longitude") (-180) 180
  .ok ()

def validateCompactAsn (asn : JSONObject) (path : String) : Parsed Unit := do
  allowedFields asn ["number", "organization"] path
  let number ← numberOr asn (path ++ ".number") 1
  let organization ← textOr asn "organization" (path ++ ".organization") true
  if number = 0 ∧ organization = "" then error path "empty ASN is not canonical" else .ok ()

def publicIP (node : JSONObject) (path : String) : Parsed Bool :=
  if (node.lookup "public_ip").isSome then do
    if ← booleanValue node "public_ip" (path ++ ".public_ip") then .ok true
    else error (path ++ ".public_ip") "present value must be true"
  else .ok false

/-- What is checked of the bundle of a node. -/
def checkGeoBundle (node : JSONObject) (path : String) : Parsed Unit := do
  let isPublic ← publicIP node path
  let geolocation := node.lookup "geolocation"
  let asn := node.lookup "asn"
  if (geolocation.isSome || asn.isSome) && !isPublic then
    error path "Geo bundle requires public_ip"
  else do
    let geo ← geolocation.elim (.ok none) fun value =>
      (object value (path ++ ".geolocation")).map some
    geo.elim (.ok ()) (validateCompactGeoLocation doubleValue · (path ++ ".geolocation"))
    let system ← asn.elim (.ok none) fun value => (object value (path ++ ".asn")).map some
    system.elim (.ok ()) (validateCompactAsn · (path ++ ".asn"))
    let bytes ← compactGeoBundleContribution doubleValue goJSONNumberBytes geo system path
    if maxCompactGeoBundleBytes < bytes then error path "Geo bundle exceeds byte limit"
    else .ok ()

end Numbers

/-! ## Members -/

section Members

variable {fields : List (String × Option JsonValue)} {key path : String} {value : GoString}

/-- The members of a struct, as the client has them. -/
def ofFields (fields : List (String × Option JsonValue)) : JSONObject :=
  Json.cleanMembers (Json.members fields)

theorem lookup_ofFields (distinct : (fields.map Prod.fst).Nodup) :
    (ofFields fields).lookup key = (fields.lookup key).join.map Json.clean := by
  have cleaned : ∀ members : List (String × JsonValue),
      (Json.cleanMembers members).lookup key = (members.lookup key).map Json.clean := by
    intro members
    induction members with
    | nil => rfl
    | cons first rest ih =>
        rw [Json.cleanMembers, List.lookup_cons, List.lookup_cons, ih]
        cases key == first.1 <;> rfl
  rw [ofFields, cleaned, Json.lookup_members distinct]

theorem allowedFields_ofFields {allowed : List String}
    (known : ∀ key ∈ fields.map Prod.fst, key ∈ allowed) :
    allowedFields (ofFields fields) allowed path = .ok () := by
  have keys : ∀ members : List (String × JsonValue),
      (Json.cleanMembers members).map Prod.fst = members.map Prod.fst := by
    intro members
    induction members with
    | nil => rfl
    | cons first rest ih => rw [Json.cleanMembers, List.map_cons, List.map_cons, ih]
  rw [allowedFields, if_neg]
  intro unknown
  obtain ⟨member, inside, outside⟩ := List.any_eq_true.mp unknown
  rw [decide_eq_true_iff] at outside
  refine outside (known _ ((Json.keys_members_sublist fields).subset ?_))
  rw [← keys]
  exact List.mem_map_of_mem inside

theorem clean_omitempty (value : GoString) : (Json.omitempty value).map Json.clean =
    if value = [] then none else some (.string (value.map fun rune => .scalar rune.char)) := by
  by_cases empty : value = []
  · rw [empty]
    rfl
  · rw [Json.omitempty_of_ne empty, if_neg empty]
    rfl

theorem text_clean (value : GoString) :
    GoString.text (value.map fun rune => .scalar rune.char) = value.text := by
  rw [GoString.text, GoString.text, List.map_map]
  rfl

/-- A text that is there is read as it is. -/
theorem text_ofFields (distinct : (fields.map Prod.fst).Nodup)
    (found : fields.lookup key = some (Json.omitempty value)) (nonempty : value ≠ [])
    (valid : validGeoString value = true) (strict : Bool) :
    text (ofFields fields) key path strict maxCompactGeoBundleBytes = .ok value.text := by
  rw [validGeoString, Bool.and_eq_true, decide_eq_true_iff] at valid
  have length := length_utf16_le value.text.toList
  rw [GoString.utf8Length_text valid.2] at length
  have some_ : utf16 value.text.toList ≠ [] := by
    have chars : value.text.toList ≠ [] := fun empty =>
      GoString.text_ne_empty nonempty (String.toList_inj.mp empty)
    obtain ⟨first, rest, split⟩ := List.exists_cons_of_ne_nil chars
    rw [split, utf16_cons]
    exact List.append_ne_nil_of_left_ne_nil (units_ne_nil first) _
  have read : required (ofFields fields) key path =
      .ok (.string (value.map fun rune => .scalar rune.char)) := by
    rw [required, lookup_ofFields distinct, found, Option.join_some, clean_omitempty,
      if_neg nonempty]
  unfold text
  rw [read]
  dsimp only [bind, Except.bind]
  rw [text_clean, if_neg]
  rintro (long | ⟨-, empty⟩)
  · exact absurd (length.trans valid.1) (not_le.mpr long)
  · exact some_ empty

/-- A text that may be left out is read as it is. -/
theorem textOr_ofFields (distinct : (fields.map Prod.fst).Nodup)
    (found : fields.lookup key = some (Json.omitempty value)) (valid : validGeoString value = true)
    (strict : Bool) : textOr (ofFields fields) key path strict = .ok value.text := by
  rw [textOr, lookup_ofFields distinct, found, Option.join_some, clean_omitempty]
  by_cases empty : value = []
  · rw [if_pos empty, empty]
    rfl
  · rw [if_neg empty, Option.isSome_some, if_pos rfl, text_ofFields distinct found empty valid]

theorem goJSONStringBytes_eq (value path : String) : goJSONStringBytes (utf16 value.toList) path =
    if utf8Length value.toList ≤ maxCompactGeoBundleBytes then
      .ok (utf8Length (Json.quote (.ofString value)))
    else error path "Geo string exceeds byte limit" := by
  rw [goJSONStringBytes, Json.stringBytes_utf16]
  split <;> rfl

theorem goJSONStringBytes_text (valid : validGeoString value = true) :
    goJSONStringBytes (utf16 value.text.toList) path = .ok (utf8Length (Json.quote value)) := by
  rw [validGeoString, Bool.and_eq_true, decide_eq_true_iff] at valid
  rw [goJSONStringBytes_eq, if_pos (GoString.utf8Length_text valid.2 ▸ valid.1),
    GoString.ofString_text valid.2]

/-- A text is counted as it is written. -/
theorem exists_geoTextBytes (plain : PlainKey key) (distinct : (fields.map Prod.fst).Nodup)
    (found : fields.lookup key = some (Json.omitempty value))
    (valid : validGeoString value = true) (counted : Counted) :
    ∃ next, geoTextBytes (ofFields fields) path counted key = .ok next ∧
      next.whole = counted.whole + fieldBytes (key, Json.omitempty value) := by
  unfold geoTextBytes
  dsimp only
  rw [textOr_ofFields distinct found valid]
  dsimp only [bind, Except.bind]
  by_cases empty : value = []
  · refine ⟨counted, ?_, ?_⟩
    · rw [empty]
      exact if_pos rfl
    · rw [empty]
      rfl
  · refine ⟨counted.add key (utf8Length (Json.quote value)), ?_, ?_⟩
    · rw [if_neg (GoString.text_ne_empty empty), goJSONStringBytes_text valid]
      rfl
    · rw [Counted.whole_add, fieldBytes_omitempty plain empty]

end Members

/-! ## Locations -/

/-- The client reads a number as the server has it, and its text is as long as
that of the server. -/
structure CountsAs (numbers : F64 → Option JsonNumber) (doubleValue : JsonNumber → F64)
    (goJSONNumberBytes : F64 → Nat) : Prop where
  read : ∀ value number, numbers value = some number → doubleValue number = value
  length : ∀ value number, numbers value = some number →
    goJSONNumberBytes value = number.text.length

section Bundles

variable {numbers : F64 → Option JsonNumber} {doubleValue : JsonNumber → F64}
  {goJSONNumberBytes : F64 → Nat}

/-- A coordinate that the server admits is read as it is. -/
theorem finite_ofFields (counts : CountsAs numbers doubleValue goJSONNumberBytes) {value : F64}
    {number : JsonNumber} (written : numbers value = some number) {bound : Int}
    (valid : validCoordinate value bound = true) {fields : List (String × Option JsonValue)}
    (distinct : (fields.map Prod.fst).Nodup) {key : String}
    (found : fields.lookup key = some (some (.number number))) (path : String) :
    finite doubleValue (ofFields fields) key path (-bound) bound = .ok value := by
  obtain ⟨whole, least, greatest⟩ := finite_of_validCoordinate valid
  have read : required (ofFields fields) key path = .ok (.number number) := by
    rw [required, lookup_ofFields distinct, found]
    rfl
  unfold finite
  rw [read]
  dsimp only [bind, Except.bind]
  rw [counts.read value number written, whole, least, greatest]
  rfl

/-- The members of a location, by their texts and the coordinates. -/
theorem geoLocationFields_eq {geolocation : GeoLocation} {latitude longitude : JsonNumber}
    (latitudeText : numbers geolocation.latitude = some latitude)
    (longitudeText : numbers geolocation.longitude = some longitude) :
    geoLocationFields numbers geolocation = some
      ((geoTexts geolocation).map (fun field => (field.1, Json.omitempty field.2)) ++
        [("latitude", some (.number latitude)), ("longitude", some (.number longitude))]) := by
  rw [geoLocationFields, latitudeText, longitudeText]
  rfl

/-- The members of a location as they are written, with their texts. -/
theorem exists_geoFields {geolocation : GeoLocation} {asn : Option ASNInfo}
    (valid : geoBundleValid (some geolocation) asn = true) {written : JsonValue}
    (json : geoLocationJson numbers geolocation = some written) :
    ∃ fields latitude longitude, written = .object (Json.members fields) ∧
      numbers geolocation.latitude = some latitude ∧
      numbers geolocation.longitude = some longitude ∧
      fields.map Prod.fst =
        ["city", "region", "country", "country_code", "latitude", "longitude"] ∧
      (fields.map Prod.fst).Nodup ∧
      (∀ field ∈ geoTexts geolocation, PlainKey field.1 ∧
        fields.lookup field.1 = some (Json.omitempty field.2) ∧ validGeoString field.2 = true) ∧
      fields.lookup "latitude" = some (some (.number latitude)) ∧
      fields.lookup "longitude" = some (some (.number longitude)) := by
  obtain ⟨-, -, city, region, country, countryCode⟩ := valid_of_geoBundleValid valid
  obtain ⟨latitude, longitude, latitudeText, longitudeText⟩ := exists_coordinates json
  rw [geoLocationJson, geoLocationFields_eq latitudeText longitudeText, Option.map_some] at json
  refine ⟨_, latitude, longitude, (Option.some.inj json).symm, latitudeText, longitudeText, rfl,
    ?_, ?_, rfl, rfl⟩
  · have keys : ["city", "region", "country", "country_code", "latitude", "longitude"].Nodup := by
      decide
    exact keys
  · simp only [geoTexts, List.forall_mem_cons, List.not_mem_nil, false_imp_iff, implies_true,
      and_true]
    exact ⟨⟨by decide, rfl, city⟩, ⟨by decide, rfl, region⟩, ⟨by decide, rfl, country⟩,
      ⟨by decide, rfl, countryCode⟩⟩

/-- A location that the server admits is checked and counted as it is written. -/
theorem geolocation_json (counts : CountsAs numbers doubleValue goJSONNumberBytes)
    {geolocation : GeoLocation} {asn : Option ASNInfo}
    (valid : geoBundleValid (some geolocation) asn = true) {written : JsonValue}
    (json : geoLocationJson numbers geolocation = some written) :
    ∃ geo, Json.clean written = .object geo ∧
      (∀ path, validateCompactGeoLocation doubleValue geo path = .ok ()) ∧
      ∀ path, geolocationBytes doubleValue goJSONNumberBytes geo path =
        .ok (fieldBytes ("geolocation", some written)) := by
  obtain ⟨latitudeValid, longitudeValid, -⟩ := valid_of_geoBundleValid valid
  obtain ⟨fields, latitude, longitude, rfl, latitudeText, longitudeText, keys, distinct, texts,
    latitudeFound, longitudeFound⟩ := exists_geoFields valid json
  have latitudeRead : ∀ path, finite doubleValue (ofFields fields) "latitude" path (-90) 90 =
      .ok geolocation.latitude :=
    finite_ofFields counts latitudeText latitudeValid distinct latitudeFound
  have longitudeRead : ∀ path, finite doubleValue (ofFields fields) "longitude" path (-180) 180 =
      .ok geolocation.longitude :=
    finite_ofFields counts longitudeText longitudeValid distinct longitudeFound
  refine ⟨ofFields fields, rfl, fun path => ?_, fun path => ?_⟩
  · have allowed : allowedFields (ofFields fields)
        ["city", "region", "country", "country_code", "latitude", "longitude"] path = .ok () := by
      apply allowedFields_ofFields
      rw [keys]
      exact fun _ => id
    have optional : ∀ field ∈ geoTexts geolocation,
        optionalText (ofFields fields) path field.1 = .ok () := by
      intro field member
      obtain ⟨-, found, valid⟩ := texts field member
      rw [optionalText, textOr_ofFields distinct found valid]
      rfl
    have each : ["city", "region", "country", "country_code"].forM
        (optionalText (ofFields fields) path) = .ok () := by
      simp only [geoTexts, List.forall_mem_cons, List.not_mem_nil, false_imp_iff, implies_true,
        and_true] at optional
      obtain ⟨cityRead, regionRead, countryRead, countryCodeRead⟩ := optional
      simp only [List.forM_eq_forM, List.forM_cons, List.forM_nil, cityRead, regionRead, countryRead,
        countryCodeRead]
      rfl
    unfold validateCompactGeoLocation
    rw [allowed, each]
    dsimp only [bind, Except.bind]
    rw [latitudeRead, longitudeRead]
  · obtain ⟨counted, run, whole⟩ := @exists_counted _
      (fun counted field => geoTextBytes (ofFields fields) path counted field.1) _
      (fun field member counted => exists_geoTextBytes (texts field member).1 distinct
        (texts field member).2.1 (texts field member).2.2 counted)
      ⟨",\"geolocation\":\x7b".length, true⟩
    have total := coordinatesBytes_eq latitudeText longitudeText whole
    rw [json, ← counts.length _ _ latitudeText, ← counts.length _ _ longitudeText] at total
    have folded : ["city", "region", "country", "country_code"].foldlM
        (geoTextBytes (ofFields fields) path) ⟨",\"geolocation\":\x7b".length, true⟩ =
          .ok counted := run
    unfold geolocationBytes
    rw [folded]
    dsimp only [bind, Except.bind]
    rw [latitudeRead, longitudeRead, ← total]

/-! ## Systems -/

theorem toString_length (value : Nat) :
    (toString (value : Int)).length = (Decimal.digits value).length := by
  have same : toString (value : Int) = toString value := rfl
  rw [same, ← String.length_toList, Nat.toString_eq_repr, Nat.toList_repr]

theorem isIntegral_digits (value : Nat) : isIntegral (Decimal.digits value) = true ∧
    integral (Decimal.digits value) = value := by
  obtain ⟨first, rest, split⟩ := Decimal.exists_digits value
  have digit : ∀ char ∈ Decimal.digits value, char.isDigit = true := fun char member =>
    Decimal.isDigit_of_mem member
  have all : (Decimal.digits value).all Char.isDigit = true := List.all_eq_true.mpr digit
  have noSign : ∀ rest, Decimal.digits value ≠ '-' :: rest := by
    intro rest minus
    have wrong := digit '-' (minus ▸ List.mem_cons_self ..)
    cases wrong
  have nonempty : Decimal.digits value ≠ [] := by
    rw [split]
    exact List.cons_ne_nil _ _
  constructor
  · unfold isIntegral
    split
    · exact absurd ‹_› (noSign _)
    · rw [all, Bool.and_true]
      exact decide_eq_true nonempty
  · unfold integral
    split
    · exact absurd ‹_› (noSign _)
    · exact congrArg Nat.cast (Nat.ofDigitChars_toDigits (by decide) (by decide))

/-- A number that is there is read as it is. -/
theorem longInteger_ofFields {fields : List (String × Option JsonValue)} {key path : String}
    (distinct : (fields.map Prod.fst).Nodup) {value : Nat}
    (found : fields.lookup key = some (some (.number (.ofNat value)))) {min max : Int}
    (least : min ≤ value) (greatest : (value : Int) ≤ max) (small : max < 2 ^ 63) :
    longInteger (ofFields fields) key path min max = .ok value := by
  have read : required (ofFields fields) key path = .ok (.number (.ofNat value)) := by
    rw [required, lookup_ofFields distinct, found]
    rfl
  have text_eq : (JsonNumber.ofNat value).text = Decimal.digits value := rfl
  obtain ⟨integral_, value_eq⟩ := isIntegral_digits value
  unfold longInteger
  rw [read]
  dsimp only [bind, Except.bind]
  rw [text_eq, integral_, value_eq, Bool.not_true, if_neg Bool.false_ne_true, if_neg (by omega),
    if_neg (by omega)]

/-- A system that the server admits is checked and counted as it is written. -/
theorem asn_json {geolocation : Option GeoLocation} {asn : ASNInfo}
    (valid : geoBundleValid geolocation (some asn) = true) :
    ∃ system, Json.clean (asnInfoJson asn) = .object system ∧
      (¬(asn.number = 0 ∧ asn.organization = []) →
        ∀ path, validateCompactAsn system path = .ok ()) ∧
      ∀ bytes path, asnBytes bytes system path =
        .ok (bytes + fieldBytes ("asn", some (asnInfoJson asn))) := by
  obtain ⟨small, organization⟩ := asn_of_geoBundleValid valid
  have keys : (asnInfoFields asn).map Prod.fst = ["number", "organization"] := rfl
  have distinct : ((asnInfoFields asn).map Prod.fst).Nodup := by
    rw [keys]
    decide
  have numberField : (asnInfoFields asn).lookup "number" =
    some (if asn.number = 0 then none else some (.number (.ofNat asn.number))) := rfl
  have number : ∀ (path : String) (least : Int), least ≤ 1 →
      numberOr (ofFields (asnInfoFields asn)) path least = .ok (asn.number : Int) := by
    intro path least le
    rw [numberOr, lookup_ofFields distinct, numberField, Option.join_some]
    by_cases zero : asn.number = 0
    · rw [if_pos zero, zero]
      rfl
    · rw [if_neg zero, Option.map_some, Option.isSome_some, if_pos rfl]
      exact longInteger_ofFields distinct (numberField.trans (congrArg some (if_neg zero)))
        (by omega) (by omega) (by decide)
  have name : ∀ (path : String) (strict : Bool),
      textOr (ofFields (asnInfoFields asn)) "organization" path strict =
        .ok asn.organization.text :=
    fun path strict => textOr_ofFields distinct rfl organization strict
  refine ⟨ofFields (asnInfoFields asn), rfl, fun canonical path => ?_, fun bytes path => ?_⟩
  · have allowed : allowedFields (ofFields (asnInfoFields asn)) ["number", "organization"] path =
        .ok () := by
      apply allowedFields_ofFields
      rw [keys]
      exact fun _ => id
    unfold validateCompactAsn
    rw [allowed, number _ 1 le_rfl, name]
    dsimp only [bind, Except.bind]
    rw [if_neg]
    rintro ⟨zero, empty⟩
    refine canonical ⟨by exact_mod_cast zero, ?_⟩
    by_contra nonempty
    exact GoString.text_ne_empty nonempty empty
  · have size : ∀ path, organizationBytes asn.organization.text path =
        .ok (if asn.organization = [] then none
          else some (utf8Length (Json.quote asn.organization))) := by
      intro path
      rw [organizationBytes]
      by_cases empty : asn.organization = []
      · rw [empty]
        rfl
      · rw [if_neg (GoString.text_ne_empty empty), if_neg empty,
          goJSONStringBytes_text organization]
        rfl
    have digits : (if (asn.number : Int) = 0 then none
        else some (toString (asn.number : Int)).length) =
          if asn.number = 0 then none else some (Decimal.digits asn.number).length := by
      rw [toString_length]
      by_cases zero : asn.number = 0
      · rw [if_pos zero, if_pos (by exact_mod_cast zero)]
      · rw [if_neg zero, if_neg (by exact_mod_cast zero)]
    unfold asnBytes
    rw [number _ 0 (by decide), name]
    dsimp only [bind, Except.bind]
    rw [size]
    dsimp only
    rw [digits, systemBytes_eq]

/-! ## Bundles -/

section Contribution

variable {geolocation : Option GeoLocation} {asn : Option ASNInfo} {location : Option JsonValue}

/-- The objects of a bundle, as they are written. -/
theorem exists_bundle (counts : CountsAs numbers doubleValue goJSONNumberBytes)
    (valid : geoBundleValid geolocation asn = true)
    (located : pointer (geoLocationJson numbers) geolocation = some location) :
    ∃ geo system : Option JSONObject, location.map Json.clean = geo.map .object ∧
      (asn.map fun asn => Json.clean (asnInfoJson asn)) = system.map .object ∧
      (∀ path, geo.elim (.ok ()) (validateCompactGeoLocation doubleValue · path) = .ok ()) ∧
      (canonicalASNInfo asn = asn →
        ∀ path, system.elim (.ok ()) (validateCompactAsn · path) = .ok ()) ∧
      ∀ path, compactGeoBundleContribution doubleValue goJSONNumberBytes geo system path =
        .ok (fieldBytes ("geolocation", location) + fieldBytes ("asn", asn.map asnInfoJson)) := by
  have geo : ∃ geo : Option JSONObject, location.map Json.clean = geo.map .object ∧
      (∀ path, geo.elim (.ok ()) (validateCompactGeoLocation doubleValue · path) = .ok ()) ∧
      ∀ path, geo.elim (.ok 0) (geolocationBytes doubleValue goJSONNumberBytes · path) =
        .ok (fieldBytes ("geolocation", location)) := by
    cases geolocation with
    | none =>
        cases located
        exact ⟨none, rfl, fun _ => rfl, fun _ => rfl⟩
    | some geolocation =>
        obtain ⟨written, found, rfl⟩ := Option.map_eq_some_iff.mp located
        obtain ⟨geo, clean, checked, bytes⟩ := geolocation_json counts valid found
        exact ⟨some geo, congrArg some clean, checked, bytes⟩
  have system : ∃ system : Option JSONObject,
      (asn.map fun asn => Json.clean (asnInfoJson asn)) = system.map .object ∧
      (canonicalASNInfo asn = asn →
        ∀ path, system.elim (.ok ()) (validateCompactAsn · path) = .ok ()) ∧
      ∀ bytes path, system.elim (.ok bytes) (asnBytes bytes · path) =
        .ok (bytes + fieldBytes ("asn", asn.map asnInfoJson)) := by
    cases asn with
    | none => exact ⟨none, rfl, fun _ _ => rfl, fun _ _ => rfl⟩
    | some asn =>
        obtain ⟨system, clean, checked, bytes⟩ := asn_json valid
        refine ⟨some system, congrArg some clean, fun canonical => checked fun empty => ?_, bytes⟩
        rw [canonicalASNInfo, if_pos empty] at canonical
        cases canonical
  obtain ⟨geo, geoClean, geoChecked, geoBytes⟩ := geo
  obtain ⟨system, systemClean, systemChecked, systemBytes⟩ := system
  refine ⟨geo, system, geoClean, systemClean, geoChecked, systemChecked, fun path => ?_⟩
  unfold compactGeoBundleContribution
  rw [geoBytes]
  exact systemBytes _ path

end Contribution

/-- The client takes a bundle as the server has written it, unless it is too
large. -/
theorem checkGeoBundle_json (counts : CountsAs numbers doubleValue goJSONNumberBytes) {node : Node}
    (isPublic : node.publicIP = true) (valid : geoBundleValid node.geolocation node.asn = true)
    (canonical : canonicalASNInfo node.asn = node.asn) {written : JsonValue}
    (json : node.json numbers = some written) (path : String) :
    ∃ item location, Json.clean written = .object item ∧
      pointer (geoLocationJson numbers) node.geolocation = some location ∧
      checkGeoBundle doubleValue goJSONNumberBytes item path =
        if maxCompactGeoBundleBytes < fieldBytes ("geolocation", location) +
          fieldBytes ("asn", node.asn.map asnInfoJson) then
            error path "Geo bundle exceeds byte limit"
        else .ok () := by
  obtain ⟨latency, -, json⟩ := Option.bind_eq_some_iff.mp json
  obtain ⟨location, located, json⟩ := Option.bind_eq_some_iff.mp json
  obtain rfl := Option.some.inj json
  set fields := node.plainFields latency ++ [("geolocation", location),
    ("asn", node.asn.map asnInfoJson)] with fields_eq
  have keys : fields.map Prod.fst = ["id", "kind", "address", "status", "hop_min", "hop_max",
    "latency_ms_avg", "observations", "public_ip", "geolocation", "asn"] := rfl
  have distinct : (fields.map Prod.fst).Nodup := by
    rw [keys]
    decide
  obtain ⟨geo, system, geoClean, systemClean, geoChecked, systemChecked, counted⟩ :=
    exists_bundle counts valid located
  refine ⟨ofFields fields, location, rfl, located, ?_⟩
  have geoFound : (ofFields fields).lookup "geolocation" = geo.map .object := by
    rw [lookup_ofFields distinct, ← geoClean]
    rfl
  have asnFound : (ofFields fields).lookup "asn" = system.map .object := by
    have mapped := Option.map_map Json.clean asnInfoJson node.asn
    rw [lookup_ofFields distinct, ← systemClean]
    exact mapped
  have flag : (ofFields fields).lookup "public_ip" = some (.bool true) := by
    have found : fields.lookup "public_ip" =
      some (if node.publicIP then some (.bool true) else none) := rfl
    rw [lookup_ofFields distinct, found, isPublic]
    rfl
  have allowed : publicIP (ofFields fields) path = .ok true := by
    rw [publicIP, flag, Option.isSome_some, if_pos rfl, booleanValue, required, flag]
    rfl
  have read : ∀ (value : Option JSONObject) path, (value.map JsonValue.object).elim (.ok none)
      (fun value => (object value path).map some) = .ok value := by
    intro value path
    cases value <;> rfl
  unfold checkGeoBundle
  rw [allowed, geoFound, asnFound]
  dsimp only [bind, Except.bind]
  rw [Bool.not_true, Bool.and_false, if_neg Bool.false_ne_true, read]
  dsimp only
  rw [geoChecked]
  dsimp only
  rw [read]
  dsimp only
  rw [systemChecked canonical]
  dsimp only
  rw [counted]

end Bundles

end CheckNetwork.Android
