import CheckNetwork.Compact.Bundle

/-!
# Counting a bundle

A client counts the bytes of an object one member at a time, with a comma before
each member but the first.
-/

namespace CheckNetwork.Compact

open Diagnostic Go

/-- The bytes so far, and whether no member has come yet. -/
structure Counted where
  bytes : Nat
  first : Bool

namespace Counted

/-- `(first ? 0 : 1) + key.length + 3 + size`. -/
def add (counted : Counted) (key : String) (size : Nat) : Counted :=
  ⟨counted.bytes + ((if counted.first then 0 else 1) + key.length + 3 + size), false⟩

/-- The bytes where the comma is that after the last member. -/
def whole (counted : Counted) : Nat := counted.bytes + if counted.first then 0 else 1

theorem whole_add (counted : Counted) (key : String) (size : Nat) :
    (counted.add key size).whole = counted.whole + (key.length + size + 4) := by
  unfold add whole
  cases counted.first <;> simp <;> omega

end Counted

/-! ## Members -/

section Members

variable {key : String}

/-- A name that is written as it is. -/
def PlainKey (key : String) : Prop := key.toList.all isPlainChar = true

instance (key : String) : Decidable (PlainKey key) := instDecidableEqBool _ _

theorem memberLength_eq (plain : PlainKey key) (value : JsonValue) :
    Json.memberLength (key, value) = key.length + Json.length value + 4 := by
  have quoted := (GoString.Plain.of_chars (List.all_eq_true.mp plain)).utf8Length_quote
  rw [Json.memberLength]
  dsimp only
  rw [GoString.ofString, quoted, List.length_map, String.length_toList]
  omega

theorem fieldBytes_omitempty (plain : PlainKey key) {text : GoString} (nonempty : text ≠ []) :
    fieldBytes (key, Json.omitempty text) = key.length + utf8Length (Json.quote text) + 4 := by
  rw [Json.omitempty_of_ne nonempty, fieldBytes, Option.elim_some, memberLength_eq plain]
  rfl

theorem fieldBytes_number (plain : PlainKey key) (number : JsonNumber) :
    fieldBytes (key, some (.number number)) = key.length + number.text.length + 4 := by
  rw [fieldBytes, Option.elim_some, memberLength_eq plain, Json.length_number]

/-- A step that counts each member counts all of them. -/
theorem exists_counted {E : Type} {step : Counted → String × GoString → Except E Counted}
    {fields : List (String × GoString)}
    (each : ∀ field ∈ fields, ∀ counted, ∃ next, step counted field = .ok next ∧
      next.whole = counted.whole + fieldBytes (field.1, Json.omitempty field.2))
    (counted : Counted) : ∃ last, fields.foldlM step counted = .ok last ∧ last.whole =
      counted.whole + (fields.map fun field => fieldBytes (field.1, Json.omitempty field.2)).sum := by
  induction fields generalizing counted with
  | nil => exact ⟨counted, rfl, rfl⟩
  | cons first rest ih =>
      rw [List.forall_mem_cons] at each
      obtain ⟨next, here, counted_eq⟩ := each.1 counted
      obtain ⟨last, there, last_eq⟩ := ih each.2 next
      refine ⟨last, ?_, ?_⟩
      · rw [List.foldlM_cons, here]
        exact there
      · rw [last_eq, counted_eq, List.map_cons, List.sum_cons, Nat.add_assoc]

end Members

/-! ## Objects -/

section Objects

/-- The names and the texts of a location. -/
def geoTexts (geolocation : GeoLocation) : List (String × GoString) :=
  [("city", geolocation.city), ("region", geolocation.region), ("country", geolocation.country),
    ("country_code", geolocation.countryCode)]

/-- What is counted of a location after its texts. -/
def coordinatesBytes (counted : Counted) (latitude longitude : Nat) : Nat :=
  ((counted.add "latitude" latitude).add "longitude" longitude).bytes + 1

theorem coordinatesBytes_eq {numbers : F64 → Option JsonNumber} {geolocation : GeoLocation}
    {latitude longitude : JsonNumber} (latitudeText : numbers geolocation.latitude = some latitude)
    (longitudeText : numbers geolocation.longitude = some longitude) {counted : Counted}
    (whole : counted.whole = 16 + ((geoTexts geolocation).map fun field =>
      fieldBytes (field.1, Json.omitempty field.2)).sum) :
    coordinatesBytes counted latitude.text.length longitude.text.length =
      fieldBytes ("geolocation", (geoLocationJson numbers geolocation)) := by
  have fields : geoLocationFields numbers geolocation = some
      ((geoTexts geolocation).map (fun field => (field.1, Json.omitempty field.2)) ++
        [("latitude", some (.number latitude)), ("longitude", some (.number longitude))]) := by
    rw [geoLocationFields, latitudeText, longitudeText]
    rfl
  have nonempty : Json.members ((geoTexts geolocation).map
      (fun field => (field.1, Json.omitempty field.2)) ++
        [("latitude", some (.number latitude)), ("longitude", some (.number longitude))]) ≠ [] := by
    rw [Json.members, List.filterMap_append]
    exact List.append_ne_nil_of_right_ne_nil _ (List.cons_ne_nil _ _)
  have end_ : ∀ counted : Counted, counted.first = false → counted.bytes + 1 = counted.whole := by
    intro counted started
    rw [Counted.whole, started, if_neg Bool.false_ne_true]
  have latitude_eq := fieldBytes_number (show PlainKey "latitude" by decide) latitude
  have longitude_eq := fieldBytes_number (show PlainKey "longitude" by decide) longitude
  rw [coordinatesBytes, end_ _ rfl, Counted.whole_add, Counted.whole_add, whole, geoLocationJson,
    fields, Option.map_some, fieldBytes, Option.elim_some,
    memberLength_eq (show PlainKey "geolocation" by decide), length_members nonempty,
    List.map_append, List.sum_append, List.map_map]
  simp only [List.map_cons, List.map_nil, List.sum_cons, List.sum_nil, latitude_eq, longitude_eq]
  have sums : ((geoTexts geolocation).map
      (fieldBytes ∘ fun field => (field.1, Json.omitempty field.2))).sum =
        ((geoTexts geolocation).map fun field => fieldBytes (field.1, Json.omitempty field.2)).sum :=
    rfl
  have lengths : "geolocation".length = 11 := rfl
  rw [sums, lengths]
  omega

/-- What is counted of a system, with the sizes of the members that are there. -/
def systemBytes (bytes : Nat) (number organization : Option Nat) : Nat :=
  let counted : Counted := ⟨bytes + ",\"asn\":\x7b".length, true⟩
  let counted := number.elim counted (counted.add "number")
  (organization.elim counted (counted.add "organization")).bytes + 1

theorem systemBytes_eq (bytes : Nat) (asn : ASNInfo) :
    systemBytes bytes
      (if asn.number = 0 then none else some (Decimal.digits asn.number).length)
      (if asn.organization = [] then none
        else some (utf8Length (Json.quote asn.organization))) =
      bytes + fieldBytes ("asn", some (asnInfoJson asn)) := by
  have number_eq := fieldBytes_number (show PlainKey "number" by decide) (.ofNat asn.number)
  have organization_eq := @fieldBytes_omitempty _ (show PlainKey "organization" by decide)
    asn.organization
  have lengths : "asn".length = 3 ∧ "number".length = 6 ∧ "organization".length = 12 ∧
      ",\"asn\":\x7b".length = 8 := ⟨rfl, rfl, rfl, rfl⟩
  obtain ⟨asn_length, number_length, organization_length, start_length⟩ := lengths
  have digits : (JsonNumber.ofNat asn.number).text = Decimal.digits asn.number := rfl
  rw [number_length, digits] at number_eq
  rw [organization_length] at organization_eq
  rw [fieldBytes, Option.elim_some, memberLength_eq (show PlainKey "asn" by decide), asnInfoJson,
    asn_length]
  unfold systemBytes
  rw [start_length]
  have whole : Json.members (asnInfoFields asn) ≠ [] →
      Json.length (.object (Json.members (asnInfoFields asn))) =
        fieldBytes ("number", if asn.number = 0 then none else some (.number (.ofNat asn.number))) +
          fieldBytes ("organization", Json.omitempty asn.organization) + 1 := by
    intro nonempty
    rw [length_members nonempty]
    rfl
  have none_ : ∀ key, fieldBytes (key, none) = 0 := fun _ => rfl
  by_cases noNumber : asn.number = 0
  · rw [if_pos noNumber] at whole ⊢
    by_cases noOrganization : asn.organization = []
    · rw [if_pos noOrganization]
      have empty : Json.members (asnInfoFields asn) = [] := by
        rw [asnInfoFields, noNumber, noOrganization]
        rfl
      rw [empty]
      rfl
    · rw [if_neg noOrganization, whole, organization_eq noOrganization, none_]
      · simp only [Option.elim_none, Option.elim_some, Counted.add, if_true, organization_length]
        omega
      · rw [asnInfoFields, Json.omitempty_of_ne noOrganization, if_pos noNumber]
        nofun
  · rw [if_neg noNumber] at whole ⊢
    have present : Json.members (asnInfoFields asn) ≠ [] := by
      rw [asnInfoFields, if_neg noNumber]
      nofun
    by_cases noOrganization : asn.organization = []
    · rw [if_pos noOrganization, whole present, number_eq, noOrganization, Json.omitempty_nil, none_]
      simp only [Option.elim_none, Option.elim_some, Counted.add, if_true, number_length]
      omega
    · rw [if_neg noOrganization, whole present, number_eq, organization_eq noOrganization]
      simp only [Option.elim_some, Counted.add, if_true, number_length, organization_length,
        Bool.false_eq_true, if_false]
      omega

end Objects

end CheckNetwork.Compact
