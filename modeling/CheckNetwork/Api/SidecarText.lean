import CheckNetwork.Api.Sidecar

/-!
# The text of the sidecar

The closed encoder writes a sidecar as `encoding/json` writes it, and more
entries take more room.
-/

namespace CheckNetwork.Api

open Go Diagnostic Payload

/-! ## Pieces of JSON text -/

/-- Pieces that are written in full and give the text of a value. -/
def Shows (pieces : List Piece) (value : JsonValue) : Prop :=
  (∀ failure, .error failure ∉ pieces) ∧ texts pieces = Json.encode value

section Shows

variable {parts : List (List Piece)}

theorem mapM_eq_some {A B : Type} {read : A → Option B} {items : List A} {values : List B}
    (each : List.Forall₂ (fun item value => read item = some value) items values) :
    items.mapM read = some values := by
  induction each with
  | nil => rfl
  | cons head _ tail =>
      rw [List.mapM_cons, head, tail]
      rfl

theorem texts_separated_members {members : List (String × JsonValue)}
    (each : List.Forall₂ (fun part (member : String × JsonValue) => texts part =
      Json.quote (.ofString member.1) ++ ':' :: Json.encode member.2) parts members) :
    texts (separated parts) = Json.encodeMembers members := by
  induction each with
  | nil => rfl
  | cons head rest tail =>
      cases rest with
      | nil => exact head
      | cons =>
          rw [separated, texts_append, texts_cons_ok, tail, head, Json.encodeMembers]
          simp

theorem texts_separated_elements {elements : List JsonValue}
    (each : List.Forall₂ (fun part element => texts part = Json.encode element) parts elements) :
    texts (separated parts) = Json.encodeElements elements := by
  induction each with
  | nil => rfl
  | cons head rest tail =>
      cases rest with
      | nil => exact head
      | cons =>
          rw [separated, texts_append, texts_cons_ok, tail, head, Json.encodeElements]
          simp

theorem texts_enclosed (opening closing : Char) (parts : List (List Piece)) :
    texts (enclosed opening closing parts) = opening :: (texts (separated parts) ++ [closing]) := by
  simp [enclosed]

theorem forall_of_forall₂ {A B : Type} {R : A → B → Prop} {P : A → Prop} {items : List A}
    {values : List B} (each : List.Forall₂ R items values) (holds : ∀ item value, R item value →
      P item) : ∀ item ∈ items, P item := by
  induction each with
  | nil => exact List.forall_mem_nil _
  | cons head _ tail => exact List.forall_mem_cons.mpr ⟨holds _ _ head, tail⟩

/-- The pieces of a member. -/
def ShowsMember (part : List Piece) (member : String × JsonValue) : Prop :=
  ∃ pieces, part = named (Json.quote (.ofString member.1)) pieces ∧ Shows pieces member.2

theorem shows_object {members : List (String × JsonValue)}
    (each : List.Forall₂ ShowsMember parts members) :
    Shows (enclosed '{' '}' parts) (.object members) := by
  constructor
  · intro failure
    rw [error_mem_enclosed]
    rintro ⟨part, member, stops⟩
    refine forall_of_forall₂ (P := fun part => .error failure ∉ part) each ?_ part member stops
    rintro _ member ⟨pieces, rfl, plain, _⟩
    rw [error_mem_named]
    exact plain failure
  · rw [texts_enclosed, Json.encode, texts_separated_members]
    refine each.imp ?_
    rintro _ member ⟨pieces, rfl, _, same⟩
    rw [named, texts_cons_ok, texts_cons_ok, same]
    rfl

theorem shows_array {elements : List JsonValue} (each : List.Forall₂ Shows parts elements) :
    Shows (enclosed '[' ']' parts) (.array elements) := by
  constructor
  · intro failure
    rw [error_mem_enclosed]
    rintro ⟨part, member, stops⟩
    refine forall_of_forall₂ (P := fun part => .error failure ∉ part) each ?_ part member stops
    exact fun _ _ shows => shows.1 failure
  · rw [texts_enclosed, Json.encode, texts_separated_elements]
    exact each.imp fun _ _ shows => shows.2

end Shows

/-! ## Entries -/

section Entries

variable {heap : Heap}

theorem shows_text (text : GoString) : Shows [.ok (Json.quote text)] (.string text) := by
  constructor
  · simp
  · rw [texts_cons_ok, texts_nil, List.append_nil, Json.encode]

theorem shows_count (number : Nat) :
    Shows [.ok (Json.intText number)] (.number (.ofNat number)) := by
  constructor
  · simp
  · rw [texts_cons_ok, texts_nil, List.append_nil, Json.encode, JsonNumber.ofNat, Json.intText,
      Frontend.toList_toString]

theorem members_cons (field : StructField) (value : Value) (rest : List (StructField × Value)) :
    members heap ((field, value) :: rest) =
      (member? heap field value).toList ++ members heap rest := by
  rw [members, List.filterMap_cons]
  dsimp only
  cases member? heap field value <;> rfl

/-- A member that shows a text under a name. -/
def HasText (member : Member) (pair : String × GoString) : Prop :=
  member.name = pair.1 ∧ ∃ type, member.value = .string type pair.2

theorem member?_optional {name key : String} (given : key ≠ "") (text : GoString) :
    member? heap (Diagnostic.optional name key) (textValue text) =
      if text = [] then none
      else some ⟨key, Diagnostic.optional name key, textValue text⟩ := by
  simp only [member?, jsonField, Diagnostic.optional, textValue, isJSONEmpty, if_neg given]
  simp [List.isEmpty_iff]

theorem hasText_members (fields : List (String × String × GoString))
    (given : ∀ field ∈ fields, field.2.1 ≠ "") :
    List.Forall₂ HasText (members heap (fields.map fun field =>
        (Diagnostic.optional field.1 field.2.1, textValue field.2.2)))
      ((fields.map Prod.snd).filter (·.2 ≠ [])) := by
  induction fields with
  | nil => exact .nil
  | cons first rest ih =>
      rw [List.forall_mem_cons] at given
      have tail := ih given.2
      obtain ⟨name, key, text⟩ := first
      rw [List.map_cons, members_cons, member?_optional given.1, List.map_cons]
      by_cases empty : text = []
      · rw [if_pos empty, List.filter_cons_of_neg (by simpa using empty)]
        exact tail
      · rw [if_neg empty, List.filter_cons_of_pos (by simpa using empty)]
        exact .cons ⟨rfl, stringType, rfl⟩ tail

/-- The texts of an entry after the first three, with the names of the fields. -/
def optionalFields (entry : GeoDetailsEntry) : List (String × String × GoString) :=
  ["City", "Region", "Country", "CountryCode", "Continent", "ContinentCode", "RegionCode",
    "Postal", "Timezone", "ISP", "NetworkDomain", "FetchedAt", "ExpiresAt"].zip
      (entry.named ++ [("fetched_at", entry.fetchedAt), ("expires_at", entry.expiresAt)])

/-- The fields of an entry with their values. -/
def entryFields (entry : GeoDetailsEntry) : List (StructField × Value) :=
  [(tagged "Address" "address", textValue entry.address),
    (tagged "Provider" "provider", textValue entry.provider),
    (tagged "Source" "source", .string sourceType (.ofString entry.source.text))] ++
  (optionalFields entry).map fun field =>
    (Diagnostic.optional field.1 field.2.1, textValue field.2.2)

theorem entryValue_eq (entry : GeoDetailsEntry) :
    entryValue entry = .struct (structType "GeoDetailsEntry") (entryFields entry) := rfl

theorem hasText_entry (entry : GeoDetailsEntry) :
    List.Forall₂ HasText (members heap (entryFields entry)) entry.texts := by
  have given : ∀ field ∈ optionalFields entry, field.2.1 ≠ "" := by
    simp [optionalFields, GeoDetailTexts.named]
  rw [entryFields, members, List.filterMap_append, GeoDetailsEntry.texts]
  apply List.rel_append
  · exact .cons ⟨rfl, _, rfl⟩ (.cons ⟨rfl, _, rfl⟩ (.cons ⟨rfl, _, rfl⟩ .nil))
  · exact hasText_members (optionalFields entry) given

theorem encode_entry (library : Library) (heap : Heap) (calls : Nat) (entry : GeoDetailsEntry) :
    ∃ pieces, encode library heap (calls + 2) (entryValue entry) = some pieces ∧
      Shows pieces entry.json := by
  have parts : List.Forall₂ (fun (member : Member) part =>
      (encode library heap (calls + 1) member.value).map (named (Json.quote member.name)) =
        some part) (members heap (entryFields entry))
      (entry.texts.map fun pair =>
        named (Json.quote (.ofString pair.1)) [.ok (Json.quote pair.2)]) := by
    rw [List.forall₂_map_right_iff]
    refine (hasText_entry entry).imp ?_
    rintro member pair ⟨name, type, value⟩
    rw [name, value]
    rfl
  have shown : List.Forall₂ ShowsMember
      (entry.texts.map fun pair => named (Json.quote (.ofString pair.1)) [.ok (Json.quote pair.2)])
      (Json.members entry.fields) := by
    rw [GeoDetailsEntry.members_fields, List.forall₂_map_left_iff, List.forall₂_map_right_iff,
      List.forall₂_same]
    exact fun pair _ => ⟨_, rfl, shows_text pair.2⟩
  refine ⟨_, ?_, shows_object shown⟩
  rw [encode, entryValue_eq]
  simp only [Value.elem, tokens]
  rw [mapM_eq_some parts]
  rfl

end Entries

/-! ## Sidecars -/

section Sidecars

variable {raw : GeoDetailsSidecar} {count : Nat}

theorem mapM_entries (library : Library) (heap : Heap) (calls : Nat)
    (room : count ≤ raw.entries.length) :
    ∃ parts, ((List.range count).mapM fun place => encode library (withDetails heap raw) (calls + 2)
        ((withDetails heap raw).element entriesSpelling 0 place)) = some parts ∧
      List.Forall₂ Shows parts ((raw.entries.take count).map GeoDetailsEntry.json) := by
  induction count with
  | zero => exact ⟨[], rfl, .nil⟩
  | succ count ih =>
      obtain ⟨parts, written, shown⟩ := ih (Nat.le_of_succ_le room)
      obtain ⟨pieces, last, shows⟩ := encode_entry library (withDetails heap raw) calls
        raw.entries[count]
      have entry : (withDetails heap raw).element entriesSpelling 0 count =
          entryValue raw.entries[count] := by
        change (raw.entries[count]?).elim .nilInterface entryValue = _
        rw [List.getElem?_eq_getElem room, Option.elim]
      refine ⟨parts ++ [pieces], ?_, ?_⟩
      · rw [List.range_succ, List.mapM_append, written, List.mapM_cons, List.mapM_nil, entry, last]
        rfl
      · rw [List.take_succ_eq_append_getElem room, List.map_append, List.map_singleton]
        exact List.rel_append shown (.cons shows .nil)

theorem encode_entries (library : Library) (heap : Heap) (calls : Nat)
    (room : count ≤ raw.entries.length) :
    ∃ pieces, encode library (withDetails heap raw) (calls + 3) (entriesValue count) =
        some pieces ∧
      Shows pieces (.array ((raw.entries.take count).map GeoDetailsEntry.json)) := by
  obtain ⟨parts, written, shown⟩ := mapM_entries library heap calls room
  refine ⟨_, ?_, shows_array shown⟩
  rw [encode, entriesValue]
  simp only [Value.elem, tokens]
  rw [if_neg (by decide), written]
  rfl

/-- The encoder writes the sidecar as JSON. -/
theorem encode_sidecar (library : Library) (heap : Heap) (calls : Nat)
    (room : count ≤ raw.entries.length) :
    ∃ pieces, encode library (withDetails heap raw) (calls + 4) (sidecarValue (raw.first count)) =
        some pieces ∧
      Shows pieces (raw.first count).json := by
  obtain ⟨pieces, written, shows⟩ := encode_entries library heap calls room
  have length_eq : (raw.first count).entries.length = count := List.length_take_of_le room
  have parts : List.Forall₂ ShowsMember
      [named (Json.quote "schema_version") [.ok (Json.intText (raw.first count).schemaVersion)],
        named (Json.quote "total") [.ok (Json.intText (raw.first count).total)],
        named (Json.quote "omitted") [.ok (Json.intText (raw.first count).omitted)],
        named (Json.quote "entries") pieces]
      [("schema_version", .number (.ofNat (raw.first count).schemaVersion)),
        ("total", .number (.ofNat (raw.first count).total)),
        ("omitted", .number (.ofNat (raw.first count).omitted)),
        ("entries", .array ((raw.first count).entries.map GeoDetailsEntry.json))] :=
    .cons ⟨_, rfl, shows_count _⟩ (.cons ⟨_, rfl, shows_count _⟩ (.cons ⟨_, rfl, shows_count _⟩
      (.cons ⟨_, rfl, shows⟩ .nil)))
  refine ⟨_, ?_, shows_object parts⟩
  rw [encode, sidecarValue]
  simp only [Value.elem, tokens]
  rw [members_sidecar, length_eq]
  simp only [List.mapM_cons, List.mapM_nil, written]
  rfl

theorem encode_pointer (library : Library) (heap : Heap) (calls : Nat)
    (room : count ≤ raw.entries.length) :
    ∃ pieces, encode library (withDetails heap raw) (calls + 5) (sidecarPointer count) =
        some pieces ∧
      Shows pieces (raw.first count).json :=
  encode_sidecar library heap calls room

end Sidecars

/-! ## Room -/

section Room

variable {raw : GeoDetailsSidecar} {count : Nat}

theorem length_elements_concat (elements : List JsonValue) {last : JsonValue}
    (filled : 0 < Json.length last) :
    Json.length (.array elements) + 1 ≤ Json.length (.array (elements ++ [last])) := by
  rcases eq_or_ne elements [] with rfl | nonempty
  · rw [List.nil_append, Json.length_array (List.cons_ne_nil _ _), List.map_singleton,
      List.sum_singleton]
    have empty : Json.length (.array []) = 2 := by decide
    omega
  · rw [Json.length_array nonempty, Json.length_array (by simp), List.map_append, List.sum_append,
      List.map_singleton, List.sum_singleton]
    omega

theorem length_digits_pred (value : Nat) :
    (Decimal.digits value).length ≤ (Decimal.digits (value - 1)).length + 1 := by
  have pos : 0 < (Decimal.digits (value - 1)).length := Nat.length_toDigits_pos
  have below : value - 1 < 10 ^ (Decimal.digits (value - 1)).length :=
    (Nat.length_toDigits_le_iff (by decide) pos).mp (Nat.le_refl _)
  rw [Nat.length_toDigits_le_iff (by decide) (Nat.succ_pos _), Nat.pow_succ]
  omega

/-- One more entry takes no less room, even where fewer digits count what is
left out. -/
theorem length_first_succ (room : count < raw.entries.length) :
    Json.length (raw.first count).json ≤ Json.length (raw.first (count + 1)).json := by
  have filled : 0 < Json.length raw.entries[count].json := by
    rw [GeoDetailsEntry.json, Json.length, Json.encode, utf8Length_cons]
    exact Nat.lt_add_right _ (by decide)
  have entries := length_elements_concat ((raw.entries.take count).map GeoDetailsEntry.json) filled
  have digits := length_digits_pred (raw.total - count)
  rw [Nat.sub_sub] at digits
  rw [GeoDetailsSidecar.json, GeoDetailsSidecar.json, Json.length_object (List.cons_ne_nil _ _),
    Json.length_object (List.cons_ne_nil _ _)]
  simp only [GeoDetailsSidecar.first, List.map_cons, List.map_nil, List.sum_cons, List.sum_nil,
    Json.memberLength, Json.length_number_ofNat, List.take_succ_eq_append_getElem room,
    List.map_append]
  omega

end Room

end CheckNetwork.Api
