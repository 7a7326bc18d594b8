import CheckNetwork.Context.Legible
import CheckNetwork.Diagnostic.GeoDetails
import CheckNetwork.Frontend.ContextController
import CheckNetwork.Frontend.JsValue
import CheckNetwork.Go.JsonUnits
import CheckNetwork.Go.StampOrder

/-!
# Geo details in the browser

The browser checks the details again: their shape, their order, and how large the server
would write them.
-/

namespace CheckNetwork.Frontend

open Go

/-! ## Sizes -/

/-- How many bytes the server writes for a character of a string. -/
def encodedBytes (char : Char) : Nat :=
  if char.toNat ∈ [0x22, 0x5c, 0x08, 0x09, 0x0a, 0x0c, 0x0d] then 2
  else if char.toNat < 0x20 ∨ char.toNat ∈ [0x3c, 0x3e, 0x26, 0x2028, 0x2029] then 6
  else char.utf8Size

def maxGeoBundleBytes : Nat := 4096

def goJSONStringBytes (value path : String) (maxUTF8 : Nat) : Checked Nat :=
  (value.toList.foldlM (fun (sizes : Nat × Nat) char =>
    if maxUTF8 < sizes.2 + char.utf8Size then schemaError path "Geo string exceeds byte limit"
    else .ok (sizes.1 + encodedBytes char, sizes.2 + char.utf8Size)) (2, 0)).map Prod.fst

/-! ## Timestamps -/

/-- The layout, where `d` is any digit. -/
def timestampLayout : List Char := "dddd-dd-ddTdd:dd:dd.dddZ".toList

def hasLayout (text : List Char) : Bool :=
  text.length = timestampLayout.length &&
    (text.zip timestampLayout).all fun (char, mark) =>
      if mark = 'd' then char.isDigit else char = mark

/-- The number at a place of a text. -/
def field (text : List Char) (start width : Nat) : Nat :=
  Nat.ofDigitChars 10 ((text.drop start).take width) 0

/-- The date is read, and the setters of `Date` keep every field. -/
def isInstant (text : List Char) : Bool :=
  (⟨field text 0 4, field text 5 2, field text 8 2⟩ : Calendar.Date).Valid ∧
    field text 11 2 < 24 ∧ field text 14 2 < 60 ∧ field text 17 2 < 60

def geoDetailTimestamp (value : JsValue) (path : String) : Checked String :=
  match value with
  | .string value =>
      if !hasLayout value.toList || "0000".toList.isPrefixOf value.toList then
        schemaError path "expected Gregorian UTC millisecond timestamp"
      else if !isInstant value.toList then schemaError path "expected canonical UTC timestamp"
      else .ok value
  | _ => schemaError path "expected Gregorian UTC millisecond timestamp"

/-! ## Entries -/

/-- The properties of an object, in their order. -/
abbrev Fields := List (String × String)

def geoDetailText : List String :=
  ["city", "region", "country", "country_code", "continent", "continent_code", "region_code",
    "postal", "timezone", "isp", "network_domain"]

def normalizeAddress (item : List (String × JsValue)) (previous path : String) :
    Checked String := do
  let address ← text (.get item "address") (path ++ ".address") 45
  if canonicalPublicIP address ≠ some address || !(previous.toList < address.toList) then
    schemaError path "expected sorted unique canonical public IP"
  else .ok address

def normalizeOrigin (item : List (String × JsValue)) (path : String) : Checked Fields :=
  match JsValue.get item "provider", JsValue.get item "source" with
  | .string provider, .string source =>
      if provider ≠ "ipwho.is" || source ∉ ["upstream", "cache"] then
        schemaError path "unsupported provider or source"
      else .ok [("provider", provider), ("source", source)]
  | _, _ => schemaError path "unsupported provider or source"

/-- A supplemental text, after those that take `progress.1` bytes. -/
def normalizeText (item : List (String × JsValue)) (path : String) (progress : Nat × Fields)
    (key : String) : Checked (Nat × Fields) :=
  match item.lookup key with
  | none => .ok progress
  | some value => do
      let field ← text value (path ++ "." ++ key) 256
      let _ ← goJSONStringBytes field (path ++ "." ++ key) 256
      let textBytes := progress.1 + utf8Length field.toList
      if 1536 < textBytes then schemaError path "supplemental text byte limit"
      else .ok (textBytes, progress.2 ++ [(key, field)])

def normalizeTexts (item : List (String × JsValue)) (path : String) : Checked Fields :=
  (geoDetailText.foldlM (normalizeText item path) (0, [])).map Prod.snd

def normalizeTimes (item : List (String × JsValue)) (path : String) : Checked Fields :=
  match item.lookup "fetched_at", item.lookup "expires_at" with
  | none, none => .ok []
  | some fetched, some expires => do
      let fetched ← geoDetailTimestamp fetched (path ++ ".fetched_at")
      let expires ← geoDetailTimestamp expires (path ++ ".expires_at")
      if expires.toList < fetched.toList then schemaError path "expiry precedes fetch"
      else .ok [("fetched_at", fetched), ("expires_at", expires)]
  | _, _ => schemaError path "timestamps must be paired"

/-- The bytes of a property are added. -/
def addFieldBytes (path : String) (bytes : Nat) (entry : (String × String) × Nat) : Checked Nat :=
  (goJSONStringBytes entry.1.2 (path ++ "." ++ entry.1.1) maxGeoBundleBytes).map fun size =>
    bytes + ((if entry.2 = 0 then 0 else 1) + utf16Length entry.1.1.toList + 3 + size)

/-- How many bytes the server writes for an entry. -/
def entryBytes (fields : Fields) (path : String) : Checked Nat :=
  fields.zipIdx.foldlM (addFieldBytes path) 2

structure Progress where
  bytes : Nat
  previous : String
  entries : List Fields

def reportPath : String := "report.geo_details"

def normalizeEntry (progress : Progress) (entry : JsValue × Nat) : Checked Progress := do
  let path := reportPath ++ ".entries[" ++ toString entry.2 ++ "]"
  let item ← object entry.1 path
  allowedFields item ["address", "provider", "source"]
    (geoDetailText ++ ["fetched_at", "expires_at"]) path
  let address ← normalizeAddress item progress.previous path
  let origin ← normalizeOrigin item path
  let texts ← normalizeTexts item path
  let times ← normalizeTimes item path
  let normalized := ("address", address) :: (origin ++ (texts ++ times))
  let size ← entryBytes normalized path
  let bytes := progress.bytes + ((if entry.2 = 0 then 0 else 1) + size)
  if 131072 < bytes then schemaError reportPath "canonical Go sidecar byte limit"
  else .ok ⟨bytes, address, progress.entries ++ [normalized]⟩

/-! ## Sidecars -/

structure GeoDetails where
  schemaVersion : Int
  total : Int
  omitted : Int
  entries : List Fields
  deriving DecidableEq

/-- How many bytes the server writes around the entries. -/
def envelopeBytes (total omitted : Int) : Nat :=
  ("\x7b\"schema_version\":1,\"total\":".toList ++ ((toString total).toList ++
    (",\"omitted\":".toList ++ ((toString omitted).toList ++ ",\"entries\":[]\x7d".toList)))).length

def normalizeGeoDetails (value : JsValue) : Checked GeoDetails := do
  let source ← object value reportPath
  exactFields source ["schema_version", "total", "omitted", "entries"] reportPath
  let schemaVersion ← integer (.get source "schema_version") (reportPath ++ ".schema_version") 1 1
  let total ← integer (.get source "total") (reportPath ++ ".total") 0 6200
  let omitted ← integer (.get source "omitted") (reportPath ++ ".omitted") 0 total
  let rawEntries ← array (.get source "entries") (reportPath ++ ".entries") 500
  if total ≠ rawEntries.length + omitted then schemaError reportPath "counts do not agree"
  else do
    let progress ← rawEntries.zipIdx.foldlM normalizeEntry ⟨envelopeBytes total omitted, "", []⟩
    .ok ⟨schemaVersion, total, omitted, progress.entries⟩

/-! ## Sizes agree -/

section Sizes

theorem utf8Length_quote_ofString (value : String) :
    utf8Length (Json.quote (.ofString value)) = 2 + (value.toList.map encodedBytes).sum :=
  Json.utf8Length_quote_scalars value.toList

/-- The browser counts what the server writes, and refuses what is too long. -/
theorem goJSONStringBytes_eq_ite (value path : String) (maxUTF8 : Nat) :
    goJSONStringBytes value path maxUTF8 =
      if utf8Length value.toList ≤ maxUTF8 then .ok (utf8Length (Json.quote (.ofString value)))
      else schemaError path "Geo string exceeds byte limit" := by
  have loop : ∀ (chars : List Char) (sizes : Nat × Nat), sizes.2 ≤ maxUTF8 →
      chars.foldlM (fun (sizes : Nat × Nat) char =>
        if maxUTF8 < sizes.2 + char.utf8Size then
          (schemaError path "Geo string exceeds byte limit" : Checked (Nat × Nat))
        else .ok (sizes.1 + encodedBytes char, sizes.2 + char.utf8Size)) sizes =
      if sizes.2 + utf8Length chars ≤ maxUTF8 then
        .ok (sizes.1 + (chars.map encodedBytes).sum, sizes.2 + utf8Length chars)
      else schemaError path "Geo string exceeds byte limit" := by
    intro chars
    induction chars with
    | nil => exact fun sizes room => (if_pos room).symm
    | cons first rest ih =>
        intro sizes room
        rw [utf8Length_cons, List.foldlM_cons]
        by_cases long : maxUTF8 < sizes.2 + first.utf8Size
        · rw [if_pos long, if_neg (by omega)]
          rfl
        · have step := ih (sizes.1 + encodedBytes first, sizes.2 + first.utf8Size)
            (by dsimp only; omega)
          rw [if_neg long]
          refine step.trans ?_
          rw [List.map_cons, List.sum_cons, Nat.add_assoc, Nat.add_assoc]
  rw [goJSONStringBytes, loop _ _ (Nat.zero_le _), utf8Length_quote_ofString, Nat.zero_add]
  split <;> rfl

theorem goJSONStringBytes_eq {value path : String} {maxUTF8 : Nat}
    (short : utf8Length value.toList ≤ maxUTF8) : goJSONStringBytes value path maxUTF8 =
      .ok (utf8Length (Json.quote (.ofString value))) :=
  (goJSONStringBytes_eq_ite value path maxUTF8).trans (if_pos short)

theorem utf16Length_le (chars : List Char) : utf16Length chars ≤ utf8Length chars := by
  induction chars with
  | nil => exact Nat.le_refl 0
  | cons first rest ih =>
      have size : (if 0x10000 ≤ first.toNat then 2 else 1) ≤ first.utf8Size := by
        split
        · rename_i wide
          have four : first.utf8Size = 4 :=
            Char.utf8Size_eq_four_iff.mpr (UInt32.lt_iff_toNat_lt.mpr wide)
          omega
        · exact Char.utf8Size_pos first
      rw [utf16Length, List.map_cons, List.sum_cons, utf8Length_cons]
      exact Nat.add_le_add size ih

theorem text_eq {value path : String} {max : Nat} (short : utf8Length value.toList ≤ max)
    (nonempty : value ≠ "") : text (.string value) path max = .ok value := by
  have units := utf16Length_le value.toList
  rw [text, if_neg (by omega), if_neg nonempty]

end Sizes

/-! ## Addresses are accepted -/

section Addresses

open Network Diagnostic

variable {chars : List Char} {path : String}

theorem number_four (a b c d : UInt8) : number [a, b, c, d] =
    ((a.toNat * 256 + b.toNat) * 256 + c.toNat) * 256 + d.toNat := by
  simp only [number, List.foldl_cons, List.foldl_nil]
  omega

/-- The octets of a number, in decimal. -/
theorem intercalate_octets {ip : IP} (four : ip.length = 4) :
    ".".intercalate ([24, 16, 8, 0].map fun shift => toString (number ip >>> shift &&& 255)) =
      String.ofList (IP.decimalText ip) := by
  match ip, four with
  | [a, b, c, d], _ =>
      have octet : ∀ n : Nat, n &&& 255 = n % 256 := fun n => Nat.and_two_pow_sub_one_eq_mod n 8
      have small := fun byte : UInt8 => byte.toNat_lt
      have a_lt := small a
      have b_lt := small b
      have c_lt := small c
      have d_lt := small d
      simp only [List.map_cons, List.map_nil, octet, Nat.shiftRight_eq_div_pow, number_four]
      rw [show (((a.toNat * 256 + b.toNat) * 256 + c.toNat) * 256 + d.toNat) / 2 ^ 24 % 256 =
          a.toNat by omega,
        show (((a.toNat * 256 + b.toNat) * 256 + c.toNat) * 256 + d.toNat) / 2 ^ 16 % 256 =
          b.toNat by omega,
        show (((a.toNat * 256 + b.toNat) * 256 + c.toNat) * 256 + d.toNat) / 2 ^ 8 % 256 =
          c.toNat by omega,
        show (((a.toNat * 256 + b.toNat) * 256 + c.toNat) * 256 + d.toNat) / 2 ^ 0 % 256 =
          d.toNat by omega]
      apply String.toList_inj.mp
      simp [String.intercalate_cons_cons, IP.decimalText]

/-- The browser finds the canonical text of a public address canonical. -/
theorem canonicalPublicIP_eq (written : PublicText chars) :
    canonicalPublicIP (String.ofList chars) = some (String.ofList chars) := by
  cases written with
  | @decimal ip four isPublic =>
      have read := readLiteral_decimalText four
      have known : addressClass (IP.decimalText ip) = .publicUse :=
        (addressClass_eq_publicUse_iff _).mpr ⟨ip, read, isPublic⟩
      have bits : addressBits (IP.decimalText ip) = some ⟨32, number ip⟩ := by
        rw [addressBits_eq, read, Option.map_some, bitsOf, to4_of_length four, Option.getD_some,
          four]
      rw [canonicalPublicIP, String.toList_ofList, if_neg (not_not.mpr known), bits,
        Option.bind_some, if_pos rfl, intercalate_octets four]
  | @groups ip sixteen unmapped isPublic =>
      have read := readLiteral_v6Text sixteen
      have known : addressClass (IP.v6Text ip) = .publicUse :=
        (addressClass_eq_publicUse_iff _).mpr ⟨ip, read, isPublic⟩
      have bits : addressBits (IP.v6Text ip) = some ⟨128, number ip⟩ := by
        rw [addressBits_eq, read, Option.map_some, bitsOf, unmapped, Option.getD_none, sixteen]
      have groups : readV6 (IP.v6Text ip) = some (IP.groups ip) := by
        rw [v6Text_eq]
        exact readV6_groupsText (length_groups_eight sixteen) (groups_lt ip)
      rw [canonicalPublicIP, String.toList_ofList, if_neg (not_not.mpr known), bits,
        Option.bind_some, if_neg (show ¬ 128 = 32 by decide), groups, Option.map_some, ← v6Text_eq]

theorem length_le_of_publicText (written : PublicText chars) : chars.length ≤ 45 := by
  have known := canonicalPublicIP_eq written
  rw [canonicalPublicIP, String.toList_ofList] at known
  obtain ⟨_, known⟩ := Option.ite_none_left_eq_some.mp known
  obtain ⟨bits, read, _⟩ := Option.bind_eq_some_iff.mp known
  rw [addressBits] at read
  obtain ⟨short, _⟩ := Option.ite_none_left_eq_some.mp read
  exact Nat.not_lt.mp short

end Addresses

/-! ## Entries are accepted -/

section Entries

open Diagnostic

variable {parseAddr : GoString → Option Addr} {entry : GeoDetailsEntry} {path : String}

/-- An entry as the server has it. -/
structure Shaped (entry : GeoDetailsEntry) : Prop where
  address : ∃ chars, entry.address = chars.map .scalar ∧ PublicText chars
  provider : entry.provider = Diagnostic.provider
  source : entry.source = .upstream ∨ entry.source = .cache
  texts : validGeoDetailText entry.toGeoDetailTexts = true
  times : entry.fetchedAt = [] ∧ entry.expiresAt = [] ∨ ∃ fetched expires : Time,
    fetched.nanoseconds ≤ expires.nanoseconds ∧ 1 ≤ fetched.date.year ∧ expires.date.year ≤ 9999 ∧
      entry.fetchedAt = Stamp.spelled (Stamp.format fetched) ∧
        entry.expiresAt = Stamp.spelled (Stamp.format expires)

theorem year_utc (time : Time) : time.utc.year = time.date.year := by
  rw [Time.year, Time.date, Time.utc]
  simp

theorem shaped_of_observed {observation : Observation}
    (hop : hopAddress parseAddr observation.1 = some entry.address)
    (made : entryOf entry.address observation.2 = some entry) : Shaped entry := by
  rw [entryOf] at made
  obtain ⟨valid, made⟩ := Option.ite_none_left_eq_some.mp made
  obtain ⟨⟨fetched_at, expires_at⟩, times, same⟩ := Option.map_eq_some_iff.mp made
  simp only [Bool.or_eq_true, not_or, decide_eq_true_eq, not_not, Bool.not_eq_true',
    Bool.not_eq_false] at valid
  obtain ⟨⟨provider_eq, source_eq⟩, texts⟩ := valid
  rw [← same]
  refine ⟨?_, provider_eq, source_eq, texts, ?_⟩
  · exact (hopAddress_spec hop).2.2
  · rw [entryTimes] at times
    split at times
    · obtain ⟨consistent, times⟩ := Option.ite_none_left_eq_some.mp times
      cases times
      simp only [Bool.or_eq_true, not_or, decide_eq_true_eq, not_lt, year_utc, Time.before]
        at consistent
      exact .inr ⟨_, _, consistent.1.1.2, consistent.1.2, consistent.2, rfl, rfl⟩
    · cases times
      exact .inl ⟨rfl, rfl⟩

/-- The members of an entry, as the browser has them. -/
def item (entry : GeoDetailsEntry) : List (String × JsValue) :=
  (Json.members entry.fields).map fun member => (member.1, JsValue.ofJson member.2)

theorem keys_fields (entry : GeoDetailsEntry) : entry.fields.map Prod.fst =
    ["address", "provider", "source"] ++ (geoDetailText ++ ["fetched_at", "expires_at"]) := rfl

theorem nodup_keys (entry : GeoDetailsEntry) : (entry.fields.map Prod.fst).Nodup := by
  rw [keys_fields]
  decide

theorem lookup_item (key : String) :
    (item entry).lookup key = (entry.fields.lookup key).join.map JsValue.ofJson :=
  JsValue.lookup_ofFields (nodup_keys entry)

theorem map_omitempty (value : GoString) : (Json.omitempty value).map JsValue.ofJson =
    if value = [] then none else some (.string value.text) := by
  by_cases empty : value = []
  · rw [empty]
    rfl
  · rw [Json.omitempty_of_ne empty, if_neg empty]
    rfl

theorem lookup_text {field : String × GoString} (member : field ∈ entry.named) :
    (item entry).lookup field.1 = if field.2 = [] then none else some (.string field.2.text) := by
  rw [← map_omitempty, lookup_item]
  simp only [GeoDetailTexts.named, List.mem_cons, List.not_mem_nil, or_false] at member
  rcases member with rfl | rfl | rfl | rfl | rfl | rfl | rfl | rfl | rfl | rfl | rfl <;> rfl

theorem allowedFields_item : allowedFields (item entry) ["address", "provider", "source"]
    (geoDetailText ++ ["fetched_at", "expires_at"]) path = .ok () := by
  apply allowedFields_ofFields
  · intro key member
    rw [keys_fields] at member
    exact member
  · intro key member
    rw [JsValue.lookup_ofFields (nodup_keys entry)]
    simp only [List.mem_cons, List.not_mem_nil, or_false] at member
    rcases member with rfl | rfl | rfl <;> rfl

theorem normalizeAddress_item {chars : List Char} (same : entry.address = chars.map .scalar)
    (written : PublicText chars) {previous : String} (before : previous.toList < chars) :
    normalizeAddress (item entry) previous path = .ok entry.address.text := by
  have text_eq' : entry.address.text = String.ofList chars := by
    rw [same, ← String.toList_inj, GoString.text, String.toList_ofList, String.toList_ofList,
      List.map_map]
    exact List.map_id _
  have found : JsValue.get (item entry) "address" = .string entry.address.text := by
    rw [JsValue.get, lookup_item]
    rfl
  have ascii : utf8Length chars = chars.length := by
    have plain : GoString.Plain (chars.map .scalar) := GoString.Plain.of_chars fun char member =>
      Context.IPContext.isPlainChar_of_isAddrChar (List.all_eq_true.mp written.all_isAddrChar char member)
    rw [← byteLength_spelled, plain.byteLength_eq, List.length_map]
  have short := length_le_of_publicText written
  have nonempty : String.ofList chars ≠ "" := by
    intro empty
    have nil : chars = [] := by simpa using congrArg String.toList empty
    have canonical := canonicalPublicIP_eq written
    rw [nil] at canonical
    revert canonical
    decide +kernel
  rw [normalizeAddress, found, text_eq', text_eq (by rw [String.toList_ofList, ascii]; exact short)
    nonempty]
  simp only [bind, Except.bind]
  rw [canonicalPublicIP_eq written, String.toList_ofList, if_neg]
  simpa using before

theorem normalizeOrigin_item (shaped : Shaped entry) : normalizeOrigin (item entry) path =
    .ok [("provider", entry.provider.text), ("source", entry.source.text)] := by
  have provider : JsValue.get (item entry) "provider" = .string "ipwho.is" := by
    rw [JsValue.get, lookup_item]
    change JsValue.string entry.provider.text = _
    rw [shaped.provider]
    exact congrArg JsValue.string (GoString.text_ofString _)
  have source : JsValue.get (item entry) "source" = .string entry.source.text := by
    rw [JsValue.get, lookup_item]
    change JsValue.string (GoString.ofString entry.source.text).text = _
    rw [GoString.text_ofString]
  have known : entry.provider.text = "ipwho.is" := by
    rw [shaped.provider]
    exact GoString.text_ofString _
  rw [normalizeOrigin, provider, source, known]
  rcases shaped.source with same | same <;> rw [same] <;> rfl

/-- The fields of a normalized object: those that are not empty. -/
def present (fields : List (String × GoString)) : Fields :=
  (fields.filter (·.2 ≠ [])).map fun field => (field.1, field.2.text)

theorem present_cons (field : String × GoString) (fields : List (String × GoString)) :
    present (field :: fields) =
      (if field.2 = [] then [] else [(field.1, field.2.text)]) ++ present fields := by
  by_cases empty : field.2 = []
  · rw [present, List.filter_cons_of_neg (by simpa using empty), if_pos empty]
    rfl
  · rw [present, List.filter_cons_of_pos (by simpa using empty), if_neg empty]
    rfl

theorem normalizeText_item {field : String × GoString} {progress : Nat × Fields}
    (found : (item entry).lookup field.1 =
      if field.2 = [] then none else some (.string field.2.text))
    (valid : field.2.isValid = true) (short : field.2.byteLength ≤ 256)
    (room : progress.1 + field.2.byteLength ≤ 1536) :
    normalizeText (item entry) path progress field.1 = .ok (progress.1 + field.2.byteLength,
      progress.2 ++ if field.2 = [] then [] else [(field.1, field.2.text)]) := by
  rw [normalizeText, found]
  by_cases empty : field.2 = []
  · rw [if_pos empty, if_pos empty, List.append_nil, empty]
    rfl
  · have size := GoString.utf8Length_text valid
    rw [if_neg empty, if_neg empty]
    simp only [bind, Except.bind]
    rw [text_eq (by rw [size]; exact short) (GoString.text_ne_empty empty)]
    dsimp only
    rw [goJSONStringBytes_eq (by rw [size]; exact short)]
    dsimp only
    rw [size, if_neg (by omega)]

theorem normalizeTexts_item (shaped : Shaped entry) :
    normalizeTexts (item entry) path = .ok (present entry.named) := by
  have loop : ∀ (fields : List (String × GoString)) (progress : Nat × Fields),
      (∀ field ∈ fields, (item entry).lookup field.1 =
        (if field.2 = [] then none else some (.string field.2.text)) ∧ field.2.isValid = true ∧
          field.2.byteLength ≤ 256) →
      progress.1 + (fields.map fun field => field.2.byteLength).sum ≤ 1536 →
      (fields.map Prod.fst).foldlM (normalizeText (item entry) path) progress =
        .ok (progress.1 + (fields.map fun field => field.2.byteLength).sum,
          progress.2 ++ present fields) := by
    intro fields
    induction fields with
    | nil =>
        intro progress _ _
        change (.ok progress : Checked _) = .ok (progress.1 + 0, progress.2 ++ [])
        rw [List.append_nil, Nat.add_zero]
    | cons first rest ih =>
        intro progress each room
        rw [List.forall_mem_cons] at each
        obtain ⟨⟨found, valid, short⟩, each⟩ := each
        rw [List.map_cons, List.sum_cons] at room
        rw [List.map_cons, List.foldlM_cons, normalizeText_item found valid short (by omega)]
        refine (ih _ each (by dsimp only; omega)).trans ?_
        rw [present_cons, List.map_cons, List.sum_cons, Nat.add_assoc, List.append_assoc]
  have valid := shaped.texts
  rw [validGeoDetailText] at valid
  simp only [Bool.and_eq_true, List.all_eq_true, decide_eq_true_eq] at valid
  obtain ⟨⟨each, _⟩, total⟩ := valid
  have sums : (entry.named.map fun field => field.2.byteLength) =
      entry.values.map GoString.byteLength := by
    rw [GeoDetailTexts.values, List.map_map]
    rfl
  have keys : geoDetailText = entry.named.map Prod.fst := rfl
  rw [normalizeTexts, keys, loop _ _ (fun field member => ?_)
    (by rw [sums, Nat.zero_add]; exact total)]
  · rfl
  · obtain ⟨isValid, short⟩ := each field.2 (List.mem_map.mpr ⟨field, member, rfl⟩)
    exact ⟨lookup_text member, isValid, short⟩

/-! ### Times -/

theorem text_spelled (chars : List Char) : (Stamp.spelled chars).text.toList = chars := by
  rw [Stamp.spelled, GoString.text, String.toList_ofList, List.map_map]
  exact List.map_id _

theorem isDigit_digitChar (value : Nat) : (Stamp.digitChar value).isDigit = true := by
  have table : ∀ digit < 10, (Nat.digitChar digit).isDigit = true := by decide
  exact table _ (Nat.mod_lt _ (by decide))

theorem toNat_digitChar (value : Nat) : (Stamp.digitChar value).toNat = value % 10 + 48 := by
  have table : ∀ digit < 10, (Nat.digitChar digit).toNat = digit + 48 := by decide
  exact table _ (Nat.mod_lt _ (by decide))

theorem ofDigitChars_cons (value start : Nat) (rest : List Char) :
    Nat.ofDigitChars 10 (Stamp.digitChar value :: rest) start =
      Nat.ofDigitChars 10 rest (10 * start + value % 10) := by
  rw [Nat.ofDigitChars_cons, toNat_digitChar]
  congr 1

/-- The characters of an instant of the first 9999 years. -/
theorem format_eq {time : Time} (lower : 0 ≤ time.date.year) (upper : time.date.year ≤ 9999) :
    ∃ year : Nat, time.date.year = year ∧ Stamp.format time =
      [Stamp.digitChar (year / 1000), Stamp.digitChar (year / 100), Stamp.digitChar (year / 10),
        Stamp.digitChar year, '-'] ++ (Stamp.twoDigits time.date.month ++ '-' ::
          (Stamp.twoDigits time.date.day ++ 'T' ::
            (Stamp.twoDigits (Stamp.milliseconds time / 3600000) ++ ':' ::
              (Stamp.twoDigits (Stamp.milliseconds time / 60000 % 60) ++ ':' ::
                (Stamp.twoDigits (Stamp.milliseconds time / 1000 % 60) ++ '.' ::
                  (Stamp.threeDigits (Stamp.milliseconds time % 1000) ++ ['Z'])))))) := by
  refine ⟨time.date.year.natAbs, by omega, ?_⟩
  have small : time.date.year.natAbs < 10000 := by omega
  rw [Stamp.format, Stamp.yearText, if_neg (Int.not_lt.mpr lower), if_pos small]
  rfl

/-- A text has a layout, character by character. -/
def Laid (text layout : List Char) : Prop := text.length = layout.length ∧
  ((text.zip layout).all fun (char, mark) =>
    if mark = 'd' then char.isDigit else char = mark) = true

theorem Laid.nil : Laid [] [] := ⟨rfl, rfl⟩

theorem Laid.digit {text layout : List Char} (laid : Laid text layout) (value : Nat) :
    Laid (Stamp.digitChar value :: text) ('d' :: layout) := by
  refine ⟨congrArg (· + 1) laid.1, ?_⟩
  rw [List.zip_cons_cons, List.all_cons, laid.2, Bool.and_true]
  exact isDigit_digitChar value

theorem Laid.mark {text layout : List Char} (laid : Laid text layout) (char : Char)
    (other : char ≠ 'd') : Laid (char :: text) (char :: layout) := by
  refine ⟨congrArg (· + 1) laid.1, ?_⟩
  rw [List.zip_cons_cons, List.all_cons, laid.2, Bool.and_true]
  simp [other]

theorem Laid.two {text layout : List Char} (laid : Laid text layout) (value : Nat) :
    Laid (Stamp.twoDigits value ++ text) ('d' :: 'd' :: layout) :=
  (laid.digit _).digit _

theorem hasLayout_format {time : Time} (lower : 0 ≤ time.date.year)
    (upper : time.date.year ≤ 9999) : hasLayout (Stamp.format time) = true := by
  obtain ⟨year, _, same⟩ := format_eq lower upper
  have seconds := ((Laid.nil.mark 'Z' (by decide)).two
    (Stamp.milliseconds time % 1000)).digit (Stamp.milliseconds time % 1000 / 100)
  have clock := ((((((seconds.mark '.' (by decide)).two (Stamp.milliseconds time / 1000 % 60)).mark
    ':' (by decide)).two (Stamp.milliseconds time / 60000 % 60)).mark ':' (by decide)).two
      (Stamp.milliseconds time / 3600000)).mark 'T' (by decide)
  have date := (((clock.two time.date.day).mark '-' (by decide)).two time.date.month).mark '-'
    (by decide)
  have laid := (((date.digit year).digit (year / 10)).digit (year / 100)).digit (year / 1000)
  rw [same, hasLayout, Bool.and_eq_true, decide_eq_true_iff]
  exact laid

theorem fields_format {time : Time} (lower : 0 ≤ time.date.year)
    (upper : time.date.year ≤ 9999) : (field (Stamp.format time) 0 4 : Int) = time.date.year ∧
      field (Stamp.format time) 5 2 = time.date.month ∧
      field (Stamp.format time) 8 2 = time.date.day ∧
      field (Stamp.format time) 11 2 = Stamp.milliseconds time / 3600000 ∧
      field (Stamp.format time) 14 2 = Stamp.milliseconds time / 60000 % 60 ∧
      field (Stamp.format time) 17 2 = Stamp.milliseconds time / 1000 % 60 := by
  have valid : time.date.Valid := (Calendar.days_ofDays _).2
  have day_lt := Stamp.day_lt valid
  have month_le := valid.month_le
  have clock := Stamp.milliseconds_lt time
  obtain ⟨year, year_eq, same⟩ := format_eq lower upper
  rw [year_eq] at upper ⊢
  rw [same]
  simp only [field, Stamp.twoDigits, List.cons_append, List.nil_append, List.drop_succ_cons,
    List.drop_zero, List.take_succ_cons, List.take_zero, ofDigitChars_cons, Nat.ofDigitChars_nil]
  omega

theorem geoDetailTimestamp_format {time : Time} (lower : 1 ≤ time.date.year)
    (upper : time.date.year ≤ 9999) :
    geoDetailTimestamp (.string (Stamp.spelled (Stamp.format time)).text) path =
      .ok (Stamp.spelled (Stamp.format time)).text := by
  have valid : time.date.Valid := (Calendar.days_ofDays _).2
  have clock := Stamp.milliseconds_lt time
  obtain ⟨year, month, day, hour, minute, second⟩ :=
    fields_format (by omega : 0 ≤ time.date.year) upper
  have laidOut := hasLayout_format (by omega : 0 ≤ time.date.year) upper
  have later : "0000".toList.isPrefixOf (Stamp.format time) = false := by
    rw [Bool.eq_false_iff]
    intro zero
    have head := List.prefix_iff_eq_take.mp (List.isPrefixOf_iff_prefix.mp zero)
    have nothing : field (Stamp.format time) 0 4 = 0 := by
      rw [field, List.drop_zero]
      change Nat.ofDigitChars 10 ((Stamp.format time).take "0000".toList.length) 0 = 0
      rw [← head]
      decide
    omega
  have instant : isInstant (Stamp.format time) = true := by
    rw [isInstant, decide_eq_true_iff, year, month, day, hour, minute, second]
    exact ⟨valid, by omega, Nat.mod_lt _ (by decide), Nat.mod_lt _ (by decide)⟩
  rw [geoDetailTimestamp, text_spelled, laidOut, later, instant]
  rfl

theorem normalizeTimes_item (shaped : Shaped entry) : normalizeTimes (item entry) path =
    .ok (present [("fetched_at", entry.fetchedAt), ("expires_at", entry.expiresAt)]) := by
  have fetched_eq : (item entry).lookup "fetched_at" =
      if entry.fetchedAt = [] then none else some (.string entry.fetchedAt.text) := by
    rw [← map_omitempty, lookup_item]
    rfl
  have expires_eq : (item entry).lookup "expires_at" =
      if entry.expiresAt = [] then none else some (.string entry.expiresAt.text) := by
    rw [← map_omitempty, lookup_item]
    rfl
  rw [normalizeTimes, fetched_eq, expires_eq]
  rcases shaped.times with ⟨none, none'⟩ | ⟨fetched, expires, le, lower, upper, same, same'⟩
  · rw [none, none']
    rfl
  · have years : fetched.date.year ≤ expires.date.year := by
      have fetched_valid := Calendar.days_ofDays (fetched.nanoseconds / Time.nanosecondsPerDay)
      have expires_valid := Calendar.days_ofDays (expires.nanoseconds / Time.nanosecondsPerDay)
      rcases Calendar.lex_of_days_le fetched_valid.2 expires_valid.2 (by
        rw [fetched_valid.1, expires_valid.1]
        exact Int.ediv_le_ediv (by decide) le) with before | ⟨equal, _⟩
      · exact before.le
      · exact equal.le
    have nonempty : ∀ time : Time, Stamp.spelled (Stamp.format time) ≠ [] := by
      intro time
      simp [Stamp.spelled, Stamp.format]
    rw [same, same', if_neg (nonempty _), if_neg (nonempty _)]
    simp only [bind, Except.bind]
    rw [geoDetailTimestamp_format lower (years.trans upper)]
    dsimp only
    rw [geoDetailTimestamp_format (lower.trans years) upper]
    dsimp only
    rw [text_spelled, text_spelled, if_neg (Stamp.format_not_lt le (by omega) upper), present_cons,
      present_cons, if_neg (nonempty _), if_neg (nonempty _)]
    rfl

/-! ### Sizes -/

theorem isValid_spelled (chars : List Char) : (Stamp.spelled chars).isValid = true := by
  rw [GoString.isValid, Stamp.spelled, List.all_map]
  exact List.all_eq_true.mpr fun _ _ => rfl

theorem byteLength_format_le {time : Time} (lower : 0 ≤ time.date.year)
    (upper : time.date.year ≤ 9999) :
    (Stamp.spelled (Stamp.format time)).byteLength ≤ 256 := by
  have plain : (Stamp.spelled (Stamp.format time)).Plain := GoString.Plain.of_chars fun char member =>
    Context.IPContext.isPlainChar_of_isMark
      (List.all_eq_true.mp (Stamp.all_isMark_format time) char member)
  rw [plain.byteLength_eq, Stamp.spelled, List.length_map, Stamp.length_format lower upper]
  decide

theorem year_le_of_le {time other : Time} (le : time.nanoseconds ≤ other.nanoseconds) :
    time.date.year ≤ other.date.year := by
  have valid := Calendar.days_ofDays (time.nanoseconds / Time.nanosecondsPerDay)
  have valid' := Calendar.days_ofDays (other.nanoseconds / Time.nanosecondsPerDay)
  have days : (Calendar.Date.ofDays (time.nanoseconds / Time.nanosecondsPerDay)).days ≤
      (Calendar.Date.ofDays (other.nanoseconds / Time.nanosecondsPerDay)).days := by
    rw [valid.1, valid'.1]
    exact Int.ediv_le_ediv (by decide) le
  rcases Calendar.lex_of_days_le valid.2 valid'.2 days with before | ⟨equal, _⟩
  · exact before.le
  · exact equal.le

theorem texts_valid (shaped : Shaped entry) {field : String × GoString}
    (member : field ∈ entry.texts) : field.2.isValid = true ∧ field.2.byteLength ≤ 256 := by
  have ofString : ∀ text : String, (GoString.ofString text).byteLength ≤ 256 →
      (GoString.ofString text).isValid = true ∧ (GoString.ofString text).byteLength ≤ 256 :=
    fun text short => ⟨GoString.isValid_ofString text, short⟩
  rw [GeoDetailsEntry.texts, List.mem_append] at member
  rcases member with own | member
  · simp only [List.mem_cons, List.not_mem_nil, or_false] at own
    rcases own with rfl | rfl | rfl
    · obtain ⟨chars, same, written⟩ := shaped.address
      have plain : GoString.Plain (chars.map .scalar) := GoString.Plain.of_chars fun char inside =>
        Context.IPContext.isPlainChar_of_isAddrChar
          (List.all_eq_true.mp written.all_isAddrChar char inside)
      have short := length_le_of_publicText written
      dsimp only
      rw [same, plain.byteLength_eq, List.length_map]
      exact ⟨plain.isValid, by omega⟩
    · dsimp only
      rw [shaped.provider]
      exact ofString _ (by decide)
    · dsimp only
      rcases shaped.source with same | same <;> rw [same] <;> exact ofString _ (by decide)
  · rcases List.mem_append.mp (List.mem_of_mem_filter member) with named | times
    · have valid := shaped.texts
      rw [validGeoDetailText] at valid
      simp only [Bool.and_eq_true, List.all_eq_true, decide_eq_true_eq] at valid
      exact valid.1.1 field.2 (List.mem_map.mpr ⟨field, named, rfl⟩)
    · simp only [List.mem_cons, List.not_mem_nil, or_false] at times
      rcases shaped.times with ⟨none, none'⟩ | ⟨fetched, expires, le, lower, upper, same, same'⟩
      · rcases times with rfl | rfl
        · dsimp only
          rw [none]
          decide
        · dsimp only
          rw [none']
          decide
      · have years := year_le_of_le le
        rcases times with rfl | rfl
        · dsimp only
          rw [same]
          exact ⟨isValid_spelled _, byteLength_format_le (by omega) (by omega)⟩
        · dsimp only
          rw [same']
          exact ⟨isValid_spelled _, byteLength_format_le (by omega) (by omega)⟩

theorem length_key {field : String × GoString} (member : field ∈ entry.texts) :
    utf8Length (Json.quote (.ofString field.1)) = utf16Length field.1.toList + 2 := by
  have keys : ∀ key ∈ ["address", "provider", "source"] ++
      (geoDetailText ++ ["fetched_at", "expires_at"]),
      utf8Length (Json.quote (.ofString key)) = utf16Length key.toList + 2 := by decide
  have inside : (field.1, JsonValue.string field.2) ∈ Json.members entry.fields := by
    rw [GeoDetailsEntry.members_fields]
    exact List.mem_map.mpr ⟨field, member, rfl⟩
  apply keys
  rw [← keys_fields entry]
  exact List.mem_map.mpr ⟨_, Json.mem_members.mp inside, rfl⟩

/-- A normalized entry. -/
def normalized (entry : GeoDetailsEntry) : Fields :=
  entry.texts.map fun field => (field.1, field.2.text)

theorem normalized_eq (entry : GeoDetailsEntry) : normalized entry =
    ("address", entry.address.text) :: ([("provider", entry.provider.text),
      ("source", entry.source.text)] ++ (present entry.named ++
        present [("fetched_at", entry.fetchedAt), ("expires_at", entry.expiresAt)])) := by
  rw [normalized, GeoDetailsEntry.texts, List.map_append, List.filter_append, List.map_append]
  simp [present]

theorem addFieldBytes_eq (shaped : Shaped entry) {field : String × GoString}
    (member : field ∈ entry.texts) (bytes index : Nat) :
    addFieldBytes path bytes ((field.1, field.2.text), index) =
      .ok (bytes + ((if index = 0 then 0 else 1) +
        (utf16Length field.1.toList + 3 + Json.length (.string field.2)))) := by
  obtain ⟨valid, short⟩ := texts_valid shaped member
  have room : utf8Length field.2.text.toList ≤ maxGeoBundleBytes := by
    rw [GoString.utf8Length_text valid]
    exact short.trans (by decide)
  rw [addFieldBytes, goJSONStringBytes_eq room, GoString.ofString_text valid]
  change Except.ok _ = Except.ok _
  rw [Json.length, Json.encode]
  dsimp only
  congr 1
  omega

/-- The browser counts an entry as the server writes it. -/
theorem entryBytes_normalized (shaped : Shaped entry) :
    entryBytes (normalized entry) path = .ok (Json.length entry.json) := by
  have loop : ∀ (fields : List (String × GoString)) (bytes index : Nat),
      (∀ field ∈ fields, field ∈ entry.texts) → 0 < index →
      ((fields.map fun field => (field.1, field.2.text)).zipIdx index).foldlM
        (addFieldBytes path) bytes =
      .ok (bytes + (fields.map fun field =>
        Json.memberLength (field.1, .string field.2)).sum) := by
    intro fields
    induction fields with
    | nil => exact fun _ _ _ _ => rfl
    | cons first rest ih =>
        intro bytes index inside pos
        rw [List.forall_mem_cons] at inside
        have key := length_key inside.1
        rw [List.map_cons, List.zipIdx_cons, List.foldlM_cons,
          addFieldBytes_eq shaped inside.1 bytes index, if_neg (by omega)]
        refine (ih _ (index + 1) inside.2 (Nat.succ_pos _)).trans ?_
        rw [List.map_cons, List.sum_cons, Json.memberLength, key]
        congr 1
        dsimp only
        omega
  have members : Json.members entry.fields ≠ [] := by
    rw [GeoDetailsEntry.members_fields, GeoDetailsEntry.texts]
    exact List.cons_ne_nil _ _
  have whole : Json.length entry.json =
      (entry.texts.map fun field => Json.memberLength (field.1, .string field.2)).sum + 1 := by
    rw [GeoDetailsEntry.json, Json.length_object members, GeoDetailsEntry.members_fields,
      List.map_map]
    rfl
  obtain ⟨first, rest, split⟩ : ∃ first rest, entry.texts = first :: rest := ⟨_, _, rfl⟩
  have inside : ∀ field ∈ first :: rest, field ∈ entry.texts := fun _ member => split ▸ member
  rw [List.forall_mem_cons] at inside
  have key := length_key inside.1
  rw [entryBytes, normalized, whole, split, List.map_cons, List.zipIdx_cons, List.foldlM_cons,
    addFieldBytes_eq shaped inside.1, if_pos rfl]
  refine (loop rest _ 1 inside.2 Nat.one_pos).trans ?_
  rw [List.map_cons, List.sum_cons, Json.memberLength, key]
  congr 1
  dsimp only
  omega

/-- An entry is accepted unless the sidecar has become too large. -/
theorem normalizeEntry_item (shaped : Shaped entry) {progress : Progress}
    (before : progress.previous.toList < entry.address.text.toList) (index : Nat) :
    normalizeEntry progress (.object (item entry), index) =
      if 131072 < progress.bytes + ((if index = 0 then 0 else 1) + Json.length entry.json) then
        schemaError reportPath "canonical Go sidecar byte limit"
      else .ok ⟨progress.bytes + ((if index = 0 then 0 else 1) + Json.length entry.json),
        entry.address.text, progress.entries ++ [normalized entry]⟩ := by
  obtain ⟨chars, same, written⟩ := shaped.address
  have chars_eq : entry.address.text.toList = chars := by
    rw [same]
    exact text_spelled chars
  rw [chars_eq] at before
  rw [normalizeEntry]
  simp only [bind, Except.bind, object, allowedFields_item,
    normalizeAddress_item same written before, normalizeOrigin_item shaped,
    normalizeTexts_item shaped, normalizeTimes_item shaped, ← normalized_eq,
    entryBytes_normalized shaped]

end Entries

/-! ## Sidecars are accepted -/

section Sidecars

open Diagnostic

variable {sidecar : GeoDetailsSidecar} {entries : List GeoDetailsEntry}

/-- What the server writes for the entries, with the commas between them. -/
def entriesBytes : Nat → List GeoDetailsEntry → Nat
  | _, [] => 0
  | index, first :: rest =>
      (if index = 0 then 0 else 1) + Json.length first.json + entriesBytes (index + 1) rest

theorem entriesBytes_succ (index : Nat) (entries : List GeoDetailsEntry) :
    entriesBytes (index + 1) entries =
      (entries.map fun entry => Json.length entry.json + 1).sum := by
  induction entries generalizing index with
  | nil => rfl
  | cons first rest ih =>
      rw [entriesBytes, ih, if_neg (Nat.succ_ne_zero _), List.map_cons, List.sum_cons]
      omega

theorem length_entries (entries : List GeoDetailsEntry) :
    Json.length (.array (entries.map GeoDetailsEntry.json)) = entriesBytes 0 entries + 2 := by
  cases entries with
  | nil => decide
  | cons first rest =>
      rw [List.map_cons, Json.length_array (List.cons_ne_nil _ _), List.map_cons, List.sum_cons,
        List.map_map, entriesBytes, entriesBytes_succ, if_pos rfl]
      simp only [Function.comp_def]
      omega

theorem toList_toString (value : Nat) : (toString (value : Int)).toList = Decimal.digits value := by
  change (Nat.repr value).toList = _
  simp

theorem envelopeBytes_natCast (total omitted : Nat) : envelopeBytes total omitted =
    28 + ((Decimal.digits total).length + (11 + ((Decimal.digits omitted).length + 14))) := by
  have first : "\x7b\"schema_version\":1,\"total\":".toList.length = 28 := by decide
  have second : ",\"omitted\":".toList.length = 11 := by decide
  have third : ",\"entries\":[]\x7d".toList.length = 14 := by decide
  unfold envelopeBytes
  rw [List.length_append, List.length_append, List.length_append, List.length_append, first, second,
    third, toList_toString, toList_toString]

/-- What the browser counts is what the server writes. -/
theorem length_sidecar (version : sidecar.schemaVersion = 1) : Json.length sidecar.json =
    envelopeBytes sidecar.total sidecar.omitted + entriesBytes 0 sidecar.entries := by
  have version_key : utf8Length (Json.quote (GoString.ofString "schema_version")) = 16 := by decide
  have total_key : utf8Length (Json.quote (GoString.ofString "total")) = 7 := by decide
  have omitted_key : utf8Length (Json.quote (GoString.ofString "omitted")) = 9 := by decide
  have entries_key : utf8Length (Json.quote (GoString.ofString "entries")) = 9 := by decide
  have one : (Decimal.digits 1).length = 1 := by decide
  rw [envelopeBytes_natCast, GeoDetailsSidecar.json, Json.length_object (List.cons_ne_nil _ _),
    version, List.map_cons, List.map_cons, List.map_cons, List.map_cons, List.map_nil]
  simp only [List.sum_cons, List.sum_nil, Json.memberLength, version_key, total_key, omitted_key,
    entries_key, Json.length_number_ofNat, length_entries, one]
  omega

/-- The entries come in the order that the browser wants. -/
def Ordered (entries : List GeoDetailsEntry) : Prop :=
  entries.Pairwise fun first second => first.address.text.toList < second.address.text.toList

theorem foldlM_normalizeEntry {index : Nat} {progress : Progress}
    (shaped : ∀ entry ∈ entries, Shaped entry) (ordered : Ordered entries)
    (before : ∀ entry ∈ entries, progress.previous.toList < entry.address.text.toList)
    (room : progress.bytes ≤ 131072) :
    ∃ previous, ((entries.map fun entry => JsValue.object (item entry)).zipIdx index).foldlM
      normalizeEntry progress =
        if 131072 < progress.bytes + entriesBytes index entries then
          schemaError reportPath "canonical Go sidecar byte limit"
        else .ok ⟨progress.bytes + entriesBytes index entries, previous,
          progress.entries ++ entries.map normalized⟩ := by
  induction entries generalizing index progress with
  | nil =>
      refine ⟨progress.previous, ?_⟩
      rw [entriesBytes, Nat.add_zero, if_neg (by omega), List.map_nil]
      change (.ok progress : Checked _) = .ok ⟨_, _, progress.entries ++ []⟩
      rw [List.append_nil]
  | cons first rest ih =>
      rw [List.forall_mem_cons] at shaped before
      obtain ⟨head, tail⟩ := List.pairwise_cons.mp ordered
      rw [List.map_cons, List.zipIdx_cons, List.foldlM_cons,
        normalizeEntry_item shaped.1 before.1, entriesBytes]
      by_cases large : 131072 < progress.bytes +
          ((if index = 0 then 0 else 1) + Json.length first.json)
      · refine ⟨"", ?_⟩
        rw [if_pos large, if_pos (by omega)]
        rfl
      · rw [if_neg large]
        obtain ⟨previous, run⟩ := @ih (index + 1) ⟨progress.bytes +
          ((if index = 0 then 0 else 1) + Json.length first.json), first.address.text,
            progress.entries ++ [normalized first]⟩ shaped.2 tail head (by dsimp only; omega)
        refine ⟨previous, run.trans ?_⟩
        rw [List.map_cons, List.append_assoc, Nat.add_assoc]
        rfl

/-- What the browser has of a sidecar. -/
def details (sidecar : GeoDetailsSidecar) : GeoDetails where
  schemaVersion := 1
  total := sidecar.total
  omitted := sidecar.omitted
  entries := sidecar.entries.map normalized

/-- A sidecar that the server may attach. -/
structure Attachable (sidecar : GeoDetailsSidecar) : Prop where
  version : sidecar.schemaVersion = 1
  total : sidecar.total = sidecar.entries.length + sidecar.omitted
  total_le : sidecar.total ≤ geoDetailsMaxTotal
  shaped : ∀ entry ∈ sidecar.entries, Shaped entry
  ordered : Ordered sidecar.entries

theorem length_digits_le {value : Nat} (small : value ≤ geoDetailsMaxTotal) :
    (Decimal.digits value).length ≤ 4 :=
  (Nat.length_toDigits_le_iff (by decide) (by decide)).mpr (by
    unfold geoDetailsMaxTotal at small
    omega)

theorem ofJson_sidecar (sidecar : GeoDetailsSidecar) : JsValue.ofJson sidecar.json = .object
    [("schema_version", .number (toNumber (.ofNat sidecar.schemaVersion))),
      ("total", .number (toNumber (.ofNat sidecar.total))),
      ("omitted", .number (toNumber (.ofNat sidecar.omitted))),
      ("entries", .array (sidecar.entries.map fun entry => .object (item entry)))] := by
  have elements : (sidecar.entries.map GeoDetailsEntry.json).map JsValue.ofJson =
      sidecar.entries.map fun entry => JsValue.object (item entry) := by
    rw [List.map_map]
    refine List.map_congr_left fun entry _ => ?_
    exact JsValue.ofJson_object ((Json.keys_members_sublist entry.fields).nodup (nodup_keys entry))
  have distinct : ["schema_version", "total", "omitted", "entries"].Nodup := by decide
  refine (JsValue.ofJson_object ?_).trans ?_
  · exact distinct
  simp only [List.map_cons, List.map_nil, JsValue.ofJson_array, elements]
  rfl

/-- The browser accepts a sidecar of at most 500 entries and 128 KiB, and no other. -/
theorem normalizeGeoDetails_eq (attachable : Attachable sidecar) :
    normalizeGeoDetails (JsValue.ofJson sidecar.json) =
      if 500 < sidecar.entries.length then
        schemaError (reportPath ++ ".entries") "exceeds limit 500"
      else if 131072 < Json.length sidecar.json then
        schemaError reportPath "canonical Go sidecar byte limit"
      else .ok (details sidecar) := by
  obtain ⟨version, total, total_le, shaped, ordered⟩ := attachable
  have bounds : sidecar.total ≤ 6200 ∧ sidecar.omitted ≤ 6200 := by
    unfold geoDetailsMaxTotal at total_le
    omega
  have safe : ∀ value ≤ 6200, value ≤ maxSafeInteger := fun value le =>
    le.trans (by decide)
  have number : ∀ value ≤ 6200, toNumber (.ofNat value) = .finite value := fun value le =>
    toNumber_ofNat (lt_of_le_of_lt le (by norm_num))
  have first := @integer_natCast 1 (reportPath ++ ".schema_version") 1 1 (by decide) (by decide)
    (by decide)
  have second := @integer_natCast sidecar.total (reportPath ++ ".total") 0 6200 (by omega)
    (by omega) (safe _ bounds.1)
  have third := @integer_natCast sidecar.omitted (reportPath ++ ".omitted") 0 sidecar.total
    (by omega) (by omega) (safe _ bounds.2)
  rw [ofJson_sidecar, version, number 1 (by decide), number _ bounds.1, number _ bounds.2]
  change (do
    let schemaVersion ← integer (.number (.finite (1 : Nat))) (reportPath ++ ".schema_version") 1 1
    let total ← integer (.number (.finite sidecar.total)) (reportPath ++ ".total") 0 6200
    let omitted ← integer (.number (.finite sidecar.omitted)) (reportPath ++ ".omitted") 0 total
    let rawEntries ← array (.array (sidecar.entries.map fun entry => .object (item entry)))
      (reportPath ++ ".entries") 500
    if total ≠ rawEntries.length + omitted then schemaError reportPath "counts do not agree"
    else do
      let progress ← rawEntries.zipIdx.foldlM normalizeEntry ⟨envelopeBytes total omitted, "", []⟩
      .ok ⟨schemaVersion, total, omitted, progress.entries⟩ : Checked GeoDetails) = _
  rw [first]
  simp only [bind, Except.bind]
  rw [second]
  dsimp only
  rw [third]
  dsimp only
  rw [array, List.length_map]
  by_cases many : 500 < sidecar.entries.length
  · rw [if_pos many, if_pos many]
    rfl
  · rw [if_neg many, if_neg many]
    dsimp only
    have counts : ¬ ((sidecar.total : Int) ≠ (sidecar.entries.map fun entry =>
        JsValue.object (item entry)).length + sidecar.omitted) := by
      rw [List.length_map]
      omega
    have small : envelopeBytes sidecar.total sidecar.omitted ≤ 131072 := by
      have digits := length_digits_le total_le
      have digits' := length_digits_le (by omega : sidecar.omitted ≤ geoDetailsMaxTotal)
      rw [envelopeBytes_natCast]
      omega
    have before : ∀ entry ∈ sidecar.entries, "".toList < entry.address.text.toList := by
      intro entry member
      obtain ⟨chars, same, written⟩ := (shaped entry member).address
      rw [same]
      change [] < (Stamp.spelled chars).text.toList
      rw [text_spelled]
      cases chars with
      | nil =>
          have canonical := canonicalPublicIP_eq written
          revert canonical
          decide +kernel
      | cons first rest => exact List.nil_lt_cons _ _
    obtain ⟨previous, run⟩ := @foldlM_normalizeEntry sidecar.entries 0
      ⟨envelopeBytes sidecar.total sidecar.omitted, "", []⟩ shaped ordered before small
    rw [if_neg counts, run, ← length_sidecar version]
    by_cases large : 131072 < Json.length sidecar.json
    · rw [if_pos large, if_pos large]
      rfl
    · rw [if_neg large, if_neg large]
      rfl

end Sidecars

end CheckNetwork.Frontend
