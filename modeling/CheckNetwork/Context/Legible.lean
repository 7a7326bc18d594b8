import CheckNetwork.Context.Parsed

/-!
# Texts of accepted records

A JSON text replaces what is not UTF-8.  The contract leaves no room for that:
all texts of an accepted record are plain but four, which are checked before.
-/

namespace CheckNetwork.Context

open Go

/-- A text as it is read back: what is not UTF-8 has been replaced. -/
def cleanText (text : GoString) : GoString := text.map fun rune => .scalar rune.char

theorem cleanText_of_isValid {text : GoString} (valid : text.isValid = true) :
    cleanText text = text := by
  refine (List.map_congr_left ?_).trans (List.map_id _)
  intro rune member
  have scalar := List.all_eq_true.mp valid rune member
  cases rune with
  | scalar char => rfl
  | invalid byte => cases scalar

/-- A text whose replacement is plain had nothing to replace. -/
theorem isValid_of_plain {text : GoString} (plain : (cleanText text).Plain) :
    text.isValid = true := by
  rw [GoString.isValid, List.all_eq_true]
  intro rune member
  have clean := plain (.scalar rune.char) (List.mem_map.mpr ⟨rune, member, rfl⟩)
  cases rune with
  | scalar char => rfl
  | invalid byte => exact absurd clean (by decide : ¬ isPlainRune (.scalar '\uFFFD') = true)

@[simp]
theorem cleanText_eq_nil {text : GoString} : cleanText text = [] ↔ text = [] :=
  List.map_eq_nil_iff

/-! ## Records as they are read back -/

def IPContextName.clean (name : IPContextName) : IPContextName :=
  ⟨cleanText name.name, cleanText name.forwardStatus⟩

def IPContextReverse.clean (reverse : IPContextReverse) : IPContextReverse where
  status := cleanText reverse.status
  source := cleanText reverse.source
  fetchedAt := cleanText reverse.fetchedAt
  names := reverse.names.map fun names => names.map IPContextName.clean
  omitted := reverse.omitted

def IPContextRegistration.clean (registration : IPContextRegistration) : IPContextRegistration where
  status := cleanText registration.status
  source := cleanText registration.source
  fetchedAt := cleanText registration.fetchedAt
  registry := cleanText registration.registry
  startAddress := cleanText registration.startAddress
  endAddress := cleanText registration.endAddress
  handle := cleanText registration.handle
  name := cleanText registration.name
  type := cleanText registration.type
  country := cleanText registration.country
  organization := cleanText registration.organization
  registeredAt := cleanText registration.registeredAt
  updatedAt := cleanText registration.updatedAt

def IPContextRPKI.clean (rpki : IPContextRPKI) : IPContextRPKI :=
  ⟨cleanText rpki.status, cleanText rpki.source, cleanText rpki.checkedAt, cleanText rpki.validity⟩

def IPContextOrigin.clean (origin : IPContextOrigin) : IPContextOrigin :=
  ⟨origin.asn, origin.rpki.clean⟩

def IPContextRouting.clean (routing : IPContextRouting) : IPContextRouting where
  status := cleanText routing.status
  source := cleanText routing.source
  fetchedAt := cleanText routing.fetchedAt
  routePrefix := cleanText routing.routePrefix
  origins := routing.origins.map fun origins => origins.map IPContextOrigin.clean
  omitted := routing.omitted

def IPContext.clean (value : IPContext) : IPContext where
  schemaVersion := value.schemaVersion
  address := cleanText value.address
  source := cleanText value.source
  fetchedAt := cleanText value.fetchedAt
  expiresAt := cleanText value.expiresAt
  reverseDNS := value.reverseDNS.clean
  registration := value.registration.clean
  routing := value.routing.clean

section Clean

theorem cleanMembers_members (fields : List (String × Option JsonValue)) :
    Json.cleanMembers (Json.members fields) =
      Json.members (fields.map fun field => (field.1, field.2.map Json.clean)) := by
  induction fields with
  | nil => rfl
  | cons first rest ih =>
      rcases first with ⟨name, _ | value⟩
      · exact ih
      · exact congrArg _ ih

theorem cleanElements_map {A : Type} (write : A → JsonValue) (values : List A) :
    Json.cleanElements (values.map write) = values.map fun value => Json.clean (write value) := by
  induction values with
  | nil => rfl
  | cons first rest ih => exact congrArg _ ih

theorem map_clean_omitempty (text : GoString) :
    (Json.omitempty text).map Json.clean = Json.omitempty (cleanText text) := by
  rcases eq_or_ne text [] with rfl | nonempty
  · rfl
  · rw [Json.omitempty_of_ne nonempty, Json.omitempty_of_ne (mt cleanText_eq_nil.mp nonempty)]
    rfl

theorem clean_string (text : GoString) : Json.clean (.string text) = .string (cleanText text) := rfl

theorem clean_number (number : JsonNumber) : Json.clean (.number number) = .number number := rfl

theorem clean_object (fields : List (String × Option JsonValue)) :
    Json.clean (.object (Json.members fields)) =
      .object (Json.members (fields.map fun field => (field.1, field.2.map Json.clean))) := by
  rw [Json.clean, cleanMembers_members]

theorem IPContextName.clean_toJson (name : IPContextName) :
    Json.clean name.toJson = name.clean.toJson := by
  simp [toJson, fields, clean_object, clean_string, clean]

theorem IPContextReverse.clean_toJson (reverse : IPContextReverse) :
    Json.clean reverse.toJson = reverse.clean.toJson := by
  have names : Json.clean (reverse.names.elim .null fun names =>
      .array (names.map IPContextName.toJson)) = reverse.clean.names.elim .null fun names =>
        .array (names.map IPContextName.toJson) := by
    rw [clean]
    cases reverse.names with
    | none => rfl
    | some names =>
        simp [Json.clean, cleanElements_map, IPContextName.clean_toJson]
  simp [toJson, fields, clean_object, clean_string, clean_number, names]
  simp [clean]

theorem IPContextRegistration.clean_toJson (registration : IPContextRegistration) :
    Json.clean registration.toJson = registration.clean.toJson := by
  simp [toJson, fields, clean_object, clean_string, map_clean_omitempty, clean]

theorem IPContextRPKI.clean_toJson (rpki : IPContextRPKI) :
    Json.clean rpki.toJson = rpki.clean.toJson := by
  simp [toJson, fields, clean_object, clean_string, map_clean_omitempty, clean]

theorem IPContextOrigin.clean_toJson (origin : IPContextOrigin) :
    Json.clean origin.toJson = origin.clean.toJson := by
  simp [toJson, fields, clean_object, clean_number, IPContextRPKI.clean_toJson, clean]

theorem IPContextRouting.clean_toJson (routing : IPContextRouting) :
    Json.clean routing.toJson = routing.clean.toJson := by
  have origins : Json.clean (routing.origins.elim .null fun origins =>
      .array (origins.map IPContextOrigin.toJson)) = routing.clean.origins.elim .null fun origins =>
        .array (origins.map IPContextOrigin.toJson) := by
    rw [clean]
    cases routing.origins with
    | none => rfl
    | some origins =>
        simp [Json.clean, cleanElements_map, IPContextOrigin.clean_toJson]
  simp [toJson, fields, clean_object, clean_string, clean_number, map_clean_omitempty, origins]
  simp [clean]

/-- A record is written as its clean form is, up to what reading replaces. -/
theorem IPContext.clean_toJson (value : IPContext) :
    Json.clean value.toJson = value.clean.toJson := by
  simp [toJson, fields, clean_object, clean_string, clean_number, clean,
    IPContextReverse.clean_toJson, IPContextRegistration.clean_toJson,
    IPContextRouting.clean_toJson]

end Clean

/-! ## Plain texts -/

namespace IPContext

def reverseTexts (reverse : IPContextReverse) : List GoString :=
  [reverse.status, reverse.source, reverse.fetchedAt] ++
    (reverse.names.getD []).flatMap fun name => [name.name, name.forwardStatus]

def registrationTexts (registration : IPContextRegistration) : List GoString :=
  [registration.status, registration.source, registration.fetchedAt, registration.registry,
    registration.startAddress, registration.endAddress, registration.country,
    registration.registeredAt, registration.updatedAt]

def originTexts (origin : IPContextOrigin) : List GoString :=
  [origin.rpki.status, origin.rpki.source, origin.rpki.checkedAt, origin.rpki.validity]

def routingTexts (routing : IPContextRouting) : List GoString :=
  [routing.status, routing.source, routing.fetchedAt, routing.routePrefix] ++
    (routing.origins.getD []).flatMap originTexts

/-- The texts that the contract confines. -/
def plainTexts (value : IPContext) : List GoString :=
  [value.address, value.source, value.fetchedAt, value.expiresAt] ++
    (reverseTexts value.reverseDNS ++ (registrationTexts value.registration ++
      routingTexts value.routing))

/-- The texts that are checked before they are written. -/
def freeTexts (value : IPContext) : List GoString :=
  [value.registration.handle, value.registration.name, value.registration.type,
    value.registration.organization]

theorem plainTexts_clean (value : IPContext) :
    value.clean.plainTexts = value.plainTexts.map cleanText := by
  have names : (value.reverseDNS.clean.names.getD []).flatMap
      (fun name => [name.name, name.forwardStatus]) =
        ((value.reverseDNS.names.getD []).flatMap fun name =>
          [name.name, name.forwardStatus]).map cleanText := by
    rw [IPContextReverse.clean]
    cases value.reverseDNS.names with
    | none => rfl
    | some names => simp [List.flatMap_map, List.map_flatMap, IPContextName.clean]
  have origins : (value.routing.clean.origins.getD []).flatMap originTexts =
      ((value.routing.origins.getD []).flatMap originTexts).map cleanText := by
    rw [IPContextRouting.clean]
    cases value.routing.origins with
    | none => rfl
    | some origins =>
        simp [List.flatMap_map, List.map_flatMap, originTexts, IPContextOrigin.clean,
          IPContextRPKI.clean]
  simp only [plainTexts, reverseTexts, registrationTexts, routingTexts, clean, List.map_append,
    List.map_cons, List.map_nil, names, origins]
  rfl

/-- A record whose texts are valid is read back as it is. -/
theorem clean_of_isValid {value : IPContext}
    (plain : ∀ text ∈ value.plainTexts, text.isValid = true)
    (free : ∀ text ∈ value.freeTexts, text.isValid = true) : value.clean = value := by
  have same : ∀ text ∈ value.plainTexts, cleanText text = text :=
    fun text member => cleanText_of_isValid (plain text member)
  have sameFree : ∀ text ∈ value.freeTexts, cleanText text = text :=
    fun text member => cleanText_of_isValid (free text member)
  rcases value with ⟨version, address, source, fetchedAt, expiresAt,
    ⟨status, reverseSource, reverseFetched, names, omitted⟩, registration,
    ⟨routingStatus, routingSource, routingFetched, routePrefix, origins, omittedOrigins⟩⟩
  simp only [plainTexts, reverseTexts, registrationTexts, routingTexts, List.cons_append,
    List.nil_append, List.forall_mem_cons, List.forall_mem_append, List.forall_mem_flatMap] at same
  simp only [freeTexts, List.forall_mem_cons] at sameFree
  obtain ⟨address_eq, source_eq, fetched_eq, expires_eq, status_eq, reverseSource_eq,
    reverseFetched_eq, named, regStatus, regSource, regFetched, registry, start, stop, country,
    registeredAt, updatedAt, routingStatus_eq, routingSource_eq, routingFetched_eq, prefix_eq,
    routed⟩ := same
  obtain ⟨handle, name, type, organization, _⟩ := sameFree
  have names_eq : (names.map fun names => names.map IPContextName.clean) = names := by
    cases names with
    | none => rfl
    | some names =>
        have each : ∀ name ∈ names, name.clean = name := by
          intro name member
          have fields := named name member
          rw [IPContextName.clean, fields.1, fields.2.1]
        rw [Option.map_some, (List.map_congr_left each).trans (List.map_id' _)]
  have origins_eq : (origins.map fun origins => origins.map IPContextOrigin.clean) = origins := by
    cases origins with
    | none => rfl
    | some origins =>
        have each : ∀ origin ∈ origins, origin.clean = origin := by
          intro origin member
          have fields := routed origin member
          simp only [originTexts, List.forall_mem_cons] at fields
          rw [IPContextOrigin.clean, IPContextRPKI.clean, fields.1, fields.2.1, fields.2.2.1,
            fields.2.2.2.1]
        rw [Option.map_some, (List.map_congr_left each).trans (List.map_id' _)]
  simp only [clean, IPContextReverse.clean, IPContextRegistration.clean, IPContextRouting.clean,
    names_eq, origins_eq, address_eq, source_eq, fetched_eq, expires_eq, status_eq,
    reverseSource_eq, reverseFetched_eq, regStatus, regSource, regFetched, registry, start, stop,
    country, registeredAt, updatedAt, handle, name, type, organization, routingStatus_eq,
    routingSource_eq, routingFetched_eq, prefix_eq]

/-! ## Accepted texts are plain -/

section Plain

theorem plain_nil : GoString.Plain [] := fun _ member => (by cases member)

theorem plain_of_eq_ofString {text : GoString} {word : String}
    (all : word.toList.all isPlainChar = true) (same : text = GoString.ofString word) :
    text.Plain := by
  rw [same]
  exact GoString.Plain.of_chars fun char member => List.all_eq_true.mp all char member

theorem plain_of_contextMember {text : GoString} {values : List String}
    (all : (values.all fun value => value.toList.all isPlainChar) = true)
    (member : contextMember text values = true) : text.Plain := by
  obtain ⟨value, inside, same⟩ := List.any_eq_true.mp member
  exact plain_of_eq_ofString (List.all_eq_true.mp all value inside) (of_decide_eq_true same)

section Characters

variable {char : Char}

theorem isPlainChar_of_toNat (visible : 0x20 ≤ char.toNat) (ascii : char.toNat < 0x7F)
    (other : char.toNat ∉ [0x22, 0x5C, 0x3C, 0x3E, 0x26]) : isPlainChar char = true := by
  have different : ∀ special : Char, special.toNat ∈ [0x22, 0x5C, 0x3C, 0x3E, 0x26] →
      char ≠ special := by
    rintro special member rfl
    exact other member
  exact decide_eq_true ⟨visible, ascii, different _ (by decide), different _ (by decide),
    different _ (by decide), different _ (by decide), different _ (by decide)⟩

/-- Digits and letters, by their numbers. -/
theorem isPlainChar_of_between {first last : Char} (lower : first ≤ char) (upper : char ≤ last)
    (range : (List.range 0x7F).all fun number => number < first.toNat ∨ last.toNat < number ∨
      (0x20 ≤ number ∧ number ∉ [0x22, 0x5C, 0x3C, 0x3E, 0x26]))
    (ascii : last.toNat < 0x7F) : isPlainChar char = true := by
  have lower : first.toNat ≤ char.toNat := lower
  have upper : char.toNat ≤ last.toNat := upper
  have found := List.all_eq_true.mp range char.toNat (List.mem_range.mpr (by omega))
  rcases of_decide_eq_true found with before | after | ⟨visible, other⟩
  · omega
  · omega
  · exact isPlainChar_of_toNat visible (by omega) other

theorem isPlainChar_of_isDigit (digit : char.isDigit = true) : isPlainChar char = true := by
  rw [Char.isDigit, Bool.and_eq_true, decide_eq_true_iff, decide_eq_true_iff] at digit
  exact @isPlainChar_of_between char '0' '9' digit.1 digit.2 (by decide) (by decide)

theorem isPlainChar_of_isMark (mark : Stamp.isMark char = true) : isPlainChar char = true := by
  rcases of_decide_eq_true mark with digit | rfl | rfl | rfl | rfl | rfl
  · exact isPlainChar_of_isDigit digit
  all_goals decide

theorem isPlainChar_of_isAddrChar (known : isAddrChar char = true) : isPlainChar char = true := by
  rcases of_decide_eq_true known with digit | ⟨lower, upper⟩ | rfl | rfl | rfl
  · exact isPlainChar_of_isDigit digit
  · exact isPlainChar_of_between lower upper (by decide) (by decide)
  all_goals decide

theorem isPlainChar_of_isLabelChar (known : isLabelChar char = true) : isPlainChar char = true := by
  rcases of_decide_eq_true known with ⟨lower, upper⟩ | ⟨lower, upper⟩ | rfl | rfl
  · exact isPlainChar_of_between lower upper (by decide) (by decide)
  · exact isPlainChar_of_between lower upper (by decide) (by decide)
  all_goals decide

theorem isPlainChar_of_isCapital (known : isCapital char = true) : isPlainChar char = true := by
  obtain ⟨lower, upper⟩ := of_decide_eq_true known
  exact isPlainChar_of_between lower upper (by decide) (by decide)

end Characters

theorem plain_of_stampText {text : GoString} {time : Time} (stamped : stampText text = some time) :
    text.Plain := by
  unfold stampText at stamped
  split at stamped
  · obtain ⟨_, known⟩ := Option.filter_eq_some_iff.mp stamped
    rw [← (of_decide_eq_true known).2.2]
    exact GoString.Plain.of_chars fun char member =>
      isPlainChar_of_isMark (List.all_eq_true.mp (Stamp.all_isMark_format _) char member)
  · cases stamped

theorem plain_of_timedText {stamp source : GoString} {expected : String} {root : Time}
    (all : expected.toList.all isPlainChar = true)
    (timed : timedText stamp source expected root = true) : stamp.Plain ∧ source.Plain := by
  rw [timedText, Bool.and_eq_true, Option.any_eq_true] at timed
  obtain ⟨⟨time, stamped, _⟩, same⟩ := timed
  exact ⟨plain_of_stampText stamped, plain_of_eq_ofString all (of_decide_eq_true same)⟩

variable {net : NetLibrary}

/-- Canonical addresses are plain and short. -/
theorem plain_of_canonicalContextAddress {address : GoString} {ip : Addr}
    (canonical : canonicalContextAddress net address = some ip) :
    address.Plain ∧ address.length ≤ 82 := by
  obtain ⟨_, known⟩ := Option.filter_eq_some_iff.mp canonical
  obtain ⟨zone, _, same⟩ := of_decide_eq_true known
  rw [← same, Addr.string_of_zone zone, List.length_map]
  exact ⟨GoString.Plain.of_chars fun char member =>
    isPlainChar_of_isAddrChar (List.all_eq_true.mp (Addr.all_text ip) char member),
    ip.length_text_le⟩

theorem plain_of_contextPrefix {text requested : GoString}
    (routed : contextPrefix net text requested = true) : text.Plain ∧ text.length ≤ 86 := by
  obtain ⟨range, _, matched⟩ := (Option.any_eq_true ..).mp routed
  obtain ⟨ip, _, same⟩ := (Option.any_eq_true ..).mp matched
  obtain ⟨zone, _, same, _⟩ := of_decide_eq_true same
  obtain ⟨chars, string_eq, all, short⟩ := AddrPrefix.string_of_zone zone
  rw [← same, string_eq, List.length_map]
  exact ⟨GoString.Plain.of_chars fun char member =>
    isPlainChar_of_isAddrChar (List.all_eq_true.mp all char member), short⟩

theorem plain_of_contextLabel {label : GoString} (known : contextLabel label = true) :
    label.Plain := by
  intro rune member
  have inside := List.all_eq_true.mp (of_decide_eq_true known).2.2.2.2 rune member
  cases rune with
  | scalar char => exact isPlainChar_of_isLabelChar inside
  | invalid byte => cases inside

theorem plain_of_contextDNSName {name : GoString} (known : contextDNSName name = true) :
    name.Plain := by
  have labels := List.all_eq_true.mp (of_decide_eq_true known).2.2
  have whole : [Rune.scalar '.'].intercalate (name.splitAt '.') = name :=
    List.intercalate_splitOn (Rune.scalar '.')
  intro rune member
  rw [← whole] at member
  rcases GoString.mem_of_mem_intercalate member with mark | ⟨label, inside, found⟩
  · rw [List.mem_singleton.mp mark]
    decide
  · exact plain_of_contextLabel (labels label inside) rune found

theorem plain_of_contextCountry {text : GoString} (known : contextCountry text = true) :
    text.Plain := by
  unfold contextCountry at known
  split at known
  · rename_i first second
    rw [Bool.and_eq_true] at known
    intro rune member
    rcases List.mem_pair.mp member with rfl | rfl
    · exact isPlainChar_of_isCapital known.1
    · exact isPlainChar_of_isCapital known.2
  · cases known

theorem plain_of_namesOk {previous : GoString} {names : List IPContextName}
    (ordered : namesOk previous names = true) :
    ∀ name ∈ names, contextDNSName name.name = true ∧ name.name.Plain ∧
      name.forwardStatus.Plain := by
  induction names generalizing previous with
  | nil => exact fun _ member => (by cases member)
  | cons first rest ih =>
      rw [namesOk, Bool.and_eq_true, Bool.and_eq_true, Bool.and_eq_true] at ordered
      obtain ⟨⟨⟨valid, _⟩, known⟩, later⟩ := ordered
      rw [List.forall_mem_cons]
      exact ⟨⟨valid, plain_of_contextDNSName valid, plain_of_contextMember (by decide) known⟩,
        ih later⟩

theorem plain_of_originsOk {fetched : Time} {previous : Nat} {origins : List IPContextOrigin}
    (ordered : OriginsOk fetched previous origins) :
    ∀ origin ∈ origins, origin.rpki.Ok fetched := by
  induction origins generalizing previous with
  | nil => exact fun _ member => (by cases member)
  | cons first rest ih =>
      rw [List.forall_mem_cons]
      exact ⟨ordered.2.1, ih ordered.2.2⟩

theorem plain_originTexts {fetched : Time} {origin : IPContextOrigin}
    (ok : origin.rpki.Ok fetched) : ∀ text ∈ originTexts origin, text.Plain := by
  obtain ⟨stamp, source⟩ := plain_of_timedText (by decide) ok.timed
  have validity : origin.rpki.validity.Plain := by
    by_cases found : origin.rpki.status = GoString.ofString "ok"
    · exact plain_of_contextMember (by decide) (ok.found found)
    · rw [ok.absent found]
      exact plain_nil
  simp only [originTexts, List.forall_mem_cons]
  exact ⟨plain_of_contextMember (by decide) ok.status, source, stamp, validity,
    fun _ member => (by cases member)⟩

theorem plain_of_dateOk {text : GoString} (ok : dateOk text = true) : text.Plain := by
  rcases of_decide_eq_true ok with rfl | stamped
  · exact plain_nil
  · obtain ⟨time, stamped⟩ := Option.isSome_iff_exists.mp stamped
    exact plain_of_stampText stamped

theorem plain_of_validRange {start stop requested : GoString}
    (range : validRange net start stop requested = true) :
    (start.Plain ∧ start.length ≤ 82) ∧ stop.Plain ∧ stop.length ≤ 82 := by
  obtain ⟨first, firstFound, range⟩ := (Option.any_eq_true ..).mp range
  obtain ⟨last, lastFound, _⟩ := (Option.any_eq_true ..).mp range
  exact ⟨plain_of_canonicalContextAddress firstFound, plain_of_canonicalContextAddress lastFound⟩

theorem plain_registrationTexts {registration : IPContextRegistration} {requested : GoString}
    {fetched : Time} (ok : registration.Ok net requested fetched) :
    ∀ text ∈ registrationTexts registration, text.Plain := by
  obtain ⟨stamp, source⟩ := plain_of_timedText (by decide) ok.timed
  have registry : registration.registry.Plain := by
    rcases ok.registry with empty | known
    · rw [empty]
      exact plain_nil
    · exact plain_of_contextMember (by decide) known
  have details : registration.startAddress.Plain ∧ registration.endAddress.Plain ∧
      registration.country.Plain ∧ registration.registeredAt.Plain ∧
        registration.updatedAt.Plain := by
    by_cases found : registration.status = GoString.ofString "ok"
    · have details := ok.found found
      obtain ⟨⟨start, _⟩, stop, _⟩ := plain_of_validRange details.range
      refine ⟨start, stop, ?_, plain_of_dateOk details.registeredAt,
        plain_of_dateOk details.updatedAt⟩
      rcases details.country with empty | known
      · rw [empty]
        exact plain_nil
      · exact plain_of_contextCountry known
    · have absent : ∀ text ∈ registration.details, text.Plain := by
        intro text member
        rw [ok.absent found text member]
        exact plain_nil
      simp only [IPContextRegistration.details, IPContextRegistration.texts, List.cons_append,
        List.nil_append, List.forall_mem_cons] at absent
      exact ⟨absent.1, absent.2.1, absent.2.2.2.2.2.1, absent.2.2.2.2.2.2.2.1,
        absent.2.2.2.2.2.2.2.2.1⟩
  simp only [registrationTexts, List.forall_mem_cons]
  exact ⟨plain_of_contextMember (by decide) ok.status, source, stamp, registry, details.1,
    details.2.1, details.2.2.1, details.2.2.2.1, details.2.2.2.2, fun _ member => (by cases member)⟩

theorem plain_routingTexts {routing : IPContextRouting} {requested : GoString} {fetched : Time}
    {origins : List IPContextOrigin} {omitted : Nat}
    (ok : routing.Ok net requested fetched origins omitted) :
    ∀ text ∈ routingTexts routing, text.Plain := by
  obtain ⟨stamp, source⟩ := plain_of_timedText (by decide) ok.timed
  have routePrefix : routing.routePrefix.Plain := by
    cases known : contextMember routing.status ["ok", "limited"] with
    | true => exact (plain_of_contextPrefix (ok.found known)).1
    | false =>
        rw [ok.absent known]
        exact plain_nil
  simp only [routingTexts, ok.origins_eq, Option.getD_some, List.cons_append, List.nil_append,
    List.forall_mem_cons, List.forall_mem_flatMap]
  exact ⟨plain_of_contextMember (by decide) ok.status, source, stamp, routePrefix,
    fun origin member => plain_originTexts (plain_of_originsOk ok.ordered origin member)⟩

theorem plain_reverseTexts {reverse : IPContextReverse} {fetched : Time}
    {names : List IPContextName} {omitted : Nat} (ok : reverse.Ok fetched names omitted) :
    ∀ text ∈ reverseTexts reverse, text.Plain := by
  obtain ⟨stamp, source⟩ := plain_of_timedText (by decide) ok.timed
  simp only [reverseTexts, ok.names_eq, Option.getD_some, List.cons_append, List.nil_append,
    List.forall_mem_cons, List.forall_mem_flatMap]
  refine ⟨plain_of_contextMember (by decide) ok.status, source, stamp, ?_⟩
  intro name member
  obtain ⟨_, plainName, plainStatus⟩ := plain_of_namesOk ok.ordered name member
  exact ⟨plainName, plainStatus, fun _ member => (by cases member)⟩

end Plain

end IPContext

end CheckNetwork.Context
