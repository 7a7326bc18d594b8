import CheckNetwork.Context.Legible

/-!
# The codec of address records

`MarshalIPContext` writes exactly the records that the contract accepts, and
`ParseIPContext` returns the record that was written.
-/

namespace CheckNetwork.Context

open Go

/-! ## Written documents are small -/

section Small

theorem membersDistinct_iff {members : Object} :
    MembersDistinct members ↔ ∀ member ∈ members, Distinct member.2 := by
  induction members with
  | nil => simp [MembersDistinct]
  | cons first rest ih => rw [MembersDistinct, ih, List.forall_mem_cons]

theorem elementsDistinct_iff {elements : List JsonValue} :
    ElementsDistinct elements ↔ ∀ element ∈ elements, Distinct element := by
  induction elements with
  | nil => simp [ElementsDistinct]
  | cons first rest ih => rw [ElementsDistinct, ih, List.forall_mem_cons]

theorem membersDepth_le_iff {members : Object} {bound : Nat} :
    Json.membersDepth members ≤ bound ↔ ∀ member ∈ members, Json.depth member.2 ≤ bound := by
  induction members with
  | nil => simp [Json.membersDepth]
  | cons first rest ih => rw [Json.membersDepth, max_le_iff, ih, List.forall_mem_cons]

theorem elementsDepth_le_iff {elements : List JsonValue} {bound : Nat} :
    Json.elementsDepth elements ≤ bound ↔ ∀ element ∈ elements, Json.depth element ≤ bound := by
  induction elements with
  | nil => simp [Json.elementsDepth]
  | cons first rest ih => rw [Json.elementsDepth, max_le_iff, ih, List.forall_mem_cons]

theorem membersTokens_eq (members : Object) :
    membersTokens members = (members.map fun member => tokens member.2 + 1).sum := by
  induction members with
  | nil => rfl
  | cons first rest ih => rw [membersTokens, ih, List.map_cons, List.sum_cons]

/-- A value that a reader with few tokens admits. -/
structure Small (value : JsonValue) (depth count : Nat) : Prop where
  distinct : Distinct value
  depth_le : Json.depth value ≤ depth
  tokens_le : tokens value ≤ count

theorem small_string (text : GoString) : Small (.string text) 0 1 :=
  ⟨trivial, le_refl 0, le_refl 1⟩

theorem small_number (number : JsonNumber) : Small (.number number) 0 1 :=
  ⟨trivial, le_refl 0, le_refl 1⟩

theorem small_array {elements : List JsonValue} {depth count : Nat}
    (each : ∀ element ∈ elements, Small element depth count) :
    Small (.array elements) (depth + 1) (elements.length * count + 2) where
  distinct := elementsDistinct_iff.mpr fun element member => (each element member).distinct
  depth_le := Nat.succ_le_succ
    (elementsDepth_le_iff.mpr fun element member => (each element member).depth_le)
  tokens_le := by
    have sum_le : elementsTokens elements ≤ elements.length * count := by
      induction elements with
      | nil => exact Nat.zero_le _
      | cons first rest ih =>
          rw [List.forall_mem_cons] at each
          have tail := ih each.2
          have head := each.1.tokens_le
          rw [elementsTokens, List.length_cons, Nat.succ_mul]
          omega
    exact Nat.add_le_add_right sum_le 2

theorem Small.mono {value : JsonValue} {depth count deeper more : Nat}
    (small : Small value depth count) (depth_le : depth ≤ deeper) (count_le : count ≤ more) :
    Small value deeper more :=
  ⟨small.distinct, small.depth_le.trans depth_le, small.tokens_le.trans count_le⟩

/-- A field whose value, if it is written, is small. -/
structure SmallField (depth : Nat) (field : String × Option JsonValue) (count : Nat) : Prop where
  small : ∀ value ∈ field.2, Small value depth count

theorem exists_smallField {fields : List (String × Option JsonValue)} {depth : Nat}
    {counts : List Nat} (each : List.Forall₂ (SmallField depth) fields counts) :
    ∀ field ∈ fields, ∃ count, SmallField depth field count := by
  induction each with
  | nil => exact fun _ member => (by cases member)
  | cons first _ ih => exact List.forall_mem_cons.mpr ⟨⟨_, first⟩, ih⟩

theorem small_object {fields : List (String × Option JsonValue)} {depth : Nat} {counts : List Nat}
    (distinct : (fields.map Prod.fst).Nodup)
    (each : List.Forall₂ (SmallField depth) fields counts) :
    Small (.object (Json.members fields)) (depth + 1) ((counts.map (· + 1)).sum + 2) where
  distinct := by
    refine ⟨(Json.keys_members_sublist fields).nodup distinct, membersDistinct_iff.mpr ?_⟩
    intro member inside
    obtain ⟨count, field⟩ := exists_smallField each _ (Json.mem_members.mp inside)
    exact (field.small _ rfl).distinct
  depth_le := by
    apply Nat.succ_le_succ
    rw [membersDepth_le_iff]
    intro member inside
    obtain ⟨count, field⟩ := exists_smallField each _ (Json.mem_members.mp inside)
    exact (field.small _ rfl).depth_le
  tokens_le := by
    rw [tokens, membersTokens_eq, Json.sum_map_members]
    apply Nat.add_le_add_right
    clear distinct
    induction each with
    | nil => exact le_refl 0
    | @cons field count rest counts small _ ih =>
        rcases field with ⟨name, _ | value⟩
        · exact Nat.add_le_add (Nat.zero_le (count + 1)) ih
        · exact Nat.add_le_add (Nat.succ_le_succ (small.small value rfl).tokens_le) ih

theorem smallField_some {name : String} {value : JsonValue} {depth count : Nat}
    (small : Small value depth count) : SmallField depth (name, some value) count := by
  constructor
  rintro found ⟨⟩
  exact small

theorem smallField_text (name : String) (text : GoString) (depth : Nat) :
    SmallField depth (name, some (.string text)) 1 :=
  smallField_some ((small_string text).mono (Nat.zero_le _) (le_refl 1))

theorem smallField_number (name : String) (number : JsonNumber) (depth : Nat) :
    SmallField depth (name, some (.number number)) 1 :=
  smallField_some ((small_number number).mono (Nat.zero_le _) (le_refl 1))

theorem smallField_omitempty (name : String) (text : GoString) (depth : Nat) :
    SmallField depth (name, Json.omitempty text) 1 := by
  unfold Json.omitempty
  split
  · exact ⟨fun _ absent => (by cases absent)⟩
  · exact smallField_text name text depth

/-- A list that is written as `null` if it is nil. -/
theorem smallField_slice {A : Type} {write : A → JsonValue} {depth count : Nat} (name : String)
    (each : ∀ value, Small (write value) depth count) (values : Option (List A)) :
    SmallField (depth + 1) (name, some (values.elim .null fun values =>
      .array (values.map write))) ((values.getD []).length * count + 2) := by
  apply smallField_some
  cases values with
  | none => exact ⟨trivial, Nat.zero_le _, by simp [tokens]⟩
  | some values =>
      rw [Option.getD_some, ← List.length_map write]
      apply small_array
      intro element member
      obtain ⟨value, _, rfl⟩ := List.mem_map.mp member
      exact each value

theorem IPContextName.small (name : IPContextName) : Small name.toJson 1 6 := by
  apply @small_object _ 0 [1, 1]
  · change List.Nodup ["name", "forward_status"]
    decide
  · exact .cons (smallField_text ..) (.cons (smallField_text ..) .nil)

theorem IPContextReverse.small (reverse : IPContextReverse) :
    Small reverse.toJson 3 ((reverse.names.getD []).length * 6 + 13) :=
  (small_object reverse.distinct (.cons (smallField_text ..) (.cons (smallField_text ..)
    (.cons (smallField_text ..) (.cons (smallField_slice "names" IPContextName.small reverse.names)
      (.cons (smallField_number ..) .nil)))))).mono (le_refl 3) (by simp; omega)

theorem IPContextRegistration.small (registration : IPContextRegistration) :
    Small registration.toJson 1 28 := by
  apply @small_object _ 0 (List.replicate 13 1) registration.distinct
  have optional := fun name text => smallField_omitempty name text 0
  exact .cons (smallField_text ..) (.cons (smallField_text ..) (.cons (smallField_text ..)
    (.cons (optional ..) (.cons (optional ..) (.cons (optional ..) (.cons (optional ..)
      (.cons (optional ..) (.cons (optional ..) (.cons (optional ..) (.cons (optional ..)
        (.cons (optional ..) (.cons (optional ..) .nil))))))))))))

theorem IPContextRPKI.small (rpki : IPContextRPKI) : Small rpki.toJson 1 10 := by
  apply @small_object _ 0 [1, 1, 1, 1] rpki.distinct
  exact .cons (smallField_text ..) (.cons (smallField_text ..) (.cons (smallField_text ..)
    (.cons (smallField_omitempty ..) .nil)))

theorem IPContextOrigin.small (origin : IPContextOrigin) : Small origin.toJson 2 15 := by
  apply @small_object _ 1 [1, 10] origin.distinct
  exact .cons (smallField_number ..) (.cons (smallField_some origin.rpki.small) .nil)

theorem IPContextRouting.small (routing : IPContextRouting) :
    Small routing.toJson 4 ((routing.origins.getD []).length * 15 + 15) :=
  (small_object routing.distinct (.cons (smallField_text ..) (.cons (smallField_text ..)
    (.cons (smallField_text ..) (.cons (smallField_omitempty ..)
      (.cons (smallField_slice "origins" IPContextOrigin.small routing.origins)
        (.cons (smallField_number ..) .nil))))))).mono (le_refl 4) (by simp; omega)

/-- A record is written with few tokens besides its names and origins. -/
theorem IPContext.small (value : IPContext) : Small value.toJson 5
    ((value.reverseDNS.names.getD []).length * 6 +
      (value.routing.origins.getD []).length * 15 + 71) :=
  (small_object value.distinct (.cons (smallField_number ..) (.cons (smallField_text ..)
    (.cons (smallField_text ..) (.cons (smallField_text ..) (.cons (smallField_text ..)
      (.cons (smallField_some (value.reverseDNS.small.mono (by decide : 3 ≤ 4) le_rfl))
        (.cons (smallField_some (value.registration.small.mono (by decide : 1 ≤ 4) le_rfl))
          (.cons (smallField_some value.routing.small) .nil))))))))).mono (le_refl 5)
    (by simp; omega)

end Small

/-! ## Both directions -/

section Codec

variable {net : NetLibrary} {value out : IPContext} {data requested : GoString}

theorem decode_document (value : IPContext) :
    Json.decode ((document value).map Rune.char) = some value.clean.toJson := by
  have text : (document value).map Rune.char = Json.encode value.toJson ++ ['\n'] := by
    rw [document, List.map_map]
    exact List.map_id _
  have shallow : Json.depth value.toJson ≤ Json.maxNestingDepth :=
    value.small.depth_le.trans (by decide)
  rw [text, Json.decode_encode shallow (.inr rfl), value.clean_toJson]

theorem decode_of_ipContextJSON {raw : JsonValue} {maxDepth maxTokens : Nat}
    (admitted : ipContextJSON data maxDepth maxTokens = .ok raw) :
    Json.decode (data.map Rune.char) = some raw := by
  unfold ipContextJSON at admitted
  split at admitted
  · cases admitted
  · split at admitted
    · cases admitted
    · rename_i value decoded
      rw [decoded]
      cases counted : read maxDepth maxTokens 1 value 0 with
      | error failure =>
          rw [counted] at admitted
          cases admitted
      | ok count =>
          rw [counted] at admitted
          cases admitted
          rfl

theorem ipContextJSON_document (names : (value.reverseDNS.names.getD []).length ≤ 8)
    (origins : (value.routing.origins.getD []).length ≤ 4) :
    ipContextJSON (document value) 16 16384 = .ok value.clean.toJson := by
  have small := value.clean.small
  have names_eq : (value.clean.reverseDNS.names.getD []).length =
      (value.reverseDNS.names.getD []).length := by
    simp only [IPContext.clean, IPContextReverse.clean]
    cases value.reverseDNS.names <;> simp
  have origins_eq : (value.clean.routing.origins.getD []).length =
      (value.routing.origins.getD []).length := by
    simp only [IPContext.clean, IPContextRouting.clean]
    cases value.routing.origins <;> simp
  rw [← value.clean_toJson] at small ⊢
  apply ipContextJSON_encode small.distinct
  · have depth_le := value.small.depth_le
    omega
  · decide
  · exact small.tokens_le.trans (by omega)

theorem contextText_nil : contextText [] = true := rfl

theorem contextText_of_textOk {text : GoString} (ok : textOk text = true) :
    contextText text = true := by
  rcases of_decide_eq_true ok with rfl | short
  · exact contextText_nil
  · exact short

/-- The texts of an accepted record that are checked before it is written. -/
theorem contextText_freeTexts (accepted : value.Accepted net) :
    ∀ text ∈ value.freeTexts, contextText text = true := by
  obtain ⟨fetched, expires, names, omittedNames, origins, omittedOrigins, ok⟩ := accepted
  have registration := ok.registration
  have texts : ∀ text ∈ value.registration.texts, contextText text = true := by
    intro text member
    by_cases found : value.registration.status = GoString.ofString "ok"
    · exact contextText_of_textOk ((registration.found found).texts text member)
    · have details : text ∈ value.registration.details :=
        List.mem_append_left _ (List.mem_append_right _ member)
      rw [registration.absent found text details]
      exact contextText_nil
  simp only [IPContextRegistration.texts, List.forall_mem_cons] at texts
  simp only [IPContext.freeTexts, List.forall_mem_cons]
  exact ⟨texts.1, texts.2.1, texts.2.2.1, texts.2.2.2.2.1, fun _ member => (by cases member)⟩

theorem isValid_of_contextText {text : GoString} (known : contextText text = true) :
    text.isValid = true :=
  (Bool.and_eq_true_iff.mp known).1

theorem plain_plainTexts (accepted : value.Accepted net) :
    ∀ text ∈ value.plainTexts, text.Plain := by
  obtain ⟨fetched, expires, names, omittedNames, origins, omittedOrigins, ok⟩ := accepted
  have address : value.address.Plain := by
    obtain ⟨ip, canonical⟩ := Option.isSome_iff_exists.mp (Bool.and_eq_true_iff.mp ok.address).1
    exact (IPContext.plain_of_canonicalContextAddress canonical).1
  simp only [IPContext.plainTexts, List.forall_mem_append, List.forall_mem_cons]
  exact ⟨⟨address, IPContext.plain_of_contextMember (by decide) ok.source,
    IPContext.plain_of_stampText ok.fetchedAt, IPContext.plain_of_stampText ok.expiresAt,
    fun _ member => (by cases member)⟩, IPContext.plain_reverseTexts ok.reverse,
    IPContext.plain_registrationTexts ok.registration, IPContext.plain_routingTexts ok.routing⟩

theorem clean_of_accepted (accepted : value.Accepted net) : value.clean = value :=
  IPContext.clean_of_isValid (fun text member => (plain_plainTexts accepted text member).isValid)
    fun text member => isValid_of_contextText (contextText_freeTexts accepted text member)

/-- An accepted record is read back from its document. -/
theorem ParseIPContext_document (accepted : value.Accepted net) :
    ParseIPContext net (document value) value.address = some value := by
  have unchanged := clean_of_accepted accepted
  obtain ⟨fetched, expires, names, omittedNames, origins, omittedOrigins, ok⟩ := accepted
  have raw : ipContextJSON (document value) 16 16384 = .ok value.toJson := by
    rw [ipContextJSON_document, unchanged]
    · rw [ok.reverse.names_eq]
      exact ok.reverse.length_le
    · rw [ok.routing.origins_eq]
      exact ok.routing.length_le
  have checked : parseRoot net value.toJson value.address = some (value.toJson, fetched, expires) :=
    (parseRoot_toJson net).mpr ⟨rfl, rfl, ok.version, ok.source, ok.fetchedAt, ok.expiresAt,
      ⟨names, omittedNames, ok.reverse⟩, ok.registration, origins, omittedOrigins, ok.routing⟩
  have omitted_le := ok.reverse.omitted_le
  have omittedOrigins_le := ok.routing.omitted_le
  have read : IPContext.ofJson value.toJson = some value :=
    IPContext.ofJson_toJson ok.version ok.reverse.omitted_eq (by omega) ok.routing.omitted_eq
      (by omega)
  have admitted : ¬ (decide (IPContextMaxResponseBytes < (document value).byteLength) ||
      !validContextAddress net value.address) = true := by
    rw [ok.address, decide_eq_false (not_lt.mpr ok.size)]
    exact Bool.false_ne_true
  rw [ParseIPContext, if_neg admitted, raw]
  simp only [Except.toOption, Option.bind_eq_bind, Option.bind_some, checked, read]
  rw [if_pos (by simp [ok.expires_eq, ok.size])]
  rfl

/-- What the parser returns is accepted. -/
theorem accepted_of_ParseIPContext (parsed : ParseIPContext net data requested = some out) :
    out.Accepted net ∧ out.address = requested := by
  rw [ParseIPContext] at parsed
  rcases ite_eq_iff.mp parsed with ⟨_, rejected⟩ | ⟨admitted, checks⟩
  · cases rejected
  · obtain ⟨raw, _, checks⟩ := Option.bind_eq_some_iff.mp checks
    obtain ⟨⟨normalized, fetched, expires⟩, rooted, checks⟩ := Option.bind_eq_some_iff.mp checks
    obtain ⟨found, read, checks⟩ := Option.bind_eq_some_iff.mp checks
    rcases ite_eq_iff.mp checks with ⟨passes, same⟩ | ⟨_, rejected⟩
    · cases Option.some.inj same
      rw [Bool.and_eq_true, decide_eq_true_iff, decide_eq_true_iff] at passes
      rw [Bool.or_eq_true, not_or, Bool.not_eq_true, Bool.not_eq_true, Bool.not_eq_false'] at admitted
      obtain ⟨value, again, rfl, version, source, fetchedAt, expiresAt, ⟨names, omittedNames, reverse⟩,
        registration, origins, omittedOrigins, routing⟩ := parseRoot_ok net rooted
      cases read.symm.trans again
      exact ⟨⟨fetched, expires, names, omittedNames, origins, omittedOrigins, version, admitted.2,
        source, fetchedAt, expiresAt, passes.1, reverse, registration, routing, passes.2⟩, rfl⟩
    · cases rejected

theorem MarshalIPContext_of_accepted (accepted : value.Accepted net) :
    MarshalIPContext net value = some (document value) := by
  have checked : [value.registration.handle, value.registration.name, value.registration.type,
      value.registration.organization].all contextText = true :=
    List.all_eq_true.mpr (contextText_freeTexts accepted)
  have parsed := ParseIPContext_document accepted
  obtain ⟨fetched, expires, names, omittedNames, origins, omittedOrigins, ok⟩ := accepted
  rw [MarshalIPContext, if_pos checked]
  dsimp only
  rw [if_neg (not_lt.mpr ok.size), parsed]
  rfl

/-- Whatever is read from the document of a record is the record, with what is
not UTF-8 replaced. -/
theorem eq_clean_of_parsed (parsed : ParseIPContext net (document value) requested = some out) :
    out = value.clean := by
  rw [ParseIPContext] at parsed
  rcases ite_eq_iff.mp parsed with ⟨_, rejected⟩ | ⟨_, checks⟩
  · cases rejected
  · obtain ⟨raw, admitted, checks⟩ := Option.bind_eq_some_iff.mp checks
    obtain ⟨⟨normalized, fetched, expires⟩, rooted, checks⟩ := Option.bind_eq_some_iff.mp checks
    obtain ⟨found, read, checks⟩ := Option.bind_eq_some_iff.mp checks
    rcases ite_eq_iff.mp checks with ⟨_, same⟩ | ⟨_, rejected⟩
    · cases Option.some.inj same
      have decoded : Json.decode ((document value).map Rune.char) = some raw := by
        cases result : ipContextJSON (document value) 16 16384 with
        | error failure =>
            rw [result] at admitted
            cases admitted
        | ok found =>
            rw [result] at admitted
            cases admitted
            exact decode_of_ipContextJSON result
      cases decoded.symm.trans (decode_document value)
      obtain ⟨rfl, _, version, _, _, _, ⟨names, omittedNames, reverse⟩, _, origins, omittedOrigins,
        routing⟩ := (parseRoot_toJson net).mp rooted
      have omitted_le := reverse.omitted_le
      have omittedOrigins_le := routing.omitted_le
      have again := IPContext.ofJson_toJson version reverse.omitted_eq (by omega) routing.omitted_eq
        (by omega)
      exact Option.some.inj (read.symm.trans again)
    · cases rejected

/-- What is written is accepted. -/
theorem accepted_of_MarshalIPContext (written : MarshalIPContext net value = some data) :
    value.Accepted net ∧ data = document value := by
  rw [MarshalIPContext] at written
  rcases ite_eq_iff.mp written with ⟨checked, later⟩ | ⟨_, rejected⟩
  · rcases ite_eq_iff.mp later with ⟨_, rejected⟩ | ⟨_, parse⟩
    · cases rejected
    · rcases ite_eq_iff.mp parse with ⟨parses, same⟩ | ⟨_, rejected⟩
      · refine ⟨?_, (Option.some.inj same).symm⟩
        obtain ⟨out, parsed⟩ := Option.isSome_iff_exists.mp parses
        have out_eq := eq_clean_of_parsed parsed
        obtain ⟨accepted, _⟩ := accepted_of_ParseIPContext parsed
        have plain : ∀ text ∈ value.plainTexts, text.isValid = true := by
          intro text member
          rw [out_eq] at accepted
          apply isValid_of_plain
          apply plain_plainTexts accepted
          rw [IPContext.plainTexts_clean]
          exact List.mem_map_of_mem member
        have free : ∀ text ∈ value.freeTexts, text.isValid = true := fun text member =>
          isValid_of_contextText (List.all_eq_true.mp checked text member)
        rwa [out_eq, IPContext.clean_of_isValid plain free] at accepted
      · cases rejected
  · cases rejected

/-- A record that is written is read back from its document, and a document that
is read as a record is read as the same record once it is written again. -/
theorem codec_roundTrip (net : NetLibrary) :
    (∀ value data, MarshalIPContext net value = some data →
      ParseIPContext net data value.address = some value) ∧
    ∀ data requested out, ParseIPContext net data requested = some out →
      ∃ written, MarshalIPContext net out = some written ∧
        ParseIPContext net written out.address = some out := by
  constructor
  · intro value data written
    obtain ⟨accepted, rfl⟩ := accepted_of_MarshalIPContext written
    exact ParseIPContext_document accepted
  · intro data requested out parsed
    obtain ⟨accepted, _⟩ := accepted_of_ParseIPContext parsed
    exact ⟨document out, MarshalIPContext_of_accepted accepted, ParseIPContext_document accepted⟩

def sampleAddr : Addr := ⟨[8, 8, 8, 8], [], .inl rfl⟩

/-- Knows one address. -/
def sampleNet : NetLibrary where
  parseAddr text := if text = GoString.ofString "8.8.8.8" then some sampleAddr else none
  parsePrefix _ := none
  isPublic text := text = GoString.ofString "8.8.8.8"

def sampleStamp : GoString := GoString.ofString "2024-01-01T00:00:00.000Z"

def sample : IPContext where
  schemaVersion := 1
  address := GoString.ofString "8.8.8.8"
  source := GoString.ofString "upstream"
  fetchedAt := sampleStamp
  expiresAt := GoString.ofString "2024-01-01T00:00:30.000Z"
  reverseDNS := ⟨GoString.ofString "ok", GoString.ofString "system_resolver", sampleStamp,
    some [⟨GoString.ofString "dns.google", GoString.ofString "confirmed"⟩], 0⟩
  registration := ⟨GoString.ofString "timeout", GoString.ofString "rdap", sampleStamp, [], [], [],
    [], [], [], [], [], [], []⟩
  routing := ⟨GoString.ofString "timeout", GoString.ofString "ripe_ris", sampleStamp, [], some [],
    0⟩

theorem codec_roundTrip_sample : ∃ data, MarshalIPContext sampleNet sample = some data ∧
    ParseIPContext sampleNet data sample.address = some sample := by
  have writes : (MarshalIPContext sampleNet sample).isSome = true := by decide +kernel
  obtain ⟨data, written⟩ := Option.isSome_iff_exists.mp writes
  exact ⟨data, written, (codec_roundTrip sampleNet).1 sample data written⟩

end Codec

end CheckNetwork.Context
