import CheckNetwork.Context.Accepted

/-!
# Parsed records

What is read from a document that passed the checks meets the demands of the
contract, and a record is read back from the document that it was written as.
-/

namespace CheckNetwork.Context

open Go

variable (net : NetLibrary)

/-! ## Checked fields -/

section Fields

variable {object : Object} {key : String}

theorem lookup_setMember_self {old value : JsonValue} (found : object.lookup key = some old) :
    (setMember key value object).lookup key = some value := by
  induction object with
  | nil => cases found
  | cons first rest ih =>
      rcases first with ⟨name, other⟩
      rw [List.lookup_cons] at found
      by_cases same : name = key
      · simp [setMember, same]
      · have different : (key == name) = false := beq_false_of_ne (Ne.symm same)
        rw [different] at found
        simpa [setMember, same, different, List.lookup_cons] using ih found

theorem lookup_setMember_ne {other : String} {value : JsonValue} (different : other ≠ key) :
    (setMember key value object).lookup other = object.lookup other := by
  induction object with
  | nil => rfl
  | cons first rest ih =>
      rcases first with ⟨name, found⟩
      have tail : (setMember key value rest).lookup other = rest.lookup other := ih
      by_cases same : name = key
      · have skipped : (other == key) = false := beq_false_of_ne different
        simpa [setMember, same, skipped, List.lookup_cons] using tail
      · rw [setMember, List.map_cons, if_neg same, List.lookup_cons, List.lookup_cons]
        split <;> first | rfl | exact tail

theorem readField_text {text : GoString} (found : object.lookup key = some (.string text)) :
    Json.readField object key [] Json.readText = some text :=
  Json.readField_of_lookup found (by simp)

/-- A field that holds a text if it is there. -/
def Textual (value : Option JsonValue) : Prop := ∀ found, value = some found → ∃ text, found = .string text

theorem readField_textual (textual : Textual (object.lookup key)) :
    Json.readField object key [] Json.readText = some (contextString (object.lookup key)) := by
  cases found : object.lookup key with
  | none => exact Json.readField_of_absent found
  | some value =>
      obtain ⟨text, rfl⟩ := textual value found
      exact readField_text found

theorem textual_of_isNone {value : Option JsonValue} (absent : value.isNone = true) :
    Textual value := by
  intro found same
  rw [same] at absent
  cases absent

theorem contextString_of_isNone {value : Option JsonValue} (absent : value.isNone = true) :
    contextString value = [] := by
  rw [Option.isNone_iff_eq_none.mp absent]
  rfl

/-- What has a nonempty text is a text. -/
theorem exists_of_contextString_ne {value : Option JsonValue} (nonempty : contextString value ≠ []) :
    ∃ text, value = some (.string text) := by
  unfold contextString at nonempty
  split at nonempty
  · exact ⟨_, rfl⟩
  · exact absurd rfl nonempty

theorem textual_of_contextString_ne {value : Option JsonValue}
    (nonempty : contextString value ≠ []) : Textual value := by
  obtain ⟨text, rfl⟩ := exists_of_contextString_ne nonempty
  intro found same
  exact ⟨text, (Option.some.inj same).symm⟩

theorem exists_of_contextMember {value : Option JsonValue} {values : List String}
    (nonempty : contextMember [] values = false)
    (member : contextMember (contextString value) values = true) :
    ∃ text, value = some (.string text) ∧ contextMember text values = true := by
  have present : contextString value ≠ [] := by
    intro empty
    rw [empty, nonempty] at member
    cases member
  obtain ⟨text, rfl⟩ := exists_of_contextString_ne present
  exact ⟨text, rfl, member⟩

theorem exists_of_contextStamp {value : Option JsonValue} {time : Time}
    (stamped : contextStamp value = some time) :
    ∃ text, value = some (.string text) ∧ stampText text = some time := by
  unfold contextStamp at stamped
  split at stamped
  · exact ⟨_, rfl, stamped⟩
  · cases stamped

theorem exists_of_contextTimed {source : String} {root : Time}
    (timed : contextTimed object key source root = true) :
    ∃ stamp text, object.lookup key = some (.string stamp) ∧
      object.lookup "source" = some (.string text) ∧ timedText stamp text source root = true := by
  unfold contextTimed at timed
  rw [Bool.and_eq_true, Option.any_eq_true] at timed
  obtain ⟨⟨time, stamped, notAfter⟩, sourced⟩ := timed
  obtain ⟨stamp, found, read⟩ := exists_of_contextStamp stamped
  unfold isText at sourced
  split at sourced
  · rename_i text sourceFound
    refine ⟨stamp, text, found, sourceFound, ?_⟩
    rw [timedText, read, Option.any_some, notAfter, sourced]
    rfl
  · cases sourced

theorem exists_of_contextArray {value : Option JsonValue} {elements : List JsonValue}
    (array : contextArray value = some elements) : value = some (.array elements) := by
  unfold contextArray at array
  split at array
  · rw [Option.some.inj array]
  · cases array

theorem exists_of_contextNormalizeInteger {max value : Nat} {normalized : Object}
    (integer : contextNormalizeInteger object key max = some (value, normalized)) :
    ∃ number, object.lookup key = some (.number number) ∧ value ≤ max ∧
      normalized = setMember key (.number (.ofNat value)) object := by
  unfold contextNormalizeInteger at integer
  split at integer
  · rename_i number found
    obtain ⟨read, exact, same⟩ := Option.map_eq_some_iff.mp integer
    obtain ⟨rfl, rfl⟩ := Prod.mk.inj same
    exact ⟨number, found, contextInteger_le exact, rfl⟩
  · cases integer

end Fields

/-! ## Sections that were read -/

section Sections

variable {fetched : Time} {normalized : JsonValue}

theorem parseNames_ok {previous : GoString} {elements : List JsonValue}
    (parsed : parseNames previous elements = true) :
    ∃ names, elements.mapM (Json.readElement .zero IPContextName.ofJson) = some names ∧
      names.length = elements.length ∧ namesOk previous names = true := by
  induction elements generalizing previous with
  | nil => exact ⟨[], rfl, rfl, rfl⟩
  | cons first rest ih =>
      rw [parseNames] at parsed
      split at parsed
      · cases parsed
      · rename_i object checked
        cases (contextObject_eq_some checked).1
        split at parsed
        · rename_i text named
          rw [Bool.and_eq_true, Bool.and_eq_true] at parsed
          obtain ⟨⟨valid, confirmed⟩, tail⟩ := parsed
          obtain ⟨status, statusFound, known⟩ := exists_of_contextMember (by decide) confirmed
          obtain ⟨names, read, length_eq, ordered⟩ := ih tail
          have head : Json.readElement .zero IPContextName.ofJson (.object object) =
              some ⟨text, status⟩ := by
            rw [Json.readElement_object, IPContextName.ofJson, readField_text named,
              readField_text statusFound]
            rfl
          refine ⟨⟨text, status⟩ :: names, Json.mapM_cons_eq_some head read, ?_, ?_⟩
          · rw [List.length_cons, length_eq, List.length_cons]
          · rw [namesOk, valid, known, ordered]
            rfl
        · cases parsed

/-- A reverse section that was read meets the demands. -/
theorem parseReverse_ok {value : Option JsonValue}
    (parsed : parseReverse value fetched = some normalized) :
    ∃ reverse names omitted, IPContextReverse.ofJson normalized = some reverse ∧
      reverse.Ok fetched names omitted := by
  obtain ⟨object, checked, parsed⟩ := Option.bind_eq_some_iff.mp parsed
  obtain ⟨elements, array, parsed⟩ := Option.bind_eq_some_iff.mp parsed
  obtain ⟨⟨omitted, updated⟩, integer, parsed⟩ := Option.bind_eq_some_iff.mp parsed
  rcases ite_eq_iff.mp parsed with ⟨passes, same⟩ | ⟨_, rejected⟩
  · simp only [Bool.and_eq_true, decide_eq_true_eq] at passes
    obtain ⟨⟨⟨⟨timed, known⟩, length_le⟩, shape⟩, listing⟩ := passes
    obtain ⟨number, numberFound, omitted_le, rfl⟩ := exists_of_contextNormalizeInteger integer
    obtain ⟨stamp, source, stampFound, sourceFound, isTimed⟩ := exists_of_contextTimed timed
    obtain ⟨status, statusFound, isStatus⟩ := exists_of_contextMember (by decide) known
    obtain ⟨names, read, length_eq, ordered⟩ := parseNames_ok listing
    have namesFound := exists_of_contextArray array
    cases Option.some.inj same
    refine ⟨⟨status, source, stamp, some names, omitted⟩, names, omitted, ?_, ?_⟩
    · have text : ∀ key text, key ≠ "omitted" → object.lookup key = some (.string text) →
          Json.readField (setMember "omitted" (.number (.ofNat omitted)) object) key []
            Json.readText = some text := by
        intro key text different found
        exact readField_text ((lookup_setMember_ne different).trans found)
      have list : Json.readField (setMember "omitted" (.number (.ofNat omitted)) object) "names"
          none (Json.readSlice .zero IPContextName.ofJson) = some (some names) := by
        rw [Json.readField_of_lookup ((lookup_setMember_ne (by decide)).trans namesFound) (by simp),
          Json.readSlice, read]
        rfl
      have count : Json.readField (setMember "omitted" (.number (.ofNat omitted)) object) "omitted"
          0 Json.readInt = some (omitted : Int) := by
        rw [Json.readField_of_lookup (lookup_setMember_self numberFound) (by simp),
          Json.readInt_ofNat (by omega)]
      rw [IPContextReverse.ofJson, text _ _ (by decide) statusFound,
        text _ _ (by decide) sourceFound, text _ _ (by decide) stampFound, list, count]
      rfl
    · rw [statusFound] at shape
      rw [← length_eq] at length_le shape
      exact ⟨isTimed, isStatus, rfl, rfl, length_le, omitted_le, shape, ordered⟩
  · cases rejected

theorem canonicalContextAddress_nil : canonicalContextAddress net [] = none := by
  rw [canonicalContextAddress, Option.filter_eq_none_iff]
  intro ip _ same
  exact ip.string_ne_nil (of_decide_eq_true same).2.2

theorem validRange_ne_nil {start stop requested : GoString}
    (range : validRange net start stop requested = true) : start ≠ [] ∧ stop ≠ [] := by
  constructor
  · rintro rfl
    rw [validRange, canonicalContextAddress_nil] at range
    cases range
  · rintro rfl
    rw [validRange, canonicalContextAddress_nil] at range
    simp at range

section Registration

variable {object : Object} {key : String}

theorem textual_of_validText (valid : validText object key = true) :
    Textual (object.lookup key) ∧ textOk (contextString (object.lookup key)) = true ∧
      (key = "country" → contextString (object.lookup key) = [] ∨
        contextCountry (contextString (object.lookup key)) = true) := by
  unfold validText at valid
  split at valid
  · rename_i absent
    rw [absent]
    exact ⟨fun _ same => (by cases same), rfl, fun _ => .inl rfl⟩
  · rename_i text found
    simp only [Bool.and_eq_true, Bool.or_eq_true, decide_eq_true_eq, ne_eq] at valid
    rw [found]
    refine ⟨fun value same => ⟨text, (Option.some.inj same).symm⟩, decide_eq_true (.inr valid.1.1),
      fun named => .inr (valid.2.resolve_left fun other => other named)⟩
  · cases valid

theorem textual_of_validDate (valid : validDate object key = true) :
    Textual (object.lookup key) ∧ dateOk (contextString (object.lookup key)) = true := by
  unfold validDate at valid
  split at valid
  · rename_i absent
    rw [absent]
    exact ⟨fun _ same => (by cases same), rfl⟩
  · rename_i value found
    rw [found]
    obtain ⟨time, stamped⟩ := Option.isSome_iff_exists.mp valid
    obtain ⟨text, same, read⟩ := exists_of_contextStamp stamped
    cases same
    exact ⟨fun other same => ⟨text, (Option.some.inj same).symm⟩,
      decide_eq_true (.inr (by rw [contextString, read]; rfl))⟩

theorem textual_of_validRegistry (valid : validRegistry object = true) :
    Textual (object.lookup "registry") ∧
      (contextString (object.lookup "registry") = [] ∨
        contextMember (contextString (object.lookup "registry")) registries = true) := by
  unfold validRegistry at valid
  split at valid
  · rename_i absent
    rw [absent]
    exact ⟨fun _ same => (by cases same), .inl rfl⟩
  · rename_i value found
    obtain ⟨text, same, _⟩ := exists_of_contextMember (by decide) valid
    cases same
    rw [found]
    exact ⟨fun other same => ⟨text, (Option.some.inj same).symm⟩, .inr valid⟩

/-- What the object of a registration is read as, if its fields hold texts. -/
def registrationOf (object : Object) : IPContextRegistration :=
  let text := fun key => contextString (object.lookup key)
  ⟨text "status", text "source", text "fetched_at", text "registry", text "start_address",
    text "end_address", text "handle", text "name", text "type", text "country",
    text "organization", text "registered_at", text "updated_at"⟩

theorem ofJson_registration (textual : ∀ key ∈ IPContextRegistration.keys,
    Textual (object.lookup key)) :
    IPContextRegistration.ofJson (.object object) = some (registrationOf object) := by
  have read : ∀ key ∈ IPContextRegistration.keys,
      Json.readField object key [] Json.readText = some (contextString (object.lookup key)) :=
    fun key member => readField_textual (textual key member)
  simp only [IPContextRegistration.ofJson, read "status" (by decide), read "source" (by decide),
    read "fetched_at" (by decide), read "registry" (by decide), read "start_address" (by decide),
    read "end_address" (by decide), read "handle" (by decide), read "name" (by decide),
    read "type" (by decide), read "country" (by decide), read "organization" (by decide),
    read "registered_at" (by decide), read "updated_at" (by decide)]
  rfl

end Registration

theorem parseRegistration_ok {value : Option JsonValue} {requested : GoString}
    (parsed : parseRegistration net value requested fetched = some normalized) :
    ∃ registration, IPContextRegistration.ofJson normalized = some registration ∧
      registration.Ok net requested fetched := by
  obtain ⟨object, checked, parsed⟩ := Option.bind_eq_some_iff.mp parsed
  rcases ite_eq_iff.mp parsed with ⟨passes, same⟩ | ⟨_, rejected⟩
  · cases Option.some.inj same
    rw [Bool.and_eq_true, Bool.and_eq_true, Bool.and_eq_true] at passes
    obtain ⟨⟨⟨timed, known⟩, registry⟩, details⟩ := passes
    obtain ⟨stamp, source, stampFound, sourceFound, isTimed⟩ := exists_of_contextTimed timed
    obtain ⟨status, statusFound, isStatus⟩ := exists_of_contextMember (by decide) known
    obtain ⟨registryTextual, registryOk⟩ := textual_of_validRegistry registry
    have textual : ∀ {key text}, object.lookup key = some (.string text) →
        Textual (object.lookup key) := by
      intro key text found value same
      exact ⟨text, Option.some.inj (same.symm.trans found)⟩
    have timedText_eq : timedText (registrationOf object).fetchedAt (registrationOf object).source
        "rdap" fetched = true := by
      simpa [registrationOf, stampFound, sourceFound, contextString] using isTimed
    refine ⟨registrationOf object, ?_, timedText_eq, known, registryOk, ?_, ?_⟩
    · apply ofJson_registration
      intro key member
      rw [IPContextRegistration.keys, List.mem_append] at member
      rcases member with head | detail
      · simp only [List.mem_cons, List.not_mem_nil, or_false] at head
        rcases head with rfl | rfl | rfl | rfl
        · exact textual statusFound
        · exact textual sourceFound
        · exact textual stampFound
        · exact registryTextual
      · split at details
        · simp only [Bool.and_eq_true, decide_eq_true_eq, List.all_eq_true] at details
          obtain ⟨⟨⟨range, texts⟩, _⟩, dates⟩ := details
          obtain ⟨start, stop⟩ := validRange_ne_nil net range
          simp only [registrationKeys, List.mem_cons, List.not_mem_nil, or_false] at detail
          rcases detail with rfl | rfl | rfl | rfl | rfl | rfl | rfl | rfl | rfl
          · exact textual_of_contextString_ne start
          · exact textual_of_contextString_ne stop
          · exact (textual_of_validText (texts _ (by decide))).1
          · exact (textual_of_validText (texts _ (by decide))).1
          · exact (textual_of_validText (texts _ (by decide))).1
          · exact (textual_of_validText (texts _ (by decide))).1
          · exact (textual_of_validText (texts _ (by decide))).1
          · exact (textual_of_validDate (dates _ (by decide))).1
          · exact (textual_of_validDate (dates _ (by decide))).1
        · exact textual_of_isNone (List.all_eq_true.mp details key detail)
    · intro found
      rw [if_pos (by exact found)] at details
      simp only [Bool.and_eq_true, decide_eq_true_eq, List.all_eq_true] at details
      obtain ⟨⟨⟨range, texts⟩, total⟩, dates⟩ := details
      have text := fun key (member : key ∈ textKeys) => (textual_of_validText (texts key member)).2
      refine ⟨range, ?_, (text "country" (by decide)).2 rfl, total,
        (textual_of_validDate (dates _ (by decide))).2, (textual_of_validDate (dates _ (by decide))).2⟩
      simp only [IPContextRegistration.texts, List.forall_mem_cons]
      exact ⟨(text "handle" (by decide)).1, (text "name" (by decide)).1, (text "type" (by decide)).1,
        (text "country" (by decide)).1, (text "organization" (by decide)).1,
        fun _ => List.not_mem_nil.elim⟩
    · intro other
      rw [if_neg (by exact other), List.all_eq_true] at details
      have absent := fun key (member : key ∈ registrationKeys) =>
        contextString_of_isNone (details key member)
      simp only [IPContextRegistration.details, IPContextRegistration.texts, List.cons_append,
        List.nil_append, List.forall_mem_cons]
      exact ⟨absent _ (by decide), absent _ (by decide), absent _ (by decide), absent _ (by decide),
        absent _ (by decide), absent _ (by decide), absent _ (by decide), absent _ (by decide),
        absent _ (by decide), fun _ => List.not_mem_nil.elim⟩
  · cases rejected

theorem parseRPKI_ok {value : Option JsonValue} (parsed : parseRPKI value fetched = true) :
    ∃ object rpki, value = some (.object object) ∧
      IPContextRPKI.ofJson (.object object) = some rpki ∧ rpki.Ok fetched := by
  unfold parseRPKI at parsed
  split at parsed
  · cases parsed
  · rename_i object checked
    dsimp only at parsed
    rw [Bool.and_eq_true, Bool.and_eq_true] at parsed
    obtain ⟨⟨timed, known⟩, details⟩ := parsed
    obtain ⟨stamp, source, stampFound, sourceFound, isTimed⟩ := exists_of_contextTimed timed
    obtain ⟨status, statusFound, isStatus⟩ := exists_of_contextMember (by decide) known
    rw [statusFound] at details
    have textual : Textual (object.lookup "validity") := by
      split at details
      · rw [Bool.and_eq_true] at details
        obtain ⟨text, found, _⟩ := exists_of_contextMember (by decide) details.2
        intro value same
        exact ⟨text, Option.some.inj (same.symm.trans found)⟩
      · exact textual_of_isNone details
    refine ⟨object, ⟨status, source, stamp, contextString (object.lookup "validity")⟩,
      (contextObject_eq_some checked).1, ?_, isTimed, isStatus, ?_, ?_⟩
    · rw [IPContextRPKI.ofJson, readField_text statusFound, readField_text sourceFound,
        readField_text stampFound, readField_textual textual]
      rfl
    · intro found
      rw [if_pos (by exact found), Bool.and_eq_true] at details
      exact details.2
    · intro other
      rw [if_neg (by exact other)] at details
      exact contextString_of_isNone details

theorem parseOrigins_ok {previous : Nat} {elements others : List JsonValue}
    (parsed : parseOrigins fetched previous elements = some others) :
    ∃ origins, others.mapM (Json.readElement .zero IPContextOrigin.ofJson) = some origins ∧
      origins.length = elements.length ∧ OriginsOk fetched previous origins := by
  induction elements generalizing previous others with
  | nil =>
      cases Option.some.inj parsed
      exact ⟨[], rfl, rfl, trivial⟩
  | cons first rest ih =>
      rw [parseOrigins] at parsed
      obtain ⟨object, checked, parsed⟩ := Option.bind_eq_some_iff.mp parsed
      obtain ⟨⟨asn, updated⟩, integer, parsed⟩ := Option.bind_eq_some_iff.mp parsed
      rcases ite_eq_iff.mp parsed with ⟨passes, continued⟩ | ⟨_, rejected⟩
      · obtain ⟨tail, listing, same⟩ := Option.bind_eq_some_iff.mp continued
        cases Option.some.inj same
        rw [Bool.and_eq_true, Bool.and_eq_true, decide_eq_true_iff, decide_eq_true_iff] at passes
        obtain ⟨⟨_, after⟩, authority⟩ := passes
        obtain ⟨number, numberFound, small, rfl⟩ := exists_of_contextNormalizeInteger integer
        obtain ⟨inner, rpki, rpkiFound, rpkiRead, rpkiOk⟩ := parseRPKI_ok authority
        obtain ⟨origins, read, length_eq, ordered⟩ := ih listing
        have asn_lt : asn < 2 ^ 32 := by omega
        have asn_eq : (UInt32.ofNat asn).toNat = asn := UInt32.toNat_ofNat_of_lt' asn_lt
        have head : Json.readElement .zero IPContextOrigin.ofJson
            (.object (setMember "asn" (.number (.ofNat asn)) object)) =
              some ⟨UInt32.ofNat asn, rpki⟩ := by
          have number' := Json.readUInt32_ofNat (UInt32.ofNat asn)
          rw [asn_eq] at number'
          rw [Json.readElement_object, IPContextOrigin.ofJson,
            Json.readField_of_lookup (lookup_setMember_self numberFound) (by simp), number',
            Json.readField_of_lookup ((lookup_setMember_ne (by decide)).trans rpkiFound) (by simp),
            rpkiRead]
          rfl
        refine ⟨⟨UInt32.ofNat asn, rpki⟩ :: origins, Json.mapM_cons_eq_some head read, ?_, ?_⟩
        · rw [List.length_cons, length_eq, List.length_cons]
        · rw [OriginsOk, asn_eq]
          exact ⟨after, rpkiOk, ordered⟩
      · cases rejected

theorem contextPrefix_ne_nil {text requested : GoString}
    (routed : contextPrefix net text requested = true) : text ≠ [] := by
  rintro rfl
  rw [contextPrefix, Option.any_eq_true] at routed
  obtain ⟨range, _, matched⟩ := routed
  rw [Option.any_eq_true] at matched
  obtain ⟨ip, _, same⟩ := matched
  exact range.string_ne_nil (of_decide_eq_true same).2.2.1

/-- A routing section that was read meets the demands. -/
theorem parseRouting_ok {value : Option JsonValue} {requested : GoString}
    (parsed : parseRouting net value requested fetched = some normalized) :
    ∃ routing origins omitted, IPContextRouting.ofJson normalized = some routing ∧
      routing.Ok net requested fetched origins omitted := by
  obtain ⟨object, checked, parsed⟩ := Option.bind_eq_some_iff.mp parsed
  obtain ⟨elements, array, parsed⟩ := Option.bind_eq_some_iff.mp parsed
  obtain ⟨⟨omitted, updated⟩, integer, parsed⟩ := Option.bind_eq_some_iff.mp parsed
  rcases ite_eq_iff.mp parsed with ⟨passes, continued⟩ | ⟨_, rejected⟩
  · obtain ⟨others, listing, same⟩ := Option.bind_eq_some_iff.mp continued
    cases Option.some.inj same
    simp only [Bool.and_eq_true, decide_eq_true_eq] at passes
    obtain ⟨⟨⟨⟨timed, known⟩, length_le⟩, shape⟩, routed⟩ := passes
    obtain ⟨number, numberFound, omitted_le, rfl⟩ := exists_of_contextNormalizeInteger integer
    obtain ⟨stamp, source, stampFound, sourceFound, isTimed⟩ := exists_of_contextTimed timed
    obtain ⟨status, statusFound, isStatus⟩ := exists_of_contextMember (by decide) known
    obtain ⟨origins, read, length_eq, ordered⟩ := parseOrigins_ok listing
    have originsFound := exists_of_contextArray array
    rw [statusFound] at shape routed
    have textual : Textual (object.lookup "prefix") := by
      split at routed
      · exact textual_of_contextString_ne (contextPrefix_ne_nil net routed)
      · exact textual_of_isNone routed
    refine ⟨⟨status, source, stamp, contextString (object.lookup "prefix"), some origins, omitted⟩,
      origins, omitted, ?_, ?_⟩
    · have kept : ∀ key, key ≠ "omitted" → key ≠ "origins" →
          (setMember "origins" (.array others) (setMember "omitted" (.number (.ofNat omitted))
            object)).lookup key = object.lookup key := by
        intro key first second
        rw [lookup_setMember_ne second, lookup_setMember_ne first]
      have routePrefix : Json.readField (setMember "origins" (.array others)
          (setMember "omitted" (.number (.ofNat omitted)) object)) "prefix" [] Json.readText =
            some (contextString (object.lookup "prefix")) := by
        have same := kept "prefix" (by decide) (by decide)
        rw [readField_textual (by rw [same]; exact textual), same]
      have list : Json.readField (setMember "origins" (.array others)
          (setMember "omitted" (.number (.ofNat omitted)) object)) "origins" none
            (Json.readSlice .zero IPContextOrigin.ofJson) = some (some origins) := by
        rw [Json.readField_of_lookup (lookup_setMember_self
          ((lookup_setMember_ne (by decide)).trans originsFound)) (by simp), Json.readSlice, read]
        rfl
      have count : Json.readField (setMember "origins" (.array others)
          (setMember "omitted" (.number (.ofNat omitted)) object)) "omitted" 0 Json.readInt =
            some (omitted : Int) := by
        rw [Json.readField_of_lookup ((lookup_setMember_ne (by decide)).trans
          (lookup_setMember_self numberFound)) (by simp), Json.readInt_ofNat (by omega)]
      rw [IPContextRouting.ofJson,
        readField_text ((kept _ (by decide) (by decide)).trans statusFound),
        readField_text ((kept _ (by decide) (by decide)).trans sourceFound),
        readField_text ((kept _ (by decide) (by decide)).trans stampFound), routePrefix, list, count]
      rfl
    · rw [← length_eq] at length_le shape
      refine ⟨isTimed, isStatus, rfl, rfl, length_le, omitted_le, shape, ?_, ?_, ordered⟩
      · intro known
        rwa [if_pos (by exact known)] at routed
      · intro other
        rw [if_neg (by rw [contextString, other]; exact Bool.false_ne_true)] at routed
        exact contextString_of_isNone routed
  · cases rejected

/-- A document that was read meets the demands. -/
theorem parseRoot_ok {raw : JsonValue} {requested : GoString} {expires : Time}
    (parsed : parseRoot net raw requested = some (normalized, fetched, expires)) :
    ∃ value, IPContext.ofJson normalized = some value ∧ value.address = requested ∧
      value.schemaVersion = 1 ∧ contextMember value.source ["upstream", "cache"] = true ∧
      stampText value.fetchedAt = some fetched ∧ stampText value.expiresAt = some expires ∧
      (∃ names omitted, value.reverseDNS.Ok fetched names omitted) ∧
      value.registration.Ok net requested fetched ∧
      ∃ origins omitted, value.routing.Ok net requested fetched origins omitted := by
  obtain ⟨object, checked, parsed⟩ := Option.bind_eq_some_iff.mp parsed
  obtain ⟨⟨version, updated⟩, integer, parsed⟩ := Option.bind_eq_some_iff.mp parsed
  obtain ⟨fetched', fetchedStamp, parsed⟩ := Option.bind_eq_some_iff.mp parsed
  obtain ⟨expires', expiresStamp, parsed⟩ := Option.bind_eq_some_iff.mp parsed
  rcases ite_eq_iff.mp parsed with ⟨passes, sections⟩ | ⟨_, rejected⟩
  · obtain ⟨reverse', reverseParsed, later⟩ := Option.bind_eq_some_iff.mp sections
    obtain ⟨registration', registrationParsed, last⟩ := Option.bind_eq_some_iff.mp later
    obtain ⟨routing', routingParsed, joined⟩ := Option.bind_eq_some_iff.mp last
    cases Option.some.inj joined
    simp only [Bool.and_eq_true, decide_eq_true_eq] at passes
    obtain ⟨⟨addressed, rfl⟩, known⟩ := passes
    obtain ⟨number, numberFound, _, rfl⟩ := exists_of_contextNormalizeInteger integer
    obtain ⟨source, sourceFound, isSource⟩ := exists_of_contextMember (by decide) known
    obtain ⟨fetchedAt, fetchedFound, fetchedRead⟩ := exists_of_contextStamp fetchedStamp
    obtain ⟨expiresAt, expiresFound, expiresRead⟩ := exists_of_contextStamp expiresStamp
    obtain ⟨reverse, names, omittedNames, reverseRead, reverseOk⟩ := parseReverse_ok reverseParsed
    obtain ⟨registration, registrationRead, registrationOk⟩ :=
      parseRegistration_ok net registrationParsed
    obtain ⟨routing, origins, omittedOrigins, routingRead, routingOk⟩ :=
      parseRouting_ok net routingParsed
    have addressFound : object.lookup "address" = some (.string requested) := by
      unfold isText at addressed
      split at addressed
      · rename_i found
        rw [found, of_decide_eq_true addressed]
      · cases addressed
    have there : ∀ key ∈ rootKeys, ∃ value, object.lookup key = some value := by
      intro key member
      have present := List.all_eq_true.mp (contextObject_eq_some checked).2.1 key member
      obtain ⟨value, found, _⟩ := (Option.any_eq_true ..).mp present
      exact ⟨value, found⟩
    refine ⟨⟨1, requested, source, fetchedAt, expiresAt, reverse, registration, routing⟩, ?_, rfl,
      rfl, isSource, fetchedRead, expiresRead, ⟨names, omittedNames, reverseOk⟩, registrationOk,
      ⟨origins, omittedOrigins, routingOk⟩⟩
    obtain ⟨oldReverse, reverseFound⟩ := there "reverse_dns" (by decide)
    obtain ⟨oldRegistration, registrationFound⟩ := there "registration" (by decide)
    obtain ⟨oldRouting, routingFound⟩ := there "routing" (by decide)
    generalize joined_eq : setMember "routing" routing' (setMember "registration" registration'
      (setMember "reverse_dns" reverse' (setMember "schema_version" (.number (.ofNat 1))
        object))) = whole
    have kept : ∀ key, key ∉ ["schema_version", "reverse_dns", "registration", "routing"] →
        whole.lookup key = object.lookup key := by
      intro key other
      simp only [List.mem_cons, List.not_mem_nil, or_false, not_or] at other
      rw [← joined_eq, lookup_setMember_ne other.2.2.2, lookup_setMember_ne other.2.2.1,
        lookup_setMember_ne other.2.1, lookup_setMember_ne other.1]
    have versionNow : whole.lookup "schema_version" = some (.number (.ofNat 1)) := by
      rw [← joined_eq, lookup_setMember_ne (by decide), lookup_setMember_ne (by decide),
        lookup_setMember_ne (by decide), lookup_setMember_self numberFound]
    have reverseNow : whole.lookup "reverse_dns" = some reverse' := by
      rw [← joined_eq, lookup_setMember_ne (by decide), lookup_setMember_ne (by decide)]
      exact lookup_setMember_self ((lookup_setMember_ne (by decide)).trans reverseFound)
    have registrationNow : whole.lookup "registration" = some registration' := by
      rw [← joined_eq, lookup_setMember_ne (by decide)]
      exact lookup_setMember_self ((lookup_setMember_ne (by decide)).trans
        ((lookup_setMember_ne (by decide)).trans registrationFound))
    have routingNow : whole.lookup "routing" = some routing' := by
      rw [← joined_eq]
      exact lookup_setMember_self ((lookup_setMember_ne (by decide)).trans
        ((lookup_setMember_ne (by decide)).trans ((lookup_setMember_ne (by decide)).trans
          routingFound)))
    rw [IPContext.ofJson, Json.readField_of_lookup versionNow (by simp),
      Json.readInt_ofNat (by decide), readField_text ((kept _ (by decide)).trans addressFound),
      readField_text ((kept _ (by decide)).trans sourceFound),
      readField_text ((kept _ (by decide)).trans fetchedFound),
      readField_text ((kept _ (by decide)).trans expiresFound),
      Json.readField_of_lookup reverseNow (by rintro rfl; cases reverseRead),
      Json.readField_of_lookup registrationNow (by rintro rfl; cases registrationRead),
      Json.readField_of_lookup routingNow (by rintro rfl; cases routingRead), reverseRead,
      registrationRead, routingRead]
    rfl
  · cases rejected

end Sections

/-! ## Records that were written -/

section ReadBack

theorem IPContextName.ofJson_toJson (name : IPContextName) :
    IPContextName.ofJson name.toJson = some name := by
  rw [toJson, ofJson, readField_text (name.lookup_members "name"),
    readField_text (name.lookup_members "forward_status")]
  rfl

theorem mapM_toJson {A : Type} {zero : A} {write : A → JsonValue} {read : JsonValue → Option A}
    (back : ∀ value, Json.readElement zero read (write value) = some value) (values : List A) :
    (values.map write).mapM (Json.readElement zero read) = some values := by
  induction values with
  | nil => rfl
  | cons first rest ih => exact Json.mapM_cons_eq_some (back first) ih

theorem IPContextReverse.ofJson_toJson {reverse : IPContextReverse} {omitted : Nat}
    (omitted_eq : reverse.omitted = omitted) (small : omitted < 2 ^ 63) :
    IPContextReverse.ofJson reverse.toJson = some reverse := by
  have lookups : ∀ key, (Json.members reverse.fields).lookup key =
      (reverse.fields.lookup key).join := fun key => Json.lookup_members reverse.distinct
  have count : Json.readField (Json.members reverse.fields) "omitted" 0 Json.readInt =
      some reverse.omitted := by
    have found : (Json.members reverse.fields).lookup "omitted" =
        some (.number (.ofNat omitted)) := by
      rw [lookups, ← JsonNumber.ofInt_natCast, ← omitted_eq]
      rfl
    rw [Json.readField_of_lookup found (by simp), Json.readInt_ofNat small, omitted_eq]
  have list : Json.readField (Json.members reverse.fields) "names" none
      (Json.readSlice .zero IPContextName.ofJson) = some reverse.names := by
    have found : (Json.members reverse.fields).lookup "names" = some (reverse.names.elim .null
        fun names => .array (names.map IPContextName.toJson)) := lookups "names"
    cases listed : reverse.names with
    | none =>
        rw [listed] at found
        rw [Json.readField, found]
        rfl
    | some names =>
        rw [listed] at found
        rw [Json.readField_of_lookup found (by simp), Option.elim_some, Json.readSlice,
          mapM_toJson IPContextName.ofJson_toJson]
        rfl
  rw [toJson, ofJson, readField_text (lookups "status"), readField_text (lookups "source"),
    readField_text (lookups "fetched_at"), list, count]
  rfl

theorem IPContextRegistration.ofJson_toJson (registration : IPContextRegistration) :
    IPContextRegistration.ofJson registration.toJson = some registration := by
  have lookups := registration.lookup_members
  have omitted : ∀ key text, (registration.fields.lookup key).join = Json.omitempty text →
      Json.readField (Json.members registration.fields) key [] Json.readText = some text :=
    fun key text found => Json.readField_omitempty ((lookups key).trans found)
  rw [toJson, ofJson, readField_text (lookups "status"), readField_text (lookups "source"),
    readField_text (lookups "fetched_at"), omitted "registry" _ rfl, omitted "start_address" _ rfl,
    omitted "end_address" _ rfl, omitted "handle" _ rfl, omitted "name" _ rfl,
    omitted "type" _ rfl, omitted "country" _ rfl, omitted "organization" _ rfl,
    omitted "registered_at" _ rfl, omitted "updated_at" _ rfl]
  rfl

theorem IPContextRPKI.ofJson_toJson (rpki : IPContextRPKI) :
    IPContextRPKI.ofJson rpki.toJson = some rpki := by
  have lookups : ∀ key, (Json.members rpki.fields).lookup key = (rpki.fields.lookup key).join :=
    fun key => Json.lookup_members rpki.distinct
  rw [toJson, ofJson, readField_text (lookups "status"), readField_text (lookups "source"),
    readField_text (lookups "checked_at"), Json.readField_omitempty (lookups "validity")]
  rfl

theorem IPContextOrigin.ofJson_toJson (origin : IPContextOrigin) :
    IPContextOrigin.ofJson origin.toJson = some origin := by
  have lookups : ∀ key, (Json.members origin.fields).lookup key =
      (origin.fields.lookup key).join := fun key => Json.lookup_members origin.distinct
  have asn : (Json.members origin.fields).lookup "asn" =
      some (.number (.ofNat origin.asn.toNat)) := lookups "asn"
  have rpki : (Json.members origin.fields).lookup "rpki" = some origin.rpki.toJson := lookups "rpki"
  rw [toJson, ofJson, Json.readField_of_lookup asn (by simp), Json.readUInt32_ofNat,
    Json.readField_of_lookup rpki (by simp [IPContextRPKI.toJson]), origin.rpki.ofJson_toJson]
  rfl

theorem IPContextRouting.ofJson_toJson {routing : IPContextRouting} {omitted : Nat}
    (omitted_eq : routing.omitted = omitted) (small : omitted < 2 ^ 63) :
    IPContextRouting.ofJson routing.toJson = some routing := by
  have lookups : ∀ key, (Json.members routing.fields).lookup key =
      (routing.fields.lookup key).join := fun key => Json.lookup_members routing.distinct
  have count : Json.readField (Json.members routing.fields) "omitted" 0 Json.readInt =
      some routing.omitted := by
    have found : (Json.members routing.fields).lookup "omitted" =
        some (.number (.ofNat omitted)) := by
      rw [lookups, ← JsonNumber.ofInt_natCast, ← omitted_eq]
      rfl
    rw [Json.readField_of_lookup found (by simp), Json.readInt_ofNat small, omitted_eq]
  have list : Json.readField (Json.members routing.fields) "origins" none
      (Json.readSlice .zero IPContextOrigin.ofJson) = some routing.origins := by
    have found : (Json.members routing.fields).lookup "origins" = some (routing.origins.elim .null
        fun origins => .array (origins.map IPContextOrigin.toJson)) := lookups "origins"
    cases listed : routing.origins with
    | none =>
        rw [listed] at found
        rw [Json.readField, found]
        rfl
    | some origins =>
        rw [listed] at found
        rw [Json.readField_of_lookup found (by simp), Option.elim_some, Json.readSlice,
          mapM_toJson IPContextOrigin.ofJson_toJson]
        rfl
  rw [toJson, ofJson, readField_text (lookups "status"), readField_text (lookups "source"),
    readField_text (lookups "fetched_at"), Json.readField_omitempty (lookups "prefix"), list, count]
  rfl

/-- A record of small counts is read back from its document. -/
theorem IPContext.ofJson_toJson {value : IPContext} {omittedNames omittedOrigins : Nat}
    (version : value.schemaVersion = 1) (omittedNames_eq : value.reverseDNS.omitted = omittedNames)
    (fewNames : omittedNames < 2 ^ 63) (omittedOrigins_eq : value.routing.omitted = omittedOrigins)
    (fewOrigins : omittedOrigins < 2 ^ 63) : IPContext.ofJson value.toJson = some value := by
  have lookups : ∀ key, (Json.members value.fields).lookup key = (value.fields.lookup key).join :=
    fun key => Json.lookup_members value.distinct
  have versionFound : (Json.members value.fields).lookup "schema_version" =
      some (.number (.ofNat 1)) := by
    rw [lookups, ← JsonNumber.ofInt_natCast]
    simp [fields, version]
  have reverse : (Json.members value.fields).lookup "reverse_dns" =
      some value.reverseDNS.toJson := lookups "reverse_dns"
  have registration : (Json.members value.fields).lookup "registration" =
      some value.registration.toJson := lookups "registration"
  have routing : (Json.members value.fields).lookup "routing" = some value.routing.toJson :=
    lookups "routing"
  rw [toJson, ofJson, Json.readField_of_lookup versionFound (by simp), Json.readInt_ofNat (by decide),
    readField_text (lookups "address"), readField_text (lookups "source"),
    readField_text (lookups "fetched_at"), readField_text (lookups "expires_at"),
    Json.readField_of_lookup reverse (by simp [IPContextReverse.toJson]),
    IPContextReverse.ofJson_toJson omittedNames_eq fewNames,
    Json.readField_of_lookup registration (by simp [IPContextRegistration.toJson]),
    value.registration.ofJson_toJson,
    Json.readField_of_lookup routing (by simp [IPContextRouting.toJson]),
    IPContextRouting.ofJson_toJson omittedOrigins_eq fewOrigins]
  simp only [Option.bind_eq_bind, Option.bind_some, Option.pure_def]
  rw [show ((1 : Nat) : Int) = value.schemaVersion from version.symm]

end ReadBack

end CheckNetwork.Context
