import CheckNetwork.Context.Contract

/-!
# Accepted records

What the contract demands of a record, field by field, and that a record which
is written passes the checks of each section exactly when it meets the demands.
-/

namespace CheckNetwork.Context

open Go

variable (net : NetLibrary)

/-! ## Demands -/

def timedText (stamp source : GoString) (expected : String) (root : Time) : Bool :=
  ((stampText stamp).any fun time => !time.after root) && source = GoString.ofString expected

def namesOk (previous : GoString) : List IPContextName → Bool
  | [] => true
  | first :: rest =>
      contextDNSName first.name && before previous first.name &&
        contextMember first.forwardStatus
          ["confirmed", "mismatch", "not_found", "timeout", "unavailable", "invalid_response",
            "limited"] &&
        namesOk first.name rest

structure IPContextReverse.Ok (reverse : IPContextReverse) (fetched : Time)
    (names : List IPContextName) (omitted : Nat) : Prop where
  timed : timedText reverse.fetchedAt reverse.source "system_resolver" fetched = true
  status : contextMember reverse.status reverseStatuses = true
  names_eq : reverse.names = some names
  omitted_eq : reverse.omitted = omitted
  length_le : names.length ≤ 8
  omitted_le : omitted ≤ 56
  shape : contextCountShape reverse.status names.length omitted 8 = true
  ordered : namesOk [] names = true

/-- A text that is empty or short and valid. -/
def textOk (text : GoString) : Bool := text = [] ∨ contextText text

def dateOk (text : GoString) : Bool := text = [] ∨ (stampText text).isSome

namespace IPContextRegistration

def texts (registration : IPContextRegistration) : List GoString :=
  [registration.handle, registration.name, registration.type, registration.country,
    registration.organization]

/-- What only a successful registration has. -/
def details (registration : IPContextRegistration) : List GoString :=
  [registration.startAddress, registration.endAddress] ++ registration.texts ++
    [registration.registeredAt, registration.updatedAt]

structure Found (registration : IPContextRegistration) (requested : GoString) : Prop where
  range : validRange net registration.startAddress registration.endAddress requested = true
  texts : ∀ text ∈ registration.texts, textOk text = true
  country : registration.country = [] ∨ contextCountry registration.country = true
  total : (registration.texts.map GoString.byteLength).sum ≤ 1536
  registeredAt : dateOk registration.registeredAt = true
  updatedAt : dateOk registration.updatedAt = true

structure Ok (registration : IPContextRegistration) (requested : GoString) (fetched : Time) :
    Prop where
  timed : timedText registration.fetchedAt registration.source "rdap" fetched = true
  status : contextMember registration.status registrationStatuses = true
  registry : registration.registry = [] ∨ contextMember registration.registry registries = true
  found : registration.status = GoString.ofString "ok" → registration.Found net requested
  absent : registration.status ≠ GoString.ofString "ok" → ∀ text ∈ registration.details, text = []

end IPContextRegistration

structure IPContextRPKI.Ok (rpki : IPContextRPKI) (fetched : Time) : Prop where
  timed : timedText rpki.checkedAt rpki.source "ripe_rpki" fetched = true
  status : contextMember rpki.status rpkiStatuses = true
  found : rpki.status = GoString.ofString "ok" → contextMember rpki.validity validities = true
  absent : rpki.status ≠ GoString.ofString "ok" → rpki.validity = []

/-- The origins of a record, in increasing order after `previous`. -/
def OriginsOk (fetched : Time) (previous : Nat) : List IPContextOrigin → Prop
  | [] => True
  | first :: rest =>
      previous < first.asn.toNat ∧ first.rpki.Ok fetched ∧ OriginsOk fetched first.asn.toNat rest

structure IPContextRouting.Ok (routing : IPContextRouting) (requested : GoString) (fetched : Time)
    (origins : List IPContextOrigin) (omitted : Nat) : Prop where
  timed : timedText routing.fetchedAt routing.source "ripe_ris" fetched = true
  status : contextMember routing.status routingStatuses = true
  origins_eq : routing.origins = some origins
  omitted_eq : routing.omitted = omitted
  length_le : origins.length ≤ 4
  omitted_le : omitted ≤ 60
  shape : contextCountShape routing.status origins.length omitted 4 = true
  found : contextMember routing.status ["ok", "limited"] = true →
    contextPrefix net routing.routePrefix requested = true
  absent : contextMember routing.status ["ok", "limited"] = false → routing.routePrefix = []
  ordered : OriginsOk fetched 0 origins

/-- The contract, on a record. -/
structure IPContext.Ok (value : IPContext) (fetched expires : Time)
    (names : List IPContextName) (omittedNames : Nat) (origins : List IPContextOrigin)
    (omittedOrigins : Nat) : Prop where
  version : value.schemaVersion = 1
  address : validContextAddress net value.address = true
  source : contextMember value.source ["upstream", "cache"] = true
  fetchedAt : stampText value.fetchedAt = some fetched
  expiresAt : stampText value.expiresAt = some expires
  expires_eq : expires.nanoseconds = (fetched.add (contextSnapshotTTL value)).nanoseconds
  reverse : value.reverseDNS.Ok fetched names omittedNames
  registration : value.registration.Ok net value.address fetched
  routing : value.routing.Ok net value.address fetched origins omittedOrigins
  size : (document value).byteLength ≤ IPContextMaxResponseBytes

/-- A record that the contract accepts. -/
def IPContext.Accepted (value : IPContext) : Prop :=
  ∃ fetched expires names omittedNames origins omittedOrigins,
    value.Ok net fetched expires names omittedNames origins omittedOrigins

/-! ## Written objects -/

@[simp]
theorem isNull_string (text : GoString) : isNull (.string text) = false := rfl

@[simp]
theorem isNull_number (number : JsonNumber) : isNull (.number number) = false := rfl

@[simp]
theorem isNull_object (object : Object) : isNull (.object object) = false := rfl

@[simp]
theorem isNull_array (elements : List JsonValue) : isNull (.array elements) = false := rfl

section Objects

variable {fields : List (String × Option JsonValue)} {required optional : List String}

/-- The check of an object that a struct was written as. -/
theorem contextObject_members (distinct : (fields.map Prod.fst).Nodup)
    (known : ∀ key ∈ fields.map Prod.fst, (required ++ optional).contains key = true)
    (present : ∀ key ∈ required, ∃ value, fields.lookup key = some (some value))
    (notNull : ∀ field ∈ fields, ∀ value ∈ field.2, isNull value = false) :
    contextObject (some (.object (Json.members fields))) required optional =
      some (Json.members fields) := by
  have inside : ∀ member ∈ Json.members fields, (member.1, some member.2) ∈ fields :=
    fun member found => Json.mem_members.mp found
  apply if_pos
  constructor
  · rw [List.all_eq_true]
    intro key member
    obtain ⟨value, found⟩ := present key member
    have field := Entries.mem_of_lookup found
    rw [Json.lookup_members distinct, found, Option.join_some, Option.any_some,
      notNull _ field value rfl]
    rfl
  · rw [List.all_eq_true]
    intro member found
    rw [known member.1 (List.mem_map.mpr ⟨_, inside member found, rfl⟩),
      notNull _ (inside member found) member.2 rfl]
    rfl

theorem contextObject_eq_some {value : Option JsonValue} {object : Object}
    (checked : contextObject value required optional = some object) :
    value = some (.object object) ∧
      (required.all fun key => (object.lookup key).any fun found => !isNull found) = true ∧
      (object.all fun member =>
        (required ++ optional).contains member.1 && !isNull member.2) = true := by
  unfold contextObject at checked
  split at checked
  · rename_i object'
    split at checked
    · rename_i passes
      cases checked
      exact ⟨rfl, passes⟩
    · cases checked
  · cases checked

theorem setMember_members {key : String} {value : JsonValue}
    (distinct : (fields.map Prod.fst).Nodup) (found : fields.lookup key = some (some value)) :
    setMember key value (Json.members fields) = Json.members fields := by
  refine (List.map_congr_left ?_).trans (List.map_id _)
  intro member inside
  split
  · rename_i named
    have field := Entries.lookup_of_mem distinct (Json.mem_members.mp inside)
    rw [named, found] at field
    rw [Option.some.inj (Option.some.inj field), ← named]
    rfl
  · rfl

end Objects

/-! ## Sections that were written -/

section Written

variable {fetched : Time}

theorem contextTimed_eq {object : Object} {key source : String} {stamp text : GoString}
    (stamped : object.lookup key = some (.string stamp))
    (sourced : object.lookup "source" = some (.string text)) :
    contextTimed object key source fetched = timedText stamp text source fetched := by
  rw [contextTimed, stamped, sourced]
  rfl

theorem IPContextName.lookup_members (name : IPContextName) (key : String) :
    (Json.members name.fields).lookup key = (name.fields.lookup key).join :=
  Json.lookup_members (by change List.Nodup ["name", "forward_status"]; decide)

theorem parseNames_toJson (previous : GoString) (names : List IPContextName) :
    parseNames previous (names.map IPContextName.toJson) = namesOk previous names := by
  induction names generalizing previous with
  | nil => rfl
  | cons name rest ih =>
      have checked : contextObject (some name.toJson) ["name", "forward_status"] [] =
          some (Json.members name.fields) := by
        apply contextObject_members
        · change List.Nodup ["name", "forward_status"]
          decide
        · change ∀ key ∈ ["name", "forward_status"], _
          decide
        · intro key member
          rcases List.mem_pair.mp member with rfl | rfl <;> exact ⟨_, rfl⟩
        · intro field member value found
          rcases List.mem_pair.mp member with rfl | rfl <;> cases found <;> rfl
      have named : (Json.members name.fields).lookup "name" = some (.string name.name) :=
        name.lookup_members "name"
      have confirmed : (Json.members name.fields).lookup "forward_status" =
          some (.string name.forwardStatus) := name.lookup_members "forward_status"
      rw [List.map_cons, parseNames, checked]
      dsimp only
      rw [named, confirmed]
      dsimp only [contextString]
      rw [ih, namesOk]

/-- Integers of a written object are normal already. -/
theorem contextNormalizeInteger_members {fields : List (String × Option JsonValue)} {key : String}
    {value : Int} {max result : Nat} {normalized : Object} (bounded : max < 10 ^ 10)
    (distinct : (fields.map Prod.fst).Nodup)
    (found : fields.lookup key = some (some (.number (.ofInt value)))) :
    contextNormalizeInteger (Json.members fields) key max = some (result, normalized) ↔
      value = result ∧ result ≤ max ∧ normalized = Json.members fields := by
  have there : (Json.members fields).lookup key = some (.number (.ofInt value)) := by
    rw [Json.lookup_members distinct, found]
    rfl
  have unchanged : value = result → setMember key (.number (.ofNat result)) (Json.members fields) =
      Json.members fields := by
    rintro rfl
    rw [JsonNumber.ofInt_natCast] at found
    exact setMember_members distinct found
  rw [contextNormalizeInteger, there]
  dsimp only
  rw [Option.map_eq_some_iff]
  constructor
  · rintro ⟨read, exact, same⟩
    obtain ⟨rfl, rfl⟩ := Prod.mk.inj same
    obtain ⟨value_eq, le⟩ := (contextInteger_ofInt bounded).mp exact
    exact ⟨value_eq, le, unchanged value_eq⟩
  · rintro ⟨value_eq, le, rfl⟩
    exact ⟨result, (contextInteger_ofInt bounded).mpr ⟨value_eq, le⟩, by rw [unchanged value_eq]⟩

theorem IPContextReverse.distinct (reverse : IPContextReverse) :
    (reverse.fields.map Prod.fst).Nodup := by
  change List.Nodup ["status", "source", "fetched_at", "names", "omitted"]
  decide

theorem parseReverse_toJson {reverse : IPContextReverse} {normalized : JsonValue} :
    parseReverse (some reverse.toJson) fetched = some normalized ↔
      normalized = reverse.toJson ∧ ∃ names omitted, reverse.Ok fetched names omitted := by
  have lookups : ∀ key, (Json.members reverse.fields).lookup key =
      (reverse.fields.lookup key).join := fun key => Json.lookup_members reverse.distinct
  cases listed : reverse.names with
  | none =>
      constructor
      · intro parsed
        obtain ⟨object, checked, parsed⟩ := Option.bind_eq_some_iff.mp parsed
        cases (contextObject_eq_some checked).1
        obtain ⟨elements, array, _⟩ := Option.bind_eq_some_iff.mp parsed
        rw [lookups] at array
        simp [IPContextReverse.fields, List.lookup_cons, listed, contextArray] at array
      · rintro ⟨_, names, omitted, ok⟩
        rw [ok.names_eq] at listed
        cases listed
  | some names =>
      have checked : contextObject (some reverse.toJson)
          ["status", "source", "fetched_at", "names", "omitted"] [] =
          some (Json.members reverse.fields) := by
        apply contextObject_members reverse.distinct
        · change ∀ key ∈ ["status", "source", "fetched_at", "names", "omitted"], _
          decide
        · simp [IPContextReverse.fields, List.lookup_cons]
        · simp [IPContextReverse.fields, listed]
      have timed : contextTimed (Json.members reverse.fields) "fetched_at" "system_resolver"
          fetched = timedText reverse.fetchedAt reverse.source "system_resolver" fetched :=
        contextTimed_eq (lookups _) (lookups _)
      have status : contextString ((Json.members reverse.fields).lookup "status") =
          reverse.status := by
        rw [lookups]
        rfl
      have array : contextArray ((Json.members reverse.fields).lookup "names") =
          some (names.map IPContextName.toJson) := by
        rw [lookups]
        simp [IPContextReverse.fields, List.lookup_cons, listed, contextArray]
      have integer : ∀ omitted object, contextNormalizeInteger (Json.members reverse.fields)
          "omitted" 56 = some (omitted, object) ↔ reverse.omitted = omitted ∧ omitted ≤ 56 ∧
            object = Json.members reverse.fields := fun omitted object =>
        contextNormalizeInteger_members (by decide) reverse.distinct rfl
      simp only [parseReverse, checked, array, timed, status, Option.bind_eq_bind,
        Option.bind_some, Option.bind_eq_some_iff, Prod.exists, integer, parseNames_toJson,
        List.length_map]
      constructor
      · rintro ⟨omitted, object, ⟨omitted_eq, le, rfl⟩, parsed⟩
        split at parsed
        · rename_i passes
          simp only [Bool.and_eq_true, decide_eq_true_eq] at passes
          exact ⟨(Option.some.inj parsed).symm, names, omitted, passes.1.1.1.1, passes.1.1.1.2, listed,
            omitted_eq, passes.1.1.2, le, passes.1.2, passes.2⟩
        · cases parsed
      · rintro ⟨rfl, names', omitted, ok⟩
        cases listed.symm.trans ok.names_eq
        refine ⟨omitted, _, ⟨ok.omitted_eq, ok.omitted_le, rfl⟩, ?_⟩
        rw [ok.timed, ok.status, ok.shape, ok.ordered, decide_eq_true ok.length_le]
        rfl

theorem isNull_of_omitempty {text : GoString} {value : JsonValue}
    (written : Json.omitempty text = some value) : isNull value = false := by
  rcases eq_or_ne text [] with rfl | nonempty
  · cases written
  · rw [Json.omitempty_of_ne nonempty] at written
    cases written
    rfl

section Omitted

variable {object : Object} {key : String} {text : GoString}
  (found : object.lookup key = Json.omitempty text)

include found

theorem contextString_omitempty : contextString (object.lookup key) = text := by
  rw [found]
  rcases eq_or_ne text [] with rfl | nonempty
  · rfl
  · rw [Json.omitempty_of_ne nonempty, contextString]

theorem isNone_omitempty : (object.lookup key).isNone = decide (text = []) := by
  rw [found]
  rcases eq_or_ne text [] with rfl | nonempty
  · rfl
  · simp [Json.omitempty_of_ne nonempty, nonempty]

theorem validText_omitempty : validText object key =
    (textOk text && (key ≠ "country" || text = [] || contextCountry text)) := by
  rw [validText, found]
  rcases eq_or_ne text [] with rfl | nonempty
  · simp [textOk]
  · simp [Json.omitempty_of_ne nonempty, nonempty, textOk]

omit found in
theorem validRegistry_omitempty (found : object.lookup "registry" = Json.omitempty text) :
    validRegistry object = (decide (text = []) || contextMember text registries) := by
  rw [validRegistry, found]
  rcases eq_or_ne text [] with rfl | nonempty
  · rfl
  · simp [Json.omitempty_of_ne nonempty, nonempty, contextString]

theorem validDate_omitempty : validDate object key = dateOk text := by
  rw [validDate, found]
  rcases eq_or_ne text [] with rfl | nonempty
  · rfl
  · simp [Json.omitempty_of_ne nonempty, nonempty, dateOk, contextStamp]

end Omitted

namespace IPContextRegistration

def keys : List String := ["status", "source", "fetched_at", "registry"] ++ registrationKeys

theorem distinct (registration : IPContextRegistration) :
    (registration.fields.map Prod.fst).Nodup := by
  change List.Nodup keys
  decide

theorem lookup_members (registration : IPContextRegistration) (key : String) :
    (Json.members registration.fields).lookup key = (registration.fields.lookup key).join :=
  Json.lookup_members registration.distinct

theorem contextObject_toJson (registration : IPContextRegistration) :
    contextObject (some registration.toJson) ["status", "source", "fetched_at"]
      ("registry" :: registrationKeys) = some (Json.members registration.fields) := by
  apply contextObject_members registration.distinct
  · change ∀ key ∈ keys, _
    decide
  · simp [fields, List.lookup_cons]
  · have texts : ∀ text value, Json.omitempty text = some value → isNull value = false :=
      fun _ _ => isNull_of_omitempty
    simp only [fields, List.forall_mem_cons, Option.mem_def, Option.some.injEq, forall_eq',
      isNull_string, true_and, List.not_mem_nil, false_implies, implies_true, and_true]
    exact ⟨texts _, texts _, texts _, texts _, texts _, texts _, texts _, texts _, texts _, texts _⟩

/-- The texts that only a successful registration has, under their keys. -/
theorem isNone_details (registration : IPContextRegistration) :
    (registrationKeys.all fun key => ((Json.members registration.fields).lookup key).isNone) =
      registration.details.all fun text => text = [] := by
  have absent : ∀ key text, (registration.fields.lookup key).join = Json.omitempty text →
      ((Json.members registration.fields).lookup key).isNone = decide (text = []) :=
    fun key text found => isNone_omitempty ((registration.lookup_members key).trans found)
  simp only [registrationKeys, details, texts, List.all_cons, List.all_nil, List.cons_append,
    List.nil_append, absent "start_address" _ rfl, absent "end_address" _ rfl,
    absent "handle" _ rfl, absent "name" _ rfl, absent "type" _ rfl, absent "country" _ rfl,
    absent "organization" _ rfl, absent "registered_at" _ rfl, absent "updated_at" _ rfl]

end IPContextRegistration

theorem parseRegistration_toJson {registration : IPContextRegistration} {requested : GoString}
    {normalized : JsonValue} :
    parseRegistration net (some registration.toJson) requested fetched = some normalized ↔
      normalized = registration.toJson ∧ registration.Ok net requested fetched := by
  have lookups := registration.lookup_members
  have timed : contextTimed (Json.members registration.fields) "fetched_at" "rdap" fetched =
      timedText registration.fetchedAt registration.source "rdap" fetched :=
    contextTimed_eq (lookups _) (lookups _)
  have status : contextString ((Json.members registration.fields).lookup "status") =
      registration.status := by
    rw [lookups]
    rfl
  have text : ∀ key text, (registration.fields.lookup key).join = Json.omitempty text →
      contextString ((Json.members registration.fields).lookup key) = text :=
    fun key text found => contextString_omitempty ((lookups key).trans found)
  have valid : ∀ key text, (registration.fields.lookup key).join = Json.omitempty text →
      validText (Json.members registration.fields) key =
        (textOk text && (key ≠ "country" || text = [] || contextCountry text)) :=
    fun key text found => validText_omitempty ((lookups key).trans found)
  have date : ∀ key text, (registration.fields.lookup key).join = Json.omitempty text →
      validDate (Json.members registration.fields) key = dateOk text :=
    fun key text found => validDate_omitempty ((lookups key).trans found)
  have registry : validRegistry (Json.members registration.fields) =
      (decide (registration.registry = []) || contextMember registration.registry registries) :=
    validRegistry_omitempty (lookups _)
  simp only [parseRegistration, registration.contextObject_toJson, timed, status,
    registration.isNone_details, Option.bind_eq_bind, Option.bind_some, registry,
    text "start_address" _ rfl, text "end_address" _ rfl, textTotal, textKeys, List.all_cons,
    List.all_nil, List.map_cons, List.map_nil, valid "handle" _ rfl, valid "name" _ rfl,
    valid "type" _ rfl, valid "country" _ rfl, valid "organization" _ rfl, text "handle" _ rfl,
    text "name" _ rfl, text "type" _ rfl, text "country" _ rfl, text "organization" _ rfl,
    date "registered_at" _ rfl, date "updated_at" _ rfl]
  have decided : ∀ passes : Bool, (if passes = true then
      pure (JsonValue.object (Json.members registration.fields)) else none) = some normalized ↔
        normalized = registration.toJson ∧ passes = true := by
    rintro (_ | _)
    · simp
    · simp only [if_true, and_true, Option.pure_def, Option.some.injEq]
      exact eq_comm
  rw [decided]
  apply and_congr_right'
  by_cases found : registration.status = GoString.ofString "ok"
  · rw [if_pos found]
    simp only [Bool.and_eq_true, Bool.or_eq_true, decide_eq_true_eq, ne_eq, String.reduceEq,
      not_false_eq_true, not_true_eq_false, true_or, false_or, and_true]
    constructor
    · rintro ⟨⟨⟨isTimed, isStatus⟩, isRegistry⟩, ⟨⟨range, handle, name, type, country,
        organization⟩, total⟩, registeredAt, updatedAt⟩
      refine ⟨isTimed, isStatus, isRegistry, fun _ => ⟨range, ?_, country.2, total, registeredAt,
        updatedAt⟩, fun other => absurd found other⟩
      simp only [IPContextRegistration.texts, List.forall_mem_cons]
      exact ⟨handle, name, type, country.1, organization, fun _ => List.not_mem_nil.elim⟩
    · intro ok
      have details := ok.found found
      have texts := details.texts
      simp only [IPContextRegistration.texts, List.forall_mem_cons] at texts
      exact ⟨⟨⟨ok.timed, ok.status⟩, ok.registry⟩, ⟨⟨details.range, texts.1, texts.2.1, texts.2.2.1,
        ⟨texts.2.2.2.1, details.country⟩, texts.2.2.2.2.1⟩, details.total⟩, details.registeredAt,
        details.updatedAt⟩
  · rw [if_neg found]
    simp only [Bool.and_eq_true, Bool.or_eq_true, decide_eq_true_eq, List.all_eq_true]
    constructor
    · rintro ⟨⟨⟨isTimed, isStatus⟩, isRegistry⟩, absent⟩
      exact ⟨isTimed, isStatus, isRegistry, fun same => absurd same found, fun _ => absent⟩
    · intro ok
      exact ⟨⟨⟨ok.timed, ok.status⟩, ok.registry⟩, ok.absent found⟩

theorem IPContextRPKI.distinct (rpki : IPContextRPKI) : (rpki.fields.map Prod.fst).Nodup := by
  change List.Nodup ["status", "source", "checked_at", "validity"]
  decide

theorem parseRPKI_toJson {rpki : IPContextRPKI} :
    parseRPKI (some rpki.toJson) fetched = true ↔ rpki.Ok fetched := by
  have lookups : ∀ key, (Json.members rpki.fields).lookup key = (rpki.fields.lookup key).join :=
    fun key => Json.lookup_members rpki.distinct
  have checked : contextObject (some rpki.toJson) ["status", "source", "checked_at"] ["validity"] =
      some (Json.members rpki.fields) := by
    apply contextObject_members rpki.distinct
    · change ∀ key ∈ ["status", "source", "checked_at", "validity"], _
      decide
    · simp [IPContextRPKI.fields, List.lookup_cons]
    · simp only [IPContextRPKI.fields, List.forall_mem_cons, Option.mem_def, Option.some.injEq,
        forall_eq', isNull_string, true_and, List.not_mem_nil, false_implies, implies_true, and_true]
      exact fun _ => isNull_of_omitempty
  have timed : contextTimed (Json.members rpki.fields) "checked_at" "ripe_rpki" fetched =
      timedText rpki.checkedAt rpki.source "ripe_rpki" fetched :=
    contextTimed_eq (lookups _) (lookups _)
  have status : contextString ((Json.members rpki.fields).lookup "status") = rpki.status := by
    rw [lookups]
    rfl
  have validity : (Json.members rpki.fields).lookup "validity" = Json.omitempty rpki.validity :=
    lookups _
  have named : contextMember rpki.validity validities = true → rpki.validity ≠ [] := by
    rintro member empty
    rw [empty] at member
    revert member
    decide
  rw [parseRPKI, checked]
  dsimp only
  rw [timed, status, contextString_omitempty validity]
  by_cases found : rpki.status = GoString.ofString "ok"
  · rw [if_pos found]
    simp only [Bool.and_eq_true]
    constructor
    · rintro ⟨⟨isTimed, isStatus⟩, _, member⟩
      exact ⟨isTimed, isStatus, fun _ => member, fun other => absurd found other⟩
    · intro ok
      have member := ok.found found
      refine ⟨⟨ok.timed, ok.status⟩, ?_, member⟩
      rw [validity, Json.omitempty_of_ne (named member)]
      rfl
  · rw [if_neg found, isNone_omitempty validity]
    simp only [Bool.and_eq_true, decide_eq_true_eq]
    constructor
    · rintro ⟨⟨isTimed, isStatus⟩, absent⟩
      exact ⟨isTimed, isStatus, fun same => absurd same found, fun _ => absent⟩
    · intro ok
      exact ⟨⟨ok.timed, ok.status⟩, ok.absent found⟩

theorem IPContextOrigin.distinct (origin : IPContextOrigin) :
    (origin.fields.map Prod.fst).Nodup := by
  change List.Nodup ["asn", "rpki"]
  decide

theorem parseOrigins_toJson {previous : Nat} {origins : List IPContextOrigin}
    {normalized : List JsonValue} :
    parseOrigins fetched previous (origins.map IPContextOrigin.toJson) = some normalized ↔
      normalized = origins.map IPContextOrigin.toJson ∧ OriginsOk fetched previous origins := by
  induction origins generalizing previous normalized with
  | nil =>
      simp [parseOrigins, OriginsOk, eq_comm]
  | cons origin rest ih =>
      have lookups : ∀ key, (Json.members origin.fields).lookup key =
          (origin.fields.lookup key).join := fun key => Json.lookup_members origin.distinct
      have checked : contextObject (some origin.toJson) ["asn", "rpki"] [] =
          some (Json.members origin.fields) := by
        apply contextObject_members origin.distinct
        · change ∀ key ∈ ["asn", "rpki"], _
          decide
        · simp [IPContextOrigin.fields, List.lookup_cons]
        · simp [IPContextOrigin.fields, IPContextRPKI.toJson]
      have integer : ∀ asn object, contextNormalizeInteger (Json.members origin.fields)
          "asn" 4294967295 = some (asn, object) ↔ (origin.asn.toNat : Int) = asn ∧
            asn ≤ 4294967295 ∧ object = Json.members origin.fields := fun asn object =>
        contextNormalizeInteger_members (by decide) origin.distinct
          (by rw [JsonNumber.ofInt_natCast]; rfl)
      have small : origin.asn.toNat ≤ 4294967295 := Nat.le_of_lt_succ origin.asn.toNat_lt
      have rpki : (Json.members origin.fields).lookup "rpki" = some origin.rpki.toJson := lookups _
      simp only [List.map_cons, parseOrigins, checked, Option.bind_eq_bind, Option.bind_some,
        Option.bind_eq_some_iff, Prod.exists, integer, rpki, OriginsOk]
      constructor
      · rintro ⟨asn, object, ⟨asn_eq, _, rfl⟩, parsed⟩
        cases Int.ofNat_inj.mp asn_eq
        split at parsed
        · rename_i passes
          simp only [Bool.and_eq_true, decide_eq_true_eq, parseRPKI_toJson] at passes
          obtain ⟨others, tail, same⟩ := Option.bind_eq_some_iff.mp parsed
          obtain ⟨rfl, ordered⟩ := ih.mp tail
          exact ⟨(Option.some.inj same).symm, passes.1.2, passes.2, ordered⟩
        · cases parsed
      · rintro ⟨rfl, after, ok, ordered⟩
        refine ⟨origin.asn.toNat, _, ⟨rfl, small, rfl⟩, ?_⟩
        rw [if_pos, ih.mpr ⟨rfl, ordered⟩]
        · rfl
        · rw [decide_eq_true (Nat.zero_lt_of_lt after), decide_eq_true after,
            parseRPKI_toJson.mpr ok]
          rfl

theorem IPContextRouting.distinct (routing : IPContextRouting) :
    (routing.fields.map Prod.fst).Nodup := by
  change List.Nodup ["status", "source", "fetched_at", "prefix", "origins", "omitted"]
  decide

theorem parseRouting_toJson {routing : IPContextRouting} {requested : GoString}
    {normalized : JsonValue} :
    parseRouting net (some routing.toJson) requested fetched = some normalized ↔
      normalized = routing.toJson ∧
        ∃ origins omitted, routing.Ok net requested fetched origins omitted := by
  have lookups : ∀ key, (Json.members routing.fields).lookup key =
      (routing.fields.lookup key).join := fun key => Json.lookup_members routing.distinct
  cases listed : routing.origins with
  | none =>
      constructor
      · intro parsed
        obtain ⟨object, checked, parsed⟩ := Option.bind_eq_some_iff.mp parsed
        cases (contextObject_eq_some checked).1
        obtain ⟨elements, array, _⟩ := Option.bind_eq_some_iff.mp parsed
        rw [lookups] at array
        simp [IPContextRouting.fields, List.lookup_cons, listed, contextArray] at array
      · rintro ⟨_, origins, omitted, ok⟩
        rw [ok.origins_eq] at listed
        cases listed
  | some origins =>
      have checked : contextObject (some routing.toJson)
          ["status", "source", "fetched_at", "origins", "omitted"] ["prefix"] =
          some (Json.members routing.fields) := by
        apply contextObject_members routing.distinct
        · change ∀ key ∈ ["status", "source", "fetched_at", "prefix", "origins", "omitted"], _
          decide
        · simp [IPContextRouting.fields, List.lookup_cons]
        · simp only [IPContextRouting.fields, listed, List.forall_mem_cons, Option.mem_def,
            Option.some.injEq, forall_eq', isNull_string, true_and, List.not_mem_nil,
            false_implies, implies_true, and_true, Option.elim_some, isNull_array, isNull_number]
          exact fun _ => isNull_of_omitempty
      have timed : contextTimed (Json.members routing.fields) "fetched_at" "ripe_ris" fetched =
          timedText routing.fetchedAt routing.source "ripe_ris" fetched :=
        contextTimed_eq (lookups _) (lookups _)
      have status : contextString ((Json.members routing.fields).lookup "status") =
          routing.status := by
        rw [lookups]
        rfl
      have found : routing.fields.lookup "origins" =
          some (some (.array (origins.map IPContextOrigin.toJson))) := by
        simp [IPContextRouting.fields, List.lookup_cons, listed]
      have array : contextArray ((Json.members routing.fields).lookup "origins") =
          some (origins.map IPContextOrigin.toJson) := by
        rw [lookups, found]
        rfl
      have integer : ∀ omitted object, contextNormalizeInteger (Json.members routing.fields)
          "omitted" 60 = some (omitted, object) ↔ routing.omitted = omitted ∧ omitted ≤ 60 ∧
            object = Json.members routing.fields := fun omitted object =>
        contextNormalizeInteger_members (by decide) routing.distinct rfl
      have routePrefix : (Json.members routing.fields).lookup "prefix" =
          Json.omitempty routing.routePrefix := lookups _
      simp only [parseRouting, checked, array, timed, status, Option.bind_eq_bind,
        Option.bind_some, Option.bind_eq_some_iff, Prod.exists, integer, List.length_map,
        contextString_omitempty routePrefix, isNone_omitempty routePrefix]
      constructor
      · rintro ⟨omitted, object, ⟨omitted_eq, le, rfl⟩, parsed⟩
        rcases ite_eq_iff.mp parsed with ⟨passes, parsed⟩ | ⟨_, parsed⟩
        · obtain ⟨others, listing, same⟩ := Option.bind_eq_some_iff.mp parsed
          obtain ⟨rfl, ordered⟩ := parseOrigins_toJson.mp listing
          rw [setMember_members routing.distinct found] at same
          simp only [Bool.and_eq_true, decide_eq_true_eq] at passes
          obtain ⟨⟨⟨⟨isTimed, isStatus⟩, length_le⟩, shape⟩, routed⟩ := passes
          refine ⟨(Option.some.inj same).symm, origins, omitted, isTimed, isStatus, listed,
            omitted_eq, length_le, le, shape, ?_, ?_, ordered⟩
          · intro known
            rwa [if_pos known] at routed
          · intro other
            rw [if_neg (by rw [other]; exact Bool.false_ne_true)] at routed
            exact of_decide_eq_true routed
        · cases parsed
      · rintro ⟨rfl, origins', omitted, ok⟩
        cases listed.symm.trans ok.origins_eq
        refine ⟨omitted, _, ⟨ok.omitted_eq, ok.omitted_le, rfl⟩, ?_⟩
        have routed : (if contextMember routing.status ["ok", "limited"] = true then
            contextPrefix net routing.routePrefix requested
            else decide (routing.routePrefix = [])) = true := by
          cases known : contextMember routing.status ["ok", "limited"] with
          | true => exact ok.found known
          | false => exact decide_eq_true (ok.absent known)
        rw [if_pos, parseOrigins_toJson.mpr ⟨rfl, ok.ordered⟩]
        · change some (JsonValue.object (setMember _ _ _)) = _
          rw [setMember_members routing.distinct found]
          rfl
        · rw [ok.timed, ok.status, ok.shape, routed, decide_eq_true ok.length_le]
          rfl

theorem IPContext.distinct (value : IPContext) : (value.fields.map Prod.fst).Nodup := by
  change rootKeys.Nodup
  decide

theorem parseRoot_toJson {value : IPContext} {requested : GoString} {normalized : JsonValue}
    {expires : Time} :
    parseRoot net value.toJson requested = some (normalized, fetched, expires) ↔
      normalized = value.toJson ∧ value.address = requested ∧ value.schemaVersion = 1 ∧
        contextMember value.source ["upstream", "cache"] = true ∧
        stampText value.fetchedAt = some fetched ∧ stampText value.expiresAt = some expires ∧
        (∃ names omitted, value.reverseDNS.Ok fetched names omitted) ∧
        value.registration.Ok net requested fetched ∧
        ∃ origins omitted, value.routing.Ok net requested fetched origins omitted := by
  have lookups : ∀ key, (Json.members value.fields).lookup key = (value.fields.lookup key).join :=
    fun key => Json.lookup_members value.distinct
  have checked : contextObject (some value.toJson) rootKeys [] =
      some (Json.members value.fields) := by
    apply contextObject_members value.distinct
    · change ∀ key ∈ rootKeys, _
      decide
    · simp [IPContext.fields, rootKeys, List.lookup_cons]
    · simp [IPContext.fields, IPContextReverse.toJson, IPContextRegistration.toJson,
        IPContextRouting.toJson]
  have integer : ∀ version object, contextNormalizeInteger (Json.members value.fields)
      "schema_version" 1 = some (version, object) ↔ value.schemaVersion = version ∧
        version ≤ 1 ∧ object = Json.members value.fields := fun version object =>
    contextNormalizeInteger_members (by decide) value.distinct rfl
  have address : isText ((Json.members value.fields).lookup "address") requested =
      decide (value.address = requested) := by
    rw [lookups]
    rfl
  have source : contextString ((Json.members value.fields).lookup "source") = value.source := by
    rw [lookups]
    rfl
  have fetchedAt : contextStamp ((Json.members value.fields).lookup "fetched_at") =
      stampText value.fetchedAt := by
    rw [lookups]
    rfl
  have expiresAt : contextStamp ((Json.members value.fields).lookup "expires_at") =
      stampText value.expiresAt := by
    rw [lookups]
    rfl
  have reverse : (Json.members value.fields).lookup "reverse_dns" = some value.reverseDNS.toJson :=
    lookups _
  have registration : (Json.members value.fields).lookup "registration" =
      some value.registration.toJson := lookups _
  have routing : (Json.members value.fields).lookup "routing" = some value.routing.toJson :=
    lookups _
  have unchanged : setMember "routing" value.routing.toJson (setMember "registration"
      value.registration.toJson (setMember "reverse_dns" value.reverseDNS.toJson
        (Json.members value.fields))) = Json.members value.fields := by
    rw [setMember_members value.distinct rfl, setMember_members value.distinct rfl,
      setMember_members value.distinct rfl]
  simp only [parseRoot, checked, address, source, fetchedAt, expiresAt, reverse, registration,
    routing, Option.bind_eq_bind, Option.bind_some, Option.bind_eq_some_iff, Prod.exists, integer]
  constructor
  · rintro ⟨version, object, ⟨version_eq, _, rfl⟩, fetched', fetched_eq, expires', expires_eq,
      parsed⟩
    rcases ite_eq_iff.mp parsed with ⟨passes, sections⟩ | ⟨_, rejected⟩
    · simp only [Bool.and_eq_true, decide_eq_true_eq] at passes
      obtain ⟨⟨address_eq, rfl⟩, known⟩ := passes
      obtain ⟨reverse', reverseParsed, later⟩ := Option.bind_eq_some_iff.mp sections
      obtain ⟨registration', registrationParsed, last⟩ := Option.bind_eq_some_iff.mp later
      obtain ⟨routing', routingParsed, joined⟩ := Option.bind_eq_some_iff.mp last
      obtain ⟨rfl, reverseOk⟩ := parseReverse_toJson.mp reverseParsed
      obtain ⟨rfl, registrationOk⟩ := (parseRegistration_toJson net).mp registrationParsed
      obtain ⟨rfl, routingOk⟩ := (parseRouting_toJson net).mp routingParsed
      rw [unchanged] at joined
      cases Option.some.inj joined
      exact ⟨rfl, address_eq, version_eq, known, fetched_eq, expires_eq, reverseOk, registrationOk,
        routingOk⟩
    · cases rejected
  · rintro ⟨rfl, rfl, version_eq, known, fetched_eq, expires_eq, reverseOk, registrationOk,
      routingOk⟩
    refine ⟨1, _, ⟨version_eq, le_refl 1, rfl⟩, fetched, fetched_eq, expires, expires_eq, ?_⟩
    rw [if_pos, parseReverse_toJson.mpr ⟨rfl, reverseOk⟩,
      (parseRegistration_toJson net).mpr ⟨rfl, registrationOk⟩,
      (parseRouting_toJson net).mpr ⟨rfl, routingOk⟩]
    · change some (JsonValue.object (setMember _ _ (setMember _ _ (setMember _ _ _))), _, _) = _
      rw [unchanged]
      rfl
    · rw [known]
      simp

end Written

end CheckNetwork.Context
