import CheckNetwork.Context.Integer
import CheckNetwork.Context.Json
import CheckNetwork.Context.Model

/-!
# The wire contract of an address record

`ParseIPContext` checks the keys, the types, the counts and the order of a
document before it reads it; `MarshalIPContext` writes a record that passes.
The parsers of addresses and the test for public ones are arbitrary.
-/

namespace CheckNetwork.Context

open Go

/-- `netip.ParseAddr`, `netip.ParsePrefix`, and whether the address that a text
names is a public one. -/
structure NetLibrary where
  parseAddr : GoString → Option Addr
  parsePrefix : GoString → Option AddrPrefix
  isPublic : GoString → Bool

def IPContextMaxResponseBytes : Nat := 16384

/-! ## Addresses and names -/

variable (net : NetLibrary)

def canonicalContextAddress (address : GoString) : Option Addr :=
  (net.parseAddr address).filter fun ip => ip.zone = [] ∧ !ip.is4In6 ∧ ip.string = address

def validContextAddress (address : GoString) : Bool :=
  (canonicalContextAddress net address).isSome && net.isPublic address

def contextPrefix (text address : GoString) : Bool :=
  (net.parsePrefix text).any fun range =>
    (canonicalContextAddress net address).any fun ip =>
      range.addr.zone = [] ∧ !range.addr.is4In6 ∧ range.string = text ∧ range.isMasked ∧
        range.addr.bitLen = ip.bitLen ∧ range.contains ip

def isLabelChar (char : Char) : Bool :=
  ('a' ≤ char ∧ char ≤ 'z') ∨ ('0' ≤ char ∧ char ≤ '9') ∨ char = '_' ∨ char = '-'

def isLabelRune : Rune → Bool
  | .scalar char => isLabelChar char
  | .invalid _ => false

def contextLabel (label : GoString) : Bool :=
  0 < label.byteLength ∧ label.byteLength ≤ 63 ∧ label.head? ≠ some (.scalar '-') ∧
    label.getLast? ≠ some (.scalar '-') ∧ label.all isLabelRune

def contextDNSName (name : GoString) : Bool :=
  0 < name.byteLength ∧ name.byteLength ≤ 253 ∧ (name.splitAt '.').all contextLabel

/-- The order of strings, which is the order of their bytes. -/
def before (first second : GoString) : Bool := first.bytes < second.bytes

def contextText (text : GoString) : Bool := text.isValid && text.byteLength ≤ 256

def isCapital (char : Char) : Bool := 'A' ≤ char ∧ char ≤ 'Z'

def contextCountry : GoString → Bool
  | [.scalar first, .scalar second] => isCapital first && isCapital second
  | _ => false

def contextCountShape (status : GoString) (count omitted max : Nat) : Bool :=
  if status = GoString.ofString "ok" then 1 ≤ count ∧ count ≤ max ∧ omitted = 0
  else if status = GoString.ofString "limited" then count = max ∧ 0 < omitted
  else count = 0 ∧ omitted = 0

/-! ## Decoded documents -/

abbrev Object := List (String × JsonValue)

def isNull : JsonValue → Bool
  | .null => true
  | _ => false

/-- An object with the required keys and no others but the optional ones, none of
them null. -/
def contextObject (value : Option JsonValue) (required optional : List String) : Option Object :=
  match value with
  | some (.object object) =>
      if (required.all fun key => (object.lookup key).any fun found => !isNull found) ∧
          object.all fun member => (required ++ optional).contains member.1 && !isNull member.2
      then some object else none
  | _ => none

def contextString : Option JsonValue → GoString
  | some (.string text) => text
  | _ => []

/-- An instant as it is written, of a year with four digits. -/
def stampText (text : GoString) : Option Time :=
  if text.byteLength = 24 then
    (Stamp.parse text).filter fun time =>
      1 ≤ time.date.year ∧ time.date.year ≤ 9999 ∧ (Stamp.format time).map .scalar = text
  else none

def contextStamp : Option JsonValue → Option Time
  | some (.string text) => stampText text
  | _ => none

def isText (value : Option JsonValue) (text : GoString) : Bool :=
  match value with
  | some (.string found) => found = text
  | _ => false

def contextTimed (object : Object) (key source : String) (root : Time) : Bool :=
  ((contextStamp (object.lookup key)).any fun stamp => !stamp.after root) &&
    isText (object.lookup "source") source

def contextArray : Option JsonValue → Option (List JsonValue)
  | some (.array elements) => some elements
  | _ => none

/-- `object[key] = value`, of a key that is there. -/
def setMember (key : String) (value : JsonValue) (object : Object) : Object :=
  object.map fun member => if member.1 = key then (key, value) else member

def contextNormalizeInteger (object : Object) (key : String) (max : Nat) : Option (Nat × Object) :=
  match object.lookup key with
  | some (.number number) =>
      (contextInteger number.text max).map fun value =>
        (value, setMember key (.number (.ofNat value)) object)
  | _ => none

/-! ## Sections -/

/-- The names of a section, in increasing order after `previous`. -/
def parseNames (previous : GoString) : List JsonValue → Bool
  | [] => true
  | first :: rest =>
      match contextObject (some first) ["name", "forward_status"] [] with
      | none => false
      | some name =>
          match name.lookup "name" with
          | some (.string text) =>
              contextDNSName text && before previous text &&
                contextMember (contextString (name.lookup "forward_status"))
                  ["confirmed", "mismatch", "not_found", "timeout", "unavailable",
                    "invalid_response", "limited"] &&
                parseNames text rest
          | _ => false

def reverseStatuses : List String :=
  ["ok", "limited", "not_found", "timeout", "unavailable", "invalid_response"]

def parseReverse (value : Option JsonValue) (fetched : Time) : Option JsonValue := do
  let reverse ← contextObject value ["status", "source", "fetched_at", "names", "omitted"] []
  let status := contextString (reverse.lookup "status")
  let names ← contextArray (reverse.lookup "names")
  let (omitted, normalized) ← contextNormalizeInteger reverse "omitted" 56
  if contextTimed reverse "fetched_at" "system_resolver" fetched &&
      contextMember status reverseStatuses && names.length ≤ 8 &&
      contextCountShape status names.length omitted 8 && parseNames [] names then
    pure (.object normalized)
  else none

/-- The fields that only a successful registration has. -/
def registrationKeys : List String :=
  ["start_address", "end_address", "handle", "name", "type", "country", "organization",
    "registered_at", "updated_at"]

def textKeys : List String := ["handle", "name", "type", "country", "organization"]

/-- A text of a registration, if it is there. -/
def validText (object : Object) (key : String) : Bool :=
  match object.lookup key with
  | none => true
  | some (.string text) =>
      contextText text && text ≠ [] && (key ≠ "country" || contextCountry text)
  | some _ => false

def textTotal (object : Object) : Nat :=
  (textKeys.map fun key => (contextString (object.lookup key)).byteLength).sum

def validDate (object : Object) (key : String) : Bool :=
  match object.lookup key with
  | none => true
  | some value => (contextStamp (some value)).isSome

/-- A range of addresses that the requested one lies in. -/
def validRange (start stop requested : GoString) : Bool :=
  (canonicalContextAddress net start).any fun first =>
    (canonicalContextAddress net stop).any fun last =>
      (canonicalContextAddress net requested).any fun ip =>
        first.bitLen = ip.bitLen ∧ last.bitLen = ip.bitLen ∧ first.le ip ∧ ip.le last

def registries : List String := ["arin", "apnic", "ripe", "lacnic", "afrinic"]

def validRegistry (object : Object) : Bool :=
  match object.lookup "registry" with
  | none => true
  | some registry => contextMember (contextString (some registry)) registries

def registrationStatuses : List String :=
  ["ok", "not_found", "timeout", "unavailable", "rate_limited", "invalid_response"]

def parseRegistration (value : Option JsonValue) (requested : GoString) (fetched : Time) :
    Option JsonValue := do
  let registration ← contextObject value ["status", "source", "fetched_at"]
    ("registry" :: registrationKeys)
  let status := contextString (registration.lookup "status")
  if contextTimed registration "fetched_at" "rdap" fetched &&
      contextMember status registrationStatuses &&
      validRegistry registration &&
      (if status = GoString.ofString "ok" then
        validRange net (contextString (registration.lookup "start_address"))
            (contextString (registration.lookup "end_address")) requested &&
          (textKeys.all fun key => validText registration key) &&
          textTotal registration ≤ 1536 &&
          (["registered_at", "updated_at"].all fun key => validDate registration key)
      else registrationKeys.all fun key => (registration.lookup key).isNone) then
    pure (.object registration)
  else none

def rpkiStatuses : List String :=
  ["ok", "timeout", "unavailable", "rate_limited", "invalid_response"]

def validities : List String := ["valid", "invalid_asn", "invalid_length", "unknown"]

def parseRPKI (value : Option JsonValue) (fetched : Time) : Bool :=
  match contextObject value ["status", "source", "checked_at"] ["validity"] with
  | none => false
  | some rpki =>
      let status := contextString (rpki.lookup "status")
      contextTimed rpki "checked_at" "ripe_rpki" fetched && contextMember status rpkiStatuses &&
        if status = GoString.ofString "ok" then
          (rpki.lookup "validity").isSome &&
            contextMember (contextString (rpki.lookup "validity")) validities
        else (rpki.lookup "validity").isNone

/-- The origins of a section, in increasing order after `previous`. -/
def parseOrigins (fetched : Time) (previous : Nat) : List JsonValue → Option (List JsonValue)
  | [] => some []
  | first :: rest => do
      let origin ← contextObject (some first) ["asn", "rpki"] []
      let (asn, normalized) ← contextNormalizeInteger origin "asn" 4294967295
      if 0 < asn && previous < asn && parseRPKI (origin.lookup "rpki") fetched then
        let others ← parseOrigins fetched asn rest
        pure (.object normalized :: others)
      else none

def routingStatuses : List String :=
  ["ok", "limited", "not_found", "timeout", "unavailable", "rate_limited", "invalid_response"]

def parseRouting (value : Option JsonValue) (requested : GoString) (fetched : Time) :
    Option JsonValue := do
  let routing ← contextObject value ["status", "source", "fetched_at", "origins", "omitted"]
    ["prefix"]
  let status := contextString (routing.lookup "status")
  let origins ← contextArray (routing.lookup "origins")
  let (omitted, normalized) ← contextNormalizeInteger routing "omitted" 60
  if contextTimed routing "fetched_at" "ripe_ris" fetched && contextMember status routingStatuses &&
      origins.length ≤ 4 && contextCountShape status origins.length omitted 4 &&
      (if contextMember status ["ok", "limited"] then
        contextPrefix net (contextString (routing.lookup "prefix")) requested
      else (routing.lookup "prefix").isNone) then
    let origins ← parseOrigins fetched 0 origins
    pure (.object (setMember "origins" (.array origins) normalized))
  else none

/-! ## Documents -/

def rootKeys : List String :=
  ["schema_version", "address", "source", "fetched_at", "expires_at", "reverse_dns",
    "registration", "routing"]

/-- The checks of a decoded document, which leave its numbers normalized. -/
def parseRoot (value : JsonValue) (requested : GoString) : Option (JsonValue × Time × Time) := do
  let root ← contextObject (some value) rootKeys []
  let (version, normalized) ← contextNormalizeInteger root "schema_version" 1
  let fetched ← contextStamp (root.lookup "fetched_at")
  let expires ← contextStamp (root.lookup "expires_at")
  if isText (root.lookup "address") requested && version = 1 &&
      contextMember (contextString (root.lookup "source")) ["upstream", "cache"] then
    let reverse ← parseReverse (root.lookup "reverse_dns") fetched
    let registration ← parseRegistration net (root.lookup "registration") requested fetched
    let routing ← parseRouting net (root.lookup "routing") requested fetched
    pure (.object (setMember "routing" routing (setMember "registration" registration
      (setMember "reverse_dns" reverse normalized))), fetched, expires)
  else none

/-- The record as it is sent. -/
def document (value : IPContext) : GoString := (Json.encode value.toJson ++ ['\n']).map .scalar

/-- `ParseIPContext`; `none` is its one error.  Marshalling the normalized
document and unmarshalling it into a record reads the record from it. -/
def ParseIPContext (data requested : GoString) : Option IPContext := do
  if IPContextMaxResponseBytes < data.byteLength || !validContextAddress net requested then none
  else
    let raw ← (ipContextJSON data 16 16384).toOption
    let (normalized, fetched, expires) ← parseRoot net raw requested
    let out ← IPContext.ofJson normalized
    if expires.nanoseconds = (fetched.add (contextSnapshotTTL out)).nanoseconds &&
        (document out).byteLength ≤ IPContextMaxResponseBytes then
      pure out
    else none

/-- `MarshalIPContext`; `none` is its one error. -/
def MarshalIPContext (value : IPContext) : Option GoString :=
  if [value.registration.handle, value.registration.name, value.registration.type,
      value.registration.organization].all contextText then
    let data := document value
    if IPContextMaxResponseBytes < data.byteLength then none
    else if (ParseIPContext net data value.address).isSome then some data
    else none
  else none

end CheckNetwork.Context
