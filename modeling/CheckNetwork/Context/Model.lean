import CheckNetwork.Go.JsonSize
import CheckNetwork.Go.JsonStruct
import CheckNetwork.Go.Netip
import CheckNetwork.Go.Stamp

/-!
# What is known about an address

The record that joins reverse names, registration and routing of an address, its
JSON form, and how long it stays valid.
-/

namespace CheckNetwork.Context

open Go

structure IPContextName where
  name : GoString
  forwardStatus : GoString
  deriving DecidableEq

/-- `names` is `none` for the nil slice. -/
structure IPContextReverse where
  status : GoString
  source : GoString
  fetchedAt : GoString
  names : Option (List IPContextName)
  omitted : Int
  deriving DecidableEq

structure IPContextRegistration where
  status : GoString
  source : GoString
  fetchedAt : GoString
  registry : GoString
  startAddress : GoString
  endAddress : GoString
  handle : GoString
  name : GoString
  type : GoString
  country : GoString
  organization : GoString
  registeredAt : GoString
  updatedAt : GoString
  deriving DecidableEq

structure IPContextRPKI where
  status : GoString
  source : GoString
  checkedAt : GoString
  validity : GoString
  deriving DecidableEq

structure IPContextOrigin where
  asn : UInt32
  rpki : IPContextRPKI
  deriving DecidableEq

/-- `origins` is `none` for the nil slice. -/
structure IPContextRouting where
  status : GoString
  source : GoString
  fetchedAt : GoString
  routePrefix : GoString
  origins : Option (List IPContextOrigin)
  omitted : Int
  deriving DecidableEq

structure IPContext where
  schemaVersion : Int
  address : GoString
  source : GoString
  fetchedAt : GoString
  expiresAt : GoString
  reverseDNS : IPContextReverse
  registration : IPContextRegistration
  routing : IPContextRouting
  deriving DecidableEq

/-! ## Zero values -/

def IPContextName.zero : IPContextName := ⟨[], []⟩

def IPContextReverse.zero : IPContextReverse := ⟨[], [], [], none, 0⟩

def IPContextRegistration.zero : IPContextRegistration :=
  ⟨[], [], [], [], [], [], [], [], [], [], [], [], []⟩

def IPContextRPKI.zero : IPContextRPKI := ⟨[], [], [], []⟩

def IPContextOrigin.zero : IPContextOrigin := ⟨0, .zero⟩

def IPContextRouting.zero : IPContextRouting := ⟨[], [], [], [], none, 0⟩

def IPContext.zero : IPContext := ⟨0, [], [], [], [], .zero, .zero, .zero⟩

/-! ## JSON -/

namespace IPContextName

def fields (name : IPContextName) : List (String × Option JsonValue) :=
  [("name", some (.string name.name)), ("forward_status", some (.string name.forwardStatus))]

def toJson (name : IPContextName) : JsonValue := .object (Json.members name.fields)

def ofJson : JsonValue → Option IPContextName
  | .object object => do
      let name ← Json.readField object "name" [] Json.readText
      let forwardStatus ← Json.readField object "forward_status" [] Json.readText
      pure ⟨name, forwardStatus⟩
  | _ => none

end IPContextName

namespace IPContextReverse

def fields (reverse : IPContextReverse) : List (String × Option JsonValue) :=
  [("status", some (.string reverse.status)), ("source", some (.string reverse.source)),
    ("fetched_at", some (.string reverse.fetchedAt)),
    ("names", some (reverse.names.elim .null fun names =>
      .array (names.map IPContextName.toJson))),
    ("omitted", some (.number (.ofInt reverse.omitted)))]

def toJson (reverse : IPContextReverse) : JsonValue := .object (Json.members reverse.fields)

def ofJson : JsonValue → Option IPContextReverse
  | .object object => do
      let status ← Json.readField object "status" [] Json.readText
      let source ← Json.readField object "source" [] Json.readText
      let fetchedAt ← Json.readField object "fetched_at" [] Json.readText
      let names ← Json.readField object "names" none (Json.readSlice .zero IPContextName.ofJson)
      let omitted ← Json.readField object "omitted" 0 Json.readInt
      pure ⟨status, source, fetchedAt, names, omitted⟩
  | _ => none

end IPContextReverse

namespace IPContextRegistration

def fields (registration : IPContextRegistration) : List (String × Option JsonValue) :=
  [("status", some (.string registration.status)), ("source", some (.string registration.source)),
    ("fetched_at", some (.string registration.fetchedAt)),
    ("registry", Json.omitempty registration.registry),
    ("start_address", Json.omitempty registration.startAddress),
    ("end_address", Json.omitempty registration.endAddress),
    ("handle", Json.omitempty registration.handle), ("name", Json.omitempty registration.name),
    ("type", Json.omitempty registration.type), ("country", Json.omitempty registration.country),
    ("organization", Json.omitempty registration.organization),
    ("registered_at", Json.omitempty registration.registeredAt),
    ("updated_at", Json.omitempty registration.updatedAt)]

def toJson (registration : IPContextRegistration) : JsonValue :=
  .object (Json.members registration.fields)

def ofJson : JsonValue → Option IPContextRegistration
  | .object object => do
      let status ← Json.readField object "status" [] Json.readText
      let source ← Json.readField object "source" [] Json.readText
      let fetchedAt ← Json.readField object "fetched_at" [] Json.readText
      let registry ← Json.readField object "registry" [] Json.readText
      let startAddress ← Json.readField object "start_address" [] Json.readText
      let endAddress ← Json.readField object "end_address" [] Json.readText
      let handle ← Json.readField object "handle" [] Json.readText
      let name ← Json.readField object "name" [] Json.readText
      let type ← Json.readField object "type" [] Json.readText
      let country ← Json.readField object "country" [] Json.readText
      let organization ← Json.readField object "organization" [] Json.readText
      let registeredAt ← Json.readField object "registered_at" [] Json.readText
      let updatedAt ← Json.readField object "updated_at" [] Json.readText
      pure ⟨status, source, fetchedAt, registry, startAddress, endAddress, handle, name, type,
        country, organization, registeredAt, updatedAt⟩
  | _ => none

end IPContextRegistration

namespace IPContextRPKI

def fields (rpki : IPContextRPKI) : List (String × Option JsonValue) :=
  [("status", some (.string rpki.status)), ("source", some (.string rpki.source)),
    ("checked_at", some (.string rpki.checkedAt)), ("validity", Json.omitempty rpki.validity)]

def toJson (rpki : IPContextRPKI) : JsonValue := .object (Json.members rpki.fields)

def ofJson : JsonValue → Option IPContextRPKI
  | .object object => do
      let status ← Json.readField object "status" [] Json.readText
      let source ← Json.readField object "source" [] Json.readText
      let checkedAt ← Json.readField object "checked_at" [] Json.readText
      let validity ← Json.readField object "validity" [] Json.readText
      pure ⟨status, source, checkedAt, validity⟩
  | _ => none

end IPContextRPKI

namespace IPContextOrigin

def fields (origin : IPContextOrigin) : List (String × Option JsonValue) :=
  [("asn", some (.number (.ofNat origin.asn.toNat))), ("rpki", some origin.rpki.toJson)]

def toJson (origin : IPContextOrigin) : JsonValue := .object (Json.members origin.fields)

def ofJson : JsonValue → Option IPContextOrigin
  | .object object => do
      let asn ← Json.readField object "asn" 0 Json.readUInt32
      let rpki ← Json.readField object "rpki" .zero IPContextRPKI.ofJson
      pure ⟨asn, rpki⟩
  | _ => none

end IPContextOrigin

namespace IPContextRouting

def fields (routing : IPContextRouting) : List (String × Option JsonValue) :=
  [("status", some (.string routing.status)), ("source", some (.string routing.source)),
    ("fetched_at", some (.string routing.fetchedAt)),
    ("prefix", Json.omitempty routing.routePrefix),
    ("origins", some (routing.origins.elim .null fun origins =>
      .array (origins.map IPContextOrigin.toJson))),
    ("omitted", some (.number (.ofInt routing.omitted)))]

def toJson (routing : IPContextRouting) : JsonValue := .object (Json.members routing.fields)

def ofJson : JsonValue → Option IPContextRouting
  | .object object => do
      let status ← Json.readField object "status" [] Json.readText
      let source ← Json.readField object "source" [] Json.readText
      let fetchedAt ← Json.readField object "fetched_at" [] Json.readText
      let routePrefix ← Json.readField object "prefix" [] Json.readText
      let origins ← Json.readField object "origins" none
        (Json.readSlice .zero IPContextOrigin.ofJson)
      let omitted ← Json.readField object "omitted" 0 Json.readInt
      pure ⟨status, source, fetchedAt, routePrefix, origins, omitted⟩
  | _ => none

end IPContextRouting

namespace IPContext

def fields (value : IPContext) : List (String × Option JsonValue) :=
  [("schema_version", some (.number (.ofInt value.schemaVersion))),
    ("address", some (.string value.address)), ("source", some (.string value.source)),
    ("fetched_at", some (.string value.fetchedAt)), ("expires_at", some (.string value.expiresAt)),
    ("reverse_dns", some value.reverseDNS.toJson),
    ("registration", some value.registration.toJson), ("routing", some value.routing.toJson)]

def toJson (value : IPContext) : JsonValue := .object (Json.members value.fields)

def ofJson : JsonValue → Option IPContext
  | .object object => do
      let schemaVersion ← Json.readField object "schema_version" 0 Json.readInt
      let address ← Json.readField object "address" [] Json.readText
      let source ← Json.readField object "source" [] Json.readText
      let fetchedAt ← Json.readField object "fetched_at" [] Json.readText
      let expiresAt ← Json.readField object "expires_at" [] Json.readText
      let reverseDNS ← Json.readField object "reverse_dns" .zero IPContextReverse.ofJson
      let registration ← Json.readField object "registration" .zero IPContextRegistration.ofJson
      let routing ← Json.readField object "routing" .zero IPContextRouting.ofJson
      pure ⟨schemaVersion, address, source, fetchedAt, expiresAt, reverseDNS, registration, routing⟩
  | _ => none

end IPContext

/-! ## Validity -/

/-- `contextMember`. -/
def contextMember (text : GoString) (values : List String) : Bool :=
  values.any fun value => text = GoString.ofString value

def minute : Int := 60000000000

def stable (value : IPContext) : Bool :=
  contextMember value.reverseDNS.status ["ok", "limited", "not_found"] &&
  contextMember value.registration.status ["ok", "not_found"] &&
  contextMember value.routing.status ["ok", "limited", "not_found"] &&
  ((value.reverseDNS.names.getD []).all fun name =>
    contextMember name.forwardStatus ["confirmed", "mismatch", "not_found", "limited"]) &&
  (value.routing.origins.getD []).all fun origin => origin.rpki.status = GoString.ofString "ok"

/-- How long a record is valid. -/
def contextSnapshotTTL (value : IPContext) : Int :=
  if stable value then 5 * minute else minute / 2

end CheckNetwork.Context
