import CheckNetwork.Compact.Build
import Mathlib.Data.List.Basic

/-!
# Geolocation metadata behind pointers

`IPMetadata` leads to its geolocation and its autonomous system by pointers, so
two copies of one record may share what they lead to.  A heap holds what the
pointers lead to; `cloneIPMetadata` gives a copy cells of its own.
-/

namespace CheckNetwork.Lookup

open Diagnostic Go

inductive GeoIPSource
  | none | upstream | cache
  deriving DecidableEq, Repr

structure GeoDetailSnapshot where
  provider : GoString
  source : GeoIPSource
  fetchedAt : Time
  expiresAt : Time
  city : GoString
  region : GoString
  country : GoString
  countryCode : GoString
  continent : GoString
  continentCode : GoString
  regionCode : GoString
  postal : GoString
  timezone : GoString
  isp : GoString
  networkDomain : GoString
  deriving DecidableEq

/-- The record, with pointers of type `G` and `A` or with what they lead to. -/
structure IPMetadata (G A : Type) where
  geolocation : Option G
  asn : Option A
  source : GeoIPSource
  fetchedAt : Time
  expiresAt : Time
  geoDetails : GeoDetailSnapshot
  deriving DecidableEq

/-- A pointer. -/
abbrev Ref := Nat

/-- Metadata as the code holds it. -/
abbrev Held := IPMetadata Ref Ref

/-- Metadata as a reader of it sees it. -/
abbrev Seen := IPMetadata GeoLocation ASNInfo

def GeoDetailSnapshot.zero : GeoDetailSnapshot :=
  ⟨[], .none, ⟨0, 0⟩, ⟨0, 0⟩, [], [], [], [], [], [], [], [], [], [], []⟩

def IPMetadata.zero {G A : Type} : IPMetadata G A :=
  ⟨none, none, .none, ⟨0, 0⟩, ⟨0, 0⟩, .zero⟩

/-! ## Checks -/

def geoIPMaxStringBytes : Nat := 256

def geoIPMaxBundleBytes : Nat := 1536

def validText (value : GoString) : Bool :=
  value.isValid && value.byteLength ≤ geoIPMaxStringBytes

def GeoDetailSnapshot.texts (snapshot : GeoDetailSnapshot) : List GoString :=
  [snapshot.city, snapshot.region, snapshot.country, snapshot.countryCode, snapshot.continent,
    snapshot.continentCode, snapshot.regionCode, snapshot.postal, snapshot.timezone, snapshot.isp,
    snapshot.networkDomain]

def validGeoDetailText (snapshot : GeoDetailSnapshot) : Bool :=
  let total := (snapshot.texts.map GoString.byteLength).sum
  snapshot.texts.all validText && 0 < total && total ≤ geoIPMaxBundleBytes

/-- A country code is empty or two capital letters. -/
def validCountryCode (code : GoString) : Bool :=
  match code.bytes with
  | [] => true
  | [first, second] => 65 ≤ first && first ≤ 90 && 65 ≤ second && second ≤ 90
  | _ => false

def validIPMetadata (metadata : Seen) : Bool :=
  if metadata.geolocation.isNone && (Compact.canonicalASNInfo metadata.asn).isNone then false
  else
    let values :=
      (metadata.geolocation.toList.flatMap fun geo =>
        [geo.city, geo.region, geo.country, geo.countryCode]) ++
      metadata.asn.toList.map ASNInfo.organization
    (metadata.geolocation.all fun geo =>
      Compact.validCoordinate geo.latitude 90 && Compact.validCoordinate geo.longitude 180 &&
        validCountryCode geo.countryCode) &&
    values.all validText && (values.map GoString.byteLength).sum ≤ geoIPMaxBundleBytes

/-! ## The heap -/

/-- What pointers lead to.  Pointers from `next` on are unused. -/
structure Heap where
  geolocation : Ref → GeoLocation
  asn : Ref → ASNInfo
  next : Ref

namespace Heap

def read (heap : Heap) (metadata : Held) : Seen where
  geolocation := metadata.geolocation.map heap.geolocation
  asn := metadata.asn.map heap.asn
  source := metadata.source
  fetchedAt := metadata.fetchedAt
  expiresAt := metadata.expiresAt
  geoDetails := metadata.geoDetails

def newGeolocation (heap : Heap) (value : GeoLocation) : Heap :=
  { heap with
    geolocation := Function.update heap.geolocation heap.next value, next := heap.next + 1 }

def newASN (heap : Heap) (value : ASNInfo) : Heap :=
  { heap with asn := Function.update heap.asn heap.next value, next := heap.next + 1 }

/-- Write a record into new cells. -/
def write (heap : Heap) (value : Seen) : Heap × Held :=
  let placed := value.geolocation.elim heap heap.newGeolocation
  let finished := value.asn.elim placed placed.newASN
  (finished,
    { geolocation := value.geolocation.map fun _ => heap.next
      asn := value.asn.map fun _ => placed.next
      source := value.source
      fetchedAt := value.fetchedAt
      expiresAt := value.expiresAt
      geoDetails := value.geoDetails })

/-- A copy with cells of its own. -/
def cloneIPMetadata (heap : Heap) (metadata : Held) : Heap × Held :=
  heap.write (heap.read metadata)

end Heap

/-- The pointers of a record. -/
def IPMetadata.refs (metadata : Held) : List Ref :=
  metadata.geolocation.toList ++ metadata.asn.toList

namespace Heap

variable {heap after other : Heap} {metadata : Held}

/-- What was in the heap is there unchanged. -/
structure Extends (heap after : Heap) : Prop where
  next_le : heap.next ≤ after.next
  geolocation_eq : ∀ ref < heap.next, after.geolocation ref = heap.geolocation ref
  asn_eq : ∀ ref < heap.next, after.asn ref = heap.asn ref

namespace Extends

theorem refl (heap : Heap) : heap.Extends heap :=
  ⟨le_rfl, fun _ _ => rfl, fun _ _ => rfl⟩

theorem trans (first : heap.Extends after) (second : after.Extends other) :
    heap.Extends other where
  next_le := first.next_le.trans second.next_le
  geolocation_eq ref old :=
    (second.geolocation_eq ref (old.trans_le first.next_le)).trans (first.geolocation_eq ref old)
  asn_eq ref old := (second.asn_eq ref (old.trans_le first.next_le)).trans (first.asn_eq ref old)

end Extends

theorem read_congr (geolocation_eq : ∀ ref ∈ metadata.refs,
      after.geolocation ref = heap.geolocation ref)
    (asn_eq : ∀ ref ∈ metadata.refs, after.asn ref = heap.asn ref) :
    after.read metadata = heap.read metadata := by
  rcases metadata with ⟨geolocation, asn, source, fetchedAt, expiresAt, geoDetails⟩
  have geolocationSame : geolocation.map after.geolocation = geolocation.map heap.geolocation :=
    Option.map_congr fun ref member =>
      geolocation_eq ref (List.mem_append_left _ (Option.mem_toList.mpr member))
  have asnSame : asn.map after.asn = asn.map heap.asn :=
    Option.map_congr fun ref member =>
      asn_eq ref (List.mem_append_right _ (Option.mem_toList.mpr member))
  simp only [read, geolocationSame, asnSame]

theorem extends_newGeolocation (heap : Heap) (value : GeoLocation) :
    heap.Extends (heap.newGeolocation value) where
  next_le := Nat.le_succ _
  geolocation_eq _ old := Function.update_of_ne old.ne _ _
  asn_eq _ _ := rfl

theorem extends_newASN (heap : Heap) (value : ASNInfo) : heap.Extends (heap.newASN value) where
  next_le := Nat.le_succ _
  geolocation_eq _ _ := rfl
  asn_eq _ old := Function.update_of_ne old.ne _ _

section Write

variable (heap : Heap) (value : Seen)

theorem extends_write : heap.Extends (heap.write value).1 := by
  rcases value with ⟨_ | geolocation, _ | asn, source, fetchedAt, expiresAt, geoDetails⟩
  · exact .refl heap
  · exact extends_newASN heap asn
  · exact extends_newGeolocation heap geolocation
  · exact (extends_newGeolocation heap geolocation).trans (extends_newASN _ asn)

@[simp]
theorem read_write : (heap.write value).1.read (heap.write value).2 = value := by
  rcases value with ⟨_ | geolocation, _ | asn, source, fetchedAt, expiresAt, geoDetails⟩ <;>
    simp [write, read, newGeolocation, newASN]

/-- The cells of a written record are new. -/
theorem refs_write {ref : Ref} (member : ref ∈ (heap.write value).2.refs) :
    heap.next ≤ ref ∧ ref < (heap.write value).1.next := by
  rcases value with ⟨_ | geolocation, _ | asn, source, fetchedAt, expiresAt, geoDetails⟩
  · exact absurd member List.not_mem_nil
  · rcases List.mem_singleton.mp member with rfl
    exact ⟨le_rfl, Nat.lt_succ_self _⟩
  · rcases List.mem_singleton.mp member with rfl
    exact ⟨le_rfl, Nat.lt_succ_self _⟩
  · rcases List.mem_pair.mp member with rfl | rfl
    · exact ⟨le_rfl, (Nat.lt_succ_self _).trans (Nat.lt_succ_self _)⟩
    · exact ⟨Nat.le_succ _, Nat.lt_succ_self _⟩

end Write
end Heap

/-! ## Labels -/

namespace IPMetadata

variable {G A : Type}

def labelled (source : GeoIPSource) (metadata : IPMetadata G A) : IPMetadata G A :=
  { metadata with source := source }

/-- Metadata as it is served from the cache. -/
def fromCache (metadata : IPMetadata G A) : IPMetadata G A :=
  { metadata.labelled .cache with
    geoDetails :=
      if metadata.geoDetails.provider ≠ [] then { metadata.geoDetails with source := .cache }
      else metadata.geoDetails }

/-- Fetched metadata with the time of its arrival. -/
def stamped (ttl : Int) (now : Time) (metadata : IPMetadata G A) : IPMetadata G A :=
  { metadata with source := .upstream, fetchedAt := now, expiresAt := now.add ttl }

/-- The details of a known provider get the time of their arrival, too. -/
def detailed (ttl : Int) (now : Time) (metadata : IPMetadata G A) : IPMetadata G A :=
  if metadata.geoDetails.provider = GoString.ofString "ipwho.is" ∧
      validGeoDetailText metadata.geoDetails then
    { metadata with
      geoDetails := { metadata.geoDetails with
        source := .upstream, fetchedAt := now, expiresAt := now.add ttl } }
  else metadata

variable (heap : Heap) (metadata : Held)

@[simp]
theorem read_labelled (source : GeoIPSource) :
    heap.read (metadata.labelled source) = (heap.read metadata).labelled source := rfl

@[simp]
theorem read_fromCache : heap.read metadata.fromCache = (heap.read metadata).fromCache := rfl

@[simp]
theorem read_stamped (ttl : Int) (now : Time) :
    heap.read (metadata.stamped ttl now) = (heap.read metadata).stamped ttl now := rfl

@[simp]
theorem read_detailed (ttl : Int) (now : Time) :
    heap.read (metadata.detailed ttl now) = (heap.read metadata).detailed ttl now := by
  unfold detailed
  split <;> rename_i known
  · rw [if_pos (by exact known)]
    rfl
  · rw [if_neg (by exact known)]

@[simp]
theorem refs_labelled (source : GeoIPSource) : (metadata.labelled source).refs = metadata.refs := rfl

@[simp]
theorem refs_fromCache : metadata.fromCache.refs = metadata.refs := rfl

@[simp]
theorem refs_stamped (ttl : Int) (now : Time) : (metadata.stamped ttl now).refs = metadata.refs :=
  rfl

@[simp]
theorem refs_detailed (ttl : Int) (now : Time) :
    (metadata.detailed ttl now).refs = metadata.refs := by
  unfold detailed
  split <;> rfl

@[simp]
theorem refs_zero : (zero : Held).refs = [] := rfl

end IPMetadata
end CheckNetwork.Lookup
