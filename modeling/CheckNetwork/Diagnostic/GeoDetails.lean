import CheckNetwork.Diagnostic.Model
import CheckNetwork.Go.JsonSize
import CheckNetwork.Go.JsonStruct
import CheckNetwork.Go.Stamp
import CheckNetwork.Network.Public
import Mathlib.Data.List.Lex
import Mathlib.Data.List.Sort

/-!
# Geo details

The details of a report are the texts of one provider for the public hops of its eligible
attempts, each address with the first snapshot that is valid.
-/

namespace CheckNetwork.Diagnostic

open Go Network

/-! ## Snapshots -/

inductive GeoIPSource
  | upstream | cache
  | other (name : String)
  deriving DecidableEq

def GeoIPSource.text : GeoIPSource → String
  | upstream => "upstream"
  | cache => "cache"
  | other name => name

/-- The texts that a snapshot and an entry have in common. -/
structure GeoDetailTexts where
  city : GoString := []
  region : GoString := []
  country : GoString := []
  countryCode : GoString := []
  continent : GoString := []
  continentCode : GoString := []
  regionCode : GoString := []
  postal : GoString := []
  timezone : GoString := []
  isp : GoString := []
  networkDomain : GoString := []
  deriving DecidableEq

namespace GeoDetailTexts

/-- The texts under the names that they have in JSON. -/
def named (texts : GeoDetailTexts) : List (String × GoString) :=
  [("city", texts.city), ("region", texts.region), ("country", texts.country),
    ("country_code", texts.countryCode), ("continent", texts.continent),
    ("continent_code", texts.continentCode), ("region_code", texts.regionCode),
    ("postal", texts.postal), ("timezone", texts.timezone), ("isp", texts.isp),
    ("network_domain", texts.networkDomain)]

def values (texts : GeoDetailTexts) : List GoString := texts.named.map Prod.snd

end GeoDetailTexts

structure GeoDetailSnapshot extends GeoDetailTexts where
  provider : GoString := []
  source : GeoIPSource := .other ""
  fetchedAt : Time := ⟨0, 0⟩
  expiresAt : Time := ⟨0, 0⟩
  deriving DecidableEq

def geoIPMaxStringBytes : Nat := 256

def geoIPMaxBundleBytes : Nat := 1536

def validGeoDetailText (texts : GeoDetailTexts) : Bool :=
  let total := (texts.values.map GoString.byteLength).sum
  texts.values.all (fun value => value.isValid && value.byteLength ≤ geoIPMaxStringBytes) &&
    0 < total && total ≤ geoIPMaxBundleBytes

/-! ## Entries -/

def geoDetailsMaxEntries : Nat := 500

def geoDetailsMaxTotal : Nat := 6200

def geoDetailsMaxBytes : Nat := 131072

/-- A timestamp is empty when the snapshot has none. -/
structure GeoDetailsEntry extends GeoDetailTexts where
  address : GoString
  provider : GoString
  source : GeoIPSource
  fetchedAt : GoString := []
  expiresAt : GoString := []
  deriving DecidableEq

structure GeoDetailsSidecar where
  schemaVersion : Nat
  total : Nat
  omitted : Nat := 0
  entries : List GeoDetailsEntry
  deriving DecidableEq

def provider : GoString := .ofString "ipwho.is"

/-- The times of a snapshot as an entry has them, unless they are not consistent. -/
def entryTimes (snapshot : GeoDetailSnapshot) : Option (GoString × GoString) :=
  let fetched := snapshot.fetchedAt
  let expires := snapshot.expiresAt
  if !fetched.isZero || !expires.isZero then
    if fetched.isZero || expires.isZero || expires.before fetched || fetched.utc.year < 1 ||
        9999 < expires.utc.year then none
    else some (Stamp.spelled (Stamp.format fetched.utc), Stamp.spelled (Stamp.format expires.utc))
  else some ([], [])

/-- The entry of a valid snapshot. -/
def entryOf (address : GoString) (snapshot : GeoDetailSnapshot) : Option GeoDetailsEntry :=
  if snapshot.provider ≠ provider ||
      !(snapshot.source = .upstream || snapshot.source = .cache) ||
      !validGeoDetailText snapshot.toGeoDetailTexts then none
  else (entryTimes snapshot).map fun times =>
    { toGeoDetailTexts := snapshot.toGeoDetailTexts, address, provider := snapshot.provider,
      source := snapshot.source, fetchedAt := times.1, expiresAt := times.2 }

/-! ## Observations -/

/-- `ip.Unmap()`. -/
def unmap (addr : Addr) : Addr :=
  if mapped : addr.is4In6 = true then
    { bytes := addr.bytes.drop 12
      zone := []
      sized := .inl (by
        have sixteen : addr.bytes.length = 16 := (of_decide_eq_true mapped).1
        rw [List.length_drop, sixteen]) }
  else addr

section Build

variable (parseAddr : GoString → Option Addr)

/-- The address of a public hop that answered. -/
def hopAddress (node : TopologyNode) : Option GoString :=
  if node.hop ≤ 0 || !(node.status = .healthy || node.status = .degraded) then none
  else (parseAddr node.address).bind fun addr =>
    if addr.zone ≠ [] then none
    else if !isPublicDiagnosticIP (unmap addr).bytes then none
    else some (unmap addr).string

/-- A node and its `GeoDetails`, which JSON leaves out. -/
abbrev Observation := TopologyNode × GeoDetailSnapshot

def attemptObservations (snapshot : Nat → GeoDetailSnapshot) (attempt : TraceAttempt) :
    List Observation :=
  if !traceAttemptEligible attempt then []
  else match attempt.topology with
    | none => []
    | some topology => topology.nodes.zipIdx.map fun (node, index) => (node, snapshot index)

/-- The nodes of the eligible attempts, in their order.  `snapshots` are the `GeoDetails` of the
nodes of the results, by result, attempt and node. -/
def observations (snapshots : Nat → Nat → Nat → GeoDetailSnapshot) (results : List Result) :
    List Observation :=
  results.zipIdx.flatMap fun (result, index) =>
    if result.kind ≠ .traceroute then []
    else match result.detail? "attempts" with
      | some (.attempts attempts) =>
        attempts.zipIdx.flatMap fun (attempt, number) =>
          attemptObservations (snapshots index number) attempt
      | _ => []

/-- One hop; `none` is the end of the walk when there are too many addresses. -/
def visit (byAddress : List GeoDetailsEntry) (observation : Observation) :
    Option (List GeoDetailsEntry) :=
  match hopAddress parseAddr observation.1 with
  | none => some byAddress
  | some address =>
    if byAddress.any (·.address = address) then some byAddress
    else match entryOf address observation.2 with
      | none => some byAddress
      | some entry =>
        if geoDetailsMaxTotal < byAddress.length + 1 then none
        else some (byAddress ++ [entry])

/-- Strings are ordered by their bytes. -/
def GeoDetailsEntry.key (entry : GeoDetailsEntry) : List Nat :=
  entry.address.bytes.map UInt8.toNat

def buildGeoDetails (snapshots : Nat → Nat → Nat → GeoDetailSnapshot) (results : List Result) :
    Option GeoDetailsSidecar :=
  ((observations snapshots results).foldlM (visit parseAddr) []).map fun byAddress =>
    { schemaVersion := 1
      total := byAddress.length
      entries := byAddress.insertionSort fun first second => first.key ≤ second.key }

end Build

/-! ## The addresses -/

/-- What is walked are the nodes of the eligible attempts of the traced routes. -/
theorem mem_observations {snapshots : Nat → Nat → Nat → GeoDetailSnapshot} {results : List Result}
    {observation : Observation} (member : observation ∈ observations snapshots results) :
    ∃ result ∈ results, result.kind = .traceroute ∧ ∃ attempts,
      result.detail? "attempts" = some (.attempts attempts) ∧ ∃ attempt ∈ attempts,
        traceAttemptEligible attempt = true ∧ ∃ topology, attempt.topology = some topology ∧
          observation.1 ∈ topology.nodes := by
  obtain ⟨⟨result, index⟩, inResults, member⟩ := List.mem_flatMap.mp member
  have inResults := (List.mem_zipIdx' inResults).2
  dsimp only at member inResults
  split at member
  · cases member
  · rename_i traced
    refine ⟨result, inResults ▸ List.getElem_mem _, not_not.mp traced, ?_⟩
    split at member
    · rename_i attempts detail
      obtain ⟨⟨attempt, number⟩, inAttempts, member⟩ := List.mem_flatMap.mp member
      have inAttempts := (List.mem_zipIdx' inAttempts).2
      dsimp only at member inAttempts
      refine ⟨attempts, detail, attempt, inAttempts ▸ List.getElem_mem _, ?_⟩
      rw [attemptObservations] at member
      split at member
      · cases member
      · rename_i eligible
        refine ⟨by simpa using eligible, ?_⟩
        split at member
        · cases member
        · rename_i topology has
          obtain ⟨⟨node, place⟩, inNodes, rfl⟩ := List.mem_map.mp member
          have inNodes := (List.mem_zipIdx' inNodes).2
          exact ⟨topology, has, inNodes ▸ List.getElem_mem _⟩
    · cases member

section Addresses

variable {parseAddr : GoString → Option Addr} {address : GoString} {chars others : List Char}

/-- The canonical text of a public address, which is no mapped one. -/
inductive PublicText : List Char → Prop
  | decimal {ip : IP} (four : ip.length = 4) (isPublic : isPublicDiagnosticIP ip = true) :
      PublicText (IP.decimalText ip)
  | groups {ip : IP} (sixteen : ip.length = 16) (unmapped : ip.to4 = none)
      (isPublic : isPublicDiagnosticIP ip = true) : PublicText (IP.v6Text ip)

theorem PublicText.all_isAddrChar (written : PublicText chars) : chars.all isAddrChar = true := by
  cases written with
  | decimal => exact IP.all_decimalText _
  | groups => exact IP.all_v6Text _

theorem publicText_text {addr : Addr} (unmapped : addr.is4In6 = false)
    (isPublic : isPublicDiagnosticIP addr.bytes = true) : PublicText addr.text := by
  rw [Addr.text]
  by_cases four : addr.bytes.length = 4
  · have short : addr.is4 = true := decide_eq_true four
    rw [if_pos short]
    exact .decimal four isPublic
  · have sixteen := addr.sized.resolve_left four
    have other : addr.is4 = false := decide_eq_false four
    rw [other, unmapped, if_neg Bool.false_ne_true, if_neg Bool.false_ne_true]
    refine .groups sixteen ?_ isPublic
    rw [IP.to4, if_neg four, if_neg (of_decide_eq_false unmapped)]

theorem is4In6_unmap (addr : Addr) : (unmap addr).is4In6 = false := by
  unfold unmap
  split
  · rename_i mapped
    have sixteen : addr.bytes.length = 16 := (of_decide_eq_true mapped).1
    refine decide_eq_false fun both => ?_
    have wide := both.1
    rw [List.length_drop, sixteen] at wide
    cases wide
  · rename_i other
    exact Bool.eq_false_iff.mpr other

theorem zone_unmap {addr : Addr} (none : addr.zone = []) : (unmap addr).zone = [] := by
  unfold unmap
  split
  · rfl
  · exact none

/-- The address of a hop is public, the hop has a number, and it answered. -/
theorem hopAddress_spec {node : TopologyNode} (hop : hopAddress parseAddr node = some address) :
    0 < node.hop ∧ (node.status = .healthy ∨ node.status = .degraded) ∧
      ∃ chars, address = chars.map .scalar ∧ PublicText chars := by
  rw [hopAddress] at hop
  obtain ⟨eligible, hop⟩ := Option.ite_none_left_eq_some.mp hop
  obtain ⟨addr, _, hop⟩ := Option.bind_eq_some_iff.mp hop
  obtain ⟨plain, hop⟩ := Option.ite_none_left_eq_some.mp hop
  obtain ⟨isPublic, hop⟩ := Option.ite_none_left_eq_some.mp hop
  simp only [Bool.or_eq_true, not_or, decide_eq_true_eq, not_le, Bool.not_eq_true',
    Bool.not_eq_false] at eligible
  refine ⟨eligible.1, eligible.2, (unmap addr).text, ?_,
    publicText_text (is4In6_unmap addr) (by simpa using isPublic)⟩
  rw [← Option.some.inj hop]
  exact Addr.string_of_zone (zone_unmap (not_not.mp plain))

theorem toNat_lt_of_isAddrChar {char : Char} (known : isAddrChar char = true) :
    char.toNat < 128 := by
  have upTo : ∀ last : Char, last.toNat < 128 → char ≤ last → char.toNat < 128 := by
    intro last small upper
    have upper : char.toNat ≤ last.toNat := upper
    omega
  rcases of_decide_eq_true known with digit | letter | rfl | rfl | rfl
  · rw [Char.isDigit, Bool.and_eq_true, decide_eq_true_iff, decide_eq_true_iff] at digit
    exact upTo '9' (by decide) digit.2
  · exact upTo 'f' (by decide) letter.2
  all_goals decide

theorem bytes_of_isAddrChar {char : Char} (known : isAddrChar char = true) :
    (String.utf8EncodeChar char).map UInt8.toNat = [char.toNat] := by
  have small := toNat_lt_of_isAddrChar known
  have same : char.val.toNat = char.toNat := rfl
  rw [String.utf8EncodeChar, if_pos (by omega), List.map_singleton]
  simp
  omega

theorem bytes_of_chars (all : chars.all isAddrChar = true) :
    (GoString.bytes (chars.map .scalar)).map UInt8.toNat = chars.map Char.toNat := by
  induction chars with
  | nil => rfl
  | cons first rest ih =>
      rw [List.all_cons, Bool.and_eq_true] at all
      rw [GoString.bytes] at ih ⊢
      rw [List.map_cons, List.flatMap_cons, List.map_append, ih all.2, Rune.bytes,
        bytes_of_isAddrChar all.1]
      rfl

theorem map_toNat_inj (same : chars.map Char.toNat = others.map Char.toNat) : chars = others :=
  List.map_injective_iff.mpr (fun _ _ => Char.toNat_inj.mp) same

end Addresses

/-! ## First snapshots -/

section Collected

variable {parseAddr : GoString → Option Addr} {address : GoString} {entry : GeoDetailsEntry}
  {seen rest : List Observation} {byAddress final : List GeoDetailsEntry}

/-- The entry that an observation has for an address. -/
def candidate (parseAddr : GoString → Option Addr) (address : GoString)
    (observation : Observation) : Option GeoDetailsEntry :=
  if hopAddress parseAddr observation.1 = some address then entryOf address observation.2 else none

theorem address_entryOf {snapshot : GeoDetailSnapshot} (made : entryOf address snapshot = some entry) :
    entry.address = address := by
  rw [entryOf] at made
  obtain ⟨_, made⟩ := Option.ite_none_left_eq_some.mp made
  obtain ⟨_, _, rfl⟩ := Option.map_eq_some_iff.mp made
  rfl

theorem address_candidate {observation : Observation}
    (found : candidate parseAddr address observation = some entry) : entry.address = address := by
  obtain ⟨_, found⟩ := Option.ite_none_right_eq_some.mp found
  exact address_entryOf found

/-- Every address has the first entry that was seen for it. -/
structure Collected (parseAddr : GoString → Option Addr) (seen : List Observation)
    (byAddress : List GeoDetailsEntry) : Prop where
  mem_iff : ∀ entry, entry ∈ byAddress ↔
    seen.findSome? (candidate parseAddr entry.address) = some entry
  nodup : (byAddress.map GeoDetailsEntry.address).Nodup
  length_le : byAddress.length ≤ geoDetailsMaxTotal

namespace Collected

theorem nil : Collected parseAddr [] [] :=
  ⟨fun entry => by simp, List.nodup_nil, Nat.zero_le _⟩

/-- An observation that has nothing new. -/
theorem skip (collected : Collected parseAddr seen byAddress) {observation : Observation}
    (old : ∀ address, seen.findSome? (candidate parseAddr address) = none →
      candidate parseAddr address observation = none) :
    Collected parseAddr (seen ++ [observation]) byAddress where
  mem_iff entry := by
    rw [collected.mem_iff, List.findSome?_append]
    cases found : seen.findSome? (candidate parseAddr entry.address) with
    | some first => simp
    | none => simp [old _ found]
  nodup := collected.nodup
  length_le := collected.length_le

theorem exists_address (collected : Collected parseAddr seen byAddress) :
    byAddress.any (·.address = address) = true ↔
      seen.findSome? (candidate parseAddr address) ≠ none := by
  constructor
  · intro known
    obtain ⟨entry, member, same⟩ := List.any_eq_true.mp known
    rw [decide_eq_true_iff] at same
    have first := (collected.mem_iff entry).mp member
    rw [same] at first
    rw [first]
    exact Option.some_ne_none _
  · intro known
    obtain ⟨entry, first⟩ := Option.ne_none_iff_exists'.mp known
    obtain ⟨_, _, _, _, found, _⟩ := List.findSome?_eq_some_iff.mp first
    have same := address_candidate found
    refine List.any_eq_true.mpr ⟨entry, (collected.mem_iff entry).mpr ?_, decide_eq_true same⟩
    rw [same]
    exact first

theorem visit (collected : Collected parseAddr seen byAddress) {observation : Observation}
    (step : visit parseAddr byAddress observation = some final) :
    Collected parseAddr (seen ++ [observation]) final := by
  rw [Diagnostic.visit] at step
  cases hop : hopAddress parseAddr observation.1 with
  | none =>
      rw [hop] at step
      cases step
      exact collected.skip fun address _ => if_neg (by rw [hop]; exact (Option.some_ne_none _).symm)
  | some address =>
      have others : ∀ other, other ≠ address →
          candidate parseAddr other observation = none := by
        intro other distinct
        refine if_neg ?_
        rw [hop, Option.some.injEq]
        exact Ne.symm distinct
      have own : candidate parseAddr address observation = entryOf address observation.2 :=
        if_pos hop
      simp only [hop] at step
      by_cases known : byAddress.any (·.address = address) = true
      · rw [if_pos known] at step
        cases step
        refine collected.skip fun other absent => others other ?_
        rintro rfl
        exact collected.exists_address.mp known absent
      · rw [if_neg known] at step
        have absent : seen.findSome? (candidate parseAddr address) = none := by
          by_contra present
          exact known (collected.exists_address.mpr present)
        cases made : entryOf address observation.2 with
        | none =>
            simp only [made] at step
            cases step
            refine collected.skip fun other _ => ?_
            by_cases same : other = address
            · rw [same, own, made]
            · exact others other same
        | some entry =>
            simp only [made] at step
            obtain ⟨room, step⟩ := Option.ite_none_left_eq_some.mp step
            cases step
            have entry_address := address_entryOf made
            refine ⟨fun other => ?_, ?_, ?_⟩
            · rw [List.mem_append, List.mem_singleton, collected.mem_iff, List.findSome?_append,
                List.findSome?_singleton]
              by_cases same : other.address = address
              · rw [same, absent, own, made, Option.none_or]
                simp [eq_comm]
              · rw [others _ same, Option.or_none]
                refine or_iff_left ?_
                rintro rfl
                exact same entry_address
            · rw [List.map_append, List.nodup_append]
              refine ⟨collected.nodup, List.nodup_singleton _, ?_⟩
              intro first member second last
              rw [List.map_singleton, List.mem_singleton] at last
              subst last
              rintro rfl
              obtain ⟨old, member, same⟩ := List.mem_map.mp member
              exact known (List.any_eq_true.mpr ⟨old, member,
                decide_eq_true (same.trans entry_address)⟩)
            · rw [List.length_append, List.length_singleton]
              omega

theorem foldlM (collected : Collected parseAddr seen byAddress)
    (run : rest.foldlM (Diagnostic.visit parseAddr) byAddress = some final) :
    Collected parseAddr (seen ++ rest) final := by
  induction rest generalizing seen byAddress with
  | nil =>
      cases run
      rwa [List.append_nil]
  | cons observation rest ih =>
      rw [List.foldlM_cons] at run
      obtain ⟨next, step, run⟩ := Option.bind_eq_some_iff.mp run
      rw [List.append_cons]
      exact ih (collected.visit step) run

end Collected

/-- What is built: the first entry of every address, in the order of the addresses. -/
structure Built (parseAddr : GoString → Option Addr) (seen : List Observation)
    (sidecar : GeoDetailsSidecar) : Prop where
  version : sidecar.schemaVersion = 1
  total : sidecar.total = sidecar.entries.length
  total_le : sidecar.total ≤ geoDetailsMaxTotal
  omitted : sidecar.omitted = 0
  sorted : sidecar.entries.Pairwise fun first second => first.key < second.key
  mem_iff : ∀ entry, entry ∈ sidecar.entries ↔
    seen.findSome? (candidate parseAddr entry.address) = some entry

/-- What the sidecar holds for an address: a snapshot of a public hop. -/
theorem exists_observation (found : seen.findSome? (candidate parseAddr address) = some entry) :
    ∃ observation ∈ seen, hopAddress parseAddr observation.1 = some entry.address ∧
      entryOf entry.address observation.2 = some entry := by
  obtain ⟨before, observation, after, rfl, found, _⟩ := List.findSome?_eq_some_iff.mp found
  have same := address_candidate found
  obtain ⟨hop, made⟩ := Option.ite_none_right_eq_some.mp found
  rw [← same] at hop made
  exact ⟨observation, List.mem_append_right _ (List.mem_cons_self ..), hop, made⟩

/-- Keys tell the entries of one collection apart. -/
theorem Collected.key_inj (collected : Collected parseAddr seen byAddress)
    {first second : GeoDetailsEntry} (inFirst : first ∈ byAddress) (inSecond : second ∈ byAddress)
    (same : first.key = second.key) : first = second := by
  have written : ∀ entry ∈ byAddress, ∃ chars, entry.address = chars.map .scalar ∧
      PublicText chars := by
    intro entry member
    obtain ⟨_, _, hop, _⟩ := exists_observation ((collected.mem_iff entry).mp member)
    exact (hopAddress_spec hop).2.2
  obtain ⟨chars, first_eq, isPublic⟩ := written first inFirst
  obtain ⟨others, second_eq, isPublic'⟩ := written second inSecond
  rw [GeoDetailsEntry.key, GeoDetailsEntry.key, first_eq, second_eq,
    bytes_of_chars isPublic.all_isAddrChar, bytes_of_chars isPublic'.all_isAddrChar] at same
  have addresses : first.address = second.address := by
    rw [first_eq, second_eq, map_toNat_inj same]
  have one := (collected.mem_iff first).mp inFirst
  have two := (collected.mem_iff second).mp inSecond
  rw [addresses, two] at one
  exact (Option.some.inj one).symm

instance : Std.Total fun first second : GeoDetailsEntry => first.key ≤ second.key :=
  ⟨fun first second => le_total first.key second.key⟩

instance : IsTrans GeoDetailsEntry fun first second => first.key ≤ second.key :=
  ⟨fun _ _ _ => le_trans⟩

theorem built {snapshots : Nat → Nat → Nat → GeoDetailSnapshot} {results : List Result}
    {sidecar : GeoDetailsSidecar}
    (build : buildGeoDetails parseAddr snapshots results = some sidecar) :
    Built parseAddr (observations snapshots results) sidecar := by
  obtain ⟨byAddress, run, rfl⟩ := Option.map_eq_some_iff.mp build
  have collected : Collected parseAddr (observations snapshots results) byAddress :=
    Collected.nil.foldlM run
  constructor
  · rfl
  · exact (List.length_insertionSort _ _).symm
  · exact collected.length_le
  · rfl
  · have inside : ∀ entry ∈ byAddress.insertionSort fun first second => first.key ≤ second.key,
        entry ∈ byAddress := fun entry member => (List.mem_insertionSort _).mp member
    have sorted := List.pairwise_insertionSort
      (fun first second : GeoDetailsEntry => first.key ≤ second.key) byAddress
    have distinct : (byAddress.insertionSort fun first second => first.key ≤ second.key).Nodup :=
      (List.perm_insertionSort _ byAddress).nodup_iff.mpr (List.Nodup.of_map _ collected.nodup)
    refine (sorted.and distinct).imp_of_mem fun member member' both => ?_
    refine lt_of_le_of_ne both.1 fun same => both.2 ?_
    exact collected.key_inj (inside _ member) (inside _ member') same
  · intro entry
    rw [List.mem_insertionSort]
    exact collected.mem_iff entry

end Collected

/-! ## The text of a sidecar -/

namespace GeoDetailsEntry

def fields (entry : GeoDetailsEntry) : List (String × Option JsonValue) :=
  [("address", some (.string entry.address)), ("provider", some (.string entry.provider)),
    ("source", some (.string (.ofString entry.source.text)))] ++
  entry.named.map (fun field => (field.1, Json.omitempty field.2)) ++
  [("fetched_at", Json.omitempty entry.fetchedAt), ("expires_at", Json.omitempty entry.expiresAt)]

def json (entry : GeoDetailsEntry) : JsonValue := .object (Json.members entry.fields)

/-- The fields that an entry has in JSON. -/
def texts (entry : GeoDetailsEntry) : List (String × GoString) :=
  [("address", entry.address), ("provider", entry.provider),
    ("source", .ofString entry.source.text)] ++
  (entry.named ++ [("fetched_at", entry.fetchedAt), ("expires_at", entry.expiresAt)]).filter
    (·.2 ≠ [])

theorem members_fields (entry : GeoDetailsEntry) : Json.members entry.fields =
    entry.texts.map fun field => (field.1, .string field.2) := by
  have omitted : ∀ list : List (String × GoString),
      Json.members (list.map fun field => (field.1, Json.omitempty field.2)) =
        (list.filter (·.2 ≠ [])).map fun field => (field.1, .string field.2) := by
    intro list
    induction list with
    | nil => rfl
    | cons first rest ih =>
        rw [List.map_cons, Json.members_cons, ih]
        by_cases empty : first.2 = []
        · simp [empty]
        · simp [empty, Json.omitempty_of_ne empty]
  have split : entry.fields = [("address", some (.string entry.address)),
      ("provider", some (.string entry.provider)),
      ("source", some (.string (.ofString entry.source.text)))] ++
      (entry.named ++ [("fetched_at", entry.fetchedAt), ("expires_at", entry.expiresAt)]).map
        fun field => (field.1, Json.omitempty field.2) := by
    rw [List.map_append, ← List.append_assoc]
    rfl
  rw [split, Json.members, List.filterMap_append, ← Json.members, ← Json.members, omitted, texts,
    List.map_append]
  rfl

end GeoDetailsEntry

namespace GeoDetailsSidecar

def json (sidecar : GeoDetailsSidecar) : JsonValue :=
  .object [("schema_version", .number (.ofNat sidecar.schemaVersion)),
    ("total", .number (.ofNat sidecar.total)), ("omitted", .number (.ofNat sidecar.omitted)),
    ("entries", .array (sidecar.entries.map GeoDetailsEntry.json))]

/-- The first entries, and the number of those that are left out. -/
def first (sidecar : GeoDetailsSidecar) (count : Nat) : GeoDetailsSidecar :=
  { sidecar with entries := sidecar.entries.take count, omitted := sidecar.total - count }

end GeoDetailsSidecar

end CheckNetwork.Diagnostic
