import CheckNetwork.Frontend.GeoDetails

/-!
# Attaching geo details

The server attaches as many of the entries as fit, and the browser accepts what it attaches.
-/

namespace CheckNetwork.Api

open Go Network Diagnostic Frontend

/-! ## Fitting -/

inductive MarshalFailure
  | budget
  | other
  deriving DecidableEq

section Fit

variable {P : Type} (validate : GeoDetailsSidecar → Except MarshalFailure Unit)
  (marshal : GeoDetailsSidecar → Except MarshalFailure P) (raw : GeoDetailsSidecar)

/-- The closed encoder; `validate` are its limits on the values. -/
def marshalGeoDetailsSidecar (sidecar : GeoDetailsSidecar) : Except MarshalFailure (List Char) :=
  (validate sidecar).bind fun _ =>
    if geoDetailsMaxBytes < Json.length sidecar.json then .error .budget
    else .ok (Json.encode sidecar.json)

/-- The report with a prefix of the details. -/
def marshalPrefix (count : Nat) : Except MarshalFailure P :=
  (marshalGeoDetailsSidecar validate (raw.first count)).bind fun _ => marshal (raw.first count)

def search (best : P) (low high : Int) : Except MarshalFailure P :=
  if low ≤ high then
    let count := low + (high - low) / 2
    match marshalPrefix validate marshal raw count.toNat with
    | .error .other => .error .other
    | .error .budget => search best low (count - 1)
    | .ok payload => search payload (count + 1) high
  else .ok best
termination_by (high + 1 - low).toNat

/-- `marshal` is the closed encoder on the report with the details. -/
def fitGeoDetails (legacy : P) : Except MarshalFailure P :=
  search validate marshal raw legacy 0 (min raw.entries.length geoDetailsMaxEntries : Nat)

end Fit

section Fitted

variable {P : Type} {validate : GeoDetailsSidecar → Except MarshalFailure Unit}
  {marshal : GeoDetailsSidecar → Except MarshalFailure P} {raw : GeoDetailsSidecar}

theorem marshalPrefix_eq_ok {count : Nat} {payload : P}
    (marshalled : marshalPrefix validate marshal raw count = .ok payload) :
    Json.length (raw.first count).json ≤ geoDetailsMaxBytes ∧
      marshal (raw.first count) = .ok payload := by
  rw [marshalPrefix, marshalGeoDetailsSidecar] at marshalled
  cases valid : validate (raw.first count) with
  | error failure =>
      rw [valid] at marshalled
      cases marshalled
  | ok _ =>
      simp only [valid, Except.bind] at marshalled
      by_cases large : geoDetailsMaxBytes < Json.length (raw.first count).json
      · rw [if_pos large] at marshalled
        cases marshalled
      · rw [if_neg large] at marshalled
        exact ⟨Nat.not_lt.mp large, marshalled⟩

/-- What is found is what was there, or a prefix that fits. -/
theorem search_spec {best payload : P} {low high : Int}
    (found : search validate marshal raw best low high = .ok payload) (pos : 0 ≤ low) :
    payload = best ∨ ∃ count : Nat, (count : Int) ≤ high ∧
      Json.length (raw.first count).json ≤ geoDetailsMaxBytes ∧
        marshal (raw.first count) = .ok payload := by
  induction best, low, high using search.induct validate marshal raw with
  | case1 best low high inside count marshalled =>
      rw [search, if_pos inside] at found
      dsimp only [count] at marshalled
      simp only [marshalled] at found
      cases found
  | case2 best low high inside count marshalled ih =>
      rw [search, if_pos inside] at found
      dsimp only [count] at marshalled
      simp only [marshalled] at found
      refine (ih found pos).imp_right fun ⟨other, le, rest⟩ => ⟨other, ?_, rest⟩
      omega
  | case3 best low high inside count other marshalled ih =>
      rw [search, if_pos inside] at found
      dsimp only [count] at marshalled
      simp only [marshalled] at found
      refine .inr ((ih found (by omega)).elim (fun same => ?_) id)
      refine ⟨count.toNat, by omega, ?_⟩
      rw [same]
      exact marshalPrefix_eq_ok marshalled
  | case4 best low high outside =>
      rw [search, if_neg outside] at found
      exact .inl (Except.ok.inj found).symm

theorem fitGeoDetails_spec {legacy payload : P}
    (fitted : fitGeoDetails validate marshal raw legacy = .ok payload) :
    payload = legacy ∨ ∃ count ≤ raw.entries.length, count ≤ geoDetailsMaxEntries ∧
      Json.length (raw.first count).json ≤ geoDetailsMaxBytes ∧
        marshal (raw.first count) = .ok payload := by
  refine (search_spec fitted (le_refl 0)).imp_right fun ⟨count, le, rest⟩ => ?_
  rw [Int.ofNat_le] at le
  exact ⟨count, le.trans (Nat.min_le_left _ _), le.trans (Nat.min_le_right _ _), rest⟩

end Fitted

/-! ## The browser accepts what is attached -/

section Agree

variable {parseAddr : GoString → Option Addr} {snapshots : Nat → Nat → Nat → GeoDetailSnapshot}
  {results : List Result} {raw sidecar : GeoDetailsSidecar} {count : Nat}

/-- What the browser makes of the details that it receives. -/
def received (sidecar : GeoDetailsSidecar) : Option (Checked GeoDetails) :=
  (JsValue.parse (Json.encode sidecar.json)).map normalizeGeoDetails

theorem depth_texts (texts : List (String × GoString)) :
    Json.membersDepth (texts.map fun field => (field.1, .string field.2)) = 0 := by
  induction texts with
  | nil => rfl
  | cons first rest ih =>
      rw [List.map_cons, Json.membersDepth, ih]
      rfl

theorem depth_sidecar (sidecar : GeoDetailsSidecar) :
    Json.depth sidecar.json ≤ Json.maxNestingDepth := by
  have entries : ∀ entries : List GeoDetailsEntry,
      Json.elementsDepth (entries.map GeoDetailsEntry.json) ≤ 1 := by
    intro entries
    induction entries with
    | nil => exact Nat.zero_le 1
    | cons first rest ih =>
        rw [List.map_cons, Json.elementsDepth, GeoDetailsEntry.json,
          GeoDetailsEntry.members_fields, Json.depth, depth_texts]
        exact Nat.max_le.mpr ⟨Nat.le_refl 1, ih⟩
  have inside := entries sidecar.entries
  unfold Json.maxNestingDepth
  simp only [GeoDetailsSidecar.json, Json.depth, Json.membersDepth]
  omega

theorem ordered_of_sorted {entries : List GeoDetailsEntry}
    (sorted : entries.Pairwise fun first second => first.key < second.key)
    (shaped : ∀ entry ∈ entries, Shaped entry) : Ordered entries := by
  have lt_of_map : ∀ first second : List Char,
      first.map Char.toNat < second.map Char.toNat → first < second := by
    intro first
    induction first with
    | nil =>
        intro second less
        cases second with
        | nil => exact absurd less (lt_irrefl _)
        | cons head tail => exact List.nil_lt_cons _ _
    | cons head tail ih =>
        intro second less
        cases second with
        | nil => cases less
        | cons head' tail' =>
            rw [List.map_cons, List.map_cons, List.cons_lt_cons_iff] at less
            rw [List.cons_lt_cons_iff]
            exact less.imp id fun both => ⟨Char.toNat_inj.mp both.1, ih tail' both.2⟩
  refine sorted.imp_of_mem fun {first second} member member' less => ?_
  obtain ⟨chars, same, written⟩ := (shaped first member).address
  obtain ⟨chars', same', written'⟩ := (shaped second member').address
  rw [GeoDetailsEntry.key, GeoDetailsEntry.key, same, same',
    bytes_of_chars written.all_isAddrChar, bytes_of_chars written'.all_isAddrChar] at less
  rw [same, same']
  change (Stamp.spelled chars).text.toList < (Stamp.spelled chars').text.toList
  rw [text_spelled, text_spelled]
  exact lt_of_map _ _ less

theorem shaped_of_built {seen : List Observation} (built : Built parseAddr seen raw) :
    ∀ entry ∈ raw.entries, Shaped entry := by
  intro entry member
  obtain ⟨_, _, hop, made⟩ := exists_observation ((built.mem_iff entry).mp member)
  exact shaped_of_observed hop made

theorem attachable_first {seen : List Observation} (built : Built parseAddr seen raw)
    (inside : count ≤ raw.entries.length) : Attachable (raw.first count) := by
  have shaped := shaped_of_built built
  refine ⟨built.version, ?_, built.total_le, ?_, ?_⟩
  · change raw.total = (raw.entries.take count).length + (raw.total - count)
    rw [List.length_take, built.total]
    omega
  · exact fun entry member => shaped entry (List.mem_of_mem_take member)
  · exact (ordered_of_sorted built.sorted shaped).sublist (List.take_sublist _ _)

/-- A prefix is accepted if it has at most 500 entries and takes at most 128 KiB. -/
theorem received_first {seen : List Observation} (built : Built parseAddr seen raw)
    (inside : count ≤ raw.entries.length) {answer : GeoDetails} :
    received (raw.first count) = some (.ok answer) ↔
      (count ≤ geoDetailsMaxEntries ∧ Json.length (raw.first count).json ≤ geoDetailsMaxBytes) ∧
        answer = details (raw.first count) := by
  have length_eq : (raw.first count).entries.length = count := by
    change (raw.entries.take count).length = count
    rw [List.length_take, Nat.min_eq_left inside]
  rw [received, JsValue.parse_encode (depth_sidecar _), Option.map_some, Option.some.injEq,
    normalizeGeoDetails_eq (attachable_first built inside), length_eq]
  unfold geoDetailsMaxEntries geoDetailsMaxBytes schemaError
  split
  · rename_i many
    refine ⟨fun wrong => (by cases wrong), fun both => ?_⟩
    omega
  · split
    · rename_i large
      refine ⟨fun wrong => (by cases wrong), fun both => ?_⟩
      omega
    · rename_i few small
      rw [Except.ok.injEq, eq_comm]
      exact (and_iff_right ⟨Nat.not_lt.mp few, Nat.not_lt.mp small⟩).symm

/-- What the browser holds for a prefix: the entries of public hops that answered in eligible
attempts, each with the first valid snapshot, in a strict order. -/
structure Holds (parseAddr : GoString → Option Addr) (snapshots : Nat → Nat → Nat → GeoDetailSnapshot)
    (results : List Result) (raw sidecar : GeoDetailsSidecar) : Prop where
  available : sidecar.total = raw.entries.length
  omitted : sidecar.omitted = raw.entries.length - sidecar.entries.length
  ordered : Ordered sidecar.entries
  unique : (sidecar.entries.map GeoDetailsEntry.address).Nodup
  first : ∀ entry ∈ sidecar.entries, (observations snapshots results).findSome?
    (candidate parseAddr entry.address) = some entry
  hop : ∀ entry ∈ sidecar.entries, ∃ result ∈ results, result.kind = .traceroute ∧
    ∃ attempts, result.detail? "attempts" = some (.attempts attempts) ∧
      ∃ attempt ∈ attempts, traceAttemptEligible attempt = true ∧
        ∃ topology, attempt.topology = some topology ∧ ∃ node ∈ topology.nodes,
          0 < node.hop ∧ (node.status = .healthy ∨ node.status = .degraded) ∧
            hopAddress parseAddr node = some entry.address ∧
              ∃ chars, entry.address = chars.map .scalar ∧ PublicText chars

theorem holds_first (built : Built parseAddr (observations snapshots results) raw)
    (inside : count ≤ raw.entries.length) :
    Holds parseAddr snapshots results raw (raw.first count) := by
  have attachable := attachable_first built inside
  have taken : ∀ entry ∈ (raw.first count).entries, entry ∈ raw.entries :=
    fun entry member => List.mem_of_mem_take member
  constructor
  · exact built.total
  · change raw.total - count = raw.entries.length - (raw.entries.take count).length
    rw [built.total, List.length_take, Nat.min_eq_left inside]
  · exact attachable.ordered
  · refine List.pairwise_map.mpr (attachable.ordered.imp fun {first second} less same => ?_)
    rw [same] at less
    exact List.lt_irrefl _ less
  · exact fun entry member => (built.mem_iff entry).mp (taken entry member)
  · intro entry member
    obtain ⟨observation, walked, hop, _⟩ :=
      exists_observation ((built.mem_iff entry).mp (taken entry member))
    obtain ⟨result, inResults, traced, attempts, detail, attempt, inAttempts, eligible, topology,
      has, inNodes⟩ := mem_observations walked
    obtain ⟨pos, answered, chars, same, written⟩ := hopAddress_spec hop
    exact ⟨result, inResults, traced, attempts, detail, attempt, inAttempts, eligible, topology, has,
      observation.1, inNodes, pos, answered, hop, chars, same, written⟩

end Agree

/-! ## Prefixes that are too large -/

section Large

/-- A reader of dotted literals. -/
def literal (text : GoString) : Option Addr :=
  (octets (text.map Rune.char)).bind fun values =>
    if four : values.length = 4 then
      some ⟨values.map UInt8.ofNat, [], .inl (by rw [List.length_map, four])⟩
    else none

/-- Six texts of as many characters that the server escapes. -/
def escapedTexts (width : Nat) : GeoDetailTexts :=
  let text : GoString := List.replicate width (.scalar '<')
  { city := text, region := text, country := text, countryCode := text, continent := text
    continentCode := text }

def escapedSnapshot (width : Nat) : GeoDetailSnapshot :=
  { escapedTexts width with provider := provider, source := .upstream }

def hop (index : Nat) : TopologyNode :=
  ⟨[], 1, .ofString ("8.8.8." ++ toString (index + 10)), .finite 1, .healthy, true, none, none⟩

def tracedResult (hops : Nat) : Result where
  kind := .traceroute
  address := []
  status := .healthy
  latencyMS := 0
  startedAt := ⟨0, 0⟩
  errorCode := []
  message := []
  details := some [("attempts",
    .attempts [⟨1, .healthy, some ⟨true, (List.range hops).map hop, []⟩, [], []⟩])]

def escapedEntry (width index : Nat) : GeoDetailsEntry :=
  { escapedTexts width with address := (hop index).address, provider := provider
                            source := .upstream }

def escapedSidecar (width hops : Nat) : GeoDetailsSidecar :=
  ⟨1, hops, 0, (List.range hops).map (escapedEntry width)⟩

theorem length_escaped (width : Nat) :
    Json.length (.string (List.replicate width (.scalar '<'))) = 6 * width + 2 := by
  have body : utf8Length ((List.replicate width (Rune.scalar '<')).flatMap Json.quotedRune) =
      6 * width := by
    induction width with
    | zero => rfl
    | succ width ih =>
        rw [List.replicate_succ, List.flatMap_cons, utf8Length_append, ih]
        change 6 + _ = _
        omega
  rw [Json.length, Json.encode, Json.quote, utf8Length_cons, utf8Length_append, body]
  change 1 + (_ + 1) = _
  omega

theorem length_escapedEntry (width index : Nat) :
    36 * (width + 1) ≤ Json.length (escapedEntry (width + 1) index).json := by
  have present : Json.omitempty (List.replicate (width + 1) (.scalar '<')) =
      some (.string (List.replicate (width + 1) (.scalar '<'))) :=
    Json.omitempty_of_ne (List.cons_ne_nil _ _)
  have members : Json.members (escapedEntry (width + 1) index).fields ≠ [] := by
    rw [GeoDetailsEntry.members_fields, GeoDetailsEntry.texts]
    exact List.cons_ne_nil _ _
  have wide : ∀ key : String, 6 * (width + 1) ≤
      Json.memberLength (key, .string (List.replicate (width + 1) (.scalar '<'))) := by
    intro key
    rw [Json.memberLength, length_escaped]
    omega
  have city := wide "city"
  have region := wide "region"
  have country := wide "country"
  have code := wide "country_code"
  have continent := wide "continent"
  have continentCode := wide "continent_code"
  rw [GeoDetailsEntry.json, Json.length_object members, Json.sum_map_members]
  simp only [GeoDetailsEntry.fields, GeoDetailTexts.named, escapedEntry, escapedTexts, present,
    List.map_append, List.sum_append, List.map_cons, List.sum_cons, Option.elim_some]
  omega

theorem le_entriesBytes {entries : List GeoDetailsEntry} {least : Nat}
    (each : ∀ entry ∈ entries, least ≤ Json.length entry.json) (index : Nat) :
    least * entries.length ≤ entriesBytes index entries := by
  induction entries generalizing index with
  | nil => exact Nat.zero_le _
  | cons first rest ih =>
      rw [List.forall_mem_cons] at each
      have tail := ih each.2 (index + 1)
      rw [entriesBytes, List.length_cons, Nat.mul_succ]
      omega

end Large

end CheckNetwork.Api
