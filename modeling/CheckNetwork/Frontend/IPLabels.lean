import CheckNetwork.Frontend.CanonicalIP
import CheckNetwork.Frontend.JsValue
import CheckNetwork.Js.Map
import CheckNetwork.Transition.Core
import Mathlib

/-!
# The labels of addresses

The browser keeps labels and notes for at most 500 addresses, in the order of
the addresses.  They are imported from a file, entered in a form and edited in
a table, and after each change they are saved to be loaded by the next page.
-/

namespace CheckNetwork.Frontend

open CheckNetwork.Js (trim Trimmed Ends Consistent)
open CheckNetwork.Transition (Step Reachable execute execute_nil)

namespace IPLabels

def LABEL_RECORDS : Nat := 500

def LABEL : Nat := 256

def NOTE : Nat := 1024

/-- What the environment of the page decides. -/
structure Host where
  /-- `String` of a value that is no text; `none` where it throws. -/
  string : JsValue → Option (List Char)
  localeCompare : List Char → List Char → Int
  consistent : Consistent localeCompare

structure Mapping where
  ip : List Char
  label : List Char
  note : List Char
  deriving DecidableEq

abbrev Labels := Js.Map (List Char) Mapping

variable (host : Host)

/-! ## Rows -/

/-- `String(value ?? '')`. -/
def text : JsValue → Option (List Char)
  | .undefined => some []
  | .null => some []
  | .string text => some text.toList
  | value => host.string value

/-- `truncateCharacters`, of the text of its value. -/
def truncateCharacters (text : List Char) (maximum : Nat) : List Char := (trim text).take maximum

structure Accepted where
  accepted : Labels
  invalid : Nat
  duplicates : Nat

/-- One row of `normalizeIPLabelRows`. -/
def acceptRow (found : Accepted) : JsValue → Option Accepted
  | .object row => do
      let ip := canonicalIPAddress (← text host (JsValue.get row "ip"))
      let label := truncateCharacters (← text host (JsValue.get row "label")) LABEL
      if ip = [] ∨ label = [] then pure { found with invalid := found.invalid + 1 }
      else
        let note := truncateCharacters (← text host (JsValue.get row "note")) NOTE
        pure { found with
          accepted := found.accepted.set ip ⟨ip, label, note⟩
          duplicates := found.duplicates + if ip ∈ found.accepted.keys then 1 else 0 }
  | _ => some { found with invalid := found.invalid + 1 }

structure Normalized where
  labels : Labels
  invalid : Nat
  omitted : Nat

/-- `normalizeIPLabelRows`; `none` where it throws. -/
def normalizeIPLabelRows (rows : JsValue) (maximum : Nat) : Option Normalized :=
  match rows with
  | .array rows => (rows.foldlM (acceptRow host) ⟨.empty, 0, 0⟩).map fun found =>
      let sorted := found.accepted.sort (compareCanonicalIP host.localeCompare)
      let kept := sorted.take maximum
      { labels := kept
        invalid := found.invalid
        omitted := found.duplicates + (sorted.size - kept.size) }
  | _ => some { labels := .empty, invalid := 1, omitted := 0 }

/-! ## Storage -/

/-- What `JSON.parse` reads of what is stored for a mapping. -/
def stored (mapping : Mapping) : JsValue :=
  .object [("ip", .string (String.ofList mapping.ip)), ("label", .string (String.ofList mapping.label)),
    ("note", .string (String.ofList mapping.note))]

/-- What `saveIPLabels` stores. -/
def saveIPLabels (labels : Labels) : JsValue := .array (labels.values.map stored)

/-- `loadIPLabels`, of what `JSON.parse` reads of the storage; `none` where it
throws, as it does when the storage cannot be written afterwards. -/
def loadIPLabels (storage : Option JsValue) (writable : Bool) : Normalized :=
  match storage.bind fun rows => normalizeIPLabelRows host rows LABEL_RECORDS with
  | some normalized => if writable then normalized else ⟨.empty, 1, 0⟩
  | none => ⟨.empty, 1, 0⟩

/-! ## Imports -/

/-- One address of an import, which is left out when it is new and there is no
room. -/
def combine (found : Labels × Nat) (entry : List Char × Mapping) : Labels × Nat :=
  if entry.1 ∉ found.1.keys ∧ LABEL_RECORDS ≤ found.1.size then found
  else (found.1.set entry.1 entry.2, found.2 + 1)

inductive Reason
  | characters
  | capacity
  deriving DecidableEq

structure Upserted where
  labels : Labels
  imported : Nat
  invalid : Nat
  omitted : Nat
  reason : Option Reason

/-- `upsertIPLabels` of a file. -/
def upsertRows (labels : Labels) (rows : List JsValue) : Option Upserted :=
  (normalizeIPLabelRows host (.array rows) rows.length).map fun incoming =>
    let combined := incoming.labels.entries.foldl combine (labels, 0)
    { labels := combined.1.sort (compareCanonicalIP host.localeCompare)
      imported := combined.2
      invalid := incoming.invalid
      omitted := incoming.omitted + (incoming.labels.size - combined.2)
      reason := none }

/-- `upsertIPLabels` of a form, whose fields are texts. -/
def upsertManual (labels : Labels) (ip label note : List Char) : Option Upserted :=
  let key := canonicalIPAddress ip
  if LABEL < (trim label).length ∨ NOTE < (trim note).length then
    some ⟨labels, 0, 0, 0, some .characters⟩
  else if key ≠ [] ∧ key ∉ labels.keys ∧ LABEL_RECORDS ≤ labels.size then
    some ⟨labels, 0, 0, 1, some .capacity⟩
  else upsertRows host labels [stored ⟨ip, label, note⟩]

/-! ## The page -/

inductive Field
  | label
  | note
  deriving DecidableEq

structure State where
  ipLabels : Labels
  storage : Option JsValue

/-- What happens to the labels of a page: a row of the table is deleted by its
key, and the label of a graph's node by its address; `writable` tells whether its storage
takes what is saved. -/
inductive Action
  | load (writable : Bool)
  | importFile (rows : List JsValue) (writable : Bool)
  | submit (ip label note : List Char) (writable : Bool)
  | edit (key : List Char) (field : Field) (value : List Char) (writable : Bool)
  | delete (key : List Char) (writable : Bool)
  | remove (subject : List Char) (writable : Bool)

def State.save (state : State) (labels : Labels) (writable : Bool) : State where
  ipLabels := labels
  storage := if writable then some (saveIPLabels labels) else state.storage

/-- A table row whose field was changed. -/
def edited (labels : Labels) (mapping : Mapping) (key : List Char) (field : Field)
    (value : List Char) : Labels :=
  let changed := match field with
    | .label => { mapping with label := truncateCharacters value LABEL }
    | .note => { mapping with note := truncateCharacters value NOTE }
  if changed.label = [] then labels.delete key else labels.set key changed

def next : Step State Action
  | state, .load writable =>
      let normalized := loadIPLabels host state.storage writable
      some (state.save normalized.labels writable)
  | state, .importFile rows writable =>
      match upsertRows host state.ipLabels rows with
      | some upserted => some (state.save upserted.labels writable)
      | none => some state
  | state, .submit ip label note writable =>
      match upsertManual host state.ipLabels ip label note with
      | some upserted =>
          if upserted.reason.isSome then some state else some (state.save upserted.labels writable)
      | none => some state
  | state, .edit key field value writable =>
      match state.ipLabels.get? key with
      | some mapping => some (state.save (edited state.ipLabels mapping key field value) writable)
      | none => some state
  | state, .delete key writable => some (state.save (state.ipLabels.delete key) writable)
  | state, .remove subject writable =>
      let key := canonicalIPAddress subject
      if key ∈ state.ipLabels.keys then some (state.save (state.ipLabels.delete key) writable)
      else some state

/-- A page that is opened on any storage. -/
def start (storage : Option JsValue) : State := ⟨.empty, storage⟩

/-! ## Texts that are cut after white space -/

/-- The text of a value is not cut after white space. -/
def keepsEnd (value : JsValue) (maximum : Nat) : Bool :=
  (text host value).all fun text => Ends (truncateCharacters text maximum)

def gentleRow : JsValue → Bool
  | .object row => keepsEnd host (JsValue.get row "label") LABEL &&
      keepsEnd host (JsValue.get row "note") NOTE
  | _ => true

def gentle (state : State) : Action → Bool
  | .load _ =>
      match state.storage with
      | some (.array rows) => rows.all (gentleRow host)
      | _ => true
  | .importFile rows _ => rows.all (gentleRow host)
  | .edit _ .label value _ => Ends (truncateCharacters value LABEL)
  | .edit _ .note value _ => Ends (truncateCharacters value NOTE)
  | _ => true

/-- Steps that cut no text after white space. -/
def gentleNext : Step State Action := fun state action =>
  if gentle host state action then next host state action else none

/-! ## Records of rows -/

/-- The mapping that a row gives, if any; the outer `none` is an exception. -/
def record : JsValue → Option (Option Mapping)
  | .object row => do
      let ip := canonicalIPAddress (← text host (JsValue.get row "ip"))
      let label := truncateCharacters (← text host (JsValue.get row "label")) LABEL
      if ip = [] ∨ label = [] then pure none
      else
        let note := truncateCharacters (← text host (JsValue.get row "note")) NOTE
        pure (some ⟨ip, label, note⟩)
  | _ => some none

def Accepted.add (found : Accepted) : Option Mapping → Accepted
  | none => { found with invalid := found.invalid + 1 }
  | some mapping =>
      { found with
        accepted := found.accepted.set mapping.ip mapping
        duplicates := found.duplicates + if mapping.ip ∈ found.accepted.keys then 1 else 0 }

/-- What rows with given records are normalized from. -/
def accept (records : List (Option Mapping)) : Accepted :=
  records.foldl Accepted.add ⟨.empty, 0, 0⟩

def ordered (labels : Labels) : Labels := labels.sort (compareCanonicalIP host.localeCompare)

variable {host}

theorem mem_ordered {labels : Labels} {entry : List Char × Mapping} :
    entry ∈ (ordered host labels).entries ↔ entry ∈ labels.entries :=
  Js.Map.mem_sort

theorem size_ordered (labels : Labels) : (ordered host labels).size = labels.size :=
  Js.Map.size_sort

section Records

theorem acceptRow_eq (found : Accepted) (row : JsValue) :
    acceptRow host found row = (record host row).map found.add := by
  cases row with
  | object row =>
      rw [acceptRow, record]
      cases text host (JsValue.get row "ip") with
      | none => rfl
      | some ip =>
          cases text host (JsValue.get row "label") with
          | none => rfl
          | some label =>
              simp only [Option.bind_eq_bind, Option.bind_some]
              split
              · rfl
              · cases text host (JsValue.get row "note") <;> rfl
  | _ => rfl

theorem foldlM_acceptRow (rows : List JsValue) (found : Accepted) :
    rows.foldlM (acceptRow host) found =
      (rows.mapM (record host)).map fun records => records.foldl Accepted.add found := by
  induction rows generalizing found with
  | nil => rfl
  | cons row rows ih =>
      rw [List.foldlM_cons, List.mapM_cons, acceptRow_eq]
      cases record host row with
      | none => rfl
      | some first =>
          simp only [Option.map_some, Option.bind_eq_bind, Option.bind_some, ih]
          cases rows.mapM (record host) <;> rfl

/-- A record has a canonical address, and texts that were cut. -/
structure Sound (mapping : Mapping) : Prop where
  canonical : Canonical mapping.ip
  label_ne : mapping.label ≠ []
  label : ∃ value, mapping.label = truncateCharacters value LABEL
  note : ∃ value, mapping.note = truncateCharacters value NOTE

theorem sound_record {row : JsValue} {mapping : Mapping}
    (read : record host row = some (some mapping)) : Sound mapping := by
  cases row with
  | object row =>
      rw [record] at read
      obtain ⟨ip, ipRead, read⟩ := Option.bind_eq_some_iff.mp read
      obtain ⟨label, labelRead, read⟩ := Option.bind_eq_some_iff.mp read
      dsimp only at read
      split at read
      · cases read
      · rename_i valid
        rw [not_or] at valid
        obtain ⟨note, noteRead, read⟩ := Option.bind_eq_some_iff.mp read
        cases read
        exact ⟨(canonical_canonicalIPAddress ip).resolve_left valid.1, valid.2, ⟨label, rfl⟩,
          ⟨note, rfl⟩⟩
  | _ => cases read

end Records

/-! ## The fold over the rows -/

section Fold

variable {records : List (Option Mapping)}

/-- Every row is accepted, invalid or a repetition. -/
theorem count_accept (records : List (Option Mapping)) :
    (accept records).accepted.size + (accept records).invalid + (accept records).duplicates =
      records.length := by
  induction records using List.reverseRecOn with
  | nil => rfl
  | append_singleton rest last ih =>
      rw [List.length_append, List.length_singleton, ← ih, accept, List.foldl_append, List.foldl_cons,
        List.foldl_nil, ← accept]
      cases last with
      | none =>
          rw [Accepted.add]
          dsimp only
          omega
      | some mapping =>
          simp only [Accepted.add, Js.Map.size_set]
          split <;> omega

/-- The last record of an address is kept. -/
theorem mem_accept {entry : List Char × Mapping} :
    entry ∈ (accept records).accepted.entries ↔
      (records.reduceOption.filter fun mapping => mapping.ip = entry.1).getLast? = some entry.2 := by
  induction records using List.reverseRecOn with
  | nil =>
      constructor
      · intro member
        cases member
      · intro found
        cases found
  | append_singleton rest last ih =>
      rw [accept, List.foldl_append, List.foldl_cons, List.foldl_nil, ← accept,
        List.reduceOption_append, List.filter_append]
      cases last with
      | none => simpa [Accepted.add, List.reduceOption] using ih
      | some mapping =>
          rw [Accepted.add, Js.Map.mem_set, ih, List.reduceOption_cons_of_some,
            List.reduceOption_nil, List.filter_cons]
          rcases entry with ⟨key, other⟩
          by_cases same : mapping.ip = key
          · subst same
            simp [eq_comm]
          · simp [same, Ne.symm same, eq_comm]

end Fold

/-! ## Normalized labels -/

/-- What holds of the labels of a page. -/
structure Keyed (host : Host) (labels : Labels) : Prop where
  keyed : ∀ entry ∈ labels.entries, entry.2.ip = entry.1
  sound : ∀ entry ∈ labels.entries, Sound entry.2
  sorted : labels.keys.Pairwise fun a b => compareCanonicalIP host.localeCompare a b ≤ 0
  size_le : labels.size ≤ LABEL_RECORDS

section Normalize

variable {rows : List JsValue} {maximum : Nat} {normalized : Normalized} {labels : Labels}

/-- The rows that are read without an exception. -/
theorem normalize_eq (rows : List JsValue) (maximum : Nat) :
    normalizeIPLabelRows host (.array rows) maximum = (rows.mapM (record host)).map fun records =>
      let sorted := ordered host (accept records).accepted
      ⟨sorted.take maximum, (accept records).invalid,
        (accept records).duplicates + (sorted.size - (sorted.take maximum).size)⟩ := by
  rw [normalizeIPLabelRows, foldlM_acceptRow, Option.map_map]
  rfl

theorem length_of_mapM {records : List (Option Mapping)} (read : rows.mapM (record host) = some records) :
    records.length = rows.length := by
  induction rows generalizing records with
  | nil =>
      cases read
      rfl
  | cons first rest ih =>
      rw [List.mapM_cons] at read
      obtain ⟨head, headRead, read⟩ := Option.bind_eq_some_iff.mp read
      obtain ⟨tail, tailRead, read⟩ := Option.bind_eq_some_iff.mp read
      cases read
      rw [List.length_cons, List.length_cons, ih tailRead]

theorem exists_row {records : List (Option Mapping)} (read : rows.mapM (record host) = some records)
    {result : Option Mapping} (member : result ∈ records) :
    ∃ row ∈ rows, record host row = some result := by
  induction rows generalizing records with
  | nil =>
      cases read
      cases member
  | cons first rest ih =>
      rw [List.mapM_cons] at read
      obtain ⟨head, headRead, read⟩ := Option.bind_eq_some_iff.mp read
      obtain ⟨tail, tailRead, read⟩ := Option.bind_eq_some_iff.mp read
      cases read
      rcases List.mem_cons.mp member with rfl | later
      · exact ⟨first, List.mem_cons_self, headRead⟩
      · obtain ⟨row, listed, rowRead⟩ := ih tailRead later
        exact ⟨row, List.mem_cons_of_mem first listed, rowRead⟩

/-- The entries of accepted rows are records of rows, under their addresses. -/
theorem row_of_mem {records : List (Option Mapping)} (read : rows.mapM (record host) = some records)
    {entry : List Char × Mapping}
    (member : entry ∈ (accept records).accepted.entries) :
    entry.2.ip = entry.1 ∧ ∃ row ∈ rows, record host row = some (some entry.2) := by
  have last := List.mem_of_getLast? (mem_accept.mp member)
  rw [List.mem_filter, decide_eq_true_eq, List.reduceOption_mem_iff] at last
  exact ⟨last.2, exists_row read last.1⟩

theorem pairwise_ordered (labels : Labels) :
    (ordered host labels).keys.Pairwise fun a b => compareCanonicalIP host.localeCompare a b ≤ 0 := by
  have consistent := consistent_compareCanonicalIP host.consistent
  rw [Js.Map.keys, List.pairwise_map]
  exact Js.pairwise_sort (consistent.comp Prod.fst) labels.entries

theorem keyed_normalize
    (read : normalizeIPLabelRows host (.array rows) LABEL_RECORDS = some normalized) :
    Keyed host normalized.labels := by
  rw [normalize_eq] at read
  obtain ⟨records, records_eq, rfl⟩ := Option.map_eq_some_iff.mp read
  have found : ∀ entry, entry ∈ ((ordered host (accept records).accepted).take LABEL_RECORDS).entries →
      entry.2.ip = entry.1 ∧ ∃ row ∈ rows, record host row = some (some entry.2) :=
    fun entry member => row_of_mem records_eq (mem_ordered.mp (List.mem_of_mem_take member))
  constructor
  · exact fun entry member => (found entry member).1
  · intro entry member
    obtain ⟨-, row, -, rowRead⟩ := found entry member
    exact sound_record rowRead
  · exact (pairwise_ordered _).sublist ((List.take_sublist _ _).map Prod.fst)
  · exact List.length_take_le _ _

theorem keyed_empty : Keyed host .empty where
  keyed := fun _ member => (by cases member)
  sound := fun _ member => (by cases member)
  sorted := List.Pairwise.nil
  size_le := Nat.zero_le _

theorem keyed_load (storage : Option JsValue) (writable : Bool) :
    Keyed host (loadIPLabels host storage writable).labels := by
  rw [loadIPLabels]
  cases read : storage.bind fun rows => normalizeIPLabelRows host rows LABEL_RECORDS with
  | none => exact keyed_empty
  | some normalized =>
      cases writable with
      | false => exact keyed_empty
      | true =>
          obtain ⟨rows, rfl, parsed⟩ := Option.bind_eq_some_iff.mp read
          cases rows with
          | array rows => exact keyed_normalize parsed
          | _ =>
              cases parsed
              exact keyed_empty

end Normalize

/-! ## Imports -/

section Import

variable {labels : Labels} {entries : List (List Char × Mapping)} {found : Labels × Nat}
  {rows : List JsValue} {upserted : Upserted}

/-- An address is left out, or it is set where there is room. -/
theorem combine_cases (found : Labels × Nat) (entry : List Char × Mapping) :
    combine found entry = found ∧ entry.1 ∉ found.1.keys ∨
      combine found entry = (found.1.set entry.1 entry.2, found.2 + 1) ∧
        (entry.1 ∈ found.1.keys ∨ found.1.size < LABEL_RECORDS) := by
  rw [combine]
  split
  · rename_i full
    exact .inl ⟨rfl, full.1⟩
  · rename_i free
    rw [not_and_or, not_not, not_le] at free
    exact .inr ⟨rfl, free⟩

theorem size_foldl_combine (size_le : found.1.size ≤ LABEL_RECORDS) :
    (entries.foldl combine found).1.size ≤ LABEL_RECORDS := by
  induction entries generalizing found with
  | nil => exact size_le
  | cons entry rest ih =>
      rw [List.foldl_cons]
      apply ih
      rcases combine_cases found entry with ⟨same, -⟩ | ⟨set, room⟩
      · rwa [same]
      · rw [set, Js.Map.size_set]
        split
        · exact size_le
        · rename_i fresh
          exact room.resolve_left fresh

theorem imported_le (found : Labels × Nat) :
    (entries.foldl combine found).2 ≤ found.2 + entries.length := by
  induction entries generalizing found with
  | nil => exact le_refl _
  | cons entry rest ih =>
      rw [List.foldl_cons, List.length_cons]
      apply (ih _).trans
      rcases combine_cases found entry with ⟨same, -⟩ | ⟨set, -⟩
      · rw [same]
        omega
      · rw [set]
        dsimp only
        omega

theorem mem_of_foldl_combine {entry : List Char × Mapping}
    (member : entry ∈ (entries.foldl combine found).1.entries) :
    entry ∈ entries ∨ entry ∈ found.1.entries := by
  induction entries generalizing found with
  | nil => exact .inr member
  | cons first rest ih =>
      rw [List.foldl_cons] at member
      rcases ih member with later | known
      · exact .inl (List.mem_cons_of_mem first later)
      · rcases combine_cases found first with ⟨same, -⟩ | ⟨set, -⟩
        · rw [same] at known
          exact .inr known
        · rw [set, Js.Map.mem_set] at known
          rcases known with rfl | ⟨old, -⟩
          · exact .inl List.mem_cons_self
          · exact .inr old

/-- What the import does not mention stays. -/
theorem mem_foldl_combine_of_notMem {entry : List Char × Mapping} (member : entry ∈ found.1.entries)
    (other : entry.1 ∉ entries.map Prod.fst) : entry ∈ (entries.foldl combine found).1.entries := by
  induction entries generalizing found with
  | nil => exact member
  | cons first rest ih =>
      rw [List.map_cons, List.mem_cons, not_or] at other
      rw [List.foldl_cons]
      apply ih _ other.2
      rcases combine_cases found first with ⟨same, -⟩ | ⟨set, -⟩
      · rwa [same]
      · rw [set]
        exact Js.Map.mem_set.mpr (.inr ⟨member, other.1⟩)

/-- What is known is replaced, also where there is no room. -/
theorem mem_foldl_combine {entry : List Char × Mapping} (distinct : (entries.map Prod.fst).Nodup)
    (listed : entry ∈ entries) (known : entry.1 ∈ found.1.keys) :
    entry ∈ (entries.foldl combine found).1.entries := by
  induction entries generalizing found with
  | nil => cases listed
  | cons first rest ih =>
      rw [List.map_cons, List.nodup_cons] at distinct
      rw [List.foldl_cons]
      rcases List.mem_cons.mp listed with rfl | later
      · apply mem_foldl_combine_of_notMem _ distinct.1
        rcases combine_cases found entry with ⟨-, fresh⟩ | ⟨set, -⟩
        · exact absurd known fresh
        · rw [set]
          exact Js.Map.mem_set.mpr (.inl rfl)
      · apply ih distinct.2 later
        rcases combine_cases found first with ⟨same, -⟩ | ⟨set, -⟩
        · rwa [same]
        · rw [set]
          exact Js.Map.mem_keys_set.mpr (.inr known)

/-- All rows of a file are normalized before they are admitted. -/
theorem upsertRows_eq (labels : Labels) (rows : List JsValue) :
    upsertRows host labels rows = (rows.mapM (record host)).map fun records =>
      let incoming := ordered host (accept records).accepted
      let combined := incoming.entries.foldl combine (labels, 0)
      ⟨ordered host combined.1, combined.2, (accept records).invalid,
        (accept records).duplicates + (incoming.size - combined.2), none⟩ := by
  rw [upsertRows, normalize_eq, Option.map_map]
  cases read : rows.mapM (record host) with
  | none => rfl
  | some records =>
      have whole := count_accept records
      have short : (ordered host (accept records).accepted).size ≤ rows.length := by
        rw [← length_of_mapM read, size_ordered]
        omega
      rw [Option.map_some, Option.map_some, Function.comp_apply]
      dsimp only
      rw [Js.Map.take_eq_self short, Nat.sub_self, Nat.add_zero]
      rfl

/-- Imported, invalid and left out rows are all rows. -/
theorem count_upsertRows (read : upsertRows host labels rows = some upserted) :
    upserted.imported + upserted.invalid + upserted.omitted = rows.length := by
  rw [upsertRows_eq] at read
  obtain ⟨records, records_eq, rfl⟩ := Option.map_eq_some_iff.mp read
  have whole := count_accept records
  have imported := @imported_le (ordered host (accept records).accepted).entries (labels, 0)
  have same : (ordered host (accept records).accepted).entries.length =
      (accept records).accepted.size := size_ordered _
  rw [← length_of_mapM records_eq]
  dsimp only at imported ⊢
  rw [size_ordered]
  omega

/-- An address that is known has the last of its records after an import. -/
theorem updated_upsertRows (read : upsertRows host labels rows = some upserted)
    {records : List (Option Mapping)} (records_eq : rows.mapM (record host) = some records)
    {key : List Char} (known : key ∈ labels.keys) {mapping : Mapping}
    (last : (records.reduceOption.filter fun mapping => mapping.ip = key).getLast? = some mapping) :
    upserted.labels.get? key = some mapping := by
  rw [upsertRows_eq, records_eq] at read
  cases read
  rw [Js.Map.get?_eq_some_iff]
  apply mem_ordered.mpr
  apply mem_foldl_combine (Js.Map.nodup _) _ known
  exact mem_ordered.mpr (mem_accept.mpr last)

theorem keyed_upsertRows (keyed : Keyed host labels)
    (read : upsertRows host labels rows = some upserted) : Keyed host upserted.labels := by
  rw [upsertRows_eq] at read
  obtain ⟨records, records_eq, rfl⟩ := Option.map_eq_some_iff.mp read
  have found : ∀ entry ∈ (ordered host (accept records).accepted).entries,
      entry.2.ip = entry.1 ∧ ∃ row ∈ rows, record host row = some (some entry.2) :=
    fun entry member => row_of_mem records_eq (mem_ordered.mp member)
  constructor
  · intro entry member
    rcases mem_of_foldl_combine (mem_ordered.mp member) with new | old
    · exact (found entry new).1
    · exact keyed.keyed entry old
  · intro entry member
    rcases mem_of_foldl_combine (mem_ordered.mp member) with new | old
    · obtain ⟨-, row, -, rowRead⟩ := found entry new
      exact sound_record rowRead
    · exact keyed.sound entry old
  · exact pairwise_ordered _
  · exact (size_ordered _).le.trans (size_foldl_combine keyed.size_le)

end Import

/-! ## Storage -/

section Storage

variable {labels : Labels} {mapping : Mapping}

/-- A text that was cut is cut again just when it ends in white space. -/
theorem truncateCharacters_eq_self_iff (value : List Char) (maximum : Nat) :
    truncateCharacters (truncateCharacters value maximum) maximum = truncateCharacters value maximum ↔
      Ends (truncateCharacters value maximum) := by
  constructor
  · intro same
    have whole : trim (truncateCharacters value maximum) = truncateCharacters value maximum := by
      have length_eq := congrArg List.length same
      have shorter := Js.length_trim_le (truncateCharacters value maximum)
      have bounded : (truncateCharacters value maximum).length ≤ maximum := List.length_take_le _ _
      have cut : truncateCharacters (truncateCharacters value maximum) maximum =
          trim (truncateCharacters value maximum) :=
        List.take_of_length_le (shorter.trans bounded)
      rw [← cut, same]
    exact (Js.trim_eq_self_iff.mp whole).ends
  · intro ends
    have trimmed := Js.trimmed_take (Js.trimmed_trim value) ends
    rw [truncateCharacters, truncateCharacters, Js.trim_eq_self trimmed, List.take_take, min_self]

/-- The record that is read of a stored mapping. -/
def reread (mapping : Mapping) : Option Mapping :=
  if truncateCharacters mapping.label LABEL = [] then none
  else some ⟨mapping.ip, truncateCharacters mapping.label LABEL, truncateCharacters mapping.note NOTE⟩

theorem record_stored (sound : Sound mapping) :
    record host (stored mapping) = some (reread mapping) := by
  have canonical := canonicalIPAddress_of_canonical sound.canonical
  have nonempty := ne_nil_of_canonical sound.canonical
  have ip : text host (.string (String.ofList mapping.ip)) = some mapping.ip :=
    congrArg some String.toList_ofList
  have label : text host (.string (String.ofList mapping.label)) = some mapping.label :=
    congrArg some String.toList_ofList
  have note : text host (.string (String.ofList mapping.note)) = some mapping.note :=
    congrArg some String.toList_ofList
  rw [stored, record]
  simp only [JsValue.get, List.lookup, String.reduceBEq, Option.getD_some, ip, label, note,
    Option.bind_eq_bind, Option.bind_some, canonical, nonempty, false_or, reread]
  split <;> rfl

theorem mapM_stored {mappings : List Mapping} (sound : ∀ mapping ∈ mappings, Sound mapping) :
    (mappings.map stored).mapM (record host) = some (mappings.map reread) := by
  induction mappings with
  | nil => rfl
  | cons first rest ih =>
      rw [List.forall_mem_cons] at sound
      rw [List.map_cons, List.mapM_cons, record_stored sound.1, ih sound.2]
      rfl

/-- Texts that do not end in white space. -/
def Lasting (mapping : Mapping) : Prop := Ends mapping.label ∧ Ends mapping.note

instance (mapping : Mapping) : Decidable (Lasting mapping) :=
  inferInstanceAs (Decidable (_ ∧ _))

theorem reread_eq_some_self_iff (sound : Sound mapping) :
    reread mapping = some mapping ↔ Lasting mapping := by
  obtain ⟨label, label_eq⟩ := sound.label
  obtain ⟨note, note_eq⟩ := sound.note
  have labelKept := truncateCharacters_eq_self_iff label LABEL
  have noteKept := truncateCharacters_eq_self_iff note NOTE
  rw [← label_eq] at labelKept
  rw [← note_eq] at noteKept
  rw [Lasting, ← labelKept, ← noteKept, reread]
  constructor
  · intro same
    split at same
    · cases same
    · rw [Option.some.injEq] at same
      exact ⟨congrArg Mapping.label same, congrArg Mapping.note same⟩
  · rintro ⟨labelSame, noteSame⟩
    rw [labelSame, noteSame, if_neg sound.label_ne]

/-- Records of distinct addresses are all accepted. -/
theorem accept_entries {entries : List (List Char × Mapping)} (nodup : (entries.map Prod.fst).Nodup)
    (keyed : ∀ entry ∈ entries, entry.2.ip = entry.1) :
    accept (entries.map fun entry => some entry.2) = ⟨⟨entries, nodup⟩, 0, 0⟩ := by
  induction entries using List.reverseRecOn with
  | nil => rfl
  | append_singleton rest last ih =>
      have restNodup : (rest.map Prod.fst).Nodup :=
        nodup.sublist ((List.sublist_append_left rest [last]).map Prod.fst)
      have restKeyed : ∀ entry ∈ rest, entry.2.ip = entry.1 :=
        fun entry member => keyed entry (List.mem_append_left _ member)
      have here : last.2.ip = last.1 := keyed last (List.mem_append_right _ List.mem_cons_self)
      have fresh : last.2.ip ∉ (⟨rest, restNodup⟩ : Labels).keys := by
        rw [List.map_append, List.nodup_append] at nodup
        exact fun known => nodup.2.2 _ known _ List.mem_cons_self here
      rw [List.map_append, List.map_singleton, accept, List.foldl_append, ← accept,
        ih restNodup restKeyed, List.foldl_cons, List.foldl_nil, Accepted.add]
      dsimp only
      rw [if_neg fresh]
      congr 1
      apply Js.Map.ext
      rw [Js.Map.entries_set fresh, here]

/-- What is saved is loaded again just when no text ends in white space. -/
theorem loadIPLabels_saveIPLabels_iff (keyed : Keyed host labels) :
    loadIPLabels host (some (saveIPLabels labels)) true = ⟨labels, 0, 0⟩ ↔
      ∀ mapping ∈ labels.values, Lasting mapping := by
  have sound : ∀ mapping ∈ labels.values, Sound mapping := by
    intro mapping member
    obtain ⟨entry, entryMem, rfl⟩ := List.mem_map.mp member
    exact keyed.sound entry entryMem
  have read := @mapM_stored host labels.values sound
  rw [loadIPLabels, Option.bind_some, saveIPLabels, normalize_eq, read, Option.map_some]
  dsimp only
  rw [if_pos rfl]
  constructor
  · intro same mapping member
    obtain ⟨entry, entryMem, rfl⟩ := List.mem_map.mp member
    have labels_eq := congrArg Normalized.labels same
    dsimp only at labels_eq
    have loaded := entryMem
    rw [← labels_eq] at loaded
    obtain ⟨ip_eq, row, rowMem, rowRead⟩ :=
      row_of_mem read (mem_ordered.mp (List.mem_of_mem_take loaded))
    obtain ⟨other, otherMem, rfl⟩ := List.mem_map.mp rowMem
    obtain ⟨otherEntry, otherEntryMem, rfl⟩ := List.mem_map.mp otherMem
    rw [record_stored (sound _ otherMem), Option.some.injEq] at rowRead
    have ip_same : entry.2.ip = otherEntry.2.ip := by
      rw [reread] at rowRead
      split at rowRead
      · cases rowRead
      · rw [Option.some.injEq] at rowRead
        rw [← rowRead]
    have entry_eq : otherEntry = entry := by
      apply Js.Map.eq_of_mem otherEntryMem entryMem
      rw [← ip_eq, ip_same, keyed.keyed otherEntry otherEntryMem]
    rw [entry_eq] at rowRead
    exact (reread_eq_some_self_iff (keyed.sound entry entryMem)).mp rowRead
  · intro lasting
    have kept : labels.values.map reread = labels.entries.map fun entry => some entry.2 := by
      rw [Js.Map.values, List.map_map]
      apply List.map_congr_left
      intro entry member
      exact (reread_eq_some_self_iff (keyed.sound entry member)).mpr
        (lasting _ (List.mem_map_of_mem member))
    have sorted : ordered host labels = labels := by
      apply Js.Map.ext
      apply Js.sort_eq_self
      exact List.pairwise_map.mp keyed.sorted
    rw [kept, accept_entries labels.nodup keyed.keyed]
    dsimp only
    rw [sorted, Js.Map.take_eq_self keyed.size_le, Nat.sub_self]

end Storage

/-! ## The labels of a page -/

section Page

variable {labels : Labels} {state after : State} {action : Action} {storage : Option JsValue}

theorem Keyed.delete (keyed : Keyed host labels) (key : List Char) : Keyed host (labels.delete key) where
  keyed := fun entry member => keyed.keyed entry (Js.Map.mem_delete.mp member).1
  sound := fun entry member => keyed.sound entry (Js.Map.mem_delete.mp member).1
  sorted := keyed.sorted.sublist Js.Map.keys_delete_sublist
  size_le := Js.Map.size_delete_le.trans keyed.size_le

theorem Keyed.set (keyed : Keyed host labels) (mapping : Mapping)
    (known : mapping.ip ∈ labels.keys)
    (sound : Sound mapping) : Keyed host (labels.set mapping.ip mapping) where
  keyed := by
    intro entry member
    rcases Js.Map.mem_set.mp member with rfl | ⟨old, -⟩
    · rfl
    · exact keyed.keyed entry old
  sound := by
    intro entry member
    rcases Js.Map.mem_set.mp member with rfl | ⟨old, -⟩
    · exact sound
    · exact keyed.sound entry old
  sorted := by
    rw [Js.Map.keys_set known]
    exact keyed.sorted
  size_le := by
    rw [Js.Map.size_set, if_pos known]
    exact keyed.size_le

theorem keyed_edited (keyed : Keyed host labels) {key value : List Char} {mapping : Mapping}
    {field : Field} (found : labels.get? key = some mapping) :
    Keyed host (edited labels mapping key field value) := by
  have member := Js.Map.get?_eq_some_iff.mp found
  have sound := keyed.sound _ member
  have here : mapping.ip = key := keyed.keyed _ member
  subst here
  have known : mapping.ip ∈ labels.keys := List.mem_map_of_mem (f := Prod.fst) member
  unfold edited
  cases field with
  | label =>
      dsimp only
      split
      · exact keyed.delete _
      · rename_i nonempty
        exact keyed.set { mapping with label := truncateCharacters value LABEL } known
          ⟨sound.canonical, nonempty, ⟨value, rfl⟩, sound.note⟩
  | note =>
      dsimp only
      rw [if_neg sound.label_ne]
      exact keyed.set { mapping with note := truncateCharacters value NOTE } known
        ⟨sound.canonical, sound.label_ne, sound.label, ⟨value, rfl⟩⟩

theorem keyed_upsertManual (keyed : Keyed host labels) {ip label note : List Char}
    {upserted : Upserted} (read : upsertManual host labels ip label note = some upserted) :
    Keyed host upserted.labels := by
  unfold upsertManual at read
  dsimp only at read
  split at read
  · cases read
    exact keyed
  · split at read
    · cases read
      exact keyed
    · exact keyed_upsertRows keyed read

/-- One step keeps the labels in order. -/
theorem keyed_next (keyed : Keyed host state.ipLabels) (stepped : next host state action = some after) :
    Keyed host after.ipLabels := by
  cases action with
  | load writable =>
      cases stepped
      exact keyed_load _ _
  | importFile rows writable =>
      rw [next] at stepped
      split at stepped
      · rename_i upserted read
        cases stepped
        exact keyed_upsertRows keyed read
      · cases stepped
        exact keyed
  | submit ip label note writable =>
      rw [next] at stepped
      split at stepped
      · rename_i upserted read
        split at stepped
        · cases stepped
          exact keyed
        · cases stepped
          exact keyed_upsertManual keyed read
      · cases stepped
        exact keyed
  | edit key field value writable =>
      rw [next] at stepped
      split at stepped
      · rename_i mapping found
        cases stepped
        exact keyed_edited keyed found
      · cases stepped
        exact keyed
  | delete key writable =>
      cases stepped
      exact keyed.delete key
  | remove subject writable =>
      rw [next] at stepped
      split at stepped
      · cases stepped
        exact keyed.delete _
      · cases stepped
        exact keyed

theorem keyed_reachable (reachable : Reachable (next host) (start storage) state) :
    Keyed host state.ipLabels :=
  Reachable.invariant (fun state => Keyed host state.ipLabels) keyed_empty
    (fun _ _ _ => keyed_next) reachable

/-! ### Gentle steps -/

def AllLasting (labels : Labels) : Prop := ∀ mapping ∈ labels.values, Lasting mapping

theorem lasting_record {row : JsValue} (kept : gentleRow host row = true) {mapping : Mapping}
    (read : record host row = some (some mapping)) : Lasting mapping := by
  cases row with
  | object row =>
      rw [gentleRow, Bool.and_eq_true] at kept
      rw [record] at read
      obtain ⟨ip, ipRead, read⟩ := Option.bind_eq_some_iff.mp read
      obtain ⟨label, labelRead, read⟩ := Option.bind_eq_some_iff.mp read
      dsimp only at read
      split at read
      · cases read
      · obtain ⟨note, noteRead, read⟩ := Option.bind_eq_some_iff.mp read
        cases read
        rw [keepsEnd, keepsEnd, labelRead, noteRead, Option.all_some, Option.all_some,
          decide_eq_true_iff, decide_eq_true_iff] at kept
        exact kept
  | _ => cases read

theorem lasting_of_rows {rows : List JsValue} {records : List (Option Mapping)}
    (kept : rows.all (gentleRow host) = true) (read : rows.mapM (record host) = some records)
    {entry : List Char × Mapping} (member : entry ∈ (accept records).accepted.entries) :
    Lasting entry.2 := by
  obtain ⟨-, row, listed, rowRead⟩ := row_of_mem read member
  exact lasting_record (List.all_eq_true.mp kept row listed) rowRead

theorem allLasting_load {writable : Bool} (kept : gentle host state (.load writable) = true) :
    AllLasting (loadIPLabels host state.storage writable).labels := by
  have nothing : AllLasting .empty := fun _ member => (by cases member)
  rw [loadIPLabels]
  cases read : state.storage.bind fun rows => normalizeIPLabelRows host rows LABEL_RECORDS with
  | none => exact nothing
  | some normalized =>
      cases writable with
      | false => exact nothing
      | true =>
          obtain ⟨rows, rows_eq, parsed⟩ := Option.bind_eq_some_iff.mp read
          rw [gentle, rows_eq] at kept
          cases rows with
          | array rows =>
              rw [normalize_eq] at parsed
              obtain ⟨records, records_eq, rfl⟩ := Option.map_eq_some_iff.mp parsed
              intro mapping member
              obtain ⟨entry, entryMem, rfl⟩ := List.mem_map.mp member
              exact lasting_of_rows kept records_eq (mem_ordered.mp (List.mem_of_mem_take entryMem))
          | _ =>
              cases parsed
              exact nothing

theorem allLasting_upsertRows (lasting : AllLasting labels) {rows : List JsValue}
    (kept : rows.all (gentleRow host) = true) {upserted : Upserted}
    (read : upsertRows host labels rows = some upserted) : AllLasting upserted.labels := by
  rw [upsertRows_eq] at read
  obtain ⟨records, records_eq, rfl⟩ := Option.map_eq_some_iff.mp read
  intro mapping member
  obtain ⟨entry, entryMem, rfl⟩ := List.mem_map.mp member
  rcases mem_of_foldl_combine (mem_ordered.mp entryMem) with new | old
  · exact lasting_of_rows kept records_eq (mem_ordered.mp new)
  · exact lasting _ (List.mem_map_of_mem old)

/-- The form refuses texts that would be cut. -/
theorem gentleRow_stored {ip label note : List Char} (labelShort : (trim label).length ≤ LABEL)
    (noteShort : (trim note).length ≤ NOTE) : gentleRow host (stored ⟨ip, label, note⟩) = true := by
  have labelText : text host (.string (String.ofList label)) = some label :=
    congrArg some String.toList_ofList
  have noteText : text host (.string (String.ofList note)) = some note :=
    congrArg some String.toList_ofList
  rw [stored, gentleRow, Bool.and_eq_true]
  simp only [JsValue.get, List.lookup, String.reduceBEq, Option.getD_some, keepsEnd, labelText,
    noteText, Option.all_some, truncateCharacters, List.take_of_length_le labelShort,
    List.take_of_length_le noteShort, decide_eq_true_iff]
  exact ⟨(Js.trimmed_trim label).ends, (Js.trimmed_trim note).ends⟩

theorem allLasting_upsertManual (lasting : AllLasting labels) {ip label note : List Char}
    {upserted : Upserted} (read : upsertManual host labels ip label note = some upserted) :
    AllLasting upserted.labels := by
  unfold upsertManual at read
  dsimp only at read
  split at read
  · cases read
    exact lasting
  · rename_i short
    rw [not_or, not_lt, not_lt] at short
    split at read
    · cases read
      exact lasting
    · have kept := @gentleRow_stored host ip label note short.1 short.2
      exact allLasting_upsertRows lasting (by rw [List.all_cons, kept]; rfl) read

theorem AllLasting.delete (lasting : AllLasting labels) (key : List Char) :
    AllLasting (labels.delete key) := by
  intro other otherMem
  obtain ⟨entry, entryMem, rfl⟩ := List.mem_map.mp otherMem
  exact lasting _ (List.mem_map_of_mem (Js.Map.mem_delete.mp entryMem).1)

theorem AllLasting.set (lasting : AllLasting labels) (key : List Char) {mapping : Mapping}
    (good : Lasting mapping) : AllLasting (labels.set key mapping) := by
  intro other otherMem
  obtain ⟨entry, entryMem, rfl⟩ := List.mem_map.mp otherMem
  rcases Js.Map.mem_set.mp entryMem with rfl | ⟨old, -⟩
  · exact good
  · exact lasting _ (List.mem_map_of_mem old)

theorem allLasting_edited (lasting : AllLasting labels) {key value : List Char} {field : Field}
    {writable : Bool} {mapping : Mapping}
    (found : labels.get? key = some mapping)
    (kept : gentle host ⟨labels, storage⟩ (.edit key field value writable) = true) :
    AllLasting (edited labels mapping key field value) := by
  have member := Js.Map.get?_eq_some_iff.mp found
  have before : Lasting mapping := lasting _ (List.mem_map_of_mem (f := Prod.snd) member)
  unfold edited
  cases field with
  | label =>
      dsimp only
      split
      · exact lasting.delete key
      · rw [gentle, decide_eq_true_iff] at kept
        exact lasting.set key ⟨kept, before.2⟩
  | note =>
      dsimp only
      split
      · exact lasting.delete key
      · rw [gentle, decide_eq_true_iff] at kept
        exact lasting.set key ⟨before.1, kept⟩

theorem allLasting_next (lasting : AllLasting state.ipLabels)
    (stepped : gentleNext host state action = some after) : AllLasting after.ipLabels := by
  rcases ite_eq_iff.mp stepped with ⟨kept, stepped⟩ | ⟨-, refused⟩
  · cases action with
    | load writable =>
        cases stepped
        exact allLasting_load kept
    | importFile rows writable =>
        rw [next] at stepped
        split at stepped
        · rename_i upserted read
          cases stepped
          exact allLasting_upsertRows lasting kept read
        · cases stepped
          exact lasting
    | submit ip label note writable =>
        rw [next] at stepped
        split at stepped
        · rename_i upserted read
          split at stepped
          · cases stepped
            exact lasting
          · cases stepped
            exact allLasting_upsertManual lasting read
        · cases stepped
          exact lasting
    | edit key field value writable =>
        rw [next] at stepped
        split at stepped
        · rename_i mapping found
          cases stepped
          exact allLasting_edited lasting found kept
        · cases stepped
          exact lasting
    | delete key writable =>
        cases stepped
        exact lasting.delete key
    | remove subject writable =>
        rw [next] at stepped
        split at stepped
        · cases stepped
          exact lasting.delete _
        · cases stepped
          exact lasting
  · cases refused

theorem allLasting_reachable (reachable : Reachable (gentleNext host) (start storage) state) :
    AllLasting state.ipLabels :=
  Reachable.invariant (fun state => AllLasting state.ipLabels) (fun _ member => (by cases member))
    (fun _ _ _ => allLasting_next) reachable

end Page

/-! ## The store over whole runs -/

/-- Keys are canonical, unique, in order and at most 500. -/
structure Ordered (host : Host) (labels : Labels) : Prop where
  canonical : ∀ key ∈ labels.keys, canonicalIPAddress key = key ∧ key ≠ []
  unique : labels.keys.Nodup
  sorted : labels.keys.Pairwise fun a b => compareCanonicalIP host.localeCompare a b ≤ 0
  size_le : labels.keys.length ≤ 500

/-- What an import does to labels: every row is counted, and a known address has
the last of its records. -/
structure Imports (host : Host) (labels : Labels) : Prop where
  count : ∀ rows upserted, upsertRows host labels rows = some upserted →
    upserted.imported + upserted.invalid + upserted.omitted = rows.length
  update : ∀ rows upserted records, upsertRows host labels rows = some upserted →
    rows.mapM (record host) = some records → ∀ key ∈ labels.keys, ∀ mapping,
      (records.reduceOption.filter fun mapping => mapping.ip = key).getLast? = some mapping →
        upserted.labels.get? key = some mapping

/-- What is saved is what the next page loads. -/
def Reloads (host : Host) (labels : Labels) : Prop :=
  loadIPLabels host (some (saveIPLabels labels)) true = ⟨labels, 0, 0⟩

/-- In every state of a page its labels are in order and imports are counted.
They are loaded as they were saved just when none of their texts ends in white
space, and so in every run that cuts no text after white space. -/
theorem labels_of_reachable {storage : Option JsValue} {state : State}
    (reachable : Reachable (next host) (start storage) state) :
    Ordered host state.ipLabels ∧ Imports host state.ipLabels ∧
      (Reloads host state.ipLabels ↔
        ∀ mapping ∈ state.ipLabels.values, Ends mapping.label ∧ Ends mapping.note) ∧
      (Reachable (gentleNext host) (start storage) state → Reloads host state.ipLabels) := by
  have keyed := keyed_reachable reachable
  have reloads := loadIPLabels_saveIPLabels_iff keyed
  refine ⟨⟨?_, state.ipLabels.nodup, keyed.sorted, ?_⟩, ⟨?_, ?_⟩, reloads, ?_⟩
  · intro key member
    obtain ⟨entry, entryMem, rfl⟩ := List.mem_map.mp member
    have canonical := (keyed.sound entry entryMem).canonical
    rw [keyed.keyed entry entryMem] at canonical
    exact ⟨canonicalIPAddress_of_canonical canonical, ne_nil_of_canonical canonical⟩
  · rw [Js.Map.keys, List.length_map]
    exact keyed.size_le
  · exact fun rows upserted => count_upsertRows
  · exact fun rows upserted records read records_eq key known mapping =>
      updated_upsertRows read records_eq known
  · exact fun gentle => reloads.mpr (allLasting_reachable gentle)

/-- A page whose rows hold texts only, and whose addresses have no zones. -/
def plainHost : Host where
  string := fun _ => none
  localeCompare := fun _ _ => 0
  consistent := Js.consistent_zero

/-- A row whose label has white space at the limit. -/
def cutRow : JsValue := .object [("ip", .string "192.0.2.1"),
  ("label", .string (String.ofList (List.replicate 255 'a' ++ [' ', 'b']))), ("note", .string "")]

/-- An import of the row keeps the white space. -/
theorem exists_cut : ∃ state, execute (next plainHost) (start (some (.array [])))
    [.importFile [cutRow] true] = some state ∧
      ∃ mapping ∈ state.ipLabels.values, ¬Ends mapping.label := by
  have imported : ((upsertRows plainHost .empty [cutRow]).any fun upserted =>
      upserted.labels.values.any fun mapping => !decide (Ends mapping.label)) = true := by
    decide +kernel
  obtain ⟨upserted, read, cut⟩ := (Option.any_eq_true _ _).mp imported
  obtain ⟨mapping, member, notEnds⟩ := List.any_eq_true.mp cut
  rw [Bool.not_eq_true', decide_eq_false_iff_not] at notEnds
  refine ⟨(start (some (.array []))).save upserted.labels true, ?_, mapping, member, notEnds⟩
  have stepped : next plainHost (start (some (.array []))) (.importFile [cutRow] true) =
      some ((start (some (.array []))).save upserted.labels true) := by
    rw [next, start, read]
  rw [execute, stepped, Option.bind_some, execute_nil]

/-- The label is not loaded as it was saved. -/
theorem cutRow_not_reloaded : ∃ state, execute (next plainHost) (start (some (.array [])))
    [.importFile [cutRow] true] = some state ∧
      ¬(Ordered plainHost state.ipLabels ∧ Imports plainHost state.ipLabels ∧
        Reloads plainHost state.ipLabels) := by
  obtain ⟨state, run, mapping, member, notEnds⟩ := exists_cut
  refine ⟨state, run, fun all => notEnds ?_⟩
  have keyed := keyed_reachable (Reachable.of_execute run)
  exact ((loadIPLabels_saveIPLabels_iff keyed).mp all.2.2 mapping member).1

theorem labels_of_cut : ∃ state, Reachable (next plainHost) (start (some (.array []))) state ∧
    Ordered plainHost state.ipLabels ∧ Imports plainHost state.ipLabels ∧
      (Reloads plainHost state.ipLabels ↔
        ∀ mapping ∈ state.ipLabels.values, Ends mapping.label ∧ Ends mapping.note) ∧
      (Reachable (gentleNext plainHost) (start (some (.array []))) state →
        Reloads plainHost state.ipLabels) := by
  obtain ⟨state, run, -⟩ := exists_cut
  exact ⟨state, Reachable.of_execute run, labels_of_reachable (Reachable.of_execute run)⟩

end IPLabels

end CheckNetwork.Frontend
