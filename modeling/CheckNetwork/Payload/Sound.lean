import CheckNetwork.Payload.Encode
import CheckNetwork.Payload.Sharing

/-!
# The validator and the encoder

What passes the validator is written in full, unless the limit on the size is
reached or an instant in it has no JSON text.
-/

namespace CheckNetwork.Payload

open Go Diagnostic

/-- Some instant in a graph is one that `MarshalJSON` refuses. -/
def Undated (heap : Heap) (value : Value) : Prop :=
  ∃ below time, Reaches heap value below ∧ below.elem = .time time ∧ ¬ Time.Marshals time

/-- Pieces that stop only where an instant has no text, and do stop there. -/
def Tells (heap : Heap) (value : Value) (pieces : List Piece) : Prop :=
  ∀ failure, .error failure ∈ pieces ↔ failure = .serialization ∧ Undated heap value

section Graph

variable {heap : Heap} {value : Value}

theorem undated_iff_time {time : Time} (same : value.elem = .time time) :
    Undated heap value ↔ ¬ Time.Marshals time := by
  constructor
  · rintro ⟨below, other, reached, found, refused⟩
    rcases reached.cases_head with here | ⟨child, member, _⟩
    · rw [← here, same] at found
      cases found
      exact refused
    · rw [Child, ← children_elem, same] at member
      cases member
  · exact fun refused => ⟨value, time, .refl, same, refused⟩

theorem undated_iff_child (other : ∀ time, value.elem ≠ .time time) :
    Undated heap value ↔ ∃ child ∈ children heap value, Undated heap child := by
  constructor
  · rintro ⟨below, time, reached, found, refused⟩
    rcases reached.cases_head with here | ⟨child, member, rest⟩
    · rw [← here] at found
      exact absurd found (other time)
    · exact ⟨child, member, below, time, rest, found, refused⟩
  · rintro ⟨child, member, below, time, rest, found, refused⟩
    exact ⟨below, time, .head member rest, found, refused⟩

theorem undated_elem : Undated heap value.elem ↔ Undated heap value := by
  by_cases dated : ∃ time, value.elem = .time time
  · obtain ⟨time, same⟩ := dated
    rw [undated_iff_time same, undated_iff_time (value.elem_elem.trans same)]
  · have other : ∀ time, value.elem ≠ .time time := fun time same => dated ⟨time, same⟩
    have other_elem : ∀ time, value.elem.elem ≠ .time time := by
      rw [Value.elem_elem]
      exact other
    rw [undated_iff_child other, undated_iff_child other_elem, children_elem]

/-- Pieces tell of a value when they tell of its parts. -/
theorem tells_of_items {A : Type} (items : List A) (values : A → Value) {pieces : List Piece}
    (other : ∀ time, value.elem ≠ .time time)
    (parts : ∀ child, child ∈ children heap value ↔ ∃ item ∈ items, values item = child)
    (tells : ∀ failure, .error failure ∈ pieces ↔
      failure = .serialization ∧ ∃ item ∈ items, Undated heap (values item)) :
    Tells heap value pieces := by
  intro failure
  rw [tells, undated_iff_child other]
  apply and_congr_right'
  constructor
  · rintro ⟨item, member, undated⟩
    exact ⟨values item, (parts _).mpr ⟨item, member, rfl⟩, undated⟩
  · rintro ⟨child, member, undated⟩
    obtain ⟨item, inside, rfl⟩ := (parts child).mp member
    exact ⟨item, inside, undated⟩

end Graph

section Pieces

variable {failure : Failure}

theorem error_mem_separated (parts : List (List Piece)) :
    .error failure ∈ separated parts ↔ ∃ part ∈ parts, .error failure ∈ part := by
  induction parts using separated.induct with
  | case1 => simp [separated]
  | case2 last => simp [separated]
  | case3 first second rest ih =>
      rw [separated, List.mem_append, List.mem_cons, ih, List.exists_mem_cons_iff]
      simp

theorem error_mem_enclosed (opening closing : Char) (parts : List (List Piece)) :
    .error failure ∈ enclosed opening closing parts ↔ ∃ part ∈ parts, .error failure ∈ part := by
  rw [enclosed, List.mem_cons, List.mem_append, error_mem_separated]
  simp

theorem error_mem_named (name : List Char) (value : List Piece) :
    .error failure ∈ named name value ↔ .error failure ∈ value := by
  simp [named]

theorem error_notMem_encodeByteSlice (bytes : List Nat) :
    .error failure ∉ encodeByteSlice bytes := by
  simp [encodeByteSlice]

/-- The parts of a value that are all written tell of all that is below them. -/
theorem tells_of_parts {heap : Heap} {A : Type} {write : A → Option (List Piece)}
    {values : A → Value} {items : List A}
    (each : ∀ item ∈ items, ∃ part, write item = some part ∧ Tells heap (values item) part) :
    ∃ parts, items.mapM write = some parts ∧ ∀ opening closing failure,
      .error failure ∈ enclosed opening closing parts ↔
        failure = .serialization ∧ ∃ item ∈ items, Undated heap (values item) := by
  simp only [error_mem_enclosed]
  induction items with
  | nil => exact ⟨[], rfl, by simp⟩
  | cons first rest ih =>
      rw [List.forall_mem_cons] at each
      obtain ⟨part, written, tells⟩ := each.1
      obtain ⟨parts, others, rest_tells⟩ := ih each.2
      refine ⟨part :: parts, ?_, ?_⟩
      · rw [List.mapM_cons, written, others]
        rfl
      · intro opening closing failure
        rw [List.exists_mem_cons_iff, List.exists_mem_cons_iff, tells,
          rest_tells opening closing failure, and_or_left]

end Pieces

section Encode

variable {library : Library} {heap : Heap} {value : Value}

/-- A value is written when its parts are. -/
theorem tells_of_tokens {visit : Value → Option (List Piece)} (regular : value.isRegular = true)
    (each : ∀ child ∈ children heap value, ∃ pieces, visit child = some pieces ∧
      Tells heap child pieces) :
    ∃ pieces, tokens library heap visit value = some pieces ∧ Tells heap value pieces := by
  have leaf : ∀ {value : Value} {text : List Char}, (∀ time, value.elem ≠ .time time) →
      children heap value = [] → Tells heap value [.ok text] := by
    intro value text other empty failure
    rw [undated_iff_child other, empty]
    simp
  cases value with
  | nilInterface | interface _ | other => cases regular
  | nilPointer | nilMap | nilSlice | bool | int | uint | string =>
      exact ⟨_, rfl, leaf (fun _ same => by cases same) rfl⟩
  | float type single value =>
      cases value with
      | nan | infinite => cases regular
      | negativeZero => exact ⟨_, rfl, leaf (fun _ same => by cases same) rfl⟩
      | finite value =>
          have shown : ∃ text, F64.jsonText (.finite value) = some text := by
            rw [F64.jsonText]
            split_ifs
            · exact ⟨_, rfl⟩
            · exact ⟨_, rfl⟩
            · exact ⟨_, rfl⟩
          obtain ⟨text, shown⟩ := shown
          rw [tokens, shown]
          exact ⟨_, rfl, leaf (fun _ same => by cases same) rfl⟩
  | time value =>
      refine ⟨_, rfl, fun failure => ?_⟩
      rw [undated_iff_time rfl, Time.marshalJSON]
      split_ifs with marshals
      · simp [encodeLeaf, marshals]
      · simp [encodeLeaf, marshals]
  | pointer type target spelling address =>
      obtain ⟨pieces, written, tells⟩ := each _ List.mem_cons_self
      refine ⟨pieces, written, ?_⟩
      apply tells_of_items [heap.target spelling address] id (fun _ same => by cases same)
      · simp [children, eq_comm]
      · intro failure
        rw [tells]
        simp
  | struct type fields =>
      rw [children, List.forall_mem_map] at each
      have parts : ∀ member ∈ members heap fields, ∃ part,
          (visit member.value).map (named (Json.quote member.name)) = some part ∧
            Tells heap member.value part := by
        intro member present
        obtain ⟨pieces, written, tells⟩ := each member present
        refine ⟨_, by rw [written]; rfl, fun failure => ?_⟩
        rw [error_mem_named, tells]
      obtain ⟨parts, written, tells⟩ := tells_of_parts parts
      refine ⟨_, by rw [tokens, written]; rfl, ?_⟩
      exact tells_of_items _ _ (fun _ same => by cases same) (fun child => List.mem_map) (tells _ _)
  | map type key spelling address =>
      rw [children, List.forall_mem_map] at each
      have parts : ∀ entry ∈ (heap.entries spelling address).mergeSort keyBefore, ∃ part,
          (visit entry.2).map (named (Json.quote entry.1)) = some part ∧
            Tells heap entry.2 part := by
        intro entry present
        obtain ⟨pieces, written, tells⟩ := each entry (List.mem_mergeSort.mp present)
        refine ⟨_, by rw [written]; rfl, fun failure => ?_⟩
        rw [error_mem_named, tells]
      obtain ⟨parts, written, tells⟩ := tells_of_parts parts
      refine ⟨_, by rw [tokens, written]; rfl, ?_⟩
      apply tells_of_items _ _ (fun _ same => by cases same) _ (tells _ _)
      simp only [List.mem_mergeSort]
      exact fun child => List.mem_map
  | slice type element spelling address length =>
      rw [tokens]
      by_cases bytes : element.kind = .uint8
      · rw [if_pos bytes]
        refine ⟨_, rfl, ?_⟩
        apply tells_of_items (List.range length) _ (fun _ same => by cases same)
          (fun child => List.mem_map)
        intro failure
        simp only [error_notMem_encodeByteSlice, false_iff, not_and]
        rintro - ⟨place, _, undated⟩
        rw [Heap.index, if_pos bytes, undated_iff_child (fun _ same => by cases same)] at undated
        simp [children] at undated
      · rw [if_neg bytes]
        rw [children, List.forall_mem_map] at each
        simp only [Heap.index, if_neg bytes] at each
        obtain ⟨parts, written, tells⟩ := tells_of_parts each
        refine ⟨_, by rw [written]; rfl, ?_⟩
        apply tells_of_items _ _ (fun _ same => by cases same) _ (tells _ _)
        intro child
        rw [children, List.mem_map]
        simp only [Heap.index, if_neg bytes]
  | array type elements =>
      have same : children heap (.array type elements) = elements := rfl
      rw [same] at each
      obtain ⟨parts, written, tells⟩ := tells_of_parts each
      refine ⟨_, by rw [tokens, written]; rfl, ?_⟩
      apply tells_of_items _ _ (fun _ same => by cases same) _ (tells _ _)
      simp [same]

/-- The encoder comes to an end on what the validator passes. -/
theorem encode_of_valid (library : Library) {depth : Nat} {active : List Reference}
    (valid : Valid heap depth active value) (calls : Nat) (some_call : 0 < calls)
    (enough : maxFullResponseDepth + 2 ≤ calls + depth) :
    ∃ pieces, encode library heap calls value = some pieces ∧ Tells heap value pieces := by
  induction valid generalizing calls with
  | @null depth active value null =>
      obtain ⟨calls, rfl⟩ := Nat.exists_eq_succ_of_ne_zero some_call.ne'
      cases inner : value.elem with
      | nilInterface =>
          refine ⟨_, by rw [encode, inner]; rfl, fun failure => ?_⟩
          rw [undated_iff_child (fun _ same => by rw [inner] at same; cases same),
            ← children_elem, inner]
          simp [children]
      | _ => rw [inner] at null; cases null
  | @node depth active value shallow regular outside inside ih =>
      obtain ⟨calls, rfl⟩ := Nat.exists_eq_succ_of_ne_zero some_call.ne'
      have each : ∀ child ∈ children heap value.elem, ∃ pieces,
          encode library heap calls child = some pieces ∧ Tells heap child pieces := by
        intro child member
        rw [children_elem] at member
        exact ih child member calls (by omega) (by omega)
      obtain ⟨pieces, written, tells⟩ := tells_of_tokens regular each
      refine ⟨pieces, written, fun failure => ?_⟩
      rw [tells, undated_elem]

end Encode

section Write

variable {pieces : List Piece} {data : List Char}

/-- Pieces without an error are written, or reach the limit. -/
theorem write_of_texts (texts : ∀ failure, .error failure ∉ pieces) (limit : Nat)
    (data : List Char) :
    (∃ whole, write limit pieces data = .ok whole) ∨ write limit pieces data = .error .tooLarge := by
  induction pieces generalizing data with
  | nil => exact .inl ⟨data, rfl⟩
  | cons first rest ih =>
      cases first with
      | error failure => exact absurd List.mem_cons_self (texts failure)
      | ok text =>
          rw [write]
          split
          · exact .inr rfl
          · exact ih (fun failure member => texts failure (List.mem_cons_of_mem _ member)) _

/-- Under some limit the writes stop at their first error. -/
theorem write_of_error {failure : Failure} (stops : .error failure ∈ pieces)
    (only : ∀ other, .error other ∈ pieces → other = failure) (data : List Char) :
    ∃ limit, ∀ larger, limit ≤ larger → write larger pieces data = .error failure := by
  induction pieces generalizing data with
  | nil => cases stops
  | cons first rest ih =>
      cases first with
      | error other =>
          rw [only other List.mem_cons_self]
          exact ⟨0, fun _ _ => rfl⟩
      | ok text =>
          have later : .error failure ∈ rest := by
            rcases List.mem_cons.mp stops with same | later
            · cases same
            · exact later
          obtain ⟨limit, writes⟩ := ih later
            (fun other member => only other (List.mem_cons_of_mem _ member)) (data ++ text)
          refine ⟨max limit (utf8Length data + utf8Length text), fun larger le => ?_⟩
          have room := (Nat.le_max_right _ _).trans le
          rw [write, if_neg (Nat.not_lt.mpr room)]
          exact writes larger ((Nat.le_max_left _ _).trans le)

end Write

/-- The encoder comes to an end, and nothing but the limit on the size stops
it. -/
def Encodes (library : Library) (heap : Heap) (root : Value) : Prop :=
  ∃ calls, ∀ more ≥ calls, ∃ pieces, encode library heap more root = some pieces ∧
    ∀ limit, (∃ whole, write limit pieces [] = .ok whole) ∨
      write limit pieces [] = .error .tooLarge

theorem encodes_iff {library : Library} {heap : Heap} {root : Value}
    (passed : (validate heap root .fresh).1 = none) :
    Encodes library heap root ↔ ¬ Undated heap root := by
  have valid := valid_of_walk passed
  constructor
  · rintro ⟨calls, ends⟩ undated
    obtain ⟨pieces, written, stops⟩ := ends (calls + maxFullResponseDepth + 2) (by omega)
    obtain ⟨same, again, tells⟩ := encode_of_valid library valid
      (calls + maxFullResponseDepth + 2) (by omega) (by omega)
    rw [written] at again
    cases again
    obtain ⟨limit, fails⟩ := write_of_error ((tells _).mpr ⟨rfl, undated⟩)
      (fun other member => ((tells other).mp member).1) []
    rcases stops limit with ⟨whole, done⟩ | large
    · rw [fails limit (Nat.le_refl _)] at done
      cases done
    · rw [fails limit (Nat.le_refl _)] at large
      cases large
  · intro dated
    refine ⟨maxFullResponseDepth + 2, fun more enough => ?_⟩
    obtain ⟨pieces, written, tells⟩ := encode_of_valid library valid more (by omega) (by omega)
    refine ⟨pieces, written, fun limit => write_of_texts ?_ limit []⟩
    intro failure member
    exact dated ((tells failure).mp member).2

/-- The validator comes to an end, rejects what holds a reference cycle, takes
no shared reference for one, and leaves the active references as it found them.
What it passes is encoded, or too large, exactly when `MarshalJSON` accepts
every instant in it. -/
theorem validate_sound (library : Library) (heap : Heap) (root : Value) :
    (Cyclic heap root → (validate heap root .fresh).1 ≠ none) ∧
      (¬ Cyclic heap root → validate heap root .fresh = survey heap root .fresh) ∧
        (∀ depth dynamic meter,
          (walk withActive heap root depth dynamic meter).2.active = meter.active) ∧
          ((validate heap root .fresh).1 = none →
            (Encodes library heap root ↔ ¬ Undated heap root)) := by
  refine ⟨?_, ?_, ?_, encodes_iff⟩
  · intro cyclic passed
    exact (valid_of_walk passed).acyclic cyclic
  · exact fun acyclic => validate_eq_survey .fresh acyclic rfl
  · exact fun depth dynamic meter => restores_walk heap root depth dynamic meter

/-! ## A certificate that expires after the year 9999 -/

namespace LateExpiry

/-- `99991231235959-0100`, in UTC. -/
def expiry : Time :=
  ⟨(⟨10000, 1, 1⟩ : Calendar.Date).days * Go.Time.nanosecondsPerDay + 3599 * 1000000000, 0⟩

def started : Time := ⟨(⟨2026, 1, 1⟩ : Calendar.Date).days * Go.Time.nanosecondsPerDay, 0⟩

def text (value : String) : Value := .string (.predeclared .string "string") value

def count (value : Int) : Value := .int (.predeclared .int "int64") value

def details : Value :=
  .map (.unnamed .map) (.predeclared .string "string") "map[string]interface {}" 1

def result : Value :=
  .struct (structType "Result") (resultFields.zip
    [text "imaps", text "mail.example.test:993", text "healthy", count 12, .time started, text "",
      text "", details])

def heap : Heap where
  target _ _ := .nilInterface
  entries _ _ := [("certificate_expires_at", .interface (.time expiry))]
  element _ _ _ := result
  byte _ _ _ := 0

def report : Value :=
  .struct (structType "Report") (reportFields.zip
    [text "7f3a", text "healthy", .time started, count 12,
      .struct (structType "Summary") (summaryFields.zip [count 1, count 1, count 0]),
      .slice (.unnamed .slice) (structType "Result") "[]diagnostic.Result" 2 1,
      .nilPointer (.unnamed .pointer) (structType "Analysis"),
      .nilPointer (.unnamed .pointer) (structType "CompactTopology"),
      .nilPointer (.unnamed .pointer) (structType "GeoDetailsSidecar"),
      .nilPointer (.unnamed .pointer) (structType "CompactTopologyBuildResult")])

end LateExpiry

/-- The report passes the validator, and no limit on the size lets the encoder
write it. -/
theorem late_expiry_not_encoded :
    (validate LateExpiry.heap LateExpiry.report .fresh).1 = none ∧
      ∀ library, ¬ Encodes library LateExpiry.heap LateExpiry.report := by
  have passed : (validate LateExpiry.heap LateExpiry.report .fresh).1 = none := by decide +kernel
  refine ⟨passed, fun library => ?_⟩
  rw [encodes_iff passed, not_not]
  have results : (children LateExpiry.heap LateExpiry.report)[5]? =
      some (.slice (.unnamed .slice) (structType "Result") "[]diagnostic.Result" 2 1) := rfl
  have details : (children LateExpiry.heap LateExpiry.result)[5]? = some LateExpiry.details := rfl
  refine ⟨.interface (.time LateExpiry.expiry), LateExpiry.expiry, ?_, rfl, by decide⟩
  apply Relation.ReflTransGen.head (List.mem_of_getElem? results)
  apply Relation.ReflTransGen.head (b := LateExpiry.result) List.mem_cons_self
  apply Relation.ReflTransGen.head (List.mem_of_getElem? details)
  exact .single List.mem_cons_self

end CheckNetwork.Payload
