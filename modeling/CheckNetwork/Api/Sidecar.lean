import CheckNetwork.Frontend.GeoDetails
import CheckNetwork.Payload.Closed

/-!
# The sidecar as a reflected value

How the validator and the encoder see the details of a report, of which any
number of entries may be shown.
-/

namespace CheckNetwork.Api

open Go Diagnostic Payload Payload.Check

/-! ## Views -/

def stringType : GoType := .predeclared .string "string"

def intType : GoType := .predeclared .int "int"

def sourceType : GoType := ⟨.string, diagnosticPackage, "GeoIPSource", false, false⟩

def textValue (text : GoString) : Value := .string stringType text

def countValue (count : Nat) : Value := .int intType count

def sidecarSpelling : String := "*diagnostic.GeoDetailsSidecar"

def entriesSpelling : String := "[]diagnostic.GeoDetailsEntry"

def entryValue (entry : GeoDetailsEntry) : Value :=
  .struct (structType "GeoDetailsEntry") (geoDetailsEntryFields.zip
    ([textValue entry.address, textValue entry.provider,
        .string sourceType (.ofString entry.source.text)] ++ entry.values.map textValue ++
      [textValue entry.fetchedAt, textValue entry.expiresAt]))

/-- Every prefix of the entries begins at one place. -/
def entriesValue (count : Nat) : Value :=
  .slice (.unnamed .slice) (structType "GeoDetailsEntry") entriesSpelling 0 count

def sidecarValue (sidecar : GeoDetailsSidecar) : Value :=
  .struct (structType "GeoDetailsSidecar") (geoDetailsSidecarFields.zip
    [countValue sidecar.schemaVersion, countValue sidecar.total, countValue sidecar.omitted,
      entriesValue sidecar.entries.length])

/-- The candidate with the given number of entries. -/
def sidecarPointer (count : Nat) : Value :=
  .pointer (.unnamed .pointer) (structType "GeoDetailsSidecar") sidecarSpelling count

/-- Memory with the candidates in it. -/
def withDetails (heap : Heap) (raw : GeoDetailsSidecar) : Heap :=
  { heap with
    target := fun spelling address =>
      if spelling = sidecarSpelling then sidecarValue (raw.first address)
      else heap.target spelling address
    element := fun spelling address place =>
      if spelling = entriesSpelling then (raw.entries[place]?).elim .nilInterface entryValue
      else heap.element spelling address place }

/-! ## Strings -/

section Strings

variable {heap : Heap} {guard : Reference → Check → Check} {depth : Nat} {dynamic : Bool}

theorem walk_plain {value : Value} (proper : value.elem = value)
    (filled : value.isNilInterface = false) (plain : value.type.marshaler = false)
    (shallow : depth ≤ maxFullResponseDepth) :
    walk guard heap value depth dynamic = addNode.andThen
      (contents guard heap (fun dynamic child => walk guard heap child (depth + 1) dynamic)
        dynamic value) := by
  rw [walk, proper, filled, if_neg Bool.false_ne_true, if_neg (Nat.not_lt.mpr shallow),
    if_neg (by rw [plain]; simp)]

theorem mem_members {fields : List (StructField × Value)} {member : Member}
    (present : member ∈ members heap fields) : (member.field, member.value) ∈ fields := by
  obtain ⟨⟨field, value⟩, inside, same⟩ := List.mem_filterMap.mp present
  change member? heap field value = some member at same
  rw [member?] at same
  split at same
  · obtain ⟨⟨name, options⟩, _, kept⟩ := Option.bind_eq_some_iff.mp same
    dsimp only at kept
    split at kept
    · cases kept
    · cases kept
      exact inside
  · cases same

/-- A text of some type. -/
def IsText (value : Value) : Prop :=
  ∃ type text, value = .string type text ∧ type.marshaler = false

theorem isText_of_member {entry : GeoDetailsEntry} {fields : List (StructField × Value)}
    (same : entryValue entry = .struct (structType "GeoDetailsEntry") fields) {member : Member}
    (present : member ∈ members heap fields) : IsText member.value := by
  cases same
  have inside := List.of_mem_zip (mem_members present)
  rcases List.mem_append.mp inside.2 with front | times
  · rcases List.mem_append.mp front with three | others
    · simp only [List.mem_cons, List.not_mem_nil, or_false] at three
      rcases three with same | same | same
      · exact ⟨_, _, same, rfl⟩
      · exact ⟨_, _, same, rfl⟩
      · exact ⟨_, _, same, rfl⟩
    · obtain ⟨text, _, same⟩ := List.mem_map.mp others
      exact ⟨_, text, same.symm, rfl⟩
  · simp only [List.mem_cons, List.not_mem_nil, or_false] at times
    rcases times with same | same
    · exact ⟨_, _, same, rfl⟩
    · exact ⟨_, _, same, rfl⟩

/-- Nothing below an entry is a reference. -/
theorem reference_below_entry {entry : GeoDetailsEntry} {below : Value}
    (reached : Reaches heap (entryValue entry) below) : below.reference = none := by
  rcases reached.cases_head with here | ⟨child, inside, rest⟩
  · rw [← here]
    rfl
  · obtain ⟨member, present, rfl⟩ := List.mem_map.mp inside
    obtain ⟨type, text, same, _⟩ := isText_of_member rfl present
    rw [same] at rest
    rcases rest.cases_head with here | ⟨_, absurd, _⟩
    · rw [← here]
      rfl
    · cases absurd

/-- The guard is not felt in an entry, whatever is active. -/
theorem agree_entry (entry : GeoDetailsEntry) (active : List Reference) (depth : Nat)
    (dynamic : Bool) : Agree active (walk withActive heap (entryValue entry) depth dynamic)
      (walk (fun _ visit => visit) heap (entryValue entry) depth dynamic) := by
  apply agree_walk
  · rintro ⟨outer, _, _, _, reached, named, _⟩
    rw [reference_below_entry reached] at named
    cases named
  · intro below reference reached named
    rw [reference_below_entry reached] at named
    cases named

end Strings

/-! ## Failures -/

/-- A check that fails for want of room only. -/
def BudgetOnly (check : Check) : Prop :=
  ∀ meter failure, (check meter).1 = some failure → failure.isBudget = true

namespace BudgetOnly

variable {first second : Check}

theorem andThen (one : BudgetOnly first) (two : BudgetOnly second) :
    BudgetOnly (first.andThen second) := by
  intro meter failure failed
  cases outcome : (first meter).1 with
  | none =>
      rw [andThen_of_none outcome] at failed
      exact two _ _ failed
  | some other =>
      rw [andThen_of_some outcome] at failed
      exact one _ _ failed

theorem pass : BudgetOnly pass := fun _ _ failed => by cases failed

theorem all {checks : List Check} (each : ∀ check ∈ checks, BudgetOnly check) :
    BudgetOnly (Check.all checks) := by
  induction checks with
  | nil => exact pass
  | cons first rest ih =>
      rw [List.forall_mem_cons] at each
      exact each.1.andThen (ih each.2)

theorem addNode : BudgetOnly addNode := by
  intro meter failure failed
  rw [Payload.addNode] at failed
  dsimp only at failed
  split at failed <;> cases failed
  rfl

theorem addContainer (elements : Nat) : BudgetOnly (addContainer elements) := by
  intro meter failure failed
  rw [Payload.addContainer] at failed
  dsimp only at failed
  split_ifs at failed <;> cases failed <;> rfl

theorem addString (length : Nat) : BudgetOnly (addString length) := by
  intro meter failure failed
  rw [Payload.addString] at failed
  split at failed <;> cases failed
  rfl

theorem addTopologyNode (type : GoType) : BudgetOnly (addTopologyNode type) := by
  intro meter failure failed
  rw [Payload.addTopologyNode] at failed
  dsimp only at failed
  split_ifs at failed
  all_goals cases failed
  rfl

theorem addTopologyLink (type : GoType) : BudgetOnly (addTopologyLink type) := by
  intro meter failure failed
  rw [Payload.addTopologyLink] at failed
  dsimp only at failed
  split_ifs at failed
  all_goals cases failed
  rfl

theorem withActive {reference : Reference} {visit : Check} (inner : BudgetOnly visit) :
    BudgetOnly (withActive reference visit) := by
  intro meter failure failed
  rw [Payload.withActive] at failed
  split at failed
  · cases failed
    rfl
  · exact inner _ _ failed

variable {heap : Heap} {depth : Nat}

theorem text {value : Value} (isText : IsText value) (shallow : depth ≤ maxFullResponseDepth)
    (dynamic : Bool) : BudgetOnly (walk Payload.withActive heap value depth dynamic) := by
  obtain ⟨type, text, rfl, plain⟩ := isText
  rw [walk_plain rfl rfl (show (Value.string type text).type.marshaler = false from plain) shallow,
    contents]
  exact addNode.andThen (addString _)

theorem entry (entry : GeoDetailsEntry) (shallow : depth + 1 ≤ maxFullResponseDepth) :
    BudgetOnly (walk Payload.withActive heap (entryValue entry) depth false) := by
  rw [walk_plain rfl rfl rfl (Nat.le_of_succ_le shallow), entryValue, contents,
    if_pos (by decide)]
  apply addNode.andThen
  apply (addTopologyNode _).andThen
  apply (addTopologyLink _).andThen
  apply (addContainer _).andThen
  apply all
  rw [List.forall_mem_map]
  intro member present
  exact text (isText_of_member rfl present) shallow _

end BudgetOnly

/-! ## The walk over the candidates -/

section Candidates

variable {heap : Heap} {raw : GeoDetailsSidecar} {depth : Nat}

theorem target_sidecar (count : Nat) :
    (withDetails heap raw).target sidecarSpelling count = sidecarValue (raw.first count) := rfl

/-- The walk over the entries that are shown. -/
def entryChecks (guard : Reference → Check → Check) (heap : Heap) (raw : GeoDetailsSidecar)
    (depth count : Nat) : Check :=
  all ((List.range count).map fun place =>
    walk guard (withDetails heap raw) ((raw.entries[place]?).elim .nilInterface entryValue)
      depth false)

theorem walk_entries (count : Nat) (shallow : depth ≤ maxFullResponseDepth) :
    walk withActive (withDetails heap raw) (entriesValue count) depth false = addNode.andThen
      (if maxFullResponseContainerElements < count then fail .containerLimit
        else (addContainer count).andThen (if count = 0 then pass
          else withActive ⟨.slice, entriesSpelling, 0, count⟩
            (entryChecks withActive heap raw (depth + 1) count))) :=
  walk_plain rfl rfl rfl shallow

theorem members_sidecar (sidecar : GeoDetailsSidecar) :
    members heap (geoDetailsSidecarFields.zip [countValue sidecar.schemaVersion,
      countValue sidecar.total, countValue sidecar.omitted,
        entriesValue sidecar.entries.length]) =
    [⟨"schema_version", tagged "SchemaVersion" "schema_version", countValue sidecar.schemaVersion⟩,
      ⟨"total", tagged "Total" "total", countValue sidecar.total⟩,
      ⟨"omitted", tagged "Omitted" "omitted", countValue sidecar.omitted⟩,
      ⟨"entries", tagged "Entries" "entries", entriesValue sidecar.entries.length⟩] := rfl

/-- Counts are nodes, whatever they are. -/
theorem walk_count (number : Nat) (shallow : depth ≤ maxFullResponseDepth) :
    walk withActive heap (countValue number) depth false = addNode := by
  rw [walk_plain rfl rfl rfl shallow, countValue, contents, andThen_pass]

theorem walk_sidecar (sidecar : GeoDetailsSidecar) (shallow : depth < maxFullResponseDepth) :
    walk withActive heap (sidecarValue sidecar) depth false = addNode.andThen
      ((addTopologyNode (structType "GeoDetailsSidecar")).andThen
        ((addTopologyLink (structType "GeoDetailsSidecar")).andThen
          ((addContainer 4).andThen (addNode.andThen (addNode.andThen (addNode.andThen
            (walk withActive heap (entriesValue sidecar.entries.length) (depth + 1) false))))))) := by
  rw [walk_plain rfl rfl rfl shallow.le, sidecarValue, contents, if_pos (by decide),
    members_sidecar]
  change addNode.andThen ((addTopologyNode _).andThen ((addTopologyLink _).andThen
    ((addContainer 4).andThen ((walk withActive heap (countValue _) _ false).andThen
      ((walk withActive heap (countValue _) _ false).andThen
        ((walk withActive heap (countValue _) _ false).andThen
          ((walk withActive heap _ _ false).andThen pass))))))) = _
  rw [walk_count _ shallow, walk_count _ shallow, walk_count _ shallow, andThen_pass]

theorem walk_pointer (count : Nat) (shallow : depth ≤ maxFullResponseDepth) :
    walk withActive (withDetails heap raw) (sidecarPointer count) depth false = addNode.andThen
      (withActive ⟨.pointer, sidecarSpelling, count, 0⟩
        (walk withActive (withDetails heap raw) (sidecarValue (raw.first count)) (depth + 1)
          false)) := by
  rw [walk_plain rfl rfl rfl shallow, sidecarPointer, contents, if_pos (by decide),
    target_sidecar]

/-! ### Only for want of room -/

theorem budgetOnly_entries (count : Nat) (shallow : depth + 2 ≤ maxFullResponseDepth) :
    BudgetOnly (walk withActive (withDetails heap raw) (entriesValue count) depth false) := by
  rw [walk_entries count (by omega)]
  apply BudgetOnly.addNode.andThen
  split
  · intro meter failure failed
    cases failed
    rfl
  · apply (BudgetOnly.addContainer _).andThen
    split
    · exact .pass
    · apply BudgetOnly.withActive
      apply BudgetOnly.all
      rw [List.forall_mem_map]
      intro place _
      cases raw.entries[place]? with
      | none =>
          rw [Option.elim, walk]
          exact BudgetOnly.addNode
      | some entry => exact BudgetOnly.entry entry shallow

theorem budgetOnly_sidecar (sidecar : GeoDetailsSidecar) (shallow : depth + 3 ≤ maxFullResponseDepth) :
    BudgetOnly (walk withActive (withDetails heap raw) (sidecarValue sidecar) depth false) := by
  rw [walk_sidecar sidecar (by omega)]
  apply BudgetOnly.addNode.andThen
  apply (BudgetOnly.addTopologyNode _).andThen
  apply (BudgetOnly.addTopologyLink _).andThen
  apply (BudgetOnly.addContainer _).andThen
  apply BudgetOnly.addNode.andThen
  apply BudgetOnly.addNode.andThen
  apply BudgetOnly.addNode.andThen
  exact budgetOnly_entries _ shallow

theorem budgetOnly_pointer (count : Nat) (shallow : depth + 4 ≤ maxFullResponseDepth) :
    BudgetOnly (walk withActive (withDetails heap raw) (sidecarPointer count) depth false) := by
  rw [walk_pointer count (by omega)]
  apply BudgetOnly.addNode.andThen
  apply BudgetOnly.withActive
  exact budgetOnly_sidecar _ shallow

/-! ### Fewer entries -/

/-- No slice is active. -/
def NoSlice (active : List Reference) : Prop := ∀ reference ∈ active, reference.kind ≠ .slice

/-- What passes the first check passes the second, inside whatever references
but slices. -/
def Easier (hard easy : Check) : Prop :=
  ∀ (meter : Meter) (first second : List Reference), NoSlice first → NoSlice second →
    (hard { meter with active := first }).1 = none → (easy { meter with active := second }).1 = none

theorem Easier.andThen {first hard easy : Check} (indifferent : Indifferent first)
    (easier : Easier hard easy) : Easier (first.andThen hard) (first.andThen easy) := by
  intro meter left right plain plain' passed
  rw [andThen_eq_none_iff, indifferent] at passed ⊢
  exact ⟨passed.1, easier _ _ _ plain plain' passed.2⟩

/-- The guard is not felt in the entries. -/
theorem agree_entryChecks (active : List Reference) (depth count : Nat) :
    Agree active (entryChecks withActive heap raw depth count)
      (entryChecks (fun _ visit => visit) heap raw depth count) := by
  apply Agree.all
  · exact fun place => restores_unguarded _ _ _ _
  · intro place _
    cases raw.entries[place]? with
    | none =>
        rw [Option.elim, walk, walk]
        exact .refl _
    | some entry => exact agree_entry entry active depth false

theorem easier_entryChecks (first second : List Reference) (depth count : Nat) (meter : Meter)
    (passed : (entryChecks withActive heap raw depth (count + 1)
      { meter with active := first }).1 = none) :
    (entryChecks withActive heap raw depth count { meter with active := second }).1 = none := by
  have indifferent : Indifferent (entryChecks (fun _ visit => visit) heap raw depth count) :=
    kept_indifferent.all_map (fun _ => indifferent_unguarded _ _ _ _) _
  rw [agree_entryChecks _ _ _ _ rfl, entryChecks, List.range_succ, List.map_append,
    List.map_singleton, all_concat, andThen_eq_none_iff] at passed
  have shorter : (entryChecks (fun _ visit => visit) heap raw depth count
    { meter with active := first }).1 = none := passed.1
  rw [agree_entryChecks _ _ _ _ rfl, indifferent meter second]
  rwa [indifferent meter first] at shorter

theorem addContainer_of_le {fewer more : Nat} (le : fewer ≤ more) {meter : Meter}
    (passed : (addContainer more meter).1 = none) :
    addContainer fewer meter = addContainer more meter := by
  rw [addContainer] at passed ⊢
  rw [addContainer]
  split at passed
  · cases passed
  · next few => rw [if_neg few, if_neg (fun many => few (many.trans_le le))]

theorem easier_entries (count : Nat) (shallow : depth ≤ maxFullResponseDepth) :
    Easier (walk withActive (withDetails heap raw) (entriesValue (count + 1)) depth false)
      (walk withActive (withDetails heap raw) (entriesValue count) depth false) := by
  rw [walk_entries _ shallow, walk_entries _ shallow]
  apply Easier.andThen kept_indifferent.addNode
  intro meter first second plain plain' passed
  split at passed
  · cases passed
  · next few =>
      rw [andThen_eq_none_iff, if_neg (Nat.succ_ne_zero count),
        kept_indifferent.addContainer (count + 1) meter] at passed
      rw [if_neg (fun many => few (many.trans (Nat.lt_succ_self count))), andThen_eq_none_iff,
        kept_indifferent.addContainer count meter, addContainer_of_le (Nat.le_succ count) passed.1]
      refine ⟨passed.1, ?_⟩
      split
      · rfl
      · have within := (withActive_eq_none passed.2).2
        rw [withActive, if_neg]
        · exact easier_entryChecks _ _ _ _ _ within
        · exact fun inside => plain' _ inside rfl

theorem easier_sidecar {count : Nat} (room : count < raw.entries.length)
    (shallow : depth < maxFullResponseDepth) :
    Easier
      (walk withActive (withDetails heap raw) (sidecarValue (raw.first (count + 1))) depth false)
      (walk withActive (withDetails heap raw) (sidecarValue (raw.first count)) depth false) := by
  have fewer : (raw.first count).entries.length = count := List.length_take_of_le room.le
  have more : (raw.first (count + 1)).entries.length = count + 1 := List.length_take_of_le room
  rw [walk_sidecar _ shallow, walk_sidecar _ shallow, fewer, more]
  apply Easier.andThen kept_indifferent.addNode
  apply Easier.andThen (kept_indifferent.addTopologyNode _)
  apply Easier.andThen (kept_indifferent.addTopologyLink _)
  apply Easier.andThen (kept_indifferent.addContainer _)
  apply Easier.andThen kept_indifferent.addNode
  apply Easier.andThen kept_indifferent.addNode
  apply Easier.andThen kept_indifferent.addNode
  exact easier_entries count shallow

theorem easier_pointer {count : Nat} (room : count < raw.entries.length)
    (shallow : depth + 1 < maxFullResponseDepth) {meter : Meter} (idle : meter.active = [])
    (passed : (walk withActive (withDetails heap raw) (sidecarPointer (count + 1)) depth false
      meter).1 = none) :
    (walk withActive (withDetails heap raw) (sidecarPointer count) depth false meter).1 = none := by
  rw [walk_pointer _ (by omega), andThen_eq_none_iff] at passed ⊢
  refine ⟨passed.1, ?_⟩
  have within := (withActive_eq_none passed.2).2
  have still : (addNode meter).2.active = [] := (restores_guarded.addNode meter).trans idle
  rw [withActive, still, if_neg List.not_mem_nil]
  have plain : ∀ number, NoSlice [⟨.pointer, sidecarSpelling, number, 0⟩] := by
    intro number reference member
    rw [List.mem_singleton.mp member]
    exact fun same => by cases same
  rw [still] at within
  exact easier_sidecar room shallow _ _ _ (plain _) (plain _) within

end Candidates

end CheckNetwork.Api
