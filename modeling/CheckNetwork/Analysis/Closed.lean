import CheckNetwork.Analysis.Explained
import Mathlib.Data.List.Nodup
import Mathlib.Data.List.Perm.Basic
import Mathlib.Logic.ExistsUnique

/-!
# The references of an analysis

The builder numbers evidence, findings and actions in order, keeps one finding
for each key, and hands every evidence item to one finding.
-/

namespace CheckNetwork.Analysis

open Diagnostic Go

/-! ## Numbers -/

/-- The identifiers of the first items. -/
def numbered (letter : String) (count : Nat) : List String :=
  (List.range count).map fun index => numberedID letter (index + 1)

theorem numbered_succ (letter : String) (count : Nat) :
    numbered letter (count + 1) = numbered letter count ++ [numberedID letter (count + 1)] := by
  simp [numbered, List.range_succ]

theorem toList_numberedID (letter : String) (number : Nat) : (numberedID letter number).toList =
    letter.toList ++ '-' :: (List.replicate (3 - (Nat.toDigits 10 number).length) '0' ++
      Nat.toDigits 10 number) := by
  simp [numberedID, F64.zeros, Nat.toString_eq_repr, Nat.repr_eq_ofList_toDigits]

/-- The number is read off the digits. -/
theorem numberedID_injective (letter : String) : Function.Injective (numberedID letter) := by
  intro first second same
  have digits_eq := congrArg String.toList same
  rw [toList_numberedID, toList_numberedID, List.append_cancel_left_eq, List.cons.injEq]
    at digits_eq
  have number_eq := congrArg (fun digits => Nat.ofDigitChars 10 digits 0) digits_eq.2
  simpa [Nat.ofDigitChars_append, Nat.ofDigitChars_replicate_zero] using number_eq

theorem nodup_numbered (letter : String) (count : Nat) : (numbered letter count).Nodup := by
  refine List.Nodup.map ?_ List.nodup_range
  intro first second same
  exact Nat.add_right_cancel (numberedID_injective letter same)

/-! ## Keys -/

/-- The key under which the findings of a rule are joined. -/
def findingKey (facts : Facts) (rule : Rule) : GoString :=
  GoString.ofString rule.code ++ separator ++ GoString.ofString facts.kind.text ++
    separator ++ facts.address

/-- Note a key once. -/
def recordKey (keys : List GoString) (key : GoString) : List GoString :=
  if key ∈ keys then keys else keys ++ [key]

theorem mem_recordKey {keys : List GoString} {key other : GoString} :
    other ∈ recordKey keys key ↔ other ∈ keys ∨ other = key := by
  unfold recordKey
  split
  · rename_i known
    constructor
    · exact .inl
    · rintro (member | rfl)
      · exact member
      · exact known
  · simp

theorem nodup_recordKey {keys : List GoString} {key : GoString} (nodup : keys.Nodup) :
    (recordKey keys key).Nodup := by
  unfold recordKey
  split
  · exact nodup
  · rename_i fresh
    rw [List.nodup_append]
    refine ⟨nodup, List.nodup_singleton key, ?_⟩
    intro other member last lastMem same
    rw [List.mem_singleton] at lastMem
    rw [← lastMem, ← same] at fresh
    exact fresh member

namespace Builder

/-! ## The invariant -/

/-- A builder whose identifiers and references belong together, with the keys
of its findings. -/
structure Closed (builder : Builder) (keys : List GoString) : Prop where
  evidence_ids : builder.analysis.evidence.map Evidence.id =
    numbered "e" builder.analysis.evidence.length
  finding_ids : builder.analysis.findings.map Finding.id =
    numbered "f" builder.analysis.findings.length
  action_ids : builder.analysis.actions.map Action.id =
    numbered "a" builder.analysis.actions.length
  keys_nodup : keys.Nodup
  keys_length : keys.length = builder.analysis.findings.length
  finding_of_key : ∀ key index, builder.findingByKey key = some index ↔ keys[index]? = some key
  action_of_key : ∀ key index, builder.actionByKey key = some index →
    index < builder.analysis.actions.length
  referenced : (builder.analysis.findings.flatMap Finding.evidenceIDs).Perm
    (builder.analysis.evidence.map Evidence.id)
  known : ∀ finding ∈ builder.analysis.findings, ∀ id ∈ finding.actionIDs,
    id ∈ builder.analysis.actions.map Action.id

variable {builder : Builder} {facts : Facts} {keys : List GoString}

/-- The evidence that a rule adds. -/
def evidenceOf (builder : Builder) (facts : Facts) (rule : Rule) : Evidence where
  id := numberedID "e" (builder.analysis.evidence.length + 1)
  resultIndex := facts.index
  kind := facts.kind
  attempt := 0
  address := facts.address
  signal := rule.signal
  observed := rule.observed
  expected := rule.expected
  provenance := rule.provenance

/-- The builder with the evidence of a rule that no finding has yet. -/
def observe (builder : Builder) (facts : Facts) (rule : Rule) : Builder :=
  { builder with analysis :=
      { builder.analysis with evidence :=
          builder.analysis.evidence ++ [builder.evidenceOf facts rule] } }

/-- What choosing an action leaves alone, and the action it chooses. -/
structure Acted (before after : Builder) (index : Nat) : Prop where
  evidence_eq : after.analysis.evidence = before.analysis.evidence
  findings_eq : after.analysis.findings = before.analysis.findings
  findingByKey_eq : after.findingByKey = before.findingByKey
  index_lt : index < after.analysis.actions.length
  action_ids : after.analysis.actions.map Action.id = numbered "a" after.analysis.actions.length
  kept : ∀ id ∈ before.analysis.actions.map Action.id, id ∈ after.analysis.actions.map Action.id
  action_of_key : ∀ key place, after.actionByKey key = some place →
    place < after.analysis.actions.length
  le : after.analysis.actions.length ≤ before.analysis.actions.length + 1

theorem acted_withAction (rule : Rule)
    (ids : builder.analysis.actions.map Action.id = numbered "a" builder.analysis.actions.length)
    (bound : ∀ key place, builder.actionByKey key = some place →
      place < builder.analysis.actions.length) :
    Acted builder (builder.withAction facts rule).1 (builder.withAction facts rule).2 := by
  unfold withAction
  dsimp only
  cases found : builder.actionByKey (GoString.ofString rule.code ++ separator ++ facts.address) with
  | some index =>
      exact ⟨rfl, rfl, rfl, bound _ _ found, ids, fun _ member => member, bound, Nat.le_succ _⟩
  | none =>
      refine ⟨rfl, rfl, rfl, ?_, ?_, ?_, ?_, ?_⟩
      · simp
      · simp [ids, numbered_succ]
      · intro id member
        rw [List.map_append]
        exact List.mem_append_left _ member
      · intro key place known
        simp only [Function.update_apply] at known
        rw [List.length_append, List.length_singleton]
        split at known
        · rw [Option.some.injEq] at known
          omega
        · have lt := bound key place known
          omega
      · simp

/-- Adding a rule is choosing its action and then joining or opening a
finding. -/
theorem add_cases (rule : Rule) {after : Builder} {action : Nat}
    (acted_eq : (builder.observe facts rule).withAction facts rule = (after, action)) :
    builder.add facts rule =
      match after.findingByKey (findingKey facts rule) with
      | some index =>
          { after with analysis :=
              { after.analysis with findings := after.analysis.findings.modify index fun finding =>
                  { finding with evidenceIDs :=
                      finding.evidenceIDs ++ [(builder.evidenceOf facts rule).id] } } }
      | none =>
          { after with
            findingByKey := Function.update after.findingByKey (findingKey facts rule)
              (some after.analysis.findings.length)
            analysis :=
              { after.analysis with findings := after.analysis.findings ++
                  [{ id := numberedID "f" (after.analysis.findings.length + 1)
                     code := rule.code
                     severity := rule.severity
                     category := rule.category
                     title := rule.title
                     summary := rule.summary
                     confidence := rule.confidence
                     evidenceIDs := [(builder.evidenceOf facts rule).id]
                     actionIDs := (after.analysis.actions[action]?.map Action.id).toList }] } } := by
  unfold observe evidenceOf at acted_eq
  unfold add
  dsimp only at acted_eq ⊢
  rw [acted_eq]
  rfl

/-- A change that keeps a field of every item. -/
theorem map_modify_of_eq {A B : Type} {field : A → B} {change : A → A}
    (keeps : ∀ item, field (change item) = field item) (items : List A) (index : Nat) :
    (items.modify index change).map field = items.map field := by
  induction items generalizing index with
  | nil => simp
  | cons item items ih =>
      cases index with
      | zero => rw [List.modify_zero_cons, List.map_cons, List.map_cons, keeps]
      | succ index => rw [List.modify_succ_cons, List.map_cons, List.map_cons, ih]

/-- One evidence item more goes to the finding of its key. -/
theorem flatMap_modify_perm {findings : List Finding} {index : Nat} (lt : index < findings.length)
    (id : String) :
    ((findings.modify index fun finding =>
      { finding with evidenceIDs := finding.evidenceIDs ++ [id] }).flatMap
        Finding.evidenceIDs).Perm (findings.flatMap Finding.evidenceIDs ++ [id]) := by
  induction findings generalizing index with
  | nil => cases lt
  | cons finding findings ih =>
      cases index with
      | zero =>
          rw [List.modify_zero_cons, List.flatMap_cons, List.flatMap_cons, List.append_assoc,
            List.append_assoc]
          exact List.perm_append_comm.append_left _
      | succ index =>
          rw [List.modify_succ_cons, List.flatMap_cons, List.flatMap_cons, List.append_assoc]
          exact (ih (Nat.lt_of_succ_lt_succ lt)).append_left _

/-- Adding a rule keeps identifiers and references together. -/
theorem Closed.add (closed : builder.Closed keys) (rule : Rule) :
    (builder.add facts rule).Closed (recordKey keys (findingKey facts rule)) := by
  cases acted_eq : (builder.observe facts rule).withAction facts rule with
  | mk after action =>
    rw [add_cases rule acted_eq]
    have acted : Acted (builder.observe facts rule) after action := by
      have general : Acted (builder.observe facts rule)
          ((builder.observe facts rule).withAction facts rule).1
          ((builder.observe facts rule).withAction facts rule).2 :=
        acted_withAction rule closed.action_ids closed.action_of_key
      rw [acted_eq] at general
      exact general
    have evidence_ids : after.analysis.evidence.map Evidence.id =
        numbered "e" after.analysis.evidence.length := by
      rw [acted.evidence_eq]
      simp [observe, closed.evidence_ids, numbered_succ, evidenceOf]
    have referenced : (builder.analysis.findings.flatMap Finding.evidenceIDs ++
        [(builder.evidenceOf facts rule).id]).Perm (after.analysis.evidence.map Evidence.id) := by
      rw [acted.evidence_eq]
      simp only [observe, List.map_append, List.map_cons, List.map_nil]
      exact closed.referenced.append_right _
    have findings_eq : after.analysis.findings = builder.analysis.findings := acted.findings_eq
    have byKey_eq : after.findingByKey = builder.findingByKey := acted.findingByKey_eq
    cases found : after.findingByKey (findingKey facts rule) with
    | some index =>
        rw [byKey_eq, closed.finding_of_key] at found
        obtain ⟨lt, _⟩ := List.getElem?_eq_some_iff.mp found
        have present : findingKey facts rule ∈ keys := List.mem_of_getElem? found
        rw [recordKey, if_pos present]
        dsimp only
        refine ⟨evidence_ids, ?_, acted.action_ids, closed.keys_nodup, ?_, ?_,
          acted.action_of_key, ?_, ?_⟩
        · rw [List.length_modify, findings_eq, ← closed.finding_ids]
          exact map_modify_of_eq (by intro finding; rfl) _ _
        · rw [List.length_modify, findings_eq, closed.keys_length]
        · intro key place
          rw [byKey_eq]
          exact closed.finding_of_key key place
        · rw [findings_eq]
          exact (flatMap_modify_perm (closed.keys_length ▸ lt) _).trans referenced
        · have actionIDs_eq : (after.analysis.findings.modify index fun finding =>
              { finding with evidenceIDs := finding.evidenceIDs ++
                  [(builder.evidenceOf facts rule).id] }).map Finding.actionIDs =
                builder.analysis.findings.map Finding.actionIDs := by
            rw [map_modify_of_eq (by intro finding; rfl), findings_eq]
          intro finding member id idMem
          have listed := @List.mem_map_of_mem _ _ _ _ Finding.actionIDs member
          rw [actionIDs_eq] at listed
          obtain ⟨original, originalMem, same⟩ := List.mem_map.mp listed
          rw [← same] at idMem
          exact acted.kept id (closed.known original originalMem id idMem)
    | none =>
        rw [byKey_eq] at found
        have fresh : findingKey facts rule ∉ keys := by
          intro present
          obtain ⟨place, place_eq⟩ := List.getElem?_of_mem present
          rw [← closed.finding_of_key, found] at place_eq
          cases place_eq
        rw [recordKey, if_neg fresh]
        dsimp only
        rw [findings_eq]
        refine ⟨evidence_ids, ?_, acted.action_ids, ?_, ?_, ?_, acted.action_of_key, ?_, ?_⟩
        · simp [closed.finding_ids, numbered_succ]
        · have nodup := @nodup_recordKey keys (findingKey facts rule) closed.keys_nodup
          rwa [recordKey, if_neg fresh] at nodup
        · simp [closed.keys_length]
        · intro key place
          dsimp only
          rw [byKey_eq, Function.update_apply, ← closed.keys_length]
          split
          · rename_i same
            rw [same, Option.some.injEq]
            constructor
            · rintro rfl
              simp
            · intro found
              rcases Nat.lt_trichotomy place keys.length with lt | eq | gt
              · rw [List.getElem?_append_left lt] at found
                exact absurd (List.mem_of_getElem? found) fresh
              · exact eq.symm
              · rw [List.getElem?_append_right gt.le] at found
                obtain ⟨short, _⟩ := List.getElem?_eq_some_iff.mp found
                rw [List.length_singleton] at short
                omega
          · rename_i other
            rw [closed.finding_of_key]
            constructor
            · intro found
              rw [List.getElem?_append_left (List.getElem?_eq_some_iff.mp found).1]
              exact found
            · intro found
              by_cases lt : place < keys.length
              · rwa [List.getElem?_append_left lt] at found
              · rw [List.getElem?_append_right (Nat.le_of_not_lt lt)] at found
                have member := List.mem_of_getElem? found
                rw [List.mem_singleton] at member
                exact absurd member other
        · rw [List.flatMap_append]
          simpa using referenced
        · intro finding member id idMem
          rcases List.mem_append.mp member with old | new
          · exact acted.kept id (closed.known finding old id idMem)
          · rw [List.mem_singleton] at new
            rw [new] at idMem
            dsimp only at idMem
            rw [Option.mem_toList, Option.map_eq_some_iff] at idMem
            obtain ⟨chosen, chosen_eq, rfl⟩ := idMem
            exact List.mem_map_of_mem (List.mem_of_getElem? chosen_eq)

/-! ## Whole reports -/

@[simp]
theorem evidence_add (rule : Rule) : (builder.add facts rule).analysis.evidence =
    builder.analysis.evidence ++ [builder.evidenceOf facts rule] := by
  have action : ∀ builder : Builder,
      (builder.withAction facts rule).1.analysis.evidence = builder.analysis.evidence := by
    intro builder
    unfold withAction
    dsimp only
    split <;> rfl
  unfold add
  dsimp only
  split
  · exact action _
  · exact action _

@[simp]
theorem coverage_report (rules : List Rule) :
    (builder.report facts rules).analysis.coverage = builder.analysis.coverage := by
  induction rules generalizing builder with
  | nil => rfl
  | cons rule rules ih => rw [report_cons, ih, coverage_add]

/-- Each rule leaves an evidence item of its result. -/
theorem evidence_report (rules : List Rule) : ∃ items : List Evidence,
    (builder.report facts rules).analysis.evidence = builder.analysis.evidence ++ items ∧
      items.length = rules.length ∧ ∀ item ∈ items, item.resultIndex = facts.index := by
  induction rules generalizing builder with
  | nil => exact ⟨[], by simp, rfl, by simp⟩
  | cons rule rules ih =>
      obtain ⟨items, items_eq, length_eq, indexed⟩ := @ih (builder.add facts rule)
      refine ⟨builder.evidenceOf facts rule :: items, ?_, ?_, ?_⟩
      · rw [report_cons, items_eq, evidence_add, List.append_assoc, List.singleton_append]
      · rw [List.length_cons, List.length_cons, length_eq]
      · intro item member
        rcases List.mem_cons.mp member with rfl | later
        · rfl
        · exact indexed item later

theorem Closed.report (closed : builder.Closed keys) (rules : List Rule) :
    (builder.report facts rules).Closed ((rules.map (findingKey facts)).foldl recordKey keys) := by
  induction rules generalizing builder keys with
  | nil => exact closed
  | cons rule rules ih => exact ih (closed.add rule)

theorem analysis_give (given : Answer) :
    (builder.give facts given).analysis =
      { (builder.report facts given.rules).analysis with
        coverage :=
          { builder.analysis.coverage with limitations :=
              builder.analysis.coverage.limitations ++
                (given.issue.map fun issue => (⟨.unsupportedDetails, facts.index, facts.kind, issue.1,
                  issue.2⟩ : CoverageIssue)).toList } } := by
  rw [← @coverage_report builder facts given.rules]
  obtain ⟨rules, unexplained, issue⟩ := given
  unfold give
  dsimp only
  cases issue with
  | none =>
      dsimp only [Option.map_none, Option.toList_none]
      rw [List.append_nil]
      cases unexplained <;> rfl
  | some issue => cases unexplained <;> rfl

theorem Closed.give (closed : builder.Closed keys) (given : Answer) :
    (builder.give facts given).Closed
      ((given.rules.map (findingKey facts)).foldl recordKey keys) := by
  have reported := @Closed.report builder facts keys closed given.rules
  have analysis_eq := @analysis_give builder facts given
  have maps : (builder.give facts given).findingByKey =
        (builder.report facts given.rules).findingByKey ∧
      (builder.give facts given).actionByKey = (builder.report facts given.rules).actionByKey := by
    unfold Builder.give
    dsimp only
    split <;> split <;> exact ⟨rfl, rfl⟩
  refine ⟨?_, ?_, ?_, reported.keys_nodup, ?_, ?_, ?_, ?_, ?_⟩
  all_goals simp only [analysis_eq, maps]
  · exact reported.evidence_ids
  · exact reported.finding_ids
  · exact reported.action_ids
  · exact reported.keys_length
  · exact reported.finding_of_key
  · exact reported.action_of_key
  · exact reported.referenced
  · exact reported.known

/-- The builder before any facts are explained. -/
def opened (coverage : Coverage) : Builder where
  analysis := ⟨.healthy, [], [], [], coverage⟩
  findingByKey := fun _ => none
  actionByKey := fun _ => none
  hasUnexplained := false

theorem closed_opened (coverage : Coverage) : (opened coverage).Closed [] :=
  ⟨rfl, rfl, rfl, List.nodup_nil, rfl, by simp [opened], nofun, .nil, nofun⟩

/-- The builder after all facts are explained. -/
def explained (library : Library) (now : Time) (coverage : Coverage) (facts : List Facts) :
    Builder :=
  facts.foldl (fun builder fact => builder.analyzeFact library now fact) (opened coverage)

theorem explained_concat (library : Library) (now : Time) (coverage : Coverage)
    (earlier : List Facts) (fact : Facts) :
    explained library now coverage (earlier ++ [fact]) =
      (explained library now coverage earlier).give fact (answer library now fact) := by
  simp [explained, analyzeFact_eq]

/-- The keys of the findings that some facts ask for. -/
def askedKeys (library : Library) (now : Time) (facts : List Facts) : List GoString :=
  facts.flatMap fun fact => (answer library now fact).rules.map (findingKey fact)

theorem closed_explained (library : Library) (now : Time) (coverage : Coverage)
    (facts : List Facts) :
    (explained library now coverage facts).Closed
      ((askedKeys library now facts).foldl recordKey []) := by
  induction facts using List.reverseRecOn with
  | nil => exact closed_opened coverage
  | append_singleton earlier fact ih =>
      rw [explained_concat, askedKeys, List.flatMap_append, List.foldl_append]
      simpa [askedKeys] using ih.give (answer library now fact)

end Builder

end CheckNetwork.Analysis
