import CheckNetwork.Analysis.Closed
import CheckNetwork.Analysis.Iteration
import Mathlib.Data.Prod.Lex
import Mathlib.Data.String.Basic

/-!
# The analysis is closed

Every problem is explained, every reference is resolved, and the findings come
in one total order, whatever the order in which details are visited.
-/

namespace CheckNetwork.Analysis

open Diagnostic Go

/-! ## The order of findings -/

/-- The place of a finding: its family, its severity, its code and its
number. -/
def orderKey (evidence : List Evidence) (finding : Finding) :
    Nat ×ₗ Nat ×ₗ String ×ₗ String :=
  toLex ((tracerouteFindingFamily evidence finding).getD 3,
    toLex (severityRank finding.severity, toLex (finding.code, finding.id)))

theorem tracerouteFindingFamily_lt {evidence : List Evidence} {finding : Finding} {family : Nat}
    (found : tracerouteFindingFamily evidence finding = some family) : family < 3 := by
  unfold tracerouteFindingFamily at found
  dsimp only at found
  split_ifs at found <;> cases found <;> decide

theorem findingBefore_iff (evidence : List Evidence) (left right : Finding) :
    findingBefore evidence left right = true ↔ orderKey evidence left < orderKey evidence right := by
  have leftBound := @tracerouteFindingFamily_lt evidence left
  have rightBound := @tracerouteFindingFamily_lt evidence right
  unfold findingBefore orderKey
  simp only [Prod.Lex.toLex_lt_toLex]
  generalize tracerouteFindingFamily evidence left = leftFamily at leftBound ⊢
  generalize tracerouteFindingFamily evidence right = rightFamily at rightBound ⊢
  have rest : (if severityRank left.severity ≠ severityRank right.severity then
        decide (severityRank left.severity < severityRank right.severity)
      else if left.code ≠ right.code then decide (left.code < right.code)
      else decide (left.id < right.id)) = true ↔
      severityRank left.severity < severityRank right.severity ∨
        severityRank left.severity = severityRank right.severity ∧
          (left.code < right.code ∨ left.code = right.code ∧ left.id < right.id) := by
    by_cases severity : severityRank left.severity = severityRank right.severity
    · by_cases code : left.code = right.code
      · simp [severity, code]
      · simp [severity, code]
    · simp [severity]
  cases leftFamily with
  | none =>
      cases rightFamily with
      | none => simpa using rest
      | some family =>
          have lt := rightBound rfl
          simp only [Option.isSome_none, Option.isSome_some, Option.getD_none, Option.getD_some]
          simp
          omega
  | some leftFamily =>
      have leftLt := leftBound rfl
      cases rightFamily with
      | none =>
          simp
          omega
      | some family =>
          by_cases same : leftFamily = family
          · subst same
            simpa using rest
          · simp [same]

theorem eq_of_orderKey_eq {evidence : List Evidence} {left right : Finding}
    (same : orderKey evidence left = orderKey evidence right) : left.id = right.id := by
  have last := congrArg (fun key => (ofLex (ofLex (ofLex key).2).2).2) same
  exact last

/-! ## Problems -/

/-- The facts of a report and the limitations of each of its results. -/
theorem normalizeResults_run (library : Library) (now : Time) (results : List Result) :
    (normalizeResults library now results emptyCoverage).2.length = results.length ∧
      ∀ index result, results[index]? = some result → ∃ coverage,
        (normalizeResults library now results emptyCoverage).2[index]? =
          some (normalizeResult library now index result coverage).facts ∧
        (normalizeResult library now index result coverage).coverage.limitations <+:
          (normalizeResults library now results emptyCoverage).1.limitations := by
  induction results using List.reverseRecOn with
  | nil => exact ⟨rfl, nofun⟩
  | append_singleton earlier last ih =>
      obtain ⟨length_eq, known⟩ := ih
      rw [normalizeResults_concat]
      dsimp only
      refine ⟨by rw [List.length_append, List.length_append, length_eq]; rfl, ?_⟩
      intro index result found
      obtain ⟨issues, issues_eq, _⟩ := (limits_normalizeResult library now earlier.length last
        (normalizeResults library now earlier emptyCoverage).1).limitations
      by_cases lt : index < earlier.length
      · rw [List.getElem?_append_left lt] at found
        obtain ⟨coverage, facts_eq, isPrefix⟩ := known index result found
        refine ⟨coverage, ?_, isPrefix.trans ⟨issues, issues_eq.symm⟩⟩
        rw [List.getElem?_append_left (length_eq ▸ lt)]
        exact facts_eq
      · have here : index = earlier.length := by
          have bound := (List.getElem?_eq_some_iff.mp found).1
          rw [List.length_append, List.length_singleton] at bound
          omega
        subst here
        rw [List.getElem?_concat_length, Option.some.injEq] at found
        subst found
        refine ⟨_, ?_, List.prefix_rfl⟩
        rw [← length_eq, List.getElem?_concat_length]

namespace Builder

theorem evidence_give {builder : Builder} {facts : Facts} (given : Answer) :
    ∃ items : List Evidence,
      (builder.give facts given).analysis.evidence = builder.analysis.evidence ++ items ∧
        items.length = given.rules.length ∧ ∀ item ∈ items, item.resultIndex = facts.index := by
  rw [analysis_give]
  exact evidence_report given.rules

theorem limitations_give {builder : Builder} {facts : Facts} (given : Answer) :
    (builder.give facts given).analysis.coverage.limitations =
      builder.analysis.coverage.limitations ++
        (given.issue.map fun issue => (⟨.unsupportedDetails, facts.index, facts.kind, issue.1,
          issue.2⟩ : CoverageIssue)).toList := by
  rw [analysis_give]

/-- What is answered stays in the report. -/
theorem explained_mentions (library : Library) (now : Time) (coverage : Coverage)
    (facts : List Facts) :
    coverage.limitations <+:
        (explained library now coverage facts).analysis.coverage.limitations ∧
      ∀ fact ∈ facts,
        ((answer library now fact).rules ≠ [] →
          ∃ item ∈ (explained library now coverage facts).analysis.evidence,
            item.resultIndex = fact.index) ∧
        ((answer library now fact).issue ≠ none →
          ∃ issue ∈ (explained library now coverage facts).analysis.coverage.limitations,
            issue.resultIndex = fact.index) := by
  induction facts using List.reverseRecOn with
  | nil =>
      exact ⟨List.prefix_rfl, fun fact member => absurd member List.not_mem_nil⟩
  | append_singleton earlier last ih =>
      obtain ⟨isPrefix, known⟩ := ih
      rw [explained_concat]
      generalize explained library now coverage earlier = builder at isPrefix known ⊢
      obtain ⟨items, items_eq, length_eq, indexed⟩ :=
        @evidence_give builder last (answer library now last)
      rw [limitations_give, items_eq]
      refine ⟨isPrefix.trans (List.prefix_append _ _), ?_⟩
      intro fact member
      rcases List.mem_append.mp member with old | new
      · obtain ⟨rules, issue⟩ := known fact old
        constructor
        · intro some
          obtain ⟨item, itemMem, index_eq⟩ := rules some
          exact ⟨item, List.mem_append_left _ itemMem, index_eq⟩
        · intro some
          obtain ⟨issue, issueMem, index_eq⟩ := issue some
          exact ⟨issue, List.mem_append_left _ issueMem, index_eq⟩
      · rw [List.mem_singleton] at new
        subst new
        constructor
        · intro some
          have pos : 0 < items.length := by
            rw [length_eq]
            exact List.length_pos_iff.mpr some
          obtain ⟨item, itemMem⟩ := List.exists_mem_of_length_pos pos
          exact ⟨item, List.mem_append_right _ itemMem, indexed item itemMem⟩
        · intro some
          obtain ⟨issue, issue_eq⟩ := Option.ne_none_iff_exists'.mp some
          refine ⟨⟨.unsupportedDetails, fact.index, fact.kind, issue.1, issue.2⟩, ?_, rfl⟩
          rw [issue_eq]
          exact List.mem_append_right _ (List.mem_singleton_self _)

end Builder

/-- The builder from which an analysis is finished. -/
def reportBuilder (library : Library) (results : List Result) (now : Time) : Builder :=
  Builder.explained library now.utc (normalizeResults library now.utc results emptyCoverage).1
    (normalizeResults library now.utc results emptyCoverage).2

theorem analyze_eq (library : Library) (results : List Result) (now : Time) :
    analyze library results now = finalize
      { (reportBuilder library results now).analysis with
        verdict := verdictOf results.length (reportBuilder library results now) } :=
  rfl

theorem mem_limitations_finalize {analysis : Analysis} {issue : CoverageIssue} :
    issue ∈ (finalize analysis).coverage.limitations ↔ issue ∈ analysis.coverage.limitations :=
  List.mem_insertionSort _

theorem perm_findings_finalize (analysis : Analysis) :
    (finalize analysis).findings.Perm analysis.findings :=
  List.perm_insertionSort _ _

/-- A limitation of the result at hand, among those that were added. -/
theorem exists_of_limited {allowed : String → Prop} {before after : Draft}
    (limits : Draft.Limits allowed before after) (limited : Draft.Limited before after) :
    ∃ issue ∈ after.coverage.limitations, issue.resultIndex = before.facts.index := by
  obtain ⟨issues, issues_eq, known⟩ := limits.limitations
  have pos : 0 < issues.length := by
    rw [Draft.Limited, issues_eq, List.length_append] at limited
    omega
  obtain ⟨issue, member⟩ := List.exists_mem_of_length_pos pos
  refine ⟨issue, ?_, (known issue member).1⟩
  rw [issues_eq]
  exact List.mem_append_right _ member

/-- Every result that is not healthy leaves evidence or a limitation. -/
theorem problem_explained (library : Library) (now : Time) {results : List Result} {index : Nat}
    {result : Result} (found : results[index]? = some result) (troubled : result.status ≠ .healthy) :
    (∃ item ∈ (analyze library results now).evidence, item.resultIndex = index) ∨
      ∃ issue ∈ (analyze library results now).coverage.limitations,
        issue.resultIndex = index := by
  obtain ⟨coverage, facts_eq, isPrefix⟩ :=
    (normalizeResults_run library now.utc results).2 index result found
  have noted := @noted_normalizeResult library now.utc index result coverage
  set draft := normalizeResult library now.utc index result coverage with draft_eq
  have asked_eq := noted.asked_eq
  simp only [Facts.asked, initialFacts, Prod.mk.injEq] at asked_eq
  obtain ⟨index_eq, kind_eq, -, status_eq, -, errorCode_eq⟩ := asked_eq
  have limitation : Draft.Limited ⟨coverage, initialFacts index result⟩ draft →
      ∃ issue ∈ (analyze library results now).coverage.limitations,
        issue.resultIndex = index := by
    intro limited
    obtain ⟨issue, member, issue_eq⟩ := exists_of_limited noted.toLimits limited
    refine ⟨issue, ?_, issue_eq⟩
    rw [analyze_eq, mem_limitations_finalize]
    exact (Builder.explained_mentions library now.utc _ _).1.subset (isPrefix.subset member)
  obtain ⟨mentionsRules, mentionsIssue⟩ := (Builder.explained_mentions library now.utc
    (normalizeResults library now.utc results emptyCoverage).1
    (normalizeResults library now.utc results emptyCoverage).2).2 draft.facts
    (List.mem_of_getElem? facts_eq)
  rw [index_eq] at mentionsRules mentionsIssue
  rcases noted.supported with statusValid | limited
  · rcases noted.details with detailsValid | invalid | limited
    · by_cases speaks : (answer library now.utc draft.facts).rules ≠ [] ∨
          (answer library now.utc draft.facts).issue ≠ none
      · rcases speaks with rules | issue
        · exact .inl (mentionsRules rules)
        · obtain ⟨issue, member, issue_eq⟩ := mentionsIssue issue
          refine .inr ⟨issue, ?_, issue_eq⟩
          rw [analyze_eq, mem_limitations_finalize]
          exact member
      · right
        apply limitation
        by_contra unlimited
        refine speaks (answer_speaks noted.coherent statusValid detailsValid
          (status_eq ▸ troubled) ?_)
        intro kind code
        rw [kind_eq] at kind
        rw [errorCode_eq] at code
        have available : isTracerouteUnavailable result = false := by
          simp [isTracerouteUnavailable, code]
        constructor
        · rcases noted.counted kind with unavailable | counted | limited
          · rw [available] at unavailable
            cases unavailable
          · exact counted
          · exact absurd limited unlimited
        · rcases noted.eventful kind with unavailable | healthy | eventful | limited
          · rw [available] at unavailable
            cases unavailable
          · exact absurd (status_eq ▸ healthy) troubled
          · exact eventful
          · exact absurd limited unlimited
    · cases invalid
    · exact .inr (limitation limited)
  · exact .inr (limitation limited)

/-! ## The whole analysis -/

/-- Identifiers are unique, references are resolved, every evidence item belongs
to one finding, and findings come in order. -/
structure Integral (analysis : Analysis) : Prop where
  evidence_nodup : (analysis.evidence.map Evidence.id).Nodup
  findings_nodup : (analysis.findings.map Finding.id).Nodup
  actions_nodup : (analysis.actions.map Action.id).Nodup
  evidence_known : ∀ finding ∈ analysis.findings, ∀ id ∈ finding.evidenceIDs,
    id ∈ analysis.evidence.map Evidence.id
  actions_known : ∀ finding ∈ analysis.findings, ∀ id ∈ finding.actionIDs,
    id ∈ analysis.actions.map Action.id
  referenced : ∀ item ∈ analysis.evidence,
    ∃! finding, finding ∈ analysis.findings ∧ item.id ∈ finding.evidenceIDs
  ordered : analysis.findings.Pairwise fun left right =>
    findingBefore analysis.evidence left right = true

/-- An order that decides between any two findings with different
identifiers. -/
structure DecidesOrder (before : Finding → Finding → Bool) : Prop where
  asymm : ∀ left right, before left right = true → before right left = false
  trans : ∀ first second third, before first second = true → before second third = true →
    before first third = true
  total : ∀ left right, left.id ≠ right.id → before left right = true ∨ before right left = true

theorem decidesOrder_findingBefore (evidence : List Evidence) :
    DecidesOrder (findingBefore evidence) where
  asymm := by
    intro left right
    rw [findingBefore_iff, ← Bool.not_eq_true, findingBefore_iff]
    exact lt_asymm
  trans := by
    intro first second third
    rw [findingBefore_iff, findingBefore_iff, findingBefore_iff]
    exact lt_trans
  total := by
    intro left right different
    rw [findingBefore_iff, findingBefore_iff]
    exact lt_or_gt_of_ne fun same => different (eq_of_orderKey_eq same)

/-- An evidence item that is listed once belongs to one finding. -/
theorem existsUnique_of_perm {findings : List Finding} {ids : List String}
    (perm : (findings.flatMap Finding.evidenceIDs).Perm ids) (nodup : ids.Nodup) {id : String}
    (member : id ∈ ids) : ∃! finding, finding ∈ findings ∧ id ∈ finding.evidenceIDs := by
  have listed := perm.mem_iff.mpr member
  have once := perm.nodup_iff.mpr nodup
  obtain ⟨finding, findingMem, idMem⟩ := List.mem_flatMap.mp listed
  refine ⟨finding, ⟨findingMem, idMem⟩, ?_⟩
  rintro other ⟨otherMem, otherIdMem⟩
  by_contra different
  have : Std.Symm (Function.onFun List.Disjoint Finding.evidenceIDs) := ⟨fun _ _ apart => apart.symm⟩
  have apart := (List.nodup_flatMap.mp once).2.forall otherMem findingMem different
  exact apart otherIdMem idMem

/-- Sorting leaves no finding after one that comes later in the order. -/
theorem sorted_findings (evidence : List Evidence) (findings : List Finding) :
    (findings.insertionSort fun left right => !findingBefore evidence right left).Pairwise
      fun left right => (!findingBefore evidence right left) = true := by
  have le_iff : ∀ left right, (!findingBefore evidence right left) = true ↔
      orderKey evidence left ≤ orderKey evidence right := by
    intro left right
    rw [Bool.not_eq_true', ← Bool.not_eq_true, findingBefore_iff, not_lt]
  have : Std.Total fun left right : Finding => (!findingBefore evidence right left) = true :=
    ⟨fun left right => by simpa only [le_iff] using le_total _ _⟩
  have : IsTrans Finding fun left right => (!findingBefore evidence right left) = true :=
    ⟨fun first second third => by simpa only [le_iff] using le_trans⟩
  exact List.pairwise_insertionSort _ _

theorem integral_finalize {builder : Builder} {keys : List GoString} (closed : builder.Closed keys)
    (verdict : Verdict) : Integral (finalize { builder.analysis with verdict := verdict }) := by
  have perm := perm_findings_finalize { builder.analysis with verdict := verdict }
  have findings_nodup : (builder.analysis.findings.map Finding.id).Nodup := by
    rw [closed.finding_ids]
    exact nodup_numbered _ _
  have evidence_nodup : (builder.analysis.evidence.map Evidence.id).Nodup := by
    rw [closed.evidence_ids]
    exact nodup_numbered _ _
  have referenced := (perm.flatMap_right Finding.evidenceIDs).trans closed.referenced
  refine ⟨evidence_nodup, (perm.map Finding.id).nodup_iff.mpr findings_nodup, ?_, ?_, ?_, ?_, ?_⟩
  · rw [show (finalize { builder.analysis with verdict := verdict }).actions =
      builder.analysis.actions from rfl, closed.action_ids]
    exact nodup_numbered _ _
  · intro finding member id idMem
    exact referenced.subset (List.mem_flatMap.mpr ⟨finding, member, idMem⟩)
  · intro finding member id idMem
    exact closed.known finding (perm.subset member) id idMem
  · intro item member
    exact existsUnique_of_perm referenced evidence_nodup (List.mem_map_of_mem member)
  · have apart : (finalize { builder.analysis with verdict := verdict }).findings.Pairwise
        fun left right => left.id ≠ right.id :=
      List.pairwise_map.mp ((perm.map Finding.id).nodup_iff.mpr findings_nodup)
    refine ((sorted_findings builder.analysis.evidence builder.analysis.findings).and apart).imp ?_
    rintro left right ⟨notAfter, different⟩
    rcases (decidesOrder_findingBefore builder.analysis.evidence).total left right different with
      before | after
    · exact before
    · rw [after] at notAfter
      cases notAfter

/-- Problems are explained, references resolved and findings ordered, and none
of it depends on the order in which details are visited. -/
theorem analyze_closed (library : Library) (results : List Result) (now : Time) :
    (∀ index result, results[index]? = some result → result.status ≠ .healthy →
      (∃ item ∈ (analyze library results now).evidence, item.resultIndex = index) ∨
        ∃ issue ∈ (analyze library results now).coverage.limitations,
          issue.resultIndex = index) ∧
    Integral (analyze library results now) ∧
    DecidesOrder (findingBefore (analyze library results now).evidence) ∧
    ∀ others, List.Forall₂ Result.Revisited results others →
      analyze library others now = analyze library results now := by
  refine ⟨fun index result => problem_explained library now, ?_, decidesOrder_findingBefore _,
    fun others => analyze_of_revisited library now⟩
  rw [analyze_eq]
  exact integral_finalize (Builder.closed_explained _ _ _ _) _

end CheckNetwork.Analysis
