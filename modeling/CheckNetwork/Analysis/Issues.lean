import CheckNetwork.Analysis.Grouping

/-!
# What a report says of one result

The findings that refer to a result are those of its own rules, and its
malformed details are those that its own normalization finds.
-/

namespace CheckNetwork.Analysis

open Diagnostic Go

/-! ## Limitations -/

/-- A limitation that is added to a coverage. -/
def Adds (before after : Coverage) (issue : CoverageIssue) : Prop :=
  ∃ issues, after.limitations = before.limitations ++ issues ∧ issue ∈ issues

/-- The coverage that the result in a place is normalized on. -/
def coverageBefore (library : Library) (now : Time) (results : List Result) (index : Nat) :
    Coverage :=
  (normalizeResults library now (results.take index) emptyCoverage).1

section Limitations

variable {library : Library} {now : Time} {results : List Result} {issue : CoverageIssue}

/-- Every limitation of the normalization is added by the result it names. -/
theorem mem_limitations_normalizeResults :
    issue ∈ (normalizeResults library now results emptyCoverage).1.limitations ↔
      ∃ result, results[issue.resultIndex]? = some result ∧
        Adds (coverageBefore library now results issue.resultIndex)
          (normalizeResult library now issue.resultIndex result
            (coverageBefore library now results issue.resultIndex)).coverage issue := by
  induction results using List.reverseRecOn with
  | nil => simp [normalizeResults, emptyCoverage]
  | append_singleton earlier last ih =>
      have before : ∀ index, index ≤ earlier.length →
          coverageBefore library now (earlier ++ [last]) index =
            coverageBefore library now earlier index := by
        intro index le
        rw [coverageBefore, List.take_append_of_le_length le, coverageBefore]
      have all : coverageBefore library now earlier earlier.length =
          (normalizeResults library now earlier emptyCoverage).1 := by
        rw [coverageBefore, List.take_length]
      obtain ⟨issues, issues_eq, known⟩ := (limits_normalizeResult library now earlier.length last
        (normalizeResults library now earlier emptyCoverage).1).limitations
      rw [normalizeResults_concat]
      dsimp only
      rw [issues_eq, List.mem_append, ih]
      constructor
      · rintro (⟨result, found, added⟩ | member)
        · have lt := (List.getElem?_eq_some_iff.mp found).1
          refine ⟨result, ?_, ?_⟩
          · rw [List.getElem?_append_left lt]
            exact found
          · rw [before _ lt.le]
            exact added
        · have index_eq : issue.resultIndex = earlier.length := (known issue member).1
          refine ⟨last, ?_, ?_⟩
          · rw [index_eq, List.getElem?_concat_length]
          · rw [index_eq, before _ le_rfl, all]
            exact ⟨issues, issues_eq, member⟩
      · rintro ⟨result, found, added⟩
        by_cases lt : issue.resultIndex < earlier.length
        · rw [List.getElem?_append_left lt] at found
          rw [before _ lt.le] at added
          exact .inl ⟨result, found, added⟩
        · have here : issue.resultIndex = earlier.length := by
            have bound := (List.getElem?_eq_some_iff.mp found).1
            rw [List.length_append, List.length_singleton] at bound
            omega
          rw [here, List.getElem?_concat_length, Option.some.injEq] at found
          subst found
          rw [here, before _ le_rfl, all] at added
          obtain ⟨others, others_eq, member⟩ := added
          rw [issues_eq] at others_eq
          exact .inr (List.append_cancel_left others_eq ▸ member)

theorem limitations_explained (coverage : Coverage) (facts : List Facts) :
    (Builder.explained library now coverage facts).analysis.coverage.limitations =
      coverage.limitations ++ facts.flatMap fun fact =>
        ((answer library now fact).issue.map fun issue => (⟨.unsupportedDetails, fact.index,
          fact.kind, issue.1, issue.2⟩ : CoverageIssue)).toList := by
  induction facts using List.reverseRecOn with
  | nil => simp [Builder.explained, Builder.opened]
  | append_singleton earlier fact ih =>
      rw [Builder.explained_concat, Builder.limitations_give, ih, List.flatMap_append,
        List.flatMap_singleton, List.append_assoc]

/-- Only details that are unsupported are limited after the normalization. -/
theorem mem_limitations_analyze_iff (supported : issue.code ≠ .unsupportedDetails) :
    issue ∈ (analyze library results now).coverage.limitations ↔
      ∃ result, results[issue.resultIndex]? = some result ∧
        Adds (coverageBefore library now.utc results issue.resultIndex)
          (normalizeResult library now.utc issue.resultIndex result
            (coverageBefore library now.utc results issue.resultIndex)).coverage issue := by
  rw [analyze_eq, mem_limitations_finalize, ← mem_limitations_normalizeResults]
  dsimp only
  rw [reportBuilder, limitations_explained, List.mem_append, or_iff_left]
  intro member
  obtain ⟨fact, -, answered⟩ := List.mem_flatMap.mp member
  rw [Option.mem_toList, Option.map_eq_some_iff] at answered
  obtain ⟨answer, -, rfl⟩ := answered
  exact supported rfl

end Limitations

/-! ## Findings -/

section Findings

variable {library : Library} {now : Time} {results : List Result} {index : Nat} {result : Result}

/-- A finding with evidence of a result. -/
def RefersTo (report : Analysis) (finding : Finding) (index : Nat) : Prop :=
  ∃ item ∈ report.evidence, item.id ∈ finding.evidenceIDs ∧ item.resultIndex = index

/-- A rule of a result is told by a finding with its code. -/
theorem exists_refersTo (found : results[index]? = some result) {rule : Rule}
    (ruleMem : rule ∈ rulesOf library now.utc result) :
    ∃ finding ∈ (analyze library results now).findings, finding.code = rule.code ∧
      RefersTo (analyze library results now) finding index := by
  have entryMem : (⟨(resultFacts library now.utc 0 result).inPlace index, rule⟩ : Entry) ∈
      entriesOf library results now :=
    mem_asked.mpr ⟨index, result, found, rule, ruleMem, rfl⟩
  obtain ⟨finding, member, tells⟩ := exists_tells entryMem
  obtain ⟨place, entry_eq⟩ := List.getElem?_of_mem entryMem
  obtain ⟨itemMem, referred⟩ := tells.joined place _ entry_eq rfl
  refine ⟨finding, member, ?_, _, itemMem, referred, rfl⟩
  obtain ⟨first, first_eq, wording, -⟩ := tells.wording
  obtain ⟨firstMem, firstKey⟩ := find?_eq_some first_eq
  rw [decide_eq_true_eq] at firstKey
  rw [(List.cons.inj wording).1]
  exact Builder.code_eq_of_key_eq (catalog_of_mem firstMem).2 (catalog_of_mem entryMem).2 firstKey

end Findings

end CheckNetwork.Analysis
