import CheckNetwork.Analysis.Verdict

/-!
# All clear

The verdict is healthy exactly when all results are quiet.  A quiet traceroute
result may still hide a degraded path, and only then is the verdict unearned.
-/

namespace CheckNetwork.Analysis

open Diagnostic Go

/-! ## Silent reports -/

namespace Builder

variable {builder : Builder} {facts : Facts}

theorem keeps_add (rule : Rule) :
    (builder.add facts rule).hasUnexplained = builder.hasUnexplained ∧
      (builder.add facts rule).analysis.verdict = builder.analysis.verdict := by
  have action : ∀ builder : Builder,
      (builder.withAction facts rule).1.hasUnexplained = builder.hasUnexplained ∧
        (builder.withAction facts rule).1.analysis.verdict = builder.analysis.verdict := by
    intro builder
    unfold withAction
    dsimp only
    split <;> exact ⟨rfl, rfl⟩
  unfold add
  dsimp only
  split
  · exact action _
  · exact action _

theorem keeps_report (rules : List Rule) :
    (builder.report facts rules).hasUnexplained = builder.hasUnexplained ∧
      (builder.report facts rules).analysis.verdict = builder.analysis.verdict := by
  induction rules generalizing builder with
  | nil => exact ⟨rfl, rfl⟩
  | cons rule rules ih =>
      obtain ⟨unexplained_eq, verdict_eq⟩ := @keeps_add builder facts rule
      obtain ⟨rest, last⟩ := @ih (builder.add facts rule)
      exact ⟨rest.trans unexplained_eq, last.trans verdict_eq⟩

theorem hasUnexplained_give (given : Answer) :
    (builder.give facts given).hasUnexplained =
      (builder.hasUnexplained || given.unexplained) := by
  obtain ⟨rules, unexplained, issue⟩ := given
  have kept := (@keeps_report builder facts rules).1
  unfold give
  cases unexplained <;> cases issue <;> simp [kept, Builder.unexplained, limit]

theorem verdict_explained (library : Library) (now : Time) (coverage : Coverage)
    (facts : List Facts) :
    (explained library now coverage facts).analysis.verdict = .healthy := by
  induction facts using List.reverseRecOn with
  | nil => rfl
  | append_singleton earlier last ih =>
      rw [explained_concat, analysis_give]
      exact keeps_report _ |>.2.trans ih

theorem hasUnexplained_explained (library : Library) (now : Time) (coverage : Coverage)
    (facts : List Facts) :
    (explained library now coverage facts).hasUnexplained =
      facts.any fun fact => (answer library now fact).unexplained := by
  induction facts using List.reverseRecOn with
  | nil => rfl
  | append_singleton earlier last ih =>
      rw [explained_concat, hasUnexplained_give, ih]
      simp

/-- Nothing is said about a report exactly when every answer is silent. -/
theorem silent_explained_iff (library : Library) (now : Time) (coverage : Coverage)
    (facts : List Facts) :
    ((explained library now coverage facts).analysis.findings = [] ∧
        (explained library now coverage facts).hasUnexplained = false ∧
        (explained library now coverage facts).analysis.coverage.limitations = []) ↔
      coverage.limitations = [] ∧ ∀ fact ∈ facts, (answer library now fact).Silent := by
  constructor
  · rintro ⟨findings, unexplained, unlimited⟩
    have closed := closed_explained library now coverage facts
    have evidence : (explained library now coverage facts).analysis.evidence = [] := by
      have referenced := closed.referenced
      rw [findings, List.flatMap_nil] at referenced
      exact List.map_eq_nil_iff.mp referenced.nil_eq.symm
    obtain ⟨isPrefix, mentions⟩ := explained_mentions library now coverage facts
    rw [unlimited] at isPrefix
    refine ⟨List.prefix_nil.mp isPrefix, ?_⟩
    intro fact member
    obtain ⟨rules, issue⟩ := mentions fact member
    rw [evidence] at rules
    rw [unlimited] at issue
    constructor
    · by_contra some
      obtain ⟨item, itemMem, _⟩ := rules some
      cases itemMem
    · rw [hasUnexplained_explained, List.any_eq_false] at unexplained
      exact Bool.eq_false_iff.mpr (unexplained fact member)
    · by_contra some
      obtain ⟨issue, issueMem, _⟩ := issue some
      cases issueMem
  · rintro ⟨clean, silent⟩
    have kept : explained library now coverage facts = opened coverage := by
      induction facts using List.reverseRecOn with
      | nil => rfl
      | append_singleton earlier last ih =>
          have before := ih fun fact member => silent fact (List.mem_append_left _ member)
          obtain ⟨rules, unexplained, issue⟩ := silent last (by simp)
          rw [explained_concat, before]
          unfold give
          rw [rules, unexplained, issue]
          rfl
    rw [kept]
    exact ⟨rfl, rfl, clean⟩

end Builder

/-- A verdict is healthy when there is a result and nothing is said. -/
theorem verdictOf_eq_healthy_iff {count : Nat} {builder : Builder}
    (initial : builder.analysis.verdict = .healthy) :
    verdictOf count builder = .healthy ↔ count ≠ 0 ∧ builder.analysis.findings = [] ∧
      builder.hasUnexplained = false ∧ builder.analysis.coverage.limitations = [] := by
  unfold verdictOf
  dsimp only
  by_cases empty : count = 0
  · simp [empty]
  · cases findings : builder.analysis.findings with
    | cons finding findings =>
        simp only [empty, reduceCtorEq, false_and, or_self, if_false, ne_eq, not_false_eq_true,
          true_and, and_false, if_true, iff_false]
        split <;> simp
    | nil =>
        cases builder.hasUnexplained with
        | true => simp [empty]
        | false =>
            cases builder.analysis.coverage.limitations with
            | nil => simp [empty, initial]
            | cons issue issues => simp [empty]

/-! ## Quiet reports -/

/-- The enrichment coverage of a report, when every part of it can be
merged. -/
def enrichmentOfReport (results : List Result) : Option (List EnrichmentCoverage) :=
  results.zipIdx.foldlM (fun enrichment (result, index) => enrichmentOf index result enrichment) []

theorem enrichmentOfReport_concat (results : List Result) (last : Result) :
    enrichmentOfReport (results ++ [last]) =
      (enrichmentOfReport results).bind (enrichmentOf results.length last) := by
  simp only [enrichmentOfReport, List.zipIdx_append, List.foldlM_append, Nat.zero_add,
    List.zipIdx_cons, List.zipIdx_nil, List.foldlM_cons, List.foldlM_nil, bind_pure]
  rfl

/-- A report whose results all are quiet, as far as they go. -/
theorem quiet_normalizeResults (library : Library) (now : Time) (results : List Result) :
    (((normalizeResults library now results emptyCoverage).1.limitations = [] ∧
        ∀ fact ∈ (normalizeResults library now results emptyCoverage).2,
          (answer library now fact).Silent) ↔
      (∀ result ∈ results, Quiet library now result) ∧ (enrichmentOfReport results).isSome = true) ∧
    ((enrichmentOfReport results).isSome = true → enrichmentOfReport results =
      some (normalizeResults library now results emptyCoverage).1.enrichment) := by
  induction results using List.reverseRecOn with
  | nil => exact ⟨by simp [normalizeResults, emptyCoverage, enrichmentOfReport], fun _ => rfl⟩
  | append_singleton earlier last ih =>
      obtain ⟨quiet, merged⟩ := ih
      rw [normalizeResults_concat, enrichmentOfReport_concat]
      set before := normalizeResults library now earlier emptyCoverage with before_eq
      have here := @quiet_normalizeResult library now last earlier.length before.1
      have enrichment_eq := @enrichment_normalizeResult library now last earlier.length before.1
      have known : ∀ next, (enrichmentOfReport earlier).bind (enrichmentOf earlier.length last) =
          some next → enrichmentOf earlier.length last before.1.enrichment = some next := by
        intro next bound
        obtain ⟨reached, reached_eq, next_eq⟩ := Option.bind_eq_some_iff.mp bound
        have same := merged (by rw [reached_eq]; rfl)
        rw [reached_eq, Option.some.injEq] at same
        rw [← same]
        exact next_eq
      constructor
      · constructor
        · rintro ⟨unlimited, silent⟩
          obtain ⟨clean, quietLast, joins⟩ := here.mp
            ⟨unlimited, silent _ (List.mem_append_right _ (List.mem_singleton_self _))⟩
          obtain ⟨quietEarlier, mergedEarlier⟩ := quiet.mp
            ⟨clean, fun fact member => silent fact (List.mem_append_left _ member)⟩
          constructor
          · intro result member
            rcases List.mem_append.mp member with old | new
            · exact quietEarlier result old
            · rw [List.mem_singleton.mp new]
              exact quietLast
          · rw [merged mergedEarlier, Option.bind_some]
            exact joins
        · rintro ⟨quietAll, mergedAll⟩
          obtain ⟨next, bound⟩ := Option.isSome_iff_exists.mp mergedAll
          have joins := known next bound
          have mergedEarlier : (enrichmentOfReport earlier).isSome = true := by
            obtain ⟨reached, reached_eq, _⟩ := Option.bind_eq_some_iff.mp bound
            rw [reached_eq]
            rfl
          obtain ⟨clean, silentEarlier⟩ := quiet.mpr
            ⟨fun result member => quietAll result (List.mem_append_left _ member), mergedEarlier⟩
          obtain ⟨unlimited, silentLast⟩ := here.mpr
            ⟨clean, quietAll last (by simp), by rw [joins]; rfl⟩
          refine ⟨unlimited, ?_⟩
          intro fact member
          rcases List.mem_append.mp member with old | new
          · exact silentEarlier fact old
          · rw [List.mem_singleton.mp new]
            exact silentLast
      · intro mergedAll
        obtain ⟨next, bound⟩ := Option.isSome_iff_exists.mp mergedAll
        dsimp only
        rw [bound, enrichment_eq, known next bound]
        rfl

/-- The verdict is healthy exactly when there are results, all of them are
quiet, and their enrichments merge. -/
theorem verdict_healthy_iff (library : Library) (results : List Result) (now : Time) :
    (analyze library results now).verdict = .healthy ↔
      results ≠ [] ∧ (∀ result ∈ results, Quiet library now.utc result) ∧
        (enrichmentOfReport results).isSome = true := by
  rw [analyze_eq]
  change verdictOf results.length (reportBuilder library results now) = .healthy ↔ _
  rw [reportBuilder, verdictOf_eq_healthy_iff (Builder.verdict_explained _ _ _ _),
    Builder.silent_explained_iff, (quiet_normalizeResults library now.utc results).1,
    ne_eq, List.length_eq_zero_iff]

/-! ## Earned verdicts -/

/-- An eligible attempt with a degraded node or link, or without its
destination. -/
def troubledAttempt (attempt : TraceAttempt) : Bool :=
  traceAttemptEligible attempt &&
    attempt.topology.any fun topology => topologyDegraded topology || !topology.reached

def troubledPaths (library : Library) (result : Result) : Bool :=
  result.kind = .traceroute && (result.detail? "attempts").any fun value =>
    (normalizedTraceAttempts library value).any fun attempts => attempts.any troubledAttempt

/-- What a healthy verdict promises. -/
structure Earned (library : Library) (results : List Result) (now : Time) : Prop where
  nonempty : results ≠ []
  healthy : ∀ result ∈ results, result.status = .healthy ∧ result.errorCode = [] ∧
    validDetails library result = true
  evidence_eq : (analyze library results now).evidence = []
  findings_eq : (analyze library results now).findings = []
  limitations_eq : (analyze library results now).coverage.limitations = []
  notDue : ∀ result ∈ results, certificateDue library now.utc result = false
  untroubled : ∀ result ∈ results, troubledPaths library result = false

/-- Results that are quiet although a path among them is in trouble. -/
def HiddenTrouble (library : Library) (results : List Result) (now : Time) : Prop :=
  (∀ result ∈ results, Quiet library now.utc result) ∧
    (enrichmentOfReport results).isSome = true ∧
    ∃ result ∈ results, troubledPaths library result = true

/-- Quiet results leave no evidence, no finding and no limitation. -/
theorem quiet_report (library : Library) {results : List Result} (now : Time)
    (quiet : ∀ result ∈ results, Quiet library now.utc result)
    (merged : (enrichmentOfReport results).isSome = true) :
    (analyze library results now).evidence = [] ∧ (analyze library results now).findings = [] ∧
      (analyze library results now).coverage.limitations = [] := by
  have silent := (quiet_normalizeResults library now.utc results).1.mpr ⟨quiet, merged⟩
  obtain ⟨findings, _, unlimited⟩ := (Builder.silent_explained_iff library now.utc
    (normalizeResults library now.utc results emptyCoverage).1
    (normalizeResults library now.utc results emptyCoverage).2).mpr silent
  rw [analyze_eq]
  refine ⟨?_, ?_, ?_⟩
  · have referenced := (Builder.closed_explained library now.utc
      (normalizeResults library now.utc results emptyCoverage).1
      (normalizeResults library now.utc results emptyCoverage).2).referenced
    rw [findings, List.flatMap_nil] at referenced
    exact List.map_eq_nil_iff.mp referenced.nil_eq.symm
  · apply List.eq_nil_of_length_eq_zero
    rw [(perm_findings_finalize _).length_eq, reportBuilder, findings]
    rfl
  · apply List.eq_nil_of_length_eq_zero
    unfold finalize sortCoverageIssues
    rw [List.length_insertionSort, reportBuilder, unlimited]
    rfl

/-- A healthy verdict is earned, except where quiet results hide a path in
trouble. -/
theorem healthy_verdict_earned_iff (library : Library) (results : List Result) (now : Time) :
    ((analyze library results now).verdict = .healthy → Earned library results now) ↔
      ¬HiddenTrouble library results now := by
  constructor
  · rintro promise ⟨quiet, merged, result, member, troubled⟩
    have earned := promise ((verdict_healthy_iff library results now).mpr
      ⟨List.ne_nil_of_mem member, quiet, merged⟩)
    rw [earned.untroubled result member] at troubled
    cases troubled
  · intro clear verdict
    obtain ⟨nonempty, quiet, merged⟩ := (verdict_healthy_iff library results now).mp verdict
    obtain ⟨evidence_eq, findings_eq, limitations_eq⟩ := quiet_report library now quiet merged
    refine ⟨nonempty, ?_, evidence_eq, findings_eq, limitations_eq, ?_, ?_⟩
    · intro result member
      have known := quiet result member
      exact ⟨known.healthy, known.noError, known.valid⟩
    · intro result member
      exact (quiet result member).notDue
    · intro result member
      by_contra troubled
      rw [Bool.not_eq_false] at troubled
      exact clear ⟨quiet, merged, result, member, troubled⟩

instance (library : Library) (now : Time) (result : Result) : Decidable (Quiet library now result) :=
  decidable_of_iff (result.status = .healthy ∧ result.errorCode = [] ∧
      isServiceGreetingKind result.kind = false ∧ validDetails library result = true ∧
      certificateDue library now result = false ∧ pathsUnstable library result = false)
    ⟨fun ⟨healthy, noError, verified, valid, notDue, stable⟩ =>
      ⟨healthy, noError, verified, valid, notDue, stable⟩,
    fun quiet => ⟨quiet.healthy, quiet.noError, quiet.verified, quiet.valid, quiet.notDue,
      quiet.stable⟩⟩

/-- A library that converts nothing. -/
def typedLibrary : Library where
  parseTime := fun _ => none
  formatTime := fun _ => []
  convertAttempts := fun _ => none
  convertTopology := fun _ => none

/-- One reached attempt through a degraded hop, in a result that is healthy. -/
def slowHopResult : Result where
  kind := .traceroute
  address := GoString.ofString "203.0.113.9"
  status := .healthy
  latencyMS := 40
  startedAt := ⟨1, 0⟩
  errorCode := []
  message := []
  details := some
    ((["attempts_total", "attempts_reached"].map fun key => (GoString.ofString key, Detail.int 1)) ++
      (["attempts_failed", "attempts_unreached", "attempts_execution_failed",
        "attempts_timed_out", "attempts_cancelled"].map fun key =>
          (GoString.ofString key, Detail.int 0)) ++
      [(GoString.ofString "attempts", .attempts
        [{ attempt := 1
           status := .degraded
           topology := some
             { reached := true
               nodes := [⟨GoString.ofString "hop-1", 1, GoString.ofString "203.0.113.9",
                 .finite 80, .degraded, true, none, none⟩]
               links := [] }
           errorCode := []
           message := [] }])])

/-- A healthy verdict over a degraded path. -/
theorem healthy_verdict_unearned :
    (analyze typedLibrary [slowHopResult] ⟨2, 0⟩).verdict = .healthy ∧
      ¬Earned typedLibrary [slowHopResult] ⟨2, 0⟩ := by
  have quiet : ∀ result ∈ [slowHopResult], Quiet typedLibrary (Time.utc ⟨2, 0⟩) result := by
    intro result member
    rw [List.mem_singleton.mp member]
    decide +kernel
  refine ⟨(verdict_healthy_iff _ _ _).mpr ⟨by simp, quiet, by decide +kernel⟩, ?_⟩
  intro earned
  have troubled : troubledPaths typedLibrary slowHopResult = true := by decide +kernel
  rw [earned.untroubled slowHopResult (List.mem_singleton_self _)] at troubled
  cases troubled

end CheckNetwork.Analysis
