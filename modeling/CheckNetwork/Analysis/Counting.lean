import CheckNetwork.Analysis.Integrity
import Mathlib

/-!
# How many findings

The findings of a report are as many as the different keys its rules ask for.
Only a traceroute result asks for three rules, one each for its execution, its
reachability and its path.
-/

namespace CheckNetwork.Analysis

open Diagnostic Go

/-! ## Facts of one result -/

/-- The facts of a result in another place. -/
def Facts.inPlace (facts : Facts) (index : Nat) : Facts := { facts with index := index }

/-- A step whose facts depend neither on the coverage so far nor on the place of
the result. -/
def Draft.Blind (step : Draft → Draft) : Prop :=
  ∀ coverage other facts index, (step ⟨coverage, facts.inPlace index⟩).facts =
    (step ⟨other, facts⟩).facts.inPlace index

namespace Draft

variable {first second change : Draft → Draft}

theorem Blind.comp (firstBlind : Blind first) (secondBlind : Blind second) :
    Blind fun draft => second (first draft) := by
  intro coverage other facts index
  have same := firstBlind coverage other facts index
  have last := secondBlind (first ⟨coverage, facts.inPlace index⟩).coverage
    (first ⟨other, facts⟩).coverage (first ⟨other, facts⟩).facts index
  exact (congrArg (fun facts => (second ⟨_, facts⟩).facts) same).trans last

theorem Blind.when (condition : Facts → Bool) (blind : Blind change)
    (unplaced : ∀ facts index, condition (Facts.inPlace facts index) = condition facts) :
    Blind fun draft => draft.when (condition draft.facts) change := by
  intro coverage other facts index
  unfold Draft.when
  dsimp only
  rw [unplaced]
  split
  · exact blind coverage other facts index
  · rfl

theorem Blind.ite {condition : Prop} [Decidable condition] (firstBlind : Blind first)
    (secondBlind : Blind second) :
    Blind fun draft => if condition then first draft else second draft := by
  intro coverage other facts index
  dsimp only
  split
  · exact firstBlind coverage other facts index
  · exact secondBlind coverage other facts index

theorem blind_available (signal : String) : Blind fun draft => draft.available signal :=
  fun _ _ _ _ => rfl

theorem blind_missing (signal : String) : Blind fun draft => draft.missing signal :=
  fun _ _ _ _ => rfl

theorem blind_limit (code : CoverageIssueCode) (signal reason : String) :
    Blind fun draft => draft.limit code signal reason :=
  fun _ _ _ _ => rfl

theorem blind_refuse (condition : Bool) (place : String) (code : CoverageIssueCode)
    (signal reason : String) : Blind fun draft =>
      (draft.invalid.when condition fun draft => draft.missing place).limit code signal reason := by
  intro coverage other facts index
  cases condition <;> rfl

end Draft

section Blind

open Draft

variable {library : Library} {now : Time} {result : Result}

theorem blind_statusStep : Blind (statusStep result) :=
  (blind_available _).comp ((blind_limit _ _ _).when (fun _ => _) fun _ _ => rfl)

theorem blind_errorCodeStep : Blind (errorCodeStep result) :=
  (blind_available _).ite ((blind_missing _).when (fun _ => _) fun _ _ => rfl)

theorem blind_kindStep : Blind (kindStep result) :=
  (blind_limit _ _ _).when (fun _ => _) fun _ _ => rfl

theorem blind_detailsStep : Blind (detailsStep result) :=
  ((blind_missing _).comp (blind_limit _ _ _)).when (fun _ => _) fun _ _ => rfl

theorem blind_tlsFailureStep : Blind (tlsFailureStep library now result) :=
  ((blind_refuse _ _ _ _ _).when (fun _ => _) fun _ _ => rfl).when (fun _ => _) fun _ _ => rfl

theorem blind_greetingStep : Blind (greetingStep library result) :=
  ((blind_refuse _ _ _ _ _).ite (((blind_available _).comp (blind_limit _ _ _)).when
    (fun _ => _) fun _ _ => rfl)).when (fun _ => _) fun _ _ => rfl

theorem blind_dnsStep : Blind (dnsStep result) :=
  ((blind_available _).ite (blind_refuse _ _ _ _ _)).when (fun _ => _) fun _ _ => rfl

theorem blind_endpointStep : Blind (endpointStep result) :=
  ((blind_available _).ite (blind_refuse _ _ _ _ _)).when (fun _ => _) fun _ _ => rfl

theorem blind_httpStatusStep : Blind (httpStatusStep result) := by
  intro coverage other facts index
  unfold httpStatusStep
  split
  · rfl
  · unfold Draft.when
    split
    · split <;> rfl
    · rfl

theorem blind_httpStep : Blind (httpStep result) :=
  (blind_httpStatusStep.comp ((blind_refuse _ _ _ _ _).when
    (fun facts => result.status = .healthy && !facts.hasHTTPStatus) fun _ _ => rfl)).when
      (fun _ => _) fun _ _ => rfl

theorem blind_tlsStep : Blind (tlsStep library result) := by
  intro coverage other facts index
  unfold tlsStep tlsHandshakeStep certificateStep Draft.when
  dsimp only
  split_ifs
  all_goals first
    | rfl
    | split <;> rfl

theorem blind_providerFailureStep : Blind (providerFailureStep result) := by
  intro coverage other facts index
  unfold providerFailureStep
  split
  · unfold Draft.when
    split <;> rfl
  · rfl

theorem blind_enrichmentStep : Blind (enrichmentStep result) := by
  have kept : ∀ draft, (enrichmentStep result draft).facts = draft.facts := by
    intro draft
    unfold enrichmentStep
    split
    · rfl
    · dsimp only
      split <;> rfl
  intro coverage other facts index
  rw [kept, kept]

theorem blind_attemptsStep {counters : Counters} {value : Detail} :
    Blind fun draft => attemptsStep library result draft counters value := by
  intro coverage other facts index
  unfold attemptsStep
  dsimp only
  split
  · unfold Draft.when
    split <;> rfl
  · rfl

theorem blind_aggregateStep {counters : Counters} :
    Blind fun draft => aggregateStep library result draft counters := by
  intro coverage other facts index
  unfold aggregateStep
  dsimp only
  split
  · unfold Draft.when
    split <;> rfl
  · rfl

theorem blind_outerErrorStep {counters : Counters} :
    Blind fun draft => outerErrorStep result draft counters := by
  intro coverage other facts index
  unfold outerErrorStep Draft.when
  dsimp only
  split <;> rfl

theorem blind_topologyStep : Blind (topologyStep library result) :=
  Blind.when (fun facts => facts.traceExecutionFail = 0 &&
      (normalizedTopology library (result.detail? "topology")).isNone &&
        !hasDetail result "attempts")
    ((blind_limit _ _ _).ite ((blind_missing _).comp (blind_limit _ _ _))) fun _ _ => rfl

theorem blind_degradationStep : Blind (degradationStep result) :=
  Blind.when (fun facts => result.status = .degraded && facts.traceExecutionFail = 0 &&
    !facts.tracePathUnstable && !facts.tracePathDegraded) (blind_limit _ _ _) fun _ _ => rfl

theorem blind_countersStep : Blind (countersStep library result) := by
  unfold countersStep
  cases (readCounters result).filter (validCounters result.status) with
  | none => exact blind_refuse _ _ _ _ _
  | some counters =>
      have counted : Blind fun draft : Draft =>
          { draft with facts := countersFacts counters draft.facts } := fun _ _ _ _ => rfl
      have chain := fun (evidence : Draft → Draft) (blind : Blind evidence) =>
        have outer : Blind fun draft => outerErrorStep result draft counters := blind_outerErrorStep
        have topology : Blind (topologyStep library result) := blind_topologyStep
        have degradation : Blind (degradationStep result) := blind_degradationStep
        ((((counted.comp blind).comp outer).comp topology).comp degradation).comp
          (Blind.when Facts.hasTraceCounters (blind_available "details.trace_attempts") fun _ _ => rfl)
      cases result.detail? "attempts" with
      | some value => exact chain (attemptsStep library result · counters value) blind_attemptsStep
      | none => exact chain (aggregateStep library result · counters) blind_aggregateStep

/-- The facts of a result depend neither on the results before it nor, but for
the index, on its place. -/
theorem facts_inPlace (index place : Nat) (coverage other : Coverage) :
    (normalizeResult library now place result coverage).facts =
      (normalizeResult library now index result other).facts.inPlace place := by
  have checks : Blind (checkSteps library now result) :=
    ((((((((blind_statusStep.comp blind_errorCodeStep).comp blind_kindStep).comp
      blind_detailsStep).comp blind_tlsFailureStep).comp blind_greetingStep).comp
        blind_dnsStep).comp blind_endpointStep).comp blind_httpStep).comp blind_tlsStep
  have evidence : Blind (tracerouteStep library result) :=
    Blind.when (fun _ => _) ((blind_providerFailureStep.comp blind_enrichmentStep).comp
      blind_countersStep) fun _ _ => rfl
  exact (checks.comp evidence) coverage other (initialFacts index result) place

/-- The facts of a result do not depend on the results before it. -/
theorem facts_normalizeResult (index : Nat) (coverage other : Coverage) :
    (normalizeResult library now index result coverage).facts =
      (normalizeResult library now index result other).facts :=
  (facts_inPlace index index coverage other).trans (facts_inPlace index index other other).symm

end Blind

/-! ## Keys -/

theorem mem_foldl_recordKey {keys asked : List GoString} {key : GoString} :
    key ∈ asked.foldl recordKey keys ↔ key ∈ keys ∨ key ∈ asked := by
  induction asked generalizing keys with
  | nil => simp
  | cons first asked ih =>
      rw [List.foldl_cons, ih, mem_recordKey, List.mem_cons, or_assoc]

theorem length_foldl_recordKey {keys : List GoString} (asked : List GoString)
    (nodup : (asked.foldl recordKey keys).Nodup) (fresh : keys = []) :
    (asked.foldl recordKey keys).length = asked.dedup.length := by
  subst fresh
  refine List.Perm.length_eq ((List.perm_ext_iff_of_nodup nodup asked.nodup_dedup).mpr ?_)
  intro key
  rw [mem_foldl_recordKey, List.mem_dedup]
  simp

/-- The facts of the result in a place. -/
def resultFacts (library : Library) (now : Time) (index : Nat) (result : Result) : Facts :=
  (normalizeResult library now index result emptyCoverage).facts

theorem facts_normalizeResults (library : Library) (now : Time) (results : List Result) :
    (normalizeResults library now results emptyCoverage).2 =
      results.zipIdx.map fun (result, index) => resultFacts library now index result := by
  induction results using List.reverseRecOn with
  | nil => rfl
  | append_singleton earlier last ih =>
      rw [normalizeResults_concat]
      dsimp only
      rw [ih, facts_normalizeResult earlier.length _ emptyCoverage]
      simp [List.zipIdx_append, resultFacts]

/-- The keys of the findings that a result asks for. -/
def askedBy (library : Library) (now : Time) (index : Nat) (result : Result) : List GoString :=
  let facts := resultFacts library now index result
  (answer library now facts).rules.map (findingKey facts)

/-- The different findings that the results of a report ask for. -/
def askedFindings (library : Library) (results : List Result) (now : Time) : List GoString :=
  (results.zipIdx.flatMap fun (result, index) => askedBy library now.utc index result).dedup

/-- There is one finding for each key that is asked for. -/
theorem length_findings (library : Library) (results : List Result) (now : Time) :
    (analyze library results now).findings.length = (askedFindings library results now).length := by
  have closed := Builder.closed_explained library now.utc
    (normalizeResults library now.utc results emptyCoverage).1
    (normalizeResults library now.utc results emptyCoverage).2
  have keys_eq : Builder.askedKeys library now.utc
      (normalizeResults library now.utc results emptyCoverage).2 =
        results.zipIdx.flatMap fun (result, index) => askedBy library now.utc index result := by
    rw [facts_normalizeResults, Builder.askedKeys, List.flatMap_map]
    rfl
  rw [analyze_eq, (perm_findings_finalize _).length_eq, askedFindings, ← keys_eq]
  exact closed.keys_length.symm.trans (length_foldl_recordKey _ closed.keys_nodup rfl)

end CheckNetwork.Analysis
