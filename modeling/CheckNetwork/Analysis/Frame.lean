import CheckNetwork.Analysis.Answer

/-!
# What normalizing keeps and notes

A step never changes what a result asked for, and a step that rejects details
or counters leaves a limitation of the result behind.
-/

namespace CheckNetwork.Analysis

open Diagnostic Go

/-- The facts that are read from the result alone. -/
def Facts.asked (facts : Facts) : Nat × Kind × GoString × Status × Bool × GoString :=
  (facts.index, facts.kind, facts.address, facts.status, facts.statusValid, facts.errorCode)

/-- The facts of traceroute evidence. -/
def Facts.traced (facts : Facts) : Bool × List Int × Bool × Bool :=
  (facts.hasTraceCounters,
    [facts.traceReached, facts.traceUnreached, facts.traceExecutionFail, facts.tracePathCompleted,
      facts.tracePathReached], facts.tracePathDegraded, facts.tracePathUnstable)

/-- Limitations were added. -/
def Draft.Limited (before after : Draft) : Prop :=
  before.coverage.limitations.length < after.coverage.limitations.length

/-- A step that keeps what the result asked for. -/
structure Draft.Frames (before after : Draft) : Prop
    extends Draft.Limits (fun _ => True) before after where
  asked_eq : after.facts.asked = before.facts.asked

/-- A step that rejects details only with a limitation. -/
structure Draft.Notes (before after : Draft) : Prop extends Draft.Frames before after where
  details : after.facts.detailsValid = true ∨ before.facts.detailsValid = false ∨
    Draft.Limited before after

/-- A step that also leaves the traceroute evidence alone. -/
structure Draft.Checks (before after : Draft) : Prop extends Draft.Notes before after where
  traced_eq : after.facts.traced = before.facts.traced

namespace Draft

variable {before middle after draft : Draft}

theorem Limits.length_le {allowed : String → Prop} (limits : Limits allowed before after) :
    before.coverage.limitations.length ≤ after.coverage.limitations.length := by
  obtain ⟨issues, issues_eq, _⟩ := limits.limitations
  rw [issues_eq, List.length_append]
  omega

theorem Frames.refl (draft : Draft) : Frames draft draft :=
  ⟨Limits.refl draft, rfl⟩

theorem Frames.trans (first : Frames before middle) (last : Frames middle after) :
    Frames before after :=
  ⟨first.toLimits.trans last.toLimits, last.asked_eq.trans first.asked_eq⟩

theorem Notes.refl (draft : Draft) : Notes draft draft := by
  refine ⟨Frames.refl draft, ?_⟩
  cases draft.facts.detailsValid with
  | true => exact .inl rfl
  | false => exact .inr (.inl rfl)

theorem Notes.trans (first : Notes before middle) (last : Notes middle after) :
    Notes before after := by
  refine ⟨first.toFrames.trans last.toFrames, ?_⟩
  rcases last.details with valid | invalid | limited
  · exact .inl valid
  · rcases first.details with valid | invalid | limited
    · rw [valid] at invalid
      cases invalid
    · exact .inr (.inl invalid)
    · exact .inr (.inr (limited.trans_le last.toLimits.length_le))
  · exact .inr (.inr (first.toLimits.length_le.trans_lt limited))

theorem Checks.refl (draft : Draft) : Checks draft draft :=
  ⟨Notes.refl draft, rfl⟩

theorem Checks.trans (first : Checks before middle) (last : Checks middle after) :
    Checks before after :=
  ⟨first.toNotes.trans last.toNotes, last.traced_eq.trans first.traced_eq⟩

theorem Checks.when {condition : Bool} {change : Draft → Draft}
    (checks : ∀ draft, condition = true → Checks draft (change draft)) :
    Checks draft (draft.when condition change) := by
  unfold Draft.when
  split
  · rename_i held
    exact checks draft held
  · exact Checks.refl draft

/-- A limitation accounts for whatever the change before it did. -/
theorem Frames.limit (frames : Frames before middle) (code : CoverageIssueCode)
    (signal reason : String) : Notes before (middle.limit code signal reason) := by
  have grows : Grows (fun _ => True) middle (middle.limit code signal reason) :=
    grows_limit code reason trivial
  refine ⟨⟨frames.toLimits.trans grows.toLimits, frames.asked_eq⟩, .inr (.inr ?_)⟩
  have le := frames.toLimits.length_le
  simp only [Limited, Draft.limit, List.length_append, List.length_singleton]
  omega

theorem checks_available (signal : String) : Checks draft (draft.available signal) :=
  ⟨⟨⟨(grows_available signal).toLimits, rfl⟩, (Notes.refl draft).details.imp_right
    fun invalid => .inl (invalid.elim id fun limited => absurd limited (lt_irrefl _))⟩, rfl⟩

theorem checks_missing (signal : String) : Checks draft (draft.missing signal) :=
  ⟨⟨⟨(grows_missing signal).toLimits, rfl⟩, (Notes.refl draft).details.imp_right
    fun invalid => .inl (invalid.elim id fun limited => absurd limited (lt_irrefl _))⟩, rfl⟩

theorem checks_limit (code : CoverageIssueCode) (signal reason : String) :
    Checks draft (draft.limit code signal reason) :=
  ⟨(Frames.refl draft).limit code signal reason, rfl⟩

/-- Invalid details, perhaps a missing place, and the limitation that says
so. -/
theorem checks_refuse (condition : Bool) (place : String) (code : CoverageIssueCode)
    (signal reason : String) :
    Checks draft ((draft.invalid.when condition fun draft => draft.missing place).limit code signal
      reason) := by
  have invalid : Frames draft draft.invalid := ⟨grows_invalid.toLimits, rfl⟩
  have placed : Checks draft.invalid (draft.invalid.when condition fun draft =>
      draft.missing place) := .when fun _ _ => checks_missing place
  exact ⟨(invalid.trans placed.toFrames).limit code signal reason, placed.traced_eq⟩

theorem checks_refuse_missing (place : String) (code : CoverageIssueCode) (signal reason : String) :
    Checks draft ((draft.invalid.missing place).limit code signal reason) :=
  checks_refuse true place code signal reason

/-- Facts that a check sets. -/
theorem checks_facts {facts : Facts} (asked_eq : facts.asked = draft.facts.asked)
    (details_eq : facts.detailsValid = draft.facts.detailsValid)
    (traced_eq : facts.traced = draft.facts.traced) :
    Checks draft { draft with facts := facts } := by
  refine ⟨⟨⟨(grows_facts (congrArg Prod.fst asked_eq)).toLimits, asked_eq⟩, ?_⟩, traced_eq⟩
  dsimp only
  rw [details_eq]
  cases draft.facts.detailsValid with
  | true => exact .inl rfl
  | false => exact .inr (.inl rfl)

end Draft

/-! ## Checks -/

section Checks

open Draft

variable {library : Library} {now : Time} {result : Result} {draft : Draft}

theorem checks_statusStep : Checks draft (statusStep result draft) :=
  (checks_available _).trans (.when fun _ _ => checks_limit _ _ _)

theorem checks_errorCodeStep : Checks draft (errorCodeStep result draft) := by
  unfold errorCodeStep
  split
  · exact checks_available _
  · exact .when fun _ _ => checks_missing _

theorem checks_kindStep : Checks draft (kindStep result draft) :=
  .when fun _ _ => checks_limit _ _ _

theorem checks_detailsStep : Checks draft (detailsStep result draft) :=
  .when fun _ _ => (checks_missing _).trans (checks_limit _ _ _)

theorem checks_tlsFailureStep : Checks draft (tlsFailureStep library now result draft) :=
  .when fun _ _ => .when fun _ _ => checks_refuse _ _ _ _ _

theorem checks_greetingStep : Checks draft (greetingStep library result draft) := by
  apply Checks.when
  intro draft _
  split
  · exact checks_refuse _ _ _ _ _
  · exact .when fun _ _ => (checks_available _).trans (checks_limit _ _ _)

theorem checks_dnsStep : Checks draft (dnsStep result draft) := by
  apply Checks.when
  intro draft _
  split
  · exact checks_available _
  · exact checks_refuse _ _ _ _ _

theorem checks_endpointStep : Checks draft (endpointStep result draft) := by
  apply Checks.when
  intro draft _
  split
  · exact checks_available _
  · exact checks_refuse _ _ _ _ _

theorem checks_httpStatusStep : Checks draft (httpStatusStep result draft) := by
  unfold httpStatusStep
  split
  · exact (checks_facts (by rfl) (by rfl) (by rfl)).trans (checks_available _)
  · exact .when fun _ _ => (Checks.when fun _ _ => checks_missing _).trans (checks_limit _ _ _)

theorem checks_httpStep : Checks draft (httpStep result draft) :=
  .when fun _ _ => checks_httpStatusStep.trans (.when fun _ _ => checks_refuse _ _ _ _ _)

theorem checks_tlsHandshakeStep : Checks draft (tlsHandshakeStep result draft) :=
  .when fun _ _ => (Checks.when fun _ _ => checks_refuse_missing _ _ _ _).trans
    (.when fun _ _ => checks_refuse_missing _ _ _ _)

theorem checks_certificateStep : Checks draft (certificateStep library result draft) := by
  unfold certificateStep
  split
  · exact (checks_facts (by rfl) (by rfl) (by rfl)).trans (checks_available _)
  · exact .when fun _ _ => checks_limit _ _ _

theorem checks_tlsStep : Checks draft (tlsStep library result draft) :=
  .when fun _ _ => checks_tlsHandshakeStep.trans checks_certificateStep

theorem checks_checkSteps : Checks draft (checkSteps library now result draft) :=
  ((((((((checks_statusStep.trans checks_errorCodeStep).trans checks_kindStep).trans
    checks_detailsStep).trans checks_tlsFailureStep).trans checks_greetingStep).trans
      checks_dnsStep).trans checks_endpointStep).trans checks_httpStep).trans checks_tlsStep

/-- An unsupported status is a limitation. -/
theorem limited_statusStep (unknown : validStatus result.status = false) :
    Limited draft (statusStep result draft) := by
  simp [statusStep, Draft.when, unknown, Limited, Draft.limit, Draft.available]

theorem limited_checkSteps (unknown : validStatus result.status = false) :
    Limited draft (checkSteps library now result draft) := by
  have rest : Checks (statusStep result draft) (checkSteps library now result draft) :=
    ((((((((checks_errorCodeStep).trans checks_kindStep).trans checks_detailsStep).trans
      checks_tlsFailureStep).trans checks_greetingStep).trans checks_dnsStep).trans
        checks_endpointStep).trans checks_httpStep).trans checks_tlsStep
  exact (limited_statusStep unknown).trans_le rest.toLimits.length_le

theorem checks_providerFailureStep : Checks draft (providerFailureStep result draft) := by
  unfold providerFailureStep
  split
  · apply Checks.when
    intro draft _
    refine ⟨⟨⟨⟨rfl, [], by simp, by simp⟩, rfl⟩, ?_⟩, rfl⟩
    exact (Notes.refl draft).details.imp_right fun invalid => .inl
      (invalid.elim id fun limited => absurd limited (lt_irrefl _))
  · exact Checks.refl draft

theorem checks_enrichmentStep : Checks draft (enrichmentStep result draft) := by
  unfold enrichmentStep
  split
  · exact Checks.refl draft
  · dsimp only
    split
    · refine ⟨⟨⟨⟨rfl, [], by simp [available], by simp⟩, rfl⟩, ?_⟩, rfl⟩
      exact (Notes.refl draft).details.imp_right fun invalid => .inl
        (invalid.elim id fun limited => absurd limited (lt_irrefl _))
    · exact checks_limit _ _ _

end Checks

/-! ## Traceroute evidence -/

/-- Signs of a problem come with the completed attempts that show them. -/
structure Facts.Coherent (facts : Facts) : Prop where
  unstable : facts.tracePathUnstable = true →
    0 < facts.tracePathCompleted ∧ 2 ≤ facts.tracePathReached
  degraded : facts.tracePathDegraded = true → 0 < facts.tracePathCompleted
  reached : 0 ≤ facts.traceReached
  unreached : 0 ≤ facts.traceUnreached
  failed : 0 ≤ facts.traceExecutionFail

theorem Facts.Coherent.congr {facts other : Facts} (coherent : facts.Coherent)
    (traced_eq : other.traced = facts.traced) : other.Coherent := by
  simp only [Facts.traced, Prod.mk.injEq, List.cons.injEq] at traced_eq
  obtain ⟨_, ⟨reached, unreached, failed, completed, pathReached, _⟩, degraded, unstable⟩ :=
    traced_eq
  constructor
  · rw [unstable, completed, pathReached]
    exact coherent.unstable
  · rw [degraded, completed]
    exact coherent.degraded
  · rw [reached]
    exact coherent.reached
  · rw [unreached]
    exact coherent.unreached
  · rw [failed]
    exact coherent.failed

/-- The evidence of a traceroute result was examined: without counters, or
without a sign of the problem that its status claims, it is limited. -/
structure Draft.Examined (before after : Draft) : Prop extends Draft.Notes before after where
  coherent : after.facts.Coherent
  counted : after.facts.hasTraceCounters = true ∨ Draft.Limited before after
  eventful : after.facts.status = .healthy ∨ traceUneventful after.facts = false ∨
    Draft.Limited before after

/-- Evidence with the counters of a result. -/
structure Draft.Counted (counters : Counters) (before after : Draft) : Prop
    extends Draft.Notes before after where
  coherent : after.facts.Coherent
  failed_eq : after.facts.traceExecutionFail = counters.executionFailed
  unreached_eq : after.facts.traceUnreached = counters.unreached
  counted : after.facts.hasTraceCounters = true ∨ Draft.Limited before after

section Traceroute

open Draft

variable {library : Library} {result : Result} {draft before after : Draft} {counters : Counters}

theorem Draft.Counted.trans_checks {middle : Draft} (counted : Counted counters before middle)
    (checks : Checks middle after) : Counted counters before after := by
  have traced_eq := checks.traced_eq
  refine ⟨counted.toNotes.trans checks.toNotes, counted.coherent.congr traced_eq, ?_, ?_, ?_⟩
  all_goals
    simp only [Facts.traced, Prod.mk.injEq, List.cons.injEq] at traced_eq
    obtain ⟨hasCounters, ⟨-, unreached, failed, -⟩, -⟩ := traced_eq
  · rw [failed, counted.failed_eq]
  · rw [unreached, counted.unreached_eq]
  · rw [hasCounters]
    exact counted.counted.imp_right fun limited => limited.trans_le checks.toLimits.length_le

/-- Rejected counters are limited. -/
theorem Draft.Counted.without (counted : Counted counters before after)
    (code : CoverageIssueCode) (signal reason : String) :
    Counted counters before ((withoutCounters after).limit code signal reason) := by
  have removed : Frames before (withoutCounters after) :=
    ⟨counted.toLimits.trans (grows_facts (by rfl)).toLimits, counted.asked_eq⟩
  have le := counted.toLimits.length_le
  refine ⟨removed.limit code signal reason, ?_, counted.failed_eq, counted.unreached_eq, .inr ?_⟩
  · exact ⟨counted.coherent.unstable, counted.coherent.degraded, counted.coherent.reached,
      counted.coherent.unreached, counted.coherent.failed⟩
  · simp only [Limited, Draft.limit, withoutCounters, List.length_append, List.length_singleton]
    omega

theorem validCounters_nonneg {status : Status} (valid : validCounters status counters = true) :
    0 ≤ counters.reached ∧ 0 ≤ counters.unreached ∧ 0 ≤ counters.executionFailed := by
  simp only [validCounters, Bool.and_eq_true, decide_eq_true_eq] at valid
  omega

theorem counted_countersFacts {status : Status} (valid : validCounters status counters = true)
    (coherent : draft.facts.Coherent) :
    Counted counters draft { draft with facts := countersFacts counters draft.facts } := by
  obtain ⟨reached, unreached, failed⟩ := validCounters_nonneg valid
  refine ⟨⟨⟨(grows_facts (by rfl)).toLimits, rfl⟩, ?_⟩, ?_, rfl, rfl, .inl rfl⟩
  · exact (Notes.refl draft).details.imp_right fun invalid => .inl
      (invalid.elim id fun limited => absurd limited (lt_irrefl _))
  · exact ⟨coherent.unstable, coherent.degraded, reached, unreached, failed⟩

/-- Confirmed attempts are as many as their counters say. -/
theorem confirmedAttempts_counts {attempts eligible : List TraceAttempt}
    (confirmed : confirmedAttempts counters attempts = some eligible) :
    eligible = attempts.filter (fun attempt => attempt.errorCode = []) ∧
      eligible.all traceAttemptEligible = true ∧
      (eligible.length : Int) = counters.reached + counters.unreached ∧
      (eligible.countP fun attempt => attempt.topology.any Topology.reached) =
        counters.reached := by
  unfold confirmedAttempts eligibleCompletedTraceAttempts at confirmed
  dsimp only at confirmed
  split_ifs at confirmed with _ _ known counts
  cases confirmed
  exact ⟨rfl, by simpa only [Bool.not_eq_true, Bool.not_eq_false'] using known, counts.1, counts.2.1⟩

/-- Unstable paths are seen on at least two reached attempts. -/
theorem two_le_of_tracePathsUnstable {attempts : List TraceAttempt}
    (unstable : tracePathsUnstable attempts = true) :
    2 ≤ attempts.countP fun attempt => attempt.topology.any Topology.reached := by
  simp only [tracePathsUnstable, Bool.and_eq_true, decide_eq_true_eq] at unstable
  refine unstable.1.trans ?_
  clear unstable
  induction attempts with
  | nil => exact le_rfl
  | cons attempt attempts ih =>
      rw [List.countP_cons, List.filter_cons]
      split
      · rw [List.filterMap_cons]
        cases attempt.topology with
        | none => simpa using ih
        | some topology =>
            cases reached : topology.reached with
            | true => simpa [Option.filter, reached] using ih
            | false => simpa [Option.filter, reached] using ih
      · omega

theorem counted_attemptsStep {status : Status} (valid : validCounters status counters = true)
    (value : Detail) (counted : Counted counters before draft) :
    Counted counters before (attemptsStep library result draft counters value) := by
  unfold attemptsStep
  dsimp only
  split
  · rename_i eligible confirmed
    obtain ⟨attempts, -, confirmed⟩ := Option.bind_eq_some_iff.mp confirmed
    obtain ⟨-, -, length_eq, reached_eq⟩ := confirmedAttempts_counts confirmed
    obtain ⟨reached, unreached, failed⟩ := validCounters_nonneg valid
    refine Counted.trans_checks ?_ (checks_available _)
    have contradicted : Counted counters before (draft.when
        ((normalizedTopology library (result.detail? "topology")).any fun topology =>
          topologyDegraded topology && !traceAttemptsDegraded eligible) fun draft =>
        draft.limit .malformedDetails "trace_paths"
          "traceroute aggregate topology contradicted completed attempt path evidence") :=
      counted.trans_checks (.when fun _ _ => checks_limit _ _ _)
    refine ⟨⟨⟨contradicted.toLimits.trans (grows_facts (by rfl)).toLimits,
      contradicted.asked_eq⟩, contradicted.details⟩, ?_, contradicted.failed_eq,
      contradicted.unreached_eq, contradicted.counted⟩
    refine ⟨?_, ?_, contradicted.coherent.reached, contradicted.coherent.unreached,
      contradicted.coherent.failed⟩
    · intro unstable
      have two := two_le_of_tracePathsUnstable unstable
      dsimp only
      omega
    · intro degraded
      obtain ⟨attempt, member, _⟩ := List.any_eq_true.mp degraded
      have pos := List.length_pos_of_mem member
      dsimp only
      omega
  · exact counted.without _ _ _

theorem counted_aggregateStep (counted : Counted counters before draft)
    (fresh : draft.facts.tracePathUnstable = false) :
    Counted counters before (aggregateStep library result draft counters) := by
  unfold aggregateStep
  split
  · unfold Draft.when
    split
    · refine ⟨⟨⟨counted.toLimits.trans (grows_facts (by rfl)).toLimits, counted.asked_eq⟩,
        counted.details⟩, ?_, counted.failed_eq, counted.unreached_eq, counted.counted⟩
      refine ⟨?_, fun _ => Int.one_pos, counted.coherent.reached, counted.coherent.unreached,
        counted.coherent.failed⟩
      intro unstable
      dsimp only at unstable
      rw [fresh] at unstable
      cases unstable
    · exact counted
  · exact counted

theorem counted_outerErrorStep (counted : Counted counters before draft) :
    Counted counters before (outerErrorStep result draft counters) := by
  unfold outerErrorStep Draft.when
  split
  · exact counted.without _ _ _
  · exact counted

theorem checks_topologyStep : Checks draft (topologyStep library result draft) := by
  apply Checks.when
  intro draft _
  split
  · exact checks_limit _ _ _
  · exact (checks_missing _).trans (checks_limit _ _ _)

theorem checks_degradationStep : Checks draft (degradationStep result draft) :=
  .when fun _ _ => checks_limit _ _ _

/-- A degraded result without a sign of degradation is limited. -/
theorem limited_degradationStep (degraded : result.status = .degraded)
    (uneventful : traceUneventful draft.facts = true) :
    Limited draft (degradationStep result draft) := by
  simp only [traceUneventful, Bool.and_eq_true, decide_eq_true_eq, Bool.not_eq_true'] at uneventful
  obtain ⟨⟨⟨failed, _⟩, unstable⟩, pathDegraded⟩ := uneventful
  simp [degradationStep, Draft.when, degraded, failed, unstable, pathDegraded, Limited, Draft.limit]

theorem eventful_of_unreachable (valid : validCounters .unreachable counters = true)
    (counted : Counted counters before after) : traceUneventful after.facts = false := by
  simp only [validCounters, traceCountersMatchStatus, Bool.and_eq_true, decide_eq_true_eq] at valid
  have seen : counters.executionFailed ≠ 0 ∨ counters.unreached ≠ 0 := by omega
  rw [← counted.failed_eq, ← counted.unreached_eq] at seen
  rcases seen with failed | unreached
  · simp [traceUneventful, failed]
  · simp [traceUneventful, unreached]

theorem examined_of_counted {evidence : Draft} (status_eq : draft.facts.status = result.status)
    (valid : validCounters result.status counters = true)
    (observed : Counted counters draft evidence) :
    Examined draft ((degradationStep result (topologyStep library result
      (outerErrorStep result evidence counters))).when (degradationStep result
        (topologyStep library result
          (outerErrorStep result evidence counters))).facts.hasTraceCounters
        fun draft => draft.available "details.trace_attempts") := by
  have topology : Counted counters draft
      (topologyStep library result (outerErrorStep result evidence counters)) :=
    (counted_outerErrorStep observed).trans_checks checks_topologyStep
  generalize topologyStep library result (outerErrorStep result evidence counters) = known
    at topology ⊢
  have degraded := topology.trans_checks (@checks_degradationStep result known)
  have availability : Checks (degradationStep result known)
      ((degradationStep result known).when (degradationStep result known).facts.hasTraceCounters
        fun draft => draft.available "details.trace_attempts") :=
    .when fun _ _ => checks_available _
  have last := degraded.trans_checks availability
  refine ⟨last.toNotes, last.coherent, last.counted, ?_⟩
  have asked_eq := last.asked_eq
  simp only [Facts.asked, Prod.mk.injEq] at asked_eq
  rw [asked_eq.2.2.2.1, status_eq]
  cases status : result.status with
  | healthy => exact .inl rfl
  | other name =>
      rw [status] at valid
      simp [validCounters, traceCountersMatchStatus] at valid
  | unreachable =>
      rw [status] at valid
      exact .inr (.inl (eventful_of_unreachable valid last))
  | degraded =>
      right
      have same : traceUneventful ((degradationStep result known).when
          (degradationStep result known).facts.hasTraceCounters fun draft =>
            draft.available "details.trace_attempts").facts = traceUneventful known.facts := by
        unfold degradationStep Draft.when
        split_ifs <;> rfl
      rw [same]
      cases uneventful : traceUneventful known.facts with
      | false => exact .inl rfl
      | true =>
          have limited := limited_degradationStep status uneventful
          exact .inr ((topology.toLimits.length_le.trans_lt limited).trans_le
            availability.toLimits.length_le)

theorem examined_countersStep (status_eq : draft.facts.status = result.status)
    (coherent : draft.facts.Coherent) (fresh : draft.facts.tracePathUnstable = false) :
    Examined draft (countersStep library result draft) := by
  unfold countersStep
  split
  · rename_i counters read
    obtain ⟨-, valid⟩ := Option.filter_eq_some_iff.mp read
    have started := @counted_countersFacts draft counters result.status valid coherent
    split
    · exact examined_of_counted status_eq valid (counted_attemptsStep valid _ started)
    · exact examined_of_counted status_eq valid (counted_aggregateStep started fresh)
  · have refused : Checks draft ((draft.invalid.when (!counterKeys.all (hasDetail result))
        fun draft => draft.missing "details.trace_attempts").limit .malformedDetails
          "trace_attempts" "traceroute counters were missing, malformed, or inconsistent") :=
      checks_refuse _ _ _ _ _
    have limited : Limited draft ((draft.invalid.when (!counterKeys.all (hasDetail result))
        fun draft => draft.missing "details.trace_attempts").limit .malformedDetails
          "trace_attempts" "traceroute counters were missing, malformed, or inconsistent") := by
      unfold Draft.when
      split <;> simp [Limited, Draft.limit, Draft.missing, Draft.invalid]
    exact ⟨refused.toNotes, coherent.congr refused.traced_eq, .inr limited, .inr (.inr limited)⟩

end Traceroute

end CheckNetwork.Analysis
