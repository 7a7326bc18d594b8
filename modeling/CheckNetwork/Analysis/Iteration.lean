import CheckNetwork.Analysis.Analyze

/-!
# Iteration order

Details are a map, and a map is visited in any order.  The analysis of a
result depends on what its details hold under each key and on how many they
are, never on that order.
-/

namespace CheckNetwork.Analysis

open Diagnostic Go

/-- The same result whose details are visited in another order.  A map holds a
key at most once. -/
inductive Result.Revisited (result : Result) : Result → Prop
  | same : Revisited result result
  | other {entries visited : Details} (details_eq : result.details = some entries)
      (distinct : (entries.map Prod.fst).Nodup) (perm : entries.Perm visited) :
      Revisited result { result with details := some visited }

/-- A key that occurs once is found wherever it stands. -/
theorem get?_of_perm {entries visited : Details} (distinct : (entries.map Prod.fst).Nodup)
    (perm : entries.Perm visited) (key : String) : Details.get? visited key = entries.get? key := by
  have found : ∀ {entries : Details}, (entries.map Prod.fst).Nodup → ∀ value,
      Details.get? entries key = some value ↔ (GoString.ofString key, value) ∈ entries := by
    intro entries distinct value
    induction entries with
    | nil => simp [Details.get?]
    | cons entry entries ih =>
        rw [List.map_cons, List.nodup_cons] at distinct
        obtain ⟨name, held⟩ := entry
        by_cases here : name = GoString.ofString key
        · subst here
          have absent : (GoString.ofString key, value) ∉ entries := fun member =>
            distinct.1 (List.mem_map.mpr ⟨_, member, rfl⟩)
          simp [Details.get?, absent, eq_comm]
        · have skipped : Details.get? ((name, held) :: entries) key = Details.get? entries key := by
            simp [Details.get?, here]
          rw [skipped, ih distinct.2, List.mem_cons, Prod.mk.injEq]
          simp [Ne.symm here]
  have visitedDistinct : (visited.map Prod.fst).Nodup := (perm.map Prod.fst).nodup_iff.mp distinct
  apply Option.ext
  intro value
  rw [found visitedDistinct, found distinct, perm.mem_iff]

namespace Result.Revisited

variable {result other : Result} (revisited : Revisited result other)

include revisited

theorem kind_eq : other.kind = result.kind := by
  cases revisited <;> rfl

theorem address_eq : other.address = result.address := by
  cases revisited <;> rfl

theorem status_eq : other.status = result.status := by
  cases revisited <;> rfl

theorem errorCode_eq : other.errorCode = result.errorCode := by
  cases revisited <;> rfl

theorem isNone_details : other.details.isNone = result.details.isNone := by
  cases revisited with
  | same => rfl
  | other details_eq _ _ => rw [details_eq]; rfl

theorem isSome_details : other.details.isSome = result.details.isSome := by
  cases revisited with
  | same => rfl
  | other details_eq _ _ => rw [details_eq]; rfl

theorem detailCount_eq : detailCount other = detailCount result := by
  cases revisited with
  | same => rfl
  | other details_eq _ perm => simp [detailCount, details_eq, perm.length_eq]

theorem detail?_eq (key : String) : other.detail? key = result.detail? key := by
  cases revisited with
  | same => rfl
  | other details_eq distinct perm =>
      simp [Result.detail?, details_eq, get?_of_perm distinct perm key]

theorem all_details (holds : GoString × Detail → Bool) :
    (other.details.getD []).all holds = (result.details.getD []).all holds := by
  cases revisited with
  | same => rfl
  | @other entries visited details_eq _ perm =>
      rw [details_eq]
      apply Bool.eq_iff_iff.mpr
      simp only [Option.getD_some, List.all_eq_true, perm.mem_iff]

/-! ## Readers -/

theorem hasDetail_eq : hasDetail other = hasDetail result := by
  funext key
  rw [hasDetail, hasDetail, revisited.detail?_eq]

theorem reflectedDetail_eq (key : String) :
    reflectedDetail other key = reflectedDetail result key := by
  rw [reflectedDetail, reflectedDetail, revisited.detail?_eq]

theorem integerDetail_eq (key : String) : integerDetail other key = integerDetail result key := by
  rw [integerDetail, integerDetail, revisited.reflectedDetail_eq]

theorem stringDetail_eq (key : String) : stringDetail other key = stringDetail result key := by
  rw [stringDetail, stringDetail, revisited.reflectedDetail_eq]

theorem stringSliceDetail_eq (key : String) :
    stringSliceDetail other key = stringSliceDetail result key := by
  rw [stringSliceDetail, stringSliceDetail, revisited.reflectedDetail_eq]

theorem timeDetail_eq (library : Library) (key : String) :
    timeDetail library other key = timeDetail library result key := by
  rw [timeDetail, timeDetail, revisited.reflectedDetail_eq]

theorem canonicalUTCRFC3339Detail_eq (library : Library) (key : String) :
    canonicalUTCRFC3339Detail library other key =
      canonicalUTCRFC3339Detail library result key := by
  rw [canonicalUTCRFC3339Detail, canonicalUTCRFC3339Detail, revisited.stringDetail_eq]

theorem isTLSFailure_eq : isTLSFailure other = isTLSFailure result := by
  rw [isTLSFailure, isTLSFailure, revisited.status_eq, revisited.kind_eq, revisited.errorCode_eq]

theorem isGreetingFailure_eq : isGreetingFailure other = isGreetingFailure result := by
  rw [isGreetingFailure, isGreetingFailure, revisited.kind_eq, revisited.errorCode_eq]

theorem isTracerouteUnavailable_eq :
    isTracerouteUnavailable other = isTracerouteUnavailable result := by
  rw [isTracerouteUnavailable, isTracerouteUnavailable, revisited.status_eq, revisited.kind_eq,
    revisited.errorCode_eq]

theorem validTLSFailureDetails_eq (library : Library) (now : Time) :
    validTLSFailureDetails library other now = validTLSFailureDetails library result now := by
  simp only [validTLSFailureDetails, revisited.errorCode_eq, revisited.detailCount_eq,
    revisited.hasDetail_eq, revisited.canonicalUTCRFC3339Detail_eq]

theorem validServiceGreetingDetails_eq (library : Library) :
    validServiceGreetingDetails library other = validServiceGreetingDetails library result := by
  simp only [validServiceGreetingDetails, revisited.errorCode_eq, revisited.status_eq,
    revisited.kind_eq, revisited.detailCount_eq, revisited.isNone_details, revisited.hasDetail_eq,
    revisited.stringDetail_eq, revisited.timeDetail_eq, revisited.all_details]

/-! ## Steps -/

variable (library : Library) (now : Time) (draft : Draft)

theorem errorCodeStep_eq : errorCodeStep other draft = errorCodeStep result draft := by
  unfold errorCodeStep
  rw [revisited.errorCode_eq, revisited.status_eq]

theorem httpStatusStep_eq : httpStatusStep other draft = httpStatusStep result draft := by
  simp only [httpStatusStep, httpDetailsMissing, revisited.errorCode_eq, revisited.hasDetail_eq,
    revisited.integerDetail_eq]

theorem certificateStep_eq :
    certificateStep library other draft = certificateStep library result draft := by
  simp only [certificateStep, revisited.timeDetail_eq, revisited.hasDetail_eq]

theorem checkSteps_eq : checkSteps library now other draft = checkSteps library now result draft := by
  have dns : validDNSAnswers other = validDNSAnswers result := by
    simp only [validDNSAnswers, revisited.stringSliceDetail_eq, revisited.integerDetail_eq]
  simp only [checkSteps, statusStep, revisited.errorCodeStep_eq, kindStep, detailsStep,
    tlsFailureStep, greetingStep, dnsStep, dns, endpointStep, httpStep, httpDetailsMissing,
    revisited.httpStatusStep_eq, tlsStep, tlsHandshakeStep, revisited.certificateStep_eq,
    revisited.kind_eq, revisited.status_eq, revisited.errorCode_eq, revisited.isNone_details,
    revisited.isSome_details, revisited.hasDetail_eq, revisited.stringDetail_eq,
    revisited.isTLSFailure_eq, revisited.isGreetingFailure_eq,
    revisited.isTracerouteUnavailable_eq, revisited.validTLSFailureDetails_eq,
    revisited.validServiceGreetingDetails_eq]

theorem readCounters_eq : readCounters other = readCounters result := by
  simp only [readCounters, revisited.integerDetail_eq]

theorem attemptsStep_eq (counters : Counters) (value : Detail) :
    attemptsStep library other draft counters value =
      attemptsStep library result draft counters value := by
  unfold attemptsStep
  rw [revisited.detail?_eq]

theorem aggregateStep_eq (counters : Counters) :
    aggregateStep library other draft counters = aggregateStep library result draft counters := by
  unfold aggregateStep
  rw [revisited.detail?_eq]

theorem outerErrorStep_eq (counters : Counters) :
    outerErrorStep other draft counters = outerErrorStep result draft counters := by
  simp only [outerErrorStep, revisited.status_eq, revisited.errorCode_eq]

theorem topologyStep_eq : topologyStep library other draft = topologyStep library result draft := by
  simp only [topologyStep, revisited.detail?_eq, revisited.hasDetail_eq]

theorem degradationStep_eq : degradationStep other draft = degradationStep result draft := by
  simp only [degradationStep, revisited.status_eq, revisited.hasDetail_eq]

theorem countersStep_eq : countersStep library other draft = countersStep library result draft := by
  unfold countersStep
  rw [revisited.readCounters_eq, revisited.status_eq, revisited.detail?_eq, revisited.hasDetail_eq]
  cases (readCounters result).filter (validCounters result.status) with
  | none => rfl
  | some counters =>
      cases result.detail? "attempts" with
      | none => simp only [revisited.aggregateStep_eq, revisited.outerErrorStep_eq,
          revisited.topologyStep_eq, revisited.degradationStep_eq]
      | some value => simp only [revisited.attemptsStep_eq, revisited.outerErrorStep_eq,
          revisited.topologyStep_eq, revisited.degradationStep_eq]

theorem providerFailureStep_eq :
    providerFailureStep other draft = providerFailureStep result draft := by
  unfold providerFailureStep
  rw [revisited.integerDetail_eq, revisited.kind_eq]

theorem enrichmentStep_eq : enrichmentStep other draft = enrichmentStep result draft := by
  unfold enrichmentStep
  rw [revisited.detail?_eq, revisited.integerDetail_eq]

theorem tracerouteStep_eq :
    tracerouteStep library other draft = tracerouteStep library result draft := by
  simp only [tracerouteStep, revisited.providerFailureStep_eq, revisited.enrichmentStep_eq,
    revisited.kind_eq, revisited.isTracerouteUnavailable_eq, revisited.countersStep_eq]

/-- The normalization of a result does not see the order of its details. -/
theorem normalizeResult_eq (index : Nat) (coverage : Coverage) :
    normalizeResult library now index other coverage =
      normalizeResult library now index result coverage := by
  simp only [normalizeResult, initialFacts, revisited.kind_eq, revisited.address_eq,
    revisited.status_eq, revisited.errorCode_eq, revisited.checkSteps_eq,
    revisited.tracerouteStep_eq]

end Result.Revisited

/-- The analysis does not see the order in which any details are visited. -/
theorem analyze_of_revisited (library : Library) (now : Time) {results others : List Result}
    (revisited : List.Forall₂ Result.Revisited results others) :
    analyze library others now = analyze library results now := by
  have length_eq := revisited.length_eq
  have facts_eq : ∀ coverage, normalizeResults library now.utc others coverage =
      normalizeResults library now.utc results coverage := by
    intro coverage
    unfold normalizeResults
    generalize (coverage, ([] : List Facts)) = start
    generalize 0 = first
    induction revisited generalizing start first with
    | nil => rfl
    | cons head tail ih =>
        simp only [List.zipIdx_cons, List.foldl_cons]
        rw [head.normalizeResult_eq, ih (by simpa using length_eq)]
  unfold analyze
  rw [facts_eq, length_eq]

end CheckNetwork.Analysis
