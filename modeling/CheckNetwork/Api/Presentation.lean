import CheckNetwork.Analysis.Accepts
import CheckNetwork.Analysis.Integrity
import CheckNetwork.Analysis.Places
import CheckNetwork.Analysis.Signals
import CheckNetwork.Frontend.Presentation
import Mathlib.Tactic.IntervalCases

/-!
# What the server reports has a wording

The browser can present every finding, every evidence signal and every issue
that the analysis of the server names.  Of the places of its coverage, the
registries leave out the validity times of a TLS certificate.
-/

namespace CheckNetwork.Api

open CheckNetwork.Analysis
open CheckNetwork.Diagnostic
open CheckNetwork.Frontend
open CheckNetwork.Go

/-! ## Places -/

theorem toList_resultPlace (index : Nat) (signal : String) : (resultPlace index signal).toList =
    "results[".toList ++ (Nat.toDigits 10 index ++ ']' :: '.' :: signal.toList) := by
  have place_eq : resultPlace index signal = "results[" ++ toString index ++ "]." ++ signal := rfl
  simp [place_eq, Nat.toString_eq_repr, Nat.repr_eq_ofList_toDigits]

/-- The index of one of the first twenty results is read back. -/
theorem pathIndex_toDigits {index : Nat} (lt : index < 20) (rest : List Char) :
    pathIndex (Nat.toDigits 10 index ++ ']' :: rest) = some (index, rest) := by
  interval_cases index <;> rfl

/-- Whether a coverage path can be presented is decided by its signal. -/
def presentableSignal (signal : String) : Bool :=
  (pathSignal ('.' :: signal.toList)).any fun signal =>
    registered coverageSignalPresentationRegistry
      (if signal = "verification_scope" then "service_verification_scope" else signal)

theorem isSome_coveragePath {index : Nat} (lt : index < 20) (signal : String) :
    (coveragePath (resultPlace index signal)).isSome = presentableSignal signal := by
  have opening : "results[".toList.isPrefixOf (resultPlace index signal).toList = true := by
    rw [toList_resultPlace, List.isPrefixOf_iff_prefix]
    exact List.prefix_append _ _
  have rest : (resultPlace index signal).toList.drop "results[".length =
      Nat.toDigits 10 index ++ ']' :: '.' :: signal.toList := by
    rw [toList_resultPlace]
    exact List.drop_left
  rw [coveragePath, if_pos opening, rest, pathIndex_toDigits lt, presentableSignal]
  simp only [Option.bind_eq_bind, Option.bind_some]
  cases pathSignal ('.' :: signal.toList) with
  | none => rfl
  | some signal =>
      rw [Option.bind_some, Option.any_some]
      generalize (if signal = "verification_scope" then "service_verification_scope"
        else signal) = named
      cases registered coverageSignalPresentationRegistry named <;> rfl

/-- The signals of places have wordings, and only the one for the validity times
has none. -/
theorem presentableSignal_of_mem : (∀ signal ∈ placeSignals, presentableSignal signal = true) ∧
    presentableSignal "details.tls_validity" = false := by
  decide +kernel

/-! ## Findings -/

/-- The signals of all issues. -/
def issueSignals : List String := "geoip" :: (checkSignals ++ traceSignals ++ Builder.factSignals)

/-- Every evidence signal of a rule has a wording, also for its finding, and so
have the signals of issues. -/
theorem registered_of_listed :
    (∀ pair ∈ ruleSignals, registered evidenceSignalPresentationRegistry pair.2 = true ∧
      ∃ presentation ∈ presentationOf pair.1, presentation.signals.contains pair.2 = true) ∧
    ∀ signal ∈ issueSignals, registered coverageSignalPresentationRegistry signal = true := by
  decide +kernel

/-- With unique identifiers, an item is found under its own. -/
theorem find?_evidence {evidence : List Evidence} (nodup : (evidence.map Evidence.id).Nodup)
    {item : Evidence} (member : item ∈ evidence) :
    (evidence.find? fun other => other.id = item.id) = some item := by
  induction evidence with
  | nil => cases member
  | cons first rest ih =>
      rw [List.map_cons, List.nodup_cons] at nodup
      rcases List.mem_cons.mp member with rfl | later
      · simp
      · have other : first.id ≠ item.id := by
          intro same
          exact nodup.1 (same ▸ List.mem_map_of_mem later)
        rw [List.find?_cons, decide_eq_false other]
        exact ih nodup.2 later

/-! ## Issues -/

theorem registered_issueCode (code : CoverageIssueCode) :
    registered coverageCodePresentationRegistry (issueCodeText code) = true := by
  cases code <;> decide

/-! ## The analysis -/

/-- Sorting and removing repetitions keeps what is listed. -/
theorem mem_sortedUnique {value : String} {values : List String} :
    value ∈ sortedUnique values ↔ value ∈ values := by
  have kept : ∀ (first : String) (rest : List String), value ∈ first :: rest →
      value ∈ rest.destutter' (· ≠ ·) first := by
    intro first rest
    induction rest generalizing first with
    | nil => exact id
    | cons second rest ih =>
        intro member
        rw [List.destutter']
        split
        · rcases List.mem_cons.mp member with rfl | later
          · exact List.mem_cons_self
          · exact List.mem_cons_of_mem _ (ih second later)
        · rename_i same
          rw [ne_eq, Decidable.not_not] at same
          subst same
          apply ih
          exact (List.mem_cons.mp member).elim (fun here => here ▸ List.mem_cons_self) id
  rw [sortedUnique, ← List.mem_insertionSort (· ≤ ·) (l := values)]
  constructor
  · exact fun member => (List.destutter_sublist _ _).subset member
  · intro member
    cases sorted : values.insertionSort (· ≤ ·) with
    | nil => rw [sorted] at member; cases member
    | cons first rest =>
        rw [sorted] at member
        exact kept first rest member

/-- On an analysis whose references are resolved, the contract asks for known
names. -/
theorem validatePresentationContract_iff {analysis : Analysis} (integral : Integral analysis) :
    validatePresentationContract (some analysis) = true ↔ Presentable analysis := by
  rw [validatePresentationContract, Bool.and_eq_true, Bool.and_eq_true, Bool.and_eq_true,
    List.all_eq_true, List.all_eq_true, List.all_eq_true, List.all_eq_true]
  constructor
  · rintro ⟨⟨⟨findings, evidence⟩, paths⟩, issues⟩
    refine ⟨?_, evidence, paths, issues⟩
    intro finding member
    have accepted := findings finding member
    rw [presentableFinding] at accepted
    cases found : presentationOf finding.code with
    | none => rw [found] at accepted; cases accepted
    | some presentation =>
        rw [found] at accepted
        dsimp only at accepted
        refine ⟨presentation, rfl, ?_⟩
        intro item itemMem idMem
        have shown := List.all_eq_true.mp accepted _ idMem
        rw [find?_evidence integral.evidence_nodup itemMem] at shown
        exact (Bool.and_eq_true _ _ ▸ shown).2
  · rintro ⟨findings, evidence, paths, issues⟩
    refine ⟨⟨⟨?_, evidence⟩, paths⟩, issues⟩
    intro finding member
    obtain ⟨presentation, found, signals⟩ := findings finding member
    rw [presentableFinding, found]
    dsimp only
    rw [List.all_eq_true]
    intro id idMem
    obtain ⟨item, itemMem, rfl⟩ := List.mem_map.mp
      (integral.evidence_known finding member id idMem)
    rw [find?_evidence integral.evidence_nodup itemMem]
    dsimp only
    rw [evidence item itemMem, signals item itemMem idMem]
    rfl

section Analyze

variable {library : Library} {results : List Result} {now : Time}

theorem integral_analyze : Integral (analyze library results now) := by
  rw [analyze_eq]
  exact integral_finalize (Builder.closed_explained _ _ _ _) _

/-- The places and the failures of an analysis are those of its normalization. -/
theorem coverage_analyze :
    (∀ place, place ∈ (analyze library results now).coverage.available ↔
      place ∈ (normalizeResults library now.utc results emptyCoverage).1.available) ∧
    (∀ place, place ∈ (analyze library results now).coverage.missing ↔
      place ∈ (normalizeResults library now.utc results emptyCoverage).1.missing) ∧
    ∀ issue, issue ∈ (analyze library results now).coverage.providerFailures ↔
      issue ∈ (normalizeResults library now.utc results emptyCoverage).1.providerFailures := by
  obtain ⟨limitations, coverage_eq⟩ := Builder.coverage_explained library now.utc
    (normalizeResults library now.utc results emptyCoverage).1
    (normalizeResults library now.utc results emptyCoverage).2
  rw [analyze_eq]
  unfold reportBuilder finalize sortCoverageIssues
  dsimp only
  rw [coverage_eq]
  exact ⟨fun _ => mem_sortedUnique, fun _ => mem_sortedUnique, fun _ => List.mem_insertionSort _⟩

/-- Every path is that of a result and a signal of its coverage. -/
theorem path_analyze {value : String}
    (member : value ∈ (analyze library results now).coverage.available ++
      (analyze library results now).coverage.missing) : ∃ index result signal,
      results[index]? = some result ∧ PlaceSignal result signal ∧
        value = resultPlace index signal := by
  obtain ⟨available, missing, -⟩ := @coverage_analyze library results now
  apply (placed_normalizeResults library now.utc results).places
  rw [List.mem_append] at member ⊢
  rwa [available, missing] at member

theorem presentableIssue_analyze {issue : CoverageIssue}
    (member : issue ∈ (analyze library results now).coverage.providerFailures ++
      (analyze library results now).coverage.limitations) : presentableIssue issue = true := by
  have placed := placed_normalizeResults library now.utc results
  have known : issue.signal ∈ issueSignals := by
    rw [issueSignals, List.mem_cons, List.mem_append]
    rcases List.mem_append.mp member with failure | limitation
    · rw [(coverage_analyze).2.2] at failure
      exact .inl (placed.providerFailures issue failure)
    · rcases mem_limitations_analyze limitation with normalized | explained
      · exact .inr (.inl (placed.limitations issue normalized))
      · exact .inr (.inr explained)
  rw [presentableIssue, registered_of_listed.2 _ known, registered_issueCode]
  rfl

/-- Findings and evidence have a wording, whatever the results. -/
theorem findings_analyze {finding : Finding}
    (member : finding ∈ (analyze library results now).findings) : ∃ presentation,
      presentationOf finding.code = some presentation ∧
        ∀ item ∈ (analyze library results now).evidence, item.id ∈ finding.evidenceIDs →
          presentation.signals.contains item.signal = true := by
  have told : (reportBuilder library results now).Told := Builder.told_explained _ _ _ _
  have nodup := (@integral_analyze library results now).evidence_nodup
  have evidence_eq : (analyze library results now).evidence =
      (reportBuilder library results now).analysis.evidence := rfl
  rw [analyze_eq] at member
  have original := (perm_findings_finalize _).subset member
  obtain ⟨signal, listed⟩ := told.code finding original
  obtain ⟨-, presentation, found, -⟩ := registered_of_listed.1 _ listed
  refine ⟨presentation, found, ?_⟩
  intro item itemMem idMem
  obtain ⟨other, otherMem, same, otherListed⟩ := told.referred finding original _ idMem
  rw [← evidence_eq] at otherMem
  have item_eq := find?_evidence nodup itemMem
  rw [← same, find?_evidence nodup otherMem, Option.some.injEq] at item_eq
  subst item_eq
  obtain ⟨-, presentation', found', allowed⟩ := registered_of_listed.1 _ otherListed
  dsimp only at found found' allowed
  rw [Option.mem_def] at found found'
  rw [found, Option.some.injEq] at found'
  rwa [found']

theorem evidence_analyze {item : Evidence}
    (member : item ∈ (analyze library results now).evidence) :
    registered evidenceSignalPresentationRegistry item.signal = true := by
  have told : (reportBuilder library results now).Told := Builder.told_explained _ _ _ _
  obtain ⟨code, listed⟩ := told.evidence item member
  exact (registered_of_listed.1 _ listed).1

/-- The analysis of a report can be presented just when no failure of TLS
misses its validity times. -/
theorem presentable_analyze_iff (few : results.length ≤ 20) :
    Presentable (analyze library results now) ↔
      ∀ result ∈ results, missesValidity result = false := by
  constructor
  · intro presentable result member
    rw [← Bool.not_eq_true]
    intro misses
    obtain ⟨index, found⟩ := List.getElem?_of_mem member
    have lt : index < 20 := (List.getElem?_eq_some_iff.mp found).1.trans_le few
    have missing := (placed_normalizeResults library now.utc results).missed index result found misses
    rw [← coverage_analyze.2.1] at missing
    have shown := presentable.paths _ (List.mem_append_right _ missing)
    rw [isSome_coveragePath lt, presentableSignal_of_mem.2] at shown
    cases shown
  · intro known
    refine ⟨fun _ => findings_analyze, fun _ => evidence_analyze, ?_,
      fun _ => presentableIssue_analyze⟩
    intro value member
    obtain ⟨index, result, signal, found, place, rfl⟩ := path_analyze member
    rw [isSome_coveragePath ((List.getElem?_eq_some_iff.mp found).1.trans_le few)]
    rcases place with listed | ⟨-, misses⟩
    · exact presentableSignal_of_mem.1 signal listed
    · rw [known result (List.mem_of_getElem? found)] at misses
      cases misses

end Analyze

/-- Everything that the analysis of at most twenty results names is known to
the browser, and its contract is met, just when no failure of TLS misses its
validity times. -/
theorem validatePresentationContract_analyze (library : Library) {results : List Result}
    (few : results.length ≤ 20) (now : Time) :
    (Presentable (analyze library results now) ∧
        validatePresentationContract (some (analyze library results now)) = true) ↔
      ∀ result ∈ results, missesValidity result = false := by
  rw [validatePresentationContract_iff integral_analyze, and_self]
  exact presentable_analyze_iff few

/-- A certificate that is said to be expired, without its times. -/
def expiredResult : Result where
  kind := .https
  address := "https://expired.example.test"
  status := .unreachable
  latencyMS := 0
  errorCode := "tls_certificate_expired"
  message := []
  details := none
  startedAt := ⟨0, 0⟩

/-- The browser has no wording for what is missing then. -/
theorem expired_refused : supportedKind expiredResult.kind = true ∧
    "results[0].details.tls_validity" ∈
      (analyze plainReading [expiredResult] ⟨0, 0⟩).coverage.missing ∧
    coveragePath "results[0].details.tls_validity" = none ∧
    ¬(Presentable (analyze plainReading [expiredResult] ⟨0, 0⟩) ∧
      validatePresentationContract (some (analyze plainReading [expiredResult] ⟨0, 0⟩)) = true) := by
  have evaluated : ("results[0].details.tls_validity" ∈
        (analyze plainReading [expiredResult] ⟨0, 0⟩).coverage.missing ∧
      coveragePath "results[0].details.tls_validity" = none) ∧
      validatePresentationContract
        (some (analyze plainReading [expiredResult] ⟨0, 0⟩)) = false := by
    decide +kernel
  obtain ⟨⟨missing, unworded⟩, refused⟩ := evaluated
  refine ⟨rfl, missing, unworded, ?_⟩
  rintro ⟨-, accepted⟩
  rw [refused] at accepted
  cases accepted

/-- The same failure with both of its times. -/
def datedResult : Result :=
  { expiredResult with
    details := some [("certificate_not_before", .string "2020-01-01T00:00:00Z"),
      ("certificate_not_after", .string "2021-01-01T00:00:00Z")] }

theorem validatePresentationContract_analyze_dated :
    Presentable (analyze plainReading [datedResult] ⟨0, 0⟩) ∧
      validatePresentationContract (some (analyze plainReading [datedResult] ⟨0, 0⟩)) = true :=
  (validatePresentationContract_analyze plainReading (by decide) ⟨0, 0⟩).mpr (by decide +kernel)

end CheckNetwork.Api
