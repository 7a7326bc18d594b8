import CheckNetwork.Analysis.Issues
import CheckNetwork.Analysis.Twins
import CheckNetwork.Diagnostic.TLSFailure

/-!
# Failures of TLS between check and analysis

A failure is classified at the instant of the check and validated again at the
instant of the analysis.  Its dates survive when they can be written and read,
are in order, and a certificate that was not yet valid still is not.
-/

namespace CheckNetwork.Analysis

open Diagnostic Go

/-- A library with the texts of instants as `time` reads and writes them. -/
structure Library.Timed (library : Library) : Prop where
  parse_eq : library.parseTime = Rfc3339.parse
  format_eq : library.formatTime = fun time => Stamp.spelled (Rfc3339.format time)

/-- An instant whose year has four digits in UTC. -/
def Writable (time : Time) : Prop := 0 ≤ time.date.year ∧ time.date.year ≤ 9999

instance (time : Time) : Decidable (Writable time) :=
  inferInstanceAs (Decidable (_ ∧ _))

/-- Dates that are valid details at the instant of an analysis. -/
structure Lasting (certificate : Certificate) (checked analysed : Time) : Prop where
  notBefore : Writable certificate.notBefore
  notAfter : Writable certificate.notAfter
  ordered : certificate.notBefore.truncateSecond.before certificate.notAfter.truncateSecond = true
  pending : checked.before certificate.notAfter = true →
    analysed.before certificate.notBefore.truncateSecond = true

section Details

variable {library : Library} {result : Result} {certificate : Certificate} {now checked : Time}

theorem canonical_rfc3339Text (timed : library.Timed) {key : String} {time : Time}
    (found : result.detail? key = some (.string (rfc3339Text time))) :
    canonicalUTCRFC3339Detail library result key =
      if Writable time then some time.truncateSecond.utc else none := by
  have text : stringDetail result key = some (rfc3339Text time) := by
    simp [stringDetail, reflectedDetail, found, Detail.string, stringOf, isNamed,
      GoType.predeclared]
  rw [canonicalUTCRFC3339Detail, text, Option.bind_some, timed.parse_eq, timed.format_eq,
    rfc3339Text, Rfc3339.format_utc]
  split_ifs with narrow
  · rw [Rfc3339.parse_format narrow.1 narrow.2]
    simp only [Option.filter, Rfc3339.format_utc, Rfc3339.format_truncateSecond, decide_true,
      if_true, Option.map_some]
    rfl
  · rw [Rfc3339.parse_format_of_wide (by unfold Writable at narrow; omega)]
    rfl

/-- The details of a dated failure are valid exactly when its dates last. -/
theorem validTLSFailureDetails_dated (timed : library.Timed)
    (details_eq : result.details = some (validityDetails certificate))
    (code : checked.before certificate.notAfter = false ∧
        result.errorCode = "tls_certificate_expired" ∨
      checked.before certificate.notAfter = true ∧
        result.errorCode = "tls_certificate_not_yet_valid")
    (later : checked.nanoseconds ≤ now.nanoseconds) :
    (validTLSFailureDetails library result now).1 = true ↔ Lasting certificate checked now := by
  have shown : result.detail? "certificate_not_before" =
        some (.string (rfc3339Text certificate.notBefore)) ∧
      result.detail? "certificate_not_after" =
        some (.string (rfc3339Text certificate.notAfter)) := by
    rw [Result.detail?, Result.detail?, details_eq]
    exact ⟨rfl, rfl⟩
  have before := canonical_rfc3339Text timed shown.1
  have after := canonical_rfc3339Text timed shown.2
  have count : detailCount result = 2 := by
    rw [detailCount, details_eq]
    rfl
  have valid_eq : (validTLSFailureDetails library result now).1 =
      (canonicalUTCRFC3339Detail library result "certificate_not_before").elim false fun before =>
        (canonicalUTCRFC3339Detail library result "certificate_not_after").elim false fun after =>
          before.before after && if result.errorCode = "tls_certificate_expired" then
            !now.before after else now.before before := by
    have expected : tlsFailurePermitsNoDetails result.errorCode = false ∧
        (result.errorCode = "tls_certificate_expired" ∨
          result.errorCode = "tls_certificate_not_yet_valid") := by
      rcases code with ⟨-, code_eq⟩ | ⟨-, code_eq⟩
      · rw [code_eq]
        decide
      · rw [code_eq]
        decide
    unfold validTLSFailureDetails
    dsimp only
    rw [if_neg (by simp [expected.1]), if_neg (by simpa using fun other => expected.2.resolve_left other),
      if_neg (by simp [count])]
    generalize canonicalUTCRFC3339Detail library result "certificate_not_before" = before
    generalize canonicalUTCRFC3339Detail library result "certificate_not_after" = after
    cases before with
    | none => rfl
    | some before =>
        cases after with
        | none => rfl
        | some after =>
            rw [Option.elim_some, Option.elim_some]
            dsimp only
            cases before.before after with
            | false => rfl
            | true =>
                rw [if_neg (by decide)]
                split_ifs <;> rfl
  rw [valid_eq, before, after]
  have dates : certificate.notBefore.truncateSecond.nanoseconds =
        certificate.notBefore.nanoseconds - certificate.notBefore.nanoseconds % 1000000000 ∧
      certificate.notAfter.truncateSecond.nanoseconds =
        certificate.notAfter.nanoseconds - certificate.notAfter.nanoseconds % 1000000000 :=
    ⟨rfl, rfl⟩
  constructor
  · intro valid
    by_cases notBefore : Writable certificate.notBefore
    · by_cases notAfter : Writable certificate.notAfter
      · rw [if_pos notBefore, if_pos notAfter, Option.elim_some, Option.elim_some,
          Bool.and_eq_true] at valid
        refine ⟨notBefore, notAfter, valid.1, fun unexpired => ?_⟩
        rcases code with ⟨past, -⟩ | ⟨-, code_eq⟩
        · rw [past] at unexpired
          cases unexpired
        · rw [if_neg (by rw [code_eq]; decide)] at valid
          exact valid.2
      · rw [if_pos notBefore, if_neg notAfter] at valid
        cases valid
    · rw [if_neg notBefore] at valid
      cases valid
  · intro lasting
    rw [if_pos lasting.notBefore, if_pos lasting.notAfter, Option.elim_some, Option.elim_some,
      Bool.and_eq_true]
    refine ⟨lasting.ordered, ?_⟩
    rcases code with ⟨past, code_eq⟩ | ⟨unexpired, code_eq⟩
    · rw [if_pos code_eq, Bool.not_eq_true']
      have reached : certificate.notAfter.truncateSecond.nanoseconds ≤ now.nanoseconds := by
        simp only [Time.before, decide_eq_false_iff_not, not_lt] at past
        omega
      exact decide_eq_false (Int.not_lt.mpr reached)
    · rw [if_neg (by rw [code_eq]; decide)]
      exact lasting.pending unexpired

end Details

/-! ## Normalization -/

section Normalization

variable {library : Library} {now : Time} {base result : Result} {draft : Draft} {index : Nat}
  {coverage : Coverage}

/-- A result of a TLS failure, with at most the dates of a certificate. -/
structure FailedTLS (result : Result) : Prop where
  kind : isTLSKind result.kind = true
  status : result.status = .unreachable
  code : isTLSFailureErrorCode result.errorCode = true
  details : result.details = none ∧ tlsFailurePermitsNoDetails result.errorCode = true ∨
    ∃ certificate, result.details = some (validityDetails certificate)

theorem failedTLS_applyTLSFailure (kind : isTLSKind base.kind = true) (err : HandshakeError)
    (checked : Time) : FailedTLS (applyTLSFailure base err checked) := by
  have known : ∀ code ∈ ["tls_hostname_mismatch", "tls_untrusted", "tls_handshake_failed"],
      isTLSFailureErrorCode (GoString.ofString code) = true ∧
        tlsFailurePermitsNoDetails (GoString.ofString code) = true := by
    decide
  rcases classifyTLSFailure_cases err checked with ⟨-, code, member, class_eq⟩ |
    ⟨certificate, -, ⟨-, class_eq⟩ | ⟨-, -, class_eq⟩⟩
  · refine ⟨kind, rfl, ?_, .inl ⟨?_, ?_⟩⟩
    · rw [applyTLSFailure, class_eq]
      exact (known code member).1
    · rw [applyTLSFailure, class_eq]
    · rw [applyTLSFailure, class_eq]
      exact (known code member).2
  · refine ⟨kind, rfl, ?_, .inr ⟨certificate, ?_⟩⟩
    · rw [applyTLSFailure, class_eq]
      dsimp only
      decide
    · rw [applyTLSFailure, class_eq]
  · refine ⟨kind, rfl, ?_, .inr ⟨certificate, ?_⟩⟩
    · rw [applyTLSFailure, class_eq]
      dsimp only
      decide
    · rw [applyTLSFailure, class_eq]

theorem FailedTLS.detail?_eq_none (failed : FailedTLS result) {key : String}
    (other : key ∉ ["certificate_not_before", "certificate_not_after"]) :
    result.detail? key = none := by
  rw [List.mem_cons, List.mem_singleton, not_or] at other
  rcases failed.details with ⟨bare, -⟩ | ⟨certificate, details_eq⟩
  · rw [Result.detail?, bare]
    rfl
  · rw [Result.detail?, details_eq, Option.bind_some, Details.get?, validityDetails,
      List.find?_cons_of_neg (by simpa [GoString.ofString_inj] using Ne.symm other.1),
      List.find?_cons_of_neg (by simpa [GoString.ofString_inj] using Ne.symm other.2)]
    rfl

theorem FailedTLS.errorCode_ne (failed : FailedTLS result) {code : GoString}
    (other : isTLSFailureErrorCode code = false) : result.errorCode ≠ code := by
  rintro same
  have known := failed.code
  rw [same, other] at known
  cases known

/-- With valid details, the normalization of a TLS failure complains of
nothing. -/
theorem normalizeResult_of_failedTLS (failed : FailedTLS result)
    (valid : (validTLSFailureDetails library result now).1 = true) :
    (normalizeResult library now index result coverage).coverage.limitations =
        coverage.limitations ∧
      (normalizeResult library now index result coverage).facts = initialFacts index result := by
  have code : result.errorCode ≠ [] := failed.errorCode_ne (by decide)
  have status : ∀ draft : Draft, statusStep result draft = draft.available "status" := by
    intro draft
    simp [statusStep, Draft.when, failed.status, validStatus]
  have coded : ∀ draft : Draft, errorCodeStep result draft = draft.available "error_code" := by
    intro draft
    rw [errorCodeStep, if_pos code]
  have supported : supportedKind result.kind = true ∧ result.kind ≠ .traceroute := by
    have kind := failed.kind
    revert kind
    cases result.kind <;> simp [isTLSKind, supportedKind]
  have kind : ∀ draft : Draft, kindStep result draft = draft := by
    intro draft
    simp [kindStep, Draft.when, supported.1]
  have failure : isTLSFailure result = true := by
    simp [isTLSFailure, failed.status, failed.kind, failed.code]
  have details : ∀ draft : Draft, detailsStep result draft = draft := by
    intro draft
    rcases failed.details with ⟨bare, permits⟩ | ⟨certificate, details_eq⟩
    · simp [detailsStep, Draft.when, bare, failure, permits]
    · simp [detailsStep, Draft.when, details_eq]
  have checked : ∀ draft : Draft, tlsFailureStep library now result draft = draft := by
    intro draft
    simp [tlsFailureStep, Draft.when, failure, valid]
  have greeting : ∀ draft : Draft, greetingStep library result draft = draft := by
    intro draft
    have known : result.errorCode ≠ GoString.ofString "service_greeting_unverified" :=
      failed.errorCode_ne (by decide)
    simp [greetingStep, Draft.when, failed.status, isGreetingFailure, known]
  have observed : ∀ draft : Draft, endpointStep result (dnsStep result draft) = draft := by
    intro draft
    simp [endpointStep, dnsStep, Draft.when, failed.status]
  have http : ∀ draft : Draft, httpStep result draft = draft := by
    intro draft
    have known : result.errorCode ≠ GoString.ofString "unexpected_status" :=
      failed.errorCode_ne (by decide)
    have unread : integerDetail result "status_code" = none := by
      rw [integerDetail, reflectedDetail, failed.detail?_eq_none (by decide)]
      rfl
    simp [httpStep, httpStatusStep, Draft.when, failed.status, unread, known]
  have certificate : ∀ draft : Draft, tlsStep library result draft = draft := by
    intro draft
    have absent : result.detail? "certificate_expires_at" = none :=
      failed.detail?_eq_none (by decide)
    simp [tlsStep, tlsHandshakeStep, certificateStep, timeDetail, reflectedDetail, hasDetail,
      Draft.when, failed.status, absent]
  have route : ∀ draft : Draft, tracerouteStep library result draft = draft := by
    intro draft
    simp [tracerouteStep, Draft.when, supported.2]
  simp only [normalizeResult, checkSteps, status, coded, kind, details, checked, greeting, observed,
    http, certificate, route]
  exact ⟨rfl, rfl⟩

end Normalization

/-! ## Reports -/

section Reports

variable {library : Library} {now checked : Time} {results : List Result} {index : Nat}
  {base result : Result} {err : HandshakeError}

/-- A failure of TLS with valid details is told by the rule of its code. -/
theorem rulesOf_failedTLS (failed : FailedTLS result)
    (valid : (validTLSFailureDetails library result now).1 = true) :
    ∃ rule ∈ rulesOf library now result, GoString.ofString rule.code = result.errorCode := by
  have facts_eq : resultFacts library now 0 result = initialFacts 0 result :=
    (normalizeResult_of_failedTLS failed valid).2
  have coded : validErrorCode (initialFacts 0 result) = true := by
    have uncommon : (commonErrorCodes.any fun common =>
        result.errorCode = GoString.ofString common) = false := by
      rw [List.any_eq_false]
      intro common member
      rw [decide_eq_true_eq]
      have plain : ∀ common ∈ commonErrorCodes,
          isTLSFailureErrorCode (GoString.ofString common) = false := by
        decide +kernel
      exact failed.errorCode_ne (plain common member)
    have others : ∀ code ∈ ["traceroute_unavailable", "service_greeting_unverified",
        "tls_downgrade", "unexpected_status"], result.errorCode ≠ GoString.ofString code := by
      intro code member
      have plain : ∀ code ∈ ["traceroute_unavailable", "service_greeting_unverified",
          "tls_downgrade", "unexpected_status"],
            isTLSFailureErrorCode (GoString.ofString code) = false := by
        decide
      exact failed.errorCode_ne (plain code member)
    simp only [List.forall_mem_cons] at others
    have some_ : result.errorCode ≠ [] := failed.errorCode_ne (by decide)
    obtain ⟨unavailable, greeting, downgrade, unexpected, -⟩ := others
    unfold validErrorCode initialFacts
    dsimp only
    rw [if_neg (by rw [failed.status]; decide), if_neg some_, uncommon, if_neg (by decide),
      if_neg unavailable, if_neg greeting, if_neg (by simp [downgrade, unexpected]), failed.code,
      if_pos rfl, failed.status, failed.kind]
    rfl
  have heard : Heard (initialFacts 0 result) := by
    refine ⟨?_, .inl rfl, coded⟩
    change validStatus result.status = true
    rw [failed.status]
    rfl
  have downgrade : (initialFacts 0 result).errorCode ≠ GoString.ofString "tls_downgrade" :=
    failed.errorCode_ne (by decide)
  cases found : tlsFailures.find? fun failure =>
      (initialFacts 0 result).errorCode = GoString.ofString failure.errorCode with
  | none =>
      have uncoded := noTLSFailure_iff.mpr found
      have code : isTLSFailureErrorCode (initialFacts 0 result).errorCode = true := failed.code
      rw [code] at uncoded
      cases uncoded
  | some failure =>
      refine ⟨tlsFailureRule failure (initialFacts 0 result), ?_, ?_⟩
      · rw [rulesOf, facts_eq, rules_of_heard heard]
        unfold validAnswer
        rw [coded, if_neg (by decide), if_neg downgrade, found]
        exact List.mem_singleton_self _
      · have same := List.find?_some found
        rw [decide_eq_true_eq] at same
        exact same.symm

/-- What a report says of a failure of TLS: its details are valid, a finding of
its code refers to it, and no detail of it is called malformed. -/
structure Survives (library : Library) (results : List Result) (now : Time) (index : Nat)
    (result : Result) : Prop where
  valid : (validTLSFailureDetails library result now.utc).1 = true
  told : ∃ finding ∈ (analyze library results now).findings,
    GoString.ofString finding.code = result.errorCode ∧
      RefersTo (analyze library results now) finding index
  unlimited : ∀ issue ∈ (analyze library results now).coverage.limitations,
    issue.resultIndex = index → issue.code ≠ .malformedDetails

/-- A failure of TLS survives exactly when its details are still valid. -/
theorem survives_iff_valid (found : results[index]? = some result) (failed : FailedTLS result) :
    Survives library results now index result ↔
      (validTLSFailureDetails library result now.utc).1 = true := by
  refine ⟨fun survives => survives.valid, fun valid => ⟨valid, ?_, ?_⟩⟩
  · obtain ⟨rule, ruleMem, code_eq⟩ := rulesOf_failedTLS failed valid
    obtain ⟨finding, member, finding_code, refers⟩ := exists_refersTo found ruleMem
    exact ⟨finding, member, finding_code ▸ code_eq, refers⟩
  · intro issue member index_eq malformed
    rw [mem_limitations_analyze_iff (by rw [malformed]; decide)] at member
    obtain ⟨other, other_eq, issues, issues_eq, issueMem⟩ := member
    rw [index_eq, found, Option.some.injEq] at other_eq
    subst other_eq
    rw [index_eq, (normalizeResult_of_failedTLS failed valid).1, List.self_eq_append_right]
      at issues_eq
    rw [issues_eq] at issueMem
    cases issueMem

/-- A failure of TLS that is applied at one instant survives the analysis at a
later one exactly when the dates it carries, if any, can be written and read,
are in order, and a certificate that was not yet valid still is not. -/
theorem survives_applyTLSFailure (timed : library.Timed) (kind : isTLSKind base.kind = true)
    (later : checked.nanoseconds ≤ now.nanoseconds)
    (found : results[index]? = some (applyTLSFailure base err checked)) :
    Survives library results now index (applyTLSFailure base err checked) ↔
      ∀ certificate ∈ datedCertificate err checked, Lasting certificate checked now.utc := by
  rw [survives_iff_valid found (failedTLS_applyTLSFailure kind err checked)]
  rcases classifyTLSFailure_cases err checked with ⟨undated, code, member, class_eq⟩ |
    ⟨certificate, dated, cases_⟩
  · have valid : (validTLSFailureDetails library (applyTLSFailure base err checked) now.utc).1 =
        true := by
      have permits : ∀ code ∈ ["tls_hostname_mismatch", "tls_untrusted", "tls_handshake_failed"],
          tlsFailurePermitsNoDetails (GoString.ofString code) = true := by
        decide
      unfold validTLSFailureDetails
      dsimp only
      rw [applyTLSFailure, class_eq]
      dsimp only
      rw [if_pos (permits code member)]
      rfl
    rw [undated]
    exact iff_of_true valid nofun
  · rw [dated]
    have details_eq : (applyTLSFailure base err checked).details =
        some (validityDetails certificate) := by
      rcases cases_ with ⟨-, class_eq⟩ | ⟨-, -, class_eq⟩ <;> rw [applyTLSFailure, class_eq]
    have code : checked.before certificate.notAfter = false ∧
          (applyTLSFailure base err checked).errorCode = "tls_certificate_expired" ∨
        checked.before certificate.notAfter = true ∧
          (applyTLSFailure base err checked).errorCode = "tls_certificate_not_yet_valid" := by
      rcases cases_ with ⟨past, class_eq⟩ | ⟨unexpired, -, class_eq⟩
      · exact .inl ⟨past, by rw [applyTLSFailure, class_eq]⟩
      · exact .inr ⟨unexpired, by rw [applyTLSFailure, class_eq]⟩
    rw [@validTLSFailureDetails_dated _ _ _ now.utc _ timed details_eq code later]
    constructor
    · rintro lasting other ⟨⟩
      exact lasting
    · exact fun lasting => lasting certificate rfl

end Reports

/-! ## A certificate that becomes valid -/

/-- A library that reads texts of instants and converts nothing. -/
def timedLibrary : Library where
  parseTime := Rfc3339.parse
  formatTime := fun time => Stamp.spelled (Rfc3339.format time)
  convertAttempts := fun _ => none
  convertTopology := fun _ => none

theorem timed_timedLibrary : timedLibrary.Timed := ⟨rfl, rfl⟩

/-- A certificate that is valid from the tenth second on, for ten seconds. -/
def freshCertificate : Certificate := ⟨⟨10000000000, 0⟩, ⟨20000000000, 0⟩⟩

/-- A verification that fails for the dates of the certificate alone. -/
def freshFailure : HandshakeError := some ⟨false, false, some ⟨true, some freshCertificate⟩⟩

def plainHTTPS : Result := ⟨.https, "https://example.net/", .healthy, 5, ⟨9000000000, 0⟩, [], [], none⟩

/-- The failure as the check applies it, half a second before the certificate
is valid. -/
def freshResult : Result := applyTLSFailure plainHTTPS freshFailure ⟨9500000000, 0⟩

theorem survives_applyTLSFailure_fresh :
    Survives timedLibrary [freshResult] ⟨9800000000, 0⟩ 0 freshResult ↔
      ∀ certificate ∈ datedCertificate freshFailure ⟨9500000000, 0⟩,
        Lasting certificate ⟨9500000000, 0⟩ (⟨9800000000, 0⟩ : Time).utc :=
  survives_applyTLSFailure timed_timedLibrary rfl (by decide) rfl

/-- A failure whose certificate is valid by the time of the analysis does not
survive it. -/
theorem freshResult_lost : isTLSKind plainHTTPS.kind = true ∧
    freshResult = applyTLSFailure plainHTTPS freshFailure ⟨9500000000, 0⟩ ∧
      ¬Survives timedLibrary [freshResult] ⟨10000000000, 0⟩ 0 freshResult := by
  refine ⟨rfl, rfl, ?_⟩
  intro survives
  have lasting := (@validTLSFailureDetails_dated timedLibrary freshResult freshCertificate
    (⟨10000000000, 0⟩ : Time).utc ⟨9500000000, 0⟩ timed_timedLibrary rfl (.inr ⟨rfl, rfl⟩)
    (by decide)).mp survives.valid
  exact absurd (lasting.pending rfl) (by decide)

end CheckNetwork.Analysis
