import CheckNetwork.Analysis.Grouping
import CheckNetwork.Analysis.Verdict

/-!
# Rules that share a code

Five codes are given by two rules each.  Results at one address that are told
by both rules of a code are grouped under the words of the first.
-/

namespace CheckNetwork.Analysis

open Diagnostic Go

/-- What is told by a rule whose code another rule has too. -/
inductive Outcome
  | statusObserved | statusUnobserved | timedOut | routeTimedOut | cancelled | routeCancelled
  | routeFailed | routeMixed | certificateExpired | handshakeExpired
  deriving DecidableEq, Repr

namespace Outcome

def code : Outcome → String
  | statusObserved | statusUnobserved => "http_unexpected_status"
  | timedOut | routeTimedOut => "execution_timeout"
  | cancelled | routeCancelled => "execution_cancelled"
  | routeFailed | routeMixed => "traceroute_execution_failed"
  | certificateExpired | handshakeExpired => "tls_certificate_expired"

/-- The signal of the evidence that tells an outcome. -/
def signal : Outcome → String
  | statusObserved => "http.status_code"
  | routeTimedOut => "traceroute.attempts_timed_out"
  | routeCancelled => "traceroute.attempts_cancelled"
  | routeFailed => "traceroute.attempts_execution_failed"
  | routeMixed => "traceroute.execution_failures"
  | certificateExpired => "tls.certificate_expires_at"
  | _ => "error_code"

theorem eq_of_told {outcome other : Outcome} (code_eq : outcome.code = other.code)
    (signal_eq : outcome.signal = other.signal) : outcome = other := by
  cases outcome <;> cases other <;> first
    | rfl
    | exact absurd code_eq (by decide)
    | exact absurd signal_eq (by decide)

end Outcome

/-- The codes that two rules have. -/
def sharedCodes : List String :=
  ["http_unexpected_status", "execution_timeout", "execution_cancelled",
    "traceroute_execution_failed", "tls_certificate_expired"]

theorem signal_eq_of_unshared {first second : Rule} (listed : first.Listed)
    (listed' : second.Listed) (code_eq : first.code = second.code)
    (unshared : first.code ∉ sharedCodes) : first.signal = second.signal := by
  have known : ∀ pair ∈ ruleSignals, ∀ other ∈ ruleSignals, pair.1 = other.1 →
      pair.1 ∉ sharedCodes → pair.2 = other.2 := by
    decide +kernel
  exact known _ listed _ listed' code_eq unshared

/-! ## When an outcome is seen -/

/-- Facts that the analysis listens to. -/
structure Heard (facts : Facts) : Prop where
  status : facts.statusValid = true
  details : facts.detailsValid = true ∨ Builder.detailsRequired facts = false
  code : validErrorCode facts = true

/-- Facts without a failure of TLS. -/
def NoTLSFailure (facts : Facts) : Prop :=
  facts.errorCode ≠ "tls_downgrade" ∧ isTLSFailureErrorCode facts.errorCode = false

/-- The codes that are told whatever the kind is. -/
def checkerCodes : List String :=
  ["checker_panic", "checker_capacity_unavailable", "traceroute_unavailable",
    "network_policy_blocked", "invalid_url", "invalid_address", "response_read_failed",
    "service_greeting_unverified"]

/-- Facts whose route is told. -/
structure Routed (facts : Facts) : Prop where
  kind : facts.kind = .traceroute
  counted : facts.hasTraceCounters = true
  plain : NoTLSFailure facts
  told : if facts.status = .healthy then facts.tracePathUnstable = true
    else ∀ code ∈ checkerCodes, facts.errorCode ≠ GoString.ofString code

/-- The facts by which an outcome is told. -/
def Outcome.Seen (now : Time) (facts : Facts) : Outcome → Prop
  | statusObserved => (facts.kind = .http ∨ facts.kind = .https) ∧
      facts.errorCode = "unexpected_status" ∧ facts.hasHTTPStatus = true
  | statusUnobserved => (facts.kind = .http ∨ facts.kind = .https) ∧
      facts.errorCode = "unexpected_status" ∧ facts.hasHTTPStatus = false
  | timedOut => facts.kind ≠ .traceroute ∧ facts.errorCode = "timeout"
  | cancelled => facts.kind ≠ .traceroute ∧ facts.errorCode = "cancelled"
  | routeTimedOut => Routed facts ∧ 0 < facts.traceExecutionFail ∧
      facts.traceTimedOut = facts.traceExecutionFail
  | routeCancelled => Routed facts ∧ 0 < facts.traceExecutionFail ∧
      facts.traceTimedOut ≠ facts.traceExecutionFail ∧
      facts.traceCancelled = facts.traceExecutionFail
  | routeFailed => Routed facts ∧ 0 < facts.traceExecutionFail ∧
      facts.traceTimedOut ≠ facts.traceExecutionFail ∧
      facts.traceCancelled ≠ facts.traceExecutionFail ∧
      facts.genericFailed = facts.traceExecutionFail
  | routeMixed => Routed facts ∧ 0 < facts.traceExecutionFail ∧
      facts.traceTimedOut ≠ facts.traceExecutionFail ∧
      facts.traceCancelled ≠ facts.traceExecutionFail ∧
      facts.genericFailed ≠ facts.traceExecutionFail
  | certificateExpired => NoTLSFailure facts ∧ facts.hasCertificate = true ∧
      facts.certificateExpires.after now = false
  | handshakeExpired => facts.errorCode = "tls_certificate_expired"

/-- A rule that tells an outcome which is seen, or has a code of its own. -/
def Spoken (now : Time) (facts : Facts) (rule : Rule) : Prop :=
  rule.code ∉ sharedCodes ∨
    ∃ outcome : Outcome, outcome.Seen now facts ∧ rule.code = outcome.code ∧
      rule.signal = outcome.signal

section Spoken

variable {library : Library} {now : Time} {facts : Facts} {rule : Rule}

theorem spoken_own {own : Rule} (unshared : own.code ∉ sharedCodes)
    (member : rule ∈ (Answer.report own).rules) : Spoken now facts rule := by
  rw [List.mem_singleton.mp member]
  exact .inl unshared

theorem spoken_outcome {own : Rule} (outcome : Outcome) (seen : outcome.Seen now facts)
    (code_eq : own.code = outcome.code) (signal_eq : own.signal = outcome.signal)
    (member : rule ∈ (Answer.report own).rules) : Spoken now facts rule := by
  rw [List.mem_singleton.mp member]
  exact .inr ⟨outcome, seen, code_eq, signal_eq⟩

theorem spoken_traceRules (routed : Routed facts) (member : rule ∈ traceRules facts) :
    Spoken now facts rule := by
  rcases List.mem_append.mp member with before | path
  · rcases List.mem_append.mp before with failure | reachability
    · unfold traceFailureRules at failure
      split_ifs at failure
      · rename_i failed timedOut
        exact spoken_outcome .routeTimedOut ⟨routed, failed, timedOut⟩ rfl rfl failure
      · rename_i failed timedOut cancelled
        exact spoken_outcome .routeCancelled ⟨routed, failed, timedOut, cancelled⟩ rfl rfl failure
      · rename_i failed timedOut cancelled generic
        exact spoken_outcome .routeFailed ⟨routed, failed, timedOut, cancelled, generic⟩ rfl rfl
          failure
      · rename_i failed timedOut cancelled generic
        exact spoken_outcome .routeMixed ⟨routed, failed, timedOut, cancelled, generic⟩ rfl rfl
          failure
      · cases failure
    · unfold traceReachabilityRules at reachability
      split_ifs at reachability
      · exact spoken_own (by simp [sharedCodes, traceUnreachable]) reachability
      · exact spoken_own (by simp [sharedCodes, tracePartialReachability]) reachability
      · cases reachability
  · unfold tracePathRules at path
    split_ifs at path
    · exact spoken_own (by simp [sharedCodes, tracePathUnstable]) path
    · exact spoken_own (by simp [sharedCodes, tracePathDegraded]) path
    · cases path
    · cases path

theorem spoken_traceAnswer (routed : facts.hasTraceCounters = true → Routed facts)
    (member : rule ∈ (traceAnswer facts).rules) : Spoken now facts rule := by
  unfold traceAnswer at member
  split at member
  · cases member
  · rename_i counted
    exact spoken_traceRules (routed (by simpa using counted)) member

theorem spoken_codeAnswer (plain : NoTLSFailure facts) (troubled : facts.status ≠ .healthy)
    (member : rule ∈ (codeAnswer facts).rules) : Spoken now facts rule := by
  unfold codeAnswer at member
  dsimp only at member
  split_ifs at member with panic capacity unavailable blocked invalid timeout cancelled read greeting
  · exact spoken_own (by simp [sharedCodes, checkerPanic]) member
  · exact spoken_own (by simp [sharedCodes, checkerCapacityUnavailable]) member
  · exact spoken_own (by simp [sharedCodes, tracerouteUnavailable]) member
  · exact spoken_own (by simp [sharedCodes, targetPolicyBlocked]) member
  · exact spoken_own (by simp [sharedCodes, invalidTarget]) member
  · exact spoken_outcome .timedOut ⟨timeout.2, timeout.1⟩ rfl rfl member
  · exact spoken_outcome .cancelled ⟨cancelled.2, cancelled.1⟩ rfl rfl member
  · cases member
  · exact spoken_own (by simp [sharedCodes, serviceGreetingUnverified]) member
  · unfold outcomeAnswer at member
    split_ifs at member with traced http observed
    · refine spoken_traceAnswer (fun counted => ⟨traced, counted, plain, ?_⟩) member
      rw [if_neg troubled]
      simp only [checkerCodes, List.forall_mem_cons]
      exact ⟨panic, capacity, unavailable, blocked, fun same => invalid (.inl same),
        fun same => invalid (.inr same), read, greeting, by simp⟩
    · exact spoken_outcome .statusObserved ⟨http.1, http.2, observed⟩ rfl rfl member
    · exact spoken_outcome .statusUnobserved ⟨http.1, http.2, by simpa using observed⟩ rfl rfl member
    · exact spoken_own (by simp [sharedCodes, dnsResolutionFailed]) member
    · exact spoken_own (by simp [sharedCodes, endpointConnectFailed]) member
    · cases member

theorem spoken_certificateRules (plain : NoTLSFailure facts)
    (member : rule ∈ certificateRules library now facts) : Spoken now facts rule := by
  unfold certificateRules at member
  split_ifs at member with expired expiring
  · rw [Bool.and_eq_true, Bool.not_eq_true'] at expired
    exact spoken_outcome .certificateExpired ⟨plain, expired⟩ rfl rfl member
  · exact spoken_own (by simp [sharedCodes, certificateRule]) member
  · cases member

theorem noTLSFailure_iff {code : GoString} : isTLSFailureErrorCode code = false ↔
    (tlsFailures.find? fun failure => code = GoString.ofString failure.errorCode) = none := by
  simp [isTLSFailureErrorCode, tlsFailures, tlsCertificateExpired, tlsCertificateNotYetValid,
    tlsHostnameMismatch, tlsUntrusted, tlsHandshakeFailed, and_assoc]

/-- Every rule of an answer is spoken to facts that are heard. -/
theorem spoken_answer (member : rule ∈ (answer library now facts).rules) :
    Heard facts ∧ Spoken now facts rule := by
  unfold answer at member
  split at member
  · cases member
  · rename_i status
    split at member
    · cases member
    · rename_i details
      dsimp only at member
      unfold validAnswer at member
      split at member
      · cases member
      · rename_i code
        refine ⟨⟨by simpa using status, ?_, by simpa using code⟩, ?_⟩
        · cases valid : facts.detailsValid with
          | true => exact .inl rfl
          | false =>
              right
              rw [valid] at details
              simpa using details
        · split at member
          · exact spoken_own (by simp [sharedCodes, tlsDowngrade]) member
          · rename_i notDowngraded
            split at member
            · rename_i failure found
              have known := List.mem_of_find?_eq_some found
              have same := List.find?_some found
              rw [decide_eq_true_eq] at same
              simp only [tlsFailures, List.mem_cons, List.not_mem_nil, or_false] at known
              rcases known with rfl | rfl | rfl | rfl | rfl
              · exact spoken_outcome .handshakeExpired same rfl rfl member
              all_goals exact spoken_own (by simp [sharedCodes, tlsFailureRule,
                tlsCertificateNotYetValid, tlsHostnameMismatch, tlsUntrusted,
                tlsHandshakeFailed]) member
            · rename_i missing
              have plain : NoTLSFailure facts := ⟨notDowngraded, noTLSFailure_iff.mpr missing⟩
              rcases List.mem_append.mp member with certificate | observation
              · exact spoken_certificateRules plain certificate
              · unfold observationAnswer at observation
                split at observation
                · rename_i healthy
                  split at observation
                  · rename_i unstable
                    rw [Bool.and_eq_true, decide_eq_true_eq] at unstable
                    refine spoken_traceAnswer (fun counted => ⟨unstable.1, counted, plain, ?_⟩)
                      observation
                    rw [if_pos healthy]
                    exact unstable.2
                  · cases observation
                · rename_i troubled
                  exact spoken_codeAnswer plain troubled observation

end Spoken

section Told

variable {library : Library} {now : Time} {facts : Facts}

theorem rules_of_heard (heard : Heard facts) :
    (answer library now facts).rules = (validAnswer library now facts).rules := by
  unfold answer
  rw [heard.status, if_neg (by decide), if_neg]
  rcases heard.details with valid | optional
  · simp [valid]
  · simp [optional]

theorem rules_of_plain (heard : Heard facts) (plain : NoTLSFailure facts) :
    (answer library now facts).rules =
      certificateRules library now facts ++ (observationAnswer facts).rules := by
  rw [rules_of_heard heard]
  unfold validAnswer
  rw [heard.code, if_neg (by decide), if_neg plain.1, noTLSFailure_iff.mp plain.2]

/-- The rule of a result with a code of its own. -/
theorem mem_of_codeAnswer (heard : Heard facts) {code : GoString} (code_eq : facts.errorCode = code)
    (plain : code ≠ [] ∧ code ≠ "tls_downgrade" ∧ isTLSFailureErrorCode code = false) {rule : Rule}
    (told : codeAnswer facts = .report rule) : rule ∈ (answer library now facts).rules := by
  subst code_eq
  rw [rules_of_plain heard plain.2]
  apply List.mem_append_right
  unfold observationAnswer
  rw [if_neg fun healthy => plain.1 (errorCode_eq_nil healthy heard.code), told]
  exact List.mem_singleton_self rule

theorem mem_of_routed (heard : Heard facts) (routed : Routed facts) {rule : Rule}
    (told : rule ∈ traceRules facts) : rule ∈ (answer library now facts).rules := by
  have traced : rule ∈ (traceAnswer facts).rules := by
    unfold traceAnswer
    rw [routed.counted, if_neg (by decide)]
    exact told
  have said := routed.told
  rw [rules_of_plain heard routed.plain]
  apply List.mem_append_right
  unfold observationAnswer
  split
  · rename_i healthy
    rw [if_pos healthy] at said
    rw [routed.kind, said]
    exact traced
  · rename_i troubled
    rw [if_neg troubled] at said
    simp only [checkerCodes, List.forall_mem_cons] at said
    obtain ⟨panic, capacity, unavailable, blocked, url, address, read, greeting, -⟩ := said
    unfold codeAnswer outcomeAnswer
    simp only [panic, capacity, unavailable, blocked, url, address, read, greeting, routed.kind,
      if_false, if_true, or_self, ne_eq, not_true_eq_false, and_false]
    exact traced

theorem mem_of_routed_failure (heard : Heard facts) (routed : Routed facts) {rule : Rule}
    (told : rule ∈ traceFailureRules facts) : rule ∈ (answer library now facts).rules :=
  mem_of_routed heard routed (List.mem_append_left _ (List.mem_append_left _ told))

/-- An outcome that is seen is told. -/
theorem told_of_seen (heard : Heard facts) {outcome : Outcome} (seen : outcome.Seen now facts) :
    ∃ rule ∈ (answer library now facts).rules, rule.code = outcome.code ∧
      rule.signal = outcome.signal := by
  cases outcome with
  | statusObserved =>
      obtain ⟨kind, code_eq, observed⟩ := seen
      refine ⟨httpUnexpectedStatus facts, mem_of_codeAnswer heard code_eq (by decide) ?_, rfl, rfl⟩
      unfold codeAnswer outcomeAnswer
      rw [if_pos observed]
      rcases kind with kind | kind <;> simp [code_eq, kind, GoString.ofString_inj]
  | statusUnobserved =>
      obtain ⟨kind, code_eq, unobserved⟩ := seen
      refine ⟨httpUnexpectedStatusUnobserved facts,
        mem_of_codeAnswer heard code_eq (by decide) ?_, rfl, rfl⟩
      unfold codeAnswer outcomeAnswer
      rw [unobserved]
      rcases kind with kind | kind <;> simp [code_eq, kind, GoString.ofString_inj]
  | timedOut =>
      obtain ⟨kind, code_eq⟩ := seen
      refine ⟨executionTimeout facts, mem_of_codeAnswer heard code_eq (by decide) ?_, rfl, rfl⟩
      unfold codeAnswer
      simp [code_eq, kind, GoString.ofString_inj]
  | cancelled =>
      obtain ⟨kind, code_eq⟩ := seen
      refine ⟨executionCancelled facts, mem_of_codeAnswer heard code_eq (by decide) ?_, rfl, rfl⟩
      unfold codeAnswer
      simp [code_eq, kind, GoString.ofString_inj]
  | routeTimedOut =>
      obtain ⟨routed, failed, timedOut⟩ := seen
      refine ⟨traceTimedOut facts, mem_of_routed_failure heard routed ?_, rfl, rfl⟩
      unfold traceFailureRules
      rw [if_pos failed, if_pos timedOut]
      exact List.mem_singleton_self _
  | routeCancelled =>
      obtain ⟨routed, failed, timedOut, cancelled⟩ := seen
      refine ⟨traceCancelled facts, mem_of_routed_failure heard routed ?_, rfl, rfl⟩
      unfold traceFailureRules
      rw [if_pos failed, if_neg timedOut, if_pos cancelled]
      exact List.mem_singleton_self _
  | routeFailed =>
      obtain ⟨routed, failed, timedOut, cancelled, generic⟩ := seen
      refine ⟨traceCommandFailed facts, mem_of_routed_failure heard routed ?_, rfl, rfl⟩
      unfold traceFailureRules
      rw [if_pos failed, if_neg timedOut, if_neg cancelled, if_pos generic]
      exact List.mem_singleton_self _
  | routeMixed =>
      obtain ⟨routed, failed, timedOut, cancelled, generic⟩ := seen
      refine ⟨traceMixedFailures facts, mem_of_routed_failure heard routed ?_, rfl, rfl⟩
      unfold traceFailureRules
      rw [if_pos failed, if_neg timedOut, if_neg cancelled, if_neg generic]
      exact List.mem_singleton_self _
  | certificateExpired =>
      obtain ⟨plain, certified, expired⟩ := seen
      have told : certificateRule library facts "tls_certificate_expired" "critical"
          "TLS certificate is expired"
          "The observed peer certificate expiry is at or before the analysis time." ∈
            certificateRules library now facts := by
        unfold certificateRules
        rw [certified, expired, if_pos (by decide)]
        exact List.mem_singleton_self _
      rw [rules_of_plain heard plain]
      exact ⟨_, List.mem_append_left _ told, rfl, rfl⟩
  | handshakeExpired =>
      have code_eq : facts.errorCode = "tls_certificate_expired" := seen
      refine ⟨tlsFailureRule tlsCertificateExpired facts, ?_, rfl, rfl⟩
      rw [rules_of_heard heard]
      unfold validAnswer
      have found : (tlsFailures.find? fun failure =>
          facts.errorCode = GoString.ofString failure.errorCode) = some tlsCertificateExpired := by
        rw [code_eq]
        rfl
      rw [heard.code, if_neg (by decide), if_neg (by rw [code_eq]; decide), found]
      exact List.mem_singleton_self _

end Told

/-! ## Results at one address -/

section Twins

variable {library : Library} {now : Time} {results : List Result}

/-- No two results at one address are told by the two rules of a code. -/
def Distinct (library : Library) (results : List Result) (now : Time) : Prop :=
  ∀ first ∈ results, ∀ second ∈ results, first.address = second.address →
    Heard (resultFacts library now.utc 0 first) → Heard (resultFacts library now.utc 0 second) →
    ∀ outcome other : Outcome, outcome.Seen now.utc (resultFacts library now.utc 0 first) →
      other.Seen now.utc (resultFacts library now.utc 0 second) →
      outcome.code = other.code → outcome = other

/-- Kinds whose names are free of the separator. -/
def PlainKinds (results : List Result) : Prop :=
  ∀ result ∈ results, Rune.scalar '\x00' ∉ GoString.ofString result.kind.text

theorem asked_resultFacts (index : Nat) (result : Result) :
    (resultFacts library now index result).kind = result.kind ∧
      (resultFacts library now index result).address = result.address := by
  have asked_eq := (@noted_normalizeResult library now index result emptyCoverage).asked_eq
  simp only [Facts.asked, initialFacts, Prod.mk.injEq] at asked_eq
  exact ⟨asked_eq.2.1, asked_eq.2.2.1⟩

/-- Rules at one address with one code have one signal. -/
theorem signal_eq_of_distinct (distinct : Distinct library results now) {entry other : Entry}
    (entryMem : entry ∈ entriesOf library results now)
    (otherMem : other ∈ entriesOf library results now) (code_eq : entry.rule.code = other.rule.code)
    (address_eq : entry.facts.address = other.facts.address) :
    entry.rule.signal = other.rule.signal := by
  have listed := (catalog_of_mem entryMem).2
  have listed' := (catalog_of_mem otherMem).2
  obtain ⟨index, first, found, rule, ruleMem, rfl⟩ := mem_asked.mp entryMem
  obtain ⟨index', second, found', rule', ruleMem', rfl⟩ := mem_asked.mp otherMem
  have same : first.address = second.address := by
    rw [← (@asked_resultFacts library now.utc 0 first).2,
      ← (@asked_resultFacts library now.utc 0 second).2]
    exact address_eq
  obtain ⟨heard, spoken⟩ := spoken_answer ruleMem
  obtain ⟨heard', spoken'⟩ := spoken_answer ruleMem'
  rcases spoken with unshared | ⟨outcome, seen, told, signal_eq⟩
  · exact signal_eq_of_unshared listed listed' code_eq unshared
  · rcases spoken' with unshared | ⟨other, seen', told', signal_eq'⟩
    · exact (signal_eq_of_unshared listed' listed code_eq.symm unshared).symm
    · have outcome_eq := distinct first (List.mem_of_getElem? found) second
        (List.mem_of_getElem? found') same heard heard' outcome other seen seen'
        (told.symm.trans (code_eq.trans told'))
      exact signal_eq.trans (outcome_eq ▸ signal_eq'.symm)

/-- A key is read back when the kinds are plain. -/
theorem address_eq_of_key_eq (plain : PlainKinds results) {entry other : Entry}
    (entryMem : entry ∈ entriesOf library results now)
    (otherMem : other ∈ entriesOf library results now) (same : entry.key = other.key) :
    entry.facts.address = other.facts.address := by
  have code_eq := Builder.code_eq_of_key_eq (catalog_of_mem entryMem).2 (catalog_of_mem otherMem).2
    same
  rw [Builder.key_eq, Builder.key_eq, code_eq] at same
  have rest := List.append_cancel_left same
  obtain ⟨index, first, found, rule, ruleMem, rfl⟩ := mem_asked.mp entryMem
  obtain ⟨index', second, found', rule', ruleMem', rfl⟩ := mem_asked.mp otherMem
  have kinds := eq_of_append_separator rest
    (by
      change Rune.scalar '\x00' ∉ GoString.ofString (resultFacts library now.utc 0 first).kind.text
      rw [(asked_resultFacts 0 first).1]
      exact plain first (List.mem_of_getElem? found))
    (by
      change Rune.scalar '\x00' ∉ GoString.ofString (resultFacts library now.utc 0 second).kind.text
      rw [(asked_resultFacts 0 second).1]
      exact plain second (List.mem_of_getElem? found'))
  rw [kinds] at rest
  exact List.append_cancel_left rest

theorem settled_of_distinct (plain : PlainKinds results) (distinct : Distinct library results now) :
    Settled (entriesOf library results now) := by
  intro entry entryMem first first_eq
  obtain ⟨firstMem, firstKey⟩ := find?_eq_some first_eq
  rw [decide_eq_true_eq] at firstKey
  have address_eq := address_eq_of_key_eq plain firstMem entryMem firstKey
  have code_eq := Builder.code_eq_of_key_eq (catalog_of_mem firstMem).2 (catalog_of_mem entryMem).2
    firstKey
  refine ⟨signal_eq_of_distinct distinct firstMem entryMem code_eq address_eq, ?_⟩
  intro actor actor_eq
  obtain ⟨actorMem, actorKey⟩ := find?_eq_some actor_eq
  rw [decide_eq_true_eq] at actorKey
  have actor_code := code_eq_of_actionKey_eq (catalog_of_mem actorMem).2 (catalog_of_mem firstMem).2
    actorKey
  have actor_address : actor.facts.address = first.facts.address := by
    unfold Entry.actionKey at actorKey
    rw [actor_code] at actorKey
    exact List.append_cancel_left actorKey
  exact signal_eq_of_distinct distinct actorMem entryMem (actor_code.trans code_eq)
    (actor_address.trans address_eq)

theorem distinct_of_settled (plain : PlainKinds results)
    (settled : Settled (entriesOf library results now)) : Distinct library results now := by
  intro first firstMem second secondMem address_eq heard heard' outcome other seen seen' code_eq
  obtain ⟨index, found⟩ := List.getElem?_of_mem firstMem
  obtain ⟨index', found'⟩ := List.getElem?_of_mem secondMem
  obtain ⟨rule, ruleMem, told, signal_eq⟩ := @told_of_seen library _ _ heard _ seen
  obtain ⟨rule', ruleMem', told', signal_eq'⟩ := @told_of_seen library _ _ heard' _ seen'
  have acts : ∀ (index : Nat) (result : Result) (rule : Rule), results[index]? = some result →
      rule ∈ rulesOf library now.utc result → ∀ actor,
        ((entriesOf library results now).find? fun entry => entry.actionKey =
          GoString.ofString rule.code ++ separator ++ result.address) = some actor →
        actor.rule.signal = rule.signal := by
    intro index result rule found ruleMem actor actor_eq
    have entryMem : (⟨(resultFacts library now.utc 0 result).inPlace index, rule⟩ : Entry) ∈
        entriesOf library results now :=
      mem_asked.mpr ⟨index, result, found, rule, ruleMem, rfl⟩
    obtain ⟨opener, opener_eq⟩ : ∃ opener, ((entriesOf library results now).find? fun other =>
        other.key = Entry.key ⟨(resultFacts library now.utc 0 result).inPlace index, rule⟩) =
          some opener := by
      rw [← Option.isSome_iff_exists, List.find?_isSome]
      exact ⟨_, entryMem, by simp⟩
    obtain ⟨openerMem, openerKey⟩ := find?_eq_some opener_eq
    rw [decide_eq_true_eq] at openerKey
    apply (settled _ entryMem opener opener_eq).2
    have action_eq : opener.actionKey =
        GoString.ofString rule.code ++ separator ++ result.address := by
      unfold Entry.actionKey
      rw [address_eq_of_key_eq plain openerMem entryMem openerKey, Builder.code_eq_of_key_eq
        (catalog_of_mem openerMem).2 (catalog_of_mem entryMem).2 openerKey]
      exact congrArg _ (asked_resultFacts 0 result).2
    rw [action_eq]
    exact actor_eq
  have entryMem : (⟨(resultFacts library now.utc 0 first).inPlace index, rule⟩ : Entry) ∈
      entriesOf library results now :=
    mem_asked.mpr ⟨index, first, found, rule, ruleMem, rfl⟩
  obtain ⟨actor, actor_eq⟩ : ∃ actor, ((entriesOf library results now).find? fun entry =>
      entry.actionKey = GoString.ofString rule.code ++ separator ++ first.address) =
        some actor := by
    rw [← Option.isSome_iff_exists, List.find?_isSome]
    refine ⟨_, entryMem, ?_⟩
    rw [decide_eq_true_eq]
    exact congrArg _ (asked_resultFacts 0 first).2
  have signal := acts index first rule found ruleMem actor actor_eq
  have signal' := acts index' second rule' found' ruleMem' actor (by
    rw [told', ← code_eq, ← told, ← address_eq]
    exact actor_eq)
  apply Outcome.eq_of_told code_eq
  rw [← signal_eq, ← signal_eq', ← signal, signal']

/-- Grouping keeps the words of every result exactly when the evidence of each
rule has the signal of the rules whose words it is grouped under, which for
plain kinds is that no two results at one address are told by the two rules of
a code. -/
theorem preserved_analyze (library : Library) (results : List Result) (now : Time) :
    (Preserved library results now ↔ Settled (entriesOf library results now)) ∧
      (PlainKinds results → (Preserved library results now ↔ Distinct library results now)) :=
  ⟨⟨settled_of_preserved, preserved_of_settled⟩, fun plain =>
    ⟨fun preserved => distinct_of_settled plain (settled_of_preserved preserved),
      fun distinct => preserved_of_settled (settled_of_distinct plain distinct)⟩⟩

/-! ## A status that is seen once -/

/-- A response with another status than the expected one. -/
def refusedRequest : Result where
  kind := .http
  address := "http://example.net/"
  status := .degraded
  latencyMS := 20
  startedAt := ⟨1, 0⟩
  errorCode := "unexpected_status"
  message := []
  details := some [(GoString.ofString "status_code", .int 503),
    (GoString.ofString "expected_status", .int 200)]

/-- The same observation without its details. -/
def strippedRequest : Result := { refusedRequest with details := none }

theorem plainKinds_requests : PlainKinds [refusedRequest, strippedRequest] := by
  unfold PlainKinds
  decide

theorem preserved_analyze_requests :
    Preserved blankLibrary [refusedRequest, strippedRequest] ⟨2, 0⟩ ↔
      Distinct blankLibrary [refusedRequest, strippedRequest] ⟨2, 0⟩ :=
  (preserved_analyze blankLibrary [refusedRequest, strippedRequest] ⟨2, 0⟩).2 plainKinds_requests

/-- What makes facts of an unexpected status heard. -/
theorem heard_of_facts {facts : Facts} {observed : Bool}
    (facts_eq : (facts.statusValid, facts.detailsValid, validErrorCode facts, facts.kind,
      facts.errorCode, facts.hasHTTPStatus) =
        (true, true, true, Kind.http, GoString.ofString "unexpected_status", observed)) :
    Heard facts ∧ (facts.kind = .http ∨ facts.kind = .https) ∧
      facts.errorCode = "unexpected_status" ∧ facts.hasHTTPStatus = observed := by
  simp only [Prod.mk.injEq] at facts_eq
  obtain ⟨status, details, code, kind, errorCode, seen⟩ := facts_eq
  exact ⟨⟨status, .inl details, code⟩, .inl kind, errorCode, seen⟩

theorem seen_refusedRequest :
    Heard (resultFacts blankLibrary (⟨2, 0⟩ : Time).utc 0 refusedRequest) ∧
      Outcome.statusObserved.Seen (⟨2, 0⟩ : Time).utc
        (resultFacts blankLibrary (⟨2, 0⟩ : Time).utc 0 refusedRequest) :=
  heard_of_facts (by decide +kernel)

theorem seen_strippedRequest :
    Heard (resultFacts blankLibrary (⟨2, 0⟩ : Time).utc 0 strippedRequest) ∧
      Outcome.statusUnobserved.Seen (⟨2, 0⟩ : Time).utc
        (resultFacts blankLibrary (⟨2, 0⟩ : Time).utc 0 strippedRequest) :=
  heard_of_facts (by decide +kernel)

/-- A status that nobody saw is said to be observed. -/
theorem requests_share_words :
    ¬Preserved blankLibrary [refusedRequest, strippedRequest] ⟨2, 0⟩ := by
  intro preserved
  have distinct := distinct_of_settled plainKinds_requests (settled_of_preserved preserved)
  have same := distinct refusedRequest List.mem_cons_self strippedRequest
    (List.mem_cons_of_mem _ List.mem_cons_self) rfl seen_refusedRequest.1 seen_strippedRequest.1
    _ _ seen_refusedRequest.2 seen_strippedRequest.2 rfl
  cases same

end Twins

end CheckNetwork.Analysis
