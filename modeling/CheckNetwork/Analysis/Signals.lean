import CheckNetwork.Analysis.History

/-!
# The evidence of a finding

Every finding has the code of a rule, and the evidence it refers to has the
signal of a rule with that code.
-/

namespace CheckNetwork.Analysis

open Diagnostic Go

/-- The rules that facts can be answered with. -/
def catalog (library : Library) (facts : Facts) : List Rule :=
  [tlsDowngrade facts, checkerPanic facts, checkerCapacityUnavailable facts,
    tracerouteUnavailable facts, targetPolicyBlocked facts, invalidTarget facts,
    executionTimeout facts, executionCancelled facts, serviceGreetingUnverified facts,
    httpUnexpectedStatus facts, httpUnexpectedStatusUnobserved facts, dnsResolutionFailed facts,
    endpointConnectFailed facts,
    certificateRule library facts "tls_certificate_expired" "critical"
      "TLS certificate is expired"
      "The observed peer certificate expiry is at or before the analysis time.",
    certificateRule library facts "tls_certificate_expiring" "warning"
      "TLS certificate is near expiry"
      "The observed peer certificate expires within 30 days of the analysis time.",
    tlsFailureRule tlsCertificateExpired facts, tlsFailureRule tlsCertificateNotYetValid facts,
    tlsFailureRule tlsHostnameMismatch facts, tlsFailureRule tlsUntrusted facts,
    tlsFailureRule tlsHandshakeFailed facts, traceTimedOut facts, traceCancelled facts,
    traceCommandFailed facts, traceMixedFailures facts, traceUnreachable facts,
    tracePartialReachability facts, tracePathUnstable facts, tracePathDegraded facts]

/-- The codes of the rules and the signals of their evidence. -/
def ruleSignals : List (String × String) :=
  [("tls_downgrade", "error_code"), ("checker_panic", "error_code"),
    ("checker_capacity_unavailable", "error_code"), ("traceroute_unavailable", "error_code"),
    ("target_policy_blocked", "error_code"), ("invalid_target", "error_code"),
    ("execution_timeout", "error_code"), ("execution_cancelled", "error_code"),
    ("service_greeting_unverified", "error_code"), ("http_unexpected_status", "http.status_code"),
    ("http_unexpected_status", "error_code"), ("dns_resolution_failed", "error_code"),
    ("endpoint_connect_failed", "error_code"),
    ("tls_certificate_expired", "tls.certificate_expires_at"),
    ("tls_certificate_expiring", "tls.certificate_expires_at"),
    ("tls_certificate_expired", "error_code"), ("tls_certificate_not_yet_valid", "error_code"),
    ("tls_hostname_mismatch", "error_code"), ("tls_untrusted", "error_code"),
    ("tls_handshake_failed", "error_code"), ("execution_timeout", "traceroute.attempts_timed_out"),
    ("execution_cancelled", "traceroute.attempts_cancelled"),
    ("traceroute_execution_failed", "traceroute.attempts_execution_failed"),
    ("traceroute_execution_failed", "traceroute.execution_failures"),
    ("traceroute_unreachable", "traceroute.attempts_reached"),
    ("traceroute_partial_reachability", "traceroute.attempts_reached"),
    ("traceroute_path_unstable", "traceroute.path_signatures"),
    ("traceroute_path_degraded", "traceroute.path_status")]

def Rule.Listed (rule : Rule) : Prop := (rule.code, rule.signal) ∈ ruleSignals

theorem map_catalog (library : Library) (facts : Facts) :
    (catalog library facts).map (fun rule => (rule.code, rule.signal)) = ruleSignals :=
  rfl

/-! ## Rules -/

section Rules

variable {library : Library} {now : Time} {facts : Facts} {rule : Rule}

theorem mem_catalog_of_traceRules (member : rule ∈ traceRules facts) :
    rule ∈ catalog library facts := by
  have failures : ∀ rule ∈ traceFailureRules facts, rule ∈ catalog library facts := by
    unfold traceFailureRules
    split_ifs
    all_goals simp [catalog]
  have reachability : ∀ rule ∈ traceReachabilityRules facts, rule ∈ catalog library facts := by
    unfold traceReachabilityRules
    split_ifs
    all_goals simp [catalog]
  have path : ∀ rule ∈ tracePathRules facts, rule ∈ catalog library facts := by
    unfold tracePathRules
    split_ifs
    all_goals simp [catalog]
  rcases List.mem_append.mp member with before | last
  · exact (List.mem_append.mp before).elim (failures rule) (reachability rule)
  · exact path rule last

theorem mem_catalog_of_traceAnswer (member : rule ∈ (traceAnswer facts).rules) :
    rule ∈ catalog library facts := by
  unfold traceAnswer at member
  split at member
  · cases member
  · exact mem_catalog_of_traceRules member

theorem mem_catalog_of_report {other : Rule} (known : other ∈ catalog library facts)
    (member : rule ∈ (Answer.report other).rules) : rule ∈ catalog library facts := by
  cases List.mem_singleton.mp member
  exact known

theorem mem_catalog_of_outcomeAnswer (member : rule ∈ (outcomeAnswer facts).rules) :
    rule ∈ catalog library facts := by
  unfold outcomeAnswer at member
  split_ifs at member
  · exact mem_catalog_of_traceAnswer member
  · exact mem_catalog_of_report (by simp [catalog]) member
  · exact mem_catalog_of_report (by simp [catalog]) member
  · exact mem_catalog_of_report (by simp [catalog]) member
  · exact mem_catalog_of_report (by simp [catalog]) member
  · cases member

theorem mem_catalog_of_codeAnswer (member : rule ∈ (codeAnswer facts).rules) :
    rule ∈ catalog library facts := by
  unfold codeAnswer at member
  dsimp only at member
  split_ifs at member
  case neg => exact mem_catalog_of_outcomeAnswer member
  all_goals first
    | exact mem_catalog_of_report (by simp [catalog]) member
    | cases member

theorem mem_catalog_of_certificateRules (member : rule ∈ certificateRules library now facts) :
    rule ∈ catalog library facts := by
  have known : ∀ rule ∈ certificateRules library now facts, rule ∈ catalog library facts := by
    unfold certificateRules
    split_ifs
    all_goals simp [catalog]
  exact known rule member

theorem mem_catalog_of_tlsFailure {failure : TLSFailure} (known : failure ∈ tlsFailures) :
    tlsFailureRule failure facts ∈ catalog library facts := by
  simp only [tlsFailures, List.mem_cons, List.not_mem_nil, or_false] at known
  rcases known with rfl | rfl | rfl | rfl | rfl
  all_goals simp [catalog]

theorem mem_catalog_of_validAnswer (member : rule ∈ (validAnswer library now facts).rules) :
    rule ∈ catalog library facts := by
  unfold validAnswer at member
  split at member
  · cases member
  · split at member
    · exact mem_catalog_of_report (by simp [catalog]) member
    · split at member
      · rename_i failure found
        exact mem_catalog_of_report
          (mem_catalog_of_tlsFailure (List.mem_of_find?_eq_some found)) member
      · rcases List.mem_append.mp member with certificate | observation
        · exact mem_catalog_of_certificateRules certificate
        · unfold observationAnswer at observation
          split_ifs at observation
          · exact mem_catalog_of_traceAnswer observation
          · cases observation
          · exact mem_catalog_of_codeAnswer observation

/-- Facts are answered with rules of the catalog. -/
theorem mem_catalog_of_answer (member : rule ∈ (answer library now facts).rules) :
    rule ∈ catalog library facts := by
  unfold answer at member
  split_ifs at member
  · cases member
  · cases member
  · exact mem_catalog_of_validAnswer member

theorem listed_of_mem_answer (member : rule ∈ (answer library now facts).rules) : rule.Listed := by
  have pair := @List.mem_map_of_mem _ _ _ _ (fun rule : Rule => (rule.code, rule.signal))
    (mem_catalog_of_answer member)
  rwa [map_catalog] at pair

end Rules

/-! ## Keys -/

theorem separator_eq : separator = [.scalar '\x00'] := rfl

/-- A code without the separator is read off the key. -/
theorem eq_of_append_separator {first second rest other : GoString}
    (same : first ++ separator ++ rest = second ++ separator ++ other)
    (firstFree : Rune.scalar '\x00' ∉ first) (secondFree : Rune.scalar '\x00' ∉ second) :
    first = second := by
  rw [separator_eq, List.append_assoc, List.append_assoc, List.singleton_append,
    List.singleton_append] at same
  induction first generalizing second with
  | nil =>
      cases second with
      | nil => rfl
      | cons rune second =>
          rw [List.nil_append, List.cons_append, List.cons.injEq] at same
          exact absurd (same.1 ▸ List.mem_cons_self) secondFree
  | cons rune first ih =>
      cases second with
      | nil =>
          rw [List.nil_append, List.cons_append, List.cons.injEq] at same
          exact absurd (same.1 ▸ List.mem_cons_self) firstFree
      | cons rune' second =>
          rw [List.cons_append, List.cons_append, List.cons.injEq] at same
          rw [same.1, ih same.2 (List.not_mem_of_not_mem_cons firstFree)
            (List.not_mem_of_not_mem_cons secondFree)]

theorem separator_notMem_of_listed {code signal : String}
    (listed : (code, signal) ∈ ruleSignals) :
    Rune.scalar '\x00' ∉ GoString.ofString code := by
  have free : ∀ pair ∈ ruleSignals, '\x00' ∉ pair.1.toList := by decide +kernel
  intro member
  obtain ⟨c, charMem, char_eq⟩ := List.mem_map.mp member
  cases char_eq
  exact free _ listed charMem

namespace Builder

/-! ## The invariant -/

/-- A builder whose findings have evidence by their own rules, and keys by their
codes. -/
structure Told (builder : Builder) : Prop where
  evidence : ∀ item ∈ builder.analysis.evidence, ∃ code, (code, item.signal) ∈ ruleSignals
  code : ∀ finding ∈ builder.analysis.findings, ∃ signal, (finding.code, signal) ∈ ruleSignals
  referred : ∀ finding ∈ builder.analysis.findings, ∀ id ∈ finding.evidenceIDs,
    ∃ item ∈ builder.analysis.evidence, item.id = id ∧ (finding.code, item.signal) ∈ ruleSignals
  keyed : ∀ key index, builder.findingByKey key = some index → ∃ finding,
    builder.analysis.findings[index]? = some finding ∧
      ∃ rest, key = GoString.ofString finding.code ++ separator ++ rest

variable {builder : Builder} {entries : List Entry} {keys : List GoString}

theorem key_eq (entry : Entry) : entry.key = GoString.ofString entry.rule.code ++ separator ++
    (GoString.ofString entry.facts.kind.text ++ separator ++ entry.facts.address) := by
  simp only [Entry.key, findingKey, List.append_assoc]

/-- Rules with one key have one code. -/
theorem code_eq_of_key_eq {entry other : Entry} (listed : entry.rule.Listed)
    (otherListed : other.rule.Listed) (same : entry.key = other.key) :
    entry.rule.code = other.rule.code := by
  rw [key_eq, key_eq] at same
  rw [← GoString.ofString_inj]
  exact eq_of_append_separator same (separator_notMem_of_listed listed)
    (separator_notMem_of_listed otherListed)

/-- The history of listed rules keeps codes and signals together. -/
theorem History.told (history : builder.History entries) (closed : builder.Closed keys)
    (listed : ∀ entry ∈ entries, entry.rule.Listed) : builder.Told := by
  constructor
  · intro item member
    rw [history.evidence_eq, List.mem_mapIdx] at member
    obtain ⟨place, lt, rfl⟩ := member
    exact ⟨_, listed _ (List.getElem_mem lt)⟩
  · intro finding member
    obtain ⟨key, first, holds⟩ := history.holds_of_mem closed member
    exact ⟨first.rule.signal, holds.code_eq ▸ listed first holds.key_first.1⟩
  · intro finding member id idMem
    obtain ⟨key, first, holds⟩ := history.holds_of_mem closed member
    obtain ⟨place, entry, entry_eq, key_eq, rfl⟩ := holds.only id idMem
    have entryMem := List.mem_of_getElem? entry_eq
    refine ⟨entry.evidence place, ?_, rfl, ?_⟩
    · rw [history.evidence_eq]
      apply List.mem_of_getElem? (i := place)
      rw [List.getElem?_mapIdx, entry_eq, Option.map_some]
    · rw [holds.code_eq, code_eq_of_key_eq (listed first holds.key_first.1) (listed entry entryMem)
        (holds.key_first.2.trans key_eq.symm)]
      exact listed entry entryMem
  · intro key index known
    obtain ⟨finding, first, finding_eq, holds⟩ := history.holds key index known
    refine ⟨finding, finding_eq, GoString.ofString first.facts.kind.text ++ separator ++
      first.facts.address, ?_⟩
    rw [holds.code_eq, ← key_eq]
    exact holds.key_first.2.symm

theorem listed_of_mem_asked {library : Library} {now : Time} {facts : List Facts} {entry : Entry}
    (member : entry ∈ asked library now facts) : entry.rule.Listed := by
  obtain ⟨fact, -, entryMem⟩ := List.mem_flatMap.mp member
  obtain ⟨rule, ruleMem, rfl⟩ := List.mem_map.mp entryMem
  exact listed_of_mem_answer ruleMem

theorem told_explained (library : Library) (now : Time) (coverage : Coverage) (facts : List Facts) :
    (explained library now coverage facts).Told :=
  (history_explained library now coverage facts).told (closed_explained library now coverage facts)
    fun _ => listed_of_mem_asked

end Builder

end CheckNetwork.Analysis
