import CheckNetwork.Analysis.Counting
import CheckNetwork.Analysis.Signals

/-!
# The wording of grouped findings

Rules that share a key share the wording of the first of them.  The wording of
a rule is decided by its code and the signal of its evidence, so grouping is
faithful just when results that share a key agree on the signal.
-/

namespace CheckNetwork.Analysis

open Diagnostic Go

/-! ## Texts -/

/-- A library that converts nothing. -/
def blankLibrary : Library := ⟨fun _ => none, fun _ => [], fun _ => none, fun _ => none⟩

def blankFacts : Facts :=
  initialFacts 0 ⟨.dns, [], .healthy, 0, ⟨0, 0⟩, [], [], none⟩

/-- The texts of a rule do not depend on the facts. -/
theorem wordings_catalog (library other : Library) (facts facts' : Facts) :
    ((catalog library facts).map fun rule => (rule.findingWording, rule.actionWording)) =
      (catalog other facts').map fun rule => (rule.findingWording, rule.actionWording) := by
  unfold catalog
  simp only [List.map_cons, List.map_nil, List.cons.injEq, Rule.findingWording,
    Rule.actionWording, and_true]
  repeat' constructor

theorem nodup_ruleSignals : ruleSignals.Nodup := by
  decide +kernel

/-- Two rules of the catalog with one code differ in what they say. -/
theorem pairwise_catalog : ((catalog blankLibrary blankFacts).map fun rule =>
    (rule.code, rule.summary, rule.step)).Pairwise fun first second => first.1 = second.1 →
      first.2.1 ≠ second.2.1 ∧ first.2.2 ≠ second.2.2 := by
  decide +kernel

/-- A place of the catalog has one code, one signal and one wording. -/
theorem catalog_place {library : Library} {facts : Facts} {rule : Rule} {place : Nat}
    (found : (catalog library facts)[place]? = some rule) :
    ruleSignals[place]? = some (rule.code, rule.signal) ∧
      ∃ blank, (catalog blankLibrary blankFacts)[place]? = some blank ∧
        blank.findingWording = rule.findingWording ∧ blank.actionWording = rule.actionWording := by
  constructor
  · rw [← map_catalog library facts, List.getElem?_map, found]
    rfl
  · have wordings := congrArg (·[place]?)
      (wordings_catalog blankLibrary library blankFacts facts)
    rw [List.getElem?_map, List.getElem?_map, found, Option.map_some, Option.map_eq_some_iff]
      at wordings
    obtain ⟨blank, blank_eq, same⟩ := wordings
    rw [Prod.mk.injEq] at same
    exact ⟨blank, blank_eq, same⟩

/-- The signal decides the wording among the rules with one code. -/
theorem wording_cases {library : Library} {facts facts' : Facts} {first second : Rule}
    (firstMem : first ∈ catalog library facts) (secondMem : second ∈ catalog library facts')
    (code_eq : first.code = second.code) :
    (first.signal = second.signal ∧ first.findingWording = second.findingWording ∧
        first.actionWording = second.actionWording) ∨
      first.signal ≠ second.signal ∧ first.findingWording ≠ second.findingWording ∧
        first.actionWording ≠ second.actionWording := by
  obtain ⟨place, place_eq⟩ := List.getElem?_of_mem firstMem
  obtain ⟨other, other_eq⟩ := List.getElem?_of_mem secondMem
  obtain ⟨signal, blank, blank_eq, finding, action⟩ := catalog_place place_eq
  obtain ⟨signal', blank', blank_eq', finding', action'⟩ := catalog_place other_eq
  by_cases same : place = other
  · subst same
    rw [blank_eq, Option.some.injEq] at blank_eq'
    rw [signal, Option.some.injEq, Prod.mk.injEq] at signal'
    subst blank_eq'
    exact .inl ⟨signal'.2, finding.symm.trans finding', action.symm.trans action'⟩
  · right
    have differ : blank.summary ≠ blank'.summary ∧ blank.step ≠ blank'.step := by
      have codes : blank.code = blank'.code := by
        rw [(List.cons.inj finding).1, (List.cons.inj finding').1, code_eq]
      have known := pairwise_catalog
      rw [List.pairwise_map, List.pairwise_iff_getElem] at known
      obtain ⟨lt, rfl⟩ := List.getElem?_eq_some_iff.mp blank_eq
      obtain ⟨lt', rfl⟩ := List.getElem?_eq_some_iff.mp blank_eq'
      rcases lt_or_gt_of_ne same with before | after
      · exact known place other lt lt' before codes
      · obtain ⟨summary, step⟩ := known other place lt' lt after codes.symm
        exact ⟨summary.symm, step.symm⟩
    refine ⟨?_, ?_, ?_⟩
    · intro signals
      obtain ⟨lt, eq⟩ := List.getElem?_eq_some_iff.mp signal
      obtain ⟨lt', eq'⟩ := List.getElem?_eq_some_iff.mp signal'
      apply same
      apply nodup_ruleSignals.getElem_inj_iff.mp
      rw [eq, eq', code_eq, signals]
    · rw [← finding, ← finding']
      intro wording
      simp only [Rule.findingWording, List.cons.injEq] at wording
      exact differ.1 wording.2.2.2.2.1
    · rw [← action, ← action']
      intro wording
      simp only [Rule.actionWording, List.cons.injEq] at wording
      exact differ.2 wording.2.1

/-! ## The rules of a result -/

/-- The rules that a result asks for. -/
def rulesOf (library : Library) (now : Time) (result : Result) : List Rule :=
  (answer library now (resultFacts library now 0 result)).rules

section Rules

variable {library : Library} {now : Time} {facts : Facts} {result : Result}

def certificateCodes : List String := ["tls_certificate_expired", "tls_certificate_expiring"]

/-- Rules with different codes, none of them about an expiry. -/
def Apart (rules : List Rule) : Prop :=
  (rules.map Rule.code).Nodup ∧ ∀ rule ∈ rules, rule.code ∉ certificateCodes

theorem apart_nil : Apart [] := ⟨List.nodup_nil, by simp⟩

theorem apart_report {rule : Rule} (other : rule.code ∉ certificateCodes) :
    Apart (Answer.report rule).rules := by
  refine ⟨List.nodup_singleton _, ?_⟩
  intro known member
  rwa [List.mem_singleton.mp member]

theorem apart_traceAnswer : Apart (traceAnswer facts).rules := by
  unfold traceAnswer
  split
  · exact apart_nil
  · unfold traceRules traceFailureRules traceReachabilityRules tracePathRules
    split_ifs
    all_goals simp [Apart, certificateCodes, traceTimedOut, traceCancelled, traceCommandFailed,
      traceMixedFailures, traceUnreachable, tracePartialReachability, tracePathUnstable,
      tracePathDegraded]

theorem apart_outcomeAnswer : Apart (outcomeAnswer facts).rules := by
  unfold outcomeAnswer
  split_ifs
  · exact apart_traceAnswer
  all_goals first
    | exact apart_nil
    | exact apart_report (by simp [certificateCodes, httpUnexpectedStatus,
        httpUnexpectedStatusUnobserved, dnsResolutionFailed, endpointConnectFailed])

theorem apart_codeAnswer : Apart (codeAnswer facts).rules := by
  unfold codeAnswer
  dsimp only
  split_ifs
  case neg => exact apart_outcomeAnswer
  all_goals first
    | exact apart_nil
    | exact apart_report (by simp [certificateCodes, checkerPanic, checkerCapacityUnavailable,
        tracerouteUnavailable, targetPolicyBlocked, invalidTarget, executionTimeout,
        executionCancelled, serviceGreetingUnverified])

theorem apart_observationAnswer : Apart (observationAnswer facts).rules := by
  unfold observationAnswer
  split_ifs
  · exact apart_traceAnswer
  · exact apart_nil
  · exact apart_codeAnswer

theorem nodup_codes_certificateRules :
    ((certificateRules library now facts).map Rule.code).Nodup ∧
      ∀ rule ∈ certificateRules library now facts, rule.code ∈ certificateCodes := by
  unfold certificateRules
  split_ifs
  all_goals simp [certificateRule, certificateCodes]

/-- The rules of one answer have different codes. -/
theorem nodup_codes_answer : ((answer library now facts).rules.map Rule.code).Nodup := by
  have valid : ((validAnswer library now facts).rules.map Rule.code).Nodup := by
    unfold validAnswer
    split
    · exact List.nodup_nil
    · split
      · exact List.nodup_singleton _
      · split
        · exact List.nodup_singleton _
        · obtain ⟨nodup, certified⟩ := @nodup_codes_certificateRules library now facts
          obtain ⟨nodup', apart⟩ := @apart_observationAnswer facts
          dsimp only
          rw [List.map_append, List.nodup_append]
          refine ⟨nodup, nodup', ?_⟩
          intro code codeMem other otherMem same
          obtain ⟨rule, ruleMem, rfl⟩ := List.mem_map.mp codeMem
          obtain ⟨rule', ruleMem', rfl⟩ := List.mem_map.mp otherMem
          exact apart rule' ruleMem' (same ▸ certified rule ruleMem)
  unfold answer
  split
  · exact List.nodup_nil
  · split
    · exact List.nodup_nil
    · exact valid

/-- A rule of an answer is known by its code. -/
theorem eq_of_code_eq {rule other : Rule} (ruleMem : rule ∈ (answer library now facts).rules)
    (otherMem : other ∈ (answer library now facts).rules) (same : rule.code = other.code) :
    rule = other :=
  List.inj_on_of_nodup_map nodup_codes_answer ruleMem otherMem same

end Rules

/-! ## Entries -/

section Entries

variable {library : Library} {now : Time} {results : List Result} {entry : Entry}

/-- The entries of a report are the rules that its results ask for. -/
theorem mem_asked : entry ∈ Builder.asked library now
      (normalizeResults library now results emptyCoverage).2 ↔
    ∃ index result, results[index]? = some result ∧ ∃ rule ∈ rulesOf library now result,
      entry = ⟨(resultFacts library now 0 result).inPlace index, rule⟩ := by
  rw [facts_normalizeResults]
  simp only [Builder.asked, List.mem_flatMap, List.mem_map, Prod.exists, List.mk_mem_zipIdx_iff_getElem?]
  constructor
  · rintro ⟨facts, ⟨result, index, found, rfl⟩, rule, ruleMem, rfl⟩
    have placed : resultFacts library now index result =
        (resultFacts library now 0 result).inPlace index := facts_inPlace 0 index _ _
    rw [placed] at ruleMem ⊢
    exact ⟨index, result, found, rule, ruleMem, rfl⟩
  · rintro ⟨index, result, found, rule, ruleMem, rfl⟩
    have placed : resultFacts library now index result =
        (resultFacts library now 0 result).inPlace index := facts_inPlace 0 index _ _
    exact ⟨_, ⟨result, index, found, rfl⟩, rule, placed ▸ ruleMem, by rw [placed]⟩

/-- The finding that tells an entry, in a report. -/
structure Tells (report : Analysis) (entries : List Entry) (finding : Finding)
    (key : GoString) : Prop where
  wording : ∃ first, (entries.find? fun entry => entry.key = key) = some first ∧
    finding.wording = first.rule.findingWording ∧
    ∃ actor action, (entries.find? fun entry => entry.actionKey = first.actionKey) = some actor ∧
      action ∈ report.actions ∧ finding.actionIDs = [action.id] ∧
      action.wording = actor.rule.actionWording
  evidence : ∀ item ∈ report.evidence, item.id ∈ finding.evidenceIDs →
    ∃ (place : Nat) (entry : Entry), entries[place]? = some entry ∧ entry.key = key ∧ item = entry.evidence place
  joined : ∀ (place : Nat) (entry : Entry), entries[place]? = some entry → entry.key = key →
    entry.evidence place ∈ report.evidence ∧ (entry.evidence place).id ∈ finding.evidenceIDs

def entriesOf (library : Library) (results : List Result) (now : Time) : List Entry :=
  Builder.asked library now.utc (normalizeResults library now.utc results emptyCoverage).2

theorem history_reportBuilder : (reportBuilder library results now).History
    (entriesOf library results now) :=
  Builder.history_explained _ _ _ _

theorem closed_reportBuilder : ∃ keys, (reportBuilder library results now).Closed keys :=
  ⟨_, Builder.closed_explained _ _ _ _⟩

/-- What is held for a key is told by the report. -/
theorem tells_of_holds {key : GoString} {finding : Finding} {first : Entry}
    (holds : Builder.Holds (reportBuilder library results now).actionByKey
      (reportBuilder library results now).analysis.actions (entriesOf library results now) key
      finding first) :
    Tells (analyze library results now) (entriesOf library results now) finding key := by
  have history := @history_reportBuilder library now results
  have evidence_eq : (analyze library results now).evidence =
      (entriesOf library results now).mapIdx fun place entry => entry.evidence place :=
    history.evidence_eq
  refine ⟨?_, ?_, ?_⟩
  · obtain ⟨place, action, known, action_eq, ids_eq⟩ := holds.action
    obtain ⟨other, actor, other_eq, actor_eq, wording⟩ := history.action _ _ known
    rw [action_eq, Option.some.injEq] at other_eq
    subst other_eq
    exact ⟨first, holds.first_eq, holds.wording, actor, action, actor_eq,
      List.mem_of_getElem? action_eq, ids_eq, wording⟩
  · intro item member referred
    rw [evidence_eq, List.mem_mapIdx] at member
    obtain ⟨place, lt, rfl⟩ := member
    obtain ⟨other, entry, entry_eq, key_eq, id_eq⟩ := holds.only _ referred
    have same : place = other := Nat.succ_injective (numberedID_injective "e" id_eq)
    subst same
    rw [List.getElem?_eq_getElem lt, Option.some.injEq] at entry_eq
    subst entry_eq
    exact ⟨place, _, List.getElem?_eq_getElem lt, key_eq, rfl⟩
  · intro place entry entry_eq key_eq
    refine ⟨?_, holds.joined place entry entry_eq key_eq⟩
    rw [evidence_eq]
    apply List.mem_of_getElem? (i := place)
    rw [List.getElem?_mapIdx, entry_eq, Option.map_some]

/-- Every finding of a report tells the entries with a key. -/
theorem tells_of_mem {finding : Finding} (member : finding ∈ (analyze library results now).findings) :
    ∃ key, Tells (analyze library results now) (entriesOf library results now) finding key := by
  rw [analyze_eq, (perm_findings_finalize _).mem_iff] at member
  obtain ⟨keys, closed⟩ := @closed_reportBuilder library now results
  obtain ⟨key, first, holds⟩ := history_reportBuilder.holds_of_mem closed member
  exact ⟨key, tells_of_holds holds⟩

/-- Every entry of a report is told by a finding. -/
theorem exists_tells (member : entry ∈ entriesOf library results now) :
    ∃ finding ∈ (analyze library results now).findings,
      Tells (analyze library results now) (entriesOf library results now) finding entry.key := by
  have history := @history_reportBuilder library now results
  obtain ⟨index, known⟩ := history.opened entry member
  obtain ⟨finding, first, finding_eq, holds⟩ := history.holds _ _ known
  refine ⟨finding, ?_, tells_of_holds holds⟩
  rw [analyze_eq, (perm_findings_finalize _).mem_iff]
  exact List.mem_of_getElem? finding_eq

/-- An action is known by its identifier. -/
theorem action_inj {action other : Action} (actionMem : action ∈ (analyze library results now).actions)
    (otherMem : other ∈ (analyze library results now).actions) (same : action.id = other.id) :
    action = other := by
  have nodup : ((reportBuilder library results now).analysis.actions.map Action.id).Nodup := by
    obtain ⟨keys, closed⟩ := @closed_reportBuilder library now results
    rw [closed.action_ids]
    exact nodup_numbered _ _
  exact List.inj_on_of_nodup_map nodup actionMem otherMem same

end Entries

/-! ## One result -/

section Alone

variable {library : Library} {now : Time} {results : List Result} {entry other : Entry}

theorem catalog_of_mem (member : entry ∈ entriesOf library results now) :
    entry.rule ∈ catalog library entry.facts ∧ entry.rule.Listed := by
  refine ⟨?_, Builder.listed_of_mem_asked member⟩
  obtain ⟨facts, -, entryMem⟩ := List.mem_flatMap.mp member
  obtain ⟨rule, ruleMem, rfl⟩ := List.mem_map.mp entryMem
  exact mem_catalog_of_answer ruleMem

/-- Rules with one action key have one code. -/
theorem code_eq_of_actionKey_eq (listed : entry.rule.Listed) (otherListed : other.rule.Listed)
    (same : entry.actionKey = other.actionKey) : entry.rule.code = other.rule.code := by
  rw [← GoString.ofString_inj]
  exact eq_of_append_separator same (separator_notMem_of_listed listed)
    (separator_notMem_of_listed otherListed)

theorem find?_eq_some {test : Entry → Bool} {entries : List Entry} {first : Entry}
    (found : entries.find? test = some first) : first ∈ entries ∧ test first = true :=
  ⟨List.mem_of_find?_eq_some found, List.find?_some found⟩

/-- Alone, a result has one finding for each of its rules, in the words of the
rule. -/
theorem alone_of_tells {result : Result} {rule : Rule} {alone : Finding} {key : GoString}
    (tells : Tells (analyze library [result] now) (entriesOf library [result] now) alone key)
    (ruleMem : rule ∈ rulesOf library now.utc result)
    (key_eq : Entry.key ⟨resultFacts library now.utc 0 result, rule⟩ = key) :
    alone.wording = rule.findingWording ∧
      ∃ action ∈ (analyze library [result] now).actions, alone.actionIDs = [action.id] ∧
        action.wording = rule.actionWording := by
  obtain ⟨first, first_eq, wording, actor, action, actor_eq, actionMem, ids_eq, acted⟩ :=
    tells.wording
  have inPlace : (resultFacts library now.utc 0 result).inPlace 0 =
      resultFacts library now.utc 0 result := (facts_inPlace 0 0 _ _).symm
  have single : ∀ other ∈ entriesOf library [result] now,
      other.rule ∈ rulesOf library now.utc result ∧ other.rule.Listed := by
    intro other member
    refine ⟨?_, (catalog_of_mem member).2⟩
    obtain ⟨index, last, found, known, knownMem, rfl⟩ := mem_asked.mp member
    have last_eq : last = result := by
      simpa using List.mem_of_getElem? found
    exact last_eq ▸ knownMem
  have entryMem : (⟨resultFacts library now.utc 0 result, rule⟩ : Entry) ∈
      entriesOf library [result] now :=
    mem_asked.mpr ⟨0, result, rfl, rule, ruleMem, by rw [inPlace]⟩
  obtain ⟨firstMem, firstKey⟩ := find?_eq_some first_eq
  obtain ⟨actorMem, actorKey⟩ := find?_eq_some actor_eq
  rw [decide_eq_true_eq] at firstKey actorKey
  have first_rule : first.rule = rule :=
    eq_of_code_eq (single first firstMem).1 ruleMem (Builder.code_eq_of_key_eq
      (single first firstMem).2 (single _ entryMem).2 (firstKey.trans key_eq.symm))
  have actor_rule : actor.rule = rule := by
    rw [← first_rule]
    exact eq_of_code_eq (single actor actorMem).1 (single first firstMem).1
      (code_eq_of_actionKey_eq (single actor actorMem).2 (single first firstMem).2 actorKey)
  rw [first_rule] at wording
  rw [actor_rule] at acted
  exact ⟨wording, action, actionMem, ids_eq, acted⟩

theorem exists_alone {result : Result} {rule : Rule}
    (ruleMem : rule ∈ rulesOf library now.utc result) :
    ∃ alone ∈ (analyze library [result] now).findings, alone.wording = rule.findingWording ∧
      ∃ action ∈ (analyze library [result] now).actions, alone.actionIDs = [action.id] ∧
        action.wording = rule.actionWording := by
  have inPlace : (resultFacts library now.utc 0 result).inPlace 0 =
      resultFacts library now.utc 0 result := (facts_inPlace 0 0 _ _).symm
  have entryMem : (⟨resultFacts library now.utc 0 result, rule⟩ : Entry) ∈
      entriesOf library [result] now :=
    mem_asked.mpr ⟨0, result, rfl, rule, ruleMem, by rw [inPlace]⟩
  obtain ⟨alone, aloneMem, tells⟩ := exists_tells entryMem
  exact ⟨alone, aloneMem, alone_of_tells tells ruleMem rfl⟩

theorem exists_rule {result : Result} {alone : Finding}
    (aloneMem : alone ∈ (analyze library [result] now).findings) :
    ∃ rule ∈ rulesOf library now.utc result, alone.wording = rule.findingWording ∧
      ∃ action ∈ (analyze library [result] now).actions, alone.actionIDs = [action.id] ∧
        action.wording = rule.actionWording := by
  obtain ⟨key, tells⟩ := tells_of_mem aloneMem
  obtain ⟨first, first_eq, -⟩ := tells.wording
  obtain ⟨firstMem, firstKey⟩ := find?_eq_some first_eq
  rw [decide_eq_true_eq] at firstKey
  obtain ⟨index, last, found, rule, ruleMem, rfl⟩ := mem_asked.mp firstMem
  have last_eq : last = result := by
    simpa using List.mem_of_getElem? found
  subst last_eq
  exact ⟨rule, ruleMem, alone_of_tells tells ruleMem firstKey⟩

end Alone

/-! ## Grouping -/

/-- Every finding, and the action it refers to, says of each of its results what
the analysis of that result alone says. -/
def Preserved (library : Library) (results : List Result) (now : Time) : Prop :=
  ∀ finding ∈ (analyze library results now).findings,
    ∀ item ∈ (analyze library results now).evidence, item.id ∈ finding.evidenceIDs →
      ∀ result, results[item.resultIndex]? = some result →
        ∃ alone ∈ (analyze library [result] now).findings, alone.wording = finding.wording ∧
          ∃ action ∈ (analyze library results now).actions, action.id ∈ finding.actionIDs ∧
            ∃ other ∈ (analyze library [result] now).actions, other.id ∈ alone.actionIDs ∧
              other.wording = action.wording

/-- The evidence of each entry has the signal of the first entry with its
finding key, and of the first one with the action key of that. -/
def Settled (entries : List Entry) : Prop :=
  ∀ entry ∈ entries, ∀ first, (entries.find? fun other => other.key = entry.key) = some first →
    first.rule.signal = entry.rule.signal ∧
      ∀ actor, (entries.find? fun other => other.actionKey = first.actionKey) = some actor →
        actor.rule.signal = entry.rule.signal

section Grouping

variable {library : Library} {now : Time} {results : List Result}

theorem preserved_of_settled (settled : Settled (entriesOf library results now)) :
    Preserved library results now := by
  intro finding member item itemMem referred result found
  obtain ⟨key, tells⟩ := tells_of_mem member
  obtain ⟨first, first_eq, wording, actor, action, actor_eq, actionMem, ids_eq, acted⟩ :=
    tells.wording
  obtain ⟨place, entry, entry_eq, entryKey, rfl⟩ := tells.evidence item itemMem referred
  have entryMem := List.mem_of_getElem? entry_eq
  obtain ⟨firstMem, firstKey⟩ := find?_eq_some first_eq
  obtain ⟨actorMem, actorKey⟩ := find?_eq_some actor_eq
  rw [decide_eq_true_eq] at firstKey actorKey
  obtain ⟨firstSignal, signals⟩ := settled entry entryMem first (entryKey ▸ first_eq)
  have code_eq : first.rule.code = entry.rule.code :=
    Builder.code_eq_of_key_eq (catalog_of_mem firstMem).2 (catalog_of_mem entryMem).2
      (firstKey.trans entryKey.symm)
  have actor_code : actor.rule.code = entry.rule.code :=
    (code_eq_of_actionKey_eq (catalog_of_mem actorMem).2 (catalog_of_mem firstMem).2
      actorKey).trans code_eq
  have found_wording : first.rule.findingWording = entry.rule.findingWording :=
    (wording_cases (catalog_of_mem firstMem).1 (catalog_of_mem entryMem).1 code_eq).elim
      (·.2.1) fun differ => absurd firstSignal differ.1
  have acted_wording : actor.rule.actionWording = entry.rule.actionWording :=
    (wording_cases (catalog_of_mem actorMem).1 (catalog_of_mem entryMem).1 actor_code).elim
      (·.2.2) fun differ => absurd (signals actor actor_eq) differ.1
  obtain ⟨index, other, other_eq, rule, ruleMem, rfl⟩ := mem_asked.mp entryMem
  have same : other = result := Option.some.inj (other_eq.symm.trans found)
  subst same
  obtain ⟨alone, aloneMem, said, last, lastMem, last_ids, done⟩ := exists_alone ruleMem
  refine ⟨alone, aloneMem, said.trans (wording.trans found_wording).symm, action, actionMem, ?_,
    last, lastMem, ?_, done.trans (acted.trans acted_wording).symm⟩
  · rw [ids_eq]
    exact List.mem_singleton_self _
  · rw [last_ids]
    exact List.mem_singleton_self _

theorem settled_of_preserved (preserved : Preserved library results now) :
    Settled (entriesOf library results now) := by
  intro entry entryMem first first_eq
  obtain ⟨place, entry_eq⟩ := List.getElem?_of_mem entryMem
  obtain ⟨finding, member, tells⟩ := exists_tells entryMem
  obtain ⟨other, other_eq, wording, actor, action, actor_eq, actionMem, ids_eq, acted⟩ :=
    tells.wording
  rw [first_eq, Option.some.injEq] at other_eq
  subst other_eq
  obtain ⟨itemMem, referred⟩ := tells.joined place entry entry_eq rfl
  obtain ⟨firstMem, firstKey⟩ := find?_eq_some first_eq
  obtain ⟨actorMem, actorKey⟩ := find?_eq_some actor_eq
  rw [decide_eq_true_eq] at firstKey actorKey
  have code_eq : first.rule.code = entry.rule.code :=
    Builder.code_eq_of_key_eq (catalog_of_mem firstMem).2 (catalog_of_mem entryMem).2 firstKey
  have actor_code : actor.rule.code = entry.rule.code :=
    (code_eq_of_actionKey_eq (catalog_of_mem actorMem).2 (catalog_of_mem firstMem).2
      actorKey).trans code_eq
  obtain ⟨index, result, found, rule, ruleMem, rfl⟩ := mem_asked.mp entryMem
  obtain ⟨alone, aloneMem, said, action', actionMem', actionIDs', last, lastMem, lastIDs, done⟩ :=
    preserved finding member _ itemMem referred result found
  obtain ⟨rule', ruleMem', wording', last', lastMem', lastIDs', acted'⟩ := exists_rule aloneMem
  have rule_eq : rule' = rule := by
    apply eq_of_code_eq ruleMem' ruleMem
    have codes := wording'.symm.trans (said.trans wording)
    rw [(List.cons.inj codes).1, code_eq]
  subst rule_eq
  have action_eq : action' = action := by
    rw [ids_eq, List.mem_singleton] at actionIDs'
    exact action_inj actionMem' actionMem actionIDs'
  have last_eq : last = last' := by
    rw [lastIDs', List.mem_singleton] at lastIDs
    exact action_inj lastMem lastMem' lastIDs
  constructor
  · refine (wording_cases (catalog_of_mem firstMem).1 (catalog_of_mem entryMem).1 code_eq).elim
      (·.1) fun differ => absurd ?_ differ.2.1
    exact (wording'.symm.trans (said.trans wording)).symm
  · intro other other_eq
    rw [actor_eq, Option.some.injEq] at other_eq
    subst other_eq
    refine (wording_cases (catalog_of_mem actorMem).1 (catalog_of_mem entryMem).1 actor_code).elim
      (·.1) fun differ => absurd ?_ differ.2.2
    rw [← acted, ← action_eq, ← done, last_eq, acted']

end Grouping

end CheckNetwork.Analysis
