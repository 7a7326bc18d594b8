import CheckNetwork.Analysis.Closed

/-!
# The history of a builder

What the builder holds is decided by the rules that were added to it, in their
order: an evidence item for each of them, and for each key the wording of the
first one.
-/

namespace CheckNetwork.Analysis

open Diagnostic Go

/-- A rule that was added for facts. -/
structure Entry where
  facts : Facts
  rule : Rule

namespace Entry

variable (entry : Entry)

def key : GoString := findingKey entry.facts entry.rule

/-- The key under which the actions of rules are shared. -/
def actionKey : GoString :=
  GoString.ofString entry.rule.code ++ separator ++ entry.facts.address

/-- The evidence item of the entry with a number. -/
def evidence (place : Nat) : Evidence where
  id := numberedID "e" (place + 1)
  resultIndex := entry.facts.index
  kind := entry.facts.kind
  attempt := 0
  address := entry.facts.address
  signal := entry.rule.signal
  observed := entry.rule.observed
  expected := entry.rule.expected
  provenance := entry.rule.provenance

end Entry

/-! ## Wording -/

/-- The texts of a finding that its rule decides. -/
def Rule.findingWording (rule : Rule) : List String :=
  [rule.code, rule.severity, rule.category, rule.title, rule.summary, rule.confidence]

def Rule.actionWording (rule : Rule) : List String :=
  [rule.actionTitle, rule.step, rule.expectedResult, rule.escalation]

end CheckNetwork.Analysis

namespace CheckNetwork.Diagnostic

def Finding.wording (finding : Finding) : List String :=
  [finding.code, finding.severity, finding.category, finding.title, finding.summary,
    finding.confidence]

def Action.wording (action : Action) : List String :=
  [action.title, action.step, action.expectedResult, action.escalationCondition]

end CheckNetwork.Diagnostic

namespace CheckNetwork.Analysis

open CheckNetwork.Diagnostic
open CheckNetwork.Go

namespace Builder

variable {builder : Builder} {entries : List Entry}

/-- The finding that is held for a key after some entries, with the first of
them that has the key. -/
structure Holds (actionByKey : GoString → Option Nat) (actions : List Action)
    (entries : List Entry) (key : GoString) (finding : Finding) (first : Entry) : Prop where
  first_eq : (entries.find? fun entry => entry.key = key) = some first
  wording : finding.wording = first.rule.findingWording
  joined : ∀ place entry, entries[place]? = some entry → entry.key = key →
    numberedID "e" (place + 1) ∈ finding.evidenceIDs
  only : ∀ id ∈ finding.evidenceIDs, ∃ place entry, entries[place]? = some entry ∧
    entry.key = key ∧ id = numberedID "e" (place + 1)
  action : ∃ (place : Nat) (action : Action), actionByKey first.actionKey = some place ∧
    actions[place]? = some action ∧ finding.actionIDs = [action.id]

/-- A builder with the entries that were added to it. -/
structure History (builder : Builder) (entries : List Entry) : Prop where
  evidence_eq : builder.analysis.evidence = entries.mapIdx fun place entry => entry.evidence place
  opened : ∀ entry ∈ entries, ∃ index, builder.findingByKey entry.key = some index
  holds : ∀ key index, builder.findingByKey key = some index → ∃ finding first,
    builder.analysis.findings[index]? = some finding ∧
      Holds builder.actionByKey builder.analysis.actions entries key finding first
  acted : ∀ entry ∈ entries, ∃ place, builder.actionByKey entry.actionKey = some place
  action : ∀ key place, builder.actionByKey key = some place → ∃ action first,
    builder.analysis.actions[place]? = some action ∧
      (entries.find? fun entry => entry.actionKey = key) = some first ∧
      action.wording = first.rule.actionWording

theorem history_opened (coverage : Coverage) : (opened coverage).History [] :=
  ⟨by simp [opened], by simp, by simp [opened], by simp, by simp [opened]⟩

/-! ## Actions -/

/-- What choosing the action of an entry leaves behind. -/
structure Chosen (before after : Builder) (entry : Entry) (index : Nat) : Prop where
  chosen : after.actionByKey entry.actionKey = some index
  kept : ∀ key place, before.actionByKey key = some place → after.actionByKey key = some place
  actions_kept : ∀ (place : Nat) (action : Action), before.analysis.actions[place]? = some action →
    after.analysis.actions[place]? = some action
  new : ∀ key place, after.actionByKey key = some place → before.actionByKey key = some place ∨
    before.actionByKey key = none ∧ key = entry.actionKey ∧ ∃ action,
      after.analysis.actions[place]? = some action ∧ action.wording = entry.rule.actionWording

theorem chosen_withAction (entry : Entry) :
    Chosen builder (builder.withAction entry.facts entry.rule).1 entry
      (builder.withAction entry.facts entry.rule).2 := by
  unfold withAction
  dsimp only
  cases found : builder.actionByKey (GoString.ofString entry.rule.code ++ separator ++
      entry.facts.address) with
  | some index =>
      exact ⟨found, fun _ _ => id, fun _ _ => id, fun _ _ => .inl⟩
  | none =>
      refine ⟨?_, ?_, ?_, ?_⟩
      · exact Function.update_self _ _ _
      · intro key place known
        dsimp only
        rw [Function.update_apply, if_neg]
        · exact known
        · rintro rfl
          rw [found] at known
          cases known
      · intro place action known
        rw [List.getElem?_append_left (List.getElem?_eq_some_iff.mp known).1]
        exact known
      · intro key place known
        dsimp only at known
        rw [Function.update_apply] at known
        split at known
        · rename_i same
          cases known
          exact .inr ⟨same ▸ found, same, _, List.getElem?_concat_length, rfl⟩
        · exact .inl known

/-! ## One entry -/

theorem find?_append_of_some {items : List Entry} {test : Entry → Bool} {first : Entry}
    (found : items.find? test = some first) (last : Entry) :
    (items ++ [last]).find? test = some first := by
  rw [List.find?_append, found, Option.some_or]

theorem find?_append_of_none {items : List Entry} {test : Entry → Bool}
    (missing : items.find? test = none) {last : Entry} (holds : test last = true) :
    (items ++ [last]).find? test = some last := by
  rw [List.find?_append, missing, Option.none_or, List.find?_cons, holds]

theorem getElem?_concat_cases {items : List Entry} {last entry : Entry} {place : Nat}
    (found : (items ++ [last])[place]? = some entry) :
    items[place]? = some entry ∨ place = items.length ∧ entry = last := by
  by_cases lt : place < items.length
  · rw [List.getElem?_append_left lt] at found
    exact .inl found
  · have bound := (List.getElem?_eq_some_iff.mp found).1
    rw [List.length_append, List.length_singleton] at bound
    have here : place = items.length := by omega
    rw [here, List.getElem?_concat_length, Option.some.injEq] at found
    exact .inr ⟨here, found.symm⟩

/-- Another entry leaves a finding alone. -/
theorem Holds.other {after : Builder} {key : GoString} {finding : Finding} {first entry : Entry}
    {index : Nat} (chosen : Chosen builder after entry index)
    (holds : Holds builder.actionByKey builder.analysis.actions entries key finding first)
    (different : entry.key ≠ key) :
    Holds after.actionByKey after.analysis.actions (entries ++ [entry]) key finding first := by
  refine ⟨find?_append_of_some holds.first_eq entry, holds.wording, ?_, ?_, ?_⟩
  · intro place other found same
    rcases getElem?_concat_cases found with old | ⟨-, rfl⟩
    · exact holds.joined place other old same
    · exact absurd same different
  · intro id member
    obtain ⟨place, other, found, known⟩ := holds.only id member
    refine ⟨place, other, ?_, known⟩
    rw [List.getElem?_append_left (List.getElem?_eq_some_iff.mp found).1]
    exact found
  · obtain ⟨place, action, byKey_eq, action_eq, ids_eq⟩ := holds.action
    exact ⟨place, action, chosen.kept _ _ byKey_eq, chosen.actions_kept _ _ action_eq, ids_eq⟩

/-- An entry with the key joins its finding. -/
theorem Holds.join {after : Builder} {finding : Finding} {first entry : Entry} {index : Nat}
    (chosen : Chosen builder after entry index)
    (holds : Holds builder.actionByKey builder.analysis.actions entries entry.key finding first) :
    Holds after.actionByKey after.analysis.actions (entries ++ [entry]) entry.key
      { finding with evidenceIDs := finding.evidenceIDs ++ [numberedID "e" (entries.length + 1)] }
      first := by
  refine ⟨find?_append_of_some holds.first_eq entry, holds.wording, ?_, ?_, ?_⟩
  · intro place other found same
    rcases getElem?_concat_cases found with old | ⟨rfl, -⟩
    · exact List.mem_append_left _ (holds.joined place other old same)
    · exact List.mem_append_right _ (List.mem_singleton_self _)
  · intro id member
    rcases List.mem_append.mp member with old | new
    · obtain ⟨place, other, found, known⟩ := holds.only id old
      refine ⟨place, other, ?_, known⟩
      rw [List.getElem?_append_left (List.getElem?_eq_some_iff.mp found).1]
      exact found
    · exact ⟨entries.length, entry, List.getElem?_concat_length, rfl, List.mem_singleton.mp new⟩
  · obtain ⟨place, action, byKey_eq, action_eq, ids_eq⟩ := holds.action
    exact ⟨place, action, chosen.kept _ _ byKey_eq, chosen.actions_kept _ _ action_eq, ids_eq⟩

/-- The first entry with a key opens a finding. -/
theorem Holds.open {after : Builder} {finding : Finding} {entry : Entry} {index : Nat}
    {action : Action} (chosen : after.actionByKey entry.actionKey = some index)
    (action_eq : after.analysis.actions[index]? = some action)
    (fresh : ∀ other ∈ entries, other.key ≠ entry.key)
    (wording : finding.wording = entry.rule.findingWording)
    (evidence_eq : finding.evidenceIDs = [numberedID "e" (entries.length + 1)])
    (ids_eq : finding.actionIDs = [action.id]) :
    Holds after.actionByKey after.analysis.actions (entries ++ [entry]) entry.key finding
      entry := by
  refine ⟨?_, wording, ?_, ?_, ⟨index, action, chosen, action_eq, ids_eq⟩⟩
  · apply find?_append_of_none
    · rw [List.find?_eq_none]
      exact fun other member => by simpa using fresh other member
    · simp
  · intro place other found same
    rcases getElem?_concat_cases found with old | ⟨rfl, -⟩
    · exact absurd same (fresh other (List.mem_of_getElem? old))
    · rw [evidence_eq]
      exact List.mem_singleton_self _
  · intro id member
    rw [evidence_eq] at member
    exact ⟨entries.length, entry, List.getElem?_concat_length, rfl, List.mem_singleton.mp member⟩

/-- Adding a rule is one entry more. -/
theorem History.add (history : builder.History entries) {keys : List GoString}
    (closed : builder.Closed keys) (entry : Entry) :
    (builder.add entry.facts entry.rule).History (entries ++ [entry]) := by
  cases acted_eq : (builder.observe entry.facts entry.rule).withAction entry.facts entry.rule with
  | mk after index =>
    have acted : Acted (builder.observe entry.facts entry.rule) after index := by
      have general : Acted (builder.observe entry.facts entry.rule)
          ((builder.observe entry.facts entry.rule).withAction entry.facts entry.rule).1
          ((builder.observe entry.facts entry.rule).withAction entry.facts entry.rule).2 :=
        acted_withAction entry.rule closed.action_ids closed.action_of_key
      rw [acted_eq] at general
      exact general
    have chosen : Chosen builder after entry index := by
      have general := @chosen_withAction (builder.observe entry.facts entry.rule) entry
      rw [acted_eq] at general
      exact ⟨general.chosen, general.kept, general.actions_kept, general.new⟩
    have length_eq : builder.analysis.evidence.length = entries.length := by
      rw [history.evidence_eq, List.length_mapIdx]
    have evidence_eq : after.analysis.evidence =
        (entries ++ [entry]).mapIdx fun place entry => entry.evidence place := by
      rw [acted.evidence_eq, List.mapIdx_append]
      simp [observe, history.evidence_eq, evidenceOf, Entry.evidence]
    have findings_eq : after.analysis.findings = builder.analysis.findings := acted.findings_eq
    have byKey_eq : after.findingByKey = builder.findingByKey := acted.findingByKey_eq
    have acts : ∀ other ∈ entries ++ [entry], ∃ place,
        after.actionByKey other.actionKey = some place := by
      intro other member
      rcases List.mem_append.mp member with old | new
      · obtain ⟨place, known⟩ := history.acted other old
        exact ⟨place, chosen.kept _ _ known⟩
      · cases List.mem_singleton.mp new
        exact ⟨index, chosen.chosen⟩
    have action : ∀ key place, after.actionByKey key = some place → ∃ action first,
        after.analysis.actions[place]? = some action ∧
          ((entries ++ [entry]).find? fun entry => entry.actionKey = key) = some first ∧
          action.wording = first.rule.actionWording := by
      intro key place known
      rcases chosen.new key place known with old | ⟨missing, rfl, action, action_eq, wording⟩
      · obtain ⟨action, first, action_eq, first_eq, wording⟩ := history.action key place old
        exact ⟨action, first, chosen.actions_kept _ _ action_eq,
          find?_append_of_some first_eq entry, wording⟩
      · refine ⟨action, entry, action_eq, ?_, wording⟩
        apply find?_append_of_none
        · rw [List.find?_eq_none]
          intro other member
          rw [decide_eq_true_eq]
          intro same
          obtain ⟨place, found⟩ := history.acted other member
          rw [same, missing] at found
          cases found
        · simp
    rw [add_cases entry.rule acted_eq]
    cases found : after.findingByKey (findingKey entry.facts entry.rule) with
    | some place =>
        rw [byKey_eq] at found
        change builder.findingByKey entry.key = some place at found
        refine ⟨evidence_eq, ?_, ?_, acts, action⟩
        · intro other member
          dsimp only
          rw [byKey_eq]
          rcases List.mem_append.mp member with old | new
          · exact history.opened other old
          · cases List.mem_singleton.mp new
            exact ⟨place, found⟩
        · intro key index known
          dsimp only at known ⊢
          rw [byKey_eq] at known
          rw [findings_eq, List.getElem?_modify]
          obtain ⟨finding, first, finding_eq, holds⟩ := history.holds key index known
          rw [finding_eq, Option.map_eq_map, Option.map_some]
          by_cases same : entry.key = key
          · subst same
            rw [found, Option.some.injEq] at known
            subst known
            have id_eq : (builder.evidenceOf entry.facts entry.rule).id =
                numberedID "e" (entries.length + 1) := by
              rw [evidenceOf, length_eq]
            rw [if_pos rfl, id_eq]
            exact ⟨_, first, rfl, holds.join chosen⟩
          · have apart : place ≠ index := by
              rintro rfl
              rw [closed.finding_of_key] at found known
              rw [found, Option.some.injEq] at known
              exact same known
            rw [if_neg apart]
            exact ⟨finding, first, rfl, holds.other chosen same⟩
    | none =>
        rw [byKey_eq] at found
        change builder.findingByKey entry.key = none at found
        have fresh : ∀ other ∈ entries, other.key ≠ entry.key := by
          intro other member same
          obtain ⟨place, known⟩ := history.opened other member
          rw [same, found] at known
          cases known
        refine ⟨evidence_eq, ?_, ?_, acts, action⟩
        · intro other member
          dsimp only
          rw [byKey_eq]
          by_cases same : other.key = findingKey entry.facts entry.rule
          · rw [same]
            exact ⟨_, Function.update_self _ _ _⟩
          · rw [Function.update_of_ne same]
            rcases List.mem_append.mp member with old | new
            · exact history.opened other old
            · exact absurd (congrArg Entry.key (List.mem_singleton.mp new)) same
        · intro key place known
          dsimp only at known ⊢
          rw [byKey_eq, findings_eq, Function.update_apply] at known
          rw [findings_eq]
          split at known
          · rename_i same
            have same : key = entry.key := same
            subst same
            cases known
            obtain ⟨chosenAction, chosen_eq⟩ : ∃ action,
                after.analysis.actions[index]? = some action :=
              ⟨_, List.getElem?_eq_getElem acted.index_lt⟩
            refine ⟨_, entry, List.getElem?_concat_length, ?_⟩
            apply Holds.open chosen.chosen chosen_eq fresh
            · rfl
            · rw [evidenceOf, length_eq]
            · rw [chosen_eq]
              rfl
          · rename_i other
            obtain ⟨finding, first, finding_eq, holds⟩ := history.holds key place known
            refine ⟨finding, first, ?_, holds.other chosen (Ne.symm other)⟩
            rw [List.getElem?_append_left (List.getElem?_eq_some_iff.mp finding_eq).1]
            exact finding_eq

/-- Every finding is held for a key. -/
theorem History.holds_of_mem (history : builder.History entries) {keys : List GoString}
    (closed : builder.Closed keys) {finding : Finding}
    (member : finding ∈ builder.analysis.findings) : ∃ key first,
      Holds builder.actionByKey builder.analysis.actions entries key finding first := by
  obtain ⟨index, finding_eq⟩ := List.getElem?_of_mem member
  have lt : index < keys.length := closed.keys_length ▸ (List.getElem?_eq_some_iff.mp finding_eq).1
  have byKey := (closed.finding_of_key _ index).mpr (List.getElem?_eq_getElem lt)
  obtain ⟨other, first, other_eq, holds⟩ := history.holds _ index byKey
  rw [finding_eq, Option.some.injEq] at other_eq
  subst other_eq
  exact ⟨_, first, holds⟩

theorem Holds.key_first {actionByKey : GoString → Option Nat} {actions : List Action}
    {key : GoString} {finding : Finding} {first : Entry}
    (holds : Holds actionByKey actions entries key finding first) :
    first ∈ entries ∧ first.key = key :=
  ⟨List.mem_of_find?_eq_some holds.first_eq, by simpa using List.find?_some holds.first_eq⟩

theorem Holds.code_eq {actionByKey : GoString → Option Nat} {actions : List Action}
    {key : GoString} {finding : Finding} {first : Entry}
    (holds : Holds actionByKey actions entries key finding first) :
    finding.code = first.rule.code :=
  (List.cons.inj holds.wording).1

/-! ## Reports -/

theorem History.report (history : builder.History entries) {keys : List GoString}
    (closed : builder.Closed keys) {facts : Facts} (rules : List Rule) :
    (builder.report facts rules).History (entries ++ rules.map fun rule => ⟨facts, rule⟩) := by
  induction rules generalizing builder entries keys with
  | nil =>
      rw [List.map_nil, List.append_nil]
      exact history
  | cons rule rules ih =>
      have added := history.add closed ⟨facts, rule⟩
      have known := ih added (closed.add rule)
      rw [List.append_assoc, List.singleton_append] at known
      exact known

theorem History.give (history : builder.History entries) {keys : List GoString}
    (closed : builder.Closed keys) {facts : Facts} (given : Answer) :
    (builder.give facts given).History
      (entries ++ given.rules.map fun rule => ⟨facts, rule⟩) := by
  have reported := @History.report builder entries history keys closed facts given.rules
  have maps : (builder.give facts given).findingByKey =
        (builder.report facts given.rules).findingByKey ∧
      (builder.give facts given).actionByKey = (builder.report facts given.rules).actionByKey := by
    unfold Builder.give
    dsimp only
    split <;> split <;> exact ⟨rfl, rfl⟩
  refine ⟨?_, ?_, ?_, ?_, ?_⟩
  all_goals simp only [analysis_give, maps]
  · exact reported.evidence_eq
  · exact reported.opened
  · exact reported.holds
  · exact reported.acted
  · exact reported.action

/-- The entries that some facts ask for. -/
def asked (library : Library) (now : Time) (facts : List Facts) : List Entry :=
  facts.flatMap fun fact => (answer library now fact).rules.map fun rule => ⟨fact, rule⟩

theorem history_explained (library : Library) (now : Time) (coverage : Coverage)
    (facts : List Facts) :
    (explained library now coverage facts).History (asked library now facts) := by
  induction facts using List.reverseRecOn with
  | nil => exact history_opened coverage
  | append_singleton earlier fact ih =>
      rw [explained_concat, asked, List.flatMap_append, List.flatMap_singleton]
      exact ih.give (closed_explained library now coverage earlier) _

end Builder

end CheckNetwork.Analysis
