import CheckNetwork.Analysis.Growth
import CheckNetwork.Trace.Recorded

/-!
# What the checker emits

The counters of the attempt loop are those that the analysis counts over the
attempts, and the aggregate status and error follow from them.
-/

namespace CheckNetwork.Trace.Tally

open CheckNetwork.Analysis
open CheckNetwork.Diagnostic
open CheckNetwork.Go

/-- Whether an attempt counts as an execution failure. -/
def failed : Observed → Bool
  | .execution _ => true
  | _ => false

/-- The variables of the loop after as many rounds. -/
structure Agrees (library : Trace.Library) (rounds : Nat) (tally : Tally) : Prop where
  numbers : tally.attempts.map TraceAttempt.attempt =
    (List.range rounds).map fun number => ((number + 1 : Nat) : Int)
  recorded : ∀ attempt ∈ tally.attempts, Recorded library attempt
  reached_eq : tally.reached = (tally.attempts.map Analysis.observe).count .reached
  unreached_eq : tally.unreached = (tally.attempts.map Analysis.observe).count .unreached
  executionFailed_eq : tally.executionFailed =
    (tally.attempts.map Analysis.observe).countP failed
  timedOut_eq : tally.timedOut =
    (tally.attempts.map Analysis.observe).count (.execution "timeout")
  cancelled_eq : tally.cancelled =
    (tally.attempts.map Analysis.observe).count (.execution "cancelled")
  total_eq : tally.reached + tally.unreached + tally.executionFailed = rounds
  classes_le : tally.timedOut + tally.cancelled ≤ tally.executionFailed
  represented : ∀ place ∈ tally.representative, ∃ attempt,
    tally.attempts[place]? = some attempt ∧ attempt.errorCode = []
  unrepresented : tally.representative = none → tally.reached + tally.unreached = 0

namespace Agrees

variable {library : Trace.Library} {rounds : Nat} {tally after : Tally}

theorem initial : Agrees library 0 Tally.initial where
  numbers := rfl
  recorded := by simp [Tally.initial]
  reached_eq := rfl
  unreached_eq := rfl
  executionFailed_eq := rfl
  timedOut_eq := rfl
  cancelled_eq := rfl
  total_eq := rfl
  classes_le := le_rfl
  represented := by simp [Tally.initial]
  unrepresented := fun _ => rfl

theorem length_attempts (agrees : Agrees library rounds tally) :
    tally.attempts.length = rounds := by
  simpa using congrArg List.length agrees.numbers

theorem numbers_append {attempt : TraceAttempt} (agrees : Agrees library rounds tally)
    (number_eq : attempt.attempt = (rounds + 1 : Nat)) :
    (tally.attempts ++ [attempt]).map TraceAttempt.attempt =
      (List.range (rounds + 1)).map fun number => ((number + 1 : Nat) : Int) := by
  rw [List.range_succ, List.map_append, List.map_append, agrees.numbers, List.map_singleton,
    List.map_singleton, number_eq]

/-- A code counts as the class that the analysis reads off it. -/
theorem count_class {errorCode : String} (known : errorCode ∈ executionErrorCodes)
    (name : String) (name_mem : name ∈ executionErrorCodes) (count : Nat) :
    (if errorCode = name then count + 1 else count) =
      count + [Observed.execution errorCode].count (.execution name) := by
  have distinct : GoString.ofString errorCode = GoString.ofString name ↔ errorCode = name := by
    simp only [executionErrorCodes, List.mem_cons, List.not_mem_nil, or_false] at known name_mem
    rcases known with rfl | rfl | rfl <;> rcases name_mem with rfl | rfl | rfl <;> decide
  by_cases same : errorCode = name
  · simp [same]
  · have other : Observed.execution (GoString.ofString errorCode) ≠ .execution name :=
      fun equal => same (distinct.mp (Observed.execution.inj equal))
    rw [if_neg same, List.count_singleton, if_neg (by simpa using other), Nat.add_zero]

/-- A failed round counts its code. -/
theorem fail (agrees : Agrees library rounds tally) {errorCode : String}
    (known : errorCode ∈ executionErrorCodes) (message : GoString) {topology : Option Topology}
    (traced : ∀ route ∈ topology, Traced library route) :
    Agrees library (rounds + 1) ((tally.countFailure errorCode).append
      (failedAttempt (rounds + 1) errorCode message topology)) := by
  have seen : (tally.attempts ++ [failedAttempt (rounds + 1) errorCode message topology]).map
      Analysis.observe = tally.attempts.map Analysis.observe ++ [.execution errorCode] := by
    rw [List.map_append, List.map_singleton, failedAttempt, Analysis.observe,
      if_pos (Recorded.errorCode_ne known)]
  have total := agrees.total_eq
  have classes := agrees.classes_le
  have timedOut := count_class known "timeout" (by decide) tally.timedOut
  have cancelled := count_class known "cancelled" (by decide) tally.cancelled
  refine
    { numbers := agrees.numbers_append rfl
      recorded := ?_
      reached_eq := ?_
      unreached_eq := ?_
      executionFailed_eq := ?_
      timedOut_eq := ?_
      cancelled_eq := ?_
      total_eq := ?_
      classes_le := ?_
      represented := ?_
      unrepresented := agrees.unrepresented }
  · intro attempt member
    rcases List.mem_append.mp member with old | new
    · exact agrees.recorded attempt old
    · rw [List.mem_singleton.mp new]
      exact .failed _ message known traced
  all_goals simp only [append, countFailure, seen, List.count_append, List.countP_append]
  · rw [agrees.reached_eq]
    rfl
  · rw [agrees.unreached_eq]
    rfl
  · rw [agrees.executionFailed_eq]
    rfl
  · rw [timedOut, agrees.timedOut_eq]
  · rw [cancelled, agrees.cancelled_eq]
  · omega
  · split_ifs with timeout cancel
    · rw [timeout] at cancel
      exact absurd cancel (by decide)
    · omega
    · omega
    · omega
  · intro place member
    obtain ⟨attempt, attempt_eq, completed⟩ := agrees.represented place member
    refine ⟨attempt, ?_, completed⟩
    rw [List.getElem?_append_left (List.getElem?_eq_some_iff.mp attempt_eq).1, attempt_eq]

/-- The first completed route stays until a reached one replaces it. -/
theorem representative_complete {place : Nat} {topology : Topology} :
    (tally.complete place topology).representative = some place ∨
      (tally.complete place topology).representative = tally.representative ∧
        tally.representative ≠ none := by
  unfold Tally.complete
  dsimp only
  split
  · exact .inl rfl
  · rename_i kept
    refine .inr ⟨rfl, ?_⟩
    rintro none_
    simp [none_] at kept

/-- A completed round counts its route. -/
theorem complete (agrees : Agrees library rounds tally) {topology : Topology}
    (traced : Traced library topology) :
    Agrees library (rounds + 1)
      ((tally.append (completedAttempt (rounds + 1) topology)).complete tally.attempts.length
        topology) := by
  have seen : (tally.attempts ++ [completedAttempt (rounds + 1) topology]).map Analysis.observe =
      tally.attempts.map Analysis.observe ++
        [if topology.reached then .reached else .unreached] := by
    simp [Analysis.observe, completedAttempt]
  have total := agrees.total_eq
  have chosen := @representative_complete
    (tally.append (completedAttempt (rounds + 1) topology)) tally.attempts.length topology
  refine
    { numbers := agrees.numbers_append rfl
      recorded := ?_
      reached_eq := ?_
      unreached_eq := ?_
      executionFailed_eq := ?_
      timedOut_eq := ?_
      cancelled_eq := ?_
      total_eq := ?_
      classes_le := agrees.classes_le
      represented := ?_
      unrepresented := ?_ }
  · intro attempt member
    rcases List.mem_append.mp member with old | new
    · exact agrees.recorded attempt old
    · rw [List.mem_singleton.mp new]
      exact .completed _ _ traced
  · simp only [append, Tally.complete, seen, List.count_append]
    rw [agrees.reached_eq]
    split <;> rfl
  · simp only [append, Tally.complete, seen, List.count_append]
    rw [agrees.unreached_eq]
    split <;> rfl
  · simp only [append, Tally.complete, seen, List.countP_append]
    rw [agrees.executionFailed_eq]
    split <;> rfl
  · simp only [append, Tally.complete, seen, List.count_append]
    rw [agrees.timedOut_eq]
    split <;> rfl
  · simp only [append, Tally.complete, seen, List.count_append]
    rw [agrees.cancelled_eq]
    split <;> rfl
  · simp only [append, Tally.complete]
    split <;> omega
  · intro place member
    rcases chosen with here | ⟨kept, -⟩
    · rw [here] at member
      cases member
      exact ⟨_, List.getElem?_concat_length, rfl⟩
    · rw [kept] at member
      obtain ⟨attempt, attempt_eq, completed⟩ := agrees.represented place member
      refine ⟨attempt, ?_, completed⟩
      change (tally.attempts ++ _)[place]? = _
      rw [List.getElem?_append_left (List.getElem?_eq_some_iff.mp attempt_eq).1, attempt_eq]
  · intro none_
    rcases chosen with here | ⟨kept, some_⟩
    · rw [here] at none_
      cases none_
    · rw [kept] at none_
      exact absurd none_ some_

/-- The loop after all its rounds. -/
theorem of_foldlM {destination : GoString} {run : Nat → AttemptRun}
    (folded : ((List.range rounds).map (· + 1)).foldlM
      (Tally.attempt library destination run) Tally.initial = .ok tally) :
    Agrees library rounds tally := by
  induction rounds generalizing tally with
  | zero =>
      cases folded
      exact initial
  | succ rounds ih =>
      rw [List.range_succ, List.map_append, List.foldlM_append] at folded
      cases before : ((List.range rounds).map (· + 1)).foldlM
          (Tally.attempt library destination run) Tally.initial with
      | error failure =>
          rw [before] at folded
          cases folded
      | ok middle =>
          have agrees := ih before
          have round : Tally.attempt library destination run middle (rounds + 1) = .ok tally := by
            rw [before, List.map_singleton] at folded
            simp only [List.foldlM_cons, List.foldlM_nil, bind_pure] at folded
            exact folded
          rcases attempt_cases round with ⟨errorCode, message, topology, known, traced, rfl⟩ |
            ⟨topology, traced, rfl⟩
          · exact agrees.fail known message traced
          · exact agrees.complete traced

end Agrees

/-! ## Conclusions -/

section Conclusions

variable {library : Trace.Library} {rounds : Nat} {tally : Tally}

/-- The status of a checker follows from its counters. -/
theorem Agrees.counters_valid (agrees : Agrees library rounds tally) (pos : 0 < rounds)
    (le : rounds ≤ maxTraceAttempts) :
    validCounters (tally.status rounds)
      ⟨rounds, tally.reached, (rounds : Int) - tally.reached, tally.unreached,
        tally.executionFailed, tally.timedOut, tally.cancelled⟩ = true := by
  have total := agrees.total_eq
  have classes := agrees.classes_le
  have matched : traceCountersMatchStatus (tally.status rounds) rounds tally.reached = true := by
    unfold status
    split_ifs with none_ some_
    · simpa [traceCountersMatchStatus] using none_
    · simp only [traceCountersMatchStatus, decide_eq_true_eq]
      omega
    · simp only [Bool.or_eq_true, decide_eq_true_eq, not_or, not_lt] at some_
      simp only [traceCountersMatchStatus, decide_eq_true_eq]
      omega
  simp only [validCounters, matched, Bool.and_true, Bool.and_eq_true, decide_eq_true_eq, and_true]
  omega

theorem status_eq_unreachable_iff :
    tally.status rounds = .unreachable ↔ tally.reached = 0 := by
  unfold status
  split_ifs with none_ some_
  · simp [none_]
  · simp [none_]
  · simp [none_]

/-- The summary of failures is the class that all of them have, or the one for
several. -/
theorem summarize_matches {total timedOut cancelled : Nat} (pos : 0 < total)
    (le : timedOut + cancelled ≤ total) :
    traceOuterErrorMatches (summarizeTraceExecutionErrors total timedOut cancelled) .unreachable
      rounds 0 tally.unreached total timedOut cancelled = true := by
  have some_ : ¬(total : Int) ≤ 0 := by omega
  unfold summarizeTraceExecutionErrors
  rw [if_neg some_]
  split_ifs with timeout cancel generic
  · simp [traceOuterErrorMatches]
    omega
  · simp [traceOuterErrorMatches]
    omega
  · simp [traceOuterErrorMatches]
    omega
  · have several : 2 ≤ [(total : Int) - timedOut - cancelled, timedOut, cancelled].countP
        fun count => 0 < count := by
      simp only [List.countP_cons, List.countP_nil, decide_eq_true_eq]
      split_ifs <;> omega
    simp only [traceOuterErrorMatches, GoString.ofString_inj, reduceCtorEq]
    simpa [several] using pos

/-- The error of a checker follows from its counters. -/
theorem Agrees.errorCode_matches (agrees : Agrees library rounds tally) (pos : 0 < rounds) :
    traceOuterErrorMatches (tally.errorCode rounds) (tally.status rounds) rounds tally.reached
      tally.unreached tally.executionFailed tally.timedOut tally.cancelled = true := by
  have total := agrees.total_eq
  by_cases reached : tally.reached = 0
  · have status_eq := (@status_eq_unreachable_iff rounds tally).mpr reached
    unfold errorCode
    rw [status_eq, if_neg (by simp), reached]
    split_ifs with failures absent
    · exact summarize_matches failures agrees.classes_le
    · have unseen := agrees.unrepresented absent
      omega
    · simp [traceOuterErrorMatches]
      omega
  · have status_ne := mt (@status_eq_unreachable_iff rounds tally).mp reached
    unfold errorCode
    rw [if_pos status_ne]
    unfold status at status_ne ⊢
    rw [if_neg reached]
    simp only [traceOuterErrorMatches]
    split_ifs <;> simp
end Conclusions

end CheckNetwork.Trace.Tally

namespace CheckNetwork.Analysis

open CheckNetwork.Diagnostic
open CheckNetwork.Go
open CheckNetwork.Trace (Recorded Tally GeoIP CheckRun enrichAttempt executionErrorCodes)

/-! ## Attempts -/

section Attempts

variable {library : Trace.Library} {attempts : List TraceAttempt}

@[simp]
theorem observe_enrichAttempt (geoIP : GeoIP) (attempt : TraceAttempt) :
    observe (enrichAttempt library geoIP attempt) = observe attempt := by
  unfold enrichAttempt
  split
  · unfold observe
    cases attempt.topology <;> rfl
  · rfl

@[simp]
theorem attempt_enrichAttempt (geoIP : GeoIP) (attempt : TraceAttempt) :
    (enrichAttempt library geoIP attempt).attempt = attempt.attempt := by
  unfold enrichAttempt
  split <;> rfl

theorem observe_eq_reached_iff {attempt : TraceAttempt} :
    observe attempt = .reached ↔
      attempt.errorCode = [] ∧ attempt.topology.any Topology.reached = true := by
  unfold observe
  split_ifs with failed reached
  · simp [failed]
  · simp [not_not.mp failed, reached]
  · simp [reached]

theorem observe_eq_unreached_iff {attempt : TraceAttempt} :
    observe attempt = .unreached ↔
      attempt.errorCode = [] ∧ ¬attempt.topology.any Topology.reached = true := by
  unfold observe
  split_ifs with failed reached
  · simp [failed]
  · simp [reached]
  · simp [not_not.mp failed, reached]

theorem validStatus_topologyStatus (topology : Topology) :
    validStatus (topologyStatus topology) = true := by
  unfold topologyStatus
  split_ifs <;> rfl

/-- Recorded attempts with consecutive numbers are valid. -/
theorem validateTraceAttempts_of_recorded {rounds : Nat} (pos : 0 < rounds)
    (le : rounds ≤ maxTraceAttempts)
    (numbers : attempts.map TraceAttempt.attempt =
      (List.range rounds).map fun number => ((number + 1 : Nat) : Int))
    (recorded : ∀ attempt ∈ attempts, Recorded library attempt) :
    validateTraceAttempts attempts = true := by
  have length_eq : attempts.length = rounds := by simpa using congrArg List.length numbers
  have valid : ∀ attempt ∈ attempts, validTraceAttempt attempts.length attempt = true := by
    intro attempt member
    have numbered : attempt.attempt ∈ attempts.map TraceAttempt.attempt :=
      List.mem_map_of_mem member
    rw [numbers] at numbered
    obtain ⟨number, numberMem, number_eq⟩ := List.mem_map.mp numbered
    rw [List.mem_range] at numberMem
    have range : (1 : Int) ≤ attempt.attempt ∧ attempt.attempt ≤ attempts.length := by omega
    cases recorded attempt member with
    | completed number message traced =>
        simp [validTraceAttempt, range.1, range.2, validStatus_topologyStatus]
    | failed number message known traced =>
        have named := Recorded.errorCode_ne known
        simp only [executionErrorCodes, List.mem_cons, List.not_mem_nil, or_false] at known
        rcases known with rfl | rfl | rfl
        all_goals simp [validTraceAttempt, range.1, range.2, named, validStatus,
          validTraceAttemptError]
  have nodup : (attempts.map TraceAttempt.attempt).Nodup := by
    rw [numbers]
    exact List.nodup_range.map fun left right equal => by simpa using equal
  have some_ : attempts ≠ [] := by
    rintro rfl
    exact absurd length_eq pos.ne
  have le_length : attempts.length ≤ maxTraceAttempts := length_eq ▸ le
  simp only [validateTraceAttempts, Bool.and_eq_true, decide_eq_true_eq, List.all_eq_true]
  exact ⟨⟨⟨some_, le_length⟩, nodup⟩, valid⟩

/-- Counters that count recorded attempts are confirmed by them. -/
theorem confirmedAttempts_of_recorded {tally : Tally} {rounds : Nat}
    (agrees : Tally.Agrees library rounds tally) (pos : 0 < rounds)
    (recorded : ∀ attempt ∈ attempts, Recorded library attempt)
    (observed : attempts.map observe = tally.attempts.map observe) :
    confirmedAttempts
      ⟨rounds, tally.reached, (rounds : Int) - tally.reached, tally.unreached,
        tally.executionFailed, tally.timedOut, tally.cancelled⟩ attempts =
      some (attempts.filter fun attempt => attempt.errorCode = []) := by
  have length_eq : attempts.length = rounds := by
    rw [← agrees.length_attempts]
    simpa using congrArg List.length observed
  have some_ : attempts ≠ [] := by
    rintro rfl
    exact absurd length_eq pos.ne
  set completed := attempts.filter fun attempt => attempt.errorCode = [] with completed_eq
  have eligible : ∀ attempt ∈ completed, traceAttemptEligible attempt = true := by
    intro attempt member
    obtain ⟨attemptMem, done⟩ := List.mem_filter.mp member
    exact (recorded attempt attemptMem).eligible_iff.mpr (by simpa using done)
  have reached_eq : completed.countP (fun attempt => attempt.topology.any Topology.reached) =
      tally.reached := by
    rw [agrees.reached_eq, ← observed, List.count, List.countP_map, completed_eq,
      List.countP_filter]
    refine List.countP_congr fun attempt _ => ?_
    simp [observe_eq_reached_iff, and_comm]
  have unreached_eq : completed.countP (fun attempt => !attempt.topology.any Topology.reached) =
      tally.unreached := by
    rw [agrees.unreached_eq, ← observed, List.count, List.countP_map, completed_eq,
      List.countP_filter]
    refine List.countP_congr fun attempt _ => ?_
    simp [observe_eq_unreached_iff, and_comm]
  have length_completed : completed.length = tally.reached + tally.unreached := by
    rw [← reached_eq, ← unreached_eq]
    simpa using @List.length_eq_countP_add_countP _
      (fun attempt : TraceAttempt => attempt.topology.any Topology.reached) completed
  have matched : traceAttemptsMatchCounters attempts rounds tally.reached tally.unreached
      tally.executionFailed tally.timedOut tally.cancelled = true := by
    simp only [traceAttemptsMatchCounters, observed, length_eq, ← agrees.reached_eq,
      ← agrees.unreached_eq, ← agrees.timedOut_eq, ← agrees.cancelled_eq, decide_true,
      Bool.and_true, Bool.true_and, decide_eq_true_eq]
    rw [agrees.executionFailed_eq]
    rfl
  unfold confirmedAttempts
  rw [if_pos matched]
  unfold eligibleCompletedTraceAttempts
  rw [← completed_eq, if_neg (by simp [some_]), if_neg (by simpa using eligible), if_pos]
  rw [reached_eq, length_completed]
  dsimp only
  omega

end Attempts

end CheckNetwork.Analysis
