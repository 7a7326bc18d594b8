import CheckNetwork.Trace.Shape

/-!
# What the attempt loop records

Each round of the loop either counts a failure under one of three codes or
completes a route, and it appends exactly one attempt.
-/

namespace CheckNetwork.Trace

open Diagnostic Go

/-- The codes of an attempt that did not run to its end. -/
def executionErrorCodes : List String := ["timeout", "cancelled", "traceroute_failed"]

theorem traceCommandErrorCode_known (error : TraceError) :
    traceCommandErrorCode error ∈ executionErrorCodes := by
  unfold traceCommandErrorCode
  split_ifs <;> decide

/-- An attempt as the loop records it and enrichment leaves it. -/
inductive Recorded (library : Library) : TraceAttempt → Prop
  | completed (number : Int) (message : GoString) {topology : Topology}
      (traced : Traced library topology) :
      Recorded library ⟨number, topologyStatus topology, some topology, [], message⟩
  | failed (number : Int) {errorCode : String} (message : GoString)
      {topology : Option Topology} (known : errorCode ∈ executionErrorCodes)
      (traced : ∀ route ∈ topology, Traced library route) :
      Recorded library ⟨number, .unreachable, topology, errorCode, message⟩

namespace Recorded

variable {library : Library} {attempt : TraceAttempt}

theorem errorCode_ne {errorCode : String} (known : errorCode ∈ executionErrorCodes) :
    GoString.ofString errorCode ≠ [] := by
  simp only [executionErrorCodes, List.mem_cons, List.not_mem_nil, or_false] at known
  rcases known with rfl | rfl | rfl <;> decide

/-- Only completed attempts are eligible. -/
theorem eligible_iff (recorded : Recorded library attempt) :
    traceAttemptEligible attempt = true ↔ attempt.errorCode = [] := by
  cases recorded with
  | completed => simp [traceAttemptEligible]
  | failed number message known traced =>
      have named := errorCode_ne known
      simp [traceAttemptEligible, named]

theorem traced (recorded : Recorded library attempt) :
    ∀ topology ∈ attempt.topology, Traced library topology := by
  cases recorded with
  | completed _ _ traced =>
      rintro topology ⟨⟩
      exact traced
  | failed _ _ _ traced => exact traced

theorem enrich (recorded : Recorded library attempt) (geoIP : GeoIP) :
    Recorded library (enrichAttempt library geoIP attempt) := by
  unfold enrichAttempt
  split
  · cases recorded with
    | completed number message traced =>
        rw [← topologyStatus_enrich library geoIP]
        exact .completed number message (traced.enriched geoIP)
    | failed number message known traced =>
        refine .failed number message known ?_
        intro route member
        obtain ⟨topology, topologyMem, rfl⟩ := Option.mem_map.mp member
        exact (traced topology topologyMem).enriched geoIP
  · exact recorded

end Recorded

namespace Tally

variable {library : Library} {destination : GoString} {run : Nat → AttemptRun}
  {tally after : Tally} {number : Nat}

/-- The attempt of a failed command. -/
def failedAttempt (number : Nat) (errorCode : String) (message : GoString)
    (topology : Option Topology) : TraceAttempt :=
  ⟨number, .unreachable, topology, errorCode, message⟩

/-- The attempt of a completed route. -/
def completedAttempt (number : Nat) (topology : Topology) : TraceAttempt :=
  ⟨number, topologyStatus topology, some topology, [], []⟩

/-- One round either fails under a known code or completes a traced route. -/
theorem attempt_cases (round : Tally.attempt library destination run tally number = .ok after) :
    (∃ (errorCode : String) (message : GoString) (topology : Option Topology),
      errorCode ∈ executionErrorCodes ∧ (∀ route ∈ topology, Traced library route) ∧
        after = (tally.countFailure errorCode).append
          (failedAttempt number errorCode message topology)) ∨
    ∃ topology, Traced library topology ∧
      after = (tally.append (completedAttempt number topology)).complete tally.attempts.length
        topology := by
  unfold Tally.attempt at round
  cases resolved : (run number).resolveFailure with
  | some failure =>
      simp only [resolved] at round
      split at round
      · cases round
      · cases round
        exact .inl ⟨_, _, none, traceCommandErrorCode_known _, by simp, rfl⟩
  | none =>
      simp only [resolved] at round
      cases parsed : parseTraceroute library (run number).output destination with
      | error parseError =>
          simp only [parsed] at round
          cases command : (run number).contextErr.or (run number).commandErr with
          | none =>
              simp only [command, Except.ok.injEq] at round
              exact .inl ⟨_, _, none, by decide, by simp, round.symm⟩
          | some error =>
              simp only [command, Except.ok.injEq] at round
              exact .inl ⟨_, _, none, traceCommandErrorCode_known _, by simp, round.symm⟩
      | ok topology =>
          simp only [parsed, Except.ok.injEq] at round
          have traced : Traced library topology := .parsed parsed
          cases command : (run number).contextErr.or (run number).commandErr with
          | some error =>
              rw [command] at round
              refine .inl ⟨_, _, some topology, traceCommandErrorCode_known error, ?_,
                round.symm⟩
              rintro route ⟨⟩
              exact traced
          | none =>
              have eligible : traceAttemptEligible (completedAttempt number topology) = true := by
                simp [traceAttemptEligible, completedAttempt]
              refine .inr ⟨topology, traced, ?_⟩
              rw [← round, command]
              unfold Tally.observe
              dsimp only
              rw [show traceAttemptEligible
                ⟨number, topologyStatus topology, some topology, [], []⟩ = true from eligible]
              simp [append, completedAttempt]

end Tally

end CheckNetwork.Trace
