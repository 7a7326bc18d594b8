import CheckNetwork.Analysis.AllClear
import CheckNetwork.Analysis.Counting

/-!
# The record of a finished report

When a report is delivered, its telemetry record carries the counters of the
report, unless validation turns them away.
-/

namespace CheckNetwork.Telemetry

open Diagnostic Go
open CheckNetwork.Analysis (Library analyze askedFindings length_findings slowHopResult
  typedLibrary)

inductive TelemetryEvent
  | httpTerminal | reportSubmit | reportAdmit | reportReject | reportStart | reportComputed
  | reportFinish | reportCancel
  deriving DecidableEq

inductive TelemetryOutcome
  | ok | unauthorized | rateLimited | invalidJSON | invalidRequest | requestTooLarge
  | serverCapacity | serverDraining | bodyCapacity | checkerCapacity | writeCapacity | policy
  | timeout | cancel | panicSafeFailure | serialization | fullSize | compactSize
  | writeFailedZero | writeFailedPartial | unmatched
  deriving DecidableEq

def maxTelemetryFindings : Nat := 2 * maxTargets

/-- What `validReportDiagnostics` reads of a record.  A text that is not set is
`none`. -/
structure TelemetryRecord where
  event : TelemetryEvent
  outcome : TelemetryOutcome
  status : Int
  responseAttemptedBytes : Int
  responseBytes : Int
  reportStatus : Option Status
  analysisVerdict : Option Verdict
  totalResults : Int
  failedResults : Int
  findingCount : Int
  reportDiagnosticsPresent : Bool

def validReportDiagnostics (record : TelemetryRecord) : Bool :=
  if !record.reportDiagnosticsPresent then
    record.reportStatus.isNone && record.analysisVerdict.isNone && record.totalResults = 0 &&
      record.failedResults = 0 && record.findingCount = 0
  else if record.event ≠ .reportFinish ∨ record.outcome ≠ .ok ∨ record.status ≠ 0 ∨
      record.responseAttemptedBytes ≤ 0 ∨
        record.responseBytes ≠ record.responseAttemptedBytes then false
  else if record.totalResults < 1 ∨ (maxTargets : Int) < record.totalResults ∨
      record.failedResults < 0 ∨ record.totalResults < record.failedResults ∨
        record.findingCount < 0 ∨ (maxTelemetryFindings : Int) < record.findingCount then false
  else if record.analysisVerdict.isNone then false
  else
    match record.reportStatus with
    | some .healthy => record.failedResults = 0
    | some .degraded => 0 < record.failedResults
    | some .unreachable => record.failedResults = record.totalResults
    | _ => false

/-! ## Reports -/

structure Summary where
  total : Nat
  passed : Nat
  failed : Nat

/-- The fields of a report that the record is made of. -/
structure FinishedReport where
  status : Status
  summary : Summary
  analysis : Option Analysis

def Summary.count (summary : Summary) (result : Result) : Summary :=
  if result.status = .healthy then
    { summary with total := summary.total + 1, passed := summary.passed + 1 }
  else { summary with total := summary.total + 1, failed := summary.failed + 1 }

def finalizeReport (library : Library) (now : Time) (results : List Result) : FinishedReport :=
  let summary := results.foldl Summary.count ⟨0, 0, 0⟩
  let hasDegraded := results.any fun result => result.status = .degraded
  { status :=
      if summary.failed = 0 then .healthy
      else if hasDegraded ∨ 0 < summary.passed then .degraded
      else .unreachable
    summary := summary
    analysis := some (analyze library results now) }

/-- The record that `emitReportFinish` hands on, given what was written. -/
def reportFinishRecord (outcome : TelemetryOutcome) (responseAttempted responseActual : Int)
    (report : FinishedReport) : TelemetryRecord :=
  let record : TelemetryRecord :=
    { event := .reportFinish
      outcome := outcome
      status := 0
      responseAttemptedBytes := responseAttempted
      responseBytes := responseActual
      reportStatus := none
      analysisVerdict := none
      totalResults := 0
      failedResults := 0
      findingCount := 0
      reportDiagnosticsPresent := false }
  match report.analysis with
  | none => record
  | some analysis =>
      if outcome = .ok ∧ 0 < responseAttempted ∧ responseActual = responseAttempted then
        let candidate :=
          { record with
            reportStatus := some report.status
            analysisVerdict := some analysis.verdict
            totalResults := report.summary.total
            failedResults := report.summary.failed
            findingCount := analysis.findings.length
            reportDiagnosticsPresent := true }
        if validReportDiagnostics candidate then candidate else record
      else record

/-! ## Counters -/

theorem foldl_count (results : List Result) (start : Summary) :
    (results.foldl Summary.count start).total = start.total + results.length ∧
      (results.foldl Summary.count start).passed + (results.foldl Summary.count start).failed =
        start.passed + start.failed + results.length ∧
      start.failed ≤ (results.foldl Summary.count start).failed := by
  induction results generalizing start with
  | nil => simp
  | cons result results ih =>
      obtain ⟨total, parts, failed⟩ := ih (start.count result)
      rw [List.foldl_cons, List.length_cons]
      unfold Summary.count at total parts failed ⊢
      split at total
      · rename_i healthy
        rw [if_pos healthy] at parts failed ⊢
        dsimp only at total parts failed
        omega
      · rename_i troubled
        rw [if_neg troubled] at parts failed ⊢
        dsimp only at total parts failed
        omega

/-- The counters of a finished report are as validation expects them. -/
theorem finalizeReport_coherent (library : Library) (now : Time) (results : List Result) :
    (finalizeReport library now results).summary.total = results.length ∧
      (finalizeReport library now results).summary.failed ≤ results.length ∧
      match (finalizeReport library now results).status with
      | .healthy => (finalizeReport library now results).summary.failed = 0
      | .degraded => 0 < (finalizeReport library now results).summary.failed
      | .unreachable => (finalizeReport library now results).summary.failed = results.length
      | .other _ => False := by
  obtain ⟨total, parts, _⟩ := foldl_count results ⟨0, 0, 0⟩
  simp only [Nat.zero_add] at total parts
  unfold finalizeReport
  dsimp only
  refine ⟨total, by omega, ?_⟩
  split_ifs with clean degraded
  · exact clean
  · exact Nat.pos_of_ne_zero clean
  · rw [not_or] at degraded
    omega

/-- A delivered report's record carries its counters exactly when its findings
fit. -/
theorem reportDiagnosticsPresent_iff (library : Library) (now : Time) {results : List Result}
    (nonempty : results ≠ []) (small : results.length ≤ maxTargets) {attempted : Int}
    (written : 0 < attempted) :
    (reportFinishRecord .ok attempted attempted
        (finalizeReport library now results)).reportDiagnosticsPresent = true ↔
      (analyze library results now).findings.length ≤ maxTelemetryFindings := by
  obtain ⟨total, failed, status⟩ := finalizeReport_coherent library now results
  have analysis_eq : (finalizeReport library now results).analysis =
      some (analyze library results now) := rfl
  have pos := List.length_pos_iff.mpr nonempty
  generalize finalizeReport library now results = report at total failed status analysis_eq ⊢
  unfold reportFinishRecord
  rw [analysis_eq]
  dsimp only
  rw [if_pos ⟨rfl, written, rfl⟩]
  have valid : ∀ candidate : TelemetryRecord, candidate.event = .reportFinish →
      candidate.outcome = .ok → candidate.status = 0 →
      candidate.responseAttemptedBytes = attempted → candidate.responseBytes = attempted →
      candidate.reportStatus = some report.status →
      candidate.analysisVerdict = some (analyze library results now).verdict →
      candidate.totalResults = report.summary.total →
      candidate.failedResults = report.summary.failed →
      candidate.findingCount = (analyze library results now).findings.length →
      candidate.reportDiagnosticsPresent = true →
      (validReportDiagnostics candidate = true ↔
        (analyze library results now).findings.length ≤ maxTelemetryFindings) := by
    intro candidate event outcome code attempts bytes reportStatus verdict totals fails findings
      present
    unfold validReportDiagnostics
    rw [present, event, outcome, code, attempts, bytes, reportStatus, verdict, totals, fails,
      findings, total]
    simp only [Bool.not_true, Bool.false_eq_true, if_false, ne_eq, not_true_eq_false, or_false,
      not_le.mpr written, Option.isNone_some]
    by_cases fits : (analyze library results now).findings.length ≤ maxTelemetryFindings
    · rw [if_neg (by omega)]
      simp only [fits, iff_true]
      cases known : report.status with
      | healthy => rw [known] at status; simp [status]
      | degraded => rw [known] at status; simpa using status
      | unreachable => rw [known] at status; simp [status]
      | other name => rw [known] at status; exact status.elim
    · rw [if_pos (by omega)]
      simp [fits]
  split
  · rename_i accepted
    exact iff_of_true rfl ((valid _ rfl rfl rfl rfl rfl rfl rfl rfl rfl rfl rfl).mp accepted)
  · rename_i rejected
    have unfit := fun fits => rejected ((valid _ rfl rfl rfl rfl rfl rfl rfl rfl rfl rfl rfl).mpr fits)
    exact iff_of_false (by simp) unfit

/-- Findings within the telemetry bound, and a record with counters for every
delivery. -/
def Reported (library : Library) (results : List Result) (now : Time) : Prop :=
  (analyze library results now).findings.length ≤ 2 * maxTargets ∧
    ∀ attempted : Int, 0 < attempted → results ≠ [] →
      (reportFinishRecord .ok attempted attempted
        (finalizeReport library now results)).reportDiagnosticsPresent = true

/-- A route of one hop. -/
def oneHop (reached : Bool) (status : TopologyStatus) : Topology where
  reached := reached
  nodes := [⟨GoString.ofString "hop-1", 1, GoString.ofString "192.0.2.1", .finite 80, status, false,
    none, none⟩]
  links := []

/-- A trace of which one attempt timed out, one reached its destination over a
degraded hop and one did not reach it. -/
def troubledTrace (address : String) : Result where
  kind := .traceroute
  address := GoString.ofString address
  status := .degraded
  latencyMS := 80
  startedAt := ⟨1, 0⟩
  errorCode := []
  message := []
  details := some
    (([("attempts_total", 3), ("attempts_reached", 1), ("attempts_failed", 2),
        ("attempts_unreached", 1), ("attempts_execution_failed", 1), ("attempts_timed_out", 1),
        ("attempts_cancelled", 0)].map fun (key, count) =>
          (GoString.ofString key, Detail.int count)) ++
      [(GoString.ofString "attempts", .attempts
        [⟨1, .unreachable, none, GoString.ofString "timeout", []⟩,
          ⟨2, topologyStatus (oneHop true .degraded), some (oneHop true .degraded), [], []⟩,
          ⟨3, topologyStatus (oneHop false .healthy), some (oneHop false .healthy), [], []⟩])])

def troubledTraces : List Result :=
  (["a", "b", "c", "d", "e", "f", "g", "h", "i", "j", "k", "l", "m", "n"].map troubledTrace)

/-- Items that look different are different. -/
theorem length_dedup_map_le {A B : Type} [DecidableEq A] [DecidableEq B] (view : A → B)
    (items : List A) : (items.map view).dedup.length ≤ items.dedup.length := by
  rw [← @List.length_map _ _ items.dedup view]
  refine (List.subperm_of_subset (List.nodup_dedup _) ?_).length_le
  intro seen member
  obtain ⟨item, itemMem, rfl⟩ := List.mem_map.mp (List.mem_dedup.mp member)
  exact List.mem_map_of_mem (List.mem_dedup.mpr itemMem)

theorem length_troubledTraces :
    42 ≤ (askedFindings typedLibrary troubledTraces ⟨2, 0⟩).length := by
  -- The length of a key tells its code, and its last character tells its address.
  refine le_trans ?_ (length_dedup_map_le (fun key => 1000 * key.length +
    (key.getLast?.map fun rune => rune.char.toNat).getD 0) _)
  decide +kernel

end CheckNetwork.Telemetry
