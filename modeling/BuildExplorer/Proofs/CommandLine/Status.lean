import BuildExplorer.CommandLine.Run
import BuildExplorer.Host.Machine
import BuildExplorer.Proofs.Step.Fold
import BuildExplorer.Proofs.Tool.Issued

/-!
# What the status tells

A script learns from the status of the command line whether a build worked.  The
way there is long: the code of a report tells whether the tool failed, the first
code other than zero becomes that of the result, and the status is what is nearest
to that code.  On no step of it a failure is lost.
-/

namespace BuildExplorer.CommandLine

/-! ## The status for a code -/

/-- Codes other than zero are moved to the nearest status other than zero; nothing
is cut off. -/
theorem toNat_statusOfCode {code : Int32} (nonzero : code ≠ 0) :
    ((statusOfCode code).toNat : Int) = max 1 (min 255 code.toInt) := by
  rw [statusOfCode, if_neg nonzero]
  rw [UInt8.toNat_ofNat_of_lt' (by simp only [UInt8.size]; omega)]
  omega

theorem statusOfCode_eq_zero_iff {code : Int32} : statusOfCode code = 0 ↔ code = 0 := by
  by_cases zero : code = 0
  · rw [zero]
    exact iff_of_true rfl rfl
  · refine iff_of_false (fun isZero => ?_) zero
    have nearest := toNat_statusOfCode zero
    rw [isZero, UInt8.toNat_zero] at nearest
    omega

/-- A result without remarks can always be written, and the status is that for its
code. -/
theorem status_ofResult {result : Result} (noRemarks : result.remarks = none) :
    (Outcome.ofResult result).status = statusOfCode result.code := by
  unfold Outcome.ofResult Result.toJson
  rw [noRemarks]
  rfl

/-! ## The status for steps -/

variable {World : Type}

/-- After steps that were run from the start, the code of the result and the status
are zero exactly if no executed step failed.  Else the status is between 1 and 255,
and it is the code itself where that is between them. -/
theorem status_eq_zero_iff_no_failure (host : Host World) (setting : Step.Setting)
    (policy : FailurePolicy) (inputName : Option String) (options : List String)
    (steps : List Step) (world : World)
    (issued : ∀ invocation ∈
      (Step.runAll setting policy (.start inputName options) steps).invocations host world,
        invocation.report.Issued) :
    let running := Step.runAll setting policy (.start inputName options) steps
    let executed := running.invocations host world
    let result := (running.run host world).1.1
    let status := (Outcome.ofResult result).status
    let clean := ∀ invocation ∈ executed, invocation.report.failure? = none
    (result.code = 0 ↔ clean) ∧ (status = 0 ↔ clean) ∧
      (¬clean → 1 ≤ status.toNat ∧ status.toNat ≤ 255 ∧
        (status.toNat : Int) = max 1 (min 255 result.code.toInt)) := by
  intro running executed result status clean
  have isCode : result.code = 0 ↔ clean := by
    have zero : (Result.start inputName options).code = 0 := rfl
    simp only [result, running, Step.code_run_runAll, Result.firstCode_eq_zero_iff,
      List.forall_mem_cons, List.forall_mem_map, zero, true_and]
    exact forall₂_congr fun invocation member => (issued invocation member).code_eq_zero_iff
  have noRemarks : result.remarks = none := by
    simp only [result, running, Step.run_runAll, Result.recordAll_eq]
    rfl
  have isStatus : status = statusOfCode result.code := status_ofResult noRemarks
  refine ⟨isCode, ?_, fun failed => ?_⟩
  · rw [isStatus, statusOfCode_eq_zero_iff, isCode]
  · have nearest := toNat_statusOfCode (mt isCode.mp failed)
    rw [← isStatus] at nearest
    exact ⟨by omega, by omega, nearest⟩

/-- The report on a tool that has said something and ends well. -/
def finishedReport : Tool.Report :=
  { code := 0, stdout := ["hi"], elapsedMs := 3 }

/-- The report on a tool that has said something and is stopped at the deadline. -/
def stoppedReport : Tool.Report :=
  { code := 124, stderr := ["hi", Tool.timeoutLine], timedOut := true, elapsedMs := 10 }

/-- The theorem at three steps, of which the first ends well, the second is stopped
at the deadline, and the third is skipped. -/
theorem status_eq_zero_iff_no_failure_stopped :
    let host : Host (Host.Machine Unit) := Host.Machine.answer fun call machine =>
      (if call.command.text = "/cmake" then finishedReport else stoppedReport, machine)
    let steps : List Step := [⟨"cmake", { command := ⟨"/cmake"⟩ }⟩,
      ⟨"build", { command := ⟨"/make"⟩ }⟩, ⟨"test", { command := ⟨"/cmake"⟩ }⟩]
    let running := Step.runAll { family := .standard } .abort (.start none []) steps
    let executed := running.invocations host { tools := () }
    let result := (running.run host { tools := () }).1.1
    let status := (Outcome.ofResult result).status
    let clean := ∀ invocation ∈ executed, invocation.report.failure? = none
    (∀ invocation ∈ executed, invocation.report.Issued) ∧ ¬clean ∧
      (result.code = 0 ↔ clean) ∧ (status = 0 ↔ clean) ∧
      1 ≤ status.toNat ∧ status.toNat ≤ 255 := by
  intro host steps running executed result status clean
  have finished : finishedReport.Issued :=
    .supervised 10 [.arrives .stdout [104, 105, 10], .toolEnds (.exit 0), .streamEnds .stdout,
      .streamEnds .stderr, .announces .stderr, .announces .stdout, .looks, .takes, .takes,
      .completes, .reports 3] (by decide)
  have stopped : stoppedReport.Issued :=
    .supervised 10 [.arrives .stderr [104, 105], .expires, .concludes, .reports 10] (by decide)
  have isExecuted : executed = [⟨{ command := ⟨"/cmake"⟩ }, finishedReport⟩,
      ⟨{ command := ⟨"/make"⟩ }, stoppedReport⟩] := by
    decide +kernel
  have issued : ∀ invocation ∈ executed, invocation.report.Issued := by
    rw [isExecuted]
    simpa using ⟨finished, stopped⟩
  have failed : ¬clean := by
    simp only [clean, isExecuted]
    decide
  obtain ⟨isCode, isStatus, bounds⟩ :=
    status_eq_zero_iff_no_failure host { family := .standard } .abort none [] steps _ issued
  exact ⟨issued, failed, isCode, isStatus, (bounds failed).1, (bounds failed).2.1⟩

end BuildExplorer.CommandLine
