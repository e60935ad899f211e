import BuildExplorer.Proofs.Tool.Supervised

/-!
# Reports that can come back

Whatever happens to a run, its report is one of four kinds: the tool was never
started, it was lost, it came to its end and both streams were read, or it was
stopped at the deadline.  Only a tool that came to its end can have the code
zero, so the code of a report tells whether the run failed.
-/

namespace BuildExplorer.Tool

open Supervision (Final)

/-! ## All reports -/

/-- The reports that can come back for a call: on a tool that was never started, on
one that was lost, and on a run that a supervisor saw to its end, by whatever
events. -/
inductive Report.Issued : Report → Prop where
  | notLaunched (message : String) : Issued (.ofLaunchFailure message)
  | lost (message : String) (elapsedMs : UInt64) :
      Issued (.ofSupervisionFailure message elapsedMs)
  | supervised {report : Report} (limit : Nat) (events : List Supervision.Event)
      (isReport : (Supervision.State.run { limit } events).bind Supervision.State.report? =
        some report) : Issued report

/-- The report on a supervised run is made of what was taken of both streams. -/
theorem final_of_report? {limit : Nat} {events : List Supervision.Event} {report : Report}
    (isReport : (Supervision.State.run { limit } events).bind Supervision.State.report? =
      some report) :
    ∃ stdout stderr ending, Final stdout stderr ending report := by
  obtain ⟨last, ran, isReport⟩ := Option.bind_eq_some_iff.mp isReport
  obtain ⟨before, event, after, between, next, -, -, notYet, stepped, reported, -⟩ :=
    Supervision.State.exists_reporting_event ran rfl isReport
  obtain ⟨ending, stdout, -, final⟩ :=
    (Supervision.State.advance_of_step stepped).makes_report notYet reported
  exact ⟨stdout, between.stderr.capture, ending, final⟩

/-- The code of a report tells whether the run failed. -/
theorem Report.Issued.code_eq_zero_iff {report : Report} (issued : report.Issued) :
    report.code = 0 ↔ report.failure? = none := by
  cases issued with
  | notLaunched message =>
      have nonzero : launchFailureCode ≠ 0 := by decide
      exact iff_of_false nonzero (by simp [failure?, ofLaunchFailure])
  | lost message elapsedMs =>
      have nonzero : supervisionFailureCode ≠ 0 := by decide
      exact iff_of_false nonzero (by simp [failure?, ofSupervisionFailure])
  | supervised limit events isReport =>
      obtain ⟨stdout, stderr, _, final⟩ := final_of_report? isReport
      cases final with
      | completed ending elapsedMs => simp [failure?, Supervision.completed]
      | stopped elapsedMs =>
          have nonzero : timeoutCode ≠ 0 := by decide
          exact iff_of_false nonzero (by simp [failure?, Supervision.stopped])

end BuildExplorer.Tool
