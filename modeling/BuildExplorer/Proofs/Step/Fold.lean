import BuildExplorer.Proofs.Program.Plain
import BuildExplorer.Proofs.Result.Record
import BuildExplorer.Step

/-!
# Running steps in order

A run of steps is described by the answers of the host to each of them: the
report on the tool, and the lines that the tool left in files.  Which steps are
executed depends on the policy and the reports alone.  The executed steps are
recorded in the result and nothing else changes it.
-/

namespace BuildExplorer.Step

variable {World : Type}

/-! ## Answers -/

/-- What a host answers to a step. -/
structure Answer where
  report : Tool.Report
  /-- The lines that the step has left in files. -/
  lines : List Diagnostic.Line

/-- The lines that a step leaves are looked for where it ran. -/
def leftLines (setting : Setting) (step : Step) : Program (List Diagnostic.Line) :=
  setting.family.stepLines step.name (step.call.directory.getD ⟨"."⟩)

/-- The answer of a host to a step. -/
def answer (host : Host World) (setting : Setting) (step : Step) (world : World) : Answer where
  report := (host (.execute step.call) world).1
  lines := ((leftLines setting step).run host (host (.execute step.call) world).2).1

/-- The answers of a host to steps that are run one behind the other. -/
def answers (host : Host World) (setting : Setting) : World → List Step → List Answer
  | _, [] => []
  | world, step :: rest =>
      step.answer host setting world ::
        answers host setting ((step.run setting).run host world).2 rest

@[simp]
theorem length_answers (host : Host World) (setting : Setting) (world : World)
    (steps : List Step) : (answers host setting world steps).length = steps.length := by
  induction steps generalizing world with
  | nil => rfl
  | cons step rest inductionHypothesis => simp [answers, inductionHypothesis]

/-! ## One step -/

/-- What is kept of a step, by the answer to it. -/
def resultOf (setting : Setting) (step : Step) (answer : Answer) : StepResult :=
  step.result setting.inputName answer.report answer.lines

/-- Whether a step failed is told by the report alone. -/
theorem failed_resultOf (setting : Setting) (step : Step) (answer : Answer) :
    (step.resultOf setting answer).failed = answer.report.failure?.isSome := by
  rcases answer with ⟨⟨code, stdout, stderr, timedOut, launch, supervision, _, _⟩, lines⟩
  cases launch <;> cases supervision <;> cases timedOut <;> by_cases zero : code = 0 <;>
    simp [resultOf, result, StepResult.ofReport, StepResult.failed, StepResult.wasLost,
      Tool.Report.failure?, zero]

/-- Whether the tool of a step ran to its end is told by what is kept of it. -/
theorem stopped_resultOf (setting : Setting) (step : Step) (answer : Answer) :
    ((step.resultOf setting answer).timedOut || (step.resultOf setting answer).wasLost) =
      !answer.report.ranToEnd := by
  rcases answer with ⟨⟨code, stdout, stderr, timedOut, launch, supervision, _, _⟩, lines⟩
  cases launch <;> cases supervision <;> cases timedOut <;> rfl

/-- A step is one invocation of its tool; the lines are read and the record is
written without another. -/
theorem invocations_run (host : Host World) (setting : Setting) (step : Step) (world : World) :
    (step.run setting).invocations host world =
      [⟨step.call, (step.answer host setting world).report⟩] := by
  unfold run
  rw [Program.invocations_bind, Program.invocations_bind, Program.invocations_bind]
  rw [Program.invocations_execute, (Family.stepLines_looks none _ _ _).invocations,
    (Audit.log_looks _ _).invocations]
  rfl

/-- A step comes to what is kept of the answer to it. -/
theorem run_run (host : Host World) (setting : Setting) (step : Step) (world : World) :
    ((step.run setting).run host world).1 =
      step.resultOf setting (step.answer host setting world) := by
  unfold run
  simp only [Program.run_bind, Program.run_pure]
  rfl

/-! ## All steps -/

/-- How many steps are executed, by the reports on all of them.  Under the policy
to abort these are the steps up to the first that failed. -/
def executedCount (policy : FailurePolicy) (reports : List Tool.Report) : Nat :=
  match policy with
  | .proceed => reports.length
  | .abort => min reports.length (reports.findIdx (·.failure?.isSome) + 1)

theorem executedCount_cons (policy : FailurePolicy) (report : Tool.Report)
    (reports : List Tool.Report) :
    executedCount policy (report :: reports) =
      if report.failure?.isSome && policy = .abort then 1
      else executedCount policy reports + 1 := by
  cases policy with
  | proceed => simp [executedCount]
  | abort =>
      by_cases failed : report.failure?.isSome = true
      · simp [executedCount, List.findIdx_cons, failed]
      · simp [executedCount, List.findIdx_cons, failed]

theorem executedCount_le (policy : FailurePolicy) (reports : List Tool.Report) :
    executedCount policy reports ≤ reports.length := by
  cases policy with
  | proceed => exact Nat.le_refl _
  | abort => exact Nat.min_le_left _ _

/-- All steps are executed, or the policy is to abort and the last executed step has
failed. -/
theorem executedCount_ends (policy : FailurePolicy) (reports : List Tool.Report) :
    executedCount policy reports = reports.length ∨
      policy = .abort ∧ ∃ report, (reports.take (executedCount policy reports)).getLast? =
        some report ∧ report.failure?.isSome = true := by
  induction reports with
  | nil =>
      left
      cases policy <;> rfl
  | cons report reports inductionHypothesis =>
      rw [executedCount_cons]
      by_cases stops : (report.failure?.isSome && policy = .abort) = true
      · right
        rw [if_pos stops]
        simp only [Bool.and_eq_true, decide_eq_true_eq] at stops
        exact ⟨stops.2, report, rfl, stops.1⟩
      · rw [if_neg stops]
        rcases inductionHypothesis with all | ⟨aborts, last, isLast, failed⟩
        · left
          rw [all, List.length_cons]
        · right
          refine ⟨aborts, last, ?_, failed⟩
          rw [List.take_succ_cons, List.getLast?_cons, isLast]
          rfl

/-- What is kept of steps, by the answers to them. -/
def resultsOf (setting : Setting) (steps : List Step) (answers : List Answer) :
    List StepResult :=
  (steps.zip answers).map fun (step, answer) => step.resultOf setting answer

/-- The invocations that steps make, by the answers to them. -/
def invocationsOf (steps : List Step) (answers : List Answer) : List Tool.Invocation :=
  (steps.zip answers).map fun (step, answer) => ⟨step.call, answer.report⟩

/-- The run of a list of steps records the executed steps, and counts them. -/
theorem run_runAll (host : Host World) (setting : Setting) (policy : FailurePolicy)
    (initial : Result) (steps : List Step) (world : World) :
    let given := answers host setting world steps
    let count := executedCount policy (given.map (·.report))
    ((runAll setting policy initial steps).run host world).1 =
      (initial.recordAll ((resultsOf setting steps given).take count), count) := by
  induction steps generalizing initial world with
  | nil => cases policy <;> rfl
  | cons step rest inductionHypothesis =>
      simp only [answers, List.map_cons, executedCount_cons, runAll, Program.run_bind, run_run,
        failed_resultOf]
      by_cases stops :
          ((step.answer host setting world).report.failure?.isSome && policy = .abort) = true
      · rw [if_pos stops, if_pos stops]
        rfl
      · rw [if_neg stops, if_neg stops]
        have later := inductionHypothesis (initial.record (step.resultOf setting
          (step.answer host setting world))) ((step.run setting).run host world).2
        simp only [Program.run_bind, Program.run_pure, later]
        rfl

/-- The tools that a list of steps runs are those of the executed steps. -/
theorem invocations_runAll (host : Host World) (setting : Setting) (policy : FailurePolicy)
    (initial : Result) (steps : List Step) (world : World) :
    let given := answers host setting world steps
    let count := executedCount policy (given.map (·.report))
    (runAll setting policy initial steps).invocations host world =
      (invocationsOf steps given).take count := by
  induction steps generalizing initial world with
  | nil => cases policy <;> rfl
  | cons step rest inductionHypothesis =>
      simp only [answers, List.map_cons, executedCount_cons, runAll, Program.invocations_bind,
        invocations_run, run_run, failed_resultOf]
      by_cases stops :
          ((step.answer host setting world).report.failure?.isSome && policy = .abort) = true
      · rw [if_pos stops, if_pos stops]
        rfl
      · rw [if_neg stops, if_neg stops]
        have later := inductionHypothesis (initial.record (step.resultOf setting
          (step.answer host setting world))) ((step.run setting).run host world).2
        simp only [Program.invocations_bind, later]
        simp [invocationsOf]

theorem map_call_take_invocationsOf (steps : List Step) (answers : List Answer)
    (sameLength : answers.length = steps.length) (count : Nat) :
    ((invocationsOf steps answers).take count).map (·.call) =
      (steps.take count).map (·.call) := by
  have callsOfAll : (invocationsOf steps answers).map (·.call) = steps.map (·.call) := by
    calc
      (invocationsOf steps answers).map (·.call) =
          ((steps.zip answers).map Prod.fst).map (·.call) := by simp [invocationsOf]
      _ = steps.map (·.call) := by rw [List.map_fst_zip (Nat.le_of_eq sameLength.symm)]
  rw [List.map_take, callsOfAll, List.map_take]

theorem map_report_take_invocationsOf (steps : List Step) (answers : List Answer)
    (sameLength : answers.length = steps.length) (count : Nat) :
    ((invocationsOf steps answers).take count).map (·.report) =
      (answers.take count).map (·.report) := by
  have reportsOfAll : (invocationsOf steps answers).map (·.report) = answers.map (·.report) := by
    calc
      (invocationsOf steps answers).map (·.report) =
          ((steps.zip answers).map Prod.snd).map (·.report) := by simp [invocationsOf]
      _ = answers.map (·.report) := by rw [List.map_snd_zip (Nat.le_of_eq sameLength)]
  rw [List.map_take, reportsOfAll, List.map_take]

/-- A run of steps shows a process failure exactly if it did so before, or if a
tool of an executed step did not run to its end. -/
theorem hasProcessFailure_run_runAll (host : Host World) (setting : Setting)
    (policy : FailurePolicy) (initial : Result) (steps : List Step) (world : World) :
    ((runAll setting policy initial steps).run host world).1.1.hasProcessFailure =
      (initial.hasProcessFailure ||
        ((runAll setting policy initial steps).invocations host world).any
          (!·.report.ranToEnd)) := by
  rw [run_runAll, invocations_runAll, Result.hasProcessFailure_recordAll, resultsOf,
    invocationsOf, ← List.map_take, ← List.map_take, List.any_map, List.any_map]
  congr 2
  funext ⟨step, answer⟩
  exact stopped_resultOf setting step answer

/-- The code of a run of steps is the first other than zero that was there before or
that a tool of an executed step was reported with. -/
theorem code_run_runAll (host : Host World) (setting : Setting) (policy : FailurePolicy)
    (initial : Result) (steps : List Step) (world : World) :
    ((runAll setting policy initial steps).run host world).1.1.code =
      Result.firstCode (initial.code ::
        ((runAll setting policy initial steps).invocations host world).map (·.report.code)) := by
  have sameCodes : ∀ answers : List Answer, (resultsOf setting steps answers).map (·.code) =
      (invocationsOf steps answers).map (·.report.code) := by
    intro answers
    rw [resultsOf, invocationsOf, List.map_map, List.map_map]
    rfl
  rw [run_runAll, invocations_runAll, Result.recordAll_eq]
  simp only [List.map_take, sameCodes]

/-! ## The whole -/

/-- A run of steps hands exactly the executed steps to their tools, each once and
in order, and folds what is kept of them into the result.  The executed steps are
all steps or, under the policy to abort, those up to the first whose report shows
a failure; the lines that a step left in files have no say in this. -/
theorem runAll_folds_executed_steps (host : Host World) (setting : Setting)
    (policy : FailurePolicy) (initial : Result) (steps : List Step) (world : World) :
    let given := answers host setting world steps
    let count := executedCount policy (given.map (·.report))
    let executed := (resultsOf setting steps given).take count
    let invocations := (runAll setting policy initial steps).invocations host world
    let (final, ran) := ((runAll setting policy initial steps).run host world).1
    invocations.map (·.call) = (steps.take count).map (·.call) ∧
      invocations.map (·.report) = (given.take count).map (·.report) ∧
      ran = count ∧
      final = { initial with
        code := Result.firstCode (initial.code :: executed.map (·.code))
        timedOut := initial.timedOut || executed.any (·.timedOut)
        elapsedMs := Result.totalTime (initial.elapsedMs :: executed.map (·.elapsedMs))
        stdout := initial.stdout ++ executed.flatMap (·.stdout)
        stderr := initial.stderr ++ executed.flatMap (·.stderr)
        steps := initial.steps ++ executed } ∧
      final.hasProcessFailure =
        (initial.hasProcessFailure || invocations.any (!·.report.ranToEnd)) := by
  intro given count executed invocations
  have sameLength : given.length = steps.length := length_answers host setting world steps
  have runs : ((runAll setting policy initial steps).run host world).1 =
      (initial.recordAll executed, count) := run_runAll host setting policy initial steps world
  have invokes : invocations = (invocationsOf steps given).take count :=
    invocations_runAll host setting policy initial steps world
  have failure := hasProcessFailure_run_runAll host setting policy initial steps world
  rw [runs] at failure ⊢
  refine ⟨?_, ?_, rfl, Result.recordAll_eq initial executed, failure⟩
  · rw [invokes]
    exact map_call_take_invocationsOf steps given sameLength count
  · rw [invokes]
    exact map_report_take_invocationsOf steps given sameLength count

end BuildExplorer.Step
