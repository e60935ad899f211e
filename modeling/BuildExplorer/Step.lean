import BuildExplorer.Family.Outputs

/-!
# Steps of builds

A build runs its steps in order.  Each step is one run of a tool, whose lines
are read as diagnostics and recorded in the result.
-/

namespace BuildExplorer

/-- A step of a build. -/
structure Step where
  name : String
  call : Tool.Call
  deriving DecidableEq, Repr

/-- What the steps of one build share. -/
structure Step.Setting where
  family : Family
  /-- The name that stands for the source in the lines of a tool. -/
  inputName : Option String := none
  /-- Where runs of tools are recorded. -/
  auditLog : Option Path := none

namespace Step

/-- The record of a step in the audit log. -/
def record (step : Step) (family : Family) (report : Tool.Report) : Audit.Record where
  level := if report.succeeded then .info else .warn
  toolchain := family.key
  command := step.call.command
  args := step.call.args
  message :=
    match report.failure? with
    | none => step.name ++ " ok"
    | some failure => step.name ++ " failed: " ++ failure.describe

/-- What is kept of a step that ended with a report and left lines in files. -/
def result (step : Step) (inputName : Option String) (report : Tool.Report)
    (lines : List Diagnostic.Line) : StepResult :=
  StepResult.ofReport step.name step.call.command.text step.call.args report
    (Diagnostic.ofLines inputName report.stdout)
    (Diagnostic.ofLines inputName report.stderr ++ lines)

/-- Run a step. -/
def run (setting : Setting) (step : Step) : Program StepResult := do
  let report ← Program.execute step.call
  let lines ← setting.family.stepLines step.name (step.call.directory.getD ⟨"."⟩)
  Audit.log setting.auditLog (step.record setting.family report)
  return step.result setting.inputName report lines

/-- Run steps in order and record them; the number of those that were run is
given back, too.  Behind a failed step the others are skipped if the policy is
to abort. -/
def runAll (setting : Setting) (policy : FailurePolicy) (result : Result) :
    List Step → Program (Result × Nat)
  | [] => return (result, 0)
  | step :: rest => do
      let outcome ← step.run setting
      let result := result.record outcome
      if outcome.failed && policy = .abort then return (result, 1)
      else
        let (result, count) ← runAll setting policy result rest
        return (result, count + 1)

end Step

end BuildExplorer
