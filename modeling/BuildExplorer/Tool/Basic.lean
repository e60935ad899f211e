import BuildExplorer.Path

/-!
# Runs of tools

Every tool runs as a process of its own.  A run is asked for by a `Call` and
ends in a `Report`, whatever happens: a tool that cannot be started, or that
does not stop in time, is reported like one that fails.
-/

namespace BuildExplorer.Tool

/-- What is run, and within which limits. -/
structure Call where
  command : Path
  args : List String := []
  /-- Where it runs, if not in the directory of the caller. -/
  directory : Option Path := none
  /-- Variables that are set on top of those of the caller. -/
  environment : List (String × String) := []
  timeoutMs : UInt64 := 10000
  /-- How much of each output stream is kept. -/
  maxOutputBytes : UInt64 := 65536
  deriving DecidableEq, Repr

/-- How a run ended. -/
structure Report where
  code : Int32 := 0
  stdout : List String := []
  stderr : List String := []
  timedOut : Bool := false
  /-- Why the tool could not be started. -/
  launchFailure : Option String := none
  /-- Why the tool was lost after its start. -/
  supervisionFailure : Option String := none
  /-- Was a stream longer than what is kept of it? -/
  truncated : Bool := false
  elapsedMs : UInt64 := 0
  deriving DecidableEq, Repr

/-- Why a run counts as failed. -/
inductive Failure where
  | launch (message : String)
  | supervision (message : String)
  | timeout
  | exit (code : Int32)
  deriving DecidableEq, Repr

/-- The code of a tool that was never started. -/
def launchFailureCode : Int32 := -1

/-- The code of a tool that was stopped at its deadline. -/
def timeoutCode : Int32 := 124

/-- The code of a tool that was lost after its start. -/
def supervisionFailureCode : Int32 := 125

/-- What ends the errors of a tool that was stopped at its deadline. -/
def timeoutLine : String :=
  "Killed - processing time exceeded"

/-- What ends a stream that was longer than what is kept of it. -/
def truncatedLine : String :=
  "[Truncated]"

/-- The report on a tool that was never started. -/
def Report.ofLaunchFailure (message : String) : Report where
  code := launchFailureCode
  stderr := [message]
  launchFailure := some message

/-- The report on a tool that was lost after its start. -/
def Report.ofSupervisionFailure (message : String) (elapsedMs : UInt64) : Report where
  code := supervisionFailureCode
  stderr := [message]
  supervisionFailure := some message
  elapsedMs := elapsedMs

/-- Why the run counts as failed, if it does.  What went wrong first counts for
more than what followed from it. -/
def Report.failure? (report : Report) : Option Failure :=
  match report.launchFailure, report.supervisionFailure with
  | some message, _ => some (.launch message)
  | none, some message => some (.supervision message)
  | none, none =>
      if report.timedOut then some .timeout
      else if report.code != 0 then some (.exit report.code)
      else none

/-- Did the run end as it should? -/
def Report.succeeded (report : Report) : Bool :=
  report.failure?.isNone

/-- How a failure is described in a log. -/
def Failure.describe : Failure → String
  | .launch message => "launch failure: " ++ message
  | .supervision message => "lost track of process: " ++ message
  | .timeout => "timed out"
  | .exit code => "exit code " ++ code.toInt.repr

end BuildExplorer.Tool
