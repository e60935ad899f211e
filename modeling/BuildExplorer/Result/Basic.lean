import BuildExplorer.Artifact
import BuildExplorer.DeviceBundle
import BuildExplorer.Diagnostic.Basic
import BuildExplorer.Listing.Basic
import BuildExplorer.Remark.Basic

/-!
# Results of builds

A result collects what the steps of a build have said and what was found when
they were over.  It only grows: no operation takes away what was recorded.
-/

namespace BuildExplorer

/-- What is kept of one step of a build. -/
structure StepResult where
  /-- The name of the step. -/
  step : String
  command : String
  args : List String
  code : Int32
  timedOut : Bool
  launchFailure : Option String := none
  supervisionFailure : Option String := none
  stdout : List Diagnostic.Line
  stderr : List Diagnostic.Line
  elapsedMs : UInt64
  deriving DecidableEq, Repr

/-- What is kept of the report on a step, whose lines have been read as
diagnostics. -/
def StepResult.ofReport (step command : String) (args : List String) (report : Tool.Report)
    (stdout stderr : List Diagnostic.Line) : StepResult where
  step := step
  command := command
  args := args
  code := report.code
  timedOut := report.timedOut
  launchFailure := report.launchFailure
  supervisionFailure := report.supervisionFailure
  stdout := stdout
  stderr := stderr
  elapsedMs := report.elapsedMs

/-- Did the step never come to an end of its own? -/
def StepResult.wasLost (step : StepResult) : Bool :=
  step.launchFailure.isSome || step.supervisionFailure.isSome

/-- Did the step fail? -/
def StepResult.failed (step : StepResult) : Bool :=
  step.code != 0 || step.timedOut || step.wasLost

/-- The result of a build. -/
structure Result where
  code : Int32 := 0
  timedOut : Bool := false
  stdout : List Diagnostic.Line := []
  stderr : List Diagnostic.Line := []
  listing : List Listing.Line := []
  /-- The listings for devices beside the host. -/
  devices : Option (DeviceBundle.PerTarget (List Listing.Line)) := none
  artifacts : List Artifact := []
  /-- Where the optimization remarks were looked for. -/
  remarksPath : Option Path := none
  remarks : Option (List Remark) := none
  macroExpansion : Option (List Diagnostic.Line) := none
  steps : List StepResult := []
  inputName : Option String := none
  /-- The options that the compiler was given. -/
  options : List String := []
  elapsedMs : UInt64 := 0

/-- The sum of two times, or the longest time if that is exceeded. -/
def addTimes (first second : UInt64) : UInt64 :=
  UInt64.ofNat (min (first.toNat + second.toNat) (twoTo 64 - 1))

namespace Result

/-- The result of a build before its first step. -/
def start (inputName : Option String) (options : List String) : Result :=
  { inputName, options }

/-- Record a step.  The first code other than zero counts, and so does every
deadline that was missed. -/
def record (result : Result) (step : StepResult) : Result :=
  { result with
    code := if result.code = 0 then step.code else result.code
    timedOut := result.timedOut || step.timedOut
    elapsedMs := addTimes result.elapsedMs step.elapsedMs
    stdout := result.stdout ++ step.stdout
    stderr := result.stderr ++ step.stderr
    steps := result.steps ++ [step] }

def addArtifacts (result : Result) (artifacts : List Artifact) : Result :=
  { result with artifacts := result.artifacts ++ artifacts }

def addListing (result : Result) (lines : List Listing.Line) : Result :=
  { result with listing := result.listing ++ lines }

def addErrors (result : Result) (lines : List Diagnostic.Line) : Result :=
  { result with stderr := result.stderr ++ lines }

/-- Was an option given to the compiler? -/
def hasOption (result : Result) (option : String) : Bool :=
  result.options.contains option

/-- Is there a recorded step that never came to an end of its own, or that was
stopped at its deadline? -/
def hasProcessFailure (result : Result) : Bool :=
  result.timedOut || result.steps.any StepResult.wasLost

end Result

end BuildExplorer
