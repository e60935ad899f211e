import BuildExplorer.Explorer.Scratch
import BuildExplorer.Family.Environment
import BuildExplorer.Step

/-!
# Builds

What is run for a job, and how what it leaves becomes a result.  Nothing here
can fail: what goes wrong is found in the result.
-/

namespace BuildExplorer.Explorer

/-! ## Steps -/

/-- All options of the compiler; the source is the last one. -/
def compilerOptions (config : Config) (family : Family) (job : Job) : List String :=
  let libraries := config.resolveLibraries job.request.libraries
  job.info.optionArgs ++
    family.outputOptions job.request.filters job.output ++
    family.extraOptions job ++
    Family.includeOptions job.info libraries ++
    job.userOptions ++
    (if job.request.filters.binary then
      Family.libraryPathOptions job.info libraries config.settings.libDownloadPath
    else []) ++
    [job.input.text]

/-- The steps of a job. -/
def steps (config : Config) (family : Family) (job : Job) : Program (List Step) :=
  match job.request.build with
  | .single =>
      return [⟨"compile",
        job.call job.directory job.info.exe (compilerOptions config family job) []⟩]
  | .cmake => do
      let environment ← family.environment job
      let cmake := config.settings.cmake
      return [
        ⟨"cmake", job.call job.stepDirectory cmake (job.userOptions ++ [job.directory.text])
          environment⟩,
        ⟨"build", job.call job.stepDirectory cmake ["--build", "."] environment⟩]

/-! ## Outputs -/

/-- How the disassembler of a compiler is called. -/
def disassemblerOptions (job : Job) : List String :=
  ["-d", "-l", "-C"] ++ (if job.request.filters.intel then ["-M", "intel"] else []) ++
    [job.output.text]

/-- Add a listing of a linked program.  What a disassembler that fails has to
say is added to the errors. -/
def disassemble (family : Family) (job : Job) (result : Result) : Program Result :=
  match job.info.objdumper with
  | none => return result
  | some tool => do
      let report ← Program.execute
        (job.call job.stepDirectory tool (disassemblerOptions job) [])
      if report.succeeded then
        return family.addAssembly ("\n".intercalate report.stdout) job.request.filters result
      else return result.addErrors (report.stderr.map fun text => { text })

/-- Add the listing in the primary output. -/
def readListing (family : Family) (job : Job) (result : Result) : Program Result := do
  match ← Program.readContents job.output with
  | .error _ => return result
  | .ok contents =>
      let text := String.ofList (Text.Utf8.decodeLossy contents)
      return family.addAssembly text job.request.filters result

/-- Add what the primary output shows, if there is one. -/
def addOutput (family : Family) (job : Job) (result : Result) : Program Result := do
  if ← Program.isFile job.output then
    if job.request.filters.binary then disassemble family job result
    else readListing family job result
  else return result

/-- Add what was found when all steps were over. -/
def collect (family : Family) (job : Job) (result : Result) : Program Result := do
  let result ← addOutput family job result
  let result ← family.addDerived job result
  let known ← Artifact.probe job.stepDirectory Artifact.knownNames
  let result := result.addArtifacts known
  let own ← family.artifacts job result
  return result.addArtifacts own

/-- Build a job. -/
def build (config : Config) (family : Family) (job : Job) : Program Result := do
  let inputName := some job.input.text
  let start := Result.start inputName (compilerOptions config family job)
  let steps ← steps config family job
  let policy := job.info.failurePolicy.getD family.failurePolicy
  let (result, _) ←
    Step.runAll { family, inputName, auditLog := job.auditLog } policy start steps
  collect family job result

end BuildExplorer.Explorer
