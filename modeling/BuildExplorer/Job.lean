import BuildExplorer.Config
import BuildExplorer.Tool.Basic

/-!
# Jobs

A request becomes a job when its compiler, its language and its scratch
directory are known.
-/

namespace BuildExplorer

/-- A request together with where and how it is built. -/
structure Job where
  info : CompilerInfo
  request : Request
  language : Language
  /-- The scratch directory of the request. -/
  directory : Path
  /-- Where the last step runs, and where the primary output is. -/
  stepDirectory : Path
  input : Path
  output : Path
  /-- The options of the user that were let through. -/
  userOptions : List String
  timeoutMs : UInt64
  maxOutputBytes : UInt64
  /-- Where runs of tools are recorded. -/
  auditLog : Option Path := none

namespace Job

/-- Where a compiler is asked to leave its remarks. -/
def remarksPath (job : Job) : Path :=
  job.directory.join "output.opt.yaml"

/-- A call in a directory, within the limits of the job. -/
def call (job : Job) (directory command : Path) (args : List String)
    (environment : List (String × String)) : Tool.Call where
  command := command
  args := args
  directory := some directory
  environment := environment
  timeoutMs := job.timeoutMs
  maxOutputBytes := job.maxOutputBytes

/-- Is an option given, by the configuration or by the user? -/
def hasOption (job : Job) (option : String) : Bool :=
  job.info.optionArgs.contains option || job.userOptions.contains option

end Job

end BuildExplorer
