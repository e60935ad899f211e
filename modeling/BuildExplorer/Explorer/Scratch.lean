import BuildExplorer.Audit.Log
import BuildExplorer.Explorer.Basic
import BuildExplorer.Job

/-!
# Scratch directories

The source and the extra files of a request are written into a directory of its
own before anything is run.
-/

namespace BuildExplorer

/-- The directory in which CMake builds, inside of the scratch directory. -/
def buildDirectoryName : String :=
  "build"

namespace Explorer

/-- Write a file. -/
def writeText (path : Path) (text : String) : Program (Except SetupError Unit) := do
  match ← Program.writeContents path (Text.Utf8.encode text.toList) with
  | .error fault => return .error (.notWritten path fault)
  | .ok () => return .ok ()

/-- Write extra files, each after the directories that lead to it. -/
def writeFiles (directory : Path) : List ExtraFile → Program (Except SetupError Unit)
  | [] => return .ok ()
  | file :: rest => do
      let path := directory.join file.name
      match ← Audit.makeParent path with
      | .error fault => return .error (.noDirectory fault)
      | .ok () =>
          match ← writeText path file.contents with
          | .error error => return .error error
          | .ok () => writeFiles directory rest

/-- Make the directory in which the last step runs. -/
def makeStepDirectory (directory : Path) : BuildKind → Program (Except SetupError Path)
  | .single => return .ok directory
  | .cmake => do
      let path := directory.join buildDirectoryName
      match ← Program.createDirectories path with
      | .error fault => return .error (.noBuildDirectory path fault)
      | .ok () => return .ok path

/-- The job of a request whose last step runs in a directory. -/
def job (explorer : Explorer) (accepted : Accepted) (request : Request)
    (userOptions : List String) (directory stepDirectory : Path) : Job where
  info := accepted.info
  request := request
  language := accepted.language
  directory := directory
  stepDirectory := stepDirectory
  input := directory.join accepted.language.sourceName
  output := stepDirectory.join request.outputName
  userOptions := userOptions
  timeoutMs := explorer.config.timeoutMs accepted.info
  maxOutputBytes := explorer.config.settings.maxOutputBytes
  auditLog := explorer.auditLog

/-- Fill the scratch directory of a request. -/
def prepare (explorer : Explorer) (accepted : Accepted) (request : Request)
    (userOptions : List String) (directory : Path) : Program (Except SetupError Job) := do
  match ← writeText (directory.join accepted.language.sourceName) request.source with
  | .error error => return .error error
  | .ok () =>
      match ← writeFiles directory request.files with
      | .error error => return .error error
      | .ok () =>
          match ← makeStepDirectory directory request.build with
          | .error error => return .error error
          | .ok stepDirectory =>
              return .ok (explorer.job accepted request userOptions directory stepDirectory)

end Explorer

end BuildExplorer
