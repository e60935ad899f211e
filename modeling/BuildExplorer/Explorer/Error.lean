import BuildExplorer.Guard
import BuildExplorer.Host.Fault
import BuildExplorer.Path

/-!
# Why a request is not built

A request is refused, or its scratch directory cannot be set up.  What tools do
wrong is no error: it is part of the result.
-/

namespace BuildExplorer

/-- Why no tool was run for a request. -/
inductive SetupError where
  | unknownCompiler (id : String)
  | unknownFamily (id family : String)
  | unknownLanguage (id lang : String)
  | badFileName (error : Guard.FileNameError)
  /-- There is no list of targets for CMake. -/
  | noTargets
  | noCache (directory : Path) (fault : Host.Fault)
  | noScratch (fault : Host.Fault)
  /-- The directory of an extra file could not be made. -/
  | noDirectory (fault : Host.Fault)
  | noBuildDirectory (path : Path) (fault : Host.Fault)
  | notWritten (path : Path) (fault : Host.Fault)
  deriving DecidableEq, Repr

/-- The file in which CMake looks for targets. -/
def targetsFileName : String :=
  "CMakeLists.txt"

/-- The wording of an unknown family. -/
def unknownFamilyMessage (family : String) : String :=
  "Unknown toolchain family " ++ family

/-- The wording of an unknown compiler. -/
def unknownCompilerMessage (id : String) : String :=
  "unknown compiler " ++ id

/-- The wording of an error. -/
def SetupError.message : SetupError → String
  | .unknownCompiler id => unknownCompilerMessage id
  | .unknownFamily id family => "compiler " ++ id ++ ": " ++ unknownFamilyMessage family
  | .unknownLanguage id lang => "compiler " ++ id ++ " has unknown language " ++ lang
  | .badFileName error => error.message
  | .noTargets => "cmake build requires a " ++ targetsFileName
  | .noCache directory fault => "create cache directory " ++ directory.text ++ ": " ++ fault.message
  | .noScratch fault => "create scratch directory: " ++ fault.message
  | .noDirectory fault => fault.message
  | .noBuildDirectory path fault => "create " ++ path.text ++ ": " ++ fault.message
  | .notWritten path fault => "write " ++ path.text ++ ": " ++ fault.message

end BuildExplorer
