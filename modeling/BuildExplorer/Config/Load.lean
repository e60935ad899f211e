import BuildExplorer.Config.Toml
import BuildExplorer.Host.TextFile

/-!
# Loading configurations
-/

namespace BuildExplorer

/-- The wording of an error.  How exactly a text is malformed is not told. -/
def ConfigError.message : ConfigError → String
  | .malformed => "TOML parse error"
  | .duplicateCompiler id => "duplicate compiler id " ++ id

namespace Config

/-- Why a configuration is not loaded. -/
inductive LoadError where
  | unreadable (path : Path) (fault : Host.Fault)
  | unusable (path : Path) (error : ConfigError)
  deriving DecidableEq, Repr

/-- The wording of an error. -/
def LoadError.message : LoadError → String
  | .unreadable path fault => "read config " ++ path.text ++ ": " ++ fault.message
  | .unusable path error => "parse config " ++ path.text ++ ": " ++ error.message

/-- Load the configuration in a file. -/
def load (path : Path) : Program (Except LoadError Config) := do
  match ← Program.readText path with
  | .error fault => return .error (.unreadable path fault)
  | .ok text =>
      match ofToml text with
      | .error error => return .error (.unusable path error)
      | .ok config => return .ok config

end Config

end BuildExplorer
