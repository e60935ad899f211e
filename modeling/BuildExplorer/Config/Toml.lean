import BuildExplorer.Config.Coding
import BuildExplorer.Toml.Document

/-!
# Configuration files
-/

namespace BuildExplorer

/-- Why a text is no configuration. -/
inductive ConfigError where
  /-- It cannot be read at all. -/
  | malformed
  | duplicateCompiler (id : String)
  deriving DecidableEq, Repr

/-- An empty collection says nothing. -/
def Config.isEmptyCollection : Json → Bool
  | .array [] => true
  | .object [] => true
  | _ => false

/-- The manner of configuration files. -/
def Config.fileManner : Json.Manner :=
  ⟨Config.isEmptyCollection, true⟩

/-- Check that each identifier stands for one compiler. -/
def Config.check (config : Config) : Except ConfigError Config :=
  match config.duplicateId? with
  | some id => .error (.duplicateCompiler id)
  | none => .ok config

/-- Read a configuration. -/
def Config.ofToml (text : String) : Except ConfigError Config :=
  match (Toml.parse text).bind (Config.ofJson? Config.fileManner) with
  | some config => config.check
  | none => .error .malformed

end BuildExplorer
