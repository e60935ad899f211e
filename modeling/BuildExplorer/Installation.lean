import BuildExplorer.Audit.Log
import BuildExplorer.Text.Blank
import BuildExplorer.Text.Replace

/-!
# Installations of tools

The tools of an installation stand together in the directory `bin` below its
base.
-/

namespace BuildExplorer

/-- An installation, given by its base. -/
structure Installation where
  base : Path
  deriving DecidableEq, Repr

namespace Installation

/-- Why there is no installation, or no tool in it. -/
inductive Error where
  | emptyBase
  | emptyName
  | badName
  deriving DecidableEq, Repr

/-- The wording of an error. -/
def Error.message : Error → String
  | .emptyBase => "toolchain directory cannot be empty"
  | .emptyName => "tool name cannot be empty"
  | .badName => "invalid tool name"

/-- The installation at a base. -/
def ofBase (base : Path) : Except Error Installation :=
  if base.text.isEmpty then .error .emptyBase else .ok ⟨base⟩

/-- The installation that a compiler belongs to, from the path of its program. -/
def ofCompiler? (exe : Path) : Option Installation := do
  let tools ← exe.parent?
  let base ← tools.parent?
  (ofBase base).toOption

/-- The path of a tool. -/
def toolPath (installation : Installation) (name : String) : Except Error Path :=
  let chars := name.toList
  if Text.allBlank chars then .error .emptyName
  else if chars.contains '/' || Text.occursIn ['.', '.'] chars then .error .badName
  else .ok ((installation.base.join "bin").join name)

/-- The path of a tool that is there; the search leaves a record. -/
def existingTool? (log : Option Path) (installation : Installation) (name : String) :
    Program (Option Path) := do
  match installation.toolPath name with
  | .error _ => return none
  | .ok path =>
      if ← Program.isFile path then
        Audit.log log {
          level := .debug, toolchain := "toolchain", command := path, args := [],
          message := "resolve" }
        return some path
      else return none

end Installation

end BuildExplorer
