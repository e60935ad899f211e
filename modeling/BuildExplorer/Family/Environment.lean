import BuildExplorer.Family.Options
import BuildExplorer.Installation

/-!
# Variables for build systems

A build system that runs the compiler learns of it by variables.
-/

namespace BuildExplorer.Family

/-- The tools beside a cc65 compiler, and the variables that name them. -/
def cc65Tools : List (String × String) :=
  [("LD", "ld65"), ("AR", "ar65"), ("AS", "as65")]

/-- The variables for those tools that are installed. -/
def toolVariables (log : Option Path) (installation : Installation) :
    List (String × String) → Program (List (String × String))
  | [] => return []
  | (name, tool) :: rest => do
      let found ← installation.existingTool? log tool
      let others ← toolVariables log installation rest
      return (found.toList.map fun path => (name, path.text)) ++ others

/-- The flags of a cc65 compiler in one text. -/
def cc65Flags (job : Job) : String :=
  String.ofList (Text.trim
    (job.info.options ++ " " ++ " ".intercalate job.userOptions).toList)

/-- The variables for a build system. -/
def environment (family : Family) (job : Job) : Program (List (String × String)) :=
  match family with
  | .standard | .clang =>
      return [(if job.language.id = "c++" then "CXX" else "CC", job.info.exe.text)]
  | .cc65 => do
      let own := [("CC", job.info.exe.text), ("CFLAGS", cc65Flags job)]
      match Installation.ofCompiler? job.info.exe with
      | none => return own
      | some installation =>
          return own ++ (← toolVariables job.auditLog installation cc65Tools)
  | .rustc => return []

end BuildExplorer.Family
