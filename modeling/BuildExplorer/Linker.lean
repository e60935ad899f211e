import BuildExplorer.Diagnostic.Parse
import BuildExplorer.Host.Program
import BuildExplorer.Text.Utf8

/-!
# Maps written by a linker

A linker can be asked to write a map of what it placed where.  The map is shown
line by line like any other output.
-/

namespace BuildExplorer.Linker

/-- The name of the map file. -/
def mapFileName : String :=
  "map.txt"

/-- Read the text of a map. -/
def ofMap (text : String) : List Diagnostic.Line :=
  Diagnostic.ofText none text

/-- The lines of the map in a directory, if there is one. -/
def readMap? (directory : Path) : Program (Option (List Diagnostic.Line)) := do
  match ← Program.readContents (directory.join mapFileName) with
  | .ok contents => return some (ofMap (String.ofList (Text.Utf8.decodeLossy contents)))
  | .error _ => return none

end BuildExplorer.Linker
