import BuildExplorer.Host.Program
import BuildExplorer.Text.Utf8

/-!
# Files that hold text
-/

namespace BuildExplorer

/-- The text that bytes stand for. -/
def Host.textOfBytes (contents : Host.Bytes) : Except Host.Fault String :=
  match Text.Utf8.decode? contents with
  | some text => .ok (String.ofList text)
  | none => .error .notText

/-- Read a file that holds text. -/
def Program.readText (path : Path) : Program (Except Host.Fault String) := do
  return (← Program.readContents path).bind Host.textOfBytes

end BuildExplorer
