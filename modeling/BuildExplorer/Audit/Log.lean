import BuildExplorer.Audit
import BuildExplorer.Host.Program
import BuildExplorer.Text.Utf8

/-!
# The audit log

Records are written behind each other into a file, each with the time.  A log
that cannot be written is no reason for anything else to fail.
-/

namespace BuildExplorer.Audit

/-- Make the directory of a path. -/
def makeParent (path : Path) : Program (Except Host.Fault Unit) :=
  match path.parent? with
  | none => return .ok ()
  | some directory => Program.createDirectories directory

/-- Write a record to the log at a path. -/
def appendTo (path : Path) (record : Record) : Program Unit := do
  match ← makeParent path with
  | .error _ => return ()
  | .ok () =>
      let stamp ← Program.timeStamp
      let line := stamp ++ " " ++ record.text ++ "\n"
      let _ ← Program.appendContents path (Text.Utf8.encode line.toList)
      return ()

/-- Write a record to the log, if there is one. -/
def log (path : Option Path) (record : Record) : Program Unit :=
  match path with
  | none => return ()
  | some path => appendTo path record

end BuildExplorer.Audit
