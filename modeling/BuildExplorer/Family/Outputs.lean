import BuildExplorer.Audit.Log
import BuildExplorer.Diagnostic.Parse
import BuildExplorer.Family.Options
import BuildExplorer.Host.TextFile
import BuildExplorer.Linker
import BuildExplorer.Listing.Parse
import BuildExplorer.Remark.Body
import BuildExplorer.Remark.Stream
import BuildExplorer.Result.Basic

/-!
# What compilers leave behind

How the output of a family of compilers becomes a part of a result: listings of
the host and of devices, the map of a linker, remarks, expanded macros, and
artifacts.
-/

namespace BuildExplorer.Family

/-! ## Listings -/

/-- Add the listings of a bundle; without a host the whole text is the listing
of the host. -/
def addBundle (text : String) (filters : Filters) (sections : DeviceBundle.Sections)
    (result : Result) : Result :=
  let host := DeviceBundle.hostTarget sections
  let hostText := (host.bind fun target => sections.lookup target).getD text
  let devices := sections.filter fun (target, _) => some target != host
  { result.addListing (Listing.ofText hostText filters) with
    devices := some (devices.map fun (target, body) => (target, Listing.ofText body filters)) }

/-- Add the listing that is the primary output. -/
def addAssembly (family : Family) (text : String) (filters : Filters) (result : Result) : Result :=
  match family, DeviceBundle.split text with
  | .clang, some sections => addBundle text filters sections result
  | _, _ => result.addListing (Listing.ofText text filters)

/-! ## Steps -/

/-- The lines that a step has left in files of its directory. -/
def stepLines (family : Family) (name : String) (directory : Path) :
    Program (List Diagnostic.Line) := do
  if family = .cc65 ∧ name = "build" then
    return (← Linker.readMap? directory).getD []
  else return []

/-! ## Remarks and macros -/

/-- The remarks in a file; a file that cannot be read as text has none. -/
def readRemarks (path : Path) : Program (List Remark) := do
  match ← Program.readText path with
  | .error _ => return []
  | .ok text => return Remark.ofStream Remark.body? text

/-- Expand the macros of the source by one more run of the compiler. -/
def expandMacros (family : Family) (job : Job) (inputName : Option String) :
    Program (List Diagnostic.Line) := do
  let args := macroExpansionOptions job.input
  let report ← Program.execute
    (job.call job.directory job.info.exe args [("RUSTC_BOOTSTRAP", "1")])
  if report.succeeded then return Diagnostic.ofLines inputName report.stdout
  else
    Audit.log job.auditLog {
      level := .warn, toolchain := family.key, command := job.info.exe, args
      message := "macro expansion failed" }
    return Diagnostic.ofLines inputName report.stderr

/-- Add what is derived once all steps are over. -/
def addDerived (family : Family) (job : Job) (result : Result) : Program Result :=
  match family with
  | .clang => do
      if job.request.optimizationRemarks then
        let remarks ← readRemarks job.remarksPath
        return { result with remarksPath := some job.remarksPath, remarks := some remarks }
      else return result
  | .rustc => do
      if job.request.macroExpansion then
        let lines ← expandMacros family job result.inputName
        return { result with macroExpansion := some lines }
      else return result
  | _ => return result

/-! ## Artifacts -/

/-- The name under which the program in a file is shown: that of the file, with
an extension if it has none of its own. -/
def programName (output : Path) : Option String :=
  if ['.', 'p', 'r', 'g'].isSuffixOf output.chars then none
  else output.fileName?.map fun name => String.ofList name ++ ".prg"

/-- The artifacts that only this family leaves. -/
def artifacts (family : Family) (job : Job) (result : Result) : Program (List Artifact) := do
  match family with
  | .cc65 =>
      if job.request.filters.binary && result.hasOption "c64" then
        let found ← Artifact.ofExisting? .c64Program job.output (programName job.output)
        return found.toList
      else return []
  | .clang =>
      if job.hasOption "-ftime-trace" then
        let found ← Artifact.ofExisting? .timeTrace (job.output.withExtension "json") none
        return found.toList
      else return []
  | _ => return []

end BuildExplorer.Family
