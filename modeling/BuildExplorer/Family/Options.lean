import BuildExplorer.Family.Basic
import BuildExplorer.Job

/-!
# Options of compilers

The options that a family of compilers takes for the output that is asked for,
and for the libraries that are selected.
-/

namespace BuildExplorer

/-- The members of a list, each where it occurs first. -/
def firstOccurrences : List String → List String
  | [] => []
  | first :: rest => first :: (firstOccurrences rest).filter (· != first)

namespace Family

/-! ## Libraries -/

/-- The options that name directories, each of them once. -/
def directoryOptions (flag : String) (directories : List String) : List String :=
  firstOccurrences (directories.map (flag ++ ·))

/-- Where libraries are searched for when nothing else is said. -/
def defaultDownloadPath : String :=
  "."

/-- Where the linker searches: the directories of the libraries, then those of
the compiler, and at last the one for downloads. -/
def libraryPathOptions (info : CompilerInfo) (libraries : List LibraryInfo)
    (downloadPath : Option String) : List String :=
  let download := (downloadPath.filter (!·.isEmpty)).getD defaultDownloadPath
  directoryOptions (info.libPathFlag.getD "-L")
    (libraries.flatMap (·.libPath) ++ info.libPath ++ [download])

/-- Where the compiler searches for headers. -/
def includeOptions (info : CompilerInfo) (libraries : List LibraryInfo) : List String :=
  directoryOptions (info.includeFlag.getD "-I") (libraries.flatMap (·.includePath))

/-! ## Outputs -/

/-- The options that choose the kind of the output and name its file. -/
def outputOptions (family : Family) (filters : Filters) (output : Path) : List String :=
  match family with
  | .standard | .clang =>
      ["-g", "-o", output.text] ++
        if filters.binary then []
        else (if filters.intel then ["-masm=intel"] else []) ++ ["-S"]
  | .cc65 =>
      if filters.binary then ["-g", "-o", output.text]
      else ["-g", "-S", "-c", "-o", output.text]
  | .rustc =>
      ["-C", "debuginfo=2", "-o", output.text] ++
        if filters.binary then ["--crate-type", "bin"]
        else ["--emit", "asm", "--crate-type", "rlib"] ++
          if filters.intel then ["-C", "llvm-args=--x86-asm-syntax=intel"] else []

/-- The options for what is made beside the primary output. -/
def extraOptions (family : Family) (job : Job) : List String :=
  match family with
  | .clang =>
      if job.request.optimizationRemarks then
        ["-fsave-optimization-record",
          "-foptimization-record-file=" ++ job.remarksPath.text]
      else []
  | _ => []

/-- The options under which macros are expanded. -/
def macroExpansionOptions (input : Path) : List String :=
  ["--edition", "2021", "-Zunpretty=expanded", input.text]

end Family

end BuildExplorer
