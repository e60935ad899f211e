import BuildExplorer.Guard
import BuildExplorer.Language
import BuildExplorer.Request

/-!
# Configurations

A configuration lists the compilers and the libraries that requests may name,
and some settings that hold for all of them.
-/

namespace BuildExplorer

/-- What happens to the steps behind a failed one. -/
inductive FailurePolicy where
  /-- They run, so that they can show more diagnostics. -/
  | proceed
  /-- They are skipped. -/
  | abort
  deriving DecidableEq, Repr, Inhabited

/-- A configured compiler. -/
structure CompilerInfo where
  id : String
  name : String := ""
  exe : Path
  /-- The key of its family. -/
  family : String := "default"
  lang : String := "c++"
  /-- Options that are always passed, parted by blanks. -/
  options : String := ""
  libPath : List String := []
  libPathFlag : Option String := none
  includeFlag : Option String := none
  timeoutMs : Option UInt64 := none
  objdumper : Option Path := none
  failurePolicy : Option FailurePolicy := none
  deriving DecidableEq, Repr

/-- A compiler with all else left open. -/
def CompilerInfo.named (id exe : String) : CompilerInfo :=
  { id, name := id, exe := ⟨exe⟩ }

/-- The configured options, one argument each. -/
def CompilerInfo.optionArgs (info : CompilerInfo) : List String :=
  (Text.words info.options.toList).map String.ofList

/-- A version of a library. -/
structure LibraryInfo where
  id : String
  version : String
  libPath : List String := []
  includePath : List String := []
  deriving DecidableEq, Repr

/-- Settings for all compilers. -/
structure Settings where
  timeoutMs : UInt64 := 10000
  maxOutputBytes : UInt64 := 65536
  libDownloadPath : Option String := none
  keepWorkdir : Bool := false
  cmake : Path := ⟨"cmake"⟩
  invocationLog : Option Path := none
  forbiddenFlags : List String := Guard.defaultForbidden
  cacheDir : Option Path := none
  deriving DecidableEq, Repr

/-- A configuration. -/
structure Config where
  settings : Settings := {}
  compilers : List CompilerInfo := []
  libraries : List LibraryInfo := []
  deriving DecidableEq, Repr

namespace Config

/-- The first identifier that a compiler in front of it has, too. -/
def firstDuplicate? (seen : List String) : List String → Option String
  | [] => none
  | id :: rest => if seen.contains id then some id else firstDuplicate? (id :: seen) rest

/-- The first identifier of a compiler that is not new. -/
def duplicateId? (config : Config) : Option String :=
  firstDuplicate? [] (config.compilers.map (·.id))

/-- The compiler with an identifier. -/
def compiler? (config : Config) (id : String) : Option CompilerInfo :=
  config.compilers.find? (·.id == id)

/-- The first compiler for a language. -/
def defaultCompiler? (config : Config) (language : Language) : Option CompilerInfo :=
  config.compilers.find? fun info =>
    (Language.find? info.lang).any fun found => found.id == language.id

/-- The time that a step of a compiler may take. -/
def timeoutMs (config : Config) (info : CompilerInfo) : UInt64 :=
  info.timeoutMs.getD config.settings.timeoutMs

/-- The libraries that are asked for and known, in the order of the request. -/
def resolveLibraries (config : Config) (selected : List SelectedLibrary) : List LibraryInfo :=
  selected.filterMap fun library =>
    config.libraries.find? fun info => info.id == library.id && info.version == library.version

end Config

end BuildExplorer
