import BuildExplorer.CommandLine.Arguments
import BuildExplorer.Config.Load
import BuildExplorer.Explorer.Compile

/-!
# The command line

A command ends with a status and leaves text on the output or on the errors.  A
compilation ends with the code of its result, so that scripts can tell whether
it worked.
-/

namespace BuildExplorer.CommandLine

/-- How a command ended. -/
structure Outcome where
  status : UInt8 := 0
  stdout : String := ""
  stderr : String := ""
  deriving DecidableEq, Repr

/-! ## Errors -/

/-- Why a command does not work. -/
inductive Error where
  | config (error : Config.LoadError)
  | cmakeWithoutCompiler
  | cmakeWithoutProject
  | inputWithoutCompiler
  | unknownLanguage (path : Path)
  | noCompilerFor (language : String)
  | unreadable (path : Path) (fault : Host.Fault)
  | unreadableInput (fault : Host.Fault)
  | badLibrary (selector : String)
  | setup (error : SetupError)
  | notPrintable (error : Yaml.KeyError)
  deriving DecidableEq, Repr

/-- The wording of an error. -/
def Error.message : Error → String
  | .config error => error.message
  | .cmakeWithoutCompiler => "--cmake needs --compiler"
  | .cmakeWithoutProject => "--cmake needs a project directory"
  | .inputWithoutCompiler => "--compiler is required when reading stdin"
  | .unknownLanguage path => "cannot tell the language of " ++ path.text
  | .noCompilerFor language => "no compiler configured for " ++ language
  | .unreadable path fault => "read " ++ path.text ++ ": " ++ fault.message
  | .unreadableInput fault => "read stdin: " ++ fault.message
  | .badLibrary selector => "bad library selector " ++ selector
  | .setup error => error.message
  | .notPrintable error => error.message

/-- The outcome of a command that does not work. -/
def Outcome.ofError (error : Error) : Outcome where
  status := 1
  stderr := "cohcc: " ++ error.message ++ "\n"

/-! ## Requests -/

/-- The configuration in a file, with what the command line says on top. -/
def loadConfig (general : General) : Program (Except Error Config) := do
  match ← Config.load general.config with
  | .error error => return .error (.config error)
  | .ok config =>
      let settings := { config.settings with
        keepWorkdir := config.settings.keepWorkdir || general.keepWorkdir
        cacheDir := general.cacheDir <|> config.settings.cacheDir }
      return .ok { config with settings }

/-- The compiler for a source when none is named: the first one for its
language. -/
def pickCompiler (config : Config) (source : Option Path) : Except Error String :=
  match source with
  | none => .error .inputWithoutCompiler
  | some path =>
      match Language.ofPath? path with
      | none => .error (.unknownLanguage path)
      | some language =>
          match config.defaultCompiler? language with
          | none => .error (.noCompilerFor language.name)
          | some info => .ok info.id

/-- The compiler that is asked for. -/
def chooseCompiler (config : Config) (options : CompileOptions) : Except Error String :=
  match options.compiler with
  | some id => .ok id
  | none =>
      if options.cmake then .error .cmakeWithoutCompiler
      else pickCompiler config options.source

/-- Read the source, from the input if no file is named. -/
def readSource : Option Path → Program (Except Error String)
  | some path => do
      match ← Program.readText path with
      | .error fault => return .error (.unreadable path fault)
      | .ok text => return .ok text
  | none => do
      match (← Program.readInput).bind Host.textOfBytes with
      | .error fault => return .error (.unreadableInput fault)
      | .ok text => return .ok text

/-- Read the files of a directory that are named. -/
def readFiles (directory : Path) : List String → Program (Except Error (List ExtraFile))
  | [] => return .ok []
  | name :: rest => do
      let path := directory.join name
      match ← Program.readText path with
      | .error fault => return .error (.unreadable path fault)
      | .ok contents =>
          match ← readFiles directory rest with
          | .error error => return .error error
          | .ok files => return .ok (⟨name, contents⟩ :: files)

/-- Is the first text in front of the second, or the same? -/
def inOrder (first second : String) : Bool :=
  !decide (second < first)

/-- Read the files at the top of a project, in the order of their names. -/
def readProject (directory : Path) : Program (Except Error (List ExtraFile)) := do
  match ← Program.listDirectory directory with
  | .error fault => return .error (.unreadable directory fault)
  | .ok entries =>
      let names := (entries.filter (·.2)).map (·.1)
      readFiles directory (names.mergeSort inOrder)

/-- Read what is to be compiled: a source, or the files of a project. -/
def readInputs (options : CompileOptions) : Program (Except Error (String × List ExtraFile)) := do
  if options.cmake then
    match options.source with
    | none => return .error .cmakeWithoutProject
    | some directory => return (← readProject directory).map fun files => ("", files)
  else return (← readSource options.source).map fun source => (source, [])

/-- Read the selectors of libraries. -/
def readLibraries : List String → Except Error (List SelectedLibrary)
  | [] => .ok []
  | selector :: rest =>
      match SelectedLibrary.ofSelector? selector with
      | none => .error (.badLibrary selector)
      | some library => (readLibraries rest).map (library :: ·)

/-- The request that the command line asks for. -/
def requestOf (options : CompileOptions) (compiler source : String) (files : List ExtraFile)
    (libraries : List SelectedLibrary) : Request where
  compiler := compiler
  source := source
  options := options.options
  filters := {
    binary := options.binary, labels := options.filter, directives := options.filter
    commentOnly := options.filter, trim := options.filter, intel := options.intel }
  libraries := libraries
  files := files
  build := if options.cmake then .cmake else .single
  optimizationRemarks := options.optimizationRemarks
  macroExpansion := options.macroExpansion

/-- The configuration and the request of a compilation. -/
def prepare (general : General) (options : CompileOptions) :
    Program (Except Error (Config × Request)) := do
  match ← loadConfig general with
  | .error error => return .error error
  | .ok config =>
      match chooseCompiler config options with
      | .error error => return .error error
      | .ok compiler =>
          match ← readInputs options with
          | .error error => return .error error
          | .ok (source, files) =>
              return (readLibraries options.libraries).map fun libraries =>
                (config, requestOf options compiler source files libraries)

/-! ## Commands -/

/-- Text for the output: a value over several lines. -/
def pretty (json : Json) : String :=
  String.ofList (json.indented 0) ++ "\n"

/-- The status for the code of a result: zero for zero, and else what is nearest
to the code between 1 and 255. -/
def statusOfCode (code : Int32) : UInt8 :=
  if code = 0 then 0 else UInt8.ofNat (max 1 (min 255 code.toInt)).toNat

/-- The outcome of a compilation. -/
def Outcome.ofResult (result : Result) : Outcome :=
  match result.toJson with
  | .error error => .ofError (.notPrintable error)
  | .ok json => { status := statusOfCode result.code, stdout := pretty json }

/-- Compile a request under a configuration. -/
def compileWith (config : Config) (request : Request) : Program Outcome := do
  match ← Explorer.openWith config config.settings.invocationLog with
  | .error error => return .ofError (.setup error)
  | .ok explorer =>
      match ← explorer.compile request with
      | .error error => return .ofError (.setup error)
      | .ok result => return .ofResult result

def compile (general : General) (options : CompileOptions) : Program Outcome := do
  match ← prepare general options with
  | .error error => return .ofError error
  | .ok (config, request) => compileWith config request

/-- What is shown of a compiler. -/
def summary (info : CompilerInfo) : Json :=
  .object [
    ("id", .string info.id),
    ("name", .string info.name),
    ("family", .string info.family),
    ("lang", .string info.lang)]

def compilers (general : General) : Program Outcome := do
  match ← loadConfig general with
  | .error error => return .ofError error
  | .ok config => return { stdout := pretty (.array (config.compilers.map summary)) }

def languages : Outcome where
  stdout := pretty (.array (Language.all.map Language.toJson))

/-- How the program is used. -/
def usage : String :=
  "Usage: cohcc [--config FILE] [--cache-dir DIR] [--keep-workdir] " ++
    "compile|compilers|languages\n"

/-- The outcome of what is done instead of a command. -/
def Outcome.instead : Instead → Outcome
  | .usageError => { status := 2, stderr := "error: unexpected arguments\n\n" ++ usage }
  | .showHelp => { stdout := usage }
  | .showVersion => { stdout := "cohcc 0.2.0\n" }

/-- Carry out the command line. -/
def run (arguments : List String) : Program Outcome :=
  match parse arguments with
  | .error other => return .instead other
  | .ok ⟨general, .compile options⟩ => compile general options
  | .ok ⟨general, .compilers⟩ => compilers general
  | .ok ⟨_, .languages⟩ => return languages

end BuildExplorer.CommandLine
