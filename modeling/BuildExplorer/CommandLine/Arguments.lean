import BuildExplorer.Path

/-!
# Arguments of the command line

General options stand in front of the command and options of the command behind
it.  An option with a value takes the next argument, unless that looks like an
option itself, or what follows a sign of equality.  No option but a library may
be repeated.  Behind `--` stand the options for the compiler.
-/

namespace BuildExplorer.CommandLine

/-- Options for all commands. -/
structure General where
  config : Path := ⟨"cohcc.toml"⟩
  cacheDir : Option Path := none
  keepWorkdir : Bool := false
  deriving DecidableEq, Repr

/-- What is to be compiled, and how. -/
structure CompileOptions where
  compiler : Option String := none
  source : Option Path := none
  binary : Bool := false
  filter : Bool := false
  intel : Bool := false
  cmake : Bool := false
  optimizationRemarks : Bool := false
  macroExpansion : Bool := false
  libraries : List String := []
  /-- Options for the compiler. -/
  options : List String := []
  deriving DecidableEq, Repr

/-- A command. -/
inductive Verb where
  | compile (options : CompileOptions)
  | compilers
  | languages
  deriving DecidableEq, Repr

/-- A command with the general options. -/
structure Invocation where
  general : General
  verb : Verb
  deriving DecidableEq, Repr

/-- What is done instead of a command. -/
inductive Instead where
  | usageError
  | showHelp
  | showVersion
  deriving DecidableEq, Repr

/-! ## Single arguments -/

/-- What an argument looks like. -/
inductive Shape where
  | word (text : String)
  /-- A long option, perhaps with a value of its own. -/
  | long (name : String) (value : Option String)
  | short (letters : List Char)
  /-- The end of all options. -/
  | terminator
  deriving DecidableEq, Repr

/-- The shape of an argument. -/
def shapeOf (argument : String) : Shape :=
  match argument.toList with
  | ['-', '-'] => .terminator
  | '-' :: '-' :: rest =>
      let name := String.ofList (rest.takeWhile (· != '='))
      match rest.dropWhile (· != '=') with
      | _ :: value => .long name (some (String.ofList value))
      | [] => .long name none
  | '-' :: letter :: letters => .short (letter :: letters)
  | _ => .word argument

/-- The value of an option and the arguments that are left. -/
def takeValue (attached : Option String) (rest : List String) :
    Except Instead (String × List String) :=
  match attached, rest with
  | some value, rest => .ok (value, rest)
  | none, argument :: rest =>
      match shapeOf argument with
      | .word value => .ok (value, rest)
      | _ => .error .usageError
  | none, [] => .error .usageError

/-- A path, which may not be empty. -/
def asPath (text : String) : Except Instead Path :=
  if text.isEmpty then .error .usageError else .ok ⟨text⟩

/-- Refuse an option that was given before. -/
def refuseRepeated (seen : List String) (name : String) : Except Instead Unit :=
  if seen.contains name then .error .usageError else .ok ()

/-- Refuse a value of an option that takes none. -/
def refuseValue (value : Option String) : Except Instead Unit :=
  if value.isSome then .error .usageError else .ok ()

/-- Short options only ask for help, or, with `hasVersion`, for the version. -/
def shortOption (hasVersion : Bool) (letters : List Char) : Instead :=
  match letters with
  | 'h' :: _ => .showHelp
  | 'V' :: _ => if hasVersion then .showVersion else .usageError
  | _ => .usageError

/-! ## Options of the compile command -/

/-- Set a flag of the compile command. -/
def setFlag (options : CompileOptions) (name : String) : Option CompileOptions :=
  match name with
  | "binary" => some { options with binary := true }
  | "filter" => some { options with filter := true }
  | "intel" => some { options with intel := true }
  | "cmake" => some { options with cmake := true }
  | "opt-remarks" => some { options with optimizationRemarks := true }
  | "macro-expansion" => some { options with macroExpansion := true }
  | _ => none

/-- Read the arguments behind the compile command; each round uses up one of
them at least. -/
def compileArguments : Nat → List String → CompileOptions → List String →
    Except Instead CompileOptions
  | 0, _, options, _ => .ok options
  | _, _, options, [] => .ok options
  | fuel + 1, seen, options, argument :: rest =>
      match shapeOf argument with
      | .terminator => .ok { options with options := rest }
      | .short letters => .error (shortOption false letters)
      | .word text =>
          if options.source.isSome then .error .usageError
          else do
            let source ← asPath text
            compileArguments fuel seen { options with source := some source } rest
      | .long name value =>
          if name = "help" then do
            refuseValue value
            .error .showHelp
          else if name = "compiler" then do
            refuseRepeated seen name
            let (compiler, rest) ← takeValue value rest
            compileArguments fuel (name :: seen) { options with compiler := some compiler } rest
          else if name = "lib" then do
            let (library, rest) ← takeValue value rest
            compileArguments fuel seen
              { options with libraries := options.libraries ++ [library] } rest
          else
            match setFlag options name with
            | none => .error .usageError
            | some options => do
                refuseValue value
                refuseRepeated seen name
                compileArguments fuel (name :: seen) options rest

/-! ## All arguments -/

/-- Read what follows a command that takes no arguments; a sign that no options
follow is none. -/
def noArguments (verb : Verb) : List String → Except Instead Verb
  | [] => .ok verb
  | argument :: rest =>
      match shapeOf argument with
      | .terminator => if rest.isEmpty then .ok verb else .error .usageError
      | .long "help" none => .error .showHelp
      | .short letters => .error (shortOption false letters)
      | _ => .error .usageError

/-- The names of the commands. -/
def verbNames : List String :=
  ["compile", "compilers", "languages", "help"]

/-- Read a command and its arguments. -/
def verb (name : String) (rest : List String) : Except Instead Verb :=
  match name with
  | "compile" => (compileArguments (rest.length + 1) [] {} rest).map .compile
  | "compilers" => noArguments .compilers rest
  | "languages" => noArguments .languages rest
  | "help" =>
      match rest with
      | [] => .error .showHelp
      | [topic] => if verbNames.contains topic then .error .showHelp else .error .usageError
      | _ => .error .usageError
  | _ => .error .usageError

/-- Read all arguments; each round uses up one of them at least. -/
def generalArguments : Nat → List String → General → List String → Except Instead Invocation
  | 0, _, _, _ => .error .usageError
  | _, _, _, [] => .error .usageError
  | fuel + 1, seen, general, argument :: rest =>
      match shapeOf argument with
      | .terminator => .error .usageError
      | .short letters => .error (shortOption true letters)
      | .word name => (verb name rest).map fun verb => ⟨general, verb⟩
      | .long name value =>
          if name = "help" then do
            refuseValue value
            .error .showHelp
          else if name = "version" then do
            refuseValue value
            .error .showVersion
          else do
            refuseRepeated seen name
            if name = "config" then do
              let (text, rest) ← takeValue value rest
              let config ← asPath text
              generalArguments fuel (name :: seen) { general with config } rest
            else if name = "cache-dir" then do
              let (text, rest) ← takeValue value rest
              let directory ← asPath text
              generalArguments fuel (name :: seen) { general with cacheDir := some directory } rest
            else if name = "keep-workdir" then do
              refuseValue value
              generalArguments fuel (name :: seen) { general with keepWorkdir := true } rest
            else .error .usageError

/-- Read the arguments of the command line. -/
def parse (arguments : List String) : Except Instead Invocation :=
  generalArguments (arguments.length + 1) [] {} arguments

end BuildExplorer.CommandLine
