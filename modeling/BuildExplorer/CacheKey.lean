import BuildExplorer.Config
import BuildExplorer.Digest.Sha256
import BuildExplorer.Json.Printer
import BuildExplorer.Request.Coding
import BuildExplorer.Text.Utf8

/-!
# Keys of the cache

A request on a compiler is identified by the hash of a text that holds all that
the outcome is taken to depend on.
-/

namespace BuildExplorer

/-- What a key is made of. -/
structure KeyInput where
  compiler : String
  exe : Path
  compilerOptions : String
  /-- The options of the user that were let through. -/
  options : List String
  filters : Filters
  source : String
  files : List ExtraFile
  libraries : List SelectedLibrary
  build : BuildKind
  optimizationRemarks : Bool
  macroExpansion : Bool
  deriving DecidableEq, Repr

/-- What the key of a request is made of. -/
def KeyInput.ofRequest (info : CompilerInfo) (request : Request) (options : List String) :
    KeyInput where
  compiler := info.id
  exe := info.exe
  compilerOptions := info.options
  options := options
  filters := request.filters
  source := request.source
  files := request.files
  libraries := request.libraries
  build := request.build
  optimizationRemarks := request.optimizationRemarks
  macroExpansion := request.macroExpansion

def KeyInput.toJson (input : KeyInput) : Json :=
  .object [
    ("compiler", .string input.compiler),
    ("exe", .string input.exe.text),
    ("compiler_options", .string input.compilerOptions),
    ("options", .ofStrings input.options),
    ("filters", input.filters.toJson),
    ("source", .string input.source),
    ("files", .array (input.files.map ExtraFile.toJson)),
    ("libraries", .array (input.libraries.map SelectedLibrary.toJson)),
    ("build", .string input.build.word),
    ("opt", .bool input.optimizationRemarks),
    ("macro_expansion", .bool input.macroExpansion)]

/-- The text that is hashed. -/
def KeyInput.text (input : KeyInput) : List Char :=
  input.toJson.compact

/-- The key of a request on a compiler. -/
def cacheKey (info : CompilerInfo) (request : Request) (options : List String) : String :=
  Digest.Sha256.hex (Text.Utf8.encode (KeyInput.ofRequest info request options).text)

end BuildExplorer
