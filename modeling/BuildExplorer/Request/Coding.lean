import BuildExplorer.Json.Decode
import BuildExplorer.Request

/-!
# Requests as JSON
-/

namespace BuildExplorer

open Json (withDefault required)

/-- The names of the filters in their order. -/
def Filters.keys : List String :=
  ["binary", "labels", "directives", "commentOnly", "trim", "intel"]

def Filters.toJson (filters : Filters) : Json :=
  .object [
    ("binary", .bool filters.binary),
    ("labels", .bool filters.labels),
    ("directives", .bool filters.directives),
    ("commentOnly", .bool filters.commentOnly),
    ("trim", .bool filters.trim),
    ("intel", .bool filters.intel)]

def Filters.ofJson? (json : Json) : Option Filters := do
  match ← json.fields Filters.keys with
  | [binary, labels, directives, commentOnly, trim, intel] =>
      let binary ← withDefault false Json.asBool binary
      let labels ← withDefault false Json.asBool labels
      let directives ← withDefault false Json.asBool directives
      let commentOnly ← withDefault false Json.asBool commentOnly
      let trim ← withDefault false Json.asBool trim
      let intel ← withDefault false Json.asBool intel
      return { binary, labels, directives, commentOnly, trim, intel }
  | _ => none

def SelectedLibrary.toJson (library : SelectedLibrary) : Json :=
  .object [("id", .string library.id), ("version", .string library.version)]

def SelectedLibrary.ofJson? (json : Json) : Option SelectedLibrary := do
  match ← json.fields ["id", "version"] with
  | [id, version] => return ⟨← required Json.asString id, ← required Json.asString version⟩
  | _ => none

def ExtraFile.toJson (file : ExtraFile) : Json :=
  .object [("filename", .string file.name), ("contents", .string file.contents)]

def ExtraFile.ofJson? (json : Json) : Option ExtraFile := do
  match ← json.fields ["filename", "contents"] with
  | [name, contents] => return ⟨← required Json.asString name, ← required Json.asString contents⟩
  | _ => none

/-- The word for a kind of build. -/
def BuildKind.word : BuildKind → String
  | .single => "single"
  | .cmake => "cmake"

def BuildKind.ofWord? (word : String) : Option BuildKind :=
  if word = "single" then some .single
  else if word = "cmake" then some .cmake
  else none

def BuildKind.ofJson? (json : Json) : Option BuildKind :=
  (json.asWord Json.strict).bind BuildKind.ofWord?

def Request.keys : List String :=
  ["compiler", "source", "options", "filters", "libraries", "files", "build", "produceOptInfo",
    "produceMacroExpansion"]

def Request.toJson (request : Request) : Json :=
  .object [
    ("compiler", .string request.compiler),
    ("source", .string request.source),
    ("options", .ofStrings request.options),
    ("filters", request.filters.toJson),
    ("libraries", .array (request.libraries.map SelectedLibrary.toJson)),
    ("files", .array (request.files.map ExtraFile.toJson)),
    ("build", .string request.build.word),
    ("produceOptInfo", .bool request.optimizationRemarks),
    ("produceMacroExpansion", .bool request.macroExpansion)]

def Request.ofJson? (json : Json) : Option Request := do
  match ← json.fields Request.keys with
  | [compiler, source, options, filters, libraries, files, build, remarks, expansion] =>
      let compiler ← withDefault "" Json.asString compiler
      let source ← withDefault "" Json.asString source
      let options ← withDefault [] (Json.asList Json.asString) options
      let filters ← withDefault {} Filters.ofJson? filters
      let libraries ← withDefault [] (Json.asList SelectedLibrary.ofJson?) libraries
      let files ← withDefault [] (Json.asList ExtraFile.ofJson?) files
      let build ← withDefault .single BuildKind.ofJson? build
      let optimizationRemarks ← withDefault false Json.asBool remarks
      let macroExpansion ← withDefault false Json.asBool expansion
      return { compiler, source, options, filters, libraries, files, build, optimizationRemarks,
               macroExpansion }
  | _ => none

end BuildExplorer
