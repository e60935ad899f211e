import BuildExplorer.Diagnostic.Basic
import BuildExplorer.Json.Decode

/-!
# Diagnostic lines as JSON
-/

namespace BuildExplorer.Diagnostic

open Json (withDefault required)

/-- The word for a severity. -/
def Severity.word : Severity → String
  | .info => "info"
  | .warning => "warning"
  | .error => "error"

def Severity.ofWord? (word : String) : Option Severity :=
  [Severity.info, .warning, .error].find? (·.word == word)

def Severity.toJson (severity : Severity) : Json :=
  .string severity.word

def Severity.ofJson? (json : Json) : Option Severity :=
  (json.asWord Json.strict).bind Severity.ofWord?

def Tag.toJson (tag : Tag) : Json :=
  .object (("line", .ofNat tag.line.toNat) ::
    Json.optional "column" (fun column => .ofNat column.toNat) tag.column ++
    Json.optional "file" .string tag.file ++
    [("text", .string tag.text), ("severity", tag.severity.toJson)])

def Tag.ofJson? (json : Json) : Option Tag := do
  match ← json.fields ["line", "column", "file", "text", "severity"] with
  | [line, column, file, text, severity] =>
      let line ← required Json.asUInt32 line
      let column ← withDefault none (Json.asOption Json.asUInt32) column
      let file ← withDefault none (Json.asOption Json.asString) file
      let text ← required Json.asString text
      let severity ← required Severity.ofJson? severity
      return { line, column, file, text, severity }
  | _ => none

def Line.toJson (line : Line) : Json :=
  .object (("text", .string line.text) :: Json.optional "tag" Tag.toJson line.tag)

def Line.ofJson? (json : Json) : Option Line := do
  match ← json.fields ["text", "tag"] with
  | [text, tag] =>
      let text ← required Json.asString text
      let tag ← withDefault none (Json.asOption Tag.ofJson?) tag
      return { text, tag }
  | _ => none

end BuildExplorer.Diagnostic
