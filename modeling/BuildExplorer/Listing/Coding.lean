import BuildExplorer.Json.Decode
import BuildExplorer.Listing.Basic

/-!
# Listings as JSON
-/

namespace BuildExplorer.Listing

open Json (withDefault required)

/-- A line number as JSON. -/
def numberToJson (number : UInt32) : Json :=
  .ofNat number.toNat

def Position.toJson (position : Position) : Json :=
  .object (Json.optional "file" .string position.file ++
    ("line", numberToJson position.line) ::
    Json.optional "column" numberToJson position.column)

def Position.ofJson? (json : Json) : Option Position := do
  match ← json.fields ["file", "line", "column"] with
  | [file, line, column] =>
      let file ← withDefault none (Json.asOption Json.asString) file
      let line ← required Json.asUInt32 line
      let column ← withDefault none (Json.asOption Json.asUInt32) column
      return { file, line, column }
  | _ => none

def Line.toJson (line : Line) : Json :=
  .object (("text", .string line.text) :: Json.optional "source" Position.toJson line.source)

def Line.ofJson? (json : Json) : Option Line := do
  match ← json.fields ["text", "source"] with
  | [text, source] =>
      let text ← required Json.asString text
      let source ← withDefault none (Json.asOption Position.ofJson?) source
      return { text, source }
  | _ => none

end BuildExplorer.Listing
