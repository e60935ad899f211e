import BuildExplorer.Json.Decode
import BuildExplorer.Remark.Basic

/-!
# Remarks as JSON

Not every remark can be written: the keys of its arguments have to be texts, or
have to stand for one.
-/

namespace BuildExplorer

open Json (withDefault required)

def Remark.Place.toJson (place : Remark.Place) : Json :=
  .object [
    ("File", .string place.file),
    ("Line", .ofNat place.line.toNat),
    ("Column", .ofNat place.column.toNat)]

def Remark.Place.ofJson? (json : Json) : Option Remark.Place := do
  match ← json.fields ["File", "Line", "Column"] with
  | [file, line, column] =>
      let file ← required Json.asString file
      let line ← required Json.asUInt32 line
      let column ← required Json.asUInt32 column
      return { file, line, column }
  | _ => none

def Remark.toJson (remark : Remark) : Except Yaml.KeyError Json := do
  let arguments ← remark.arguments.mapM fun record => (Yaml.entriesToJson record).map .object
  return .object ([("Pass", .string remark.pass), ("Name", .string remark.name)] ++
    Json.optional "DebugLoc" Remark.Place.toJson remark.place ++
    [("Function", .string remark.function), ("Args", .array arguments),
      ("displayString", .string remark.message), ("optType", .string remark.kind)])

/-- Read a remark whose arguments are nested at most `depth` deep. -/
def Remark.ofJson? (depth : Nat) (json : Json) : Option Remark := do
  match ← json.fields
      ["Pass", "Name", "DebugLoc", "Function", "Args", "displayString", "optType"] with
  | [pass, name, place, function, arguments, message, kind] =>
      let pass ← required Json.asString pass
      let name ← required Json.asString name
      let place ← withDefault none (Json.asOption Remark.Place.ofJson?) place
      let function ← required Json.asString function
      let arguments ← required (Json.asList (Yaml.mappingOfJson? depth)) arguments
      let message ← required Json.asString message
      let kind ← required Json.asString kind
      return { pass, name, place, function, arguments, message, kind }
  | _ => none

end BuildExplorer
