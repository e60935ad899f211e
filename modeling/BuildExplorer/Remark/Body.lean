import BuildExplorer.Remark.Basic
import BuildExplorer.Yaml.Reading

/-!
# The document of a remark

A remark is a mapping.  Its pass and name are required; keys that are not known
are passed over.
-/

namespace BuildExplorer.Remark

open Yaml (Node Reading)

/-- Read the place of a remark, all of whose parts are required. -/
def readPlace (anchored : List (Nat × Node)) (node : Node) : Reading Place := do
  let keys ← Reading.record anchored node
  let file ← Reading.field keys "File" (Reading.text anchored)
  let line ← Reading.field keys "Line" (Reading.uint32 anchored)
  let column ← Reading.field keys "Column" (Reading.uint32 anchored)
  match file, line, column with
  | some file, some line, some column => return ⟨file, line, column⟩
  | _, _, _ => failure

/-- Read the arguments of a remark.  The mapping of the remark, the list and
the record take three of the levels of nesting. -/
def readArguments (anchored : List (Nat × Node)) (node : Node) : Reading (List Yaml.Mapping) := do
  (← Reading.items anchored node).mapM (Reading.mapping anchored (Reading.depthLimit - 3))

/-- Read the mapping of a remark. -/
def readBody (anchored : List (Nat × Node)) (node : Node) : Reading Body := do
  let keys ← Reading.record anchored node
  let pass ← Reading.field keys "Pass" (Reading.text anchored)
  let name ← Reading.field keys "Name" (Reading.text anchored)
  let place ← Reading.field keys "DebugLoc" (Reading.optional anchored (readPlace anchored))
  let function ← Reading.field keys "Function" (Reading.text anchored)
  let arguments ←
    Reading.field keys "Args" (Reading.optional anchored (readArguments anchored))
  match pass, name with
  | some pass, some name =>
      return {
        pass, name
        place := place.getD none
        function := function.getD ""
        arguments := (arguments.getD none).getD [] }
  | _, _ => failure

/-- The remark body that a document holds, if it holds one. -/
def body? (text : String) : Option Body := do
  let document ← Yaml.document? text.toList
  let (body, _) ← (readBody document.anchored document.root).run (100 * document.size)
  return body

end BuildExplorer.Remark
