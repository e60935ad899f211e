import BuildExplorer.Yaml.Value

/-!
# Optimization remarks

A compiler can write down what its optimization passes did.  Each remark names
a pass, a rule, a function and perhaps a place, and lists arguments that
together spell a message.
-/

namespace BuildExplorer.Remark

/-- The place that a remark is about. -/
structure Place where
  file : String
  line : UInt32
  column : UInt32
  deriving DecidableEq, Repr

/-- What the document of a remark holds. -/
structure Body where
  pass : String
  name : String
  place : Option Place
  function : String
  /-- The arguments in the order of the document. -/
  arguments : List Yaml.Mapping

/-- The text that a value contributes to a message: scalars other than null
contribute themselves. -/
def scalarText : Yaml.Value → List Char
  | .string text => text.toList
  | .number number => Yaml.numberText number
  | .bool true => ['t', 'r', 'u', 'e']
  | .bool false => ['f', 'a', 'l', 's', 'e']
  | _ => []

/-- The message that arguments spell. -/
def spell (arguments : List Yaml.Mapping) : String :=
  String.ofList (arguments.flatMap fun record => record.flatMap fun entry => scalarText entry.2)

end BuildExplorer.Remark

namespace BuildExplorer

/-- An optimization remark. -/
structure Remark where
  pass : String
  name : String
  place : Option Remark.Place
  function : String
  arguments : List Yaml.Mapping
  message : String
  /-- What happened: `Passed`, `Missed`, `Analysis` and the like. -/
  kind : String

/-- The remark of a document. -/
def Remark.ofBody (kind : String) (body : Remark.Body) : Remark where
  pass := body.pass
  name := body.name
  place := body.place
  function := body.function
  arguments := body.arguments
  message := Remark.spell body.arguments
  kind := kind

end BuildExplorer
