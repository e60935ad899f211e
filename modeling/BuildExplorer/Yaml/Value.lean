import BuildExplorer.Json.Printer

/-!
# YAML values

A value read from a document: mappings keep the order of their entries, and
keys may be any values.  Turned into JSON, a key becomes its text, which not
every value has.
-/

namespace BuildExplorer.Yaml

/-- A value of a document. -/
inductive Value where
  | null
  | bool (value : Bool)
  | number (value : Number)
  | string (value : String)
  | sequence (items : List Value)
  | mapping (entries : List (Value × Value))
  /-- A value with a tag of the application. -/
  | tagged (tag : String) (value : Value)

/-- The entries of a mapping in the order of the document. -/
abbrev Mapping := List (Value × Value)

/-- Are the two numbers the same number of the same kind? -/
def sameNumber : Number → Number → Bool
  | .integer left, .integer right => left == right
  | .binary left, .binary right => left.same right
  | _, _ => false

mutual

/-- Do the two values agree, whatever the order of entries? -/
def Value.agrees : Value → Value → Bool
  | .null, .null => true
  | .bool left, .bool right => left == right
  | .number left, .number right => sameNumber left right
  | .string left, .string right => left == right
  | .sequence left, .sequence right => agreeItems left right
  | .mapping left, .mapping right => left.length == right.length && agreeEntries left right
  | .tagged tag left, .tagged tag' right => tag == tag' && left.agrees right
  | _, _ => false

/-- Do the items agree one by one? -/
def agreeItems : List Value → List Value → Bool
  | [], [] => true
  | left :: lefts, right :: rights => left.agrees right && agreeItems lefts rights
  | _, _ => false

/-- Has each entry one in the other mapping that agrees with it? -/
def agreeEntries : Mapping → Mapping → Bool
  | [], _ => true
  | (key, value) :: rest, other =>
      (other.any fun (key', value') => key.agrees key' && value.agrees value') &&
        agreeEntries rest other

end

/-! ## Texts -/

/-- The text of a number; a positive exponent has no sign. -/
def numberText : Number → List Char
  | .integer value => Json.printInt value
  | .binary (.finite negative mantissa exponent) =>
      Decimal.finiteText [] negative mantissa exponent
  | .binary (.infinite negative) =>
      if negative then ['-', '.', 'i', 'n', 'f'] else ['.', 'i', 'n', 'f']
  | .binary .nan => ['.', 'n', 'a', 'n']

/-- Why a value cannot be the key of a JSON object. -/
inductive KeyError where
  | notText
  | notFinite
  deriving DecidableEq, Repr

/-- The wording of an error. -/
def KeyError.message : KeyError → String
  | .notText => "key must be a string"
  | .notFinite => "float key must be finite (got NaN or +/-inf)"

/-- The text of a key; a number stands as in JSON. -/
def keyText : Value → Except KeyError String
  | .string value => .ok value
  | .bool value => .ok (if value then "true" else "false")
  | .number (.integer value) => .ok (String.ofList (Json.printInt value))
  | .number (.binary value) =>
      if value.isFinite then .ok (String.ofList (Json.printNumber (.binary value)))
      else .error .notFinite
  | _ => .error .notText

mutual

/-- The value as JSON. -/
def Value.toJson : Value → Except KeyError Json
  | .null => .ok .null
  | .bool value => .ok (.bool value)
  | .number value => .ok (.number value)
  | .string value => .ok (.string value)
  | .sequence items => (itemsToJson items).map .array
  | .mapping entries => (entriesToJson entries).map .object
  | .tagged tag value => value.toJson.map fun json => .object [("!" ++ tag, json)]

/-- The items as JSON. -/
def itemsToJson : List Value → Except KeyError (List Json)
  | [] => .ok []
  | item :: items => do
      let json ← item.toJson
      return json :: (← itemsToJson items)

/-- The entries as members of a JSON object. -/
def entriesToJson : Mapping → Except KeyError (List (String × Json))
  | [] => .ok []
  | (key, value) :: entries => do
      let name ← keyText key
      let json ← value.toJson
      return (name, json) :: (← entriesToJson entries)

end

/-! ## Values from JSON -/

/-- Do the keys differ from each other? -/
def distinctKeys (members : List (String × Json)) : Bool :=
  decide (members.map (·.1)).Nodup

mutual

/-- The value that a JSON value stands for, nested at most `depth` deep.  An
object with a repeated key stands for none. -/
def Value.ofJson? (depth : Nat) : Json → Option Value
  | .null => some .null
  | .bool value => some (.bool value)
  | .number value => some (.number value)
  | .string value => some (.string value)
  | .array items =>
      match depth with
      | 0 => none
      | depth + 1 => (itemsOfJson? depth items).map .sequence
  | .object members =>
      match depth with
      | 0 => none
      | depth + 1 =>
          if distinctKeys members then (entriesOfJson? depth members).map .mapping else none
  | .unusable => none

def itemsOfJson? (depth : Nat) : List Json → Option (List Value)
  | [] => some []
  | item :: items => do
      let value ← Value.ofJson? depth item
      return value :: (← itemsOfJson? depth items)

def entriesOfJson? (depth : Nat) : List (String × Json) → Option Mapping
  | [] => some []
  | (key, item) :: members => do
      let value ← Value.ofJson? depth item
      return (.string key, value) :: (← entriesOfJson? depth members)

end

/-- The mapping that a JSON object stands for. -/
def mappingOfJson? (depth : Nat) (json : Json) : Option Mapping :=
  match Value.ofJson? depth json with
  | some (.mapping entries) => some entries
  | _ => none

end BuildExplorer.Yaml
