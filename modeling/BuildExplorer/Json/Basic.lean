import BuildExplorer.Decimal.Binary64

/-!
# JSON values

The members of an object keep their order and may share a key; what a repeated
key means is for the reader of the object to say.
-/

namespace BuildExplorer

open Decimal (Binary64)

/-- A number of a data format: an integer, or a binary fraction. -/
inductive Number where
  | integer (value : Int)
  | binary (value : Binary64)
  deriving DecidableEq, Repr

/-- A JSON value. -/
inductive Json where
  | null
  | bool (value : Bool)
  | number (value : Number)
  | string (value : String)
  | array (items : List Json)
  | object (members : List (String × Json))
  /-- A value that is spelled correctly and stands for nothing: a number out of
  range, text with half of a surrogate pair, or an object with such a key.  It
  can be skipped but not used. -/
  | unusable

namespace Json

/-- An integer as a value. -/
def ofInt (value : Int) : Json :=
  .number (.integer value)

/-- A natural number as a value. -/
def ofNat (value : Nat) : Json :=
  ofInt value

/-- A list of texts as a value. -/
def ofStrings (texts : List String) : Json :=
  .array (texts.map .string)

/-- A value, or `null`. -/
def ofOption {α : Type} (encode : α → Json) : Option α → Json
  | none => .null
  | some value => encode value

/-- A member that is left out when there is no value. -/
def optional {α : Type} (key : String) (encode : α → Json) : Option α → List (String × Json)
  | none => []
  | some value => [(key, encode value)]

@[simp]
theorem optional_none {α : Type} (key : String) (encode : α → Json) :
    optional key encode none = [] :=
  rfl

@[simp]
theorem optional_some {α : Type} (key : String) (encode : α → Json) (value : α) :
    optional key encode (some value) = [(key, encode value)] :=
  rfl

end Json

end BuildExplorer
