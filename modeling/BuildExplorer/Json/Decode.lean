import BuildExplorer.Json.Basic

/-!
# Reading records out of JSON values

A record is read from an object, whose unknown members are skipped and whose
known members may not be repeated, or from an array that lists the fields in
their declared order and may stop early.  Formats differ in what else they let
pass.
-/

namespace BuildExplorer.Json

/-- A text. -/
def asString : Json → Option String
  | .string value => some value
  | _ => none

/-- A truth value. -/
def asBool : Json → Option Bool
  | .bool value => some value
  | _ => none

/-- An integer from `low` up to below `limit`. -/
def asIntIn (low limit : Int) : Json → Option Int
  | .number (.integer value) => if low ≤ value && value < limit then some value else none
  | _ => none

/-- What a format lets pass in the long spellings of words and records. -/
structure Manner where
  /-- May the value stand behind a word that is spelled as a key? -/
  saysNothing : Json → Bool
  /-- May an array go on behind the last field of a record? -/
  goesOn : Bool

def isNull : Json → Bool
  | .null => true
  | _ => false

/-- The strict manner: only `null` says nothing, and records end with their last
field. -/
def strict : Manner :=
  ⟨isNull, false⟩

/-- A word of a fixed list, which may also be written as the only key of an
object whose value says nothing. -/
def asWord (manner : Manner) : Json → Option String
  | .string word => some word
  | .object [(word, value)] => if manner.saysNothing value then some word else none
  | _ => none

def asUInt32 (json : Json) : Option UInt32 :=
  (json.asIntIn 0 (twoTo 32)).map fun value => UInt32.ofNat value.toNat

def asUInt64 (json : Json) : Option UInt64 :=
  (json.asIntIn 0 (twoTo 64)).map fun value => UInt64.ofNat value.toNat

def asInt32 (json : Json) : Option Int32 :=
  (json.asIntIn (-twoTo 31) (twoTo 31)).map Int32.ofInt

/-- A list whose items are all readable. -/
def asList {α : Type} (decode : Json → Option α) : Json → Option (List α)
  | .array items => items.mapM decode
  | _ => none

/-- A value or `null`. -/
def asOption {α : Type} (decode : Json → Option α) : Json → Option (Option α)
  | .null => some none
  | json => (decode json).map some

/-- The member of an object; `none` if it is repeated, and `some none` if it is
absent. -/
def uniqueMember (members : List (String × Json)) (key : String) : Option (Option Json) :=
  match members.filter (·.1 == key) with
  | [] => some none
  | [(_, value)] => some (some value)
  | _ => none

/-- The fields of a record, each of them present or absent. -/
def fieldsIn (manner : Manner) (keys : List String) : Json → Option (List (Option Json))
  | .object members => keys.mapM (uniqueMember members)
  | .array items =>
      if items.length ≤ keys.length || manner.goesOn then
        let known := items.take keys.length
        some (known.map some ++ List.replicate (keys.length - known.length) none)
      else none
  | _ => none

/-- The fields of a record in the strict manner. -/
def fields (keys : List String) (json : Json) : Option (List (Option Json)) :=
  json.fieldsIn strict keys

/-- A field that has to be present. -/
def required {α : Type} (decode : Json → Option α) : Option Json → Option α
  | none => none
  | some json => decode json

/-- A field that stands for `fallback` when it is absent. -/
def withDefault {α : Type} (fallback : α) (decode : Json → Option α) : Option Json → Option α
  | none => some fallback
  | some json => decode json

end BuildExplorer.Json
