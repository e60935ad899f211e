import BuildExplorer.Text.Digit
import BuildExplorer.Yaml.Value

/-!
# Plain scalars

Which plain scalars are null, truth values or numbers; all others are texts.
-/

namespace BuildExplorer.Yaml.Resolve

open Decimal (Binary64)
open Text (hexValue)

def isNull (text : String) : Bool :=
  text == "null" || text == "Null" || text == "NULL" || text == "~"

def bool? (text : String) : Option Bool :=
  if text == "true" || text == "True" || text == "TRUE" then some true
  else if text == "false" || text == "False" || text == "FALSE" then some false
  else none

/-! ## Integers -/

/-- The text without a sign in front. -/
def unsigned (text : List Char) : List Char :=
  match text with
  | '+' :: rest | '-' :: rest => rest
  | rest => rest

/-- Is it a run of digits that is no number because it starts with a zero? -/
def isPadded (text : List Char) : Bool :=
  match unsigned text with
  | '0' :: char :: rest => (char :: rest).all Char.isDigit
  | _ => false

/-- The number that digits of a base denote. -/
def digitsValue (base : Nat) (digits : List Char) : Option Nat :=
  if digits.isEmpty then none
  else do
    let values ← digits.mapM hexValue
    if values.all (· < base) then
      return values.foldl (fun value digit => base * value + digit) 0
    else none

/-- The base that a marker at the start announces, and what follows it. -/
def baseMarker : List Char → Option (Nat × List Char)
  | '0' :: 'x' :: rest => some (16, rest)
  | '0' :: 'o' :: rest => some (8, rest)
  | '0' :: 'b' :: rest => some (2, rest)
  | _ => none

/-- A number below `limit` with digits behind a marker. -/
def markedValue (limit : Nat) (text : List Char) : Option Nat :=
  (baseMarker text).bind fun (base, digits) =>
    (digitsValue base digits).filter (· < limit)

/-- The text without a plus sign in front. -/
def withoutPlus : List Char → List Char
  | '+' :: rest => rest
  | rest => rest

/-- An integer from zero up to below `limit`. -/
def natural? (limit : Nat) (text : List Char) : Option Nat :=
  let body := withoutPlus text
  match markedValue limit body with
  | some value => some value
  | none => if isPadded text then none else (digitsValue 10 body).filter (· < limit)

/-- The size of an integer that is written with a minus sign, up to `limit`. -/
def negative? (limit : Nat) (text : List Char) : Option Nat :=
  match text with
  | '-' :: body =>
      match markedValue (limit + 1) body with
      | some value => some value
      | none => if isPadded text then none else (digitsValue 10 body).filter (· ≤ limit)
  | _ => none

/-- What an integer can be. -/
inductive IntegerText where
  /-- An integer of 64 bits, signed or unsigned. -/
  | value (value : Int)
  /-- An integer of up to 128 bits, which no value holds. -/
  | tooWide
  /-- No integer, or one beyond 128 bits. -/
  | none
  deriving DecidableEq, Repr

/-- Read a scalar as an integer. -/
def integer (text : List Char) : IntegerText :=
  match natural? (twoTo 64) text with
  | some value => .value value
  | none =>
      match negative? (twoTo 63) text with
      | some size => .value (-size)
      | none =>
          if (natural? (twoTo 128) text).isSome || (negative? (twoTo 127) text).isSome then .tooWide
          else .none

/-! ## Binary fractions -/

/-- Read an exponent up to the end of the text. -/
def exponent? (text : List Char) : Option Int :=
  match text with
  | '-' :: digits => (digitsValue 10 digits).map fun size => -(size : Int)
  | '+' :: digits => (digitsValue 10 digits).map Int.ofNat
  | digits => (digitsValue 10 digits).map Int.ofNat

/-- Read a decimal magnitude: digits with a point somewhere and perhaps an
exponent. -/
def magnitude? (negative : Bool) (text : List Char) : Option Binary64 :=
  let whole := text.takeWhile Char.isDigit
  let rest := text.dropWhile Char.isDigit
  let (fraction, rest) :=
    match rest with
    | '.' :: rest => (rest.takeWhile Char.isDigit, rest.dropWhile Char.isDigit)
    | rest => ([], rest)
  if whole.isEmpty && fraction.isEmpty then none
  else
    let exponent :=
      match rest with
      | [] => some 0
      | 'e' :: rest | 'E' :: rest => exponent? rest
      | _ => none
    exponent.map fun exponent =>
      Binary64.ofDecimal negative (Text.numeralValue (whole ++ fraction))
        (exponent - fraction.length)

/-- Read a scalar as a binary fraction.  A literal that overflows is none. -/
def binary? (text : List Char) : Option Binary64 :=
  match String.ofList text with
  | ".inf" | ".Inf" | ".INF" | "+.inf" | "+.Inf" | "+.INF" => some (.infinite false)
  | "-.inf" | "-.Inf" | "-.INF" => some (.infinite true)
  | ".nan" | ".NaN" | ".NAN" => some .nan
  | _ =>
      let value :=
        match text with
        | '-' :: rest => magnitude? true rest
        | '+' :: rest => magnitude? false rest
        | rest => magnitude? false rest
      value.filter (·.isFinite)

/-- The value of a plain scalar; none if it is an integer that is too wide. -/
def plain (text : String) : Option Value :=
  if text.isEmpty || isNull text then some .null
  else
    match bool? text with
    | some value => some (.bool value)
    | none =>
        match integer text.toList with
        | .value value => some (.number (.integer value))
        | .tooWide => none
        | .none =>
            if isPadded text.toList then some (.string text)
            else
              match binary? text.toList with
              | some value => some (.number (.binary value))
              | none => some (.string text)

end BuildExplorer.Yaml.Resolve
