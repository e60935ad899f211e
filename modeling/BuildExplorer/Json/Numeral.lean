import BuildExplorer.Json.Basic

/-!
# Reading JSON numbers

An integer that fits 64 bits is read exactly.  Any other number is a binary
fraction: its significand is the longest prefix of its digits below `2 ^ 64`,
rounded, and then multiplied or divided by a rounded power of ten.
-/

namespace BuildExplorer.Json.Numeral

open Decimal (Binary64)

/-- The limit of a significand. -/
def significandLimit : Nat := twoTo 64

/-- A number on its way: the significand, the power of ten that scales it, and
whether a digit was already left out. -/
structure Scaled where
  significand : Nat
  exponent : Int
  full : Bool
  deriving Repr

/-- Take a digit in front of the decimal point. -/
def Scaled.whole (number : Scaled) (digit : Nat) : Scaled :=
  let significand := 10 * number.significand + digit
  if number.full || significand ≥ significandLimit then
    { number with exponent := number.exponent + 1, full := true }
  else { number with significand }

/-- Take a digit behind the decimal point. -/
def Scaled.fraction (number : Scaled) (digit : Nat) : Scaled :=
  let significand := 10 * number.significand + digit
  if number.full || significand ≥ significandLimit then { number with full := true }
  else { number with significand, exponent := number.exponent - 1 }

/-- The rounded power of ten. -/
def power (exponent : Nat) : Binary64 :=
  Binary64.ofDecimal false 1 exponent

/-- Divide by `10 ^ 308` while the power of ten is below the table of powers. -/
def scaleDown (fuel : Nat) (value : Binary64) (exponent : Nat) : Binary64 :=
  match fuel with
  | 0 => value
  | fuel + 1 =>
      if exponent ≤ 308 then Binary64.divMagnitude value (power exponent)
      else if value = Binary64.zero false then value
      else scaleDown fuel (Binary64.divMagnitude value (power 308)) (exponent - 308)

/-- The magnitude of a scaled number, unless it is out of range. -/
def Scaled.magnitude (number : Scaled) : Option Binary64 :=
  let value := Binary64.ofRatio false number.significand 1
  if number.exponent < 0 then
    some (scaleDown 8 value (-number.exponent).toNat)
  else if number.exponent ≤ 308 then
    let product := Binary64.mulMagnitude value (power number.exponent.toNat)
    if product.isFinite then some product else none
  else if number.significand = 0 then some value
  else none

/-- The digits at the start of a text, as numbers, and the rest. -/
def takeDigits (text : List Char) : List Nat × List Char :=
  ((text.takeWhile Char.isDigit).map (·.toNat - 48), text.dropWhile Char.isDigit)

/-- The exponent behind the letter `e`: its sign and size. -/
def readExponent (text : List Char) : Option (Bool × Nat × List Char) :=
  let (negative, text) :=
    match text with
    | '+' :: rest => (false, rest)
    | '-' :: rest => (true, rest)
    | rest => (false, rest)
  match takeDigits text with
  | ([], _) => none
  | (digits, rest) => some (negative, digits.foldl (fun value digit => 10 * value + digit) 0, rest)

/-- Add an exponent of 32 bits; one beyond them makes the number zero or
infinite. -/
def Scaled.withExponent (number : Scaled) (negative : Bool) (size : Nat) : Option Binary64 :=
  if size < twoTo 31 then
    let exponent := if negative then number.exponent - size else number.exponent + size
    { number with exponent }.magnitude
  else if number.significand ≠ 0 && !negative then none
  else some (Binary64.zero false)

/-- The value of a binary fraction with its sign; out of range it is of no
use. -/
def signed (negative : Bool) : Option Binary64 → Json
  | none => .unusable
  | some value => .number (.binary (if negative then value.neg else value))

/-- An integer; minus zero and an integer beyond 64 bits are binary
fractions. -/
def integer (negative : Bool) (number : Scaled) : Json :=
  if number.full then signed negative number.magnitude
  else if !negative then .number (.integer number.significand)
  else if number.significand = 0 || number.significand > twoTo 63 then
    signed true (some (Binary64.ofRatio false number.significand 1))
  else .number (.integer (-number.significand))

/-- Read what follows the integer part. -/
def readTail (negative : Bool) (number : Scaled) (text : List Char) :
    Option (Json × List Char) :=
  match text with
  | '.' :: rest =>
      match takeDigits rest with
      | ([], _) => none
      | (digits, rest) =>
          -- A significand that was full in front of the point is tried once more.
          let number := digits.foldl Scaled.fraction { number with full := false }
          match rest with
          | 'e' :: rest | 'E' :: rest =>
              (readExponent rest).map fun (sign, size, rest) =>
                (signed negative (number.withExponent sign size), rest)
          | rest => some (signed negative number.magnitude, rest)
  | 'e' :: rest | 'E' :: rest =>
      (readExponent rest).map fun (sign, size, rest) =>
        (signed negative (number.withExponent sign size), rest)
  | rest => some (integer negative number, rest)

/-- Read a number without its sign. -/
def readUnsigned (negative : Bool) (text : List Char) : Option (Json × List Char) :=
  match takeDigits text with
  | ([], _) => none
  | (0 :: _ :: _, _) => none
  | (digits, rest) => readTail negative (digits.foldl Scaled.whole ⟨0, 0, false⟩) rest

/-- Read a number. -/
def read : List Char → Option (Json × List Char)
  | '-' :: rest => readUnsigned true rest
  | text => readUnsigned false text

end BuildExplorer.Json.Numeral
