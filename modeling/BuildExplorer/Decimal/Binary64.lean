import BuildExplorer.Power

/-!
# Binary floating-point numbers of 64 bits

A finite number is a mantissa below `2 ^ 53` times a power of two, in the form
with the largest mantissa that the least exponent allows, so that equal numbers
have equal forms (up to the sign of zero).  All arithmetic is exact on natural
numbers and is rounded once, to the nearest number and on a tie to the even
mantissa.
-/

namespace BuildExplorer.Decimal

/-- A number of the 64-bit binary format. -/
inductive Binary64 where
  /-- The number `± mantissa * 2 ^ exponent`. -/
  | finite (negative : Bool) (mantissa : Nat) (exponent : Int)
  | infinite (negative : Bool)
  | nan
  deriving DecidableEq, Repr

namespace Binary64

/-- The least exponent of a finite number. -/
def leastExponent : Int := -1074

/-- The greatest exponent of a finite number. -/
def greatestExponent : Int := 971

/-- Zero with a sign. -/
def zero (negative : Bool) : Binary64 :=
  .finite negative 0 leastExponent

def isFinite : Binary64 → Bool
  | .finite .. => true
  | _ => false

/-- The quotient rounded to the nearest natural number, on a tie to the even
one. -/
def roundDiv (numerator denominator : Nat) : Nat :=
  let quotient := numerator / denominator
  let twice := 2 * (numerator % denominator)
  if twice > denominator || (twice == denominator && quotient % 2 == 1) then
    quotient + 1
  else
    quotient

/-- `numerator / (denominator * 2 ^ exponent)` as a fraction. -/
def scaled (numerator denominator : Nat) (exponent : Int) : Nat × Nat :=
  if exponent < 0 then
    (numerator * twoTo (-exponent).toNat, denominator)
  else
    (numerator, denominator * twoTo exponent.toNat)

/-- The number nearest to a fraction. -/
def ofRatio (negative : Bool) (numerator denominator : Nat) : Binary64 :=
  if numerator = 0 then zero negative
  else
    let guess : Int := max ((numerator.log2 : Int) - denominator.log2 - 52) leastExponent
    let (scaledNumerator, scaledDenominator) := scaled numerator denominator guess
    let exponent :=
      if scaledNumerator / scaledDenominator < twoTo 52 && guess > leastExponent then guess - 1
      else guess
    let (scaledNumerator, scaledDenominator) := scaled numerator denominator exponent
    let mantissa := roundDiv scaledNumerator scaledDenominator
    let (mantissa, exponent) :=
      if mantissa = twoTo 53 then (twoTo 52, exponent + 1) else (mantissa, exponent)
    if exponent > greatestExponent then .infinite negative
    else if mantissa = 0 then zero negative
    else .finite negative mantissa exponent

/-- A finite magnitude as a fraction. -/
def ratio (mantissa : Nat) (exponent : Int) : Nat × Nat :=
  if exponent < 0 then (mantissa, twoTo (-exponent).toNat) else (mantissa * twoTo exponent.toNat, 1)

/-- The number nearest to `digits * 10 ^ exponent`.  A power of ten far outside
of the format is not computed. -/
def ofDecimal (negative : Bool) (digits : Nat) (exponent : Int) : Binary64 :=
  let magnitude := exponent + (Nat.toDigits 10 digits).length
  if digits = 0 || magnitude < -400 then zero negative
  else if magnitude > 400 then .infinite negative
  else if exponent < 0 then ofRatio negative digits (tenTo (-exponent).toNat)
  else ofRatio negative (digits * tenTo exponent.toNat) 1

def neg : Binary64 → Binary64
  | .finite negative mantissa exponent => .finite (!negative) mantissa exponent
  | .infinite negative => .infinite (!negative)
  | .nan => .nan

/-- The product of two finite magnitudes, rounded. -/
def mulMagnitude : Binary64 → Binary64 → Binary64
  | .finite _ mantissa exponent, .finite _ mantissa' exponent' =>
      let (numerator, denominator) := ratio mantissa exponent
      let (numerator', denominator') := ratio mantissa' exponent'
      ofRatio false (numerator * numerator') (denominator * denominator')
  | _, _ => .nan

/-- The quotient of two finite magnitudes, rounded. -/
def divMagnitude : Binary64 → Binary64 → Binary64
  | .finite _ mantissa exponent, .finite _ mantissa' exponent' =>
      let (numerator, denominator) := ratio mantissa exponent
      let (numerator', denominator') := ratio mantissa' exponent'
      ofRatio false (numerator * denominator') (denominator * numerator')
  | _, _ => .nan

/-- Are the two numbers the same number?  Zero has two signs and not-a-number
is the same as itself. -/
def same : Binary64 → Binary64 → Bool
  | .finite negative mantissa exponent, .finite negative' mantissa' exponent' =>
      mantissa == mantissa' && exponent == exponent' && (negative == negative' || mantissa == 0)
  | left, right => left == right

end Binary64

end BuildExplorer.Decimal
