import BuildExplorer.Decimal.Binary64

/-!
# The shortest decimal text of a binary number

Among the decimals that round to a given binary number, the text shows one with
the fewest digits, and of these the nearest.  The value's two neighbours on the
grid of `n`-digit decimals are tested for `n = 1, 2, …, 17`; the first grid with
a hit wins.
-/

namespace BuildExplorer.Decimal

/-- The decimal `digits * 10 ^ exponent`. -/
structure Scientific where
  digits : Nat
  exponent : Int
  deriving DecidableEq, Repr

namespace Scientific

/-- The decimal as a fraction. -/
def ratio (decimal : Scientific) : Nat × Nat :=
  if decimal.exponent < 0 then (decimal.digits, tenTo (-decimal.exponent).toNat)
  else (decimal.digits * tenTo decimal.exponent.toNat, 1)

/-- Compare a decimal with a fraction. -/
def compareRatio (decimal : Scientific) (numerator denominator : Nat) : Ordering :=
  let (left, leftDenominator) := decimal.ratio
  compare (left * denominator) (numerator * leftDenominator)

/-- Drop zeros at the end of the digits. -/
def dropZeros (fuel : Nat) (decimal : Scientific) : Scientific :=
  match fuel with
  | 0 => decimal
  | fuel + 1 =>
      if decimal.digits % 10 = 0 && decimal.digits ≠ 0 then
        dropZeros fuel ⟨decimal.digits / 10, decimal.exponent + 1⟩
      else decimal

end Scientific

/-- Does the decimal round to `mantissa * 2 ^ exponent`?  The numbers half way
to the two neighbours round to it exactly when the mantissa is even. -/
def roundsTo (mantissa : Nat) (exponent : Int) (decimal : Scientific) : Bool :=
  let narrow := mantissa == twoTo 52 && exponent > Binary64.leastExponent
  let (lowNumerator, lowDenominator) :=
    Binary64.ratio (4 * mantissa - (if narrow then 1 else 2)) (exponent - 2)
  let (highNumerator, highDenominator) := Binary64.ratio (4 * mantissa + 2) (exponent - 2)
  let low := decimal.compareRatio lowNumerator lowDenominator
  let high := decimal.compareRatio highNumerator highDenominator
  if mantissa % 2 = 0 then low != .lt && high != .gt else low == .gt && high == .lt

/-- How many digits a positive magnitude has in front of the decimal point;
below one, minus the number of zeros right after the point. -/
def leadingPlace (mantissa : Nat) (exponent : Int) : Int :=
  let (numerator, denominator) := Binary64.ratio mantissa exponent
  if numerator ≥ denominator then
    (Nat.toDigits 10 (numerator / denominator)).length
  else
    ((Nat.toDigits 10 (numerator * tenTo 400 / denominator)).length : Int) - 400

/-- The nearest decimal of the grid with `count` digits that rounds to the
number, if there is one. -/
def nearestOnGrid (mantissa : Nat) (exponent : Int) (place : Int) (count : Nat) :
    Option Scientific :=
  let unit := place - count
  let (numerator, denominator) := Binary64.ratio mantissa exponent
  let (numerator, denominator) :=
    if unit < 0 then (numerator * tenTo (-unit).toNat, denominator)
    else (numerator, denominator * tenTo unit.toNat)
  let below : Scientific := ⟨numerator / denominator, unit⟩
  let above : Scientific := ⟨numerator / denominator + 1, unit⟩
  let twice := 2 * (numerator % denominator)
  let preferBelow := twice < denominator || (twice == denominator && below.digits % 2 == 0)
  let (first, second) := if preferBelow then (below, above) else (above, below)
  if roundsTo mantissa exponent first then some first
  else if roundsTo mantissa exponent second then some second
  else none

/-- The decimal with the fewest digits that rounds to a positive magnitude. -/
def shortest (mantissa : Nat) (exponent : Int) : Scientific :=
  let place := leadingPlace mantissa exponent
  let found := (List.range 17).findSome? fun count =>
    nearestOnGrid mantissa exponent place (count + 1)
  ((found.getD ⟨0, 0⟩).dropZeros 20)

/-- The text of a positive decimal: positional from `10 ^ -5` up to below
`10 ^ 16` and always with a fraction, otherwise with an exponent.  `plus` stands
in front of an exponent that is not negative. -/
def Scientific.text (plus : List Char) (decimal : Scientific) : List Char :=
  let digits := Nat.toDigits 10 decimal.digits
  let count := digits.length
  let place := (count : Int) + decimal.exponent
  if 0 ≤ decimal.exponent && place ≤ 16 then
    digits ++ List.replicate decimal.exponent.toNat '0' ++ ['.', '0']
  else if 0 < place && place ≤ 16 then
    digits.take place.toNat ++ '.' :: digits.drop place.toNat
  else if -5 < place && place ≤ 0 then
    ['0', '.'] ++ List.replicate (-place).toNat '0' ++ digits
  else
    let mantissa := if count = 1 then digits else digits.take 1 ++ '.' :: digits.drop 1
    let power := place - 1
    let sign := if power < 0 then ['-'] else plus
    mantissa ++ 'e' :: (sign ++ Nat.toDigits 10 power.natAbs)

/-- The text of a finite number. -/
def finiteText (plus : List Char) (negative : Bool) (mantissa : Nat) (exponent : Int) : List Char :=
  let magnitude :=
    if mantissa = 0 then ['0', '.', '0'] else (shortest mantissa exponent).text plus
  if negative then '-' :: magnitude else magnitude

end BuildExplorer.Decimal
