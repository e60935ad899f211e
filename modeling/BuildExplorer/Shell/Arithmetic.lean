import BuildExplorer.Power
import BuildExplorer.Shell.Word

/-!
# Arithmetic of the shell

Whole numbers of 64 bits with the usual operators.  A name stands for the value
of its variable, and may be given a value in passing.  An expression is read as
a whole before any of it is evaluated.
-/

namespace BuildExplorer.Shell.Arithmetic

/-! ## Numbers -/

/-- The number of 64 bits that a whole number wraps to. -/
def wrap (value : Int) : Int :=
  value.bmod (twoTo 64)

/-- The nearest number of 64 bits. -/
def saturate (value : Int) : Int :=
  max (-twoTo 63) (min value (twoTo 63 - 1))

/-- A number in decimal digits. -/
def numeral (value : Int) : List Char :=
  value.repr.toList

/-- The number for digits of a base. -/
def valueOf (base : Nat) (digits : List Char) : Nat :=
  digits.foldl (fun value digit => base * value + (Text.hexValue digit).getD 0) 0

/-- Read digits at the front of a text: decimal, octal behind a zero, or hexadecimal
behind `0x`. -/
def magnitude (text : List Char) : Nat × List Char :=
  let isOctal (char : Char) : Bool := '0' ≤ char && char ≤ '7'
  let isHex (char : Char) : Bool := (Text.hexValue char).isSome
  let read (base : Nat) (isPart : Char → Bool) (text : List Char) :=
    (valueOf base (text.takeWhile isPart), text.dropWhile isPart)
  match text with
  | '0' :: mark :: digit :: rest =>
      if (mark = 'x' ∨ mark = 'X') ∧ isHex digit then read 16 isHex (digit :: rest)
      else read 8 isOctal text
  | '0' :: _ => read 8 isOctal text
  | text => read 10 Char.isDigit text

/-- Read an unsigned number at the front of a text. -/
def unsigned (text : List Char) : Int × List Char :=
  let (value, rest) := magnitude text
  (saturate value, rest)

/-- Read a signed number of any size at the front of a text that has one there. -/
def integerAt? (text : List Char) : Option (Int × List Char) :=
  let isNegative := text.head? = some '-'
  let digits := if isNegative || text.head? = some '+' then text.drop 1 else text
  if digits.head?.any Char.isDigit then
    let (value, rest) := magnitude digits
    some (if isNegative then -value else value, rest)
  else none

/-- The number that a text spells as a whole in decimal digits. -/
def decimal? (text : List Char) : Option Int :=
  let text := ((text.dropWhile (· == ' ')).reverse.dropWhile (· == ' ')).reverse
  match text with
  | '-' :: digits => (Text.readNumeral (twoTo 63) digits).map fun value => -(value : Int)
  | '+' :: digits => (Text.readNumeral (twoTo 63) digits).map Int.ofNat
  | digits => (Text.readNumeral (twoTo 63) digits).map Int.ofNat

/-- The number that a text spells as a whole in any base. -/
def literal? (text : List Char) : Option Int :=
  match integerAt? text with
  | some (value, []) => some (saturate value)
  | _ => none

/-! ## Expressions -/

/-- An expression. -/
inductive Expr where
  | number (value : Int)
  | variable (name : List Char)
  /-- Give a variable a value; with an operator, apply it to the old value. -/
  | assign (name : List Char) (operator : Option String) (value : Expr)
  | unary (operator : String) (operand : Expr)
  | binary (operator : String) (left right : Expr)
  | choose (condition first second : Expr)
  deriving Repr

/-- Why an expression has no value. -/
inductive Fault where
  | noPrimary
  | notOver
  | noParenthesis
  | noColon
  | divisionByZero
  /-- A variable that holds no number. -/
  | notNumber (text : List Char)
  deriving DecidableEq, Repr

/-- The operators with two sides, by how tightly they bind. -/
def levels : List (List String) :=
  [["||"], ["&&"], ["|"], ["^"], ["&"], ["==", "!="], ["<=", ">=", "<", ">"], ["<<", ">>"],
    ["+", "-"], ["*", "/", "%"]]

/-- The operators that give a variable a value. -/
def assignments : List String :=
  ["<<=", ">>=", "+=", "-=", "*=", "/=", "%=", "&=", "|=", "^=", "="]

/-- The signs of expressions, the longer ones first. -/
def signs : List String :=
  ["<<=", ">>=", "||", "&&", "==", "!=", "<=", ">=", "<<", ">>", "+=", "-=", "*=", "/=", "%=",
    "&=", "|=", "^=", "|", "^", "&", "<", ">", "+", "-", "*", "/", "%", "=", "?", ":", "(", ")",
    "!", "~"]

/-- The signs with their characters. -/
def spelledSigns : List (String × List Char) :=
  signs.map fun sign => (sign, sign.toList)

/-- Pass over blanks. -/
def skipBlanks (text : List Char) : List Char :=
  text.dropWhile fun char => char = ' ' ∨ char = '\t' ∨ char = '\n'

/-- The sign at the front of a text. -/
def sign? (text : List Char) : Option (String × List Char) :=
  match skipBlanks text with
  | [] => none
  | text =>
      spelledSigns.findSome? fun (sign, chars) =>
        (chars.isPrefixOf? text).map fun rest => (sign, rest)

/-- The name at the front of a text. -/
def name? (text : List Char) : Option (List Char × List Char) :=
  match skipBlanks text with
  | first :: rest =>
      if isNameStart first then
        let text := first :: rest
        some (text.takeWhile isNamePart, text.dropWhile isNamePart)
      else none
  | [] => none

/-- What was read, and the text behind it. -/
abbrev Reading (Found : Type) : Type :=
  Found × List Char

mutual

/-- Read an expression that may give a variable a value. -/
def assignment : Nat → List Char → Except Fault (Reading Expr)
  | 0, _ => .error .noPrimary
  | fuel + 1, text =>
      match name? text with
      | none => condition fuel text
      | some (name, rest) =>
          match sign? rest with
          | some (sign, rest) =>
              if assignments.contains sign then do
                let (value, rest) ← assignment fuel rest
                let operator :=
                  if sign = "=" then none else some (String.ofList sign.toList.dropLast)
                return (.assign name operator value, rest)
              else condition fuel text
          | none => condition fuel text

/-- Read a choice between two expressions, or one that is none. -/
def condition : Nat → List Char → Except Fault (Reading Expr)
  | 0, _ => .error .noPrimary
  | fuel + 1, text => do
      let (first, rest) ← level fuel levels text
      match sign? rest with
      | some ("?", rest) =>
          let (second, rest) ← assignment fuel rest
          match sign? rest with
          | some (":", rest) =>
              let (third, rest) ← condition fuel rest
              return (.choose first second third, rest)
          | _ => .error .noColon
      | _ => return (first, rest)

/-- Read an expression whose operators bind at least as tightly as the first of
the levels. -/
def level : Nat → List (List String) → List Char → Except Fault (Reading Expr)
  | 0, _, _ => .error .noPrimary
  | fuel + 1, [], text => primary fuel text
  | fuel + 1, operators :: tighter, text => do
      let (left, rest) ← level fuel tighter text
      further fuel operators tighter left rest

/-- Read what follows the left side of an operator. -/
def further :
    Nat → List String → List (List String) → Expr → List Char → Except Fault (Reading Expr)
  | 0, _, _, _, _ => .error .noPrimary
  | fuel + 1, operators, tighter, left, text =>
      match sign? text with
      | some (sign, rest) =>
          if operators.contains sign then do
            let (right, rest) ← level fuel tighter rest
            further fuel operators tighter (.binary sign left right) rest
          else .ok (left, text)
      | none => .ok (left, text)

/-- Read a number, a name, a sign with what it applies to, or an expression in
parentheses. -/
def primary : Nat → List Char → Except Fault (Reading Expr)
  | 0, _ => .error .noPrimary
  | fuel + 1, text =>
      match skipBlanks text with
      | [] => .error .noPrimary
      | first :: rest =>
          if first.isDigit then
            let (value, rest) := unsigned (first :: rest)
            .ok (.number value, rest)
          else
            match name? (first :: rest) with
            | some (name, rest) => .ok (.variable name, rest)
            | none =>
                match sign? (first :: rest) with
                | some ("(", rest) => do
                    let (inner, rest) ← assignment fuel rest
                    match sign? rest with
                    | some (")", rest) => return (inner, rest)
                    | _ => .error .noParenthesis
                | some (sign, rest) =>
                    if ["+", "-", "!", "~"].contains sign then do
                      let (operand, rest) ← primary fuel rest
                      return (.unary sign operand, rest)
                    else .error .noPrimary
                | none => .error .noPrimary

end

/-- Read a text as an expression. -/
def Expr.ofText? (text : List Char) : Except Fault Expr := do
  let (expr, rest) ← assignment (20 * text.length + 40) text
  if (skipBlanks rest).isEmpty then return expr else .error .notOver

/-! ## Values -/

/-- The values of variables, and those that were given in passing. -/
abbrev Bindings := List (List Char × List Char)

/-- A truth value as a number. -/
def ofBool (value : Bool) : Int :=
  if value then 1 else 0

/-- The bits of a number as a natural number, and back. -/
def bitwise (operation : Nat → Nat → Nat) (left right : Int) : Int :=
  wrap (operation (left.emod (twoTo 64)).toNat (right.emod (twoTo 64)).toNat)

/-- Apply an operator with two sides; nothing can be divided by zero. -/
def apply (operator : String) (left right : Int) : Except Fault Int :=
  match operator with
  | "|" => .ok (bitwise (· ||| ·) left right)
  | "^" => .ok (bitwise (· ^^^ ·) left right)
  | "&" => .ok (bitwise (· &&& ·) left right)
  | "==" => .ok (ofBool (left == right))
  | "!=" => .ok (ofBool (left != right))
  | "<=" => .ok (ofBool (left ≤ right))
  | ">=" => .ok (ofBool (left ≥ right))
  | "<" => .ok (ofBool (left < right))
  | ">" => .ok (ofBool (left > right))
  | "<<" => .ok (wrap (left * twoTo (right.emod 64).toNat))
  | ">>" => .ok (left.fdiv (twoTo (right.emod 64).toNat))
  | "+" => .ok (wrap (left + right))
  | "-" => .ok (wrap (left - right))
  | "*" => .ok (wrap (left * right))
  | "/" => if right = 0 then .error .divisionByZero else .ok (wrap (left.tdiv right))
  | "%" => if right = 0 then .error .divisionByZero else .ok (left.tmod right)
  | _ => .error .noPrimary

/-- Apply an operator with one side. -/
def applyUnary (operator : String) (operand : Int) : Int :=
  match operator with
  | "-" => wrap (-operand)
  | "!" => ofBool (operand == 0)
  | "~" => -operand - 1
  | _ => operand

/-- The number that a variable holds; a missing or empty one counts as zero. -/
def lookUp (bindings : Bindings) (name : List Char) : Except Fault Int :=
  match (bindings.lookup name).getD [] with
  | [] => .ok 0
  | text =>
      match literal? text with
      | some value => .ok value
      | none => .error (.notNumber text)

/-- The value of an expression, and the variables after it. -/
def Expr.evaluate (bindings : Bindings) : Expr → Except Fault (Int × Bindings)
  | .number value => .ok (value, bindings)
  | .variable name => do return (← lookUp bindings name, bindings)
  | .assign name operator value => do
      let (value, bindings) ← value.evaluate bindings
      let value ← match operator with
        | none => pure value
        | some operator => apply operator (← lookUp bindings name) value
      return (value, (name, numeral value) :: bindings)
  | .unary operator operand => do
      let (value, bindings) ← operand.evaluate bindings
      return (applyUnary operator value, bindings)
  | .binary operator left right => do
      let (first, bindings) ← left.evaluate bindings
      if operator = "||" ∧ first ≠ 0 then return (1, bindings)
      else if operator = "&&" ∧ first = 0 then return (0, bindings)
      else
        let (second, bindings) ← right.evaluate bindings
        if operator = "||" ∨ operator = "&&" then return (ofBool (second != 0), bindings)
        else return (← apply operator first second, bindings)
  | .choose condition first second => do
      let (value, bindings) ← condition.evaluate bindings
      if value ≠ 0 then first.evaluate bindings else second.evaluate bindings

/-- The value of a text, and the variables that were given values, the latest
first. -/
def evaluate (bindings : Bindings) (text : List Char) : Except Fault (Int × Bindings) := do
  let expr ← Expr.ofText? text
  let (value, after) ← expr.evaluate bindings
  return (value, after.take (after.length - bindings.length))

/-- The wording of a fault in an expression. -/
def Fault.message (text : List Char) : Fault → String
  | .notNumber text => "Illegal number: " ++ String.ofList text
  | fault =>
      let what :=
        match fault with
        | .noPrimary => "expecting primary"
        | .notOver => "expecting EOF"
        | .noParenthesis => "expecting ')'"
        | .noColon => "expecting ':'"
        | _ => "division by zero"
      "arithmetic expression: " ++ what ++ ": \"" ++ String.ofList text ++ "\""

end BuildExplorer.Shell.Arithmetic
