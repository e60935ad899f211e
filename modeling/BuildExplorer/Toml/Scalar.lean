import BuildExplorer.Json.Basic
import BuildExplorer.Text.Digit
import BuildExplorer.Text.Utf8

/-!
# Scalars of TOML

Strings in their four spellings, integers, binary fractions, truth values and
dates.  Every reader returns the value and the rest of the text.
-/

namespace BuildExplorer.Toml

open Decimal (Binary64)
open Text (hexValue)

/-! ## Characters -/

/-- A space or a tab. -/
def isSpace (char : Char) : Bool :=
  char == ' ' || char == '\t'

/-- A character that may stand in a comment or a string. -/
def isAllowed (char : Char) : Bool :=
  char == '\t' || (32 ≤ char.toNat && char.toNat ≠ 127)

def skipSpace (text : List Char) : List Char :=
  text.dropWhile isSpace

/-- Read a line end. -/
def takeNewline : List Char → Option (List Char)
  | '\n' :: rest => some rest
  | '\r' :: '\n' :: rest => some rest
  | _ => none

/-- Read a comment, if there is one. -/
def skipComment : List Char → List Char
  | '#' :: rest => rest.dropWhile isAllowed
  | rest => rest

/-! ## Strings -/

/-- The character with a code point, unless it is half of a surrogate pair or
out of range. -/
def charOfCode (code : Nat) : Option Char :=
  if (0xD800 ≤ code && code < 0xE000) || 0x110000 ≤ code then none else some (Char.ofNat code)

/-- Read the digits of a numeric escape. -/
def takeCode (count : Nat) (text : List Char) : Option (Char × List Char) := do
  let digits ← (text.take count).mapM hexValue
  if digits.length < count then none
  else
    let char ← charOfCode (digits.foldl (fun code digit => 16 * code + digit) 0)
    return (char, text.drop count)

/-- Read an escape whose backslash was read. -/
def takeEscape : List Char → Option (Char × List Char)
  | 'b' :: rest => some ('\x08', rest)
  | 't' :: rest => some ('\t', rest)
  | 'n' :: rest => some ('\n', rest)
  | 'f' :: rest => some ('\x0c', rest)
  | 'r' :: rest => some ('\r', rest)
  | '"' :: rest => some ('"', rest)
  | '\\' :: rest => some ('\\', rest)
  | 'u' :: rest => takeCode 4 rest
  | 'U' :: rest => takeCode 8 rest
  | _ => none

/-- Read the rest of a basic string. -/
def basicTail (fuel : Nat) (done : List Char) (text : List Char) :
    Option (List Char × List Char) :=
  match fuel with
  | 0 => none
  | fuel + 1 =>
      match text with
      | '"' :: rest => some (done.reverse, rest)
      | '\\' :: rest =>
          match takeEscape rest with
          | none => none
          | some (char, rest) => basicTail fuel (char :: done) rest
      | char :: rest => if isAllowed char then basicTail fuel (char :: done) rest else none
      | [] => none

/-- Read the rest of a literal string. -/
def literalTail (text : List Char) : Option (List Char × List Char) :=
  match text.dropWhile fun char => isAllowed char && char != '\'' with
  | '\'' :: rest => some (text.takeWhile fun char => isAllowed char && char != '\'', rest)
  | _ => none

/-- The text without one line end in front. -/
def dropNewline (text : List Char) : List Char :=
  (takeNewline text).getD text

/-- Pass blanks and line ends. -/
def skipLines (fuel : Nat) (text : List Char) : List Char :=
  match fuel with
  | 0 => text
  | fuel + 1 =>
      let text := skipSpace text
      match takeNewline text with
      | some rest => skipLines fuel rest
      | none => text

/-- Read the rest of a string of several lines up to three quotes; up to two
more quotes in front of them belong to the text.  In a basic string a backslash
at the end of a line joins it to the next word. -/
def multilineTail (quote : Char) (fuel : Nat) (done : List Char) (text : List Char) :
    Option (List Char × List Char) :=
  match fuel with
  | 0 => none
  | fuel + 1 =>
      match text with
      | [] => none
      | char :: rest =>
          if char == quote then
            let quotes := (text.takeWhile (· == quote)).length
            if quotes < 3 then
              multilineTail quote fuel (List.replicate quotes quote ++ done) (text.drop quotes)
            else
              let inside := min (quotes - 3) 2
              some ((List.replicate inside quote ++ done).reverse, text.drop (inside + 3))
          else if char == '\\' && quote == '"' then
            match takeNewline (skipSpace rest) with
            | some next => multilineTail quote fuel done (skipLines (next.length + 1) next)
            | none =>
                match takeEscape rest with
                | none => none
                | some (char, rest) => multilineTail quote fuel (char :: done) rest
          else
            match takeNewline text with
            | some rest => multilineTail quote fuel ('\n' :: done) rest
            | none =>
                if isAllowed char then multilineTail quote fuel (char :: done) rest else none

/-- Read a string on one line. -/
def takeLineString (text : List Char) : Option (List Char × List Char) :=
  match text with
  | '"' :: rest => basicTail (rest.length + 1) [] rest
  | '\'' :: rest => literalTail rest
  | _ => none

/-- Read a string. -/
def takeString (text : List Char) : Option (List Char × List Char) :=
  match text with
  | '"' :: '"' :: '"' :: rest => multilineTail '"' (rest.length + 1) [] (dropNewline rest)
  | '\'' :: '\'' :: '\'' :: rest => multilineTail '\'' (rest.length + 1) [] (dropNewline rest)
  | text => takeLineString text

/-! ## Numbers -/

/-- Read digits, between which underscores may stand. -/
def takeDigits (test : Char → Bool) (text : List Char) : Option (List Char × List Char) :=
  let run := text.takeWhile fun char => test char || char == '_'
  let pieces := run.splitOn '_'
  if pieces.any List.isEmpty then none else some (pieces.flatten, text.drop run.length)

def isHexDigit (char : Char) : Bool := (hexValue char).isSome
def isOctalDigit (char : Char) : Bool := '0' ≤ char && char ≤ '7'
def isBinaryDigit (char : Char) : Bool := char == '0' || char == '1'

/-- An integer of 64 bits with a sign. -/
def integerIn (value : Int) : Option Json :=
  if -(twoTo 63 : Int) ≤ value && value < twoTo 63 then some (.number (.integer value)) else none

/-- The number that digits of a base denote. -/
def valueOf (base : Nat) (digits : List Char) : Nat :=
  digits.foldl (fun value digit => base * value + (hexValue digit).getD 0) 0

/-- Read an integer behind the marker of a base. -/
def takeMarked (base : Nat) (test : Char → Bool) (text : List Char) :
    Option (Json × List Char) := do
  let (digits, rest) ← takeDigits test text
  return (← integerIn (valueOf base digits), rest)

/-- Read a sign. -/
def takeSign : List Char → Bool × List Char
  | '-' :: rest => (true, rest)
  | '+' :: rest => (false, rest)
  | rest => (false, rest)

/-- Read a decimal integer or a binary fraction. -/
def takeDecimal (text : List Char) : Option (Json × List Char) := do
  let (negative, body) := takeSign text
  match body with
  | 'i' :: 'n' :: 'f' :: rest => return (.number (.binary (.infinite negative)), rest)
  | 'n' :: 'a' :: 'n' :: rest => return (.number (.binary .nan), rest)
  | _ =>
      let (whole, rest) ← takeDigits Char.isDigit body
      if whole.length > 1 && whole.head? == some '0' then none
      else
        let (fraction, rest) ←
          match rest with
          | '.' :: rest => (takeDigits Char.isDigit rest).map fun (digits, rest) =>
              (some digits, rest)
          | rest => some (none, rest)
        let (exponent, rest) ←
          match rest with
          | 'e' :: rest | 'E' :: rest =>
              let (down, rest) := takeSign rest
              (takeDigits Char.isDigit rest).map fun (digits, rest) =>
                let size : Int := valueOf 10 digits
                (some (if down then -size else size), rest)
          | rest => some (none, rest)
        if fraction.isNone && exponent.isNone then
          let size : Int := valueOf 10 whole
          return (← integerIn (if negative then -size else size), rest)
        else
          let fraction := fraction.getD []
          let value := Binary64.ofDecimal negative (valueOf 10 (whole ++ fraction))
            (exponent.getD 0 - fraction.length)
          if value = .infinite false then none else return (.number (.binary value), rest)

/-- Read a number. -/
def takeNumber (text : List Char) : Option (Json × List Char) :=
  match text with
  | '0' :: 'x' :: rest => takeMarked 16 isHexDigit rest
  | '0' :: 'o' :: rest => takeMarked 8 isOctalDigit rest
  | '0' :: 'b' :: rest => takeMarked 2 isBinaryDigit rest
  | text => takeDecimal text

/-! ## Dates and times -/

/-- Read a number of exactly `count` digits from `low` to `high`. -/
def takeCount (count low high : Nat) (text : List Char) : Option (Nat × List Char) :=
  let digits := text.take count
  if digits.length = count && digits.all Char.isDigit then
    let value := Text.numeralValue digits
    if low ≤ value && value ≤ high then some (value, text.drop count) else none
  else none

/-- Read one of some characters. -/
def takeOne (chars : List Char) : List Char → Option (List Char)
  | char :: rest => if chars.contains char then some rest else none
  | [] => none

/-- The number of days of a month. -/
def daysOf (year month : Nat) : Nat :=
  if month = 2 then
    if year % 4 = 0 && (year % 100 ≠ 0 || year % 400 = 0) then 29 else 28
  else if [4, 6, 9, 11].contains month then 30
  else 31

/-- Read a date. -/
def takeDate (text : List Char) : Option (List Char) := do
  let (year, rest) ← takeCount 4 0 9999 text
  let rest ← takeOne ['-'] rest
  let (month, rest) ← takeCount 2 1 12 rest
  let rest ← takeOne ['-'] rest
  let (_, rest) ← takeCount 2 1 (daysOf year month) rest
  return rest

/-- Read a time. -/
def takeTime (text : List Char) : Option (List Char) := do
  let (_, rest) ← takeCount 2 0 23 text
  let rest ← takeOne [':'] rest
  let (_, rest) ← takeCount 2 0 59 rest
  let rest ← takeOne [':'] rest
  let (_, rest) ← takeCount 2 0 60 rest
  match rest with
  | '.' :: fraction =>
      if (fraction.takeWhile Char.isDigit).isEmpty then return rest
      else return fraction.dropWhile Char.isDigit
  | rest => return rest

/-- Read the offset of a time from universal time, if there is one. -/
def takeOffset (text : List Char) : Option (List Char) :=
  match text with
  | 'Z' :: rest | 'z' :: rest => some rest
  | '+' :: rest | '-' :: rest => do
      let (_, rest) ← takeCount 2 0 23 rest
      let rest ← takeOne [':'] rest
      let (_, rest) ← takeCount 2 0 59 rest
      return rest
  | rest => some rest

/-- Read a date with or without a time, or a time alone. -/
def takeDateTime (text : List Char) : Option (List Char) :=
  match takeDate text with
  | some rest =>
      match (takeOne ['T', 't', ' '] rest).bind takeTime with
      | some rest => takeOffset rest
      | none => some rest
  | none => takeTime text

/-- A date as a value: a record that no field of a configuration can use. -/
def dateValue (text : List Char) : Json :=
  .object [("$__toml_private_datetime", .string (String.ofList text))]

end BuildExplorer.Toml
