import BuildExplorer.Decimal.Shortest
import BuildExplorer.Json.Basic

/-!
# Writing JSON

The compact form has no blanks at all.  The indented form puts each member on a
line of its own, two spaces deeper than its container; an empty container stays
on one line.
-/

namespace BuildExplorer.Json

/-- A hexadecimal digit in lower case. -/
def hexDigit (value : Nat) : Char :=
  Nat.digitChar value

/-- How one character stands inside the quotes: the quote, the backslash and
the controls are escaped, all else stands as it is. -/
def escape (char : Char) : List Char :=
  if char = '"' then ['\\', '"']
  else if char = '\\' then ['\\', '\\']
  else if char = '\n' then ['\\', 'n']
  else if char = '\r' then ['\\', 'r']
  else if char = '\t' then ['\\', 't']
  else if char = '\x08' then ['\\', 'b']
  else if char = '\x0c' then ['\\', 'f']
  else if char.toNat < 32 then
    ['\\', 'u', '0', '0', hexDigit (char.toNat / 16), hexDigit (char.toNat % 16)]
  else [char]

/-- A text between double quotes. -/
def printString (text : String) : List Char :=
  '"' :: text.toList.flatMap escape ++ ['"']

/-- An integer in decimal digits. -/
def printInt (value : Int) : List Char :=
  match value with
  | .ofNat magnitude => Nat.toDigits 10 magnitude
  | .negSucc magnitude => '-' :: Nat.toDigits 10 (magnitude + 1)

/-- A number; a positive exponent has a sign, and a number that JSON has no
spelling for is `null`. -/
def printNumber : Number → List Char
  | .integer value => printInt value
  | .binary (.finite negative mantissa exponent) =>
      Decimal.finiteText ['+'] negative mantissa exponent
  | .binary _ => ['n', 'u', 'l', 'l']

mutual

/-- The compact form of a value. -/
def compact : Json → List Char
  | .null => ['n', 'u', 'l', 'l']
  | .bool true => ['t', 'r', 'u', 'e']
  | .bool false => ['f', 'a', 'l', 's', 'e']
  | .number value => printNumber value
  | .string value => printString value
  | .array items => '[' :: [','].intercalate (compactItems items) ++ [']']
  | .object members => '\x7b' :: [','].intercalate (compactMembers members) ++ ['\x7d']
  | .unusable => ['n', 'u', 'l', 'l']

def compactItems : List Json → List (List Char)
  | [] => []
  | item :: items => compact item :: compactItems items

def compactMembers : List (String × Json) → List (List Char)
  | [] => []
  | (key, value) :: members =>
      (printString key ++ ':' :: compact value) :: compactMembers members

end

/-- A line break followed by the indentation of the given depth. -/
def newline (depth : Nat) : List Char :=
  '\n' :: List.replicate (2 * depth) ' '

/-- A container whose parts stand on lines of their own. -/
def block (opening closing : Char) (depth : Nat) (parts : List (List Char)) : List Char :=
  if parts.isEmpty then [opening, closing]
  else
    opening :: [','].intercalate (parts.map (newline (depth + 1) ++ ·)) ++
      newline depth ++ [closing]

mutual

/-- The indented form of a value whose container has the given depth. -/
def indented (depth : Nat) : Json → List Char
  | .array items => block '[' ']' depth (indentedItems (depth + 1) items)
  | .object members => block '\x7b' '\x7d' depth (indentedMembers (depth + 1) members)
  | .null => ['n', 'u', 'l', 'l']
  | .bool true => ['t', 'r', 'u', 'e']
  | .bool false => ['f', 'a', 'l', 's', 'e']
  | .number value => printNumber value
  | .string value => printString value
  | .unusable => ['n', 'u', 'l', 'l']

def indentedItems (depth : Nat) : List Json → List (List Char)
  | [] => []
  | item :: items => indented depth item :: indentedItems depth items

def indentedMembers (depth : Nat) : List (String × Json) → List (List Char)
  | [] => []
  | (key, value) :: members =>
      (printString key ++ ':' :: ' ' :: indented depth value) :: indentedMembers depth members

end

end BuildExplorer.Json
