import BuildExplorer.Json.Numeral
import BuildExplorer.Text.Digit

/-!
# Reading JSON

A value may be followed by blanks and by nothing else.  Texts are read with all
escapes; raw controls are refused.
-/

namespace BuildExplorer.Json.Parser

open Text (hexValue)

/-- A blank of JSON. -/
def isSpace (char : Char) : Bool :=
  char = ' ' || char = '\n' || char = '\t' || char = '\r'

/-- The text from its first character that is not blank. -/
def skipSpace (text : List Char) : List Char :=
  text.dropWhile isSpace

/-- The number that four hexadecimal digits denote. -/
def hexUnit (first second third fourth : Char) : Option Nat := do
  let first ← hexValue first
  let second ← hexValue second
  let third ← hexValue third
  let fourth ← hexValue fourth
  return ((first * 16 + second) * 16 + third) * 16 + fourth

/-- The character that a one-letter escape denotes. -/
def shortEscape : Char → Option Char
  | '"' => some '"'
  | '\\' => some '\\'
  | '/' => some '/'
  | 'b' => some '\x08'
  | 'f' => some '\x0c'
  | 'n' => some '\n'
  | 'r' => some '\r'
  | 't' => some '\t'
  | _ => none

/-- What was read of a text so far, last character first. -/
structure Draft where
  done : List Char
  /-- The first half of a surrogate pair whose second half may follow. -/
  high : Option Nat
  /-- Was there no half of a surrogate pair on its own? -/
  usable : Bool

/-- Add a character. -/
def Draft.push (draft : Draft) (char : Char) : Draft :=
  ⟨char :: draft.done, none, draft.usable && draft.high.isNone⟩

/-- Add the code unit of a numeric escape. -/
def Draft.pushUnit (draft : Draft) (unit : Nat) : Draft :=
  if 0xDC00 ≤ unit && unit < 0xE000 then
    match draft.high with
    | some high =>
        ⟨Char.ofNat (0x10000 + (high - 0xD800) * 0x400 + (unit - 0xDC00)) :: draft.done, none,
          draft.usable⟩
    | none => { draft with usable := false }
  else if 0xD800 ≤ unit && unit < 0xDC00 then
    ⟨draft.done, some unit, draft.usable && draft.high.isNone⟩
  else draft.push (Char.ofNat unit)

/-- The text that was read, unless it is of no use. -/
def Draft.text? (draft : Draft) : Option (List Char) :=
  if draft.usable && draft.high.isNone then some draft.done.reverse else none

/-- Read the rest of a text up to its closing quote. -/
def stringTail (draft : Draft) : List Char → Option (Draft × List Char)
  | [] => none
  | '"' :: rest => some (draft, rest)
  | '\\' :: 'u' :: first :: second :: third :: fourth :: rest =>
      match hexUnit first second third fourth with
      | none => none
      | some unit => stringTail (draft.pushUnit unit) rest
  | '\\' :: char :: rest =>
      match shortEscape char with
      | none => none
      | some char => stringTail (draft.push char) rest
  | char :: rest =>
      if char = '\\' || char.toNat < 32 then none else stringTail (draft.push char) rest

/-- The draft of an empty text. -/
def Draft.empty : Draft := ⟨[], none, true⟩

/-- Read a text whose opening quote was read. -/
def string (text : List Char) : Option (Json × List Char) :=
  (stringTail .empty text).map fun (draft, rest) =>
    (match draft.text? with
      | some chars => .string (String.ofList chars)
      | none => .unusable,
      rest)

/-- Read the key of a member, unless it is of no use, and the colon. -/
def key (text : List Char) : Option (Option String × List Char) :=
  match skipSpace text with
  | '"' :: rest =>
      match stringTail .empty rest with
      | none => none
      | some (draft, rest) =>
          match skipSpace rest with
          | ':' :: rest => some (draft.text?.map String.ofList, rest)
          | _ => none
  | _ => none

/-- The object of members that come last first; a key that is of no use makes it
unusable as a whole. -/
def objectOf (done : List (Option String × Json)) : Json :=
  let named := done.reverse.mapM fun (name, item) => name.map (·, item)
  match named with
  | some members => .object members
  | none => .unusable

mutual

/-- Read a value. -/
def value (fuel : Nat) (text : List Char) : Option (Json × List Char) :=
  match fuel with
  | 0 => none
  | fuel + 1 =>
      match skipSpace text with
      | 'n' :: 'u' :: 'l' :: 'l' :: rest => some (.null, rest)
      | 't' :: 'r' :: 'u' :: 'e' :: rest => some (.bool true, rest)
      | 'f' :: 'a' :: 'l' :: 's' :: 'e' :: rest => some (.bool false, rest)
      | '"' :: rest => string rest
      | '[' :: rest =>
          match skipSpace rest with
          | ']' :: rest => some (.array [], rest)
          | rest => items fuel [] rest
      | '\x7b' :: rest =>
          match skipSpace rest with
          | '\x7d' :: rest => some (.object [], rest)
          | rest => members fuel [] rest
      | rest => Numeral.read rest

/-- Read the items of an array up to its closing bracket. -/
def items (fuel : Nat) (done : List Json) (text : List Char) : Option (Json × List Char) :=
  match fuel with
  | 0 => none
  | fuel + 1 =>
      match value fuel text with
      | none => none
      | some (item, rest) =>
          match skipSpace rest with
          | ',' :: rest => items fuel (item :: done) rest
          | ']' :: rest => some (.array (item :: done).reverse, rest)
          | _ => none

/-- Read the members of an object up to its closing brace. -/
def members (fuel : Nat) (done : List (Option String × Json)) (text : List Char) :
    Option (Json × List Char) :=
  match fuel with
  | 0 => none
  | fuel + 1 =>
      match key text with
      | none => none
      | some (name, rest) =>
          match value fuel rest with
          | none => none
          | some (item, rest) =>
              match skipSpace rest with
              | ',' :: rest => members fuel ((name, item) :: done) rest
              | '\x7d' :: rest => some (objectOf ((name, item) :: done), rest)
              | _ => none

end

end BuildExplorer.Json.Parser

namespace BuildExplorer.Json

/-- Read a text that consists of one value.  Each character can be looked at by
at most two readers, which bounds the depth of the recursion. -/
def parse (text : List Char) : Option Json :=
  match Parser.value (2 * text.length + 2) text with
  | some (json, rest) => if (Parser.skipSpace rest).isEmpty then some json else none
  | none => none

end BuildExplorer.Json
