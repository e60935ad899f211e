import BuildExplorer.Text.Blank
import BuildExplorer.Text.Digit
import BuildExplorer.Text.WordChar

/-!
# Statements of an assembly listing

What a line of a listing is, read off its first characters: the definition of a
label, a directive, a comment, or a record of the line table.  The GNU and LLVM
assemblers name files by `.file` and positions by `.loc`; cc65 writes both at
once with `.dbg line`.
-/

namespace BuildExplorer.Listing

open Text

/-! ## Parts of a statement -/

/-- A character of a name: a word character, a dot, a dollar or an at sign. -/
def isNameChar (char : Char) : Bool :=
  char == '.' || char == '$' || char == '@' || isWordChar char

/-- Read one or more blanks. -/
def takeBlanks (text : List Char) : Option (List Char) :=
  match text with
  | char :: rest => if isBlank char then some (trimStart rest) else none
  | [] => none

/-- Read one or more decimal digits. -/
def takeDigits (text : List Char) : Option (List Char × List Char) :=
  let digits := text.takeWhile isDigit
  if digits.isEmpty then none else some (digits, text.dropWhile isDigit)

/-- Read a text between double quotes. -/
def takeQuoted (text : List Char) : Option (List Char × List Char) :=
  match text with
  | '"' :: rest =>
      match rest.dropWhile (· != '"') with
      | '"' :: after => some (rest.takeWhile (· != '"'), after)
      | _ => none
  | _ => none

/-- Read a word at the start of a line, behind any blanks. -/
def takeKeyword (keyword : List Char) (line : List Char) : Option (List Char) :=
  keyword.isPrefixOf? (trimStart line)

/-! ## Kinds of statements -/

/-- The name that a line defines as a label, and what follows the colon. -/
def labelDefinition? (line : List Char) : Option (List Char × List Char) :=
  let body := trimStart line
  let name := body.takeWhile isNameChar
  match body.dropWhile isNameChar with
  | ':' :: rest => if name.isEmpty then none else some (name, rest)
  | _ => none

/-- Does a line define a label? -/
def definesLabel (line : List Char) : Bool :=
  (labelDefinition? line).isSome

/-- Does a line start with a directive: a dot and a letter or underscore? -/
def isDirective (line : List Char) : Bool :=
  match trimStart line with
  | '.' :: char :: _ => char.isAlpha || char == '_'
  | _ => false

/-- Does a line start with a comment? -/
def isCommentOnly (line : List Char) : Bool :=
  match trimStart line with
  | '#' :: _ | ';' :: _ | '@' :: _ => true
  | '/' :: '/' :: _ => true
  | _ => false

/-! ## Records of the line table -/

/-- A record of the line table.  Numbers are kept as they are written. -/
inductive LineRecord where
  /-- `.file index "name"`, or with a directory in front of the name. -/
  | file (index : List Char) (name : List Char)
  /-- `.loc file line`, with or without a column. -/
  | location (file line : List Char) (column : Option (List Char))
  /-- `.dbg line`, followed by `, "file", line` or by nothing. -/
  | debugLine (place : Option (List Char × List Char))
  deriving DecidableEq, Repr

/-- Read `.file index "name"` or `.file index "directory" "name"`. -/
def fileRecord? (line : List Char) : Option LineRecord := do
  let rest ← takeKeyword ['.', 'f', 'i', 'l', 'e'] line
  let rest ← takeBlanks rest
  let (index, rest) ← takeDigits rest
  let rest ← takeBlanks rest
  let (name, rest) ← takeQuoted rest
  match (takeBlanks rest).bind takeQuoted with
  | some (file, _) => return .file index (name ++ '/' :: file)
  | none => return .file index name

/-- Read `.loc file line` or `.loc file line column`. -/
def locationRecord? (line : List Char) : Option LineRecord := do
  let rest ← takeKeyword ['.', 'l', 'o', 'c'] line
  let rest ← takeBlanks rest
  let (file, rest) ← takeDigits rest
  let rest ← takeBlanks rest
  let (number, rest) ← takeDigits rest
  return .location file number (((takeBlanks rest).bind takeDigits).map (·.1))

/-- Read `, "file", line` behind `.dbg line`. -/
def debugPlace? (text : List Char) : Option (List Char × List Char) :=
  match text with
  | ',' :: rest => do
      let (file, rest) ← takeQuoted (trimStart rest)
      match rest with
      | ',' :: rest => do
          let (line, _) ← takeDigits (trimStart rest)
          return (file, line)
      | _ => none
  | _ => none

/-- Read `.dbg line` and the place behind it. -/
def debugRecord? (line : List Char) : Option LineRecord := do
  let rest ← takeKeyword ['.', 'd', 'b', 'g'] line
  let rest ← takeBlanks rest
  let rest ← ['l', 'i', 'n', 'e'].isPrefixOf? rest
  return .debugLine (debugPlace? rest)

/-- The record of the line table that a line holds. -/
def lineRecord? (line : List Char) : Option LineRecord :=
  (fileRecord? line <|> locationRecord? line) <|> debugRecord? line

end BuildExplorer.Listing
