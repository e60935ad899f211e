import BuildExplorer.Diagnostic.Basic
import BuildExplorer.Diagnostic.Colour
import BuildExplorer.Text.Blank
import BuildExplorer.Text.Digit
import BuildExplorer.Text.Lines
import BuildExplorer.Text.Replace
import BuildExplorer.Text.WordChar

/-!
# Reading diagnostics

A diagnostic starts with a word for the file, then a line number, perhaps a
column, and a message: `file:line:column: message` or
`file(line,column): message`.  The request's own input file is shown as
`<source>` in every line.
-/

namespace BuildExplorer.Diagnostic

open Text

/-! ## Parts of a diagnostic -/

/-- What the request's own source is called in output. -/
def sourcePlaceholder : String :=
  "<source>"

/-- A character of a file name in a diagnostic. -/
def isPathChar (char : Char) : Bool :=
  char == '.' || char == '/' || char == '\\' || char == '-' || isWordChar char

/-- The text without its first character if that is `char`. -/
def dropOptional (char : Char) : List Char → List Char
  | first :: rest => if first = char then rest else first :: rest
  | [] => []

/-- Read one or more decimal digits. -/
def takeNumber (text : List Char) : Option (List Char × List Char) :=
  let digits := text.takeWhile isDigit
  if digits.isEmpty then none else some (digits, text.dropWhile isDigit)

/-- Read a column: a number, perhaps behind a colon or a comma and in front of
a colon. -/
def takeColumn (text : List Char) : Option (List Char × List Char) :=
  (takeNumber (dropOptional ',' (dropOptional ':' text))).map fun (digits, rest) =>
    (digits, dropOptional ':' rest)

/-- The place and the message behind the word for the file: the line number, the
column number and the message, as they are written. -/
def takePlace (text : List Char) : Option (List Char × Option (List Char) × List Char) :=
  match text with
  | first :: rest =>
      if first = '(' || first = ':' then
        (takeNumber rest).map fun (line, rest) =>
          let (column, rest) :=
            match takeColumn rest with
            | some (column, rest) => (some column, rest)
            | none => (none, rest)
          let message := trimStart (rest.dropWhile fun char => char == ')' || char == ':')
          (line, column, trim (message.takeWhile (· != '\n')))
      else none
  | [] => none

/-! ## Severity -/

/-- Does the text start with the word, in upper or lower case? -/
def startsWithWord (word text : List Char) : Bool :=
  word.isPrefixOf (text.map Char.toLower)

/-- The severity that a message announces with its first word. -/
def severityOf (message : List Char) : Severity :=
  let message := trimStart message
  if startsWithWord ['e', 'r', 'r', 'o', 'r'] message ||
      startsWithWord ['f', 'a', 't', 'a', 'l', ' ', 'e', 'r', 'r', 'o', 'r'] message then
    .error
  else if startsWithWord ['w', 'a', 'r', 'n', 'i', 'n', 'g'] message then .warning
  else .info

/-! ## Tags -/

/-- The tag for a place; none if the line number does not fit 32 bits. -/
def tagAt (file : Option String) (line : List Char) (column : Option (List Char))
    (message : List Char) : Option Tag :=
  (readUInt32 line).map fun number =>
    { line := number
      column := column.bind readUInt32
      file
      text := String.ofList message
      severity := severityOf message }

/-- The tag of a line about the request's own source. -/
def sourceTag? (line : List Char) : Option Tag := do
  let rest ← sourcePlaceholder.toList.isPrefixOf? (trimStart line)
  let (number, column, message) ← takePlace rest
  tagAt none number column message

/-- The tag of a line about another file, whose name has to hold a dot. -/
def fileTag? (line : List Char) : Option Tag := do
  let body := trimStart line
  let file := body.takeWhile isPathChar
  if file.isEmpty then none
  else
    let (number, column, message) ← takePlace (body.dropWhile isPathChar)
    if file.contains '.' then tagAt (some (String.ofList file)) number column message else none

/-- The tag of a line of text. -/
def tag? (line : List Char) : Option Tag :=
  sourceTag? (withoutColour line) <|> fileTag? (withoutColour line)

/-! ## Lines -/

/-- The text of a line with the name of the input file replaced. -/
def withPlaceholder (input : Option String) (line : List Char) : List Char :=
  match input with
  | some name => replaceAll name.toList sourcePlaceholder.toList line
  | none => line

/-- Read one line of output. -/
def ofLine (input : Option String) (line : List Char) : Line :=
  let text := withPlaceholder input line
  ⟨String.ofList text, tag? text⟩

/-- Read lines of output. -/
def ofLines (input : Option String) (lines : List String) : List Line :=
  lines.map fun line => ofLine input line.toList

/-- Read the lines of a text. -/
def ofText (input : Option String) (text : String) : List Line :=
  (lines text.toList).map (ofLine input)

@[simp]
theorem length_ofLines (input : Option String) (lines : List String) :
    (ofLines input lines).length = lines.length := by
  simp [ofLines]

end BuildExplorer.Diagnostic
