/-!
# Places in a YAML stream

YAML gives meaning to columns and lines, so the reader of a stream carries a
cursor: the rest of the stream and where it starts.
-/

namespace BuildExplorer.Yaml

/-! ## Characters -/

/-- A character that may stand in a stream at all. -/
def isAllowed (char : Char) : Bool :=
  let code := char.toNat
  code == 0x09 || code == 0x0A || code == 0x0D || (0x20 ≤ code && code ≤ 0x7E) ||
    code == 0x85 || (0xA0 ≤ code && code ≤ 0xFFFD) || 0x10000 ≤ code

/-- A character that ends a line. -/
def isBreak (char : Char) : Bool :=
  char == '\n' || char == '\r' || char == '\x85' || char == '\u2028' || char == '\u2029'

/-- A space or a tab. -/
def isGap (char : Char) : Bool :=
  char == ' ' || char == '\t'

/-- A space, a tab or the end of a line. -/
def isGapOrBreak (char : Char) : Bool :=
  isGap char || isBreak char

/-- A character of the name of an anchor or of a directive. -/
def isNameChar (char : Char) : Bool :=
  char.isAlphanum || char == '_' || char == '-'

/-- Is the text empty, or does it start with a blank or the end of a line? -/
def endsWord : List Char → Bool
  | [] => true
  | char :: _ => isGapOrBreak char

/-- Is the text empty, or does it start with the end of a line? -/
def endsLine : List Char → Bool
  | [] => true
  | char :: _ => isBreak char

/-- How many bytes a text takes. -/
def byteCount (text : List Char) : Nat :=
  text.foldl (fun count char => count + char.utf8Size) 0

/-! ## Cursors -/

/-- The rest of a stream and the place where it starts, counted from zero: how
many bytes of the whole stream, how many lines, and how many characters of its
line stand in front of it. -/
structure Cursor where
  rest : List Char
  offset : Nat := 0
  line : Nat := 0
  column : Nat := 0
  deriving Repr

namespace Cursor

/-- Pass one character, which ends no line. -/
def skip (cursor : Cursor) : Cursor :=
  match cursor.rest with
  | [] => cursor
  | char :: rest =>
      { cursor with
        rest
        offset := cursor.offset + char.utf8Size
        column := cursor.column + 1 }

/-- Pass some characters, none of which ends a line. -/
def skipMany (count : Nat) (cursor : Cursor) : Cursor :=
  { cursor with
    rest := cursor.rest.drop count
    offset := cursor.offset + byteCount (cursor.rest.take count)
    column := cursor.column + count }

/-- Pass the longest run of characters of a class that holds no end of a
line. -/
def skipWhile (test : Char → Bool) (cursor : Cursor) : Cursor :=
  cursor.skipMany (cursor.rest.takeWhile test).length

/-- The cursor at the start of the next line, behind a line end of `count`
bytes. -/
def nextLine (cursor : Cursor) (rest : List Char) (count : Nat) : Cursor :=
  { rest, offset := cursor.offset + count, line := cursor.line + 1, column := 0 }

/-- Read the end of a line, if one starts here: a line feed stands for all
spellings but the two Unicode separators. -/
def takeBreak (cursor : Cursor) : List Char × Cursor :=
  match cursor.rest with
  | '\r' :: '\n' :: rest => (['\n'], cursor.nextLine rest 2)
  | char :: rest =>
      if char == '\u2028' || char == '\u2029' then
        ([char], cursor.nextLine rest char.utf8Size)
      else if isBreak char then (['\n'], cursor.nextLine rest char.utf8Size)
      else ([], cursor)
  | [] => ([], cursor)

/-- Is this a line that starts or ends a document? -/
def atDocumentMarker (cursor : Cursor) : Bool :=
  cursor.column == 0 &&
    match cursor.rest with
    | '-' :: '-' :: '-' :: rest => endsWord rest
    | '.' :: '.' :: '.' :: rest => endsWord rest
    | _ => false

/-- Pass blanks and a comment up to the end of the line; nothing else may stand
there. -/
def skipToLineEnd (cursor : Cursor) : Option Cursor :=
  let cursor := cursor.skipWhile isGap
  let cursor :=
    match cursor.rest with
    | '#' :: _ => cursor.skipWhile (!isBreak ·)
    | _ => cursor
  if endsLine cursor.rest then some cursor.takeBreak.2 else none

end Cursor

end BuildExplorer.Yaml
