import BuildExplorer.Text.Digit
import BuildExplorer.Yaml.Cursor

/-!
# Scalars of a YAML stream

Reading the text of a quoted, plain or block scalar.  Between two words of a
flow scalar a single line end becomes a space, and further line ends are kept.
-/

namespace BuildExplorer.Yaml.Scalar

/-! ## Gaps between words -/

/-- What stands between two words. -/
structure Gap where
  /-- The blanks in front of the first line end, last character first. -/
  spaces : List Char := []
  /-- The first line end. -/
  first : List Char := []
  /-- The further line ends. -/
  more : List Char := []
  /-- Was there a line end? -/
  broken : Bool := false

/-- What a gap contributes to the text. -/
def Gap.text (gap : Gap) : List Char :=
  if gap.broken then
    if gap.first = ['\n'] then
      if gap.more.isEmpty then [' '] else gap.more
    else gap.first ++ gap.more
  else gap.spaces.reverse

/-- Read blanks and line ends.  Where `indent` is given, a tab in front of that
column on a new line is refused. -/
def takeGap (indent : Option Int) (fuel : Nat) (gap : Gap) (cursor : Cursor) :
    Option (Gap × Cursor) :=
  match fuel with
  | 0 => none
  | fuel + 1 =>
      match cursor.rest with
      | [] => some (gap, cursor)
      | char :: _ =>
          if isGap char then
            let misplaced :=
              match indent with
              | some indent => gap.broken && (cursor.column : Int) < indent && char == '\t'
              | none => false
            if misplaced then none
            else if gap.broken then takeGap indent fuel gap cursor.skip
            else takeGap indent fuel { gap with spaces := char :: gap.spaces } cursor.skip
          else if isBreak char then
            let (text, cursor) := cursor.takeBreak
            if gap.broken then takeGap indent fuel { gap with more := gap.more ++ text } cursor
            else takeGap indent fuel { gap with spaces := [], first := text, broken := true } cursor
          else some (gap, cursor)

/-! ## Quoted scalars -/

/-- The character that a one-letter escape denotes. -/
def shortEscape : Char → Option Char
  | '0' => some '\x00'
  | 'a' => some '\x07'
  | 'b' => some '\x08'
  | 't' | '\t' => some '\t'
  | 'n' => some '\n'
  | 'v' => some '\x0b'
  | 'f' => some '\x0c'
  | 'r' => some '\r'
  | 'e' => some '\x1b'
  | ' ' => some ' '
  | '"' => some '"'
  | '/' => some '/'
  | '\\' => some '\\'
  | 'N' => some '\x85'
  | '_' => some '\xa0'
  | 'L' => some '\u2028'
  | 'P' => some '\u2029'
  | _ => none

/-- How many hexadecimal digits follow the letter of a numeric escape. -/
def escapeLength : Char → Option Nat
  | 'x' => some 2
  | 'u' => some 4
  | 'U' => some 8
  | _ => none

/-- The character with a code point, unless it is half of a surrogate pair or
out of range. -/
def charOfCode (code : Nat) : Option Char :=
  if (0xD800 ≤ code && code < 0xE000) || 0x110000 ≤ code then none else some (Char.ofNat code)

/-- Read an escape whose backslash was read. -/
def takeEscape (cursor : Cursor) : Option (Char × Cursor) :=
  match cursor.rest with
  | [] => none
  | letter :: rest =>
      match escapeLength letter with
      | some count => do
          let digits ← (rest.take count).mapM Text.hexValue
          if digits.length < count then none
          else
            let char ← charOfCode (digits.foldl (fun code digit => 16 * code + digit) 0)
            return (char, cursor.skipMany (count + 1))
      | none => (shortEscape letter).map fun char => (char, cursor.skip)

/-- How a word of a quoted scalar ended. -/
inductive WordEnd where
  /-- At a blank, a line end, the closing quote or the end of the stream. -/
  | plain
  /-- At an escaped line end. -/
  | escapedBreak

/-- Read a word of a single-quoted scalar; `done` holds the text so far, last
character first. -/
def takeSingleWord (fuel : Nat) (done : List Char) (cursor : Cursor) :
    Option (WordEnd × List Char × Cursor) :=
  match fuel with
  | 0 => none
  | fuel + 1 =>
      match cursor.rest with
      | [] => some (.plain, done, cursor)
      | '\'' :: '\'' :: _ => takeSingleWord fuel ('\'' :: done) (cursor.skipMany 2)
      | char :: _ =>
          if char == '\'' || isGapOrBreak char then some (.plain, done, cursor)
          else takeSingleWord fuel (char :: done) cursor.skip

/-- Read a word of a double-quoted scalar. -/
def takeDoubleWord (fuel : Nat) (done : List Char) (cursor : Cursor) :
    Option (WordEnd × List Char × Cursor) :=
  match fuel with
  | 0 => none
  | fuel + 1 =>
      match cursor.rest with
      | [] => some (.plain, done, cursor)
      | '\\' :: next :: _ =>
          if isBreak next then some (.escapedBreak, done, cursor.skip.takeBreak.2)
          else
            match takeEscape cursor.skip with
            | none => none
            | some (char, cursor) => takeDoubleWord fuel (char :: done) cursor
      | char :: _ =>
          if char == '\\' then none
          else if char == '"' || isGapOrBreak char then some (.plain, done, cursor)
          else takeDoubleWord fuel (char :: done) cursor.skip

/-- Read a quoted scalar up to its closing quote. -/
def takeQuoted (quote : Char) (fuel : Nat) (done : List Char) (cursor : Cursor) :
    Option (List Char × Cursor) :=
  match fuel with
  | 0 => none
  | fuel + 1 =>
      if cursor.atDocumentMarker || cursor.rest.isEmpty then none
      else
        let word :=
          if quote == '\'' then takeSingleWord (cursor.rest.length + 1) done cursor
          else takeDoubleWord (cursor.rest.length + 1) done cursor
        match word with
        | none => none
        | some (wordEnd, done, cursor) =>
            if cursor.rest.head? == some quote then some (done.reverse, cursor.skip)
            else
              let gap : Gap :=
                match wordEnd with
                | .plain => {}
                | .escapedBreak => { broken := true }
              match takeGap none (cursor.rest.length + 1) gap cursor with
              | none => none
              | some (gap, cursor) => takeQuoted quote fuel (gap.text.reverse ++ done) cursor

/-- Read a quoted scalar that starts here. -/
def quoted (cursor : Cursor) : Option (List Char × Cursor) :=
  match cursor.rest with
  | [] => none
  | quote :: rest => takeQuoted quote (rest.length + 2) [] cursor.skip

/-! ## Plain scalars -/

/-- An indicator of a flow collection. -/
def isFlowIndicator (char : Char) : Bool :=
  char == ',' || char == '[' || char == ']' || char == '\x7b' || char == '\x7d'

/-- Read a word of a plain scalar, which ends at a blank, at a colon in front of
a blank and, in a flow collection, at an indicator. -/
def takePlainWord (inFlow : Bool) (fuel : Nat) (done : List Char) (cursor : Cursor) :
    Option (List Char × Cursor) :=
  match fuel with
  | 0 => none
  | fuel + 1 =>
      match cursor.rest with
      | [] => some (done, cursor)
      | char :: rest =>
          if isGapOrBreak char then some (done, cursor)
          else if inFlow && char == ':' &&
              rest.head?.any fun next => isFlowIndicator next || next == '?' then none
          else if char == ':' && endsWord rest then some (done, cursor)
          else if inFlow && isFlowIndicator char then some (done, cursor)
          else takePlainWord inFlow fuel (char :: done) cursor.skip

/-- Read the words of a plain scalar whose further lines are indented to
`indent`.  The gap in front of the next word is known; with the text comes
whether the scalar is followed by a line end. -/
def takePlain (inFlow : Bool) (indent : Int) (fuel : Nat) (gap : Gap) (done : List Char)
    (cursor : Cursor) : Option (List Char × Bool × Cursor) :=
  match fuel with
  | 0 => none
  | fuel + 1 =>
      if cursor.atDocumentMarker || cursor.rest.head? == some '#' then
        some (done.reverse, gap.broken, cursor)
      else
        match takePlainWord inFlow (cursor.rest.length + 1) [] cursor with
        | none => none
        | some (word, after) =>
            let (done, gap) :=
              if word.isEmpty then (done, gap) else (word ++ gap.text.reverse ++ done, {})
            if !(after.rest.head?.any isGapOrBreak) then some (done.reverse, gap.broken, after)
            else
              match takeGap (some indent) (after.rest.length + 1) gap after with
              | none => none
              | some (gap, cursor) =>
                  if !inFlow && (cursor.column : Int) < indent then
                    some (done.reverse, gap.broken, cursor)
                  else takePlain inFlow indent fuel gap done cursor

/-- Read a plain scalar that starts here. -/
def plain (inFlow : Bool) (indent : Int) (cursor : Cursor) : Option (List Char × Bool × Cursor) :=
  takePlain inFlow indent (cursor.rest.length + 2) {} [] cursor

/-! ## Block scalars -/

/-- What becomes of the line ends behind a block scalar. -/
inductive Chomping where
  | strip
  | clip
  | keep
  deriving DecidableEq, Repr

def chompingOf? : Char → Option Chomping
  | '+' => some .keep
  | '-' => some .strip
  | _ => none

/-- Read an indentation indicator: a digit that is not zero. -/
def takeIncrement (cursor : Cursor) : Option (Option Nat × Cursor) :=
  match cursor.rest with
  | char :: _ =>
      if char == '0' then none
      else if char.isDigit then some (some (char.toNat - 48), cursor.skip)
      else some (none, cursor)
  | [] => some (none, cursor)

/-- Read a chomping indicator. -/
def takeChomping (cursor : Cursor) : Option Chomping × Cursor :=
  match cursor.rest.head?.bind chompingOf? with
  | some chomping => (some chomping, cursor.skip)
  | none => (none, cursor)

/-- Read the two indicators of a block scalar, in either order. -/
def takeHeader (cursor : Cursor) : Option (Chomping × Option Nat × Cursor) :=
  match takeChomping cursor with
  | (some chomping, cursor) =>
      (takeIncrement cursor).map fun (increment, cursor) => (chomping, increment, cursor)
  | (none, cursor) => do
      let (increment, cursor) ← takeIncrement cursor
      match increment with
      | none => return (.clip, none, cursor)
      | some _ =>
          let (chomping, cursor) := takeChomping cursor
          return (chomping.getD .clip, increment, cursor)

/-- Read indentation and empty lines.  An indentation of zero is not known yet:
then all spaces are passed, and the deepest column is remembered. -/
def takeEmptyLines (indent : Int) (fuel : Nat) (deepest : Nat) (breaks : List Char)
    (cursor : Cursor) : Option (Nat × List Char × Cursor) :=
  match fuel with
  | 0 => none
  | fuel + 1 =>
      let spaces := (cursor.rest.takeWhile (· == ' ')).length
      let count :=
        if indent == 0 then spaces else min spaces (indent - cursor.column).toNat
      let cursor := cursor.skipMany count
      let deepest := max deepest cursor.column
      match cursor.rest with
      | [] => some (deepest, breaks, cursor)
      | char :: _ =>
          if char == '\t' && (indent == 0 || (cursor.column : Int) < indent) then none
          else if isBreak char then
            let (text, cursor) := cursor.takeBreak
            takeEmptyLines indent fuel deepest (breaks ++ text) cursor
          else some (deepest, breaks, cursor)

/-- The text of a block scalar on its way. -/
structure BlockDraft where
  /-- The text so far, last character first. -/
  done : List Char := []
  /-- The line end behind the last line. -/
  lineEnd : List Char := []
  /-- The empty lines behind it. -/
  emptyLines : List Char := []
  /-- Did the last line start with a blank? -/
  indented : Bool := false

/-- Add a line, which in a folded scalar may continue the last one. -/
def BlockDraft.addLine (folded : Bool) (draft : BlockDraft) (line : List Char)
    (lineEnd : List Char) (emptyLines : List Char) : BlockDraft :=
  let indented := line.head?.any isGap
  let joint :=
    if folded && draft.lineEnd = ['\n'] && !draft.indented && !indented then
      if draft.emptyLines.isEmpty then [' '] else draft.emptyLines
    else draft.lineEnd ++ draft.emptyLines
  { done := line.reverse ++ joint.reverse ++ draft.done, lineEnd, emptyLines, indented }

/-- The text of a finished block scalar. -/
def BlockDraft.text (chomping : Chomping) (draft : BlockDraft) : List Char :=
  draft.done.reverse ++
    match chomping with
    | .strip => []
    | .clip => draft.lineEnd
    | .keep => draft.lineEnd ++ draft.emptyLines

/-- Read the lines of a block scalar. -/
def takeBlockLines (folded : Bool) (indent : Int) (fuel : Nat) (draft : BlockDraft)
    (cursor : Cursor) : Option (BlockDraft × Cursor) :=
  match fuel with
  | 0 => none
  | fuel + 1 =>
      if (cursor.column : Int) ≠ indent || cursor.rest.isEmpty then some (draft, cursor)
      else
        let line := cursor.rest.takeWhile (!isBreak ·)
        let (lineEnd, after) := (cursor.skipMany line.length).takeBreak
        match takeEmptyLines indent (after.rest.length + 1) 0 [] after with
        | none => none
        | some (_, emptyLines, after) =>
            takeBlockLines folded indent fuel (draft.addLine folded line lineEnd emptyLines) after

/-- Read a block scalar that starts here, inside a collection with the given
indentation. -/
def block (folded : Bool) (parent : Int) (cursor : Cursor) : Option (List Char × Cursor) := do
  let (chomping, increment, cursor) ← takeHeader cursor.skip
  let cursor ← cursor.skipToLineEnd
  let given : Int :=
    match increment with
    | none => 0
    | some increment => if parent ≥ 0 then parent + increment else increment
  let (deepest, emptyLines, cursor) ←
    takeEmptyLines given (cursor.rest.length + 1) 0 [] cursor
  let indent : Int := if given = 0 then max (max deepest (parent + 1)) 1 else given
  let (draft, cursor) ←
    takeBlockLines folded indent (cursor.rest.length + 1) { emptyLines } cursor
  return (draft.text chomping, cursor)

end BuildExplorer.Yaml.Scalar
