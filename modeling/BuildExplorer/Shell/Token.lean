import BuildExplorer.Shell.Word

/-!
# Tokens of scripts

A script is cut into words, operators and ends of lines.  The text that a
redirection takes from the lines below it becomes a word behind its operator.
The last token tells whether the script came to its end or to a mistake.
-/

namespace BuildExplorer.Shell

/-! ## Mistakes -/

/-- A mistake in a script. -/
inductive Mistake where
  /-- A token stands where another one is expected, or where none of its kind
  may stand.  Tokens are given by how they are called. -/
  | unexpected (found : String) (expected : Option String)
  | openQuote
  | openBackquote
  | openBrace
  | openArithmetic
  | badLoopName
  | badFunctionName
  deriving DecidableEq, Repr

/-- A mistake and its line. -/
abbrev Located : Type := Mistake × Nat

/-- The wording of a mistake. -/
def Mistake.message : Mistake → String
  | .unexpected found none => found ++ " unexpected"
  | .unexpected found (some expected) => found ++ " unexpected (expecting " ++ expected ++ ")"
  | .openQuote => "Unterminated quoted string"
  | .openBackquote => "EOF in backquote substitution"
  | .openBrace => "Missing '\x7d'"
  | .openArithmetic => "Missing '))'"
  | .badLoopName => "Bad for loop variable"
  | .badFunctionName => "Bad function name"

/-! ## Places -/

/-- A place in a script: the text from there on, and its line. -/
structure Place where
  rest : List Char
  line : Nat := 1

/-- The place of another text, on the same line. -/
def Place.at (place : Place) (rest : List Char) : Place :=
  { place with rest }

/-- The place behind a character. -/
def Place.past (place : Place) (char : Char) (rest : List Char) : Place :=
  { place with rest, line := if char = '\n' then place.line + 1 else place.line }

/-- Pass over ends of lines that are joined to the next ones, with the number of the
line. -/
def pastJoins : List Char → Nat → List Char × Nat
  | '\\' :: '\n' :: rest, line => pastJoins rest (line + 1)
  | rest, line => (rest, line)

/-- The characters at the front that pass a test, over ends of lines that are joined,
with what is behind them and the number of the line there. -/
def spanJoined (test : Char → Bool) : List Char → Nat → List Char × List Char × Nat
  | '\\' :: '\n' :: rest, line => spanJoined test rest (line + 1)
  | char :: rest, line =>
      if test char then
        let (found, rest, line) := spanJoined test rest line
        (char :: found, rest, line)
      else ([], char :: rest, line)
  | [], line => ([], [], line)

/-- The place behind ends of lines that are joined to the next ones. -/
def Place.skipJoins (place : Place) : Place :=
  let (rest, line) := pastJoins place.rest place.line
  { place with rest, line }

/-- The place behind a text that is at a place; ends of lines may be joined in it. -/
def Place.behind? (place : Place) : List Char → Option Place
  | [] => some place
  | char :: text =>
      let place := place.skipJoins
      match place.rest with
      | [] => none
      | first :: rest => if first = char then (place.at rest).behind? text else none

/-- The characters from a place on that pass a test, over ends of lines that are
joined, and the place behind them. -/
def Place.span (place : Place) (test : Char → Bool) : List Char × Place :=
  let (found, rest, line) := spanJoined test place.rest place.line
  (found, { place with rest, line })

/-! ## Tokens -/

/-- A token of a script, with the line on which the reader is behind it, or with
the place there. -/
inductive Token where
  | word (pieces : Word) (line : Nat)
  /-- The number of a descriptor in front of a redirection. -/
  | descriptor (number : Nat) (line : Nat)
  | operator (text : String) (line : Nat)
  | newline (behind : Place)
  /-- A text that is to come from the lines below. -/
  | awaited (line : Nat)
  | ending (line : Nat)
  | broken (mistake : Mistake) (line : Nat)
  deriving Inhabited

/-- The operators, the longer ones first. -/
def operators : List String :=
  ["<<-", "&&", "||", ";;", ">>", "<<", ">&", "<&", ">|", "<>", ";", "&", "|", "<", ">", "(", ")"]

/-- The operator at a place, and the place behind it. -/
def operatorAt? (place : Place) : Option (String × Place) :=
  operators.findSome? fun operator =>
    (place.behind? operator.toList).map fun behind => (operator, behind)

/-- Is the operator over without a look at what is behind it? -/
def isOver (operator : String) : Bool :=
  !(["&", "|", ";", "<", ">"].contains operator)

/-- Is the operator one of a redirection? -/
def leadsElsewhere (operator : String) : Bool :=
  operator.toList.any fun char => char = '<' || char = '>'

/-- Is the word the number of a descriptor in front of a redirection? -/
def descriptor? (pieces : Word) (after : List Char) : Option Nat :=
  match bareText pieces, after.head? with
  | some [digit], some next =>
      if (next = '<' ∨ next = '>') ∧ digit.isDigit then Text.readNumeral 10 [digit] else none
  | _, _ => none

/-! ## Texts from the lines below -/

/-- A text that a redirection takes from the lines below: the line that ends it,
whether it is taken as it is, and whether tabs in front of its lines count. -/
structure Awaited where
  delimiter : List Char
  isVerbatim : Bool
  dropsTabs : Bool

/-- The start of a line in such a text. -/
inductive LineStart where
  /-- The line belongs to the text: some of it as it is, and the rest from the place
  on. -/
  | within (front : List Char) (place : Place)
  /-- The line ended the text; the place is behind it. -/
  | behind (place : Place)

/-- Look whether a line ends the text.  A backslash joins lines even in front of the
first one, but not behind tabs that do not count. -/
def Awaited.lineStart (awaited : Awaited) (place : Place) : LineStart :=
  let place := if awaited.isVerbatim then place else place.skipJoins
  let rest := if awaited.dropsTabs then place.rest.dropWhile (· == '\t') else place.rest
  match awaited.delimiter.isPrefixOf? rest with
  | some [] => .behind (place.past '\n' [])
  | some ('\n' :: below) => .behind (place.past '\n' below)
  | _ =>
      match awaited.isVerbatim, rest with
      | false, '\\' :: '\n' :: below => .within ['\\', '\n'] (place.at below)
      | _, rest => .within [] (place.at rest)

/-- The text from the start of a line on, as it is, and the place behind it. -/
def Awaited.verbatim (awaited : Awaited) : Nat → Place → List Char × Place
  | 0, place => ([], place)
  | fuel + 1, place =>
      match awaited.lineStart place with
      | .behind place => ([], place)
      | .within _ place =>
          let line := place.rest.takeWhile (· != '\n')
          match place.rest.drop line.length with
          | [] => (line, place.at [])
          | char :: rest =>
              let (text, place) := awaited.verbatim fuel (place.past char rest)
              (line ++ char :: text, place)

/-- Put texts in the place of those that are awaited; texts and tokens are given
last first. -/
def fillAwaited : List Word → List Token → List Token
  | text :: texts, .awaited line :: rest => .word text line :: fillAwaited texts rest
  | [], .awaited line :: rest => .word [] line :: fillAwaited [] rest
  | texts, token :: rest => token :: fillAwaited texts rest
  | _, [] => []

end BuildExplorer.Shell
