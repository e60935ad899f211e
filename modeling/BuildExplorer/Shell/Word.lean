import BuildExplorer.Shell.Command
import BuildExplorer.Text.Digit

/-!
# Words and parameters

What a name is, and what stands between the braces of a parameter: its name, and
what is done with its value or without one.
-/

namespace BuildExplorer.Shell

/-- Does a character end a word? -/
def endsWord (char : Char) : Bool :=
  [' ', '\t', '\n', ';', '&', '|', '<', '>', '(', ')'].contains char

/-- May a name begin with the character? -/
def isNameStart (char : Char) : Bool :=
  char.isAlpha || char = '_'

/-- May the character stand in a name? -/
def isNamePart (char : Char) : Bool :=
  char.isAlphanum || char = '_'

/-- Is the text a name? -/
def isName : List Char → Bool
  | [] => false
  | first :: rest => isNameStart first && rest.all isNamePart

/-- Is the character a parameter of its own? -/
def isSpecialParameter (char : Char) : Bool :=
  ['@', '*', '#', '?', '$', '!', '-'].contains char || char.isDigit

/-- The text of a word in which nothing is quoted or expanded. -/
def bareText : Word → Option (List Char)
  | [] => some []
  | .plain char :: rest => (bareText rest).map (char :: ·)
  | _ => none

/-! ## Parameters in braces -/

/-- What stands behind the name of a parameter in braces. -/
inductive Opening where
  /-- The closing brace. -/
  | closed (fallback : Fallback)
  /-- A word up to the closing brace, which may be a pattern. -/
  | worded (isPattern : Bool) (fallback : Word → Fallback)

/-- May a character stand in front of the word in a parameter? -/
def opensParameter (char : Char) : Bool :=
  isNamePart char || isSpecialParameter char || [':', '=', '+', '%'].contains char

/-- The name at the front of a parameter. -/
def parameterName : List Char → List Char
  | [] => []
  | first :: rest =>
      if isNameStart first then (first :: rest).takeWhile isNamePart
      else if first.isDigit then (first :: rest).takeWhile Char.isDigit
      else if isSpecialParameter first then [first]
      else []

/-- Something that makes no sense, with all that it holds. -/
def senseless : Opening :=
  .worded false fun _ => .unknown

/-- Read the sign that tells what is done if there is no value. -/
def valueSign (orEmpty : Bool) : List Char → Opening × List Char
  | '-' :: rest => (.worded false (.useWord · orEmpty), rest)
  | '=' :: rest => (.worded false (.assign · orEmpty), rest)
  | '?' :: rest => (.worded false (.demand · orEmpty), rest)
  | '+' :: rest => (.worded false (.replaceBy · orEmpty), rest)
  | '\x7d' :: rest => (if orEmpty then .worded false fun _ => .none else .closed .none, rest)
  | _ :: rest => (senseless, rest)
  | [] => (senseless, [])

/-- Read what stands behind the name of a parameter in braces. -/
def openingOf : List Char → Opening × List Char
  | ':' :: rest => valueSign true rest
  | '%' :: '%' :: rest => (.worded true (.trim · true true), rest)
  | '%' :: rest => (.worded true (.trim · true false), rest)
  | '#' :: '#' :: rest => (.worded true (.trim · false true), rest)
  | '#' :: rest => (.worded true (.trim · false false), rest)
  | text => valueSign false text

/-- Read a parameter behind its opening brace: its name, and what stands behind
that. -/
def openedParameter (text : List Char) : List Char × Opening × List Char :=
  match text with
  | '#' :: first :: rest =>
      if isNamePart first then
        let name := parameterName (first :: rest)
        match (first :: rest).drop name.length with
        | '\x7d' :: behind => (name, .closed .length, behind)
        | behind => (name, senseless, behind)
      else if first != '\x7d' && rest.head? = some '\x7d' then
        if isSpecialParameter first then ([first], .closed .length, rest.drop 1)
        else ([], senseless, rest)
      else (['#'], openingOf (first :: rest))
  | text =>
      let name := parameterName text
      if name.isEmpty then ([], senseless, if text.head? = some '\x7d' then text else text.drop 1)
      else (name, openingOf (text.drop name.length))

end BuildExplorer.Shell
