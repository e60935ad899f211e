import BuildExplorer.Shell.Arithmetic
import BuildExplorer.Shell.Pattern
import BuildExplorer.Shell.Run

/-!
# Expansion of words

The parts of a word are replaced by what they stand for.  What comes from an
expansion outside of quotes is split into fields, and a pattern outside of quotes
is replaced by the names of files that match it.
-/

namespace BuildExplorer.Shell

open Host (FileTree)

/-- A character of a word after expansion, or a border in it. -/
inductive Atom where
  | char (value : Char) (isQuoted isExpanded : Bool)
  /-- Quotes with nothing in between still make a field. -/
  | quotedNothing
  /-- Arguments that are expanded all at once stay apart. -/
  | border
  deriving DecidableEq, Repr

/-- The atoms of a text from an expansion. -/
def atomsOf (isQuoted : Bool) (text : List Char) : List Atom :=
  (if isQuoted then [.quotedNothing] else []) ++ text.map (.char · isQuoted true)

/-- The text of atoms, in which `joiner` stands between arguments. -/
def textOfAtoms (joiner : List Char) (atoms : List Atom) : List Char :=
  atoms.flatMap fun atom =>
    match atom with
    | .char value _ _ => [value]
    | .border => joiner
    | _ => []

/-! ## Separators -/

/-- The characters that part fields. -/
def separators (process : Process) : List Char :=
  (process.bindings.lookup ['I', 'F', 'S']).getD [' ', '\t', '\n']

/-- What stands between arguments that are put together. -/
def joinerOf (process : Process) : List Char :=
  (separators process).take 1

/-- Is the character a blank? -/
def isFieldBlank (char : Char) : Bool :=
  char = ' ' || char = '\t' || char = '\n'

/-! ## Parameters -/

/-- The letters of the options that are set. -/
def optionLetters (options : Options) : List Char :=
  (if options.needsValues then ['u'] else []) ++
    (if options.showsCommands then ['x'] else []) ++
    (if options.keepsPatterns then ['f'] else []) ++
    (if options.stopsOnFailure then ['e'] else [])

/-- The value of a parameter. -/
def parameterValue (process : Process) (name : List Char) : Option (List Char) :=
  match name with
  | ['#'] => some (Nat.toDigits 10 process.arguments.length)
  | ['?'] => some (Nat.toDigits 10 process.status)
  | ['$'] => some (Nat.toDigits 10 process.shellNumber)
  | ['!'] => process.lastBackground.map (Nat.toDigits 10 ·)
  | ['-'] => some (optionLetters process.options)
  | ['*'] => some ((joinerOf process).intercalate process.arguments)
  | ['@'] => some ([' '].intercalate process.arguments)
  | _ =>
      if name.all Char.isDigit then
        match Text.numeralValue name with
        | 0 => some process.name
        | place + 1 => process.arguments[place]?
      else process.bindings.lookup name

/-- The arguments of a process as atoms. -/
def argumentAtoms (isQuoted : Bool) (arguments : List (List Char)) : List Atom :=
  [Atom.border].intercalate (arguments.map (atomsOf isQuoted))

/-- The value of a parameter as atoms.  All arguments together stay parted, as
long as quotes do not join them. -/
def valueAtoms (process : Process) (name : List Char) (isQuoted : Bool) (text : List Char) :
    List Atom :=
  if name = ['@'] ∨ (name = ['*'] ∧ !isQuoted) then argumentAtoms isQuoted process.arguments
  else atomsOf isQuoted text

/-- The value of a parameter that must have one if the options say so. -/
def neededValue (name : List Char) : Run (List Char) := do
  let process ← Run.process
  match parameterValue process name with
  | some value => return value
  | none =>
      if process.options.needsValues then
        Run.abort 2 (String.ofList name ++ ": parameter not set")
      else return []

/-- Remove what a pattern matches from the start or the end of a text. -/
def trimMatch (pattern : List GlobPart) (fromEnd longest : Bool) (text : List Char) : List Char :=
  let counts := List.range (text.length + 1)
  let counts := if longest then counts.reverse else counts
  let fits (count : Nat) :=
    if fromEnd then globMatches pattern (text.drop (text.length - count))
    else globMatches pattern (text.take count)
  match counts.find? fits with
  | none => text
  | some count => if fromEnd then text.take (text.length - count) else text.drop count

/-- The text of a pattern for atoms, in which a backslash protects what was
quoted, and `joiner` stands between arguments. -/
def patternText (joiner : List Char) (atoms : List Atom) : List Char :=
  atoms.flatMap fun atom =>
    match atom with
    | .char value isQuoted _ => if isQuoted then ['\\', value] else [value]
    | .border => joiner
    | .quotedNothing => []

/-- The value of an arithmetic expression; variables may be given values in
passing. -/
def arithmetic (expression : List Char) : Run (List Char) := do
  match Arithmetic.evaluate (← Run.process).bindings expression with
  | .error fault => Run.abort 2 (fault.message expression)
  | .ok (value, given) =>
      for (name, value) in given.reverse do Run.setVariable name value
      return Arithmetic.numeral value

/-! ## Homes -/

/-- Replace a tilde at the start of a word, and the name behind it, by a home. -/
def withHome (process : Process) : Word → Word
  | .plain '~' :: rest =>
      let isInName (piece : Piece) : Bool :=
        match piece with
        | .plain char => char != '/'
        | _ => false
      let name := rest.takeWhile isInName
      let after := rest.drop name.length
      let isOver :=
        match after with
        | [] => true
        | .plain _ :: _ => true
        | _ => false
      match if name.isEmpty then process.bindings.lookup "HOME".toList else none with
      | some home => if isOver then .quoted home :: after else .plain '~' :: rest
      | none => .plain '~' :: rest
  | word => word

/-- The parts of a word between colons. -/
def splitAtColons : Word → List Word
  | [] => [[]]
  | .plain ':' :: rest => [] :: splitAtColons rest
  | piece :: rest =>
      match splitAtColons rest with
      | first :: others => (piece :: first) :: others
      | [] => [[piece]]

/-- Replace tildes at the start of a value, and behind the colons in it. -/
def withHomes (process : Process) (word : Word) : Word :=
  [Piece.plain ':'].intercalate ((splitAtColons word).map (withHome process))

/-! ## Words -/

/-- How a command in a word is replaced by what it writes. -/
abbrev Substitution := Command → Run (List Char)

/-- The parameter that is all arguments as one text, if a parameter is all of
them. -/
def joinedName (name : List Char) : List Char :=
  if name = ['@'] then ['*'] else name

/-- The value of a parameter, unless the word behind it stands in for it.  Two
arguments that stay parted are something even if both are empty. -/
def usableValue (process : Process) (name : List Char) (isQuoted orEmpty : Bool) :
    Option (List Char) :=
  let value := parameterValue process (if name = ['*'] ∧ !isQuoted then ['@'] else name)
  if orEmpty && value == some [] then none else value

mutual

/-- Replace the pieces of a word. -/
def atoms (substitute : Substitution) : Nat → Word → Run (List Atom)
  | 0, _ => return []
  | _, [] => return []
  | fuel + 1, piece :: rest => do
      let front ← pieceAtoms substitute fuel piece
      return front ++ (← atoms substitute fuel rest)

/-- Replace a piece of a word. -/
def pieceAtoms (substitute : Substitution) : Nat → Piece → Run (List Atom)
  | 0, _ => return []
  | fuel + 1, piece => do
      match piece with
      | .plain char => return [Atom.char char false false]
      | .quoted text => return .quotedNothing :: text.map (.char · true false)
      | .command body isQuoted => return atomsOf isQuoted (← substitute body)
      | .arithmetic expression isQuoted =>
          let expression ← innerText substitute fuel true expression
          return atomsOf isQuoted (← arithmetic expression)
      | .parameter name fallback isQuoted =>
          let process ← Run.process
          match fallback with
          | .none => return valueAtoms process name isQuoted (← neededValue name)
          | .length =>
              let text ← neededValue (joinedName name)
              return atomsOf isQuoted (Nat.toDigits 10 text.length)
          | .trim pattern fromEnd longest =>
              let text ← neededValue name
              let pattern ← inner substitute fuel false pattern
              let pattern := globOfText (patternText (joinerOf process) pattern)
              return atomsOf isQuoted (trimMatch pattern fromEnd longest text)
          | .useWord word orEmpty =>
              match usableValue process name isQuoted orEmpty with
              | some text => return valueAtoms process name isQuoted text
              | none => inner substitute fuel isQuoted word
          | .assign word orEmpty =>
              match usableValue process name isQuoted orEmpty with
              | some text => return valueAtoms process name isQuoted text
              | none =>
                  let text ← innerText substitute fuel isQuoted word
                  if !isName name then Run.abort 2 (String.ofList name ++ ": bad variable name")
                  Run.setVariable name text
                  return atomsOf isQuoted text
          | .demand word orEmpty =>
              match usableValue process name isQuoted orEmpty with
              | some text => return valueAtoms process name isQuoted text
              | none =>
                  let text ← innerText substitute fuel isQuoted word
                  let usual := if orEmpty then "parameter not set or null" else "parameter not set"
                  Run.abort 2 (String.ofList name ++ ": " ++
                    if word.isEmpty then usual else String.ofList text)
          | .replaceBy word orEmpty =>
              match usableValue process (joinedName name) true orEmpty with
              | some _ => inner substitute fuel isQuoted word
              | none => return atomsOf isQuoted []
          | .unknown => Run.abort 2 "Bad substitution"

/-- Replace the pieces of a word inside of a parameter. -/
def inner (substitute : Substitution) : Nat → Bool → Word → Run (List Atom)
  | 0, _, _ => return []
  | fuel + 1, isQuoted, word => do
      let process ← Run.process
      let found ← atoms substitute fuel (if isQuoted then word else withHome process word)
      return found.map fun atom =>
        match atom with
        | .char value isQuoted _ => .char value isQuoted true
        | atom => atom

/-- The text of a word inside of a parameter. -/
def innerText (substitute : Substitution) : Nat → Bool → Word → Run (List Char)
  | 0, _, _ => return []
  | fuel + 1, isQuoted, word => do
      let found ← inner substitute fuel isQuoted word
      return textOfAtoms (joinerOf (← Run.process)) found

end

/-! ## Fields -/

/-- A field: its characters, and for each whether it may be part of a
pattern. -/
abbrev Field := List (Char × Bool)

/-- The fields of a word, and the one on its way, which begins with its last
character. -/
structure Splitter where
  done : List Field := []
  pending : Option Field := none
  /-- Did a blank end the last field? -/
  behindBlank : Bool := false

/-- End the field on its way. -/
def Splitter.cut (splitter : Splitter) : Splitter :=
  match splitter.pending with
  | none => splitter
  | some field => ⟨field.reverse :: splitter.done, none, false⟩

/-- Take a separator.  Blanks end a field, and any other separator ends one even
if nothing is in it. -/
def Splitter.separate (splitter : Splitter) (separator : Char) : Splitter :=
  match splitter.pending with
  | some _ => { splitter.cut with behindBlank := isFieldBlank separator }
  | none =>
      if isFieldBlank separator then splitter
      else if splitter.behindBlank then { splitter with behindBlank := false }
      else { splitter with done := [] :: splitter.done }

/-- Take an atom. -/
def Splitter.next (separators : List Char) (splitter : Splitter) : Atom → Splitter
  | .char value isQuoted isExpanded =>
      if isExpanded && !isQuoted && separators.contains value then splitter.separate value
      else { splitter with pending := some ((value, !isQuoted) :: splitter.pending.getD []) }
  | .quotedNothing => { splitter with pending := some (splitter.pending.getD []) }
  | .border => splitter.cut

/-- Split atoms into fields. -/
def fieldsOf (separators : List Char) (atoms : List Atom) : List Field :=
  ((atoms.foldl (Splitter.next separators) {}).cut).done.reverse

/-- The text of a field. -/
def Field.text (field : Field) : List Char :=
  field.map (·.1)

/-- Does a field hold a pattern? -/
def Field.isPattern (field : Field) : Bool :=
  field.any fun (char, isActive) => isActive && ['*', '?', '['].contains char

/-- The text of a pattern, in which a backslash protects what is no part of
it. -/
def Field.patternText (field : Field) : List Char :=
  field.flatMap fun (char, isActive) => if isActive then [char] else ['\\', char]

/-- Is there a bracket in a part of a name that is closed in it? -/
def hasBracket : Field → Bool
  | [] => false
  | ('[', true) :: rest =>
      let inside := if rest.head?.map (·.1) = some '!' then rest.drop 1 else rest
      (inside.drop 1).contains (']', true) || hasBracket rest
  | _ :: rest => hasBracket rest

/-- Is a part of a name, between slashes, a pattern? -/
def isPatternPart (part : Field) : Bool :=
  part.contains ('*', true) || part.contains ('?', true) || hasBracket part

/-- The names in a directory that match a part of a name; only a part with a dot at its
start matches those that begin with one. -/
def matchingParts (state : View) (directory : List Char) (part : Field) : List (List Char) :=
  let found := FileTree.listDirectory state.tree state.process.directory
    (pathOf (if directory.isEmpty then ['.'] else directory))
  match found with
  | .error _ => []
  | .ok entries =>
      let pattern := globOfText part.patternText
      let names := ['.'] :: ['.', '.'] :: entries.map fun (name, _) => spelled name
      let showsHidden := part.head?.map (·.1) = some '.'
      names.filter fun name =>
        globMatches pattern name && (name.head? != some '.' || showsHidden)

/-- The names of files that match the parts of a name, behind a directory that is given
with its slash; `isFound` tells whether that came out of a pattern itself. -/
def namesBelow (state : View) : Bool → List Char → List Field → List (List Char)
  | _, _, [] => []
  | isFound, lead, [part] =>
      if isPatternPart part then (matchingParts state lead part).map (lead ++ ·)
      else
        let name := lead ++ Field.text part
        let isThere :=
          (FileTree.find state.tree state.process.directory (pathOf name)).isOk
        if isFound && isThere then [name] else []
  | isFound, lead, part :: rest =>
      if isPatternPart part then
        (matchingParts state lead part).flatMap fun name =>
          namesBelow state true (lead ++ name ++ ['/']) rest
      else namesBelow state isFound (lead ++ Field.text part ++ ['/']) rest

/-- The parts of a name that are parted by slashes. -/
def Field.parts (field : Field) : List Field :=
  field.splitOnP (·.1 == '/')

/-- The names of files that match a field, in order; the field itself, if there are
none. -/
def matchingNames (state : View) (field : Field) : List (List Char) :=
  let names := namesBelow state false [] field.parts
  if names.isEmpty then [field.text] else names.mergeSort FileTree.inOrder

/-! ## Whole words -/

/-- How often parts of a word can hold words. -/
def nesting : Nat := 200

/-- Expand a word to its fields. -/
def expandFields (substitute : Substitution) (word : Word) : Run (List (List Char)) := do
  let word := withHome (← Run.process) word
  let found ← atoms substitute (word.length + nesting) word
  let process ← Run.process
  let fields := fieldsOf (separators process) found
  let isPattern (field : Field) : Bool := field.isPattern && !process.options.keepsPatterns
  if fields.any isPattern then
    let state ← Run.view
    return fields.flatMap fun field =>
      if isPattern field then matchingNames state field else [field.text]
  else return fields.map (·.text)

/-- Expand words to their fields. -/
def expandAll (substitute : Substitution) : List Word → Run (List (List Char))
  | [] => return []
  | word :: rest => do
      let fields ← expandFields substitute word
      return fields ++ (← expandAll substitute rest)

/-- The text of a word, which is not split. -/
def joinedText (substitute : Substitution) (word : Word) : Run (List Char) := do
  let found ← atoms substitute (word.length + nesting) word
  return textOfAtoms (joinerOf (← Run.process)) found

/-- Expand a word without splitting it. -/
def expandText (substitute : Substitution) (word : Word) : Run (List Char) := do
  joinedText substitute (withHome (← Run.process) word)

/-- Expand the value of an assignment. -/
def expandValue (substitute : Substitution) (word : Word) : Run (List Char) := do
  joinedText substitute (withHomes (← Run.process) word)

/-- Expand a word to a pattern. -/
def expandPattern (substitute : Substitution) (word : Word) : Run (List GlobPart) := do
  let found ← atoms substitute (word.length + nesting) word
  return globOfText (patternText (joinerOf (← Run.process)) found)

end BuildExplorer.Shell
