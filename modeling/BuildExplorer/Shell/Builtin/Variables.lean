import BuildExplorer.Shell.Expansion

/-!
# Commands of the shell for variables and arguments
-/

namespace BuildExplorer.Shell.Builtin

open Host (FileTree)

/-! ## Options -/

/-- The arguments behind options, of which only the letters of `plain` may be
given; the answer is the first other letter, if there is one. -/
def splitOptions (plain : List Char) : List (List Char) → Except Char (List Char × List (List Char))
  | ['-', '-'] :: rest => .ok ([], rest)
  | ('-' :: letter :: letters) :: rest =>
      match (letter :: letters).find? fun letter => !plain.contains letter with
      | some wrong => .error wrong
      | none => do
          let (others, rest) ← splitOptions plain rest
          return (letter :: letters ++ others, rest)
  | arguments => .ok ([], arguments)

/-- Run with the options of a command, or complain about a letter; that ends the
process if the command is a special one. -/
def withOptions (plain : String) (isSpecial : Bool) (arguments : List (List Char))
    (run : List Char → List (List Char) → Run Unit) : Run Unit :=
  match splitOptions plain.toList arguments with
  | .ok (options, rest) => run options rest
  | .error letter =>
      let text := "Illegal option -" ++ String.ofList [letter]
      if isSpecial then Run.abort 2 text else Run.failAt 2 text

/-- The number that a command is given, if there is one at all; a text that is no
number ends the process. -/
def numberOr (fallback : Nat) : List (List Char) → Run Nat
  | [] => return fallback
  | text :: _ =>
      match numberOf? text with
      | some number => return number
      | none => Run.abort 2 ("Illegal number: " ++ String.ofList text)

/-! ## Variables -/

/-- The parts of an assignment: the name, and the value if there is one. -/
def splitAssignment (argument : List Char) : List Char × Option (List Char) :=
  let name := argument.takeWhile (· != '=')
  match argument.drop name.length with
  | _ :: value => (name, some value)
  | [] => (name, none)

/-- Refuse a text that is no name. -/
def checkName (name : List Char) : Run Unit := do
  if !isName name then Run.abort 2 (String.ofList name ++ ": bad variable name")

/-- Set the variables of arguments, and mark each of them. -/
def assignAll (mark : List Char → Run Unit) (arguments : List (List Char)) : Run Unit := do
  for argument in arguments do
    let (name, value) := splitAssignment argument
    checkName name
    if let some value := value then Run.setVariable name value
    mark name
  Run.setStatus 0

/-- Pass variables on to other programs. -/
def exportVariables (arguments : List (List Char)) : Run Unit :=
  assignAll Run.passOn arguments

/-- Make variables keep their values. -/
def fixVariables (arguments : List (List Char)) : Run Unit :=
  assignAll (fun name =>
    Run.changeProcess fun process => { process with fixed := name :: process.fixed }) arguments

/-- Make variables belong to the function that runs. -/
def makeLocal (arguments : List (List Char)) : Run Unit := do
  match (← Run.process).outer with
  | none => Run.abort 2 "not in a function"
  | some _ =>
      for argument in arguments do
        let (name, value) := splitAssignment argument
        checkName name
        Run.changeProcess fun process =>
          { process with
            outer := process.outer.map ((name, variableOf process name) :: ·) }
        if let some value := value then Run.setVariable name value
      Run.setStatus 0

/-- Take variables or functions away. -/
def unset (arguments : List (List Char)) : Run Unit :=
  withOptions "fv" true arguments fun options names => do
    for name in names do
      if options.contains 'f' then
        Run.changeProcess fun process =>
          { process with functions := process.functions.filter (·.1 != name) }
      else
        checkName name
        Run.unsetVariable name
    Run.setStatus 0

/-! ## Arguments and options of the shell -/

/-- Set the arguments; their options are read from the start. -/
def setArguments (arguments : List (List Char)) : Run Unit :=
  Run.changeProcess fun process => { process with arguments, optionPlace := {} }

/-- Drop arguments. -/
def shift (arguments : List (List Char)) : Run Unit := do
  let count ← numberOr 1 arguments
  if (← Run.process).arguments.length < count then Run.abort 2 "can't shift that many"
  setArguments ((← Run.process).arguments.drop count)
  Run.setStatus 0

/-- Set an option by its letter; `none` if there is no such letter. -/
def withLetter (options : Options) (value : Bool) (letter : Char) : Option Options :=
  match letter with
  | 'e' => some { options with stopsOnFailure := value }
  | 'u' => some { options with needsValues := value }
  | 'x' => some { options with showsCommands := value }
  | 'f' => some { options with keepsPatterns := value }
  | _ => none

/-- Set options by their letters. -/
def setLetters (value : Bool) (letters : List Char) : Run Unit := do
  for letter in letters do
    match withLetter (← Run.process).options value letter with
    | some options => Run.changeProcess fun process => { process with options }
    | none => Run.abort 2 ("Illegal option -" ++ String.ofList [letter])

/-- Set options and arguments. -/
def setAll : List (List Char) → Run Unit
  | [] => return ()
  | ['-', '-'] :: rest => setArguments rest
  | ('-' :: letters) :: rest => do
      setLetters true letters
      setAll rest
  | ('+' :: letters) :: rest => do
      setLetters false letters
      setAll rest
  | rest => setArguments rest

/-- Set options and arguments. -/
def set (arguments : List (List Char)) : Run Unit := do
  setAll arguments
  Run.setStatus 0

/-! ## Options of scripts -/

/-- What follows a letter in a list of letters, each of which may have a colon
behind it. -/
def behindLetter (letter : Char) : List Char → Option (List Char)
  | [] => none
  | [first] => if first = letter then some [] else none
  | first :: ':' :: rest =>
      if first = letter then some (':' :: rest) else behindLetter letter rest
  | first :: rest => if first = letter then some rest else behindLetter letter rest

/-- An option that was read: what its variables are set to, where reading goes on,
and a complaint if there is one.  The end of the options counts as one. -/
structure OptionRead where
  letter : Char := '?'
  value : Option (List Char) := none
  complaint : Option String := none
  isOver : Bool := false
  place : OptionPlace

/-- The letters that are left of the argument in front of the next one. -/
def lettersLeft (arguments : List (List Char)) (place : OptionPlace) : List Char :=
  match place.used with
  | none => []
  | some used => if place.next ≤ 1 then [] else (arguments[place.next - 2]?.getD []).drop used

/-- Read an option whose letter is the first of `text`, which ends an argument;
`next` is the argument behind that. -/
def readLetter (known : List Char) (arguments : List (List Char)) (next : Nat)
    (letter : Char) (text : List Char) : OptionRead :=
  let isQuiet := known.head? = some ':'
  let refuse (letter isOf : Char) (complaint : String) (next : Nat) (rest : List Char) :
      OptionRead :=
    let length := (arguments[next - 2]?.getD []).length
    let place : OptionPlace := ⟨next, some (length - rest.length)⟩
    if isQuiet then { letter := isOf, value := some [letter], place }
    else { complaint := some complaint, place }
  match behindLetter letter known with
  | none =>
      refuse letter '?' ("Illegal option -" ++ String.ofList [letter]) next text
  | some (':' :: _) =>
      if text.isEmpty then
        match arguments[next - 1]? with
        | some value => { letter, value := some value, place := ⟨next + 1, none⟩ }
        | none =>
            refuse letter ':' ("No arg for -" ++ String.ofList [letter] ++ " option") next text
      else { letter, value := some text, place := ⟨next, none⟩ }
  | some _ =>
      let length := (arguments[next - 2]?.getD []).length
      { letter, value := some [], place := ⟨next, some (length - text.length)⟩ }

/-- Read the next option of arguments. -/
def readOption (known : List Char) (arguments : List (List Char)) (place : OptionPlace) :
    OptionRead :=
  let place := if arguments.length + 1 < place.next then {} else place
  match lettersLeft arguments place with
  | letter :: text => readLetter known arguments place.next letter text
  | [] =>
      match arguments[place.next - 1]? with
      | some ['-', '-'] => { isOver := true, place := ⟨place.next + 1, none⟩ }
      | some ('-' :: letter :: text) => readLetter known arguments (place.next + 1) letter text
      | _ => { isOver := true, place := ⟨place.next, none⟩ }

/-- Read the next option of the script, or of arguments that are given. -/
def getopts (arguments : List (List Char)) : Run Unit := do
  match arguments with
  | known :: target :: given =>
      let process ← Run.process
      let arguments := if given.isEmpty then process.arguments else given
      let found := readOption known arguments process.optionPlace
      if let some complaint := found.complaint then Run.complain complaint
      match found.value with
      | some value => Run.setVariable "OPTARG".toList value
      | none => if !found.isOver then Run.unsetVariable "OPTARG".toList
      Run.setVariable placeVariable (Nat.toDigits 10 found.place.next)
      Run.changeProcess fun process => { process with optionPlace := found.place }
      if !isName target then
        Run.abort 2 (String.ofList target ++ ": bad variable name")
      Run.setVariable target [found.letter]
      Run.setStatus (if found.isOver then 1 else 0)
  | _ => Run.failAt 2 "Usage: getopts optstring var [arg...]"

/-! ## Reading lines -/

/-- The characters of a line, with whether a backslash protects them, and whether
the next line belongs to it. -/
def protect : List Char → List (Char × Bool) × Bool
  | [] => ([], false)
  | ['\\'] => ([], true)
  | '\\' :: char :: rest =>
      let (others, goesOn) := protect rest
      ((char, true) :: others, goesOn)
  | char :: rest =>
      let (others, goesOn) := protect rest
      ((char, false) :: others, goesOn)

/-- Read bytes up to the end of a line, and tell whether there is one; `front` is
what was read of the line. -/
def lineBytes : Nat → List UInt8 → Run (List UInt8 × Bool)
  | 0, front => return (front, false)
  | fuel + 1, front => do
      match ← Run.ask (.readLine 0) with
      | .bytes bytes =>
          let front := front ++ bytes
          if front.getLast? = some 10 then return (front.dropLast, true)
          else lineBytes fuel front
      | _ => return (front, false)

/-- Read a line from the input, and tell whether it has an end. -/
def inputLine (isRaw : Bool) : Nat → Run (List (Char × Bool) × Bool)
  | 0 => return ([], false)
  | fuel + 1 => do
      let (bytes, isWhole) ← lineBytes 1000000 []
      let text := (textOf bytes).filter (· != '\x00')
      if isRaw then return (text.map (·, false), isWhole)
      else
        let (chars, goesOn) := protect text
        if goesOn && isWhole then
          let (others, isWhole) ← inputLine isRaw fuel
          return (chars ++ others, isWhole)
        else return (chars, isWhole)

/-- Part the characters of a line for names; the last name takes all that is
left. -/
def shareOut (separators : List Char) : List (List Char) → List (Char × Bool) →
    List (List Char × List Char)
  | [], _ => []
  | name :: names, chars =>
      let separates (item : Char × Bool) : Bool := !item.2 && separators.contains item.1
      let isBlank (item : Char × Bool) : Bool := separates item && isFieldBlank item.1
      let chars := chars.dropWhile isBlank
      let field := chars.takeWhile fun item => !separates item
      let behind := (chars.drop field.length).dropWhile isBlank
      let next :=
        match behind with
        | item :: rest => if separates item then rest.dropWhile isBlank else behind
        | [] => []
      if names.isEmpty then
        let whole := (chars.reverse.dropWhile isBlank).reverse
        [(name, (if next.isEmpty then field else whole).map (·.1))]
      else (name, field.map (·.1)) :: shareOut separators names next

/-- Read a line into variables. -/
def read (arguments : List (List Char)) : Run Unit :=
  withOptions "r" false arguments fun options names => do
    match names.find? (!isName ·) with
    | some wrong => Run.failAt 2 (String.ofList wrong ++ ": bad variable name")
    | none =>
        if names.isEmpty then Run.failAt 2 "arg count"
        else
          let (chars, isWhole) ← inputLine (options.contains 'r') 10000
          for (name, value) in shareOut (separators (← Run.process)) names chars do
            Run.setVariable name value
          Run.setStatus (if isWhole then 0 else 1)

end BuildExplorer.Shell.Builtin
