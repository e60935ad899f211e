import BuildExplorer.Shell.Reader

/-!
# Scripts

A script is read character by character.  What a character means hangs on where
it stands: outside of quotes a blank ends a word, inside of braces it does not,
and inside of double quotes all is kept but expansions.  A command inside of a
word is read by the same rules, up to the parenthesis that closes it: the first
one that does not belong to a command in front of it.
-/

namespace BuildExplorer.Shell.Script

/-- What was read, and the place behind it. -/
abbrev Found (Value : Type) : Type :=
  Value × Place

/-! ## Settings -/

/-- What the text of a word stands in. -/
inductive Frame where
  /-- It is outside of everything, where a blank or an operator ends a word. -/
  | bare
  /-- Behind the name of a parameter in braces. -/
  | braces (isQuoted : Bool)
  /-- In double quotes, which may be inside of braces. -/
  | quotes (isInBraces : Bool)
  /-- In a text in which only expansions count. -/
  | text
  /-- In an arithmetic expression, inside of parentheses. -/
  | arithmetic (depth : Nat)
  deriving DecidableEq, Repr

/-- Where the text of a word stands: what it is in, and the text from the lines
below a redirection that it is a part of. -/
structure Setting where
  frame : Frame
  below : Option Awaited := none

/-- Are characters kept as they are, but for expansions? -/
def Setting.isQuoted (setting : Setting) : Bool :=
  match setting.frame with
  | .bare => false
  | .braces isQuoted => isQuoted
  | _ => true

/-- Does a brace end something? -/
def Setting.isInBraces (setting : Setting) : Bool :=
  match setting.frame with
  | .braces _ => true
  | .quotes isInBraces => isInBraces
  | _ => false

/-- May quotes stand in it? -/
def Setting.takesQuotes (setting : Setting) : Bool :=
  match setting.frame with
  | .text => false
  | .arithmetic _ => false
  | _ => true

/-- The mistake of a word that is not over at the end of the script, or of the text
below a redirection. -/
def Setting.mistake? (setting : Setting) : Option Mistake :=
  match setting.frame with
  | .bare => none
  | .text => none
  | .braces isQuoted => some (if isQuoted && setting.below.isNone then .openQuote else .openBrace)
  | .quotes _ => some (if setting.below.isNone then .openQuote else .openBrace)
  | .arithmetic _ => some .openArithmetic

/-- A word is over, or it ought not to be. -/
def Setting.finish (setting : Setting) (place : Place) : Except Located (Found Word) :=
  match setting.mistake? with
  | some mistake => .error (mistake, place.line)
  | none => .ok ([], place)

/-- May a backslash stand in front of a quote?  It may also in an expression, unless
that is in a text from the lines below. -/
def Setting.protectsQuotes (setting : Setting) : Bool :=
  setting.takesQuotes || (setting.frame != .text && setting.below.isNone)

/-- A character that stands for itself. -/
def Setting.itself (setting : Setting) (char : Char) : Piece :=
  if setting.isQuoted then .quoted [char] else .plain char

/-- Does a backslash take away what the character means? -/
def Setting.protects (setting : Setting) (char : Char) : Bool :=
  !setting.isQuoted || ['\\', '$', '\x60'].contains char ||
    (char = '"' && setting.protectsQuotes) || (char = '\x7d' && setting.isInBraces)

/-- Does the character end a word or a part of one? -/
def Setting.endsAt (setting : Setting) (char : Char) : Bool :=
  match setting.frame with
  | .bare => endsWord char
  | .braces _ => char = '\x7d'
  | .quotes _ => char = '"'
  | _ => false

/-- Is it nothing but all arguments?  In quotes, these are still nothing if there
are none. -/
def isArguments : Word → Bool
  | [.parameter ['@'] .none _] => true
  | _ => false

/-! ## Texts without structure -/

/-- The text in single quotes. -/
def singleQuoted (place : Place) : Except Located (Found (List Char)) :=
  let inner := place.rest.takeWhile (· != '\'')
  let line := place.line + inner.count '\n'
  match place.rest.drop inner.length with
  | [] => .error (.openQuote, line)
  | _ :: rest => .ok (inner, { place with rest, line })

/-- The text in double quotes in which nothing is expanded. -/
def plainlyQuoted : Nat → Place → Except Located (Found (List Char))
  | 0, place => .error (.openQuote, place.line)
  | fuel + 1, place =>
      let further (text : List Char) (place : Place) : Except Located (Found (List Char)) :=
        (plainlyQuoted fuel place).map fun (inner, place) => (text ++ inner, place)
      match place.rest with
      | [] => .error (.openQuote, place.line)
      | '"' :: rest => .ok ([], place.at rest)
      | '\\' :: '\n' :: rest => further [] (place.past '\n' rest)
      | '\\' :: char :: rest =>
          let isProtected := ['\\', '\x60', '$', '"'].contains char
          further (if isProtected then [char] else ['\\', char]) (place.past char rest)
      | char :: rest => further [char] (place.past char rest)

/-- The word that ends a text from the lines below, and whether any of it is quoted.
Nothing is expanded in it. -/
def delimiterAt : Nat → Place → Except Located (Found (List Char × Bool))
  | 0, place => .ok (([], false), place)
  | fuel + 1, place =>
      let further (isQuoted : Bool) (text : List Char) (place : Place) :
          Except Located (Found (List Char × Bool)) :=
        (delimiterAt fuel place).map fun ((others, hasQuotes), place) =>
          ((text ++ others, isQuoted || hasQuotes), place)
      match place.rest with
      | [] => .ok (([], false), place)
      | '\\' :: [] => .ok ((['\\'], false), place.at [])
      | '\\' :: '\n' :: rest => further false [] (place.past '\n' rest)
      | '\\' :: char :: rest => further true [char] (place.at rest)
      | '\'' :: rest => do
          let (text, place) ← singleQuoted (place.at rest)
          further true text place
      | '"' :: rest => do
          let (text, place) ← plainlyQuoted fuel (place.at rest)
          further true text place
      | char :: rest =>
          if endsWord char then .ok (([], false), place)
          else further false [char] (place.at rest)

/-- The text up to a backquote, without the backslashes that protect
characters. -/
def backquoted (isQuoted : Bool) : Nat → Place → Except Located (Found (List Char))
  | 0, place => .error (.openBackquote, place.line)
  | fuel + 1, place =>
      let further (text : List Char) (place : Place) : Except Located (Found (List Char)) :=
        (backquoted isQuoted fuel place).map fun (inner, place) => (text ++ inner, place)
      match place.rest with
      | [] => .error (.openBackquote, place.line)
      | '\x60' :: rest => .ok ([], { place with rest })
      | '\\' :: '\n' :: rest => further [] (place.past '\n' rest)
      | '\\' :: char :: rest =>
          let isProtected := ['\\', '\x60', '$'].contains char || (isQuoted && char = '"')
          further (if isProtected then [char] else ['\\', char]) (place.at rest)
      | char :: rest => further [char] (place.past char rest)

/-- The mistake of a command inside of a word, which goes on as far as `tokens`. -/
def refuseInner (tokens : List Token) : Located :=
  match Reader.list false true (20 * tokens.length + 20) [] tokens with
  | .error located => located
  | .ok (_, rest) =>
      match Reader.expectOperator ")" rest with
      | .error located => located
      | .ok _ => (.unexpected "end of file" none, 1)

/-- Read tokens that end in a parenthesis as a command inside of a word: nothing,
if the parenthesis belongs to a part of the command. -/
def innerCommand (tokens : List Token) : Except Located (Option Command) :=
  match Reader.list false true (20 * tokens.length + 20) [] tokens with
  | .ok (command, [.operator ")" _, .ending _]) => .ok (some command)
  | .ok (_, [.ending _]) => .ok none
  | .ok (_, _) => .error (refuseInner tokens)
  | .error (.unexpected "end of file" _, _) => .ok none
  | .error located => .error located

/-! ## Words and tokens -/

/-- The tokens of a script so far, the latest first, the texts that are awaited
below the line, and the place behind. -/
structure Progress where
  done : List Token := []
  awaited : List Awaited := []
  place : Place

/-- The tokens in order; texts that never came are empty. -/
def Progress.tokens (progress : Progress) : List Token :=
  (fillAwaited [] progress.done).reverse

/-- Add a token. -/
def Progress.add (progress : Progress) (token : Token) (place : Place) : Progress :=
  { progress with done := token :: progress.done, place }

mutual

/-- Read the pieces of a word as far as its setting goes. -/
def pieces : Nat → Setting → Place → Except Located (Found Word)
  | 0, _, place => .error (.openQuote, place.line)
  | fuel + 1, setting, place =>
      let further (front : Word) (place : Place) : Except Located (Found Word) :=
        (pieces fuel setting place).map fun (others, place) => (front ++ others, place)
      match place.rest with
      | [] => setting.finish place
      | '\\' :: [] =>
          (setting.finish (place.at [])).map fun (_, place) => ([.quoted ['\\']], place)
      | '\\' :: '\n' :: rest => further [] (place.past '\n' rest)
      | '\\' :: char :: rest =>
          further [.quoted (if setting.protects char then [char] else ['\\', char])]
            (place.at rest)
      | '$' :: rest => do
          let (piece, place) ← expansion fuel setting (place.at rest).skipJoins
          further [piece] place
      | '\x60' :: rest => do
          let (text, place) ← backquoted setting.isQuoted fuel (place.at rest)
          let command ← wholeCommand fuel { place := { rest := text } }
          further [.command command setting.isQuoted] place
      | char :: rest =>
          let itself (_ : Unit) : Except Located (Found Word) :=
            let behind := place.past char rest
            let start (awaited : Awaited) : LineStart := awaited.lineStart behind
            let next := if char = '\n' then setting.below.map start else none
            match next with
            | none => further [setting.itself char] behind
            | some (.within front place) => further [setting.itself char, .quoted front] place
            | some (.behind place) =>
                (setting.finish place).map fun (_, place) => ([setting.itself char], place)
          if setting.endsAt char then
            .ok ([], if setting.frame = .bare then place else place.at rest)
          else if char = '\'' && !setting.isQuoted then do
            let (inner, place) ← singleQuoted (place.at rest)
            further [.quoted inner] place
          else if char = '"' && setting.takesQuotes then do
            let inside := { setting with frame := .quotes setting.isInBraces }
            let (inner, place) ← pieces fuel inside (place.at rest)
            further (if isArguments inner then inner else .quoted [] :: inner) place
          else
            match setting.frame, char with
            | .arithmetic depth, '(' => do
                let deeper := { setting with frame := .arithmetic (depth + 1) }
                let (others, place) ← pieces fuel deeper (place.at rest)
                return (.quoted ['('] :: others, place)
            | .arithmetic (depth + 1), ')' => do
                let outer := { setting with frame := .arithmetic depth }
                let (others, place) ← pieces fuel outer (place.at rest)
                return (.quoted [')'] :: others, place)
            | .arithmetic 0, ')' =>
                let behind := (place.at rest).skipJoins
                if behind.rest.head? = some ')' then
                  .ok ([], { behind with rest := behind.rest.drop 1 })
                else itself ()
            | _, _ => itself ()

/-- Read an expansion behind its dollar sign. -/
def expansion : Nat → Setting → Place → Except Located (Found Piece)
  | 0, _, place => .error (.openQuote, place.line)
  | fuel + 1, setting, place =>
      let isQuoted := setting.isQuoted
      match place.rest with
      | '(' :: rest => do
          let place := (place.at rest).skipJoins
          if place.rest.head? = some '(' then
            let inside := { setting with frame := .arithmetic 0 }
            let (inner, place) ← pieces fuel inside (place.at (place.rest.drop 1))
            return (.arithmetic inner isQuoted, place)
          else
            let (command, place) ← substitution fuel { place }
            return (.command command isQuoted, place)
      | '\x7b' :: rest =>
          let (front, place) := (place.at rest).span opensParameter
          let (name, opening, rest) := openedParameter (front ++ place.rest)
          match opening with
          | .closed fallback => .ok (.parameter name fallback isQuoted, (place.at rest))
          | .worded isPattern fallback => do
              let inside := { setting with frame := .braces (isQuoted && !isPattern) }
              let (word, place) ← pieces fuel inside (place.at rest)
              return (.parameter name (fallback word) isQuoted, place)
      | first :: rest =>
          if isNameStart first then
            let (name, place) := place.span isNamePart
            .ok (.parameter name .none isQuoted, place)
          else if isSpecialParameter first then
            .ok (.parameter [first] .none isQuoted, (place.at rest))
          else .ok (setting.itself '$', place)
      | [] => .ok (setting.itself '$', place)

/-- Read a command inside of a word, with the parenthesis that closes it. -/
def substitution : Nat → Progress → Except Located (Found Command)
  | 0, progress => .error (.openQuote, progress.place.line)
  | fuel + 1, progress =>
      match step fuel progress with
      | .error (mistake, line) => .error (refuseInner (progress.tokens ++ [.broken mistake line]))
      | .ok progress =>
          match progress.done with
          | .ending _ :: _ => .error (refuseInner progress.tokens)
          | .operator ")" line :: _ => do
              match ← innerCommand (progress.tokens ++ [.ending line]) with
              | some command => return (command, progress.place)
              | none => substitution fuel progress
          | _ => substitution fuel progress

/-- Read a script as one command, as far as it is one; what can be no token is a
mistake also behind the command. -/
def wholeCommand : Nat → Progress → Except Located Command
  | 0, progress => .error (.openQuote, progress.place.line)
  | fuel + 1, progress => do
      let tokens := allTokens fuel progress
      match ← Reader.list false true (20 * tokens.length + 20) [] tokens with
      | (_, .broken mistake line :: _) => .error (mistake, line)
      | (command, _) => return command

/-- Cut a script into tokens. -/
def allTokens : Nat → Progress → List Token
  | 0, progress => progress.tokens ++ [.ending progress.place.line]
  | fuel + 1, progress =>
      match step fuel progress with
      | .error (mistake, line) => progress.tokens ++ [.broken mistake line]
      | .ok progress =>
          match progress.done with
          | .ending _ :: _ => progress.tokens
          | _ => allTokens fuel progress

/-- Read the next token, if there is one in front of the next place. -/
def step : Nat → Progress → Except Located Progress
  | 0, progress => .ok (progress.add (.ending progress.place.line) progress.place)
  | fuel + 1, progress => do
      let place := progress.place
      let line := place.line
      match place.rest with
      | [] => return progress.add (.ending line) place
      | '\n' :: rest =>
          let (texts, place) ← textsBelow fuel [] progress.awaited (place.past '\n' rest)
          return { progress with
            done := fillAwaited texts progress.done, awaited := [] }.add (.newline place) place
      | '\\' :: '\n' :: rest => return { progress with place := place.past '\n' rest }
      | char :: rest =>
          if char = ' ' || char = '\t' then return { progress with place := place.at rest }
          else if char = '#' then
            return { progress with place := place.at (rest.dropWhile (· != '\n')) }
          else
            match operatorAt? place with
            | some (operator, place) =>
                if operator = "<<" || operator = "<<-" then
                  let (_, place) := place.span fun char => char = ' ' || char = '\t'
                  let ((name, isVerbatim), behind) ← delimiterAt fuel place
                  let isNone := name.isEmpty && !isVerbatim || place.rest.head? = some '#' ||
                    (descriptor? (name.map .plain) behind.rest).isSome
                  let progress := progress.add (.operator "<<" line) place
                  if isNone then return progress
                  else
                    let place := behind
                    let awaited : Awaited := ⟨name, isVerbatim, operator = "<<-"⟩
                    return { progress with
                      awaited := progress.awaited ++ [awaited] }.add (.awaited place.line) place
                else
                  let place := if isOver operator then place else place.skipJoins
                  return progress.add (.operator operator place.line) place
            | none =>
                let (found, place) ← pieces fuel ⟨.bare, none⟩ place
                match descriptor? found place.rest with
                | some number => return progress.add (.descriptor number place.line) place
                | none => return progress.add (.word found place.line) place

/-- Take the texts that are awaited from the lines below, the latest first. -/
def textsBelow : Nat → List Word → List Awaited → Place → Except Located (Found (List Word))
  | 0, done, _, place => .ok (done, place)
  | _, done, [], place => .ok (done, place)
  | fuel + 1, done, awaited :: others, place => do
      if awaited.isVerbatim then
        let (text, place) := awaited.verbatim (place.rest.length + 1) place
        textsBelow fuel (([.quoted text] : Word) :: done) others place
      else
        match awaited.lineStart place with
        | .behind place => textsBelow fuel ([] :: done) others place
        | .within front place =>
            let (found, place) ← pieces fuel ⟨.text, some awaited⟩ place
            textsBelow fuel ((.quoted front :: found) :: done) others place

end

/-- Read a script: its lines, and the mistake at which they stop. -/
def read (script : List Char) : Reader.Lines :=
  Reader.ofTokens (allTokens (20 * (script.length + 1)) { place := { rest := script } })

end BuildExplorer.Shell.Script
