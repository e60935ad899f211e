import BuildExplorer.Shell.Token

/-!
# Reading scripts

Commands are read from tokens by descent along the grammar of the shell.  What
is read is given together with the tokens that are left.  A reserved word counts
only where a command may begin or a compound command goes on.  A script is read
line by line, so that a mistake leaves the lines above it as they are.
-/

namespace BuildExplorer.Shell.Reader

/-- What was read of tokens, and the tokens behind it. -/
abbrev Parsed (Found : Type) : Type :=
  Found × List Token

/-! ## The token at the front -/

/-- The words that may mean more than themselves. -/
def reservedWords : List String :=
  ["!", "case", "do", "done", "elif", "else", "esac", "fi", "for", "if", "in", "then", "until",
    "while", "\x7b", "\x7d"]

/-- The reserved words that end a list of commands. -/
def closers : List String :=
  ["then", "else", "elif", "fi", "do", "done", "esac", "\x7d"]

/-- The reserved word at the front. -/
def reserved? : List Token → Option String
  | .word pieces _ :: _ =>
      (bareText pieces).bind fun text =>
        if reservedWords.contains (String.ofList text) then some (String.ofList text) else none
  | _ => none

/-- Does the token at the front end a list of commands? -/
def isClosed : List Token → Bool
  | [] => true
  | .ending _ :: _ => true
  | .operator operator _ :: _ => operator == ")" || operator == ";;"
  | tokens => (reserved? tokens).any closers.contains

/-- Pass over the ends of lines. -/
def skipLines : List Token → List Token
  | .newline _ :: rest => skipLines rest
  | tokens => tokens

/-- How a text is called in a complaint. -/
def quoted (text : String) : String :=
  "\"" ++ text ++ "\""

/-- Complain about the token at the front; a reserved word is called by its
name if it may count there. -/
def refuse {Found : Type} (namesReserved : Bool) (expected : Option String) :
    List Token → Except Located (Parsed Found)
  | [] => .error (.unexpected "end of file" expected, 1)
  | .ending line :: _ => .error (.unexpected "end of file" expected, line)
  | .broken mistake line :: _ => .error (mistake, line)
  | .newline behind :: _ => .error (.unexpected "newline" expected, behind.line)
  | .awaited line :: _ => .error (.unexpected "word" expected, line)
  | .descriptor _ line :: _ => .error (.unexpected "redirection" expected, line)
  | .operator operator line :: _ =>
      let name := if leadsElsewhere operator then "redirection" else quoted operator
      .error (.unexpected name expected, line)
  | .word pieces line :: rest =>
      let reserved := if namesReserved then reserved? (.word pieces line :: rest) else none
      .error (.unexpected ((reserved.map quoted).getD "word") expected, line)

/-- Pass over a reserved word. -/
def expect (reserved : String) (tokens : List Token) : Except Located (List Token) :=
  if reserved? tokens = some reserved then .ok (tokens.drop 1)
  else (refuse true (some (quoted reserved)) tokens).map fun (_ : Parsed Unit) => []

/-- Pass over an operator. -/
def expectOperator (operator : String) : List Token → Except Located (List Token)
  | .operator found line :: rest =>
      if found = operator then .ok rest
      else (refuse true (some (quoted operator)) (.operator found line :: rest)).map
        fun (_ : Parsed Unit) => []
  | tokens =>
      (refuse true (some (quoted operator)) tokens).map fun (_ : Parsed Unit) => []

/-! ## Redirections -/

/-- Read the target of a redirection. -/
def target (operator : String) (word : Word) : Target :=
  match operator with
  | ">>" => .append word
  | "<" => .read word
  | "<>" => .update word
  | "<<" => .text word
  | ">&" => .same word
  | "<&" => .same word
  | _ => .write word

/-- The descriptor of an operator that names none. -/
def usualDescriptor (operator : String) : Nat :=
  if operator.toList.head? == some '<' then 0 else 1

/-- Read the word behind the operator of a redirection. -/
def redirectionTo (descriptor : Nat) (operator : String) :
    List Token → Except Located (Parsed Redirection)
  | .word word _ :: rest => .ok (⟨descriptor, target operator word⟩, rest)
  | tokens => refuse false none tokens

/-- Read a redirection, if there is one. -/
def redirection : List Token → Except Located (Option (Redirection × List Token))
  | .descriptor number _ :: .operator operator _ :: rest =>
      (redirectionTo number operator rest).map some
  | .operator operator _ :: rest =>
      if leadsElsewhere operator then
        (redirectionTo (usualDescriptor operator) operator rest).map some
      else .ok none
  | _ => .ok none

/-- Read the redirections behind a command. -/
def redirections : Nat → List Token → Except Located (Parsed (List Redirection))
  | 0, tokens => .ok ([], tokens)
  | fuel + 1, tokens => do
      match ← redirection tokens with
      | none => return ([], tokens)
      | some (first, rest) =>
          let (others, rest) ← redirections fuel rest
          return (first :: others, rest)

/-- Take away from a word at the front that it may be a reserved one. -/
def plainly : List Token → List Token
  | .word pieces line :: rest => .word (.quoted [] :: pieces) line :: rest
  | tokens => tokens

/-- Let a word at the front be a reserved one again. -/
def openly : List Token → List Token
  | .word (.quoted [] :: pieces) line :: rest => .word pieces line :: rest
  | tokens => tokens

/-- Read the redirections behind a compound command.  No reserved word follows them,
but for the end of a choice. -/
def redirect (fuel : Nat) (body : Command) (tokens : List Token) :
    Except Located (Parsed Command) := do
  match ← redirections fuel tokens with
  | ([], rest) => return (body, rest)
  | (found, rest) => return (.redirected body found, plainly rest)

/-! ## Simple commands -/

/-- The name and the value of an assignment. -/
def assignment? (word : Word) : Option (List Char × Word) :=
  let name := word.takeWhile fun piece =>
    match piece with
    | .plain char => isNamePart char
    | _ => false
  match bareText name, word.drop name.length with
  | some text, .plain '=' :: value => if isName text then some (text, value) else none
  | _, _ => none

/-- Read the words and redirections of a simple command. -/
def simpleParts : Nat → List Token → Except Located (Parsed (List Word × List Redirection))
  | 0, tokens => .ok (([], []), tokens)
  | fuel + 1, tokens => do
      match ← redirection tokens with
      | some (first, rest) =>
          let ((words, others), rest) ← simpleParts fuel rest
          return ((words, first :: others), rest)
      | none =>
          match tokens with
          | .word word _ :: rest =>
              let ((words, others), rest) ← simpleParts fuel rest
              return ((word :: words, others), rest)
          | _ => return (([], []), tokens)

/-- Part assignments from the words that follow them. -/
def splitAssignments : List Word → List (List Char × Word) × List Word
  | [] => ([], [])
  | word :: rest =>
      match assignment? word with
      | none => ([], word :: rest)
      | some assignment =>
          let (others, words) := splitAssignments rest
          (assignment :: others, words)

/-- The line of the token at the front. -/
def lineOf : List Token → Nat
  | .word _ line :: _ => line
  | .operator _ line :: _ => line
  | .descriptor _ line :: _ => line
  | .newline behind :: _ => behind.line
  | .awaited line :: _ => line
  | .ending line :: _ => line
  | .broken _ line :: _ => line
  | [] => 1

/-- Read a simple command. -/
def simple (fuel : Nat) (tokens : List Token) : Except Located (Parsed Command) := do
  let ((words, redirections), rest) ← simpleParts fuel tokens
  if words.isEmpty && redirections.isEmpty then refuse true none tokens
  else
    let (assignments, words) := splitAssignments words
    return (.simple (lineOf tokens) assignments words redirections, rest)

/-! ## Parts of compound commands -/

/-- Read the words of a loop, up to the end of their list. -/
def wordList : List Token → List Word × List Token
  | .word word _ :: rest =>
      let (words, rest) := wordList rest
      (word :: words, rest)
  | tokens => ([], tokens)

/-- Read the head of a loop over words: its name, and the words if it has any. -/
def loopHead : List Token → Except Located (Parsed (List Char × Option (List Word)))
  | .word pieces line :: rest =>
      match bareText pieces with
      | none => .error (.badLoopName, line)
      | some name =>
          if !isName name then .error (.badLoopName, line)
          else
            let next := skipLines rest
            if reserved? next = some "in" then
              let (words, after) := wordList (next.drop 1)
              match after with
              | .operator ";" _ :: after => .ok ((name, some words), skipLines after)
              | .newline _ :: after => .ok ((name, some words), skipLines after)
              | after => refuse false none after
            else
              match next with
              | .operator ";" _ :: after => .ok ((name, none), skipLines after)
              | after => .ok ((name, none), after)
  | .broken mistake line :: _ => .error (mistake, line)
  | tokens => .error (.badLoopName, lineOf tokens)

/-- Read the patterns in front of a body. -/
def patterns : Nat → List Token → Except Located (Parsed (List Word))
  | fuel + 1, .operator "(" _ :: rest => patterns fuel rest
  | fuel + 1, .word word _ :: .operator "|" _ :: rest => do
      let (others, rest) ← patterns fuel rest
      return (word :: others, rest)
  | _, .word word _ :: .operator ")" _ :: rest => .ok ([word], rest)
  | _, .word _ _ :: rest => refuse false (some (quoted ")")) rest
  | _, .operator _ _ :: rest => refuse false (some (quoted ")")) rest
  | _, tokens => refuse false (some (quoted ")")) tokens

/-- Commands whose names cannot be taken by functions. -/
def specialCommands : List String :=
  [".", ":", "break", "continue", "eval", "exec", "exit", "export", "readonly", "return", "set",
    "shift", "trap", "unset"]

/-- The name of a function. -/
def functionName (pieces : Word) : Option (List Char) :=
  (bareText pieces).bind fun name =>
    if isName name && !specialCommands.contains (String.ofList name) then some name else none

/-- Commands that are read, first one last, as one. -/
def gather : List Command → Command
  | [] => .nothing
  | [single] => single
  | several => .sequence several.reverse

/-! ## Commands -/

mutual

/-- Read a list of commands.  A list on a line of its own goes up to the end of the
line; another one goes on until it is closed, and unless it `mayBeEmpty` has at
least one command. -/
def list (isLine mayBeEmpty : Bool) :
    Nat → List Command → List Token → Except Located (Parsed Command)
  | 0, _, tokens => refuse true none tokens
  | fuel + 1, done, tokens => do
      let tokens := if isLine then tokens else skipLines tokens
      match tokens with
      | [] => return (gather done, tokens)
      | .ending _ :: _ => return (gather done, tokens)
      | .newline _ :: _ => return (gather done, tokens)
      | tokens =>
          if !isLine && (mayBeEmpty || !done.isEmpty) && isClosed tokens then
            return (gather done, tokens)
          let (first, rest) ← chain fuel tokens
          match rest with
          | .operator ";" _ :: rest => list isLine mayBeEmpty fuel (first :: done) rest
          | .operator "&" _ :: rest =>
              list isLine mayBeEmpty fuel (.background first :: done) rest
          | .newline behind :: rest =>
              list isLine mayBeEmpty fuel (first :: done) (.newline behind :: rest)
          | .ending _ :: _ => return (gather (first :: done), rest)
          | _ => if isLine then refuse true none rest else return (gather (first :: done), rest)

/-- Read pipelines that are chained by their success. -/
def chain : Nat → List Token → Except Located (Parsed Command)
  | 0, tokens => refuse true none tokens
  | fuel + 1, tokens => do
      let (first, rest) ← pipeline fuel tokens
      links fuel first rest

def links : Nat → Command → List Token → Except Located (Parsed Command)
  | 0, _, tokens => refuse true none tokens
  | fuel + 1, first, .operator "&&" _ :: rest => do
      let (second, rest) ← pipeline fuel (skipLines rest)
      links fuel (.both first second) rest
  | fuel + 1, first, .operator "||" _ :: rest => do
      let (second, rest) ← pipeline fuel (skipLines rest)
      links fuel (.either first second) rest
  | _, first, rest => .ok (first, rest)

/-- Read a pipeline. -/
def pipeline : Nat → List Token → Except Located (Parsed Command)
  | 0, tokens => refuse true none tokens
  | fuel + 1, tokens => do
      let negated := reserved? tokens == some "!"
      let (parts, rest) ← parts fuel (if negated then tokens.drop 1 else tokens)
      match parts with
      | [single] => return (if negated then .pipeline true [single] else single, rest)
      | parts => return (.pipeline negated parts, rest)

def parts : Nat → List Token → Except Located (Parsed (List Command))
  | 0, tokens => refuse true none tokens
  | fuel + 1, tokens => do
      let (first, rest) ← command fuel tokens
      match rest with
      | .operator "|" _ :: rest =>
          let (others, rest) ← parts fuel (skipLines rest)
          return (first :: others, rest)
      | _ => return ([first], rest)

/-- Read a command. -/
def command : Nat → List Token → Except Located (Parsed Command)
  | 0, tokens => refuse true none tokens
  | fuel + 1, .operator "(" _ :: rest => do
      let (body, rest) ← list false false fuel [] rest
      let rest ← expectOperator ")" rest
      redirect fuel (.subshell body) rest
  | fuel + 1, tokens =>
      match reserved? tokens with
      | some "\x7b" => do
          let (body, rest) ← list false false fuel [] (tokens.drop 1)
          let rest ← expect "\x7d" rest
          redirect fuel body rest
      | some "if" => do
          let (body, rest) ← branch fuel (tokens.drop 1)
          redirect fuel body rest
      | some "while" => loop fuel true (tokens.drop 1)
      | some "until" => loop fuel false (tokens.drop 1)
      | some "for" => each fuel (tokens.drop 1)
      | some "case" => choose fuel (tokens.drop 1)
      | some _ => refuse true none tokens
      | none =>
          match tokens with
          | .word pieces line :: .operator "(" place :: rest => do
              if (assignment? pieces).isSome then refuse true none (.operator "(" place :: rest)
              else
                match rest, functionName pieces with
                | .operator ")" _ :: _, none => .error (.badFunctionName, line)
                | .operator ")" _ :: rest, some name =>
                    let (body, rest) ← command fuel (skipLines rest)
                    return (.define name body, rest)
                | rest, _ => refuse false (some (quoted ")")) rest
          | tokens => simple (fuel + 1) tokens

/-- Read a branch behind its first word. -/
def branch : Nat → List Token → Except Located (Parsed Command)
  | 0, tokens => refuse true none tokens
  | fuel + 1, tokens => do
      let (condition, rest) ← list false false fuel [] tokens
      let rest ← expect "then" rest
      let (thenPart, rest) ← list false false fuel [] rest
      match reserved? rest with
      | some "else" =>
          let (elsePart, rest) ← list false false fuel [] (rest.drop 1)
          let rest ← expect "fi" rest
          return (.branch condition thenPart elsePart, rest)
      | some "elif" =>
          let (elsePart, rest) ← branch fuel (rest.drop 1)
          return (.branch condition thenPart elsePart, rest)
      | _ =>
          let rest ← expect "fi" rest
          return (.branch condition thenPart .nothing, rest)

/-- Read the body of a loop. -/
def body : Nat → List Token → Except Located (Parsed Command)
  | 0, tokens => refuse true none tokens
  | fuel + 1, tokens => do
      let rest ← expect "do" tokens
      let (body, rest) ← list false false fuel [] rest
      let rest ← expect "done" rest
      return (body, rest)

def loop : Nat → Bool → List Token → Except Located (Parsed Command)
  | 0, _, tokens => refuse true none tokens
  | fuel + 1, expected, tokens => do
      let (condition, rest) ← list false false fuel [] tokens
      let (body, rest) ← body fuel rest
      redirect fuel (.loop expected condition body) rest

def each : Nat → List Token → Except Located (Parsed Command)
  | 0, tokens => refuse true none tokens
  | fuel + 1, tokens => do
      let ((name, words), rest) ← loopHead tokens
      let (body, rest) ← body fuel rest
      redirect fuel (.each name words body) rest

/-- Read a choice behind its first word. -/
def choose : Nat → List Token → Except Located (Parsed Command)
  | fuel + 1, .word word _ :: rest => do
      let rest ← expect "in" (skipLines rest)
      let (arms, rest) ← arms fuel rest
      redirect fuel (.choose word arms) rest
  | _, tokens => refuse false (some "word") tokens

def arms : Nat → List Token → Except Located (Parsed (List (List Word × Command)))
  | 0, tokens => refuse true none tokens
  | fuel + 1, tokens => do
      let tokens := skipLines tokens
      if reserved? tokens == some "esac" then return ([], tokens.drop 1)
      else
        let (patterns, rest) ← patterns fuel tokens
        let (body, rest) ← list false true fuel [] rest
        let rest := openly (skipLines rest)
        if reserved? rest == some "esac" then return ([(patterns, body)], rest.drop 1)
        let rest ← expectOperator ";;" rest
        let (others, rest) ← arms fuel rest
        return ((patterns, body) :: others, rest)

end

/-! ## Scripts -/

/-- The lines of a script, each with the place behind it, and the mistake at which
they stop. -/
abbrev Lines : Type :=
  List (Command × Place) × Option Located

/-- The lines of tokens. -/
def lines (fuel : Nat) : Nat → List Token → Lines
  | 0, _ => ([], none)
  | _, [] => ([], none)
  | _, .ending _ :: _ => ([], none)
  | count + 1, tokens =>
      match list true true fuel [] tokens with
      | .error located => ([], some located)
      | .ok (first, .newline behind :: rest) =>
          let (others, located) := lines fuel count rest
          ((first, behind) :: others, located)
      | .ok (first, rest) => ([(first, { rest := [], line := lineOf rest })], none)

/-- Read the lines of a script. -/
def ofTokens (tokens : List Token) : Lines :=
  let fuel := 20 * tokens.length + 20
  lines fuel fuel tokens

end BuildExplorer.Shell.Reader
