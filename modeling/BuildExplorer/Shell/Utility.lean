import BuildExplorer.Shell.Test
import BuildExplorer.Shell.Utility.ByteMap
import BuildExplorer.Shell.Utility.Edit
import BuildExplorer.Shell.Utility.Files
import BuildExplorer.Shell.Utility.Order
import BuildExplorer.Shell.Utility.Wrapped

/-!
# Utilities

The programs of the system that scripts are made of, under the names that they
answer to.
-/

namespace BuildExplorer.Shell.Utility

open Host (Fault)

/-! ## Time -/

/-- Wait for the sum of times. -/
def sleep (arguments : List (List Char)) : Run Unit :=
  withOptions {} arguments 1 fun given => do
    match given.operands, given.operands.mapM milliseconds? with
    | [], _ => misuse 1 "missing operand"
    | _, none =>
        let wrong := given.operands.filter fun text => (milliseconds? text).isNone
        misuse 1 ("invalid time interval " ++ quote (wrong.headD []))
    | _, some durations =>
        let duration := durations.foldl (· + ·) 0
        Run.ask (.pause (some ((← Run.ask .clock) + 1000 * duration)))

/-! ## Words -/

/-- Write words. -/
def echo : List (List Char) → Run Unit
  | ['-', 'n'] :: words => put (bytesOf ([' '].intercalate words))
  | words => put (bytesOf ([' '].intercalate words ++ ['\n']))

/-- Write words in a format. -/
def printf (arguments : List (List Char)) : Run Unit := do
  match arguments with
  | [] => misuse 1 "missing operand"
  | format :: rest =>
      let printed := Printing.printf format rest
      put printed.bytes
      for complaint in printed.complaints.reverse do complain complaint
      Run.setStatus (if printed.complaints.isEmpty then 0 else 1)

/-- Write the numbers from one up to another. -/
def seq (arguments : List (List Char)) : Run Unit := do
  match arguments.mapM (Text.readNumeral (twoTo 31)) with
  | some [last] => write 1 last
  | some [first, last] => write first last
  | _ => misuse 1 "missing or invalid operand"
where
  write (first last : Nat) : Run Unit :=
    put (bytesOf (Text.unlines ((List.range (last + 1 - first)).map fun offset =>
      Nat.toDigits 10 (first + offset))))

/-- The names that a path consists of. -/
def namesOf (path : List Char) : List (List Char) :=
  (path.splitOn '/').filter (!·.isEmpty)

/-- Write the last name of a path. -/
def basename : List (List Char) → Run Unit
  | [path] => put (bytesOf ((namesOf path).getLastD ['/'] ++ ['\n']))
  | _ => misuse 1 "missing or extra operand"

/-- Write a path without its last name. -/
def dirname : List (List Char) → Run Unit
  | [path] =>
      let root := if path.head? = some '/' then ['/'] else []
      let front := root ++ ['/'].intercalate (namesOf path).dropLast
      put (bytesOf ((if front.isEmpty then ['.'] else front) ++ ['\n']))
  | _ => misuse 1 "missing or extra operand"

/-- Write bytes over and over. -/
def writeForever (bytes : List UInt8) : Nat → Run Unit
  | 0 => Run.waitForever
  | fuel + 1 => do
      match ← Run.ask (.write 1 bytes) with
      | .ok () => writeForever bytes fuel
      | .error fault => fail 1 ("standard output: " ++ faultText fault)

/-- How much is written at once of what is repeated. -/
def repeatedSize : Nat := 8192

/-- Write the same line over and over. -/
def yes (arguments : List (List Char)) : Run Unit :=
  let words := if arguments.isEmpty then [['y']] else arguments
  let line := bytesOf ([' '].intercalate words ++ ['\n'])
  let block := (List.replicate (repeatedSize / line.length + 1) line).flatten
  writeForever block inputFuel

/-- Find out whether a condition holds. -/
def test (arguments : List (List Char)) : Run Unit := do
  let state ← Run.view
  match Test.holds state arguments with
  | .ok value => Run.setStatus (if value then 0 else 1)
  | .error mistake => fail 2 mistake.message

/-- A test whose last argument closes a bracket. -/
def bracket (arguments : List (List Char)) : Run Unit :=
  if arguments.getLast? = some [']'] then test arguments.dropLast else fail 2 "missing ']'"

/-! ## All utilities -/

/-- The utilities that do their work themselves. -/
def own : List (String × (List (List Char) → Run Unit)) :=
  [("true", fun _ => return ()), ("false", fun _ => Run.setStatus 1), ("echo", echo),
    ("printf", printf), ("seq", seq), ("yes", yes), ("test", test), ("[", bracket),
    ("sleep", sleep), ("cat", cat), ("head", head), ("tail", tail), ("tr", tr), ("wc", wc),
    ("sort", sort), ("grep", grep), ("sed", sed), ("od", od), ("ls", ls), ("mkdir", mkdir),
    ("mkfifo", mkfifo), ("touch", touch), ("chmod", chmod), ("rm", rm), ("cp", cp), ("mv", mv),
    ("basename", basename), ("dirname", dirname)]

/-- The utilities that run another program in their place. -/
def wrapping : List String :=
  ["env", "nohup", "setsid"]

/-- The utilities that are files of the system. -/
def installed : List String :=
  ["sh", "dash", "timeout"] ++ wrapping ++ own.map (·.1)

/-- Tell that what was written is lost, since the output is closed or for another
reason. -/
def complainOfLoss (utility : String) (isClosed : Bool) (fault : Fault) : Run Unit := do
  let why := ": " ++ faultText fault
  let what := if utility = "cat" && isClosed then "standard output" else "write error"
  complain (what ++ why)
  Run.setStatus (if utility = "ls" || utility = "sort" then 2 else 1)

/-- Do something as a utility, up to the end: all that was written leaves the
process, and it is told if that is lost. -/
def toItsEnd (utility : String) (body : Run Unit) : Run Unit := do
  Run.changeProcess fun process => { process with status := 0, lost := none }
  let isClosed := (← Run.ask (.describe 1)).isNone
  let outcome ← Run.observe body
  Run.flush
  if let some fault := (← Run.process).lost then
    Run.changeProcess fun process => { process with lost := none }
    complainOfLoss utility isClosed fault
  Run.conclude outcome

/-- Run a utility in the place of the present process. -/
def run (utility : String) (arguments : List (List Char)) : Run Unit := do
  match own.lookup utility with
  | none => Run.setStatus 127
  | some body => toItsEnd utility (body arguments)

end BuildExplorer.Shell.Utility
