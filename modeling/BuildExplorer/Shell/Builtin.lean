import BuildExplorer.Shell.Builtin.Jobs
import BuildExplorer.Shell.Reader
import BuildExplorer.Shell.Utility

/-!
# Commands of the shell itself

Commands that a shell carries out without a process of their own.  A mistake in
a call of a special one ends the shell.
-/

namespace BuildExplorer.Shell.Builtin

open Host (FileTree Location)

/-! ## Directories -/

/-- The location that names lead to from one, without a look at the files. -/
def follow : Location → List (List Char) → Location
  | here, [] => here
  | here, name :: rest =>
      if name.isEmpty || name = ['.'] then follow here rest
      else if name = ['.', '.'] then follow here.dropLast rest
      else follow (here ++ [unspelled name]) rest

/-- Change to the directory at a location. -/
def enter (location : Location) : Run Unit := do
  let old := (← Run.process).directory
  Run.changeProcess fun process =>
    { process with directory := location }
  for (name, value) in [("OLDPWD", old), ("PWD", location)] do
    Run.setVariable name.toList (textOfLocation value)
    Run.passOn name.toList

/-- Change to the directory of a name; the answer tells whether that works. -/
def tryToEnter (isPhysical : Bool) (name : List Char) : Run Bool := do
  let state ← Run.view
  let tree := state.tree
  let here := if name.head? = some '/' then [] else state.process.directory
  let location := follow here (name.splitOn '/')
  let path := if isPhysical then name else textOfLocation location
  match FileTree.find tree state.process.directory (pathOf path) with
  | .ok (location, .directory) =>
      enter location
      return true
  | _ => return false

/-- Change the directory. -/
def cd (arguments : List (List Char)) : Run Unit :=
  withOptions "LP" false arguments fun options names => do
    let process ← Run.process
    let valueOf (name : String) : List Char := (variableOf process name.toList).getD []
    let name := names.head?.getD (valueOf "HOME")
    let goesBack := name = ['-']
    let name := if goesBack then valueOf "OLDPWD" else name
    if ← tryToEnter (options.getLast? = some 'P') name then
      if goesBack then Run.say (textOfLocation (← Run.process).directory ++ ['\n'])
      Run.setStatus 0
    else Run.failAt 2 ("can't cd to " ++ String.ofList name)

/-- Show the directory. -/
def pwd (arguments : List (List Char)) : Run Unit :=
  withOptions "LP" false arguments fun _ _ => do
    Run.say (textOfLocation (← Run.process).directory ++ ['\n'])
    Run.setStatus 0

/-! ## Words -/

def echo (arguments : List (List Char)) : Run Unit := do
  Run.emit 1 (Printing.echo arguments)
  Run.setStatus 0

def printf (arguments : List (List Char)) : Run Unit :=
  withOptions "" false arguments fun _ arguments => do
    match arguments with
    | [] => Run.failAt 2 "usage: printf format [arg ...]"
    | format :: rest =>
        let printed := Printing.printf format rest
        Run.emit 1 printed.bytes
        for complaint in printed.complaints.reverse do Run.blame complaint
        Run.setStatus
          (if printed.isRefused then 2 else if printed.complaints.isEmpty then 0 else 1)

def test (arguments : List (List Char)) : Run Unit := do
  let state ← Run.view
  match Test.holds state arguments with
  | .ok value => Run.setStatus (if value then 0 else 1)
  | .error mistake => Run.failAt 2 mistake.message

/-- A test whose last argument closes a bracket. -/
def bracket (arguments : List (List Char)) : Run Unit :=
  if arguments.getLast? = some [']'] then test arguments.dropLast
  else Run.failAt 2 "missing ]"

/-! ## Names of commands -/

/-- The special commands. -/
def special : List String :=
  Reader.specialCommands ++ ["local"]

/-- All commands of the shell but the special ones. -/
def ordinary : List String :=
  ["[", "cd", "command", "echo", "false", "getopts", "kill", "printf", "pwd", "read", "test",
    "true", "type", "wait"]

def isSpecial (name : List Char) : Bool :=
  special.contains (String.ofList name)

/-- Is it the name of a command of the shell? -/
def isKnown (name : List Char) : Bool :=
  isSpecial name || ordinary.contains (String.ofList name)

/-- What a name stands for, and how that is told; a program is told by its path. -/
def meaning? (state : View) (name : List Char) : Option (List Char × String) :=
  let text := String.ofList name
  if Reader.reservedWords.contains text then some (name, "a shell keyword")
  else if state.process.functions.any (·.1 == name) then some (name, "a shell function")
  else if special.contains text then some (name, "a special shell builtin")
  else if ordinary.contains text then some (name, "a shell builtin")
  else
    match programPaths state name with
    | .ok (path :: _) =>
        let isThere := (FileTree.find state.tree state.process.directory (pathOf path)).isOk
        if isThere then some (path, String.ofList path) else none
    | _ => none

/-- Tell what names stand for. -/
def describe (names : List (List Char)) : Run Unit := do
  let state ← Run.view
  let told := names.map fun name => (name, meaning? state name)
  for (name, meaning) in told do
    let text := (meaning.map fun (_, text) => " is " ++ text).getD ": not found"
    Run.say (name ++ text.toList ++ ['\n'])
  Run.setStatus (if told.all (·.2.isSome) then 0 else 127)

/-- Tell what would be run for a name. -/
def whatRuns (name : List Char) : Run Unit := do
  match meaning? (← Run.view) name with
  | none => Run.setStatus 127
  | some (found, _) =>
      Run.say (found ++ ['\n'])
      Run.setStatus 0

/-! ## All commands -/

/-- The command of a name, but for those that run other commands. -/
def ofName? (name : String) (arguments : List (List Char)) : Option (Run Unit) :=
  match name with
  | ":" => some (Run.setStatus 0)
  | "true" => some (Run.setStatus 0)
  | "false" => some (Run.setStatus 1)
  | "echo" => some (echo arguments)
  | "printf" => some (printf arguments)
  | "test" => some (test arguments)
  | "[" => some (bracket arguments)
  | "cd" => some (cd arguments)
  | "pwd" => some (pwd arguments)
  | "exit" => some (exitWith arguments)
  | "return" => some (returnWith arguments)
  | "break" => some (leaveLoops arguments)
  | "continue" => some (repeatLoops arguments)
  | "export" => some (exportVariables arguments)
  | "readonly" => some (fixVariables arguments)
  | "local" => some (makeLocal arguments)
  | "unset" => some (unset arguments)
  | "shift" => some (shift arguments)
  | "set" => some (set arguments)
  | "read" => some (read arguments)
  | "getopts" => some (getopts arguments)
  | "trap" => some (trap arguments)
  | "kill" => some (kill arguments)
  | "wait" => some (wait arguments)
  | "type" => some (describe arguments)
  | _ => none

/-- Carry out a command under its name.  All that it wrote leaves the process then;
it is a failure if that is lost. -/
def run (name : List Char) (body : Run Unit) : Run Unit := do
  let before := (← Run.process).blamed
  Run.changeProcess fun process => { process with blamed := some name, lost := none }
  let outcome ← Run.observe body
  Run.flush
  let process ← Run.process
  if process.lost.isSome then
    Run.failAt (process.status ||| 1) (String.ofList name ++ ": I/O error")
  Run.changeProcess fun process => { process with blamed := before, lost := none }
  Run.conclude outcome

end BuildExplorer.Shell.Builtin
