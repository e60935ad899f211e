import BuildExplorer.Shell.Run
import BuildExplorer.Shell.Word

/-!
# Files that can be run

A program of the system is run as it is, and a script by the interpreter that its
first line names, which may be a script itself.  What neither is a program nor
names an interpreter can only be run by a shell.
-/

namespace BuildExplorer.Shell

open Host (FileTree Fault Location Entry)

/-! ## Interpreters -/

/-- An interpreter, and what it is given in front of the script. -/
structure Interpreter where
  path : List Char
  argument : Option (List Char)
  deriving DecidableEq, Repr

/-- How much of a file is looked at to find its interpreter. -/
def headLength : Nat := 256

/-- Is the character a blank of a first line? -/
def isHeadBlank (char : Char) : Bool :=
  char = ' ' || char = '\t'

/-- Does the character end the name of an interpreter? -/
def endsInterpreter (char : Char) : Bool :=
  isHeadBlank char || char = '\x00'

/-- The interpreter that a first line names, which ends where the line ends or the
file is no longer looked at.  All that follows the name is one argument. -/
def Interpreter.ofLine? (line : List Char) : Option Interpreter :=
  let line := (line.reverse.dropWhile isHeadBlank).reverse
  let text := line.dropWhile isHeadBlank
  if text.isEmpty then none
  else
    let path := text.takeWhile fun char => !endsInterpreter char
    match text.drop path.length with
    | [] => some ⟨path, none⟩
    | '\x00' :: _ => some ⟨path, none⟩
    | behind => some ⟨path, some ((behind.dropWhile isHeadBlank).takeWhile (· != '\x00'))⟩

/-- The interpreter of a file, if its head names one.  A line that goes on behind
the head must show at least where the name ends. -/
def Interpreter.ofFile? (contents : List UInt8) : Option Interpreter :=
  let head := (contents ++ List.replicate headLength 0).take headLength
  match textOf head with
  | '#' :: '!' :: text =>
      let line := text.takeWhile fun char => char != '\n' && char != '\x00'
      if (text.drop line.length).head? = some '\n' then Interpreter.ofLine? line
      else if (text.dropWhile isHeadBlank).any endsInterpreter then
        Interpreter.ofLine? text.dropLast
      else none
  | _ => none

/-! ## Starts -/

/-- May an entry be run? -/
def isRunnable : Entry → Bool
  | .file _ isExecutable => isExecutable
  | .utility _ => true
  | _ => false

/-- A program of the system with its arguments, the first of which is what it is
called by. -/
structure Start where
  utility : String
  arguments : List (List Char)
  deriving DecidableEq, Repr

/-- How many files are looked at until a program is found. -/
def maxLinks : Nat := 6

/-- Find the program behind scripts. -/
def startBehind (tree : FileTree) (directory : Location) :
    Nat → List Char → List (List Char) → Except Fault Start
  | links, path, arguments => do
      let (_, entry) ← FileTree.find tree directory (pathOf path)
      match links, entry with
      | 0, entry => .error (if isRunnable entry then .tooManyLinks else .denied)
      | _, .utility name => .ok ⟨name, arguments⟩
      | links + 1, .file contents true =>
          match Interpreter.ofFile? contents with
          | none => .error .badFormat
          | some interpreter =>
              startBehind tree directory links interpreter.path
                (interpreter.path :: interpreter.argument.toList ++ path :: arguments.drop 1)
      | _, _ => .error .denied

/-- Find out what runs for the file at a path. -/
def startOf (tree : FileTree) (directory : Location) (path : List Char)
    (arguments : List (List Char)) : Except Fault Start :=
  startBehind tree directory maxLinks path arguments

/-- The shell of the system. -/
def systemShell : List Char :=
  "/bin/sh".toList

/-- Find out what runs for the file at a path; the shell, if nothing else does. -/
def startOrShell (tree : FileTree) (directory : Location) (path : List Char)
    (arguments : List (List Char)) : Except Fault Start :=
  match startOf tree directory path arguments with
  | .error .badFormat =>
      startOf tree directory systemShell (systemShell :: path :: arguments.drop 1)
  | outcome => outcome

/-! ## Searches -/

/-- The directories that programs are searched in. -/
def searchPath (process : Process) : Option (List (List Char)) :=
  (variableOf process "PATH".toList).map (·.splitOn ':')

/-- The paths at which a name may stand for a file. -/
def candidates (directories : List (List Char)) (name : List Char) : List (List Char) :=
  directories.map fun directory => if directory.isEmpty then name else directory ++ '/' :: name

/-- Does the fault only tell that there is no such file? -/
def isAbsence (fault : Fault) : Bool :=
  fault = .notFound || fault = .notDirectory

/-- Start the first of several files that can be started.  Files that are not
there or must not be run are passed over, and any other fault is final; at the
end a file that must not be run counts for more than one that is not there. -/
def startFirst (start : List Char → Except Fault Start) : Fault → List (List Char) →
    Except Fault Start
  | fault, [] => .error fault
  | fault, path :: rest =>
      match start path with
      | .ok found => .ok found
      | .error .denied => startFirst start .denied rest
      | .error other =>
          if isAbsence other then startFirst start (if fault = .denied then fault else other) rest
          else .error other

/-- Start a program that is given by its name, which is searched for unless it is
a path. -/
def startByName (start : List Char → Except Fault Start) (directories : List (List Char))
    (name : List Char) : Except Fault Start :=
  if name.isEmpty then .error .notFound
  else if name.contains '/' then start name
  else if FileTree.maxNameLength < name.length then .error .nameTooLong
  else startFirst start .notFound (candidates directories name)

/-- The directories that are searched where none are given. -/
def usualDirectories : List (List Char) :=
  ["/bin".toList, "/usr/bin".toList]

/-- Start a program by its name as other programs than shells do. -/
def startNamed (state : View) (name : List Char) (arguments : List (List Char)) :
    Except Fault Start :=
  let start (path : List Char) : Except Fault Start :=
    startOrShell state.tree state.process.directory path (name :: arguments)
  startByName start ((searchPath state.process).getD usualDirectories) name

/-- The paths for a name from the first one on at which there is a file that may
be run, or why there is none. -/
def pathsFrom (state : View) : Fault → List (List Char) → Except Fault (List (List Char))
  | fault, [] => .error fault
  | fault, path :: rest =>
      match FileTree.find state.tree state.process.directory (pathOf path) with
      | .error other => pathsFrom state (if isAbsence other then fault else other) rest
      | .ok (_, entry) =>
          if isRunnable entry then .ok (path :: rest) else pathsFrom state .denied rest

/-- The paths at which a shell looks for a program, from the first one on that can
be it. -/
def programPaths (state : View) (name : List Char) : Except Fault (List (List Char)) :=
  if name.contains '/' then .ok [name]
  else pathsFrom state .notFound (candidates ((searchPath state.process).getD []) name)

/-- All paths at which a shell may find a program. -/
def allPaths (state : View) (name : List Char) : Except Fault (List (List Char)) :=
  .ok (if name.contains '/' then [name] else candidates ((searchPath state.process).getD []) name)

/-- Start the first of several files that can be started, as a shell does: every
fault is passed over, and the last one that is not an absence counts. -/
def startAny (state : View) (arguments : List (List Char)) :
    Fault → List (List Char) → Except Fault Start
  | fault, [] => .error fault
  | fault, path :: rest =>
      match startOrShell state.tree state.process.directory path arguments with
      | .ok found => .ok found
      | .error other => startAny state arguments (if isAbsence other then fault else other) rest

/-- Does a shell count the fault as that of a program that is missing? -/
def isMissing (fault : Fault) : Bool :=
  isAbsence fault || fault = .nameTooLong || fault = .tooManyLinks

/-- The wording of a fault of a program in the messages of shells. -/
def programFaultText (fault : Fault) : String :=
  if isAbsence fault then "not found" else faultText fault

/-! ## Fresh shells -/

/-- The variables of a shell that have the same values in the beginning, whatever
is passed on to it. -/
def startValues (process : Process) : List (List Char × List Char) :=
  [("IFS".toList, [' ', '\t', '\n']), ("OPTIND".toList, ['1']),
    ("PPID".toList, Nat.toDigits 10 process.parent),
    ("PWD".toList, textOfLocation process.directory)]

/-- The values of variables of a shell that are not passed on to it: where programs
are, and what it shows in front of what it asks for and of the commands that it runs. -/
def defaultValues : List (List Char × List Char) :=
  [("PATH".toList, "/usr/local/sbin:/usr/local/bin:/usr/sbin:/usr/bin:/sbin:/bin".toList),
    ("PS1".toList, ['#', ' ']), ("PS2".toList, ['>', ' ']), ("PS4".toList, ['+', ' '])]

/-- The variables of a fresh shell: of the present ones, those that are passed on
under names that a shell knows. -/
def freshBindings (process : Process) : List (List Char × List Char) :=
  let start := startValues process
  let inherited := process.bindings.filter fun item =>
    process.exported.contains item.1 && isName item.1 && !start.any (·.1 == item.1)
  inherited ++ start ++ defaultValues.filter fun item => !inherited.any (·.1 == item.1)

/-- What a process passes on to the programs that it starts. -/
def passedOn (process : Process) : List (List Char × List Char) :=
  process.bindings.filter fun item => process.exported.contains item.1

/-- Keep only what is passed on to a program that starts. -/
def keepEnvironment : Run Unit :=
  Run.changeProcess fun process =>
    let bindings := passedOn process
    { process with bindings, exported := bindings.map (·.1) }

/-- Make a fresh process out of the present one: only variables that are passed
on are left. -/
def renew (name : List Char) (arguments : List (List Char)) : Run Unit :=
  Run.changeProcess fun process =>
    { process with
      name, arguments
      bindings := freshBindings process
      exported := "PWD".toList :: process.exported
      functions := [], fixed := [], jobs := [], lastBackground := none, options := {}
      optionPlace := {}
      shellNumber := process.number, line := 0, blamed := none, depth := 0, loops := 0
      outer := none, status := 0 }

end BuildExplorer.Shell
