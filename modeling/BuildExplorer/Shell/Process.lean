import BuildExplorer.Host.FileTree
import BuildExplorer.Power
import BuildExplorer.Shell.Bytes
import BuildExplorer.Shell.Command
import BuildExplorer.Text.Digit
import BuildExplorer.Tool.Supervision

/-!
# Processes

What a shell, or a program that it runs, keeps for itself: variables, functions,
options, and what it knows of the processes that it has started.  A process that
is started gets a copy of all that.
-/

namespace BuildExplorer.Shell

open Host (FileTree Location Fault)

/-! ## Jobs -/

/-- A process that was started, and how it ended. -/
structure Part where
  number : Nat
  ending : Option Tool.Ending := none

/-- Processes that were started together. -/
structure Job where
  /-- The place by which commands name it. -/
  slot : Nat
  /-- Its processes, the first one first. -/
  parts : List Part := []
  /-- Was it waited for? -/
  isAwaited : Bool := false

namespace Job

/-- Have all processes ended? -/
def isOver (job : Job) : Bool :=
  job.parts.all (·.ending.isSome)

/-- How the last process ended. -/
def ending? (job : Job) : Option Tool.Ending :=
  job.parts.getLast?.bind (·.ending)

/-- The number of the last process. -/
def number (job : Job) : Nat :=
  (job.parts.getLast?.map (·.number)).getD 0

/-- The status that an ending is known by. -/
def statusOf : Tool.Ending → Nat
  | .exit code => code.toNat
  | .signal number => 128 + number.toNat

/-- The status of a job that is over. -/
def status (job : Job) : Nat :=
  (job.ending?.map statusOf).getD 0

/-- Take down how a process ended. -/
def noteEnd (number : Nat) (ending : Tool.Ending) (job : Job) : Job :=
  { job with
    parts := job.parts.map fun part =>
      if part.number = number then { part with ending := some ending } else part }

end Job

/-! ## Settings -/

/-- What can be set for a process. -/
structure Options where
  /-- The first failure ends the process. -/
  stopsOnFailure : Bool := false
  /-- A variable that is not set is a failure. -/
  needsValues : Bool := false
  /-- Commands are shown before they run. -/
  showsCommands : Bool := false
  /-- Patterns stand for themselves. -/
  keepsPatterns : Bool := false
  deriving DecidableEq, Repr

/-- How far the options of a script have been read: the argument that comes next,
counted from one, and how much of the one in front of it was used up. -/
structure OptionPlace where
  next : Nat := 1
  used : Option Nat := none
  deriving DecidableEq, Repr

/-! ## Processes -/

/-- A process. -/
structure Process where
  /-- What it was called by. -/
  name : List Char
  arguments : List (List Char) := []
  bindings : List (List Char × List Char) := []
  /-- The variables that are passed on. -/
  exported : List (List Char) := []
  /-- The variables that keep their values. -/
  fixed : List (List Char) := []
  functions : List (List Char × Command) := []
  directory : Location := []
  status : Nat := 0
  /-- The status of the last script inside of the words of a command. -/
  innerStatus : Nat := 0
  number : Nat
  /-- The number of the process that has started it. -/
  parent : Nat := 1
  /-- The number of the shell that the process belongs to. -/
  shellNumber : Nat
  /-- The line of the command that runs. -/
  line : Nat := 1
  /-- The line up to which the script is read. -/
  linesRead : Nat := 1
  /-- The command that complaints are about. -/
  blamed : Option (List Char) := none
  /-- How many functions the command is inside of. -/
  depth : Nat := 0
  /-- How many loops of the same function the command is inside of. -/
  loops : Nat := 0
  /-- The variables of the function that runs, with what they were outside. -/
  outer : Option (List (List Char × Option (List Char))) := none
  lastBackground : Option Nat := none
  /-- What was written and has not left the process yet, the latest first. -/
  written : List (List UInt8) := []
  writtenSize : Nat := 0
  /-- Why something that was written is lost. -/
  lost : Option Fault := none
  /-- What is done about signals; nothing at all for an empty script.  The end of
  the process counts as signal 0. -/
  traps : List (Nat × List Char) := []
  /-- The signals that nothing was done about from the start. -/
  deaf : List Nat := []
  /-- What was started, the latest first. -/
  jobs : List Job := []
  options : Options := {}
  optionPlace : OptionPlace := {}

/-- A process and the files as they are. -/
structure View where
  process : Process
  tree : FileTree

/-- What interrupts a process. -/
inductive Interruption where
  | exit
  /-- It leaves loops. -/
  | leaves (loops : Nat)
  /-- It starts the next turn of a loop. -/
  | repeats (loops : Nat)
  /-- It leaves a function. -/
  | returns
  deriving DecidableEq, Repr

/-! ## Variables -/

/-- The value of a variable. -/
def variableOf (process : Process) (name : List Char) : Option (List Char) :=
  process.bindings.lookup name

/-- Bindings in which a name has a value; a new name comes last. -/
def bind (name value : List Char) (bindings : List (List Char × List Char)) :
    List (List Char × List Char) :=
  if bindings.any (·.1 == name) then
    bindings.map fun item => if item.1 = name then (name, value) else item
  else bindings ++ [(name, value)]

/-- The number that a text stands for. -/
def numberOf? (text : List Char) : Option Nat :=
  Text.readNumeral (twoTo 31) text

/-- The variable that tells which argument comes next when options are read. -/
def placeVariable : List Char :=
  "OPTIND".toList

/-! ## Wordings -/

/-- What stands in front of the complaints of a shell. -/
def complaintStart (process : Process) : String :=
  let blamed := (process.blamed.map fun name => String.ofList name ++ ": ").getD ""
  String.ofList process.name ++ ": " ++ String.ofList (Nat.toDigits 10 process.line) ++ ": " ++
    blamed

/-- The text of a location. -/
def textOfLocation (location : Location) : List Char :=
  if location.isEmpty then ['/'] else location.flatMap fun name => '/' :: spelled name

/-- The wording of a fault in the messages of utilities. -/
def faultText : Fault → String
  | .notFound => "No such file or directory"
  | .badFormat => "Exec format error"
  | .badDescriptor => "Bad file descriptor"
  | .denied => "Permission denied"
  | .alreadyThere => "File exists"
  | .notDirectory => "Not a directory"
  | .isDirectory => "Is a directory"
  | .nameTooLong => "File name too long"
  | .notEmpty => "Directory not empty"
  | .noSpace => "No space left on device"
  | .brokenPipe => "Broken pipe"
  | .tooManyLinks => "Too many levels of symbolic links"
  | fault => fault.message

end BuildExplorer.Shell
