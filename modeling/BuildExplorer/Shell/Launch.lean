import BuildExplorer.Host.Machine
import BuildExplorer.Shell.Evaluate
import BuildExplorer.Shell.Schedule

/-!
# Launching tools

A machine whose tools are scripts and the utilities they are made of.  A call is
launched if its program can be run from its directory; what the program does is
then supervised like any run.
-/

namespace BuildExplorer.Shell

open Host (FileTree Entry Fault Location Machine)

/-! ## The system -/

/-- The directories of the system, its devices and its utilities. -/
def systemTree : FileTree :=
  let path (names : List String) : Location := names.map String.toList
  ⟨[(path ["tmp"], .directory), (path ["bin"], .directory), (path ["usr"], .directory),
    (path ["usr", "bin"], .directory), (path ["root"], .directory), (path ["dev"], .directory),
    (path ["dev", "null"], .device .null), (path ["dev", "zero"], .device .zero),
    (path ["dev", "full"], .device .full), (path ["dev", "random"], .device .zero),
    (path ["dev", "urandom"], .device .zero)] ++
    Utility.installed.flatMap fun name =>
      [(path ["bin", name], .utility name), (path ["usr", "bin", name], .utility name)]⟩

/-- The variables that every tool inherits. -/
def systemVariables : List (String × String) :=
  [("PATH", "/usr/local/bin:/usr/bin:/bin"), ("HOME", "/root")]

/-! ## From a call to a process -/

/-- Does a call hold a null character? -/
def holdsNull (call : Tool.Call) : Bool :=
  let texts := call.command.text :: call.args ++
    (call.directory.map (·.text)).toList ++
    call.environment.flatMap fun (name, value) => [name, value]
  texts.any fun text => text.toList.contains '\x00'

/-- The directory in which a call runs. -/
def startDirectory (tree : FileTree) (directory : Location) (call : Tool.Call) :
    Except Fault Location :=
  match call.directory with
  | none => .ok directory
  | some path => do
      match ← FileTree.find tree directory path with
      | (location, .directory) => .ok location
      | _ => .error .notDirectory

/-- The number of the process that a call starts. -/
def firstNumber : Nat := 99

/-- The strings that a call passes on: its variables on top of those of the system,
in the order of their names. -/
def environmentStrings (call : Tool.Call) : List (List Char) :=
  let given := (systemVariables ++ call.environment).foldl (fun bindings (name, value) =>
    bind (spelled name.toList) (spelled value.toList) bindings) []
  let ordered := given.mergeSort fun first second => FileTree.inOrder first.1 second.1
  ordered.map fun (name, value) => name ++ '=' :: value

/-- The variables that strings stand for, of which the last one of a name counts. -/
def bindingsOf (strings : List (List Char)) : List (List Char × List Char) :=
  strings.foldl (fun bindings string =>
    let name := string.takeWhile (· != '=')
    bind name (string.drop (name.length + 1)) bindings) []

/-- The process of a call before its program is known. -/
def processOf (directory : Location) (call : Tool.Call) : Process :=
  let bindings := bindingsOf (environmentStrings call)
  { name := spelled call.command.chars
    bindings
    exported := bindings.map (·.1)
    directory
    number := firstNumber
    shellNumber := firstNumber }

/-- The directories that the caller itself searches. -/
def systemDirectories : List (List Char) :=
  (((systemVariables.lookup "PATH").getD "").toList).splitOn ':'

/-- What runs for a call.  Only a call with a search path of its own is searched
there, and only then a shell runs what else nothing runs. -/
def startOfCall (state : View) (call : Tool.Call) : Except Fault Start :=
  let name := spelled call.command.chars
  let arguments := name :: call.args.map fun argument => spelled argument.toList
  let start := startOf state.tree state.process.directory
  if call.environment.any (·.1 == "PATH") && !name.contains '/' then
    startNamed state name (arguments.drop 1)
  else startByName (start · arguments) systemDirectories name

/-- The process of a call before its program starts, and what runs for it. -/
def prepare (tree : FileTree) (directory : Location) (call : Tool.Call) :
    Except Fault (Process × Start) := do
  if holdsNull call then .error .nullInCall
  else
    let directory ← startDirectory tree directory call
    let process := processOf directory call
    let start ← startOfCall { process, tree } call
    .ok (process, start)

/-! ## From a process to a system -/

/-- How much a process may do before it counts as one that does not end. -/
def evaluationFuel : Nat := 10000000

/-- How many steps a system may take. -/
def systemFuel : Nat := 2000000

/-- What a process does that starts as a program. -/
def firstTask (process : Process) (start : Start) : Task :=
  Run.taskOf (runStart evaluationFuel start) process

/-- A system with one process, which reads from nothing and writes to the captured
streams. -/
def firstSystem (tree : FileTree) (limit : Nat) (task : Task) : System :=
  let input : OpenFile := { resource := .device .null, reads := true }
  let output (stream : Tool.Stream) : OpenFile := { resource := .captured stream, writes := true }
  { tree, limit
    threads := [{
      number := firstNumber, parent := 1, group := firstNumber, task
      descriptors := [⟨0, 0, false⟩, ⟨1, 1, false⟩, ⟨2, 2, false⟩] }]
    files := [(0, input), (1, output .stdout), (2, output .stderr)]
    nextProcess := firstNumber + 1
    nextObject := 3
    main := firstNumber }

/-- The system that a call comes to, once all is over or its time is. -/
def systemOf (tree : FileTree) (call : Tool.Call) (process : Process) (start : Start) : System :=
  (firstSystem tree (min call.maxOutputBytes.toNat (twoTo 20)) (firstTask process start)).run
    systemFuel (1000 * call.timeoutMs.toNat) (1000 * Tool.Supervision.graceMs)

/-! ## From a system to a report -/

/-- What happened on a captured stream. -/
def happeningsOn (system : System) (name : Tool.Stream) : List Tool.Supervision.Happening :=
  let stream := system.stream name
  stream.chunks.reverse.map (fun (timeUs, bytes) => ⟨timeUs / 1000, .arrives name bytes⟩) ++
    stream.closedUs.toList.map fun timeUs => ⟨timeUs / 1000, .streamEnds name⟩

/-- The end of the process that a system is about. -/
def endHappening (system : System) : List Tool.Supervision.Happening :=
  system.mainEnding.toList.map fun (timeUs, ending) => ⟨timeUs / 1000, .toolEnds ending⟩

/-- What happened in a system, in the order of time. -/
def happenings (system : System) : List Tool.Supervision.Happening :=
  (happeningsOn system .stdout ++ happeningsOn system .stderr ++ endHappening system).mergeSort
    fun first second => first.timeMs ≤ second.timeMs

/-- When all was over in a system. -/
def endMs (system : System) : Nat :=
  let ended := system.mainEnding.toList.map (·.1)
  let closed := system.stdout.closedUs.toList ++ system.stderr.closedUs.toList
  (ended ++ closed).foldl max 0 / 1000

/-- The report on what happened in a system. -/
def reportOf (call : Tool.Call) (system : System) : Tool.Report :=
  (Tool.Supervision.report call.maxOutputBytes.toNat call.timeoutMs.toNat system.isOver
    (endMs system) (happenings system)).getD {}

/-- The report on a tool that could not be started. -/
def launchReport (command : Path) (fault : Fault) : Tool.Report :=
  .ofLaunchFailure ("failed to launch " ++ command.text ++ ": " ++ fault.message)

/-- Run a call on a machine. -/
def launch {Tools : Type} : Host.ToolBehaviour Tools := fun call machine =>
  match prepare machine.tree machine.directory call with
  | .error fault => (launchReport call.command fault, machine)
  | .ok (process, start) =>
      let system := systemOf machine.tree call process start
      (reportOf call system, { machine with tree := system.tree })

end BuildExplorer.Shell
