import BuildExplorer.Shell.OpenFile
import BuildExplorer.Shell.Signal

/-!
# The system

What all processes share: the files, a clock that only moves when nobody has
anything to do, pipes and open files.  The system carries out the calls of one
process after the other; a call that has to wait is tried again after each
change.
-/

namespace BuildExplorer.Shell

open Host (FileTree Entry Location Fault)

/-! ## What there is -/

/-- A process as the system sees it. -/
structure Thread where
  number : Nat
  /-- The process that has started it. -/
  parent : Nat
  /-- The process that leads its group. -/
  group : Nat
  /-- What it is going to do. -/
  task : Task
  /-- When it goes on at the earliest. -/
  readyUs : Nat := 0
  descriptors : List Descriptor := []
  /-- The signals that it does nothing about. -/
  ignored : List Nat := []
  /-- The signals that it takes note of. -/
  watched : List Nat := []
  /-- The signals that it took note of, the latest one first. -/
  noted : List Nat := []
  isStopped : Bool := false
  /-- The signals that have come since it was stopped. -/
  held : List Nat := []

/-- A process that has ended and was not waited for. -/
structure Remains where
  number : Nat
  parent : Nat
  ending : Tool.Ending

/-- What came out of a captured stream. -/
structure Stream where
  /-- Chunks with the times at which they came, the latest one first. -/
  chunks : List (Nat × List UInt8) := []
  size : Nat := 0
  /-- When nobody could write to it any more. -/
  closedUs : Option Nat := none

/-- All that processes share. -/
structure System where
  tree : FileTree
  clockUs : Nat := 0
  /-- The process that ran last comes first. -/
  threads : List Thread
  /-- Processes that have ended, the first one first. -/
  remains : List Remains := []
  /-- The open files by their numbers. -/
  files : List (Nat × OpenFile)
  pipes : List (Nat × Pipe) := []
  /-- The files that are or were open by their numbers. -/
  nodes : List (Nat × Node) := []
  /-- The next number for a process. -/
  nextProcess : Nat
  /-- The next number for an open file, a pipe or a file. -/
  nextObject : Nat
  stdout : Stream := {}
  stderr : Stream := {}
  /-- How much was done by now, counted in bytes that were read and written. -/
  effort : Nat := 0
  /-- How much of a captured stream is of interest. -/
  limit : Nat
  /-- The process that all this is about. -/
  main : Nat
  /-- When it ended, and how. -/
  mainEnding : Option (Nat × Tool.Ending) := none

namespace System

/-! ## Look-up -/

def thread? (system : System) (number : Nat) : Option Thread :=
  system.threads.find? (·.number == number)

/-- Put a process in front of the others, in place of what it was. -/
def putThread (system : System) (thread : Thread) : System :=
  { system with
    threads := thread :: system.threads.filter (·.number != thread.number) }

/-- Change a process where it is. -/
def changeThread (system : System) (number : Nat) (change : Thread → Thread) : System :=
  { system with
    threads := system.threads.map fun thread =>
      if thread.number = number then change thread else thread }

/-- The open file that a descriptor of a process leads to, with its number. -/
def opened? (system : System) (thread : Thread) (descriptor : Nat) : Option (Nat × OpenFile) := do
  let found ← thread.descriptors.find? (·.number == descriptor)
  let file ← system.files.lookup found.file
  return (found.file, file)

/-- Change an open file. -/
def setFile (system : System) (number : Nat) (file : OpenFile) : System :=
  { system with
    files := system.files.map fun item => if item.1 = number then (number, file) else item }

/-- What has been put together under a number. -/
def put {Item : Type} (number : Nat) (item : Item) (items : List (Nat × Item)) :
    List (Nat × Item) :=
  (number, item) :: items.filter (·.1 != number)

/-- Is there an open file of which a test holds? -/
def anyOpen (system : System) (test : OpenFile → Bool) : Bool :=
  system.files.any (test ·.2)

/-- The stream of a name. -/
def stream (system : System) : Tool.Stream → Stream
  | .stdout => system.stdout
  | .stderr => system.stderr

def setStream (system : System) (name : Tool.Stream) (stream : Stream) : System :=
  match name with
  | .stdout => { system with stdout := stream }
  | .stderr => { system with stderr := stream }

/-! ## Files -/

/-- What a file holds. -/
def contents (system : System) (node : Nat) : List UInt8 :=
  match system.nodes.lookup node with
  | some (.named location) =>
      match system.tree.entry? location with
      | some (.file contents _) => contents
      | _ => []
  | some (.nameless contents) => contents
  | none => []

/-- Change what a file holds. -/
def setContents (system : System) (node : Nat) (contents : List UInt8) : System :=
  match system.nodes.lookup node with
  | some (.named location) =>
      match system.tree.entry? location with
      | some (.file _ isExecutable) =>
          { system with tree := system.tree.put location (.file contents isExecutable) }
      | _ => system
  | some (.nameless _) => { system with nodes := put node (.nameless contents) system.nodes }
  | none => system

/-- The number of the file at a location, which may be a new one. -/
def nodeAt (system : System) (location : Location) : Nat × System :=
  match system.nodes.find? (·.2 == .named location) with
  | some (number, _) => (number, system)
  | none =>
      let number := system.nextObject
      (number,
        { system with
          nodes := put number (.named location) system.nodes, nextObject := number + 1 })

/-- Where a location is after moves. -/
def movedTo (moves : List (Location × Location)) (location : Location) : Location :=
  match moves.find? fun (origin, _) => origin.isPrefixOf location with
  | some (origin, goal) => goal ++ location.drop origin.length
  | none => location

/-- Where a file is after a change of the files, of which `before` tells what they
were. -/
def Node.after (before after : FileTree) (change : FileChange) : Node → Node
  | .nameless contents => .nameless contents
  | .named location =>
      let kept : List UInt8 :=
        match before.entry? location with
        | some (.file contents _) => contents
        | _ => []
      let goal := movedTo change.moves location
      let isOverwritten := goal = location &&
        (change.replaces.contains location || change.moves.any (·.2 == location))
      if isOverwritten then .nameless kept
      else
        match after.entry? goal with
        | some (.file _ _) => .named goal
        | some .pipe => .named goal
        | _ => .nameless kept

/-- Change the files. -/
def changeFiles (system : System) (change : FileChange) : Except Fault Unit × System :=
  match change.apply system.tree with
  | .error fault => (.error fault, system)
  | .ok tree =>
      (.ok (),
        { system with
          tree
          nodes := system.nodes.map fun (number, node) =>
            (number, Node.after system.tree tree change node) })

/-! ## Opening -/

/-- Open once more what a descriptor leads to. -/
def reopen (system : System) (thread : Thread) (descriptor : Nat) (mode : OpenMode) :
    Except Fault (Resource × System) :=
  match system.opened? thread descriptor with
  | none => .error .notFound
  | some (_, file) =>
      match file.resource with
      | .file node =>
          .ok (.file node, if mode.empties then system.setContents node [] else system)
      | .directory => if mode.writes then .error .isDirectory else .ok (.directory, system)
      | resource => .ok (resource, system)

/-- What is found at a location. -/
def resourceAt (system : System) (location : Location) : Entry → Resource × System
  | .file _ _ =>
      let (node, system) := system.nodeAt location
      (.file node, system)
  | .directory => (.directory, system)
  | .device device => (.device device, system)
  | .utility _ => (.device .null, system)
  | .pipe =>
      let (node, system) := system.nodeAt location
      let held := (system.pipes.lookup node).getD {}
      (.pipe node, { system with pipes := put node held system.pipes })

/-- Find what a path leads to, or make it. -/
def openPath (system : System) (directory : Location) (path : Path) (mode : OpenMode) :
    Except Fault (Resource × System) := do
  let tree ←
    if mode.creates then
      FileTree.updateFile system.tree directory path fun contents =>
        if mode.empties then [] else contents
    else pure system.tree
  let (location, entry) ← FileTree.find tree directory path
  if entry = .directory && mode.writes then .error .isDirectory
  else .ok ({ system with tree }.resourceAt location entry)

/-- Add an open file, to which a descriptor of a process leads. -/
def addFile (system : System) (thread : Thread) (file : OpenFile) : Nat × Thread × System :=
  let number := freeNumber thread.descriptors 0
  let object := system.nextObject
  (number,
    { thread with descriptors := ⟨number, object, false⟩ :: thread.descriptors },
    { system with files := put object file system.files, nextObject := object + 1 })

/-! ## Closing -/

/-- Forget the open files to which no descriptor leads any more, and the pipes
without ends; take note of the streams that are closed by that. -/
def release (system : System) (numbers : List Nat) : System :=
  let isGone (number : Nat) : Bool :=
    numbers.contains number &&
      system.threads.all fun thread => thread.descriptors.all (·.file != number)
  let system := { system with files := system.files.filter (!isGone ·.1) }
  let system := { system with
    pipes := system.pipes.filter fun (number, _) =>
      system.anyOpen (·.resource == .pipe number) }
  let close (system : System) (name : Tool.Stream) : System :=
    let stream := system.stream name
    if stream.closedUs.isSome || system.anyOpen (·.resource == .captured name) then system
    else system.setStream name { stream with closedUs := some system.clockUs }
  close (close system .stdout) .stderr

/-- Close descriptors of a process. -/
def closeAll (system : System) (thread : Thread) (test : Descriptor → Bool) : Thread × System :=
  let closed := thread.descriptors.filter test
  let thread := { thread with descriptors := thread.descriptors.filter (!test ·) }
  (thread, (system.putThread thread).release (closed.map (·.file)))

/-! ## Ends and signals -/

/-- A process ends. -/
def finish (system : System) (number : Nat) (ending : Tool.Ending) : System :=
  match system.thread? number with
  | none => system
  | some thread =>
      let others := system.threads.filter (·.number != number)
      let hasParent := others.any (·.number == thread.parent)
      let remains := system.remains.filter (·.parent != number)
      let note (parent : Thread) : Thread :=
        if parent.number = thread.parent && parent.watched.contains Signal.childEnded then
          { parent with
            noted := Signal.childEnded :: parent.noted.filter (· != Signal.childEnded) }
        else parent
      let adopt (child : Thread) : Thread :=
        if child.parent = number then { child with parent := 1 } else child
      let own : List Remains := if hasParent then [⟨number, thread.parent, ending⟩] else []
      let system := { system with
        threads := others.map (note ∘ adopt)
        remains := remains ++ own
        mainEnding :=
          if number = system.main then some (system.clockUs, ending) else system.mainEnding }
      system.release (thread.descriptors.map (·.file))

/-- How long it takes until a process sees a signal. -/
def wakeUs : Nat := 100

/-- A process gets a signal. -/
def strike (signal : Nat) (system : System) (number : Nat) : System :=
  let change := system.changeThread number
  match system.thread? number with
  | none => system
  | some thread =>
      if signal = 0 then system
      else if signal = Signal.kill then system.finish number (.signal (UInt8.ofNat signal))
      else if signal = Signal.stop then change fun thread => { thread with isStopped := true }
      else if thread.ignored.contains signal then system
      else if thread.isStopped && signal != Signal.goOn then
        change fun thread => { thread with held := thread.held ++ [signal] }
      else if thread.watched.contains signal then
        change fun thread =>
          { thread with
            noted := signal :: thread.noted.filter (· != signal)
            readyUs := max thread.readyUs (system.clockUs + wakeUs) }
      else
        match Signal.effect signal with
        | .nothing => system
        | .stops => change fun thread => { thread with isStopped := true }
        | .ends => system.finish number (.signal (UInt8.ofNat signal))

/-- A process gets a signal; one that was stopped may go on by it, and then gets
those that have come in the meantime. -/
def signal (signal : Nat) (system : System) (number : Nat) : System :=
  match system.thread? number with
  | none => system
  | some thread =>
      if signal = Signal.goOn then
        let system := system.changeThread number fun thread =>
          { thread with isStopped := false, held := [] }
        (thread.held ++ [signal]).foldl (fun system signal => system.strike signal number) system
      else system.strike signal number

/-- The processes that a target of signals means. -/
def targets (system : System) (sender : Thread) (target : Int) : List Nat :=
  let members (group : Nat) : List Nat :=
    (system.threads.filter (·.group == group)).map (·.number)
  match target with
  | .ofNat 0 => members sender.group
  | .ofNat number => ((system.thread? number).map (·.number)).toList
  | .negSucc 0 => (system.threads.map (·.number)).filter (· != sender.number)
  | .negSucc before => members (before + 1)

end System

end BuildExplorer.Shell
