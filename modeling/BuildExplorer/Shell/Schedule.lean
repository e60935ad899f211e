import BuildExplorer.Shell.System

/-!
# Carrying out tasks

The system takes one step at a time: it carries out a call of a process that can
go on.  If there is none, the clock moves on to when there is one.
-/

namespace BuildExplorer.Shell

open Host (FileTree Fault Location)

/-! ## Costs -/

/-- How many microseconds a process is busy with files and pipes. -/
def transferUs : Nat := 3

/-- How many bytes are transferred in a microsecond. -/
def bytesPerUs : Nat := 64

/-- How many bytes a step counts as. -/
def stepEffort : Nat := 12

/-- How many bytes of a file that is written to count as one that is transferred. -/
def fileBytesPerEffort : Nat := 8

/-- After how much effort a system counts as one that comes to no end.  It need not be
fast then. -/
def longEffort : Nat := 4000000

/-- How much longer everything takes after that. -/
def slowness : Nat := 256

/-- How long a process is busy when it starts another one. -/
def forkUs : Nat := 120

/-- How long it takes until the other one gets going. -/
def birthUs : Nat := 260

/-- What has come of an attempt. -/
inductive Progress where
  | moves (system : System)
  /-- Nothing, and nothing will before a time. -/
  | waits (untilUs : Option Nat)

namespace System

/-! ## Single calls -/

/-- A process goes on with a task after some time. -/
def goOnAfter (system : System) (costUs : Nat) (thread : Thread) (task : Task) : Progress :=
  let costUs := if system.effort < longEffort then costUs else slowness * costUs
  .moves ({ system with effort := system.effort + stepEffort }.putThread
    { thread with task, readyUs := system.clockUs + costUs })

/-- A process goes on with a task at once. -/
def goOn (system : System) (thread : Thread) (task : Task) : Progress :=
  system.goOnAfter 0 thread task

/-- A process goes on with a task after it was busy with files or pipes. -/
def goOnLater (system : System) (thread : Thread) (task : Task) : Progress :=
  system.goOnAfter transferUs thread task

/-- A process goes on with a task after it has read or written bytes. -/
def goOnBehind (system : System) (count : Nat) (thread : Thread) (task : Task) : Progress :=
  { system with effort := system.effort + count }.goOnAfter
    (transferUs + count / bytesPerUs) thread task

/-- Take bytes from an open file: a number of them, or those up to the end of a
line. -/
def takeBytes (system : System) (number : Nat) (file : OpenFile) (count : Option Nat) :
    List UInt8 × System :=
  let front (bytes : List UInt8) : List UInt8 :=
    match count with
    | some count => bytes.take count
    | none => lineFront bytes
  match file.resource with
  | .file node =>
      let bytes := front ((system.contents node).drop file.offset)
      (bytes, system.setFile number { file with offset := file.offset + bytes.length })
  | .pipe pipe =>
      let held := (system.pipes.lookup pipe).getD {}
      let (bytes, left) :=
        match count with
        | some count => held.take count
        | none => held.takeLine
      (bytes, { system with pipes := put pipe left system.pipes })
  | .device .null => ([], system)
  | .device _ => (List.replicate (count.getD Pipe.capacity) 0, system)
  | _ => ([], system)

/-- Read from a descriptor. -/
def read (system : System) (thread : Thread) (descriptor : Nat) (count : Option Nat)
    (next : Reading → Task) : Progress :=
  let reply (system : System) (reading : Reading) : Progress :=
    system.goOnLater thread (next reading)
  match system.opened? thread descriptor with
  | none => reply system (.refused .badDescriptor)
  | some (number, file) =>
      if !file.reads then reply system (.refused .badDescriptor)
      else if file.resource = .directory then reply system (.refused .isDirectory)
      else
        let (bytes, system) := system.takeBytes number file count
        if !bytes.isEmpty then system.goOnBehind bytes.length thread (next (.bytes bytes))
        else
          match file.resource with
          | .pipe pipe =>
              if !system.anyOpen fun other => other.resource == .pipe pipe && other.writes then
                reply system .finished
              else if !thread.noted.isEmpty then reply system .disturbed
              else .waits none
          | _ => reply system .finished

/-- How long files get. -/
def maxFileSize : Nat := 4000000

/-- Write to a file. -/
def writeToFile (system : System) (thread : Thread) (number : Nat) (file : OpenFile) (node : Nat)
    (bytes : List UInt8) (next : Except Fault Unit → Task) : Progress :=
  let contents := system.contents node
  let offset := if file.appends then contents.length else file.offset
  if maxFileSize < offset + bytes.length then .waits none
  else
    let system := system.setContents node (overwrite contents offset bytes)
    let system := system.setFile number { file with offset := offset + bytes.length }
    system.goOnBehind (bytes.length + contents.length / fileBytesPerEffort) thread
      (next (.ok ()))

/-- Write to a pipe.  It waits until there is room for all, or at least for a piece
that is not parted. -/
def writeToPipe (system : System) (thread : Thread) (descriptor pipe : Nat) (bytes : List UInt8)
    (next : Except Fault Unit → Task) : Progress :=
  if !system.anyOpen fun other => other.resource == .pipe pipe && other.reads then
    let task := next (.error .brokenPipe)
    let system := system.putThread { thread with task, readyUs := system.clockUs + transferUs }
    .moves (system.signal Signal.brokenPipe thread.number)
  else
    let held := (system.pipes.lookup pipe).getD {}
    let room := Pipe.capacity - held.size
    if room < Pipe.wholePiece && room < bytes.length then .waits none
    else
      let (part, rest) := bytes.splitAt room
      let system := { system with pipes := put pipe (held.push part) system.pipes }
      system.goOnBehind part.length thread
        (if rest.isEmpty then next (.ok ()) else .ask (.write descriptor rest) next)

/-- Write to a captured stream, of which no more is kept than is of interest. -/
def writeToStream (system : System) (name : Tool.Stream) (bytes : List UInt8) : System :=
  let stream := system.stream name
  if system.limit < stream.size then system
  else
    system.setStream name { stream with
      chunks := (system.clockUs, bytes) :: stream.chunks, size := stream.size + bytes.length }

/-- Write to a descriptor. -/
def write (system : System) (thread : Thread) (descriptor : Nat) (bytes : List UInt8)
    (next : Except Fault Unit → Task) : Progress :=
  match system.opened? thread descriptor with
  | none => system.goOnLater thread (next (.error .badDescriptor))
  | some (number, file) =>
      if !file.writes then system.goOnLater thread (next (.error .badDescriptor))
      else if bytes.isEmpty then system.goOnLater thread (next (.ok ()))
      else
        match file.resource with
        | .file node => system.writeToFile thread number file node bytes next
        | .pipe pipe => system.writeToPipe thread descriptor pipe bytes next
        | .captured name =>
            (system.writeToStream name bytes).goOnBehind bytes.length thread (next (.ok ()))
        | .device .full => system.goOnLater thread (next (.error .noSpace))
        | _ => system.goOnBehind bytes.length thread (next (.ok ()))

/-- Is an open file the other end of a pipe for one that is opened in a mode? -/
def isOtherEnd (resource : Resource) (mode : OpenMode) (file : OpenFile) : Bool :=
  file.resource == resource && ((mode.reads && file.writes) || (mode.writes && file.reads))

/-- Let a process go on that waits for the other end of a pipe, which is opened
now. -/
def meet (system : System) (resource : Resource) (mode : OpenMode) (thread : Thread) : Thread :=
  match thread.task with
  | .ask (.meet descriptor) next =>
      if (system.opened? thread descriptor).any fun found => isOtherEnd resource mode found.2 then
        { thread with task := next () }
      else thread
  | _ => thread

/-- A process goes on that has opened something.  At a pipe with a name it waits until
somebody opens the other end, unless that is open. -/
def settle (system : System) (thread : Thread) (resource : Resource) (mode : OpenMode)
    (descriptor : Nat) (task : Task) : Progress :=
  match resource with
  | .pipe _ =>
      let system := { system with threads := system.threads.map (system.meet resource mode) }
      let goesOn := (mode.reads && mode.writes) || system.anyOpen (isOtherEnd resource mode)
      system.goOnLater thread (if goesOn then task else .ask (.meet descriptor) fun _ => task)
  | _ => system.goOnLater thread task

/-- Open a file. -/
def openFile (system : System) (thread : Thread) (directory : Location) (path : Path)
    (mode : OpenMode) (next : Except Fault Nat → Task) : Progress :=
  let found :=
    match descriptorOf? path with
    | some descriptor => system.reopen thread descriptor mode
    | none => system.openPath directory path mode
  match found with
  | .error fault => system.goOnLater thread (next (.error fault))
  | .ok (resource, system) =>
      let (number, thread, system) := system.addFile thread {
        resource, reads := mode.reads, writes := mode.writes, appends := mode.appends }
      let task := next (.ok number)
      if (descriptorOf? path).isSome then system.goOnLater thread task
      else system.settle thread resource mode number task

/-- Lead a descriptor to where another one leads. -/
def duplicate (system : System) (thread : Thread) (descriptor target : Nat) :
    Bool × Thread × System :=
  match thread.descriptors.find? (·.number == descriptor) with
  | none => (false, thread, system)
  | some found =>
      if descriptor = target then (true, thread, system)
      else
        let (thread, system) := system.closeAll thread (·.number == target)
        let copy : Descriptor := ⟨target, found.file, false⟩
        (true, { thread with descriptors := copy :: thread.descriptors }, system)

/-- The first descriptor that other programs do not get. -/
def firstPrivate : Nat := 10

/-- Where a descriptor leads. -/
def describe (system : System) (thread : Thread) (descriptor : Nat) : Option Leading :=
  (system.opened? thread descriptor).map fun (_, file) =>
    match file.resource with
    | .file node => .toFile node file.offset file.appends (system.contents node).length
    | .directory => .toDirectory
    | .device device => .toDevice device
    | .pipe _ => .toPipe
    | .captured _ => .toPipe

/-- Wait for a process of one's own. -/
def await (system : System) (thread : Thread) (isDisturbable : Bool) (untilUs : Option Nat)
    (next : Waiting → Task) : Progress :=
  match system.remains.find? (·.parent == thread.number) with
  | some found =>
      let system := { system with
        remains := system.remains.filter (·.number != found.number) }
      system.goOnLater thread (next (.ended found.number found.ending))
  | none =>
      if isDisturbable && !thread.noted.isEmpty then system.goOn thread (next .disturbed)
      else if system.threads.all (·.parent != thread.number) then
        system.goOn thread (next .childless)
      else if untilUs.any (· ≤ system.clockUs) then system.goOn thread (next .expired)
      else .waits untilUs

/-- Send a signal. -/
def send (system : System) (thread : Thread) (number : Nat) (target : Int)
    (next : Bool → Task) : Progress :=
  let found := system.targets thread target
  let isThere := !found.isEmpty || system.remains.any fun remains => target == remains.number
  let system := system.putThread { thread with
    task := next isThere, readyUs := system.clockUs + transferUs }
  .moves (found.foldl (System.signal number) system)

/-- What a process does about a signal from now on. -/
def setDisposition (thread : Thread) (signal : Nat) (disposition : Disposition) : Thread :=
  let without (signals : List Nat) : List Nat := signals.filter (· != signal)
  let ignored := without thread.ignored
  let watched := without thread.watched
  match disposition with
  | .usual => { thread with ignored, watched, noted := without thread.noted }
  | .ignored => { thread with ignored := signal :: ignored, watched, noted := without thread.noted }
  | .noted => { thread with ignored, watched := signal :: watched }

/-! ## Steps -/

/-- How many processes there are at most. -/
def maxThreads : Nat := 400

/-- Start a process, unless there are too many already. -/
def fork (system : System) (thread : Thread) (child : Task) (next : Nat → Task) : Progress :=
  if maxThreads ≤ system.threads.length then .waits none
  else
    let number := system.nextProcess
    let born : Thread := { thread with
      number, parent := thread.number, task := child, readyUs := system.clockUs + birthUs
      noted := [], held := [] }
    let system := { system with
      threads := system.threads ++ [born], nextProcess := number + 1 }
    system.goOnAfter forkUs thread (next number)

/-- Carry out what a process does next, if that can be done now. -/
def advance (system : System) (thread : Thread) : Progress :=
  match thread.task with
  | .exit status => .moves (system.finish thread.number (.exit (UInt8.ofNat status)))
  | .fork child next => system.fork thread child next
  | .ask (.work durationUs) next => system.goOnAfter durationUs thread (next ())
  | .ask (.pause untilUs) next =>
      if !thread.noted.isEmpty || untilUs.any (· ≤ system.clockUs) then
        system.goOn thread (next ())
      else .waits untilUs
  | .ask .clock next => system.goOn thread (next system.clockUs)
  | .ask .files next => system.goOn thread (next system.tree)
  | .ask (.changeFiles change) next =>
      let (outcome, system) := system.changeFiles change
      system.goOnLater thread (next outcome)
  | .ask (.openFile directory path mode) next => system.openFile thread directory path mode next
  | .ask (.meet _) _ => .waits none
  | .ask (.close descriptor) next =>
      let isOpen := thread.descriptors.any (·.number == descriptor)
      let (thread, system) := system.closeAll thread (·.number == descriptor)
      system.goOn thread (next isOpen)
  | .ask (.duplicate descriptor target) next =>
      let (isDone, thread, system) := system.duplicate thread descriptor target
      system.goOn thread (next isDone)
  | .ask (.keep descriptor) next =>
      match thread.descriptors.find? (·.number == descriptor) with
      | none => system.goOn thread (next none)
      | some found =>
          let number := freeNumber thread.descriptors firstPrivate
          let copy : Descriptor := ⟨number, found.file, true⟩
          system.goOn { thread with descriptors := copy :: thread.descriptors } (next (some number))
  | .ask .makePipe next =>
      let pipe := system.nextObject
      let system := { system with
        pipes := put pipe {} system.pipes, nextObject := pipe + 1 }
      let (reader, thread, system) :=
        system.addFile thread { resource := .pipe pipe, reads := true }
      let (writer, thread, system) :=
        system.addFile thread { resource := .pipe pipe, writes := true }
      system.goOnLater thread (next (reader, writer))
  | .ask (.describe descriptor) next =>
      system.goOn thread (next (system.describe thread descriptor))
  | .ask (.read descriptor count) next => system.read thread descriptor (some count) next
  | .ask (.readLine descriptor) next => system.read thread descriptor none next
  | .ask (.write descriptor bytes) next => system.write thread descriptor bytes next
  | .ask (.seek descriptor offset) next =>
      match system.opened? thread descriptor with
      | none => system.goOn thread (next ())
      | some (number, file) => (system.setFile number { file with offset }).goOn thread (next ())
  | .ask .identity next => system.goOn thread (next (thread.number, thread.parent))
  | .ask .becomeProgram next =>
      let (thread, system) := system.closeAll thread (·.isPrivate)
      system.goOn { thread with watched := [], noted := [] } (next ())
  | .ask (.await isDisturbable untilUs) next => system.await thread isDisturbable untilUs next
  | .ask (.send signal target) next => system.send thread signal target next
  | .ask (.setDisposition signal disposition) next =>
      system.goOn (setDisposition thread signal disposition) (next ())
  | .ask .noted next => system.goOn thread (next thread.noted)
  | .ask .takeNoted next => system.goOn { thread with noted := [] } (next ())
  | .ask .leadGroup next =>
      system.goOn { thread with group := thread.number } (next (thread.group != thread.number))

/-- The earlier of two times, of which there may be none. -/
def earlier : Option Nat → Option Nat → Option Nat
  | none, time => time
  | time, none => time
  | some first, some second => some (min first second)

/-- Let the first of several processes do something that can. -/
def attempt (system : System) : Option Nat → List Thread → Progress
  | earliest, [] => .waits earliest
  | earliest, thread :: rest =>
      if thread.isStopped then attempt system earliest rest
      else if system.clockUs < thread.readyUs then
        attempt system (earlier earliest (some thread.readyUs)) rest
      else
        match system.advance thread with
        | .moves system => .moves system
        | .waits untilUs => attempt system (earlier earliest untilUs) rest

/-! ## Runs -/

/-- Is all over that counts: has the process ended, and are the streams closed? -/
def isOver (system : System) : Bool :=
  system.mainEnding.isSome && system.stdout.closedUs.isSome && system.stderr.closedUs.isSome

/-- Let processes run until all is over, or up to a time. -/
def runUntil (untilUs : Nat) : Nat → System → System
  | 0, system => system
  | fuel + 1, system =>
      if system.isOver then system
      else
        match system.attempt none system.threads with
        | .moves system => runUntil untilUs fuel system
        | .waits none => system
        | .waits (some timeUs) =>
            if untilUs ≤ timeUs then system
            else runUntil untilUs fuel { system with clockUs := timeUs }

/-- End all processes of the group of the process that all this is about. -/
def endGroup (system : System) : System :=
  let members := system.threads.filter (·.group == system.main)
  (members.map (·.number)).foldl (System.signal Signal.kill) system

/-- Let processes run until all is over.  If it is not by a deadline, their group is
ended, and those that are left get a moment more. -/
def run (fuel deadlineUs graceUs : Nat) (system : System) : System :=
  let system := system.runUntil deadlineUs fuel
  if system.isOver then system
  else
    ({ system with clockUs := deadlineUs }.endGroup).runUntil (deadlineUs + graceUs) fuel

end System

end BuildExplorer.Shell
