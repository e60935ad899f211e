import BuildExplorer.Shell.OpenFile
import BuildExplorer.Shell.Run
import BuildExplorer.Shell.Signal

/-!
# Processes of their own

A process that is started gets a copy of its parent, and runs beside it from
then on.  Those that are started for one command are a job; the parent waits for
all of its processes, or leaves them in the background.
-/

namespace BuildExplorer.Shell

/-! ## Jobs -/

/-- Change the job at a place. -/
def changeJob (slot : Nat) (change : Job → Job) : Run Unit :=
  Run.changeProcess fun process =>
    { process with
      jobs := process.jobs.map fun job => if job.slot = slot then change job else job }

/-- The job at a place. -/
def jobAt (slot : Nat) : Run (Option Job) := do
  return (← Run.process).jobs.find? (·.slot == slot)

/-- Take the first place that is free, or whose job is over and was waited for, for
a new job. -/
def newJob : Run Nat := do
  let jobs := (← Run.process).jobs
  let taken := (jobs.filter fun job => !(job.isOver && job.isAwaited)).map (·.slot)
  let all := (jobs.map (·.slot)).foldl max 0
  let slot := ((List.range all).map (· + 1)).find? (!taken.contains ·) |>.getD (all + 1)
  Run.changeProcess fun process =>
    { process with jobs := { slot } :: process.jobs.filter (·.slot != slot) }
  return slot

/-- Forget a job. -/
def forgetJob (slot : Nat) : Run Unit :=
  Run.changeProcess fun process =>
    { process with jobs := process.jobs.filter (·.slot != slot) }

/-! ## Starts -/

/-- Be a process of one's own, which has no jobs and does of itself what scripts
did about signals. -/
def becomeChild : Run Unit := do
  let (number, parent) ← Run.ask .identity
  let process ← Run.process
  for (signal, script) in process.traps do
    if !script.isEmpty && signal != 0 then Run.ask (.setDisposition signal .usual)
  Run.changeProcess fun process =>
    { process with
      number, parent
      jobs := [], linesRead := 1
      traps := process.traps.filter (·.2.isEmpty) }

/-- Start a process as the next part of a job. -/
def startPart (slot : Nat) (body : Run Unit) : Run Unit := do
  let number ← Run.fork do
    becomeChild
    body
  changeJob slot fun job => { job with parts := job.parts ++ [{ number }] }

/-- The device that reads as empty. -/
def nothing : List Char :=
  "/dev/null".toList

/-- Read from nothing. -/
def readNothing : Run Unit := do
  Run.close 0
  let _ ← Run.openFile nothing .toRead

/-- Be in the background: without input, and deaf to signals from the keyboard. -/
def goAside (isFirst : Bool) : Run Unit := do
  for signal in [2, 3] do Run.ignore signal
  if isFirst then readNothing

/-! ## Ends -/

/-- Tell about a process that a signal ended. -/
def bury (ending : Tool.Ending) : Run Unit := do
  match ending with
  | .exit _ => return ()
  | .signal number => if let some text := Signal.obituary? number.toNat then Run.complain text

/-- Take down the end of a process; if it belongs to the job at a place, tell about
it. -/
def takeDown (awaited : Option Nat) (number : Nat) (ending : Tool.Ending) : Run Unit := do
  let isOne (job : Job) : Bool := !job.isOver && job.parts.any (·.number == number)
  if let some job := (← Run.process).jobs.find? isOne then
    changeJob job.slot (·.noteEnd number ending)
    if awaited = some job.slot then bury ending

/-- How many ends of processes are waited for at most. -/
def patience : Nat := 1000000

/-- Wait until a job is over. -/
def settle (slot : Nat) : Nat → Run Unit
  | 0 => return ()
  | fuel + 1 => do
      if let some job ← jobAt slot then
        if !job.isOver then
          match ← Run.ask (.await false none) with
          | .ended number ending =>
              takeDown (some slot) number ending
              settle slot fuel
          | _ => return ()

/-- Wait until a job is over, whose status becomes that of the command. -/
def collect (slot : Nat) : Run Unit := do
  settle slot patience
  if let some job ← jobAt slot then Run.setStatus job.status
  forgetJob slot

/-- Run something in a process of its own and wait for its end. -/
def inForeground (body : Run Unit) : Run Unit := do
  let slot ← newJob
  startPart slot body
  collect slot

/-! ## Pipelines -/

/-- Lead a descriptor to where another one leads, which is closed by that. -/
def moveDescriptor (descriptor target : Nat) : Run Unit := do
  if descriptor != target then
    let _ ← Run.ask (.duplicate descriptor target)
    Run.close descriptor

/-- Start the parts of a pipeline; each but the first one reads what the one in
front of it writes. -/
def startParts (slot : Nat) (isAside : Bool) : Option Nat → List (Run Unit) → Run Unit
  | _, [] => return ()
  | input, body :: rest => do
      let pipe ← if rest.isEmpty then pure none else some <$> Run.ask .makePipe
      startPart slot do
        if isAside then goAside input.isNone
        if let some (reader, _) := pipe then Run.close reader
        if let some input := input then moveDescriptor input 0
        if let some (_, writer) := pipe then moveDescriptor writer 1
        body
      if let some input := input then Run.close input
      if let some (_, writer) := pipe then Run.close writer
      startParts slot isAside (pipe.map (·.1)) rest

/-- Run a pipeline and wait for all of its parts; the status is that of the last
one. -/
def inPipeline (parts : List (Run Unit)) : Run Unit := do
  let slot ← newJob
  startParts slot false none parts
  collect slot

/-- Run the parts of a pipeline, or a single one, in the background. -/
def inBackground (parts : List (Run Unit)) : Run Unit := do
  let slot ← newJob
  startParts slot true none parts
  if let some job ← jobAt slot then
    Run.changeProcess fun process =>
      { process with status := 0, lastBackground := some job.number }

/-! ## Captures -/

/-- Read from a descriptor to its end; the latest chunk comes first. -/
def readChunks (descriptor : Nat) : Nat → List (List UInt8) → Run (List (List UInt8))
  | 0, chunks => return chunks
  | fuel + 1, chunks => do
      match ← Run.ask (.read descriptor Pipe.capacity) with
      | .bytes bytes => readChunks descriptor fuel (bytes :: chunks)
      | .disturbed => readChunks descriptor fuel chunks
      | _ => return chunks

/-- Run something and take what it writes; its status is kept apart. -/
def captured (body : Run Unit) : Run (List UInt8) := do
  let slot ← newJob
  let (reader, writer) ← Run.ask .makePipe
  startPart slot do
    Run.close reader
    moveDescriptor writer 1
    body
  Run.close writer
  let chunks ← readChunks reader patience []
  Run.close reader
  settle slot patience
  if let some job ← jobAt slot then
    Run.changeProcess fun process => { process with innerStatus := job.status }
  forgetJob slot
  return chunks.reverse.flatten

end BuildExplorer.Shell
