import BuildExplorer.Shell.Process
import BuildExplorer.Shell.Task

/-!
# What a process does

Commands and utilities are written as runs.  A run changes the process, asks the
system, and goes on with the replies; it may be interrupted, for instance by the
end of the process.  What is done after a run decides which task it is.
-/

namespace BuildExplorer.Shell

open Host (FileTree Fault Location)

/-- Something that a process does. -/
def Run (Outcome : Type) : Type :=
  Process → (Except Interruption Outcome → Process → Task) → Task

namespace Run

variable {Outcome : Type}

instance : Monad Run where
  pure value := fun process next => next (.ok value) process
  bind body continuation := fun process next =>
    body process fun
      | .ok value, process => continuation value process next
      | .error interruption, process => next (.error interruption) process

instance : MonadExceptOf Interruption Run where
  throw interruption := fun process next => next (.error interruption) process
  tryCatch body handler := fun process next =>
    body process fun
      | .ok value, process => next (.ok value) process
      | .error interruption, process => handler interruption process next

/-- Do something, and tell how it came out. -/
def observe (body : Run Outcome) : Run (Except Interruption Outcome) :=
  fun process next => body process fun outcome process => next (.ok outcome) process

/-- Go on as something came out. -/
def conclude : Except Interruption Outcome → Run Outcome
  | .ok outcome => return outcome
  | .error interruption => throw interruption

@[simp]
theorem observe_apply (body : Run Outcome) (process : Process)
    (next : Except Interruption (Except Interruption Outcome) → Process → Task) :
    body.observe process next = body process fun outcome process => next (.ok outcome) process :=
  rfl

/-- To observe something and to go on as it came out changes nothing. -/
theorem observe_conclude (body : Run Outcome) : (do conclude (← observe body)) = body := by
  funext process next
  show body process _ = body process next
  congr 1
  funext outcome process
  cases outcome <;> rfl

/-! ## The process -/

def process : Run Process :=
  fun process next => next (.ok process) process

def changeProcess (change : Process → Process) : Run Unit :=
  fun process next => next (.ok ()) (change process)

/-- Set the status of the last command. -/
def setStatus (status : Nat) : Run Unit :=
  changeProcess fun process => { process with status }

/-! ## The system -/

/-- Ask the system for something. -/
def ask (call : Call) : Run call.Reply :=
  fun process next => .ask call fun reply => next (.ok reply) process

/-- The task of a process that does something and then ends. -/
def taskOf (body : Run Unit) (process : Process) : Task :=
  body process fun _ process => .exit (process.status % 256)

/-- Do nothing about a signal from now on, whatever a script says. -/
def ignore (signal : Nat) : Run Unit := do
  ask (.setDisposition signal .ignored)
  changeProcess fun process =>
    { process with
      deaf := signal :: process.deaf, traps := process.traps.filter (·.1 != signal) }

/-- Start a process that is a copy of the present one and does something; the answer
is its number. -/
def fork (body : Run Unit) : Run Nat :=
  fun process next => .fork (body.taskOf process) fun number => next (.ok number) process

/-- The files as they are. -/
def files : Run FileTree :=
  ask .files

/-- The process, and the files as they are. -/
def view : Run View := do
  return { process := ← process, tree := ← files }

/-- Be busy for some microseconds. -/
def work (durationUs : Nat) : Run Unit :=
  ask (.work durationUs)

/-- How long a process is busy that never comes to an end. -/
def foreverUs : Nat := 1000000000000000

/-- Be busy without end. -/
def spin : Run Outcome := do
  work foreverUs
  throw .exit

/-- Wait without end. -/
def waitForever : Run Outcome := do
  ask (.pause none)
  spin

/-! ## Files -/

/-- Open a file. -/
def openFile (name : List Char) (mode : OpenMode) : Run (Except Fault Nat) := do
  ask (.openFile (← process).directory (pathOf name) mode)

def close (descriptor : Nat) : Run Unit := do
  let _ ← ask (.close descriptor)

/-- Change the files. -/
def change (change : FileChange) : Run (Except Fault Unit) :=
  ask (.changeFiles change)

/-- Change the tree of files. -/
def changeTree (change : FileTree → Location → Except Fault FileTree) :
    Run (Except Fault Unit) := do
  let directory := (← process).directory
  ask (.changeFiles { apply := fun tree => change tree directory })

/-! ## Output -/

/-- How much is written to the output before it leaves the process. -/
def bufferSize : Nat := 4096

/-- Write what was written to the output and has not left the process. -/
def flush : Run Unit := do
  let before ← process
  if !before.written.isEmpty then
    changeProcess fun process => { process with written := [], writtenSize := 0 }
    match ← ask (.write 1 before.written.reverse.flatten) with
    | .ok () => return ()
    | .error fault => changeProcess fun process => { process with lost := some fault }

/-- Write to a descriptor.  What is written to the output leaves the process in
larger pieces. -/
def emit (descriptor : Nat) (bytes : List UInt8) : Run Unit := do
  if bytes.isEmpty then return ()
  else if descriptor = 1 then
    changeProcess fun process =>
      { process with
        written := bytes :: process.written
        writtenSize := process.writtenSize + bytes.length }
    if bufferSize ≤ (← process).writtenSize then flush
  else
    let _ ← ask (.write descriptor bytes)

/-- Write text to the output. -/
def say (text : List Char) : Run Unit :=
  emit 1 (bytesOf text)

/-- Write a line to the errors. -/
def complain (text : String) : Run Unit :=
  emit 2 (bytesOf (text.toList ++ ['\n']))

/-- Complain as a shell, with the place in the script. -/
def blame (text : String) : Run Unit := do
  complain (complaintStart (← process) ++ text)

/-- Fail with a message. -/
def fail (status : Nat) (text : String) : Run Unit := do
  complain text
  setStatus status

/-- Fail with a message of the shell. -/
def failAt (status : Nat) (text : String) : Run Unit := do
  blame text
  setStatus status

/-- End the process with a message of the shell. -/
def abort (status : Nat) (text : String) : Run Outcome := do
  failAt status text
  throw .exit

/-! ## Variables -/

/-- Let the options be read from the argument on that a text gives. -/
def setOptionPlace (text : List Char) : Run Unit := do
  match numberOf? text with
  | none => abort 2 ("Illegal number: " ++ String.ofList text)
  | some number => changeProcess fun process => { process with optionPlace := ⟨max 1 number, none⟩ }

/-- How long values get.  A process with a longer one counts as one that comes to no
end. -/
def longestValue : Nat := 4000000

/-- Give a variable a value, unless it keeps the one that it has. -/
def setVariable (name value : List Char) : Run Unit := do
  if longestValue < value.length then spin
  if (← process).fixed.contains name then abort 2 (String.ofList name ++ ": is read only")
  if name = placeVariable then setOptionPlace value
  changeProcess fun process => { process with bindings := bind name value process.bindings }

/-- Take the value of a variable away. -/
def unsetVariable (name : List Char) : Run Unit := do
  if (← process).fixed.contains name then abort 2 (String.ofList name ++ ": is read only")
  if name = placeVariable then setOptionPlace []
  changeProcess fun process =>
    { process with bindings := process.bindings.filter (·.1 != name) }

/-- Pass a variable on to other programs. -/
def passOn (name : List Char) : Run Unit :=
  changeProcess fun process => { process with exported := name :: process.exported }

end Run

end BuildExplorer.Shell
