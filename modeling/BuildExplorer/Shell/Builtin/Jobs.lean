import BuildExplorer.Shell.Builtin.Variables
import BuildExplorer.Shell.Child

/-!
# Commands of the shell for processes and signals
-/

namespace BuildExplorer.Shell.Builtin

/-! ## Ends -/

/-- The status for a code that a command is given. -/
def statusOf : List (List Char) → Run Unit
  | [] => return ()
  | code :: _ =>
      match numberOf? code with
      | some number => Run.setStatus number
      | none => Run.abort 2 ("Illegal number: " ++ String.ofList code)

/-- End the process. -/
def exitWith (arguments : List (List Char)) : Run Unit := do
  statusOf arguments
  throw .exit

/-- Leave a function. -/
def returnWith (arguments : List (List Char)) : Run Unit := do
  statusOf arguments
  throw .returns

/-- The number of loops that a command is about; no more than there are. -/
def loopsOf (arguments : List (List Char)) : Run Nat := do
  let count ← numberOr 1 arguments
  if count = 0 then Run.abort 2 "Illegal number: 0"
  return min count (← Run.process).loops

/-- Leave loops; outside of loops that does nothing. -/
def leaveLoops (arguments : List (List Char)) : Run Unit := do
  let count ← loopsOf arguments
  Run.setStatus 0
  if count ≠ 0 then throw (.leaves count)

/-- Start the next turn of a loop. -/
def repeatLoops (arguments : List (List Char)) : Run Unit := do
  let count ← loopsOf arguments
  Run.setStatus 0
  if count ≠ 0 then throw (.repeats count)

/-! ## Signals -/

/-- Set what is done about a signal: as usual without a script. -/
def setTrap (signal : Nat) (script : Option (List Char)) : Run Unit := do
  let isDeaf := (← Run.process).deaf.contains signal || Signal.inevitable.contains signal
  if !isDeaf && signal != 0 then
    Run.ask <| .setDisposition signal <|
      match script with
      | none => .usual
      | some [] => .ignored
      | some _ => .noted
  Run.changeProcess fun process =>
    { process with
      traps := script.toList.map (signal, ·) ++ process.traps.filter (·.1 != signal) }

/-- Set what is done about signals. -/
def trap (arguments : List (List Char)) : Run Unit :=
  withOptions "" true arguments fun _ arguments => do
    match arguments with
    | [] => Run.setStatus 0
    | first :: rest =>
        let isOnlySignals := rest.isEmpty || (Text.readNumeral 65 first).isSome
        let isReset := isOnlySignals || first = ['-']
        let signals := if isOnlySignals then arguments else rest
        let mut status := 0
        for name in signals do
          match Signal.ofText? name with
          | some signal => setTrap signal (if isReset then none else some first)
          | none =>
              Run.complain ("trap: " ++ String.ofList name ++ ": bad trap")
              status := 1
        Run.setStatus status

/-- The processes that a text names: one, or with a sign in front a group. -/
def targetOf? (text : List Char) : Option Int :=
  match text with
  | '-' :: digits => (numberOf? digits).map fun number => -(number : Int)
  | digits => (numberOf? digits).map fun number => (number : Int)

/-- Send a signal to processes. -/
def sendAll (signal : Nat) (targets : List (List Char)) : Run Unit := do
  let mut status := 0
  for target in targets do
    match targetOf? target with
    | some number =>
        if !(← Run.ask (.send signal number)) then
          Run.blame "No such process\n"
          status := 1
    | none =>
        Run.blame ("Illegal number: " ++ String.ofList target)
        return (← Run.setStatus 2)
  Run.setStatus status

/-- Send a signal to processes, the usual one unless another one is named. -/
def kill (arguments : List (List Char)) : Run Unit := do
  let sendOr (signal : Option Nat) (refusal : String) (targets : List (List Char)) : Run Unit := do
    match signal with
    | none => Run.failAt 2 refusal
    | some signal =>
        if targets.isEmpty then
          Run.failAt 2 "Usage: kill [-s sigspec | -signum | -sigspec] [pid]..."
        else sendAll signal targets
  match arguments with
  | ['-', 's'] :: name :: targets =>
      sendOr (Signal.ofText? name) ("invalid signal number or name: " ++ String.ofList name) targets
  | ['-', '-'] :: targets => sendOr (some 15) "" targets
  | ('-' :: letter :: letters) :: targets =>
      let refusal := "Illegal option -" ++ String.ofList [letter]
      sendOr (Signal.ofText? (letter :: letters)) refusal targets
  | targets => sendOr (some 15) "" targets

/-! ## Waiting -/

/-- Wait until something holds of the jobs; the answer tells whether it was not a
signal that came first. -/
def waitUntil (awaited : Option Nat) (isDone : List Job → Bool) : Nat → Run Bool
  | 0 => return true
  | fuel + 1 => do
      if isDone (← Run.process).jobs then return true
      match ← Run.ask (.await true none) with
      | .ended number ending =>
          takeDown awaited number ending
          waitUntil awaited isDone fuel
      | .disturbed => return false
      | _ => return true

/-- Fail as a signal came. -/
def failBySignal : Run Unit := do
  Run.setStatus (128 + ((← Run.ask .noted).headD 0))

/-- Wait for the end of a job, whose status becomes that of the command; the answer
tells whether it was not a signal that came first. -/
def waitForJob (job : Job) : Run Bool := do
  let isDone (jobs : List Job) : Bool :=
    jobs.any fun other => other.slot == job.slot && other.isOver
  if ← waitUntil (some job.slot) isDone patience then
    changeJob job.slot fun job => { job with isAwaited := true }
    if let some job ← jobAt job.slot then Run.setStatus job.status
    return true
  else
    failBySignal
    return false

/-- Wait for all jobs. -/
def waitForAll : Run Unit := do
  if ← waitUntil none (·.all Job.isOver) patience then
    Run.changeProcess fun process =>
      { process with jobs := process.jobs.map fun job => { job with isAwaited := true } }
    Run.setStatus 0
  else failBySignal

/-- Wait for processes in the background. -/
def wait (arguments : List (List Char)) : Run Unit :=
  withOptions "" false arguments fun _ targets => do
    if targets.isEmpty then waitForAll
    for target in targets do
      let jobs := (← Run.process).jobs
      match numberOf? target with
      | some number =>
          match jobs.find? (·.number == number) with
          | some job => if !(← waitForJob job) then return ()
          | none => Run.setStatus 127
      | none => return (← Run.failAt 2 ("Illegal number: " ++ String.ofList target))

end BuildExplorer.Shell.Builtin
