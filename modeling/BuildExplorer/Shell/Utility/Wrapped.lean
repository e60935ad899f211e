import BuildExplorer.Shell.Runnable
import BuildExplorer.Shell.Signal
import BuildExplorer.Shell.Utility.Basic

/-!
# Utilities that run other programs

Some utilities only prepare the process for another program.  Others let it run beside
them: when its time is over, a signal ends the program, and with it all of its group.
-/

namespace BuildExplorer.Shell.Utility

/-- A program that a utility is to run. -/
structure Wrapped where
  name : List Char
  arguments : List (List Char)

/-! ## Changes of the process -/

/-- Change what is passed on to other programs by assignments in front of one of them,
which is the answer; without one, show what is passed on. -/
def env (arguments : List (List Char)) : Run (Option Wrapped) := do
  let isBare := arguments.head? = some ['-', 'i']
  let arguments := if isBare then arguments.drop 1 else arguments
  let added := arguments.takeWhile (·.contains '=')
  let process ← Run.process
  let inherited := if isBare then [] else passedOn process
  let bindings := added.foldl (fun bindings assignment =>
    let name := assignment.takeWhile (· != '=')
    bind name (assignment.drop (name.length + 1)) bindings) inherited
  Run.changeProcess fun process => { process with bindings, exported := bindings.map (·.1) }
  match arguments.drop added.length with
  | name :: arguments => return some ⟨name, arguments⟩
  | [] =>
      Run.say (Text.unlines (bindings.map fun (name, value) => name ++ '=' :: value))
      return none

/-- Prepare the process for the program that a utility is to run in its place; otherwise
the status is set. -/
def wrappedOf? (utility : String) (arguments : List (List Char)) : Run (Option Wrapped) := do
  if utility = "env" then env arguments
  else
    match arguments with
    | [] =>
        misuse 125 "missing operand"
        return none
    | name :: arguments =>
        if utility = "nohup" then Run.ignore 1
        else
          let _ ← Run.ask .leadGroup
        return some ⟨name, arguments⟩

/-! ## Limits of time -/

/-- The milliseconds of a time such as `0.3` or `2m`. -/
def milliseconds? (text : List Char) : Option Nat :=
  let whole := text.takeWhile Char.isDigit
  let (fraction, unit) :=
    match text.drop whole.length with
    | '.' :: rest => (rest.takeWhile Char.isDigit, rest.dropWhile Char.isDigit)
    | rest => ([], rest)
  if whole.isEmpty && fraction.isEmpty then none
  else
    let thousandths := (fraction ++ ['0', '0', '0']).take 3
    let value := 1000 * Text.numeralValue whole + Text.numeralValue thousandths
    match unit with
    | [] => some value
    | ['s'] => some value
    | ['m'] => some (60 * value)
    | ['h'] => some (3600 * value)
    | ['d'] => some (86400 * value)
    | _ => none

/-- A program that runs under a limit: how long it may run, and the signal that it gets
then. -/
structure Limited extends Wrapped where
  durationUs : Nat
  signal : Nat

/-- The program that `timeout` is to run; otherwise the status is set. -/
def limitedOf? (arguments : List (List Char)) : Run (Option Limited) := do
  match Given.ofArguments { valued := "s", endsAtOperand := true } (arguments.length + 1)
      arguments with
  | .error text => refuse text
  | .ok given =>
      let signal := (given.value? 's').getD "TERM".toList
      match given.operands, Signal.ofText? signal with
      | time :: name :: arguments, some signal =>
          match milliseconds? time with
          | none => refuse ("invalid time interval " ++ quote time)
          | some duration =>
              return some { name, arguments, durationUs := 1000 * duration, signal }
      | _, none => refuse (quote signal ++ ": invalid signal")
      | _, _ => refuse "missing operand"
where
  refuse (text : String) : Run (Option Limited) := do
    misuse 125 text
    return none

/-- Lead a group of its own, and be ready to end it. -/
def prepareLimit (limited : Limited) : Run Unit := do
  let _ ← Run.ask .leadGroup
  for signal in [1, 2, 3, 15, limited.signal] do
    if !Signal.inevitable.contains signal then Run.ask (.setDisposition signal .noted)

/-- Send a signal to a process and to its group, but not to oneself. -/
def sendToGroup (number signal : Nat) : Run Unit := do
  let isFinal := signal = Signal.kill
  if !isFinal then Run.ask (.setDisposition signal .ignored)
  let signals := if isFinal || signal = Signal.goOn then [signal] else [signal, Signal.goOn]
  for signal in signals do
    let _ ← Run.ask (.send signal number)
    let _ ← Run.ask (.send signal 0)

/-- Wait for the end of a process, which gets a signal when its time is over; the answer
tells whether that happened. -/
def watch (limited : Limited) (number : Nat) :
    Nat → Bool → Option Nat → Run (Option Tool.Ending × Bool)
  | 0, isTimedOut, _ => return (none, isTimedOut)
  | fuel + 1, isTimedOut, untilUs => do
      match ← Run.ask (.await true untilUs) with
      | .ended ended ending =>
          if ended = number then return (some ending, isTimedOut)
          else watch limited number fuel isTimedOut untilUs
      | .childless => return (none, isTimedOut)
      | .disturbed =>
          let signals ← Run.ask .noted
          Run.ask .takeNoted
          for signal in signals.reverse do sendToGroup number signal
          watch limited number fuel isTimedOut untilUs
      | .expired =>
          sendToGroup number limited.signal
          watch limited number fuel true none

/-- The status of a program that was ended since its time was over. -/
def timedOutStatus : Nat := 124

/-- Wait for the end of a program, but not for longer than its time. -/
def keepLimit (limited : Limited) (number fuel : Nat) : Run Unit := do
  let nowUs ← Run.ask .clock
  let untilUs := if limited.durationUs = 0 then none else some (nowUs + limited.durationUs)
  match ← watch limited number fuel false untilUs with
  | (none, _) => return ()
  | (some (.exit code), false) => Run.setStatus code.toNat
  | (some (.signal signal), false) =>
      -- The program that waited dies like the one that it waited for.
      Run.ask (.setDisposition signal.toNat .usual)
      let _ ← Run.ask (.send signal.toNat (← Run.ask .identity).1)
      Run.setStatus (128 + signal.toNat)
  | (some ending, true) =>
      let isKilled : Bool := match ending with
        | .signal signal => signal.toNat = Signal.kill
        | .exit _ => false
      Run.setStatus (if isKilled then 128 + Signal.kill else timedOutStatus)

end BuildExplorer.Shell.Utility
