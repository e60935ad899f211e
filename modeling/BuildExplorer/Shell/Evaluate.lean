import BuildExplorer.Shell.Builtin
import BuildExplorer.Shell.Child
import BuildExplorer.Shell.Redirect
import BuildExplorer.Shell.Runnable
import BuildExplorer.Shell.Script

/-!
# Evaluation of scripts

Commands are carried out in order; those that need processes of their own start
them.  Evaluation takes fuel: a script that uses it up counts as one that is busy
for ever.
-/

namespace BuildExplorer.Shell

open Host (FileTree Fault)

/-- How long a process is busy with a simple command. -/
def commandUs : Nat := 5

/-- How long it takes until a program gets going. -/
def programUs : Nat := 400

/-- How deep functions may call each other. -/
def maxDepth : Nat := 1000

/-- End the process after a failure that is of no interest to another command, if
it is set so. -/
def endIfFailed (isTested : Bool) : Run Unit := do
  let process ← Run.process
  if !isTested && process.options.stopsOnFailure && process.status != 0 then throw .exit

/-- Is there a script for a signal? -/
def hasTraps : Run Bool := do
  return (← Run.process).traps.any fun (_, script) => !script.isEmpty

/-- The parts of a command that are processes of their own. -/
def partsOf (alone : Command → Run Unit) : Command → List (Run Unit)
  | .pipeline false (first :: rest) => (first :: rest).map alone
  | command => [alone command]

/-! ## Loops -/

/-- Carry out the body of a loop once; the answer tells whether the loop goes
on. -/
def turn (body : Run Unit) : Run Bool := do
  match ← Run.observe body with
  | .ok () => return true
  | .error (.repeats (count + 2)) => throw (.repeats (count + 1))
  | .error (.repeats _) => return true
  | .error (.leaves (count + 2)) => throw (.leaves (count + 1))
  | .error (.leaves _) => return false
  | .error interruption => throw interruption

/-- Carry out a loop. -/
def inLoop (body : Run Unit) : Run Unit := do
  let before := (← Run.process).loops
  Run.changeProcess fun process => { process with loops := before + 1 }
  let outcome ← Run.observe body
  Run.changeProcess fun process => { process with loops := before }
  Run.conclude outcome

/-! ## Variables for a while -/

/-- Give a variable back what it was. -/
def restoreVariable (name : List Char) (value : Option (List Char)) : Run Unit :=
  Run.changeProcess fun process =>
    { process with
      bindings :=
        match value with
        | some value => bind name value process.bindings
        | none => process.bindings.filter (·.1 != name) }

/-- Give variables back what they were in a process. -/
def restoreVariables (before : Process) (names : List (List Char)) : Run Unit := do
  for name in names do restoreVariable name (variableOf before name)
  Run.changeProcess fun process => { process with exported := before.exported }

/-- Carry out a function with its own arguments and variables. -/
def inFunction (arguments : List (List Char)) (body : Run Unit) : Run Unit := do
  let before ← Run.process
  if maxDepth ≤ before.depth then
    Run.abort 2 "Maximum function recursion depth (1000) reached"
  Run.changeProcess fun process =>
    { process with
      arguments, depth := before.depth + 1, loops := 0, outer := some [], optionPlace := {} }
  let outcome ← Run.observe body
  for (name, value) in ((← Run.process).outer).getD [] do restoreVariable name value
  Run.changeProcess fun process =>
    { process with
      arguments := before.arguments, depth := before.depth, loops := before.loops
      outer := before.outer, optionPlace := before.optionPlace }
  match outcome with
  | .ok () => return ()
  | .error .returns => return ()
  | .error interruption => throw interruption

/-- Carry out a command of the shell whose mistakes do not end the process. -/
def surviving (body : Run Unit) : Run Unit := do
  match ← Run.observe body with
  | .ok () => return ()
  | .error .exit => return ()
  | .error interruption => throw interruption

/-! ## Words of commands -/

/-- The commands whose arguments may be assignments. -/
def declaring : List String :=
  ["export", "local", "readonly"]

/-- Expand an argument that may be an assignment. -/
def expandDeclared (substitute : Substitution) (word : Word) : Run (List (List Char)) := do
  match Reader.assignment? word with
  | none => expandFields substitute word
  | some (name, value) => return [name ++ '=' :: (← expandValue substitute value)]

/-- Expand the words of a command, the first of which tells what it is. -/
def expandCommand (substitute : Substitution) : List Word → Run (List (List Char))
  | [] => return []
  | word :: rest => do
      let fields ← expandFields substitute word
      let others ←
        match fields with
        | [] => expandCommand substitute rest
        | [name] =>
            if name = "command".toList then expandCommand substitute rest
            else if declaring.contains (String.ofList name) then
              pure (← rest.mapM (expandDeclared substitute)).flatten
            else expandAll substitute rest
        | _ => expandAll substitute rest
      return fields ++ others

/-! ## Calls of the shell -/

/-- The letters of the options in front of operands, and those. -/
def lettersOf : List (List Char) → List Char × List (List Char)
  | ['-', '-'] :: rest => ([], rest)
  | ('-' :: letter :: letters) :: rest =>
      let (others, operands) := lettersOf rest
      (letter :: letters ++ others, operands)
  | operands => ([], operands)

/-- All that a file holds; a directory holds nothing. -/
def readFile (name : List Char) : Run (Except Fault (List UInt8)) := do
  match ← Run.openFile name .toRead with
  | .error fault => return .error fault
  | .ok descriptor =>
      let chunks ← readChunks descriptor patience []
      Run.close descriptor
      return .ok chunks.reverse.flatten

/-- The script of a shell, after it was made a fresh one. -/
def scriptOf (name : List Char) (arguments : List (List Char)) : Run (List Char) := do
  renew name []
  let (letters, operands) := lettersOf arguments
  Builtin.setLetters true (letters.filter fun letter => !(['c', 's', 'l'].contains letter))
  let start (name : List Char) (arguments : List (List Char)) : Run Unit :=
    Run.changeProcess fun process => { process with name, arguments }
  match letters.contains 'c', operands with
  | true, [] => Run.abort 2 "-c requires an argument"
  | true, script :: rest =>
      start (rest.head?.getD name) (rest.drop 1)
      return script
  | false, [] => return textOf (← readChunks 0 patience []).reverse.flatten
  | false, file :: rest =>
      match ← readFile file with
      | .ok bytes =>
          start file rest
          return textOf bytes
      | .error fault =>
          let text := if fault = .notFound then "No such file" else faultText fault
          Run.abort 2 ("cannot open " ++ String.ofList file ++ ": " ++ text)

/-- The text of a file for `.`, with the path at which it was found. -/
def sourcedFile (name : List Char) : Run (List Char × List Char) := do
  let state ← Run.view
  let candidates :=
    if name.contains '/' then [name]
    else candidates ((searchPath state.process).getD []) name
  let isThere (path : List Char) : Bool :=
    FileTree.isFile state.tree state.process.directory (pathOf path)
  match if name.contains '/' then some name else candidates.find? isThere with
  | none => Run.abort 2 (String.ofList name ++ ": not found")
  | some path =>
      match ← readFile path with
      | .ok bytes => return (path, textOf bytes)
      | .error _ => Run.abort 2 ("cannot open " ++ String.ofList path ++ ": No such file")

/-! ## Evaluation -/

mutual

/-- Evaluate a command.  With `isTested` a failure is of interest to another
command and does not end the process; with `isLast` nothing in the process comes
after it. -/
def evaluate : Nat → Bool → Bool → Command → Run Unit
  | 0, _, _, _ => Run.spin
  | fuel + 1, isTested, isLast, command => do
      match command with
      | .simple line assignments words redirections =>
          simple fuel isTested isLast line assignments words redirections
          endIfFailed isTested
      | .pipeline negated parts =>
          match parts with
          | [single] => evaluate fuel true false single
          | parts =>
              inPipeline (partsOf (alone fuel isTested) (.pipeline false parts))
              deliver fuel
          if negated then Run.setStatus (if (← Run.process).status = 0 then 1 else 0)
          else endIfFailed isTested
      | .both first second =>
          evaluate fuel true false first
          if (← Run.process).status = 0 then evaluate fuel isTested isLast second
      | .either first second =>
          evaluate fuel true false first
          if (← Run.process).status != 0 then evaluate fuel isTested isLast second
      | .sequence commands => inOrder fuel isTested isLast commands
      | .background command => inBackground (partsOf (alone fuel false) command)
      | .subshell body =>
          if isLast && !(← hasTraps) then evaluate fuel isTested true body
          else
            inForeground (alone fuel isTested body)
            deliver fuel
          endIfFailed isTested
      | .branch condition thenPart elsePart =>
          evaluate fuel true false condition
          let isTrue := (← Run.process).status = 0
          chosen fuel isTested isLast (if isTrue then thenPart else elsePart)
      | .loop expected condition body =>
          inLoop (loop fuel isTested expected 0 condition body)
      | .each name words body =>
          let values ← match words with
            | some words => expandAll (substitute fuel) words
            | none => pure (← Run.process).arguments
          Run.setStatus 0
          inLoop (each fuel isTested name body values)
      | .choose word arms =>
          let text ← expandText (substitute fuel) word
          choose fuel isTested isLast text arms
      | .define name body =>
          Run.changeProcess fun process =>
            { process with
              functions := (name, body) :: process.functions.filter (·.1 != name) }
          Run.setStatus 0
      | .redirected command redirections =>
          let act := evaluate fuel isTested false command
          if !(← underRedirections (substitute fuel) redirections act) then endIfFailed isTested

/-- Evaluate the part of a command that was chosen; nothing at all succeeds. -/
def chosen : Nat → Bool → Bool → Command → Run Unit
  | 0, _, _, _ => Run.spin
  | _, _, _, .sequence [] => Run.setStatus 0
  | fuel + 1, isTested, isLast, command => evaluate fuel isTested isLast command

/-- Evaluate commands in order. -/
def inOrder : Nat → Bool → Bool → List Command → Run Unit
  | 0, _, _, _ => Run.spin
  | _, _, _, [] => return ()
  | fuel + 1, isTested, isLast, command :: rest => do
      evaluate fuel isTested (isLast && rest.isEmpty) command
      inOrder fuel isTested isLast rest

/-- Evaluate a command as all that a process does. -/
def alone : Nat → Bool → Command → Run Unit
  | 0, _, _ => Run.spin
  | fuel + 1, isTested, command =>
      asShell fuel <|
        match command with
        | .redirected command redirections => do
            if ← redirectForGood (substitute fuel) redirections then
              evaluate fuel isTested true command
            else Run.setStatus 2
        | command => evaluate fuel isTested true command

/-- Repeat a body while, or until, a condition holds; the status is that of the
last turn. -/
def loop : Nat → Bool → Bool → Nat → Command → Command → Run Unit
  | 0, _, _, _, _, _ => Run.spin
  | fuel + 1, isTested, expected, status, condition, body => do
      if ← turn (evaluate fuel true false condition) then
        if ((← Run.process).status == 0) == expected then
          if ← turn (evaluate fuel isTested false body) then
            let status := (← Run.process).status
            loop fuel isTested expected status condition body
        else Run.setStatus status

/-- Carry out a body for each of several values. -/
def each : Nat → Bool → List Char → Command → List (List Char) → Run Unit
  | 0, _, _, _, _ => Run.spin
  | _, _, _, _, [] => return ()
  | fuel + 1, isTested, name, body, value :: rest => do
      Run.setVariable name value
      if ← turn (evaluate fuel isTested false body) then each fuel isTested name body rest

/-- Carry out the first body one of whose patterns matches. -/
def choose : Nat → Bool → Bool → List Char → List (List Word × Command) → Run Unit
  | 0, _, _, _, _ => Run.spin
  | _, _, _, _, [] => Run.setStatus 0
  | fuel + 1, isTested, isLast, text, (patterns, body) :: rest => do
      if ← matchesOne fuel text patterns then chosen fuel isTested isLast body
      else choose fuel isTested isLast text rest

/-- Does a text match one of the patterns? -/
def matchesOne : Nat → List Char → List Word → Run Bool
  | 0, _, _ => Run.spin
  | _, _, [] => return false
  | fuel + 1, text, pattern :: rest => do
      let glob ← expandPattern (substitute fuel) pattern
      if globMatches glob text then return true else matchesOne fuel text rest

/-- What a command writes, without the ends of lines at its end. -/
def substitute : Nat → Command → Run (List Char)
  | 0, _ => Run.spin
  | _, .nothing => return []
  | fuel + 1, command => do
      let bytes ← captured (alone fuel false command)
      let written := textOf (bytes.filter (· != 0))
      return (written.reverse.dropWhile (· == '\n')).reverse

/-- Evaluate the text of a script line by line, up to a mistake in it. -/
def text : Nat → Bool → List Char → Run Unit
  | 0, _, _ => Run.spin
  | fuel + 1, isTested, script => do
      let read := Script.read script
      if read.1.isEmpty then Run.setStatus 0
      let before := (← Run.process).linesRead
      let outcome ← Run.observe (lines fuel isTested read)
      Run.changeProcess fun process => { process with linesRead := before }
      Run.conclude outcome

/-- Evaluate lines, up to the mistake at which they stop. -/
def lines : Nat → Bool → Reader.Lines → Run Unit
  | 0, _, _ => Run.spin
  | fuel + 1, isTested, ((command, behind) :: rest, mistake) => do
      Run.changeProcess fun process => { process with linesRead := behind.line }
      evaluate fuel isTested false command
      lines fuel isTested (rest, mistake)
  | _, _, ([], some (mistake, line)) => do
      Run.changeProcess fun process => { process with line }
      Run.abort 2 ("Syntax error: " ++ mistake.message)
  | _, _, ([], none) => return ()

/-- Do something as a shell, which ends with its script for the end. -/
def asShell : Nat → Run Unit → Run Unit
  | 0, _ => Run.spin
  | fuel + 1, body => do
      let _ ← Run.observe body
      let process ← Run.process
      if let some script := process.traps.lookup 0 then
        Run.changeProcess fun process =>
          { process with traps := process.traps.filter (·.1 != 0) }
        text fuel true script
        Run.setStatus process.status
      throw .exit

/-- Carry out the scripts for the signals that have come. -/
def deliver : Nat → Run Unit
  | 0 => Run.spin
  | fuel + 1 => do
      if ← hasTraps then
        let signals ← Run.ask .noted
        if !signals.isEmpty then
          Run.ask .takeNoted
          react fuel (signals.mergeSort (· ≤ ·))

/-- Carry out the scripts for signals. -/
def react : Nat → List Nat → Run Unit
  | 0, _ => Run.spin
  | _, [] => return ()
  | fuel + 1, signal :: rest => do
      let process ← Run.process
      match process.traps.lookup signal with
      | some (char :: script) =>
          text fuel true (char :: script)
          Run.setStatus process.status
      | _ => pure ()
      react fuel rest

/-- Give variables values, and tell what they are. -/
def assign : Nat → List (List Char × Word) → Run (List (List Char))
  | 0, _ => Run.spin
  | _, [] => return []
  | fuel + 1, (name, word) :: rest => do
      let value ← expandValue (substitute fuel) word
      Run.setVariable name value
      let others ← assign fuel rest
      return (name ++ '=' :: value) :: others

/-- Evaluate a simple command; with `inPlace` a program takes the place of the
process. -/
def simple :
    Nat → Bool → Bool → Nat → List (List Char × Word) → List Word → List Redirection → Run Unit
  | 0, _, _, _, _, _, _ => Run.spin
  | fuel + 1, isTested, inPlace, line, assignments, words, redirections => do
      Run.work commandUs
      Run.changeProcess fun process => { process with line, innerStatus := 0 }
      let fields ← expandCommand (substitute fuel) words
      let inPlace := inPlace && !(← hasTraps)
      let before ← Run.process
      let given ← assign fuel assignments
      if before.options.showsCommands then
        Run.complain ("+ " ++ String.ofList ([' '].intercalate (given ++ fields)))
      match fields with
      | [] =>
          if ← underRedirections (substitute fuel) redirections (return ()) then
            Run.setStatus (← Run.process).innerStatus
      | name :: arguments =>
          let isFunction := before.functions.any (·.1 == name)
          let isSpecial := !isFunction && Builtin.isSpecial name
          let isProgram := !isFunction && !Builtin.isKnown name
          let names := assignments.map (·.1)
          if !isSpecial then for name in names do Run.passOn name
          if !isFunction && name = "exec".toList || inPlace && isProgram then
            if !(← redirectForGood (substitute fuel) redirections) then
              Run.setStatus 2
              throw .exit
            else if isProgram then
              program fuel name arguments (programPaths (← Run.view) name)
              throw .exit
            else replace fuel arguments
          else
            let outcome ← Run.observe <|
              underRedirections (substitute fuel) redirections <|
                call fuel isTested inPlace name arguments
            if !isSpecial && !names.isEmpty then restoreVariables before names
            match outcome with
            | .ok isDone => if isSpecial && !isDone then throw .exit
            | .error interruption => throw interruption
      deliver fuel

/-- Put a program in the place of the process. -/
def replace : Nat → List (List Char) → Run Unit
  | 0, _ => Run.spin
  | _, [] => Run.setStatus 0
  | fuel + 1, name :: arguments => do
      Run.changeProcess fun process => { process with blamed := some "exec".toList }
      program fuel name arguments (allPaths (← Run.view) name)
      throw .exit

/-- Call a function, a command of the shell or a program. -/
def call : Nat → Bool → Bool → List Char → List (List Char) → Run Unit
  | 0, _, _, _, _ => Run.spin
  | fuel + 1, isTested, inPlace, name, arguments => do
      match (← Run.process).functions.lookup name with
      | some body => inFunction arguments (evaluate fuel isTested false body)
      | none => callOther fuel isTested inPlace name arguments

/-- Call a command of the shell or a program. -/
def callOther : Nat → Bool → Bool → List Char → List (List Char) → Run Unit
  | 0, _, _, _, _ => Run.spin
  | fuel + 1, isTested, inPlace, name, arguments => do
      match String.ofList name with
      | "eval" => Builtin.run name (text fuel isTested ([' '].intercalate arguments))
      | "." => Builtin.run name (source fuel isTested arguments)
      | "exec" => replace fuel arguments
      | "command" => callPlainly fuel isTested inPlace arguments
      | known =>
          match Builtin.ofName? known arguments with
          | some body =>
              if Builtin.isSpecial name then Builtin.run name body
              else surviving (Builtin.run name body)
          | none =>
              let paths := programPaths (← Run.view) name
              if inPlace then
                program fuel name arguments paths
                throw .exit
              else inForeground (program fuel name arguments paths)

/-- Call a command that is no function, and survive the mistakes of a special
one; or tell about it. -/
def callPlainly : Nat → Bool → Bool → List (List Char) → Run Unit
  | 0, _, _, _ => Run.spin
  | fuel + 1, isTested, inPlace, arguments => do
      let tells (body : Run Unit) : Run Unit := Builtin.run "command".toList body
      match lettersOf arguments with
      | ([], []) => Run.setStatus 0
      | ([], name :: arguments) =>
          let survives := Builtin.isSpecial name &&
            !(["exit", "eval", "exec"].contains (String.ofList name))
          match ← Run.observe (callOther fuel isTested inPlace name arguments) with
          | .ok () => return ()
          | .error .exit => if !survives then throw .exit
          | .error interruption => throw interruption
      | (['v'], name :: _) => tells (Builtin.whatRuns name)
      | (['V'], names) => tells (Builtin.describe names)
      | (letter :: _, _) => tells (Run.failAt 2 ("Illegal option -" ++ String.ofList [letter]))

/-- Evaluate the script in a file without a process of its own. -/
def source : Nat → Bool → List (List Char) → Run Unit
  | 0, _, _ => Run.spin
  | _, _, [] => return ()
  | fuel + 1, isTested, name :: _ => do
      let (path, script) ← sourcedFile name
      Run.changeProcess fun process => { process with blamed := some path }
      match ← Run.observe (text fuel isTested script) with
      | .ok () => return ()
      | .error .returns => return ()
      | .error interruption => throw interruption

/-- Run a program, which may be at several paths, in the place of the process. -/
def program : Nat → List Char → List (List Char) → Except Fault (List (List Char)) → Run Unit
  | 0, _, _, _ => Run.spin
  | fuel + 1, name, arguments, paths => do
      let state ← Run.view
      let refuse (status : Nat) (fault : Fault) : Run Unit :=
        Run.failAt status (String.ofList name ++ ": " ++ programFaultText fault)
      match paths with
      | .error fault => refuse 127 fault
      | .ok paths =>
          match startAny state (name :: arguments) .notFound paths with
          | .ok start =>
              keepEnvironment
              runStart fuel start
          | .error fault => refuse (if isMissing fault then 127 else 126) fault

/-- Run what was found for a program in the place of the process. -/
def runStart : Nat → Start → Run Unit
  | 0, _ => Run.spin
  | fuel + 1, start => do
      let name := start.arguments.headD []
      let arguments := start.arguments.drop 1
      Run.ask .becomeProgram
      Run.work programUs
      Run.changeProcess fun process =>
        let ignored := (process.traps.filter (·.2.isEmpty)).map (·.1)
        { process with name, blamed := none, traps := [], deaf := ignored ++ process.deaf }
      match start.utility with
      | "sh" => shell fuel name arguments
      | "dash" => shell fuel name arguments
      | "timeout" => Utility.toItsEnd "timeout" do
          if let some limited ← Utility.limitedOf? arguments then underLimit fuel limited
      | utility =>
          if Utility.wrapping.contains utility then
            Utility.toItsEnd utility do
              if let some program ← Utility.wrappedOf? utility arguments then
                wrapped fuel program
          else Utility.run utility arguments

/-- Run a program for a utility, in the place of the process. -/
def wrapped : Nat → Utility.Wrapped → Run Unit
  | 0, _ => Run.spin
  | fuel + 1, program => do
      match startNamed (← Run.view) program.name program.arguments with
      | .ok start => runStart fuel start
      | .error fault =>
          Utility.fail (if fault = .notFound then 127 else 126)
            ("failed to run command " ++ Utility.quote program.name ++ ": " ++ faultText fault)

/-- Run a program in a process of its own, but not for longer than its time. -/
def underLimit : Nat → Utility.Limited → Run Unit
  | 0, _ => Run.spin
  | fuel + 1, limited => do
      Utility.prepareLimit limited
      Run.flush
      let number ← Run.fork do
        becomeChild
        wrapped fuel limited.toWrapped
      Utility.keepLimit limited number patience

/-- Run a shell in the place of the process. -/
def shell : Nat → List Char → List (List Char) → Run Unit
  | 0, _, _ => Run.spin
  | fuel + 1, name, arguments => asShell fuel do
      let script ← scriptOf name arguments
      Run.changeProcess fun process => { process with line := 1 }
      text fuel false script

end

end BuildExplorer.Shell
