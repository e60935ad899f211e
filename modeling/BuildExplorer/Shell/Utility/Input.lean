import BuildExplorer.Shell.Utility.Basic

/-!
# Input and output of utilities

A utility reads its input chunk by chunk, as it comes, and what it writes leaves it
in larger pieces.  So an input needs no end for what is done with its front, and
what a utility has not read is left to others.
-/

namespace BuildExplorer.Shell.Utility

open Host (Entry Fault FileTree Location)

/-! ## Lines -/

/-- Lines of bytes, each with its end if it has one. -/
def byteLines (bytes : List UInt8) : List (List UInt8) :=
  let pieces := bytes.splitOn 10
  let ended := pieces.dropLast.map (· ++ [10])
  match pieces.getLast? with
  | some (byte :: rest) => ended ++ [byte :: rest]
  | _ => ended

/-- The texts of the lines, without their ends. -/
def lineTexts (bytes : List UInt8) : List (List Char) :=
  (byteLines bytes).map fun line =>
    textOf (if line.getLast? = some 10 then line.dropLast else line)

/-! ## Output -/

/-- Write to the output, and give up if what was written is lost. -/
def put (bytes : List UInt8) : Run Unit := do
  Run.emit 1 bytes
  if (← Run.process).lost.isSome then throw .exit

/-! ## Input -/

/-- An input: the descriptor to read from, and whether it was opened by the utility
itself. -/
structure Input where
  descriptor : Nat
  isOwn : Bool

/-- The input that a utility is given. -/
def standardInput : Input :=
  ⟨0, false⟩

/-- How much is read at once. -/
def blockSize : Nat := 65536

/-- How many steps are taken with an input at most. -/
def inputFuel : Nat := 1000000

/-- How much of an input is kept.  One that is longer counts as endless. -/
def longestInput : Nat := 4000000

/-- Leave bytes that were read to others, if one can go back to them. -/
def giveBack (input : Input) (count : Nat) : Run Unit := do
  if count ≠ 0 then
    match ← Run.ask (.describe input.descriptor) with
    | some (.toFile _ offset _ _) => Run.ask (.seek input.descriptor (offset - count))
    | _ => return ()

/-- Do something with the chunks of an input, one after the other, as long as it is
wanted. -/
def forChunks {State : Type} (input : Input) (size : Nat)
    (act : State → List UInt8 → Run (State × Bool)) : Nat → State → Run (Except Fault State)
  | 0, _ => Run.waitForever
  | fuel + 1, state => do
      match ← Run.ask (.read input.descriptor size) with
      | .refused fault => return .error fault
      | .bytes chunk =>
          let (state, goesOn) ← act state chunk
          if goesOn then forChunks input size act fuel state else return .ok state
      | _ => return .ok state

/-- Read to the end; an input without an end keeps the utility waiting. -/
def readAll (input : Input) : Run (Except Fault (List UInt8)) := do
  let keep (kept : List (List UInt8) × Nat) (chunk : List UInt8) :
      Run ((List (List UInt8) × Nat) × Bool) := do
    let length := kept.2 + chunk.length
    if longestInput < length then Run.waitForever
    else return ((chunk :: kept.1, length), true)
  match ← forChunks input blockSize keep inputFuel ([], 0) with
  | .error fault => return .error fault
  | .ok (chunks, _) => return .ok chunks.reverse.flatten

/-! ## Named inputs -/

/-- The entry that a name stands for; a process stays in its directory even when that is
removed. -/
def entryOf (name : List Char) : Run (Except Fault (Location × Entry)) := do
  let state ← Run.view
  let directory := state.process.directory
  if name = ['.'] then return .ok (directory, .directory)
  else return FileTree.find state.tree directory (pathOf name)

/-- Do something with the input of a name; a dash stands for the one that is given. -/
def withInput {Outcome : Type} (name : List Char)
    (act : Input → Run (Except Fault Outcome)) : Run (Except Fault Outcome) := do
  if name = ['-'] then act standardInput
  else
    match ← Run.openFile name .toRead with
    | .error fault => return .error fault
    | .ok descriptor =>
        let outcome ← act ⟨descriptor, true⟩
        Run.close descriptor
        return outcome

/-- Tell that a file cannot be used. -/
def complainOfFile (name : List Char) (fault : Fault) : Run Unit :=
  complain (quoteIfNeeded name ++ ": " ++ faultText fault)

/-- Do something with each of several names; the status tells whether all of it could
be done. -/
def forNames (names : List (List Char)) (act : List Char → Run Bool) : Run Unit := do
  let mut status := 0
  for name in names do
    if !(← act name) then status := 1
  Run.setStatus status

/-- Do something with the bytes of all inputs in a row. -/
def withContents (names : List (List Char)) (act : List UInt8 → Run Unit) : Run Unit := do
  let mut pieces := []
  let mut status := 0
  for name in names do
    match ← withInput name readAll with
    | .ok bytes => pieces := bytes :: pieces
    | .error fault =>
        complainOfFile name fault
        status := 1
  act pieces.reverse.flatten
  if status ≠ 0 then Run.setStatus status

end BuildExplorer.Shell.Utility
