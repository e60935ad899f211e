import BuildExplorer.Shell.Child
import BuildExplorer.Shell.Expansion

/-!
# Redirections

A redirection leads a descriptor to a file, to another descriptor or to a text.
-/

namespace BuildExplorer.Shell

open Host (FileTree Fault)

/-! ## Opening -/

/-- What a redirection leads to. -/
inductive Lead where
  /-- A descriptor that was opened for it. -/
  | opened (descriptor : Nat)
  /-- Another descriptor. -/
  | like (descriptor : Nat)
  | nowhere
  /-- It leads where it leads already. -/
  | unchanged

/-- Complain about a file that cannot be opened. -/
def refuseFile (verb : String) (name : List Char) (fault : Fault) : Run (Option Lead) := do
  let missing := if verb = "create" then "Directory nonexistent" else "No such file"
  let text := if fault = .notFound ∨ fault = .notDirectory then missing else faultText fault
  Run.blame ("cannot " ++ verb ++ " " ++ String.ofList name ++ ": " ++ text)
  return none

/-- Open a file for a redirection. -/
def leadToFile (verb : String) (name : List Char) (mode : OpenMode) : Run (Option Lead) := do
  match ← Run.openFile name mode with
  | .error fault => refuseFile verb name fault
  | .ok descriptor => return some (.opened descriptor)

/-- How much text is put into a pipe without another process. -/
def smallText : Nat := 4096

/-- Make a text readable. -/
def leadToText (bytes : List UInt8) : Run Lead := do
  let (reader, writer) ← Run.ask .makePipe
  let put : Run Unit := do
    let _ ← Run.ask (.write writer bytes)
  if bytes.length ≤ smallText then put
  else
    let _ ← Run.fork do
      becomeChild
      Run.close reader
      put
  Run.close writer
  return .opened reader

/-- What a redirection is to lead to, with the name in it expanded. -/
inductive Goal where
  /-- A file that is written anew. -/
  | write (name : List Char)
  | append (name : List Char)
  | read (name : List Char)
  /-- A file that is read and written. -/
  | update (name : List Char)
  /-- A text, which is expanded only when it is its turn. -/
  | text (word : Word)
  | descriptor (number : Nat)
  | nowhere

/-- Refuse a descriptor that is not given by a digit.  The place in the script is the
one up to which it is read. -/
def refuseDescriptor : Run Goal := do
  Run.changeProcess fun process => { process with line := process.linesRead }
  Run.abort 2 "Syntax error: Bad fd number"

/-- Expand the name that a target is given by. -/
def goalOf (substitute : Substitution) : Target → Run Goal
  | .write word => return .write (← expandText substitute word)
  | .append word => return .append (← expandText substitute word)
  | .read word => return .read (← expandText substitute word)
  | .update word => return .update (← expandText substitute word)
  | .text word => return .text word
  | .same word => do
      match ← expandText substitute word with
      | ['-'] => return .nowhere
      | [digit] =>
          match Text.readNumeral 10 [digit] with
          | some number => return .descriptor number
          | none => refuseDescriptor
      | _ => refuseDescriptor

/-- Expand the names in redirections, before any of them is carried out. -/
def goalsOf (substitute : Substitution) : List Redirection → Run (List (Nat × Goal))
  | [] => return []
  | ⟨descriptor, target⟩ :: rest => do
      let goal ← goalOf substitute target
      return (descriptor, goal) :: (← goalsOf substitute rest)

/-- Find what the redirection of a descriptor leads to.  A mistake in a text is
one of the redirection, and does not end the process. -/
def leadOf (substitute : Substitution) (descriptor : Nat) : Goal → Run (Option Lead)
  | .write name => leadToFile "create" name .toWrite
  | .append name => leadToFile "create" name .toAppend
  | .read name => leadToFile "open" name .toRead
  | .update name => leadToFile "create" name .toUpdate
  | .text word => do
      match ← Run.observe (expandText substitute word) with
      | .ok text => return some (← leadToText (bytesOf text))
      | .error .exit => return none
      | .error interruption => throw interruption
  | .descriptor other => return some (if other = descriptor then .unchanged else .like other)
  | .nowhere => return some .nowhere

/-! ## Carrying out -/

/-- Where a descriptor led before: where another one leads, or nowhere. -/
structure Saved where
  descriptor : Nat
  copy : Option Nat

/-- Keep where a descriptor leads, unless that was done before. -/
def save (saved : List Saved) (descriptor : Nat) (lead : Lead) : Run (List Saved) := do
  let isNew : Bool := match lead with | .opened found => found = descriptor | _ => false
  if saved.any (·.descriptor == descriptor) then return saved
  else if isNew then return ⟨descriptor, none⟩ :: saved
  else
    let copy ← Run.ask (.keep descriptor)
    if copy.isSome then Run.close descriptor
    return ⟨descriptor, copy⟩ :: saved

/-- Give descriptors back where they led before. -/
def restore (saved : List Saved) : Run Unit := do
  for ⟨descriptor, copy⟩ in saved do
    match copy with
    | none => Run.close descriptor
    | some copy => moveDescriptor copy descriptor

/-- Lead a descriptor somewhere; the answer tells whether that works. -/
def follow (descriptor : Nat) : Lead → Run Bool
  | .unchanged => return true
  | .nowhere => do
      Run.close descriptor
      return true
  | .opened found => do
      moveDescriptor found descriptor
      return true
  | .like other => do
      if ← Run.ask (.duplicate other descriptor) then return true
      else
        Run.blame (String.ofList (Nat.toDigits 10 other) ++ ": Bad file descriptor")
        return false

/-- Lead descriptors to their goals in order, up to the first for which that does not
work, and keep where they led before if that is asked for. -/
def redirectAll (substitute : Substitution) (isSaving : Bool) :
    List Saved → List (Nat × Goal) → Run (Bool × List Saved)
  | saved, [] => return (true, saved)
  | saved, (descriptor, goal) :: rest => do
      match ← leadOf substitute descriptor goal with
      | none => return (false, saved)
      | some .unchanged => redirectAll substitute isSaving saved rest
      | some lead =>
          let saved ← if isSaving then save saved descriptor lead else pure saved
          if ← follow descriptor lead then redirectAll substitute isSaving saved rest
          else return (false, saved)

/-- Carry out redirections for good; the answer tells whether they worked. -/
def redirectForGood (substitute : Substitution) (redirections : List Redirection) : Run Bool := do
  return (← redirectAll substitute false [] (← goalsOf substitute redirections)).1

/-- Run something under redirections; if one of them does not work, it is not run
and the answer says so. -/
def underRedirections (substitute : Substitution) (redirections : List Redirection)
    (body : Run Unit) : Run Bool := do
  if redirections.isEmpty then
    body
    return true
  else
    match ← redirectAll substitute true [] (← goalsOf substitute redirections) with
    | (true, saved) =>
        let outcome ← Run.observe body
        restore saved
        Run.conclude outcome
        return true
    | (false, saved) =>
        restore saved
        Run.setStatus 2
        return false

end BuildExplorer.Shell
