import BuildExplorer.Host.FileTree
import BuildExplorer.Tool.Supervision

/-!
# Tasks

A task is what a process is going to do: it ends, starts another process, or
asks the system for something and goes on with the reply.  Tasks say nothing
about how long a process waits for a reply, nor what other processes do in the
meantime; that is decided by the system that carries them out.
-/

namespace BuildExplorer.Shell

open Host (FileTree Location Fault)

/-! ## Files -/

/-- How a file is opened. -/
structure OpenMode where
  reads : Bool := false
  writes : Bool := false
  /-- Is the file made if it is missing? -/
  creates : Bool := false
  /-- Is the file emptied first? -/
  empties : Bool := false
  /-- Does all that is written go behind the end? -/
  appends : Bool := false
  deriving DecidableEq, Repr

namespace OpenMode

/-- Read a file that is there. -/
def toRead : OpenMode where
  reads := true

/-- Write a file anew. -/
def toWrite : OpenMode where
  writes := true
  creates := true
  empties := true

/-- Write behind the end of a file. -/
def toAppend : OpenMode where
  writes := true
  creates := true
  appends := true

/-- Read and write a file. -/
def toUpdate : OpenMode where
  reads := true
  writes := true
  creates := true

end OpenMode

/-- A change of the files: what becomes of the tree, which entries go from one
location to another, and at which locations one file takes the place of another.
Who has a file open goes on with that file, wherever it is by then. -/
structure FileChange where
  apply : FileTree → Except Fault FileTree
  moves : List (Location × Location) := []
  replaces : List Location := []

/-- What a descriptor leads to. -/
inductive Leading where
  /-- A file by its number, how far it was read or written, whether all that is
  written goes to its end, and how long it is. -/
  | toFile (node offset : Nat) (appends : Bool) (size : Nat)
  | toDirectory
  | toDevice (device : Host.Device)
  | toPipe
  deriving DecidableEq, Repr

/-- The descriptor that a path names. -/
def descriptorOf? (path : Path) : Option Nat :=
  if !path.isAbsolute then none
  else
    match path.components.map String.ofList with
    | ["dev", "stdin"] => some 0
    | ["dev", "stdout"] => some 1
    | ["dev", "stderr"] => some 2
    | ["dev", "fd", number] => number.toNat?
    | ["proc", "self", "fd", number] => number.toNat?
    | _ => none

/-! ## Replies -/

/-- What comes of reading. -/
inductive Reading where
  /-- Some bytes, at least one. -/
  | bytes (bytes : List UInt8)
  /-- There is nothing more. -/
  | finished
  /-- A signal came first. -/
  | disturbed
  | refused (fault : Fault)

/-- What comes of waiting for a process of one's own. -/
inductive Waiting where
  | ended (number : Nat) (ending : Tool.Ending)
  /-- A signal came first. -/
  | disturbed
  /-- The time is over. -/
  | expired
  /-- There is no such process. -/
  | childless

/-- What a process does about a signal. -/
inductive Disposition where
  /-- What the signal does of itself. -/
  | usual
  | ignored
  /-- It takes note of the signal. -/
  | noted
  deriving DecidableEq, Repr

/-! ## Calls -/

/-- What a process can ask for. -/
inductive Call where
  /-- Be busy for some microseconds. -/
  | work (durationUs : Nat)
  /-- Wait until a time, or for a signal. -/
  | pause (untilUs : Option Nat)
  | clock
  /-- The files as they are. -/
  | files
  | changeFiles (change : FileChange)
  /-- Open a file, at the lowest descriptor that is free. -/
  | openFile (directory : Location) (path : Path) (mode : OpenMode)
  /-- Wait until somebody opens the other end of a pipe. -/
  | meet (descriptor : Nat)
  | close (descriptor : Nat)
  /-- Lead a descriptor to where another one leads. -/
  | duplicate (descriptor target : Nat)
  /-- Lead a descriptor from ten on, which other programs do not get, to where
  another one leads. -/
  | keep (descriptor : Nat)
  /-- Make a pipe: the descriptors to read from it and to write to it. -/
  | makePipe
  /-- Where a descriptor leads, if it is open. -/
  | describe (descriptor : Nat)
  | read (descriptor count : Nat)
  /-- Read up to the first end of a line. -/
  | readLine (descriptor : Nat)
  /-- Write all of the bytes. -/
  | write (descriptor : Nat) (bytes : List UInt8)
  /-- Go to a place in a file. -/
  | seek (descriptor offset : Nat)
  /-- The number of the process and that of the one it comes from. -/
  | identity
  /-- Become another program: what the present one keeps for itself is gone. -/
  | becomeProgram
  /-- Wait for the end of a process of one's own. -/
  | await (isDisturbable : Bool) (untilUs : Option Nat)
  /-- Send a signal to a process, or with a number below zero to a group; the
  answer tells whether there is one. -/
  | send (signal : Nat) (target : Int)
  | setDisposition (signal : Nat) (disposition : Disposition)
  /-- The signals that were noted, the latest one first. -/
  | noted
  /-- Take note no longer of the signals that were noted. -/
  | takeNoted
  /-- Lead a group of its own; the answer tells whether that is new. -/
  | leadGroup

/-- What comes back for a call. -/
abbrev Call.Reply : Call → Type
  | .work _ => Unit
  | .pause _ => Unit
  | .clock => Nat
  | .files => FileTree
  | .changeFiles _ => Except Fault Unit
  | .openFile _ _ _ => Except Fault Nat
  | .meet _ => Unit
  | .close _ => Bool
  | .duplicate _ _ => Bool
  | .keep _ => Option Nat
  | .makePipe => Nat × Nat
  | .describe _ => Option Leading
  | .read _ _ => Reading
  | .readLine _ => Reading
  | .write _ _ => Except Fault Unit
  | .seek _ _ => Unit
  | .identity => Nat × Nat
  | .becomeProgram => Unit
  | .await _ _ => Waiting
  | .send _ _ => Bool
  | .setDisposition _ _ => Unit
  | .noted => List Nat
  | .takeNoted => Unit
  | .leadGroup => Bool

/-! ## Tasks -/

/-- What a process is going to do. -/
inductive Task where
  | exit (status : Nat)
  | ask (call : Call) (next : call.Reply → Task)
  /-- Start a process of one's own; its number comes back. -/
  | fork (child : Task) (next : Nat → Task)

end BuildExplorer.Shell
