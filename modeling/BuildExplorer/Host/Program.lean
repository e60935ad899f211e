import BuildExplorer.Host.Fault
import BuildExplorer.Tool.Basic

/-!
# Programs that act on a host

Whatever reaches outside of the library, to files or to tools, is an `Action`
with a `Reply`.  A `Program` is a value: it is done, or it asks for one action
and goes on with the reply.  A `Host` answers actions and may change while it
does so; nothing else is known about it, so that a statement about all hosts
covers every file that cannot be written and every tool that misbehaves.
-/

namespace BuildExplorer.Host

/-- Contents of files. -/
abbrev Bytes := List UInt8

/-- What a program can ask for. -/
inductive Action where
  | readContents (path : Path)
  /-- Make the file, or replace what it holds. -/
  | writeContents (path : Path) (contents : Bytes)
  /-- Make the file, or write behind what it holds. -/
  | appendContents (path : Path) (contents : Bytes)
  /-- Make the directory and all that lead to it, as far as they are missing. -/
  | createDirectories (path : Path)
  | isFile (path : Path)
  /-- The names in a directory, and for each whether it is a file. -/
  | listDirectory (path : Path)
  /-- Make a directory of a fresh name for a request. -/
  | makeScratch
  /-- Remove a directory with all that it holds. -/
  | removeScratch (path : Path)
  /-- Make an empty file of a fresh name in a directory. -/
  | makeTemporary (directory : Path)
  /-- Move a file, in one step, to a path where a file may already be. -/
  | moveFile (source target : Path)
  | eraseFile (path : Path)
  /-- Run a tool. -/
  | execute (call : Tool.Call)
  /-- Read all of the standard input. -/
  | readInput
  /-- The text of the present time. -/
  | timeStamp
  deriving DecidableEq, Repr

/-- What comes back for an action. -/
def Action.Reply : Action → Type
  | .readContents _ => Except Fault Bytes
  | .writeContents _ _ => Except Fault Unit
  | .appendContents _ _ => Except Fault Unit
  | .createDirectories _ => Except Fault Unit
  | .isFile _ => Bool
  | .listDirectory _ => Except Fault (List (String × Bool))
  | .makeScratch => Except Fault Path
  | .removeScratch _ => Unit
  | .makeTemporary _ => Except Fault Path
  | .moveFile _ _ => Except Fault Unit
  | .eraseFile _ => Except Fault Unit
  | .execute _ => Tool.Report
  | .readInput => Except Fault Bytes
  | .timeStamp => String

end BuildExplorer.Host

namespace BuildExplorer

/-- A program with a result. -/
inductive Program (Result : Type) where
  | done (result : Result)
  | ask (action : Host.Action) (next : action.Reply → Program Result)

/-- Something that answers actions and may change while it does so. -/
abbrev Host (World : Type) : Type :=
  (action : Host.Action) → World → action.Reply × World

namespace Program

variable {First Second Third World : Type}

/-- Go on with the result of a program. -/
def andThen : Program First → (First → Program Second) → Program Second
  | .done result, continuation => continuation result
  | .ask action next, continuation => .ask action fun reply => (next reply).andThen continuation

instance : Monad Program where
  pure := .done
  bind := andThen

@[simp]
theorem pure_bind' (result : First) (continuation : First → Program Second) :
    (Program.done result).andThen continuation = continuation result :=
  rfl

@[simp]
theorem ask_andThen (action : Host.Action) (next : action.Reply → Program First)
    (continuation : First → Program Second) :
    (Program.ask action next).andThen continuation =
      .ask action fun reply => (next reply).andThen continuation :=
  rfl

@[simp]
theorem andThen_done (program : Program First) : program.andThen .done = program := by
  induction program with
  | done result => rfl
  | ask action next inductionHypothesis => simp [inductionHypothesis]

theorem andThen_assoc (program : Program First) (second : First → Program Second)
    (third : Second → Program Third) :
    (program.andThen second).andThen third =
      program.andThen fun result => (second result).andThen third := by
  induction program with
  | done result => rfl
  | ask action next inductionHypothesis => simp [inductionHypothesis]

/-- Ask for one action. -/
def perform (action : Host.Action) : Program action.Reply :=
  .ask action .done

/-! ## Runs -/

/-- The result of a program on a host, and what the host has become. -/
def run (host : Host World) : Program First → World → First × World
  | .done result, world => (result, world)
  | .ask action next, world =>
      let (reply, world) := host action world
      (next reply).run host world

@[simp]
theorem run_done (host : Host World) (result : First) (world : World) :
    (Program.done result).run host world = (result, world) :=
  rfl

theorem run_ask (host : Host World) (action : Host.Action)
    (next : action.Reply → Program First) (world : World) :
    (Program.ask action next).run host world =
      (next (host action world).1).run host (host action world).2 :=
  rfl

/-- A run of two programs in sequence is a run of the first and then one of the
second. -/
theorem run_andThen (host : Host World) (program : Program First)
    (continuation : First → Program Second) (world : World) :
    (program.andThen continuation).run host world =
      (continuation (program.run host world).1).run host (program.run host world).2 := by
  induction program generalizing world with
  | done result => rfl
  | ask action next inductionHypothesis =>
      rw [ask_andThen, run_ask, run_ask, inductionHypothesis]

/-! ## Single actions -/

open Host (Fault Bytes)

def readContents (path : Path) : Program (Except Fault Bytes) :=
  perform (.readContents path)

def writeContents (path : Path) (contents : Bytes) : Program (Except Fault Unit) :=
  perform (.writeContents path contents)

def appendContents (path : Path) (contents : Bytes) : Program (Except Fault Unit) :=
  perform (.appendContents path contents)

def createDirectories (path : Path) : Program (Except Fault Unit) :=
  perform (.createDirectories path)

def isFile (path : Path) : Program Bool :=
  perform (.isFile path)

def listDirectory (path : Path) : Program (Except Fault (List (String × Bool))) :=
  perform (.listDirectory path)

def makeScratch : Program (Except Fault Path) :=
  perform .makeScratch

def removeScratch (path : Path) : Program Unit :=
  perform (.removeScratch path)

def makeTemporary (directory : Path) : Program (Except Fault Path) :=
  perform (.makeTemporary directory)

def moveFile (source target : Path) : Program (Except Fault Unit) :=
  perform (.moveFile source target)

def eraseFile (path : Path) : Program (Except Fault Unit) :=
  perform (.eraseFile path)

def execute (call : Tool.Call) : Program Tool.Report :=
  perform (.execute call)

def readInput : Program (Except Fault Bytes) :=
  perform .readInput

def timeStamp : Program String :=
  perform .timeStamp

end Program

end BuildExplorer
