import BuildExplorer.Host.FileTree
import BuildExplorer.Host.Program

/-!
# Machines

A machine is a host that is known in full: a file tree, and tools whose state
and behaviour are left open.  The tools see the machine and may change it, all but
the directory where the program runs, which is its own.
-/

namespace BuildExplorer.Host

/-- A machine whose tools keep a state. -/
structure Machine (Tools : Type) where
  tree : FileTree := {}
  /-- Where the program runs. -/
  directory : Location := []
  /-- Where scratch directories are made. -/
  scratchParent : Path := ⟨"/tmp"⟩
  /-- How many fresh names were given. -/
  namesGiven : Nat := 0
  input : Bytes := []
  time : String := ""
  tools : Tools

/-- How the tools of a machine answer a call. -/
abbrev ToolBehaviour (Tools : Type) : Type :=
  Tool.Call → Machine Tools → Tool.Report × Machine Tools

namespace Machine

variable {Tools : Type}

/-! ## Fresh names -/

/-- The last letters of a number in base 26. -/
def letters : Nat → Nat → List Char
  | 0, _ => []
  | count + 1, number => letters count (number / 26) ++ [Char.ofNat ('a'.toNat + number % 26)]

/-- A name that begins with a text and ends with the letters of a number. -/
def numbered (beginning : String) (number : Nat) : List Char :=
  beginning.toList ++ letters 6 number

/-- A number from `first` on whose name is free in a directory. -/
def freshNumber (tree : FileTree) (directory : Location) (beginning : String) (first : Nat) : Nat :=
  let offsets := List.range (tree.entries.length + 1)
  let isFree (offset : Nat) :=
    (tree.entry? (directory ++ [numbered beginning (first + offset)])).isNone
  first + (offsets.find? isFree).getD 0

/-- Make an entry of a fresh name in a directory, unless all names are taken. -/
def makeFresh (machine : Machine Tools) (parent : Path) (beginning : String) (entry : Entry) :
    Except Fault Path × Machine Tools :=
  match FileTree.find machine.tree machine.directory parent with
  | .error fault => (.error fault, machine)
  | .ok (location, .directory) =>
      let number := freshNumber machine.tree location beginning machine.namesGiven
      let name := numbered beginning number
      match machine.tree.entry? (location ++ [name]) with
      | some _ => (.error .alreadyThere, machine)
      | none =>
          (.ok (parent.join (String.ofList name)),
            { machine with
              tree := machine.tree.put (location ++ [name]) entry
              namesGiven := number + 1 })
  | .ok _ => (.error .notDirectory, machine)

/-! ## Actions -/

/-- Take over a changed tree. -/
def update (machine : Machine Tools) : Except Fault FileTree → Except Fault Unit × Machine Tools
  | .error fault => (.error fault, machine)
  | .ok tree => (.ok (), { machine with tree })

/-- Remove a directory with all that it holds. -/
def removeAll (machine : Machine Tools) (path : Path) : Machine Tools :=
  match FileTree.resolve machine.tree machine.directory path with
  | .error _ => machine
  | .ok location => { machine with tree := machine.tree.eraseBelow location }

/-- Is the entry a file? -/
def isFileEntry : Entry → Bool
  | .file _ _ => true
  | .utility _ => true
  | _ => false

/-- The names in a directory, and for each whether it is a file. -/
def names (machine : Machine Tools) (path : Path) : Except Fault (List (String × Bool)) :=
  (FileTree.listDirectory machine.tree machine.directory path).map fun found =>
    found.map fun (name, entry) => (String.ofList name, isFileEntry entry)

/-- Answer an action. -/
def answer (execute : ToolBehaviour Tools) : Host (Machine Tools)
  | .readContents path, machine =>
      (FileTree.readContents machine.tree machine.directory path, machine)
  | .writeContents path contents, machine =>
      machine.update (FileTree.writeContents machine.tree machine.directory path contents)
  | .appendContents path contents, machine =>
      machine.update (FileTree.appendContents machine.tree machine.directory path contents)
  | .createDirectories path, machine =>
      let (tree, outcome) := FileTree.createDirectories machine.tree machine.directory path
      (outcome, { machine with tree })
  | .isFile path, machine =>
      (FileTree.isFile machine.tree machine.directory path, machine)
  | .listDirectory path, machine => (machine.names path, machine)
  | .makeScratch, machine => machine.makeFresh machine.scratchParent "cohcc" .directory
  | .removeScratch path, machine => ((), machine.removeAll path)
  | .makeTemporary directory, machine => machine.makeFresh directory ".tmp" (.file [] false)
  | .moveFile source target, machine =>
      machine.update (FileTree.moveFile machine.tree machine.directory source target)
  | .eraseFile path, machine =>
      machine.update (FileTree.eraseFile machine.tree machine.directory path)
  | .execute call, machine =>
      let (report, after) := execute call machine
      (report, { after with directory := machine.directory })
  | .readInput, machine => (.ok machine.input, { machine with input := [] })
  | .timeStamp, machine => (machine.time, machine)

end Machine

end BuildExplorer.Host
