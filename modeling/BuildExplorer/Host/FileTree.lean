import BuildExplorer.Host.Fault
import BuildExplorer.Path
import BuildExplorer.Text.Utf8

/-!
# File trees

A tree of directories and files.  Each entry is kept under its location, the
list of names that leads to it from the root; the root itself is always a
directory.  There are no links.
-/

namespace BuildExplorer.Host

/-- The names that lead from the root to an entry. -/
abbrev Location := List (List Char)

/-- A file of the system that keeps nothing. -/
inductive Device where
  /-- Reads as empty and swallows what is written to it. -/
  | null
  /-- Reads as zero bytes without end and swallows what is written to it. -/
  | zero
  /-- Reads as zero bytes without end and takes nothing. -/
  | full
  deriving DecidableEq, Repr

/-- What a name can stand for. -/
inductive Entry where
  | directory
  | file (contents : List UInt8) (isExecutable : Bool)
  | device (device : Device)
  /-- A pipe that processes open by its name. -/
  | pipe
  /-- A program of the system, under the name that it answers to. -/
  | utility (name : String)
  deriving DecidableEq, Repr

/-- A tree of directories and files. -/
structure FileTree where
  entries : List (Location × Entry) := []
  deriving DecidableEq, Repr, Inhabited

namespace FileTree

/-! ## Entries -/

/-- The entry at a location. -/
def entry? (tree : FileTree) (location : Location) : Option Entry :=
  if location.isEmpty then some .directory else tree.entries.lookup location

/-- Put an entry at a location, in place of the one that was there. -/
def put (tree : FileTree) (location : Location) (entry : Entry) : FileTree :=
  ⟨(location, entry) :: tree.entries.filter (·.1 != location)⟩

/-- Remove the entry at a location. -/
def erase (tree : FileTree) (location : Location) : FileTree :=
  ⟨tree.entries.filter (·.1 != location)⟩

/-- Remove the entry at a location and all below it. -/
def eraseBelow (tree : FileTree) (location : Location) : FileTree :=
  ⟨tree.entries.filter fun item => !location.isPrefixOf item.1⟩

/-- The entries of a directory with their names. -/
def children (tree : FileTree) (location : Location) : List (List Char × Entry) :=
  tree.entries.filterMap fun (place, entry) =>
    match location.isPrefixOf? place with
    | some [name] => some (name, entry)
    | _ => none

/-- The entries below a directory, at any depth, with the names that lead from
it to them. -/
def below (tree : FileTree) (location : Location) : List (Location × Entry) :=
  tree.entries.filterMap fun (place, entry) =>
    match location.isPrefixOf? place with
    | some [] => none
    | some rest => some (rest, entry)
    | none => none

/-! ## Paths -/

/-- The longest name, and the longest path, in bytes. -/
def maxNameLength : Nat := 255
def maxPathLength : Nat := 4095

/-- Follow names from a location.  Each name but the last must lead to a
directory; a name that says nothing only demands one. -/
def walk (tree : FileTree) : Location → List (List Char) → Except Fault Location
  | here, [] => .ok here
  | here, name :: rest =>
      match tree.entry? here with
      | none => .error .notFound
      | some .directory =>
          if name.isEmpty || name = ['.'] then walk tree here rest
          else if name = ['.', '.'] then walk tree here.dropLast rest
          else if maxNameLength < (Text.Utf8.encode name).length then .error .nameTooLong
          else walk tree (here ++ [name]) rest
      | some _ => .error .notDirectory

/-- Refuse paths that no system call takes. -/
def checkPath (path : Path) : Except Fault Unit :=
  if path.chars.contains '\x00' then .error .nullInPath
  else if path.text.isEmpty then .error .notFound
  else if maxPathLength < (Text.Utf8.encode path.chars).length then .error .nameTooLong
  else .ok ()

/-- Where a path starts from: the root, or the directory of the caller. -/
def start (directory : Location) (path : Path) : Location :=
  if path.isAbsolute then [] else directory

/-- The location that a path leads to; there need not be an entry yet. -/
def resolve (tree : FileTree) (directory : Location) (path : Path) : Except Fault Location := do
  checkPath path
  walk tree (start directory path) (path.chars.splitOn '/')

/-- The entry that a path leads to. -/
def find (tree : FileTree) (directory : Location) (path : Path) :
    Except Fault (Location × Entry) := do
  let location ← resolve tree directory path
  match tree.entry? location with
  | none => .error .notFound
  | some entry => .ok (location, entry)

/-! ## Operations -/

/-- What a file holds. -/
def readContents (tree : FileTree) (directory : Location) (path : Path) :
    Except Fault (List UInt8) := do
  match ← find tree directory path with
  | (_, .file contents _) => .ok contents
  | (_, .directory) => .error .isDirectory
  | _ => .ok []

/-- Is there a file at the path? -/
def isFile (tree : FileTree) (directory : Location) (path : Path) : Bool :=
  match find tree directory path with
  | .ok (_, .file _ _) => true
  | .ok (_, .utility _) => true
  | _ => false

/-- Is there a directory at the path? -/
def isDirectory (tree : FileTree) (directory : Location) (path : Path) : Bool :=
  match find tree directory path with
  | .ok (_, .directory) => true
  | _ => false

/-- The names of a path without the empty ones at its end: those in front of the
last, the last, and whether a slash stood behind it. -/
def splitNames (path : Path) : List (List Char) × List Char × Bool :=
  let pieces := (path.chars.splitOn '/').reverse
  let names := pieces.dropWhile List.isEmpty
  ((names.drop 1).reverse, names.headD [], names.length < pieces.length)

/-- The directory that names lead to. -/
def directoryAt (tree : FileTree) (here : Location) (names : List (List Char)) :
    Except Fault Location := do
  let location ← walk tree here names
  match tree.entry? location with
  | none => .error .notFound
  | some .directory => .ok location
  | some _ => .error .notDirectory

/-- Change what a file holds, or make the file; its directory must be there.  A
path with a slash at its end never names a file to write. -/
def updateFile (tree : FileTree) (directory : Location) (path : Path)
    (change : List UInt8 → List UInt8) : Except Fault FileTree := do
  checkPath path
  let (before, last, slash) := splitNames path
  let parent ← directoryAt tree (start directory path) before
  if slash then .error .isDirectory
  else
    let location ← walk tree parent [last]
    match tree.entry? location with
    | none => .ok (tree.put location (.file (change []) false))
    | some (.file contents isExecutable) =>
        .ok (tree.put location (.file (change contents) isExecutable))
    | some .directory => .error .isDirectory
    | some _ => .ok tree

/-- Write a file anew. -/
def writeContents (tree : FileTree) (directory : Location) (path : Path) (contents : List UInt8) :
    Except Fault FileTree :=
  updateFile tree directory path fun _ => contents

/-- Write behind the end of a file. -/
def appendContents (tree : FileTree) (directory : Location) (path : Path) (contents : List UInt8) :
    Except Fault FileTree :=
  updateFile tree directory path (· ++ contents)

/-- Make one directory, in a directory that is there. -/
def makeDirectory (tree : FileTree) (directory : Location) (path : Path) :
    Except Fault FileTree := do
  checkPath path
  let (before, last, _) := splitNames path
  let parent ← directoryAt tree (start directory path) before
  if last.isEmpty || last = ['.'] || last = ['.', '.'] then .error .alreadyThere
  else
    let location ← walk tree parent [last]
    match tree.entry? location with
    | none => .ok (tree.put location .directory)
    | some _ => .error .alreadyThere

/-- Make a pipe with a name, in a directory that is there. -/
def makePipe (tree : FileTree) (directory : Location) (path : Path) : Except Fault FileTree := do
  checkPath path
  let (before, last, slash) := splitNames path
  let parent ← directoryAt tree (start directory path) before
  let location ← walk tree parent [last]
  match tree.entry? location with
  | none => if slash then .error .notFound else .ok (tree.put location .pipe)
  | some _ => .error .alreadyThere

/-- Make a directory, unless one is there. -/
def ensureDirectory (tree : FileTree) (directory : Location) (path : Path) :
    Except Fault FileTree :=
  match makeDirectory tree directory path with
  | .ok tree => .ok tree
  | .error fault => if isDirectory tree directory path then .ok tree else .error fault

/-- Make a directory and, where it has no parent yet, that first; `fuel` bounds the
count of parents.  Those made before a fault stay. -/
def makeWithParents (directory : Location) :
    Nat → FileTree → Path → FileTree × Except Fault Unit
  | 0, tree, _ => (tree, .error .notFound)
  | fuel + 1, tree, path =>
      match ensureDirectory tree directory path, path.parent? with
      | .ok made, _ => (made, .ok ())
      | .error .notFound, some parent =>
          if parent.text.isEmpty then (tree, .error .notFound)
          else
            match makeWithParents directory fuel tree parent with
            | (tree, .error fault) => (tree, .error fault)
            | (tree, .ok ()) =>
                match ensureDirectory tree directory path with
                | .ok tree => (tree, .ok ())
                | .error fault => (tree, .error fault)
      | .error fault, _ => (tree, .error fault)

/-- Make a directory and all that lead to it. -/
def createDirectories (tree : FileTree) (directory : Location) (path : Path) :
    FileTree × Except Fault Unit :=
  if path.text.isEmpty then (tree, .ok ())
  else makeWithParents directory (path.chars.length + 1) tree path

/-- Move a file to another path, over the file that is there. -/
def moveFile (tree : FileTree) (directory : Location) (source target : Path) :
    Except Fault FileTree := do
  let (origin, entry) ← find tree directory source
  let goal ← resolve tree directory target
  match goal.getLast?, tree.entry? goal.dropLast, tree.entry? goal with
  | none, _, _ => .error .isDirectory
  | _, none, _ => .error .notFound
  | _, _, some .directory => .error .isDirectory
  | _, _, _ => .ok ((tree.erase origin).put goal entry)

/-- Remove a file. -/
def eraseFile (tree : FileTree) (directory : Location) (path : Path) : Except Fault FileTree := do
  match ← find tree directory path with
  | (_, .directory) => .error .isDirectory
  | (location, _) => .ok (tree.erase location)

/-- Is the first text in front of the second in the order of code points? -/
def inOrder : List Char → List Char → Bool
  | [], _ => true
  | _ :: _, [] => false
  | first :: rest, second :: others =>
      first < second || (first == second && inOrder rest others)

/-- The names in a directory in order, with their entries. -/
def listDirectory (tree : FileTree) (directory : Location) (path : Path) :
    Except Fault (List (List Char × Entry)) := do
  match ← find tree directory path with
  | (location, .directory) =>
      .ok ((tree.children location).mergeSort fun first second => inOrder first.1 second.1)
  | _ => .error .notDirectory

end FileTree

end BuildExplorer.Host
