import BuildExplorer.Shell.Utility.Input

/-!
# Utilities that change and list files
-/

namespace BuildExplorer.Shell.Utility

open Host (FileTree Entry Fault Location)

/-! ## What they have in common -/

/-- Run something on each of the operands, of which there must be one. -/
def forOperands (known : Known) (arguments : List (List Char))
    (act : Given → List Char → Run Bool) : Run Unit :=
  withOptions known arguments 1 fun given => do
    if given.operands.isEmpty && !given.has 'f' then misuse 1 "missing operand"
    else forNames given.operands (act given)

/-- Tell what cannot be done with a name. -/
def cannot (what : String) (name : List Char) (fault : Fault) : Run Bool := do
  complain ("cannot " ++ what ++ " " ++ quote name ++ ": " ++ faultText fault)
  return false

/-- Change the files, or tell that it cannot be done. -/
def attempt (what : String) (name : List Char)
    (change : FileTree → Location → Except Fault FileTree) : Run Bool := do
  match ← Run.changeTree change with
  | .ok () => return true
  | .error fault => cannot what name fault

/-- Change the files in any case, where some may go from one location to another. -/
def changeFiles (change : FileTree → FileTree) (moves : List (Location × Location) := []) :
    Run Unit := do
  let _ ← Run.change { apply := fun tree => .ok (change tree), moves }

/-! ## Making and removing -/

/-- Make directories; with `-p` also those above them. -/
def mkdir (arguments : List (List Char)) : Run Unit :=
  forOperands { plain := "p" } arguments fun given name =>
    attempt "create directory" name fun tree directory =>
      if given.has 'p' then
        let (tree, outcome) := FileTree.createDirectories tree directory (pathOf name)
        outcome.map fun _ => tree
      else FileTree.makeDirectory tree directory (pathOf name)

/-- Make pipes with names. -/
def mkfifo (arguments : List (List Char)) : Run Unit :=
  forOperands {} arguments fun _ name =>
    attempt "create fifo" name fun tree directory =>
      FileTree.makePipe tree directory (pathOf name)

/-- Make files that are missing. -/
def touch (arguments : List (List Char)) : Run Unit :=
  forOperands {} arguments fun _ name =>
    attempt "touch" name fun tree directory =>
      FileTree.appendContents tree directory (pathOf name) []

/-- Let files be run, or not: by a sign and letters, or by digits of which the first one
has an odd value for what can be run. -/
def chmod (arguments : List (List Char)) : Run Unit := do
  let mode := arguments.headD []
  let digit := (mode.find? Char.isDigit).getD '0'
  forNames (arguments.drop 1) fun name => do
    match ← entryOf name with
    | .error fault => cannot "access" name fault
    | .ok (location, .file contents isExecutable) =>
        let isExecutable :=
          if mode.contains 'x' then mode.contains '+'
          else if mode.all Char.isDigit then digit.toNat % 2 = 1
          else isExecutable
        changeFiles fun tree => tree.put location (.file contents isExecutable)
        return true
    | .ok _ => return true

/-- Remove files; with `-r` also directories with all that they hold. -/
def rm (arguments : List (List Char)) : Run Unit :=
  forOperands { plain := "frR" } arguments fun given name => do
    match ← entryOf name with
    | .error fault =>
        if given.has 'f' && fault = .notFound then return true else cannot "remove" name fault
    | .ok (location, entry) =>
        if entry = .directory && !given.has 'r' && !given.has 'R' then
          cannot "remove" name .isDirectory
        else
          changeFiles fun tree => tree.eraseBelow location
          return true

/-! ## Copying and moving -/

/-- Put a file at a place where there is none, or another file; what is moved also leaves
its own place, and may be a directory. -/
def transferTo (moves : Bool) (target source : List Char) : Run Bool := do
  let state ← Run.view
  match ← entryOf source, ← entryOf target,
      FileTree.resolve state.tree state.process.directory (pathOf target) with
  | .error fault, _, _ => cannot "stat" source fault
  | _, .ok (_, .directory), _ => cannot "overwrite" target .isDirectory
  | _, _, .error fault => cannot "create" target fault
  | .ok (origin, entry), _, .ok goal =>
      if origin.isPrefixOf goal then cannot "overwrite" target .alreadyThere
      else if !moves && entry = .directory then cannot "copy" source .isDirectory
      else if state.tree.entry? goal.dropLast != some .directory then
        cannot "create" target .notFound
      else if moves then
        changeFiles (fun tree =>
          (tree.below origin).foldl (fun tree (names, entry) => tree.put (goal ++ names) entry)
            ((tree.eraseBelow origin).put goal entry)) [(origin, goal)]
        return true
      else
        changeFiles fun tree => tree.put goal entry
        return true

/-- Put files at a place, or into a directory. -/
def transfer (moves : Bool) (arguments : List (List Char)) : Run Unit :=
  withOptions { plain := "f" } arguments 1 fun given => do
    match given.operands.getLast?, given.operands.dropLast with
    | some target, first :: others =>
        match ← entryOf target with
        | .ok (_, .directory) =>
            forNames (first :: others) fun source =>
              transferTo moves (target ++ '/' :: (source.splitOn '/').getLastD []) source
        | _ =>
            if others.isEmpty then forNames [first] (transferTo moves target)
            else fail 1 ("target " ++ quote target ++ ": Not a directory")
    | _, _ => misuse 1 "missing file operand"

/-- Copy files. -/
def cp (arguments : List (List Char)) : Run Unit :=
  transfer false arguments

/-- Move files. -/
def mv (arguments : List (List Char)) : Run Unit :=
  transfer true arguments

/-! ## Listing -/

/-- The names in a directory that are listed. -/
def shownNames (given : Given) (tree : FileTree) (location : Location) : List (List Char) :=
  let names := (tree.children location).map fun (name, _) => spelled name
  let shown :=
    if given.has 'a' then ['.'] :: ['.', '.'] :: names
    else if given.has 'A' then names
    else names.filter (·.head? != some '.')
  shown.mergeSort FileTree.inOrder

/-- List files, and then what directories hold. -/
def ls (arguments : List (List Char)) : Run Unit :=
  withOptions { plain := "1aAd" } arguments 2 fun given => do
    let operands := if given.operands.isEmpty then [['.']] else given.operands
    let mut files := []
    let mut directories := []
    let mut status := 0
    for name in operands.mergeSort FileTree.inOrder do
      match ← entryOf name with
      | .error fault =>
          let _ ← cannot "access" name fault
          status := 2
      | .ok (location, entry) =>
          if entry = .directory && !given.has 'd' then
            directories := (name, location) :: directories
          else files := name :: files
    let tree ← Run.files
    let listings := directories.reverse.map fun (name, location) =>
      (if operands.length > 1 then name ++ ":\n".toList else []) ++
        Text.unlines (shownNames given tree location)
    let front := if files.isEmpty then [] else [Text.unlines files.reverse]
    Run.say (['\n'].intercalate (front ++ listings))
    Run.setStatus status

end BuildExplorer.Shell.Utility
