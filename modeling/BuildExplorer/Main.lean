import BuildExplorer.CommandLine.Run
import BuildExplorer.Shell.Launch
import Std.Time.Format

/-!
# The program

The command line on a real file system.  Files are read and written where they
are.  Tools are run by the shell of this library: it is given the files that a
tool can be expected to need, and what the tool changes is written back.
-/

namespace BuildExplorer.Main

open Host (Action Bytes Entry Fault FileTree Location Machine)

/-! ## Files -/

/-- The fault that an error of the system stands for. -/
def faultOf : IO.Error → Fault
  | .noFileOrDirectory _ _ _ => .notFound
  | .alreadyExists _ _ _ => .alreadyThere
  | .inappropriateType _ code _ => if code = 20 then .notDirectory else .isDirectory
  | .invalidArgument _ _ _ => .nameTooLong
  | .unsatisfiedConstraints _ _ => .notEmpty
  | _ => .denied

/-- Do something that can fail. -/
def attempt {Outcome : Type} (act : IO Outcome) : IO (Except Fault Outcome) := do
  match ← act.toBaseIO with
  | .ok outcome => return .ok outcome
  | .error error => return .error (faultOf error)

/-- Contents of a file as an array. -/
def arrayOf (contents : Bytes) : ByteArray :=
  ⟨contents.toArray⟩

/-- Is there a file at a path? -/
def isFile (path : Path) : IO Bool := do
  match ← (do (← IO.FS.realPath path.text).metadata : IO IO.FS.Metadata).toBaseIO with
  | .ok metadata => return metadata.type == .file
  | .error _ => return false

/-- The names in a directory, and for each whether it is a file. -/
def entries (path : Path) : IO (List (String × Bool)) := do
  (← (← IO.FS.realPath path.text).readDir).toList.mapM fun entry => do
    return (entry.fileName, ← isFile (path.join entry.fileName))

/-- A name that nobody else uses. -/
def freshName (beginning : String) : IO String := do
  let bytes ← IO.getRandomBytes 6
  let letters := bytes.toList.map fun byte => Char.ofNat ('a'.toNat + byte.toNat % 26)
  return beginning ++ String.ofList letters

/-- Make a directory of a fresh name. -/
def makeScratch (scratch : IO.Ref (Option Path)) : IO Path := do
  let path := Path.join ⟨"/tmp"⟩ (← freshName "cohcc")
  IO.FS.createDir path.text
  scratch.set (some path)
  return path

/-- Make an empty file of a fresh name. -/
def makeTemporary (directory : Path) : IO Path := do
  let path := directory.join (← freshName ".tmp")
  IO.FS.writeBinFile path.text .empty
  return path

/-- Write behind the end of a file. -/
def appendContents (path : Path) (contents : Bytes) : IO Unit := do
  let handle ← IO.FS.Handle.mk path.text .append
  handle.write (arrayOf contents)

/-- The present time of day in UTC. -/
def presentTime : IO String := do
  let now := Std.Time.DateTime.ofTimestamp (← Std.Time.Timestamp.now) .UTC
  return now.format "uuuu-MM-dd'T'HH:mm:ss.SSSSSSSSS'+00:00'"

/-! ## Tools -/

/-- Load a directory, with the directories in it down to some depth. -/
def load (tree : FileTree) (path : Path) : Nat → IO FileTree
  | 0 => return tree
  | depth + 1 => do
      let mut tree := tree
      let location := path.components
      for count in List.range (location.length + 1) do
        if (tree.entry? (location.take count)).isNone then
          tree := tree.put (location.take count) .directory
      match ← attempt (entries path) with
      | .error _ => return tree
      | .ok names =>
          for (name, isFile) in names do
            let inner := path.join name
            if isFile then
              if let .ok contents ← attempt (IO.FS.readBinFile inner.text) then
                tree := tree.put inner.components (.file contents.toList true)
            else tree ← load tree inner depth
          return tree

/-- Write back what differs between two trees. -/
def save (before after : FileTree) : IO Unit := do
  for (location, entry) in after.entries.reverse do
    let path := String.ofList (location.flatMap ('/' :: ·))
    if before.entry? location != some entry then
      match entry with
      | .directory => IO.FS.createDirAll path
      | .file contents _ => IO.FS.writeBinFile path (arrayOf contents)
      | _ => pure ()
  for (location, entry) in before.entries do
    if (after.entry? location).isNone && entry != .directory then
      IO.FS.removeFile (String.ofList (location.flatMap ('/' :: ·)))

/-- Run a tool on the files of the scratch directory, those beside the tool, and
those of the present directory. -/
def execute (scratch : IO.Ref (Option Path)) (call : Tool.Call) : IO Tool.Report := do
  let present : Path := ⟨(← IO.currentDir).toString⟩
  let mut tree := Shell.systemTree
  if let some path ← scratch.get then tree ← load tree path 32
  if let some path := call.command.parent? then
    if !path.text.isEmpty then tree ← load tree path 1
  tree ← load tree present 1
  let machine : Machine Unit := { tree, directory := present.components, tools := () }
  let (report, after) := Shell.launch call machine
  let _ ← attempt (save tree after.tree)
  return report

/-! ## Programs -/

/-- Answer an action. -/
def answer (scratch : IO.Ref (Option Path)) : (action : Action) → IO action.Reply
  | .readContents path => attempt do return (← IO.FS.readBinFile path.text).toList
  | .writeContents path contents => attempt (IO.FS.writeBinFile path.text (arrayOf contents))
  | .appendContents path contents => attempt (appendContents path contents)
  | .createDirectories path =>
      attempt (if path.text.isEmpty then return () else IO.FS.createDirAll path.text)
  | .isFile path => isFile path
  | .listDirectory path => attempt (entries path)
  | .makeScratch => attempt (makeScratch scratch)
  | .removeScratch path => do
      let _ ← attempt (IO.FS.removeDirAll path.text)
      return ()
  | .makeTemporary directory => attempt (makeTemporary directory)
  | .moveFile source target => attempt (IO.FS.rename source.text target.text)
  | .eraseFile path => attempt (IO.FS.removeFile path.text)
  | .execute call => execute scratch call
  | .readInput => attempt do return (← (← IO.getStdin).readBinToEnd).toList
  | .timeStamp => presentTime

/-- Run a program. -/
def perform {Outcome : Type} (scratch : IO.Ref (Option Path)) : Program Outcome → IO Outcome
  | .done outcome => return outcome
  | .ask action next => do
      let reply ← answer scratch action
      perform scratch (next reply)

end BuildExplorer.Main

open BuildExplorer in
def main (arguments : List String) : IO UInt32 := do
  let outcome ← Main.perform (← IO.mkRef none) (CommandLine.run arguments)
  (← IO.getStdout).putStr outcome.stdout
  (← IO.getStderr).putStr outcome.stderr
  return outcome.status.toUInt32
