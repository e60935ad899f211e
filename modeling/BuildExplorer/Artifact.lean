import BuildExplorer.Host.Program
import BuildExplorer.Json.Decode
import BuildExplorer.Text.Base64
import BuildExplorer.Text.Utf8

/-!
# Artifacts

A build can leave files that are worth showing beside its listing.  An artifact
holds what such a file held when it was found; a file that cannot be read is
passed over.
-/

namespace BuildExplorer

open Json (withDefault required)

/-- What kind of file an artifact is. -/
inductive Artifact.Kind where
  /-- A cartridge image for the Nintendo Entertainment System. -/
  | nesImage
  /-- A program for the Commodore 64. -/
  | c64Program
  /-- A cartridge image for the Sega Master System. -/
  | masterSystemImage
  /-- A cartridge image for the Game Boy. -/
  | gameBoyImage
  /-- A trace of where the compiler spent its time. -/
  | timeTrace
  deriving DecidableEq, Repr

/-- A file that a build left. -/
structure Artifact where
  kind : Artifact.Kind
  path : Path
  /-- The name to be shown, if it is not that of the file. -/
  displayName : Option String
  /-- What the file held, in letters. -/
  content : String
  deriving DecidableEq, Repr

namespace Artifact

/-- The word for a kind. -/
def Kind.word : Kind → String
  | .nesImage => "nesrom"
  | .c64Program => "c64prg"
  | .masterSystemImage => "smsrom"
  | .gameBoyImage => "gbrom"
  | .timeTrace => "timetrace"

def Kind.all : List Kind :=
  [.nesImage, .c64Program, .masterSystemImage, .gameBoyImage, .timeTrace]

def Kind.ofWord? (word : String) : Option Kind :=
  all.find? (·.word == word)

def Kind.ofJson? (json : Json) : Option Kind :=
  (json.asWord Json.strict).bind Kind.ofWord?

/-- The files that count as artifacts of every build. -/
def knownNames : List (String × Kind) :=
  [("example.nes", .nesImage), ("example.sms", .masterSystemImage), ("example.gb", .gameBoyImage)]

/-- The artifact of a file that holds some bytes. -/
def ofContents (kind : Kind) (path : Path) (displayName : Option String)
    (contents : Host.Bytes) : Artifact where
  kind := kind
  path := path
  displayName := displayName
  content := String.ofList (Text.Base64.encode contents)

/-- The artifact of a file, if the file can be read. -/
def ofFile? (kind : Kind) (path : Path) (displayName : Option String) :
    Program (Option Artifact) := do
  match ← Program.readContents path with
  | .ok contents => return some (ofContents kind path displayName contents)
  | .error _ => return none

/-- The artifact of a path, if there is a file that can be read. -/
def ofExisting? (kind : Kind) (path : Path) (displayName : Option String) :
    Program (Option Artifact) := do
  if ← Program.isFile path then ofFile? kind path displayName else return none

/-- The artifacts in a directory that are known by their names. -/
def probe (directory : Path) : List (String × Kind) → Program (List Artifact)
  | [] => return []
  | (name, kind) :: rest => do
      let found ← ofExisting? kind (directory.join name) none
      let others ← probe directory rest
      return found.toList ++ others

/-- The name to be shown. -/
def name (artifact : Artifact) : String :=
  match artifact.displayName with
  | some name => name
  | none => String.ofList (artifact.path.fileName?.getD [])

/-- What the file held. -/
def bytes? (artifact : Artifact) : Option Host.Bytes :=
  Text.Base64.decode? artifact.content.toList

def toJson (artifact : Artifact) : Json :=
  .object ([("type", .string artifact.kind.word), ("path", .string artifact.path.text)] ++
    Json.optional "displayName" .string artifact.displayName ++
    [("content", .string artifact.content)])

def ofJson? (json : Json) : Option Artifact := do
  match ← json.fields ["type", "path", "displayName", "content"] with
  | [kind, path, displayName, content] =>
      let kind ← required Kind.ofJson? kind
      let path ← required Json.asString path
      let displayName ← withDefault none (Json.asOption Json.asString) displayName
      let content ← required Json.asString content
      return { kind, path := ⟨path⟩, displayName, content }
  | _ => none

end Artifact

end BuildExplorer
