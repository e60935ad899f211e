import BuildExplorer.Host.Program
import BuildExplorer.Json.Parser
import BuildExplorer.Json.Printer
import BuildExplorer.Result.Coding
import BuildExplorer.Text.Utf8

/-!
# The cache

Results are kept in a directory, one file for each key.  A result is written to
a file of its own first and then moved into place, so that who reads an entry
finds a whole one or none.
-/

namespace BuildExplorer

/-- A cache in a directory. -/
structure Cache where
  directory : Path
  deriving DecidableEq, Repr

namespace Cache

/-- Why a result is not stored. -/
inductive StoreError where
  | noTemporary (fault : Host.Fault)
  /-- The result cannot be written as JSON. -/
  | notWritable (error : Yaml.KeyError)
  | notWritten (fault : Host.Fault)
  | notStored (key : String) (fault : Host.Fault)
  deriving DecidableEq, Repr

/-- The wording of an error. -/
def StoreError.message : StoreError → String
  | .noTemporary fault => fault.message
  | .notWritable error => error.message
  | .notWritten fault => fault.message
  | .notStored key _ => "store cache entry " ++ key

/-- The cache in a directory, which is made if it is missing. -/
def openIn (directory : Path) : Program (Except Host.Fault Cache) := do
  match ← Program.createDirectories directory with
  | .error fault => return .error fault
  | .ok () => return .ok ⟨directory⟩

/-- The path of an entry. -/
def entry (cache : Cache) (key : String) : Path :=
  cache.directory.join (key ++ ".json")

/-- The contents of the entry for a result. -/
def encode (result : Result) : Except Yaml.KeyError Host.Bytes :=
  result.toJson.map fun json => Text.Utf8.encode json.compact

/-- Read the contents of an entry. -/
def decode? (contents : Host.Bytes) : Option Result := do
  let text ← Text.Utf8.decode? contents
  let json ← Json.parse text
  Result.ofJson? json

/-- The result under a key.  An entry that cannot be read counts as missing. -/
def get (cache : Cache) (key : String) : Program (Option Result) := do
  match ← Program.readContents (cache.entry key) with
  | .error _ => return none
  | .ok contents => return decode? contents

/-- Move a whole file into the place of an entry, or remove it. -/
def place (cache : Cache) (key : String) (temporary : Path) :
    Program (Except StoreError Unit) := do
  match ← Program.moveFile temporary (cache.entry key) with
  | .ok () => return .ok ()
  | .error fault =>
      let _ ← Program.eraseFile temporary
      return .error (.notStored key fault)

/-- Store a result under a key, in place of the one that was there. -/
def put (cache : Cache) (key : String) (result : Result) : Program (Except StoreError Unit) := do
  match ← Program.makeTemporary cache.directory with
  | .error fault => return .error (.noTemporary fault)
  | .ok temporary =>
      match encode result with
      | .error error =>
          let _ ← Program.eraseFile temporary
          return .error (.notWritable error)
      | .ok contents =>
          match ← Program.writeContents temporary contents with
          | .error fault =>
              let _ ← Program.eraseFile temporary
              return .error (.notWritten fault)
          | .ok () => cache.place key temporary

end Cache

end BuildExplorer
