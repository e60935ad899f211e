import BuildExplorer.Path
import BuildExplorer.Text.Quoted

/-!
# Records of an audit log

Each run of a tool leaves a record of one line.  The arguments are quoted, so
that a record cannot be forged by an argument.
-/

namespace BuildExplorer.Audit

/-- How much a record matters. -/
inductive Level where
  | error
  | warn
  | info
  | debug
  | trace
  deriving DecidableEq, Repr

/-- The word for a level. -/
def Level.word : Level → String
  | .error => "ERROR"
  | .warn => "WARN"
  | .info => "INFO"
  | .debug => "DEBUG"
  | .trace => "TRACE"

/-- All levels. -/
def Level.all : List Level :=
  [.error, .warn, .info, .debug, .trace]

/-- Read the word for a level, in letters of either case. -/
def Level.ofWord? (word : String) : Option Level :=
  all.find? fun level => level.word.toList == word.toList.map Char.toUpper

/-- A record. -/
structure Record where
  level : Level
  /-- The family of the tool. -/
  toolchain : String
  command : Path
  args : List String
  message : String
  deriving DecidableEq, Repr

/-- The text of a record. -/
def Record.text (record : Record) : String :=
  "level=" ++ record.level.word ++ " toolchain=" ++ record.toolchain ++
    " command=" ++ record.command.text ++
    " args=" ++ String.ofList (Text.Quoted.encodeList (record.args.map String.toList)) ++
    " msg=" ++ record.message

end BuildExplorer.Audit
