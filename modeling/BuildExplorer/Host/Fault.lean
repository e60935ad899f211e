/-!
# Faults of the host

Why an operation on files, or the start of a tool, did not work.
-/

namespace BuildExplorer.Host

/-- A reason for an operation to fail. -/
inductive Fault where
  | notFound
  /-- A descriptor that leads nowhere. -/
  | badDescriptor
  | badFormat
  | denied
  | alreadyThere
  | notDirectory
  | isDirectory
  | nameTooLong
  | notEmpty
  /-- A place where nothing more can be kept. -/
  | noSpace
  /-- A pipe that nobody reads. -/
  | brokenPipe
  /-- A file that leads to another one, and that to the next, and so on. -/
  | tooManyLinks
  /-- A path with a null character. -/
  | nullInPath
  /-- An argument, a variable or a directory of a tool with a null character. -/
  | nullInCall
  /-- A file that holds no text. -/
  | notText
  deriving DecidableEq, Repr

/-- The wording of a fault, with its number where the system has one. -/
def Fault.message : Fault → String
  | .notFound => "No such file or directory (os error 2)"
  | .badFormat => "Exec format error (os error 8)"
  | .badDescriptor => "Bad file descriptor (os error 9)"
  | .denied => "Permission denied (os error 13)"
  | .alreadyThere => "File exists (os error 17)"
  | .notDirectory => "Not a directory (os error 20)"
  | .isDirectory => "Is a directory (os error 21)"
  | .noSpace => "No space left on device (os error 28)"
  | .brokenPipe => "Broken pipe (os error 32)"
  | .nameTooLong => "File name too long (os error 36)"
  | .notEmpty => "Directory not empty (os error 39)"
  | .tooManyLinks => "Too many levels of symbolic links (os error 40)"
  | .nullInPath => "file name contained an unexpected NUL byte"
  | .nullInCall => "nul byte found in provided data"
  | .notText => "stream did not contain valid UTF-8"

end BuildExplorer.Host
