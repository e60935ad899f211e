/-!
# Diagnostic lines

A line of a tool's output, with what it says about a place in a source file
when it is a diagnostic.
-/

namespace BuildExplorer.Diagnostic

/-- How grave a diagnostic is. -/
inductive Severity where
  | info
  | warning
  | error
  deriving DecidableEq, Repr

/-- A place and what is said about it. -/
structure Tag where
  line : UInt32
  column : Option UInt32
  /-- The file, or `none` for the request's own source. -/
  file : Option String
  text : String
  severity : Severity
  deriving DecidableEq, Repr

/-- A line of output. -/
structure Line where
  text : String
  tag : Option Tag := none
  deriving DecidableEq, Repr

end BuildExplorer.Diagnostic
