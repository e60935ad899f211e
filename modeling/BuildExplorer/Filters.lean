/-!
# Output filters

What the caller of a build asks for: which kind of output is made, and which
lines of a listing are worth showing.
-/

namespace BuildExplorer

/-- How the output of a build is shaped. -/
structure Filters where
  /-- Link a program instead of stopping at a listing. -/
  binary : Bool := false
  /-- Leave out definitions of labels that nothing refers to. -/
  labels : Bool := false
  /-- Leave out assembler directives. -/
  directives : Bool := false
  /-- Leave out lines that hold only a comment. -/
  commentOnly : Bool := false
  /-- Squash blanks inside lines. -/
  trim : Bool := false
  /-- Prefer Intel syntax where the tools support it. -/
  intel : Bool := false
  deriving DecidableEq, Repr, Inhabited

end BuildExplorer
