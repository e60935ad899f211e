import BuildExplorer.Config

/-!
# Families of compilers

Compilers of one family take the same options and leave the same kinds of
files.
-/

namespace BuildExplorer

/-- A family of compilers. -/
inductive Family where
  /-- Compilers that take options as GCC does. -/
  | standard
  /-- The cc65 compilers for the 6502. -/
  | cc65
  /-- Clang, with bundles for devices, remarks and traces. -/
  | clang
  /-- The Rust compiler. -/
  | rustc
  deriving DecidableEq, Repr, Inhabited

namespace Family

/-- The family that a key of a configuration stands for. -/
def ofKey? (key : String) : Option Family :=
  if key = "" ∨ key = "default" ∨ key = "gcc" then some .standard
  else if key = "cc65" then some .cc65
  else if key = "clang" then some .clang
  else if key = "rustc" ∨ key = "rust" then some .rustc
  else none

/-- The keys that are offered. -/
def knownKeys : List String :=
  ["default", "gcc", "cc65", "clang", "rustc"]

/-- The name of the family in records. -/
def key : Family → String
  | .standard => "default"
  | .cc65 => "cc65"
  | .clang => "clang"
  | .rustc => "rustc"

@[simp]
theorem ofKey?_key (family : Family) : ofKey? family.key = some family := by
  cases family <;> simp [ofKey?, key]

/-- What happens to the steps behind a failed one, unless a compiler says
otherwise. -/
def failurePolicy (_family : Family) : FailurePolicy :=
  .proceed

/-- Can remarks on optimizations be asked for? -/
def supportsRemarks : Family → Bool
  | .clang => true
  | _ => false

/-- Can the source be shown with its macros expanded? -/
def supportsMacroExpansion : Family → Bool
  | .rustc => true
  | _ => false

end Family

end BuildExplorer
