import BuildExplorer.Listing.Statement

/-!
# References to labels

Which names the lines of a listing mention as operands.  A label in front of a
statement and the statement's first name (its mnemonic or directive) are no
references, and neither is what stands in a comment.
-/

namespace BuildExplorer.Listing

/-- The part of a statement in front of a comment. -/
def withoutComment (text : List Char) : List Char :=
  text.takeWhile fun char => char != ';' && char != '#'

/-- The maximal runs of name characters, in order. -/
def names (text : List Char) : List (List Char) :=
  (text.splitOnP (!isNameChar ·)).filter (!·.isEmpty)

/-- The statement on a line, behind the label that it defines. -/
def statement (line : List Char) : List Char :=
  match labelDefinition? line with
  | some (_, rest) => rest
  | none => line

/-- The names that a line refers to. -/
def references (line : List Char) : List (List Char) :=
  (names (withoutComment (statement line))).drop 1

/-- The names that some line refers to. -/
def allReferences (lines : List (List Char)) : List (List Char) :=
  lines.flatMap references

end BuildExplorer.Listing
