/-!
# Assembly listings

A listing is a list of lines, each of which may know the source line that it
was made from.
-/

namespace BuildExplorer.Listing

/-- A place in a source file. -/
structure Position where
  file : Option String
  line : UInt32
  column : Option UInt32
  deriving DecidableEq, Repr

/-- A line of a listing. -/
structure Line where
  text : String
  source : Option Position := none
  deriving DecidableEq, Repr

/-- The line between two groups of lines. -/
def Line.separator : Line :=
  ⟨"", none⟩

end BuildExplorer.Listing
