import BuildExplorer.Filters
import BuildExplorer.Listing.LineTable
import BuildExplorer.Listing.Reference
import BuildExplorer.Text.Lines

/-!
# Reading a listing

A listing is read in three steps.  Each line is given the position that the
line table holds at it; the filters leave out lines; and each run of blank
lines between two remaining lines becomes one separator.
-/

namespace BuildExplorer.Listing

open Text

/-! ## Positions -/

/-- The lines in reverse order, each with the position that holds at it. -/
def positionsFrom (table : LineTable) (done : List (List Char × Option Position)) :
    List (List Char) → List (List Char × Option Position)
  | [] => done
  | line :: rest =>
      let table := table.observe line
      positionsFrom table ((line, table.position) :: done) rest

/-- Each line with the position that the last record up to it has set. -/
def withPositions (lines : List (List Char)) : List (List Char × Option Position) :=
  (positionsFrom .empty [] lines).reverse

theorem positionsFrom_eq_append (table : LineTable)
    (done : List (List Char × Option Position)) (lines : List (List Char)) :
    positionsFrom table done lines = positionsFrom table [] lines ++ done := by
  induction lines generalizing table done with
  | nil => rfl
  | cons line rest ih =>
      simp only [positionsFrom]
      rw [ih, ih _ [_]]
      simp

/-! ## Filters -/

/-- A line whose blanks are squashed: two spaces in front if it is indented, and
one space between words. -/
def squash (line : List Char) : List Char :=
  let body := [' '].intercalate (words line)
  match line with
  | char :: _ => if isBlank char then ' ' :: ' ' :: body else body
  | [] => body

/-- Does a filter leave out a line that is not blank, when `referenced` are the
names in use? -/
def dropped (filters : Filters) (referenced : List (List Char)) (line : List Char) : Bool :=
  (filters.labels &&
      match labelDefinition? line with
      | some (name, _) => !referenced.contains name
      | none => false) ||
    (filters.commentOnly && isCommentOnly line) ||
    (filters.directives && !definesLabel line && isDirective line)

/-- How a line that is kept is shown.  A line with a label has no position. -/
def shown (filters : Filters) (line : List Char) (position : Option Position) : Line where
  text := String.ofList (if filters.trim then squash line else line)
  source := if definesLabel line then none else position

/-- What becomes of a line: nothing if it is left out, otherwise a line to show
or, for a blank line, a gap. -/
def entry (filters : Filters) (referenced : List (List Char))
    (positioned : List Char × Option Position) : Option (Option Line) :=
  let (line, position) := positioned
  if allBlank line then some none
  else if dropped filters referenced line then none
  else some (some (shown filters line position))

/-! ## Separators -/

/-- The lines in reverse order, with a separator where a gap lies between two
of them; `gap` tells whether one was just passed. -/
def separateFrom (gap : Bool) (done : List Line) : List (Option Line) → List Line
  | [] => done
  | none :: rest => separateFrom true done rest
  | some line :: rest =>
      let before := if gap && !done.isEmpty then Line.separator :: done else done
      separateFrom false (line :: before) rest

/-- The lines, with one separator for each run of gaps between two of them. -/
def separate (entries : List (Option Line)) : List Line :=
  (separateFrom false [] entries).reverse

/-! ## The whole -/

/-- The names in use, which only the filter for labels asks for. -/
def referencedNames (filters : Filters) (lines : List (List Char)) : List (List Char) :=
  if filters.labels then allReferences lines else []

/-- Read a listing according to the filters. -/
def ofText (text : String) (filters : Filters) : List Line :=
  let lines := Text.lines text.toList
  let referenced := referencedNames filters lines
  separate ((withPositions lines).filterMap (entry filters referenced))

end BuildExplorer.Listing
