/-!
# Lines of a text

A line ends at a line feed.  One carriage return in front of the line feed
belongs to the line end; a carriage return elsewhere belongs to the text.  What
follows the last line feed is a line of its own unless it is empty, and keeps
its carriage return.
-/

namespace BuildExplorer.Text

/-- A terminated line without the carriage return of its line end. -/
def dropReturn (line : List Char) : List Char :=
  if line.getLast? = some '\r' then line.dropLast else line

/-- The lines of the pieces between line feeds: the last piece is not
terminated, and is no line when it is empty. -/
def linesOfPieces (pieces : List (List Char)) : List (List Char) :=
  let unterminated :=
    match pieces.getLast? with
    | none => []
    | some [] => []
    | some (char :: rest) => [char :: rest]
  pieces.dropLast.map dropReturn ++ unterminated

/-- The lines of a text, without their line ends. -/
def lines (text : List Char) : List (List Char) :=
  linesOfPieces (text.splitOn '\n')

/-- The text that consists of the given lines, each ended by a line feed. -/
def unlines (lines : List (List Char)) : List Char :=
  lines.flatMap (· ++ ['\n'])

@[simp]
theorem lines_nil : lines [] = [] :=
  rfl

@[simp]
theorem unlines_nil : unlines [] = [] :=
  rfl

@[simp]
theorem unlines_cons (line : List Char) (rest : List (List Char)) :
    unlines (line :: rest) = line ++ '\n' :: unlines rest := by
  simp [unlines]

end BuildExplorer.Text
