import Mathlib.Data.List.Basic
import Mathlib.Data.List.Induction
import BuildExplorer.Text.Lines

/-!
# Lines of texts that are put together

A text is cut into pieces at its line feeds, and the pieces are its lines, up to the
carriage returns of their ends and an empty piece at the end.  Where a text is put
together of pieces, or of two texts the first of which is ended, the lines are known
from its parts.  Two texts that begin alike have the same lines up to the one in which
they part.
-/

namespace BuildExplorer.Text

/-! ## How lines begin -/

theorem isPrefixOf?_eq_none_iff {start line : List Char} :
    start.isPrefixOf? line = none ↔ ¬start <+: line := by
  rw [Option.eq_none_iff_forall_ne_some, List.IsPrefix, not_exists]
  exact forall_congr' fun rest => not_congr List.isPrefixOf?_eq_some_iff_append_eq

/-! ## Line ends -/

theorem dropReturn_eq_self {line : List Char} (noReturn : line.getLast? ≠ some '\r') :
    dropReturn line = line :=
  if_neg noReturn

/-- A line without its return begins as the line does. -/
theorem dropReturn_prefix (line : List Char) : dropReturn line <+: line := by
  unfold dropReturn
  split
  · exact List.dropLast_prefix line
  · exact List.prefix_refl line

/-- A line without its return begins as the line does, unless what it begins with ends in
the return. -/
theorem prefix_dropReturn {start line : List Char} (isStart : start <+: line)
    (noReturn : start.getLast? ≠ some '\r') : start <+: dropReturn line := by
  obtain ⟨rest, rfl⟩ := isStart
  unfold dropReturn
  split
  · rename_i isReturn
    have nonempty : rest ≠ [] := by
      rintro rfl
      rw [List.append_nil] at isReturn
      exact noReturn isReturn
    rw [List.dropLast_append_of_ne_nil nonempty]
    exact List.prefix_append _ _
  · exact List.prefix_append _ _

@[simp]
theorem linesOfPieces_nil : linesOfPieces [] = [] :=
  rfl

/-- The last piece is a line if there is something on it. -/
theorem linesOfPieces_singleton (piece : List Char) :
    linesOfPieces [piece] = if piece = [] then [] else [piece] := by
  cases piece <;> rfl

/-- A piece in front of others is a line. -/
theorem linesOfPieces_cons (piece : List Char) {pieces : List (List Char)}
    (others : pieces ≠ []) :
    linesOfPieces (piece :: pieces) = dropReturn piece :: linesOfPieces pieces := by
  obtain ⟨second, pieces, rfl⟩ := List.exists_cons_of_ne_nil others
  rfl

/-- Pieces in front of others are lines, each without its return. -/
theorem linesOfPieces_append_of_ne_nil (front : List (List Char)) {back : List (List Char)}
    (others : back ≠ []) :
    linesOfPieces (front ++ back) = front.map dropReturn ++ linesOfPieces back := by
  induction front with
  | nil => rfl
  | cons piece front inductionHypothesis =>
      rw [List.cons_append, linesOfPieces_cons piece (List.append_ne_nil_of_right_ne_nil _ others),
        inductionHypothesis, List.map_cons, List.cons_append]

/-- Pieces without a return are lines as they stand, if the last of them is not empty. -/
theorem linesOfPieces_append {front : List (List Char)}
    (noReturn : ∀ piece ∈ front, piece.getLast? ≠ some '\r')
    (ends : ∀ piece ∈ front.getLast?, piece ≠ []) (back : List (List Char)) :
    linesOfPieces (front ++ back) = front ++ linesOfPieces back := by
  have kept {pieces : List (List Char)} (among : pieces ⊆ front) :
      pieces.map dropReturn = pieces := by
    rw [List.map_congr_left fun piece member => dropReturn_eq_self (noReturn piece (among member)),
      List.map_id']
  by_cases others : back = []
  · subst others
    rcases List.eq_nil_or_concat front with rfl | ⟨earlier, last, rfl⟩
    · rfl
    · have nonempty : last ≠ [] := ends last (by simp)
      rw [List.append_nil, linesOfPieces_nil, List.append_nil, List.concat_eq_append,
        linesOfPieces_append_of_ne_nil _ (List.cons_ne_nil _ _), linesOfPieces_singleton,
        if_neg nonempty, kept (by simp)]
  · rw [linesOfPieces_append_of_ne_nil front others, kept (List.Subset.refl front)]

/-- The lines of a text that is given by its pieces between line feeds. -/
theorem lines_intercalate {pieces : List (List Char)} (noFeed : ∀ piece ∈ pieces, '\n' ∉ piece) :
    lines (['\n'].intercalate pieces) = linesOfPieces pieces := by
  by_cases empty : pieces = []
  · subst empty
    rfl
  · rw [lines, List.splitOn_intercalate '\n' noFeed empty]

/-! ## Texts one behind the other -/

/-- A separator parts the pieces in front of it from those behind it. -/
theorem splitOn_append_cons (separator : Char) (front back : List Char) :
    (front ++ separator :: back).splitOn separator =
      front.splitOn separator ++ back.splitOn separator := by
  simp only [List.splitOn]
  exact List.splitOnP_append_cons _ _ (beq_self_eq_true separator)

/-- The lines in front of a line feed are its pieces, whatever is behind. -/
theorem lines_append_cons (front back : List Char) :
    lines (front ++ '\n' :: back) = (front.splitOn '\n').map dropReturn ++ lines back := by
  rw [lines, splitOn_append_cons, linesOfPieces_append_of_ne_nil _ (List.splitOn_ne_nil _ _),
    ← lines]

/-- Behind a text whose last line is ended, a new line begins. -/
theorem lines_append_of_ended {front : List Char}
    (ended : front = [] ∨ front.getLast? = some '\n') (back : List Char) :
    lines (front ++ back) = lines front ++ lines back := by
  rcases ended with rfl | isFeed
  · rfl
  · obtain ⟨front, rfl⟩ := List.getLast?_eq_some_iff.mp isFeed
    rw [List.append_assoc, List.singleton_append, lines_append_cons, lines_append_cons, lines_nil,
      List.append_nil]

/-- What a text begins with stands at the front of its first line, if no line ends in it. -/
theorem exists_lines_eq_cons {start text : List Char} (isStart : start <+: text)
    (nonempty : start ≠ []) (noFeed : '\n' ∉ start) (noReturn : start.getLast? ≠ some '\r') :
    ∃ first others, lines text = first :: others ∧ start <+: first := by
  obtain ⟨rest, rfl⟩ := isStart
  by_cases hasFeed : '\n' ∈ rest
  · obtain ⟨front, back, rfl, frontNoFeed⟩ := List.eq_append_cons_of_mem hasFeed
    have oneLine : '\n' ∉ start ++ front := by simp [noFeed, frontNoFeed]
    refine ⟨dropReturn (start ++ front), lines back, ?_,
      prefix_dropReturn (List.prefix_append _ _) noReturn⟩
    rw [← List.append_assoc, lines_append_cons, List.splitOn_eq_singleton oneLine]
    rfl
  · have oneLine : '\n' ∉ start ++ rest := by simp [noFeed, hasFeed]
    refine ⟨start ++ rest, [], ?_, List.prefix_append _ _⟩
    rw [lines, List.splitOn_eq_singleton oneLine, linesOfPieces_singleton,
      if_neg (List.append_ne_nil_of_left_ne_nil nonempty _)]

/-! ## Texts that begin alike -/

/-- A text without line feeds is one line, or none. -/
theorem lines_of_noFeed {text : List Char} (noFeed : '\n' ∉ text) :
    lines text = if text = [] then [] else [text] := by
  rw [lines, List.splitOn_eq_singleton noFeed, linesOfPieces_singleton]

/-- Where there is text, there is a line. -/
theorem lines_ne_nil {text : List Char} (nonempty : text ≠ []) : lines text ≠ [] := by
  by_cases hasFeed : '\n' ∈ text
  · obtain ⟨front, back, rfl⟩ := List.append_of_mem hasFeed
    rw [lines_append_cons]
    refine List.append_ne_nil_of_left_ne_nil (fun isNil => ?_) _
    exact List.splitOn_ne_nil _ _ (List.map_eq_nil_iff.mp isNil)
  · rw [lines_of_noFeed hasFeed, if_neg nonempty]
    exact List.cons_ne_nil _ _

/-- The lines that end in a text are the same whatever is behind it; only the last line of
the text goes on. -/
theorem exists_lines_append (front : List Char) :
    ∃ ended unended, '\n' ∉ unended ∧
      ∀ back, lines (front ++ back) = ended ++ lines (unended ++ back) := by
  induction front using List.reverseRecOn with
  | nil => exact ⟨[], [], List.not_mem_nil, fun _ => rfl⟩
  | append_singleton front char inductionHypothesis =>
      by_cases isFeed : char = '\n'
      · subst isFeed
        refine ⟨(front.splitOn '\n').map dropReturn, [], List.not_mem_nil, fun back => ?_⟩
        rw [List.append_assoc, List.singleton_append, lines_append_cons, List.nil_append]
      · obtain ⟨ended, unended, noFeed, parts⟩ := inductionHypothesis
        refine ⟨ended, unended ++ [char], ?_, fun back => ?_⟩
        · simp [noFeed, Ne.symm isFeed]
        · rw [List.append_assoc, parts, List.append_assoc]

/-- Two texts begin alike, and behind that the first one has no line end.  Then all its lines
but the last are the first lines of the other. -/
theorem dropLast_lines_prefix (front : List Char) {cut : List Char} (noFeed : '\n' ∉ cut)
    (whole : List Char) : (lines (front ++ cut)).dropLast <+: lines (front ++ whole) := by
  obtain ⟨ended, unended, unendedNoFeed, parts⟩ := exists_lines_append front
  have oneLine : '\n' ∉ unended ++ cut := by simp [unendedNoFeed, noFeed]
  rw [parts, parts, lines_of_noFeed oneLine]
  split
  · rw [List.append_nil]
    exact (List.dropLast_prefix _).trans (List.prefix_append _ _)
  · rw [List.dropLast_concat]
    exact List.prefix_append _ _

/-- The first of these texts has no more lines than the other, if that goes on, too. -/
theorem length_lines_le (front : List Char) {cut whole : List Char} (noFeed : '\n' ∉ cut)
    (goesOn : cut ≠ [] → whole ≠ []) :
    (lines (front ++ cut)).length ≤ (lines (front ++ whole)).length := by
  obtain ⟨ended, unended, unendedNoFeed, parts⟩ := exists_lines_append front
  have oneLine : '\n' ∉ unended ++ cut := by simp [unendedNoFeed, noFeed]
  rw [parts, parts, lines_of_noFeed oneLine, List.length_append, List.length_append]
  refine Nat.add_le_add_left ?_ _
  split
  · exact Nat.zero_le _
  · rename_i nonempty
    have more : unended ++ whole ≠ [] := by
      intro isNil
      obtain ⟨rfl, rfl⟩ := List.append_eq_nil_iff.mp isNil
      exact goesOn nonempty rfl
    exact List.length_pos_of_ne_nil (lines_ne_nil more)

end BuildExplorer.Text
