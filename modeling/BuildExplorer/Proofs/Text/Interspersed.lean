import BuildExplorer.Proofs.Text.Lines

/-!
# Parts among other lines

A tool writes some parts into its output, each on lines of its own, and other lines
may stand in front of them, between them and behind them.  A reader that goes
through the text line by line reads the parts in order if it passes over the other
lines whenever no part is open.
-/

namespace BuildExplorer.Text

/-- The lines of some parts, in order, with any other lines around each of them. -/
inductive Interspersed {Part : Type} (write : Part → List (List Char))
    (IsOther : List Char → Prop) : List Part → List (List Char) → Prop
  | nil : Interspersed write IsOther [] []
  | other {parts : List Part} {line : List Char} {lines : List (List Char)}
      (isOther : IsOther line) (behind : Interspersed write IsOther parts lines) :
      Interspersed write IsOther parts (line :: lines)
  | part {parts : List Part} {lines : List (List Char)} (first : Part)
      (behind : Interspersed write IsOther parts lines) :
      Interspersed write IsOther (first :: parts) (write first ++ lines)

namespace Interspersed

variable {Part State : Type} {write : Part → List (List Char)} {IsOther : List Char → Prop}
  {parts : List Part} {lines : List (List Char)}

/-- What holds of the other lines and of all lines of the parts holds of each line. -/
theorem forall_mem {Holds : List Char → Prop} (ofOther : ∀ line, IsOther line → Holds line)
    (ofPart : ∀ part, ∀ line ∈ write part, Holds line)
    (layout : Interspersed write IsOther parts lines) : ∀ line ∈ lines, Holds line := by
  induction layout with
  | nil => exact fun line member => absurd member List.not_mem_nil
  | other isOther _ inductionHypothesis =>
      intro line member
      rcases List.mem_cons.mp member with rfl | behind
      · exact ofOther line isOther
      · exact inductionHypothesis line behind
  | part first _ inductionHypothesis =>
      intro line member
      rcases List.mem_append.mp member with inFirst | behind
      · exact ofPart first line inFirst
      · exact inductionHypothesis line behind

/-- Lines that hold a part are not none. -/
theorem ne_nil (nonempty : ∀ part, write part ≠ [])
    (layout : Interspersed write IsOther parts lines) (hasPart : parts ≠ []) : lines ≠ [] := by
  cases layout with
  | nil => exact absurd rfl hasPart
  | other isOther behind => exact List.cons_ne_nil _ _
  | part first behind => exact List.append_ne_nil_of_left_ne_nil (nonempty first) _

/-- A reader takes the parts in order if, while none is open, it passes over other
lines and takes each part as a whole. -/
theorem foldl_eq {next : State → List Char → State} {take : State → Part → State}
    {IsClosed : State → Prop}
    (passes : ∀ state line, IsClosed state → IsOther line → next state line = state)
    (takes : ∀ state part, IsClosed state → (write part).foldl next state = take state part)
    (closes : ∀ state part, IsClosed state → IsClosed (take state part))
    (layout : Interspersed write IsOther parts lines) {state : State} (closed : IsClosed state) :
    lines.foldl next state = parts.foldl take state := by
  induction layout generalizing state with
  | nil => rfl
  | other isOther _ inductionHypothesis =>
      rw [List.foldl_cons, passes state _ closed isOther]
      exact inductionHypothesis closed
  | part first _ inductionHypothesis =>
      rw [List.foldl_append, takes state first closed, List.foldl_cons]
      exact inductionHypothesis (closes state first closed)

end Interspersed

/-! ## Line ends -/

/-- Reading the lines of a text leaves its parts as they are: each line of a part has
no return at its end, and no part ends with an empty line.  The other lines may lose
a return, and an empty one at the end of the text is none. -/
theorem Interspersed.linesOfPieces {Part : Type} {write : Part → List (List Char)}
    {IsOther : List Char → Prop} {parts : List Part} {pieces : List (List Char)}
    (noReturn : ∀ part, ∀ piece ∈ write part, piece.getLast? ≠ some '\r')
    (ends : ∀ part, ∀ piece ∈ (write part).getLast?, piece ≠ [])
    (stays : ∀ line, IsOther line → IsOther (dropReturn line))
    (layout : Interspersed write IsOther parts pieces) :
    Interspersed write IsOther parts (linesOfPieces pieces) := by
  induction layout with
  | nil => exact .nil
  | @other parts line pieces isOther behind inductionHypothesis =>
      by_cases last : pieces = []
      · subst last
        rw [linesOfPieces_singleton]
        split
        · exact inductionHypothesis
        · exact .other isOther behind
      · rw [linesOfPieces_cons line last]
        exact .other (stays line isOther) inductionHypothesis
  | part first _ inductionHypothesis =>
      rw [linesOfPieces_append (noReturn first) (ends first)]
      exact .part first inductionHypothesis

end BuildExplorer.Text
