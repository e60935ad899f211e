import Mathlib.Data.List.Forall2
import BuildExplorer.Diagnostic.Parse
import BuildExplorer.Proofs.Text.Replaced

/-!
# The placeholder for the source

In the lines of a tool the name of the input file gives way to a placeholder.  The name
is a path from the root, which no part of the placeholder begins with, and the
placeholder begins with a bracket that it holds nowhere else.  So neither can be put
together from what was replaced and what stayed.
-/

namespace BuildExplorer.Diagnostic

open Text (Replaced replaceAll)

/-- The placeholder behind its bracket. -/
def placeholderBody : List Char :=
  ['s', 'o', 'u', 'r', 'c', 'e', '>']

theorem toList_sourcePlaceholder : sourcePlaceholder.toList = '<' :: placeholderBody := by
  decide

/-- A name from the root begins with a slash. -/
theorem exists_body_of_absolute {name : List Char} (absolute : name.head? = some '/') :
    ∃ body, name = '/' :: body :=
  ⟨name.tail, (List.cons_head?_tail absolute).symm⟩

theorem ne_nil_of_absolute {name : List Char} (absolute : name.head? = some '/') : name ≠ [] := by
  obtain ⟨body, rfl⟩ := exists_body_of_absolute absolute
  exact List.cons_ne_nil _ _

/-- How a line is written down: occurrences of the name give way to the placeholder. -/
theorem replaced_withPlaceholder {name : String} (absolute : name.toList.head? = some '/')
    (line : List Char) :
    Replaced name.toList sourcePlaceholder.toList line (withPlaceholder (some name) line) :=
  Text.replaced_replaceAll (ne_nil_of_absolute absolute) sourcePlaceholder.toList line

/-- There is one result for each line, in order, whose text is the line with the
placeholder for each occurrence of the name.  The name is gone from it; and if the
placeholder was not in the line before, putting the name for it gives the line again. -/
theorem placeholder_stands_for_name {name : String} (absolute : name.toList.head? = some '/')
    (noBracket : '<' ∉ name.toList) (lines : List String) :
    List.Forall₂ (fun line result =>
      Replaced name.toList sourcePlaceholder.toList line.toList result.text.toList ∧
        ¬name.toList <:+: result.text.toList ∧
          (¬sourcePlaceholder.toList <:+: line.toList →
            replaceAll sourcePlaceholder.toList name.toList result.text.toList = line.toList))
      lines (ofLines (some name) lines) := by
  rw [ofLines, List.forall₂_map_right_iff, List.forall₂_same]
  intro line _
  obtain ⟨body, isName⟩ := exists_body_of_absolute absolute
  have replaced := replaced_withPlaceholder absolute line.toList
  rw [ofLine, String.toList_ofList]
  refine ⟨replaced, ?_, fun absent => ?_⟩
  · rw [isName, toList_sourcePlaceholder] at replaced
    rw [isName] at noBracket ⊢
    exact replaced.not_infix (by decide) noBracket
  · rw [toList_sourcePlaceholder] at replaced absent ⊢
    exact (replaced.swap (by decide) absent).replaceAll_eq (List.cons_ne_nil _ _)

/-- The theorem at a name that overlaps itself, between parts of the placeholder. -/
theorem placeholder_stands_for_name_overlapping :
    let name := "/a/a"
    let lines := ["/a/a/a:1: x", "<sour/a/ace>", "<source>/a/a"]
    name.toList.head? = some '/' ∧ '<' ∉ name.toList ∧
      List.Forall₂ (fun line result =>
        Replaced name.toList sourcePlaceholder.toList line.toList result.text.toList ∧
          ¬name.toList <:+: result.text.toList ∧
            (¬sourcePlaceholder.toList <:+: line.toList →
              replaceAll sourcePlaceholder.toList name.toList result.text.toList = line.toList))
        lines (ofLines (some name) lines) := by
  intro name lines
  have absolute : name.toList.head? = some '/' := by decide
  have noBracket : '<' ∉ name.toList := by decide
  exact ⟨absolute, noBracket, placeholder_stands_for_name absolute noBracket lines⟩

end BuildExplorer.Diagnostic
