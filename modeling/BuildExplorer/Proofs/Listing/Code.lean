import BuildExplorer.Proofs.Listing.Filtered
import BuildExplorer.Proofs.Text.Trimmed

/-!
# Code behind labels

A statement may stand behind a label on the same line, as in the listings of some
assemblers, and a disassembler writes an address in front of each instruction that
looks like a label.  The filter for labels decides about the whole line: where the
label is not mentioned, the statement behind it goes with it.
-/

namespace BuildExplorer.Listing

open Text (words allBlank)

/-! ## The statement on a line -/

/-- The statement on a line as the filters show it. -/
def code (filters : Filters) (line : List Char) : List Char :=
  if filters.trim then [' '].intercalate (words (statement line)) else statement line

/-- The statement ends the line. -/
theorem statement_suffix (line : List Char) : statement line <:+ line := by
  unfold statement
  split
  · rename_i name rest defines
    obtain ⟨-, -, body⟩ := labelDefinition?_eq_some_iff.mp defines
    obtain ⟨-, indent, -, isLine⟩ := Text.trimStart_eq_iff.mp body
    rw [isLine]
    exact ⟨indent ++ name ++ [':'], by simp⟩
  · exact List.suffix_refl _

theorem squash_suffix (line : List Char) : [' '].intercalate (words line) <:+ squash line := by
  unfold squash
  split
  · split
    · exact ⟨[' ', ' '], rfl⟩
    · exact List.suffix_refl _
  · exact List.suffix_refl _

/-- What is shown of a line ends with its statement. -/
theorem code_suffix (filters : Filters) (line : List Char) (position : Option Position) :
    code filters line <:+ (shown filters line position).text.toList := by
  unfold code shown
  rw [String.toList_ofList]
  split
  · exact (Text.joined_words_suffix (statement_suffix line)).trans (squash_suffix line)
  · exact statement_suffix line

/-! ## The filter for labels -/

/-- Is the label of a line, if it has one, mentioned by some line? -/
def LabelInUse (lines : List (List Char)) (line : List Char) : Prop :=
  ∀ name rest, labelDefinition? line = some (name, rest) → ∃ other ∈ lines, Mentions other name

/-- Alone, the filter for labels leaves out the lines whose label is not in use. -/
theorem dropped_eq_false_iff_labelInUse {filters : Filters} (labels : filters.labels = true)
    (noDirectives : filters.directives = false) (noComments : filters.commentOnly = false)
    (lines : List (List Char)) (line : List Char) :
    dropped filters (referencedNames filters lines) line = false ↔ LabelInUse lines line := by
  cases isDefinition : labelDefinition? line with
  | none => simp [dropped, LabelInUse, isDefinition, noDirectives, noComments]
  | some definition =>
      rcases definition with ⟨name, rest⟩
      obtain ⟨nonempty, isName, -⟩ := labelDefinition?_eq_some_iff.mp isDefinition
      rw [dropped_label isDefinition, noComments, referencedNames, if_pos labels]
      simp [LabelInUse, isDefinition, labels, ← mem_allReferences_iff nonempty isName]

/-- Lines that are shown with one text have the same label, so both are in use or none is. -/
theorem labelInUse_of_text_eq {filters : Filters} {lines : List (List Char)}
    {line other : List Char} {position otherPosition : Option Position}
    (same : (shown filters other otherPosition).text = (shown filters line position).text)
    (inUse : LabelInUse lines other) : LabelInUse lines line := by
  intro name rest defines
  obtain ⟨otherRest, otherDefines⟩ := defines_of_text_eq same ⟨rest, defines⟩
  exact inUse name otherRest otherDefines

/-- Under the filter for labels, the statement on a line is kept exactly if no label
stands in front of it or some line mentions the label.  A line that is kept is shown
with its statement at the end; where a label that no line mentions stands in front of
a statement, the statement is left out with the label. -/
theorem code_is_shown_iff_label_in_use {text : String} {filters : Filters} {line : List Char}
    (labels : filters.labels = true) (noDirectives : filters.directives = false)
    (noComments : filters.commentOnly = false) (isLine : line ∈ Text.lines text.toList)
    (solid : allBlank line = false) :
    ((shown filters line none).text ∈ (ofText text filters).map (·.text) ↔
        LabelInUse (Text.lines text.toList) line) ∧
      code filters line <:+ (shown filters line none).text.toList := by
  refine ⟨?_, code_suffix filters line none⟩
  have kept := dropped_eq_false_iff_labelInUse labels noDirectives noComments
    (Text.lines text.toList)
  have notSeparator : ∀ found : Line, found.text = (shown filters line none).text →
      found ≠ .separator := by
    rintro found sameText rfl
    have blank : (shown filters line none).isBlank = true := by
      rw [Line.isBlank, ← sameText]
      rfl
    rw [isBlank_shown, solid] at blank
    exact Bool.false_ne_true blank
  constructor
  · intro isShown
    obtain ⟨found, member, sameText⟩ := List.mem_map.mp isShown
    obtain ⟨other, position, -, -, notDropped, rfl⟩ :=
      (mem_ofText_iff (notSeparator found sameText) text filters).mp member
    exact labelInUse_of_text_eq sameText ((kept other).mp notDropped)
  · intro inUse
    have hasPosition : line ∈ (withPositions (Text.lines text.toList)).map (·.1) := by
      rwa [map_fst_withPositions]
    obtain ⟨⟨original, position⟩, member, isOriginal⟩ := List.mem_map.mp hasPosition
    obtain rfl : original = line := isOriginal
    refine List.mem_map.mpr ⟨shown filters original position, ?_, rfl⟩
    exact (mem_ofText_iff (notSeparator (shown filters original position) rfl) text filters).mpr
      ⟨original, position, member, solid, (kept original).mpr inUse, rfl⟩

/-- The theorem at a line with a label that no line mentions. -/
theorem code_is_shown_iff_label_in_use_unmentioned :
    let text := "L1:\tlda\t#1\n\trts\n"
    let filters : Filters := { labels := true }
    let line := ['L', '1', ':', '\t', 'l', 'd', 'a', '\t', '#', '1']
    filters.labels = true ∧ filters.directives = false ∧ filters.commentOnly = false ∧
      line ∈ Text.lines text.toList ∧ allBlank line = false ∧
        ((shown filters line none).text ∈ (ofText text filters).map (·.text) ↔
            LabelInUse (Text.lines text.toList) line) ∧
          code filters line <:+ (shown filters line none).text.toList := by
  intro text filters line
  have isLine : line ∈ Text.lines text.toList := by decide +kernel
  exact ⟨rfl, rfl, rfl, isLine, by decide,
    code_is_shown_iff_label_in_use rfl rfl rfl isLine (by decide)⟩

/-- An address that nothing mentions takes its instruction with it. -/
example : ofText "  401136:\t55\tpush %rbp\n  401137:\tjmp 401136\n" { labels := true } =
    [⟨"  401136:\t55\tpush %rbp", none⟩] := by
  decide +kernel

end BuildExplorer.Listing
