import BuildExplorer.Listing.Parse
import BuildExplorer.Proofs.Text.Runs

/-!
# Labels that are kept

Positions go with lines and leave them as they are, and separators go between
lines.  So a line is shown exactly if it is one of the text, not blank, and no
filter leaves it out.

A definition of a label is left out by the filter for labels unless some line
mentions the name, and by the filter for comments if the name starts like a
comment.  Both decisions are read off the first word of the line, so squashing
blanks does not change them.
-/

namespace BuildExplorer.Listing

open Text (isBlank trimStart runs words StandsBetween)

/-! ## Positions -/

theorem map_fst_positionsFrom (table : LineTable) (done : List (List Char × Option Position))
    (lines : List (List Char)) :
    (positionsFrom table done lines).map (·.1) = lines.reverse ++ done.map (·.1) := by
  induction lines generalizing table done with
  | nil => rfl
  | cons line rest inductionHypothesis =>
      rw [positionsFrom, inductionHypothesis]
      simp

/-- Positions are given to the lines of the text, in order. -/
theorem map_fst_withPositions (lines : List (List Char)) :
    (withPositions lines).map (·.1) = lines := by
  rw [withPositions, List.map_reverse, map_fst_positionsFrom]
  simp

/-! ## Separators -/

theorem mem_separateFrom_iff {line : Line} (notSeparator : line ≠ .separator) (gap : Bool)
    (done : List Line) (entries : List (Option Line)) :
    line ∈ separateFrom gap done entries ↔ line ∈ done ∨ some line ∈ entries := by
  induction entries generalizing gap done with
  | nil => simp [separateFrom]
  | cons entry rest inductionHypothesis =>
      cases entry with
      | none =>
          rw [separateFrom, inductionHypothesis]
          simp
      | some other =>
          rw [separateFrom, inductionHypothesis]
          by_cases parted : (gap && !done.isEmpty) = true
          · rw [if_pos parted]
            simp only [List.mem_cons, Option.some.injEq, notSeparator, false_or, or_assoc]
            exact or_left_comm
          · rw [if_neg parted]
            simp only [List.mem_cons, Option.some.injEq, or_assoc]
            exact or_left_comm

/-- Separators aside, the lines are those of the entries. -/
theorem mem_separate_iff {line : Line} (notSeparator : line ≠ .separator)
    (entries : List (Option Line)) : line ∈ separate entries ↔ some line ∈ entries := by
  rw [separate, List.mem_reverse, mem_separateFrom_iff notSeparator]
  simp

/-! ## Lines that are shown -/

theorem entry_eq_some_some_iff {filters : Filters} {referenced : List (List Char)}
    {positioned : List Char × Option Position} {line : Line} :
    entry filters referenced positioned = some (some line) ↔
      Text.allBlank positioned.1 = false ∧ dropped filters referenced positioned.1 = false ∧
        shown filters positioned.1 positioned.2 = line := by
  rcases positioned with ⟨text, position⟩
  by_cases blank : Text.allBlank text = true
  · simp [entry, blank]
  · by_cases isDropped : dropped filters referenced text = true
    · simp [entry, blank, isDropped]
    · simp [entry, blank, isDropped]

/-- A line other than a separator is shown exactly if it is what is shown of a line
of the text that is neither blank nor left out. -/
theorem mem_ofText_iff {line : Line} (notSeparator : line ≠ .separator) (text : String)
    (filters : Filters) :
    line ∈ ofText text filters ↔
      ∃ original position, (original, position) ∈ withPositions (Text.lines text.toList) ∧
        Text.allBlank original = false ∧
        dropped filters (referencedNames filters (Text.lines text.toList)) original = false ∧
        shown filters original position = line := by
  rw [ofText, mem_separate_iff notSeparator, List.mem_filterMap]
  constructor
  · rintro ⟨⟨original, position⟩, member, kept⟩
    obtain ⟨notBlank, notDropped, isShown⟩ := entry_eq_some_some_iff.mp kept
    exact ⟨original, position, member, notBlank, notDropped, isShown⟩
  · rintro ⟨original, position, member, notBlank, notDropped, isShown⟩
    exact ⟨(original, position), member,
      entry_eq_some_some_iff.mpr ⟨notBlank, notDropped, isShown⟩⟩

/-! ## Characters of names -/

/-- No character of a name is a blank. -/
theorem isBlank_of_isNameChar {char : Char} (isName : isNameChar char = true) :
    isBlank char = false := by
  simp only [isNameChar, Bool.or_eq_true, beq_iff_eq] at isName
  rcases isName with ((rfl | rfl) | rfl) | isWord
  · decide
  · decide
  · decide
  · exact Text.isBlank_of_isWordChar isWord

/-! ## Definitions of labels -/

/-- A label is a name in front of a colon, behind nothing but blanks. -/
theorem labelDefinition?_eq_some_iff {line name rest : List Char} :
    labelDefinition? line = some (name, rest) ↔
      name ≠ [] ∧ (∀ char ∈ name, isNameChar char = true) ∧
        trimStart line = name ++ ':' :: rest := by
  constructor
  · intro defines
    unfold labelDefinition? at defines
    dsimp only at defines
    split at defines
    · rename_i after isAfter
      split at defines
      · exact nomatch defines
      · rename_i notEmpty
        obtain ⟨rfl, rfl⟩ := Prod.mk.inj (Option.some.inj defines)
        refine ⟨by simpa using notEmpty, fun char member => List.mem_takeWhile_imp member, ?_⟩
        rw [← isAfter, List.takeWhile_append_dropWhile]
    · exact nomatch defines
  · rintro ⟨nonempty, isName, body⟩
    have cuts : Text.CutsAt isNameChar name (':' :: rest) := by
      refine ⟨isName, fun char isHead => ?_⟩
      obtain rfl := Option.some.inj isHead
      decide
    unfold labelDefinition?
    rw [body]
    dsimp only
    rw [cuts.takeWhile_eq, cuts.dropWhile_eq]
    simp [nonempty]

/-- A line with a label counts as a comment if the name starts with an at sign. -/
theorem isCommentOnly_of_label {line name rest : List Char}
    (defines : labelDefinition? line = some (name, rest)) :
    isCommentOnly line = (name.head? == some '@') := by
  obtain ⟨nonempty, isName, body⟩ := labelDefinition?_eq_some_iff.mp defines
  obtain ⟨first, others, rfl⟩ := List.exists_cons_of_ne_nil nonempty
  have firstIsName : isNameChar first = true := isName first List.mem_cons_self
  have notHash : first ≠ '#' := by rintro rfl; exact absurd firstIsName (by decide)
  have notSemicolon : first ≠ ';' := by rintro rfl; exact absurd firstIsName (by decide)
  have notSlash : first ≠ '/' := by rintro rfl; exact absurd firstIsName (by decide)
  unfold isCommentOnly
  rw [body, List.cons_append]
  by_cases isAt : first = '@'
  · simp [isAt]
  · split <;> simp_all

/-- Which filters leave out a line with a label. -/
theorem dropped_label {filters : Filters} {referenced : List (List Char)}
    {line name rest : List Char} (defines : labelDefinition? line = some (name, rest)) :
    dropped filters referenced line =
      ((filters.labels && !referenced.contains name) ||
        (filters.commentOnly && name.head? == some '@')) := by
  have isLabel : definesLabel line = true := by rw [definesLabel, defines]; rfl
  rw [dropped, isCommentOnly_of_label defines, isLabel, defines]
  simp

/-! ## Squashing -/

/-- A line whose blanks are squashed has the same words. -/
theorem words_squash (line : List Char) : words (squash line) = words line := by
  have space : isBlank ' ' = true := by decide
  have joined : words ([' '].intercalate (words line)) = words line :=
    Text.runs_intercalate space fun word member => Text.mem_runs member
  unfold squash
  split
  · split
    · rw [Text.words_eq_runs, Text.runs_cons space, Text.runs_cons space]
      exact joined
    · exact joined
  · exact joined

/-- Whether a line defines a name is told by its first word. -/
theorem defines_iff_words {line name : List Char} :
    (∃ rest, labelDefinition? line = some (name, rest)) ↔
      name ≠ [] ∧ (∀ char ∈ name, isNameChar char = true) ∧
        ∃ glued others, words line = (name ++ ':' :: glued) :: others := by
  simp only [labelDefinition?_eq_some_iff, exists_and_left]
  refine and_congr_right fun nonempty => and_congr_right fun isName => ?_
  have solid : ∀ char ∈ name ++ [':'], isBlank char = false := by
    rw [List.forall_mem_append, List.forall_mem_singleton]
    exact ⟨fun char member => isBlank_of_isNameChar (isName char member), by decide⟩
  have atFront : name ++ [':'] <+: trimStart line ↔
      ∃ glued others, words line = (name ++ [':'] ++ glued) :: others :=
    Text.prefix_trimStart_iff (by simp) solid
  simpa [List.IsPrefix, eq_comm] using atFront

/-- Squashing blanks keeps the name that a line defines. -/
theorem defines_of_squash_eq {line other name : List Char}
    (same : squash other = squash line)
    (defines : ∃ rest, labelDefinition? line = some (name, rest)) :
    ∃ rest, labelDefinition? other = some (name, rest) := by
  have sameWords : words other = words line := by
    rw [← words_squash other, same, words_squash]
  rw [defines_iff_words] at defines ⊢
  rwa [sameWords]

/-! ## Mentions -/

/-- A line mentions a name if the name stands among the operands of its statement:
behind another name, in front of the first semicolon or hash, and with no
character of a name beside it. -/
def Mentions (line name : List Char) : Prop :=
  ∃ before after, withoutComment (statement line) = before ++ name ++ after ∧
    (∃ char ∈ before, isNameChar char = true) ∧
    (∀ char ∈ before.getLast?, isNameChar char = false) ∧
    ∀ char ∈ after.head?, isNameChar char = false

/-- A line refers to the names that it mentions. -/
theorem mem_references_iff {line name : List Char} (nonempty : name ≠ [])
    (isName : ∀ char ∈ name, isNameChar char = true) :
    name ∈ references line ↔ Mentions line name := by
  have isRuns : ∀ text, names text = runs (!isNameChar ·) text := fun text => rfl
  rw [references, isRuns, Text.mem_drop_runs_iff]
  constructor
  · rintro ⟨before, after, isText, stands, char, member, another⟩
    exact ⟨before, after, isText, ⟨char, member, by simpa using another⟩,
      by simpa using stands.starts, by simpa using stands.ends⟩
  · rintro ⟨before, after, isText, ⟨char, member, another⟩, starts, ends⟩
    refine ⟨before, after, isText, ⟨nonempty, ?_, ?_, ?_⟩, char, member, ?_⟩
    · simpa using isName
    · simpa using starts
    · simpa using ends
    · simpa using another

/-- The names in use are those that some line mentions. -/
theorem mem_allReferences_iff {lines : List (List Char)} {name : List Char}
    (nonempty : name ≠ []) (isName : ∀ char ∈ name, isNameChar char = true) :
    name ∈ allReferences lines ↔ ∃ line ∈ lines, Mentions line name := by
  simp only [allReferences, List.mem_flatMap, mem_references_iff nonempty isName]

/-! ## Definitions that are kept -/

/-- A line that defines a label is not empty, squashed or not. -/
theorem shown_label_ne_separator {filters : Filters} {line name rest : List Char}
    (defines : labelDefinition? line = some (name, rest)) (position : Option Position) :
    shown filters line position ≠ .separator := by
  obtain ⟨-, -, glued, others, isWords⟩ := defines_iff_words.mp ⟨rest, defines⟩
  have notEmpty : (if filters.trim then squash line else line) ≠ [] := by
    intro empty
    split at empty
    · rw [← words_squash, empty] at isWords
      exact nomatch isWords
    · rw [empty] at isWords
      exact nomatch isWords
  intro same
  have noText : String.ofList (if filters.trim then squash line else line) = "" :=
    congrArg Line.text same
  exact notEmpty (by simpa using noText)

/-- Lines that are shown with one text define the same labels. -/
theorem defines_of_text_eq {filters : Filters} {line other name : List Char}
    {position otherPosition : Option Position}
    (same : (shown filters other otherPosition).text = (shown filters line position).text)
    (defines : ∃ rest, labelDefinition? line = some (name, rest)) :
    ∃ rest, labelDefinition? other = some (name, rest) := by
  have sameText : (if filters.trim then squash other else other) =
      if filters.trim then squash line else line := String.ofList_inj.mp same
  split at sameText
  · exact defines_of_squash_eq sameText defines
  · rwa [sameText]

/-- A line with a label is not blank. -/
theorem allBlank_of_label {line name rest : List Char}
    (defines : labelDefinition? line = some (name, rest)) : Text.allBlank line = false := by
  obtain ⟨-, -, glued, others, isWords⟩ := defines_iff_words.mp ⟨rest, defines⟩
  rw [Bool.eq_false_iff]
  intro blank
  have noWords := Text.runs_eq_nil_of_separators (List.all_eq_true.mp blank)
  rw [← Text.words_eq_runs, isWords] at noWords
  exact nomatch noWords

/-- A definition of a label is kept exactly if some line mentions the name, where
labels are filtered, and the name does not start like a comment, where comments
are filtered.  A name with a dollar sign in front or a relocation behind it is
another name, and behind a hash nothing is mentioned; so none of these keeps the
label. -/
theorem shown_label_iff {text : String} {filters : Filters} {line name rest : List Char}
    (isLine : line ∈ Text.lines text.toList)
    (defines : labelDefinition? line = some (name, rest)) :
    shown filters line none ∈ ofText text filters ↔
      (filters.labels = true → ∃ other ∈ Text.lines text.toList, Mentions other name) ∧
        (filters.commentOnly = true → name.head? ≠ some '@') := by
  obtain ⟨nonempty, isName, -⟩ := labelDefinition?_eq_some_iff.mp defines
  let referenced := referencedNames filters (Text.lines text.toList)
  have isKept : ∀ {other rest}, labelDefinition? other = some (name, rest) →
      (dropped filters referenced other = false ↔
        (filters.labels = true → ∃ other ∈ Text.lines text.toList, Mentions other name) ∧
          (filters.commentOnly = true → name.head? ≠ some '@')) := by
    intro other rest otherDefines
    rw [dropped_label otherDefines, ← mem_allReferences_iff nonempty isName]
    by_cases labels : filters.labels = true
    · simp [referenced, referencedNames, labels]
    · simp [labels]
  rw [mem_ofText_iff (shown_label_ne_separator defines none)]
  constructor
  · rintro ⟨other, position, -, -, notDropped, same⟩
    obtain ⟨otherRest, otherDefines⟩ :=
      defines_of_text_eq (congrArg Line.text same) ⟨rest, defines⟩
    exact (isKept otherDefines).mp notDropped
  · intro conditions
    have hasPosition : line ∈ (withPositions (Text.lines text.toList)).map (·.1) := by
      rwa [map_fst_withPositions]
    obtain ⟨⟨_, position⟩, member, rfl⟩ := List.mem_map.mp hasPosition
    refine ⟨_, position, member, allBlank_of_label defines, (isKept defines).mpr conditions, ?_⟩
    simp [shown, definesLabel, defines]

/-- The theorem at a listing where a label is mentioned with a relocation only. -/
theorem shown_label_iff_relocation :
    let text := "\tcall\tfoo@PLT\nfoo:\n\tret\n"
    let filters : Filters := { labels := true }
    let line := ['f', 'o', 'o', ':']
    line ∈ Text.lines text.toList ∧
      labelDefinition? line = some (['f', 'o', 'o'], []) ∧
        (shown filters line none ∈ ofText text filters ↔
          (filters.labels = true →
              ∃ other ∈ Text.lines text.toList, Mentions other ['f', 'o', 'o']) ∧
            (filters.commentOnly = true → ['f', 'o', 'o'].head? ≠ some '@')) := by
  intro text filters line
  have isLine : line ∈ Text.lines text.toList := by decide +kernel
  have defines : labelDefinition? line = some (['f', 'o', 'o'], []) := by decide
  exact ⟨isLine, defines, shown_label_iff isLine defines⟩

end BuildExplorer.Listing
