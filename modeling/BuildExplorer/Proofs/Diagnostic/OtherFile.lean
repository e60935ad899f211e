import BuildExplorer.Proofs.Diagnostic.Written

/-!
# Diagnostics for other files

The placeholder is put for every occurrence of the name of the input file, also for one
inside of a longer path.  A diagnostic for another file keeps its file exactly if the
name does not occur in its line.  If the name occurs in the path of the other file, as
that of `a.c` does in that of `a.cpp`, the diagnostic is no longer told as one.
-/

namespace BuildExplorer.Diagnostic

open Text (Replaced)

/-! ## Where the name occurs in a diagnostic -/

/-- A name from the root does not begin in a place. -/
theorem slash_not_mem_place (style : Style) (line : Nat) (column : Option Nat) :
    '/' ∉ style.place line column ++ [' '] := by
  have noNumber : ∀ number, '/' ∉ Nat.toDigits 10 number := fun number member =>
    absurd ((Decimal.areDigits_toDigits number).each '/' member) (by decide)
  have noMark : '/' ≠ style.opening ∧ '/' ∉ style.closing ∧ '/' ≠ style.separator := by
    cases style <;> decide
  cases column <;> simp [Style.place, Style.column, noNumber, noMark]

section Occurrences

variable {name message : List Char} (absolute : name.head? = some '/')
  (unmentioned : ¬name <:+: message) (style : Style) (line : Nat) (column : Option Nat)

include absolute unmentioned

/-- The name does not occur behind the word for the file. -/
theorem not_infix_place : ¬name <:+: style.place line column ++ ' ' :: message := by
  intro occurs
  obtain ⟨body, rfl⟩ := exists_body_of_absolute absolute
  have isLine : style.place line column ++ ' ' :: message =
      (style.place line column ++ [' ']) ++ message := by simp
  rw [isLine] at occurs
  exact unmentioned (Text.infix_of_infix_append (slash_not_mem_place style line column) occurs)

/-- Where the name occurs, it begins in the word for the file. -/
theorem prefix_of_occurrence {word front rest : List Char}
    (occurs : word ++ (style.place line column ++ ' ' :: message) = front ++ (name ++ rest)) :
    ∃ others, word = front ++ others ∧
      name ++ rest = others ++ (style.place line column ++ ' ' :: message) := by
  rcases List.append_eq_append_iff.mp occurs with ⟨skipped, -, isBehind⟩ | ⟨others, isWord, isRest⟩
  · refine absurd ?_ (not_infix_place absolute unmentioned style line column)
    exact ⟨skipped, rest, by rw [isBehind, List.append_assoc]⟩
  · exact ⟨others, isWord, isRest⟩

/-- A name without the character that opens the place occurs in the word, if at all. -/
theorem infix_written_iff {word : List Char} (unopened : style.opening ∉ name) :
    name <:+: word ++ (style.place line column ++ ' ' :: message) ↔ name <:+: word := by
  constructor
  · rintro ⟨front, rest, isLine⟩
    obtain ⟨others, rfl, isRest⟩ := prefix_of_occurrence absolute unmentioned style line column
      (isLine.symm.trans (List.append_assoc _ _ _))
    rcases List.append_eq_append_iff.mp isRest with ⟨after, rfl, -⟩ | ⟨beyond, rfl, isPlace⟩
    · exact ⟨front, after, List.append_assoc _ _ _⟩
    · cases beyond with
      | nil => exact ⟨front, [], by simp⟩
      | cons first beyond =>
          obtain ⟨rfl, -⟩ := List.cons.inj isPlace
          exact absurd (List.mem_append_right others List.mem_cons_self) unopened
  · exact fun occurs => occurs.trans (List.prefix_append _ _).isInfix

end Occurrences

/-! ## Tags of lines with a placeholder -/

/-- A tag for the source names no file. -/
theorem file_of_sourceTag? {line : List Char} {tag : Tag} (isTag : sourceTag? line = some tag) :
    tag.file = none := by
  obtain ⟨rest, -, isTag⟩ := Option.bind_eq_some_iff.mp isTag
  obtain ⟨⟨number, column, message⟩, -, isTag⟩ := Option.bind_eq_some_iff.mp isTag
  obtain ⟨line, -, rfl⟩ := Option.map_eq_some_iff.mp isTag
  rfl

section Front

variable {front : List Char} (arePathChars : ∀ char ∈ front, isPathChar char = true)

include arePathChars

/-- Colours behind the placeholder do not matter for what is in front of it. -/
theorem tag?_placeholder (behind : List Char) :
    tag? (front ++ (sourcePlaceholder.toList ++ behind)) =
      sourceTag? (front ++ (sourcePlaceholder.toList ++ withoutColour behind)) := by
  have noEscape : escapeChar ∉ front :=
    fun member => absurd (arePathChars escapeChar member) (by decide)
  have noFile : fileTag? (front ++ (sourcePlaceholder.toList ++ withoutColour behind)) = none := by
    rw [toList_sourcePlaceholder]
    exact fileTag?_bracket (List.forall_mem_nil _) arePathChars _
  rw [tag?, withoutColour_append noEscape, withoutColour_append (by decide), noFile,
    Option.orElse_eq_orElse, Option.orElse_eq_or, Option.or_none]

/-- Behind path characters, the placeholder hides the place. -/
theorem tag?_placeholder_of_front (nonempty : front ≠ []) (behind : List Char) :
    tag? (front ++ (sourcePlaceholder.toList ++ behind)) = none := by
  rw [tag?_placeholder arePathChars]
  obtain ⟨first, others, rfl⟩ := List.exists_cons_of_ne_nil nonempty
  have isPath : isPathChar first = true := arePathChars first List.mem_cons_self
  exact sourceTag?_eq_none (List.forall_mem_nil _) (isBlank_of_isPathChar isPath)
    (ne_of_isPathChar isPath (by decide)) _

end Front

/-- In front of anything but the start of a place, the placeholder makes no tag. -/
theorem tag?_placeholder_of_behind {first : Char} (notEscape : first ≠ escapeChar)
    (notPlace : first ≠ '(' ∧ first ≠ ':') (others : List Char) :
    tag? (sourcePlaceholder.toList ++ first :: others) = none := by
  have isTag := tag?_placeholder (List.forall_mem_nil _) (first :: others)
  have isSource := sourceTag?_placeholder (List.forall_mem_nil _) (first :: withoutColour others)
  rw [List.nil_append, List.nil_append, withoutColour_cons notEscape] at isTag
  rw [List.nil_append, takePlace] at isSource
  rw [isTag, isSource]
  simp [notPlace]

/-- A character of a path behind the placeholder is no start of a place, nor is another
placeholder. -/
theorem tag?_placeholder_of_replaced {name rest behind : List Char} {next : Char}
    (isPath : isPathChar next = true)
    (replaced : Replaced name sourcePlaceholder.toList (next :: rest) behind) :
    tag? (sourcePlaceholder.toList ++ behind) = none := by
  rw [toList_sourcePlaceholder] at replaced
  obtain ⟨first, others, rfl, isFirst⟩ :
      ∃ first others, behind = first :: others ∧ (first = next ∨ first = '<') := by
    cases behind with
    | nil => simpa using replaced.head?_eq
    | cons first others => exact ⟨first, others, rfl, by simpa using replaced.head?_eq⟩
  rcases isFirst with rfl | rfl
  · refine tag?_placeholder_of_behind (ne_of_isPathChar isPath (by decide)) ⟨?_, ?_⟩ others
    · exact ne_of_isPathChar isPath (by decide)
    · exact ne_of_isPathChar isPath (by decide)
  · exact tag?_placeholder_of_behind (by decide) (by decide) others

/-! ## The line of another file -/

/-- The line is read as a diagnostic for a file, or for the source, at a line number. -/
def IsTagged (input : Option String) (text : List Char) (file : Option String) (line : Nat) :
    Prop :=
  ∃ tag, (ofLines input [String.ofList text]).map Line.tag = [some tag] ∧
    tag.file = file ∧ tag.line.toNat = line

theorem map_tag_ofLines (input : Option String) (text : List Char) :
    (ofLines input [String.ofList text]).map Line.tag = [tag? (withPlaceholder input text)] := by
  simp [ofLines, ofLine]

/-- A diagnostic that stays as it was written, or becomes one, is read as such. -/
theorem isTagged_of_written {input : Option String} {text message : List Char}
    (location : Location) {style : Style} {line : Nat} {column : Option Nat}
    (isWritten : withPlaceholder input text = written [] location style line column message)
    (fits : line < UInt32.size) : IsTagged input text location.file? line := by
  have isTag := tag?_written (List.forall_mem_nil _) location style line column message
  rw [← isWritten, tagAt_toDigits, if_pos fits] at isTag
  rw [IsTagged, map_tag_ofLines, isTag]
  exact ⟨_, rfl, rfl, UInt32.toNat_ofNat_of_lt' fits⟩

section OtherFile

variable {name : String} {word : FileWord} {message : List Char}
  (absolute : name.toList.head? = some '/') (unmentioned : ¬name.toList <:+: message)
  (style : Style) (line : Nat) (column : Option Nat)

include absolute unmentioned

/-- The name of the input file gives way to the placeholder. -/
theorem withPlaceholder_own :
    withPlaceholder (some name) (name.toList ++ (style.place line column ++ ' ' :: message)) =
      written [] .source style line column message := by
  have absent := not_infix_place absolute unmentioned style line column
  rw [withPlaceholder, Text.replaceAll_append (ne_nil_of_absolute absolute),
    Text.replaceAll_eq_self absent]
  rfl

/-- If the name occurs in the line, what is shown has the placeholder behind a part of
the path of the file. -/
theorem exists_front_of_occurrence
    (occurs : name.toList <:+: written [] (.file word) style line column message) :
    ∃ front others rest behind, word.chars = front ++ others ∧
      (∀ char ∈ front, isPathChar char = true) ∧
      name.toList ++ rest = others ++ (style.place line column ++ ' ' :: message) ∧
      withPlaceholder (some name) (written [] (.file word) style line column message) =
        front ++ (sourcePlaceholder.toList ++ behind) ∧
      Replaced name.toList sourcePlaceholder.toList rest behind := by
  obtain ⟨front, rest, behind, isLine, isShown, replaced⟩ :=
    (replaced_withPlaceholder absolute _).exists_first (ne_nil_of_absolute absolute) occurs
  obtain ⟨others, isWord, isRest⟩ : ∃ others, word.chars = front ++ others ∧ _ :=
    prefix_of_occurrence absolute unmentioned style line column isLine
  have arePathChars : ∀ char ∈ front, isPathChar char = true := fun char member =>
    word.arePathChars char (by rw [isWord]; exact List.mem_append_left others member)
  exact ⟨front, others, rest, behind, isWord, arePathChars, isRest, isShown, replaced⟩

/-- If the name occurs in the path of another file, the line has no tag. -/
theorem tag?_of_infix (different : word.chars ≠ name.toList)
    (inPath : name.toList <:+: word.chars) :
    tag? (withPlaceholder (some name) (written [] (.file word) style line column message)) =
      none := by
  have occurs : name.toList <:+: written [] (.file word) style line column message :=
    inPath.trans (List.prefix_append _ _).isInfix
  obtain ⟨front, others, rest, behind, isWord, arePathChars, isRest, isShown, replaced⟩ :=
    exists_front_of_occurrence absolute unmentioned style line column occurs
  rw [isShown]
  by_cases atStart : front = []
  · -- The name is shorter than the path, so that a character of the path follows it.
    obtain rfl : word.chars = others := by rw [isWord, atStart, List.nil_append]
    have begins : name.toList <+: word.chars :=
      List.prefix_of_prefix_length_le (List.prefix_append name.toList rest)
        (isRest ▸ List.prefix_append word.chars _) inPath.length_le
    obtain ⟨after, isPath⟩ := begins
    rw [← isPath, List.append_assoc] at isRest
    obtain rfl := List.append_cancel_left isRest
    cases after with
    | nil => exact absurd (by rw [← isPath, List.append_nil]) different
    | cons next after =>
        have isPathNext : isPathChar next = true := word.arePathChars next (by simp [← isPath])
        rw [atStart, List.nil_append]
        exact tag?_placeholder_of_replaced isPathNext replaced
  · exact tag?_placeholder_of_front arePathChars atStart behind

/-- If the name occurs in the line, no other file is named. -/
theorem file_of_occurrence
    (occurs : name.toList <:+: written [] (.file word) style line column message) {tag : Tag}
    (isTag : tag? (withPlaceholder (some name)
      (written [] (.file word) style line column message)) = some tag) : tag.file = none := by
  obtain ⟨front, -, -, behind, -, arePathChars, -, isShown, -⟩ :=
    exists_front_of_occurrence absolute unmentioned style line column occurs
  rw [isShown, tag?_placeholder arePathChars] at isTag
  exact file_of_sourceTag? isTag

end OtherFile

/-- A diagnostic for the source is read as one.  A diagnostic for a file keeps the file if
and only if the name of the source does not occur in its line: for a name without the
character that opens a place, in the path of the file.  A diagnostic for another file with
the name in its path is read as none at all. -/
theorem file_kept_iff {name : String} (absolute : name.toList.head? = some '/')
    {message : List Char} (unmentioned : ¬name.toList <:+: message) (word : FileWord)
    (style : Style) {line : Nat} (fits : line < UInt32.size) (column : Option Nat) :
    let place := style.place line column ++ ' ' :: message
    IsTagged (some name) (name.toList ++ place) none line ∧
    (IsTagged (some name) (word.chars ++ place) (some (String.ofList word.chars)) line ↔
      ¬name.toList <:+: word.chars ++ place) ∧
    (style.opening ∉ name.toList →
      (name.toList <:+: word.chars ++ place ↔ name.toList <:+: word.chars)) ∧
    (word.chars ≠ name.toList → name.toList <:+: word.chars →
      (ofLines (some name) [String.ofList (word.chars ++ place)]).map Line.tag = [none]) := by
  intro place
  have isWritten : word.chars ++ place = written [] (.file word) style line column message := rfl
  rw [isWritten]
  refine ⟨?_, ⟨?_, fun absent => ?_⟩, ?_, fun different inPath => ?_⟩
  · have isShown := withPlaceholder_own absolute unmentioned style line column
    exact isTagged_of_written .source isShown fits
  · rintro ⟨tag, isTag, isFile, -⟩ occurs
    rw [map_tag_ofLines, List.singleton_inj] at isTag
    rw [file_of_occurrence absolute unmentioned style line column occurs isTag] at isFile
    exact nomatch isFile
  · exact isTagged_of_written (.file word) (Text.replaceAll_eq_self absent) fits
  · exact infix_written_iff absolute unmentioned style line column
  · rw [map_tag_ofLines, tag?_of_infix absolute unmentioned style line column different inPath]

/-- The theorem at a file whose path begins with the name of the source. -/
theorem file_kept_iff_longer_path :
    let name := "/w/example.cpp"
    let word : FileWord := ⟨"/w/example.cpp.inc".toList, List.all_eq_true.mp (by decide), by decide⟩
    let message := "error: boom".toList
    let place := Style.colons.place 3 none ++ ' ' :: message
    name.toList.head? = some '/' ∧ ¬name.toList <:+: message ∧ 3 < UInt32.size ∧
      Style.colons.opening ∉ name.toList ∧ word.chars ≠ name.toList ∧
        name.toList <:+: word.chars ∧
      IsTagged (some name) (name.toList ++ place) none 3 ∧
      (IsTagged (some name) (word.chars ++ place) (some (String.ofList word.chars)) 3 ↔
        ¬name.toList <:+: word.chars ++ place) ∧
      (Style.colons.opening ∉ name.toList →
        (name.toList <:+: word.chars ++ place ↔ name.toList <:+: word.chars)) ∧
      (word.chars ≠ name.toList → name.toList <:+: word.chars →
        (ofLines (some name) [String.ofList (word.chars ++ place)]).map Line.tag = [none]) := by
  intro name word message place
  have absolute : name.toList.head? = some '/' := by decide
  have unmentioned : ¬name.toList <:+: message := by decide +kernel
  have fits : 3 < UInt32.size := by decide
  exact ⟨absolute, unmentioned, fits, by decide, by decide, by decide +kernel,
    file_kept_iff absolute unmentioned word .colons fits none⟩

end BuildExplorer.Diagnostic
