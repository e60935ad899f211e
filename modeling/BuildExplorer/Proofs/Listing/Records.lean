import Mathlib.Data.List.Basic
import BuildExplorer.Listing.Statement
import BuildExplorer.Proofs.Text.Trimmed

/-!
# How records of the line table are written

The records of a listing are told by their whole form: a directive behind nothing but
blanks, its numbers and its quoted names, each apart from the other by blanks or commas.
What may follow is read only if it is there as a whole.  This file gives the forms as
a grammar and shows that a record is read off a line exactly if the line is of its form.
-/

namespace BuildExplorer.Listing

open Text (isBlank isDigit trimStart)

/-! ## Parts of a record -/

/-- Nothing but blanks. -/
def AreBlanks (text : List Char) : Prop :=
  ∀ char ∈ text, isBlank char = true

/-- One or more blanks. -/
def IsGap (text : List Char) : Prop :=
  text ≠ [] ∧ AreBlanks text

/-- One or more decimal digits, with no other digit behind them. -/
structure IsNumeral (digits rest : List Char) : Prop where
  nonempty : digits ≠ []
  areDigits : ∀ char ∈ digits, isDigit char = true
  ends : ∀ char ∈ rest.head?, isDigit char = false

/-- A text between double quotes, with `rest` behind them. -/
def quoted (text rest : List Char) : List Char :=
  '"' :: (text ++ '"' :: rest)

/-- No digit is a blank. -/
theorem isBlank_of_isDigit {char : Char} (digit : isDigit char = true) :
    isBlank char = false := by
  have apart : (Text.blankRanges.all fun range => Text.digitRanges.all range.apart) = true := by
    decide +kernel
  rw [Text.isBlank_eq_inRanges]
  exact Text.inRanges_eq_false_of_apart apart digit

theorem IsNumeral.solid {digits rest : List Char} (isNumeral : IsNumeral digits rest) :
    ∀ char ∈ (digits ++ rest).head?, isBlank char = false := by
  obtain ⟨first, others, rfl⟩ := List.exists_cons_of_ne_nil isNumeral.nonempty
  intro char isHead
  obtain rfl := Option.some.inj isHead
  exact isBlank_of_isDigit (isNumeral.areDigits first List.mem_cons_self)

theorem solid_quoted (text rest : List Char) :
    ∀ char ∈ (quoted text rest).head?, isBlank char = false := by
  intro char isHead
  obtain rfl := Option.some.inj isHead
  decide

/-- A numeral ends in front of a gap. -/
theorem IsGap.ends {gap rest : List Char} (isGap : IsGap gap) :
    ∀ char ∈ (gap ++ rest).head?, isDigit char = false := by
  obtain ⟨first, others, rfl⟩ := List.exists_cons_of_ne_nil isGap.1
  intro char isHead
  obtain rfl := Option.some.inj isHead
  have blank := isGap.2 first List.mem_cons_self
  rw [Bool.eq_false_iff]
  intro digit
  rw [isBlank_of_isDigit digit] at blank
  exact Bool.false_ne_true blank

/-! ## Reading the parts -/

theorem takeBlanks_eq_some_iff {text rest : List Char} :
    takeBlanks text = some rest ↔
      (∀ char ∈ rest.head?, isBlank char = false) ∧ ∃ gap, IsGap gap ∧ text = gap ++ rest := by
  cases text with
  | nil =>
      simp only [takeBlanks, reduceCtorEq, false_iff, not_and, not_exists]
      intro _ gap isGap isText
      exact isGap.1 (List.append_eq_nil_iff.mp isText.symm).1
  | cons first text =>
      by_cases blank : isBlank first = true
      · rw [takeBlanks, if_pos blank, Option.some.injEq, Text.trimStart_eq_iff]
        refine and_congr_right fun _ => ⟨?_, ?_⟩
        · rintro ⟨indent, blanks, rfl⟩
          exact ⟨first :: indent, ⟨List.cons_ne_nil _ _, List.forall_mem_cons.mpr ⟨blank, blanks⟩⟩,
            rfl⟩
        · rintro ⟨gap, ⟨nonempty, blanks⟩, isText⟩
          obtain ⟨other, indent, rfl⟩ := List.exists_cons_of_ne_nil nonempty
          exact ⟨indent, (List.forall_mem_cons.mp blanks).2, (List.cons.inj isText).2⟩
      · rw [takeBlanks, if_neg blank]
        simp only [reduceCtorEq, false_iff, not_and, not_exists]
        rintro _ gap ⟨nonempty, blanks⟩ isText
        obtain ⟨other, indent, rfl⟩ := List.exists_cons_of_ne_nil nonempty
        rw [(List.cons.inj isText).1] at blank
        exact blank (blanks other List.mem_cons_self)

theorem takeDigits_eq_some_iff {text digits rest : List Char} :
    takeDigits text = some (digits, rest) ↔ IsNumeral digits rest ∧ text = digits ++ rest := by
  unfold takeDigits
  dsimp only
  constructor
  · intro read
    split at read
    · cases read
    · rename_i notEmpty
      obtain ⟨rfl, rfl⟩ := Prod.mk.inj (Option.some.inj read)
      have cuts := Text.cutsAt_takeWhile isDigit text
      exact ⟨⟨by simpa using notEmpty, cuts.whole, cuts.ends⟩,
        List.takeWhile_append_dropWhile.symm⟩
  · rintro ⟨⟨nonempty, areDigits, ends⟩, rfl⟩
    have cuts : Text.CutsAt isDigit digits rest := ⟨areDigits, ends⟩
    rw [cuts.takeWhile_eq, cuts.dropWhile_eq, if_neg (by simpa using nonempty)]

theorem takeQuoted_eq_some_iff {text inner rest : List Char} :
    takeQuoted text = some (inner, rest) ↔ '"' ∉ inner ∧ text = quoted inner rest := by
  constructor
  · intro read
    unfold takeQuoted at read
    split at read
    · rename_i body
      split at read
      · rename_i after isAfter
        obtain ⟨rfl, rfl⟩ := Prod.mk.inj (Option.some.inj read)
        have cuts := Text.cutsAt_takeWhile (· != '"') body
        refine ⟨fun member => ?_, ?_⟩
        · simpa using cuts.whole '"' member
        · rw [quoted, ← isAfter, List.takeWhile_append_dropWhile]
      · cases read
    · cases read
  · rintro ⟨noQuote, rfl⟩
    have cuts : Text.CutsAt (· != '"') inner ('"' :: rest) := by
      refine ⟨fun char member => ?_, fun char isHead => ?_⟩
      · rw [bne_iff_ne]
        rintro rfl
        exact noQuote member
      · obtain rfl := Option.some.inj isHead
        decide
    simp only [takeQuoted, quoted, cuts.takeWhile_eq, cuts.dropWhile_eq]

/-- A directive, which begins with a dot, stands behind nothing but blanks. -/
theorem takeKeyword_eq_some_iff {keyword line rest : List Char} :
    takeKeyword ('.' :: keyword) line = some rest ↔
      ∃ indent, AreBlanks indent ∧ line = indent ++ ('.' :: keyword ++ rest) := by
  have solid : ∀ char ∈ ('.' :: keyword ++ rest).head?, isBlank char = false := by
    intro char isHead
    obtain rfl := Option.some.inj isHead
    decide
  rw [takeKeyword, List.isPrefixOf?_eq_some_iff_append_eq, eq_comm, Text.trimStart_eq_iff]
  exact ⟨And.right, fun indented => ⟨solid, indented⟩⟩

/-- A number behind a gap. -/
theorem takeBlanks_takeDigits_iff {text digits rest : List Char} :
    (∃ body, takeBlanks text = some body ∧ takeDigits body = some (digits, rest)) ↔
      ∃ gap, IsGap gap ∧ IsNumeral digits rest ∧ text = gap ++ (digits ++ rest) := by
  simp only [takeBlanks_eq_some_iff, takeDigits_eq_some_iff]
  constructor
  · rintro ⟨body, ⟨-, gap, isGap, rfl⟩, isNumeral, rfl⟩
    exact ⟨gap, isGap, isNumeral, rfl⟩
  · rintro ⟨gap, isGap, isNumeral, rfl⟩
    exact ⟨digits ++ rest, ⟨isNumeral.solid, gap, isGap, rfl⟩, isNumeral, rfl⟩

/-- A quoted name behind a gap. -/
theorem takeBlanks_takeQuoted_iff {text inner rest : List Char} :
    (∃ body, takeBlanks text = some body ∧ takeQuoted body = some (inner, rest)) ↔
      ∃ gap, IsGap gap ∧ '"' ∉ inner ∧ text = gap ++ quoted inner rest := by
  simp only [takeBlanks_eq_some_iff, takeQuoted_eq_some_iff]
  constructor
  · rintro ⟨body, ⟨-, gap, isGap, rfl⟩, noQuote, rfl⟩
    exact ⟨gap, isGap, noQuote, rfl⟩
  · rintro ⟨gap, isGap, noQuote, rfl⟩
    exact ⟨quoted inner rest, ⟨solid_quoted inner rest, gap, isGap, rfl⟩, noQuote, rfl⟩

/-! ## The forms of the records -/

/-- A line begins with `.file index "name"`. -/
def StartsFile (line index name rest : List Char) : Prop :=
  ∃ indent gap space, AreBlanks indent ∧ IsGap gap ∧ IsGap space ∧
    IsNumeral index (space ++ quoted name rest) ∧ '"' ∉ name ∧
      line = indent ++ (['.', 'f', 'i', 'l', 'e'] ++
        (gap ++ (index ++ (space ++ quoted name rest))))

/-- A second name in quotes follows the first. -/
def AnotherName (rest name : List Char) : Prop :=
  ∃ gap after, IsGap gap ∧ '"' ∉ name ∧ rest = gap ++ quoted name after

/-- A line begins with `.loc file number`. -/
def StartsLocation (line file number rest : List Char) : Prop :=
  ∃ indent gap space, AreBlanks indent ∧ IsGap gap ∧ IsGap space ∧
    IsNumeral file (space ++ (number ++ rest)) ∧ IsNumeral number rest ∧
      line = indent ++ (['.', 'l', 'o', 'c'] ++ (gap ++ (file ++ (space ++ (number ++ rest)))))

/-- A column follows the line number. -/
def AColumn (rest column : List Char) : Prop :=
  ∃ gap after, IsGap gap ∧ IsNumeral column after ∧ rest = gap ++ (column ++ after)

/-- A line begins with `.dbg line`. -/
def StartsDebugLine (line rest : List Char) : Prop :=
  ∃ indent gap, AreBlanks indent ∧ IsGap gap ∧
    line = indent ++ (['.', 'd', 'b', 'g'] ++ (gap ++ (['l', 'i', 'n', 'e'] ++ rest)))

/-- `, "file", number` follows `.dbg line`. -/
def APlace (rest file number : List Char) : Prop :=
  ∃ space space' after, AreBlanks space ∧ AreBlanks space' ∧ '"' ∉ file ∧
    IsNumeral number after ∧
      rest = ',' :: (space ++ quoted file (',' :: (space' ++ (number ++ after))))

/-- The record that a line holds.  What may follow belongs to it if it is there. -/
inductive HoldsRecord (line : List Char) : LineRecord → Prop
  | file {index name rest : List Char} (starts : StartsFile line index name rest)
      (alone : ∀ other, ¬AnotherName rest other) : HoldsRecord line (.file index name)
  | fileIn {index directory name rest : List Char}
      (starts : StartsFile line index directory rest) (follows : AnotherName rest name) :
      HoldsRecord line (.file index (directory ++ '/' :: name))
  | location {file number rest : List Char} (starts : StartsLocation line file number rest)
      (alone : ∀ column, ¬AColumn rest column) :
      HoldsRecord line (.location file number none)
  | locationColumn {file number column rest : List Char}
      (starts : StartsLocation line file number rest) (follows : AColumn rest column) :
      HoldsRecord line (.location file number (some column))
  | debugBare {rest : List Char} (starts : StartsDebugLine line rest)
      (alone : ∀ file number, ¬APlace rest file number) : HoldsRecord line (.debugLine none)
  | debugPlace {rest file number : List Char} (starts : StartsDebugLine line rest)
      (follows : APlace rest file number) : HoldsRecord line (.debugLine (some (file, number)))

/-! ## Reading the records -/

/-- A part that may follow is in the record exactly if it is there. -/
theorem eq_elim_iff {found : Option (List Char × List Char)} {Follows : List Char → Prop}
    {record alone : LineRecord} {along : List Char → LineRecord}
    (reads : ∀ part, (∃ rest, found = some (part, rest)) ↔ Follows part) :
    record = (found.map (·.1)).elim alone along ↔
      (record = alone ∧ ∀ part, ¬Follows part) ∨ ∃ part, record = along part ∧ Follows part := by
  simp only [← reads]
  rcases found with - | ⟨part, rest⟩
  · simp
  · simp

theorem takeQuoted_second_iff {rest name : List Char} :
    (∃ after, (takeBlanks rest).bind takeQuoted = some (name, after)) ↔ AnotherName rest name := by
  simp only [Option.bind_eq_some_iff, takeBlanks_takeQuoted_iff, AnotherName]
  exact exists_comm

theorem takeDigits_column_iff {rest column : List Char} :
    (∃ after, (takeBlanks rest).bind takeDigits = some (column, after)) ↔ AColumn rest column := by
  simp only [Option.bind_eq_some_iff, takeBlanks_takeDigits_iff, AColumn]
  exact exists_comm

theorem startsFile_iff {line index name rest : List Char} :
    StartsFile line index name rest ↔
      ∃ body, takeKeyword ['.', 'f', 'i', 'l', 'e'] line = some body ∧
        ∃ behind, (takeBlanks body).bind takeDigits = some (index, behind) ∧
          (takeBlanks behind).bind takeQuoted = some (name, rest) := by
  simp only [Option.bind_eq_some_iff, takeBlanks_takeDigits_iff, takeBlanks_takeQuoted_iff,
    takeKeyword_eq_some_iff]
  constructor
  · rintro ⟨indent, gap, space, isIndent, isGap, isSpace, isIndex, noQuote, rfl⟩
    exact ⟨_, ⟨indent, isIndent, rfl⟩, _, ⟨gap, isGap, isIndex, rfl⟩, space, isSpace, noQuote, rfl⟩
  · rintro ⟨_, ⟨indent, isIndent, rfl⟩, _, ⟨gap, isGap, isIndex, rfl⟩, space, isSpace, noQuote, rfl⟩
    exact ⟨indent, gap, space, isIndent, isGap, isSpace, isIndex, noQuote, rfl⟩

theorem startsLocation_iff {line file number rest : List Char} :
    StartsLocation line file number rest ↔
      ∃ body, takeKeyword ['.', 'l', 'o', 'c'] line = some body ∧
        ∃ behind, (takeBlanks body).bind takeDigits = some (file, behind) ∧
          (takeBlanks behind).bind takeDigits = some (number, rest) := by
  simp only [Option.bind_eq_some_iff, takeBlanks_takeDigits_iff, takeKeyword_eq_some_iff]
  constructor
  · rintro ⟨indent, gap, space, isIndent, isGap, isSpace, isFile, isNumber, rfl⟩
    exact ⟨_, ⟨indent, isIndent, rfl⟩, _, ⟨gap, isGap, isFile, rfl⟩, space, isSpace, isNumber, rfl⟩
  · rintro ⟨_, ⟨indent, isIndent, rfl⟩, _, ⟨gap, isGap, isFile, rfl⟩, space, isSpace, isNumber, rfl⟩
    exact ⟨indent, gap, space, isIndent, isGap, isSpace, isFile, isNumber, rfl⟩

/-- No digit or quote is a blank, so the word behind `.dbg` is found behind all blanks. -/
theorem startsDebugLine_iff {line rest : List Char} :
    StartsDebugLine line rest ↔
      ∃ body, takeKeyword ['.', 'd', 'b', 'g'] line = some body ∧
        ∃ word, takeBlanks body = some word ∧
          ['l', 'i', 'n', 'e'].isPrefixOf? word = some rest := by
  simp only [takeBlanks_eq_some_iff, takeKeyword_eq_some_iff,
    List.isPrefixOf?_eq_some_iff_append_eq]
  constructor
  · rintro ⟨indent, gap, isIndent, isGap, rfl⟩
    refine ⟨_, ⟨indent, isIndent, rfl⟩, _, ⟨?_, gap, isGap, rfl⟩, rfl⟩
    intro char isHead
    obtain rfl := Option.some.inj isHead
    decide
  · rintro ⟨_, ⟨indent, isIndent, rfl⟩, _, ⟨-, gap, isGap, rfl⟩, rfl⟩
    exact ⟨indent, gap, isIndent, isGap, rfl⟩

theorem debugPlace?_eq_some_iff {rest file number : List Char} :
    debugPlace? rest = some (file, number) ↔ APlace rest file number := by
  constructor
  · intro read
    unfold debugPlace? at read
    split at read
    · rename_i body
      obtain ⟨⟨name, behind⟩, isName, read⟩ := Option.bind_eq_some_iff.mp read
      dsimp only at read
      split at read
      · rename_i digits
        obtain ⟨⟨other, after⟩, isNumber, whole⟩ := Option.bind_eq_some_iff.mp read
        obtain ⟨rfl, rfl⟩ := Prod.mk.inj (Option.some.inj whole)
        obtain ⟨noQuote, isBody⟩ := takeQuoted_eq_some_iff.mp isName
        obtain ⟨isNumeral, isDigits⟩ := takeDigits_eq_some_iff.mp isNumber
        obtain ⟨-, space, isSpace, rfl⟩ := Text.trimStart_eq_iff.mp isBody
        obtain ⟨-, space', isSpace', rfl⟩ := Text.trimStart_eq_iff.mp isDigits
        exact ⟨space, space', after, isSpace, isSpace', noQuote, isNumeral, rfl⟩
      · cases read
    · cases read
  · rintro ⟨space, space', after, isSpace, isSpace', noQuote, isNumeral, rfl⟩
    have isName :
        takeQuoted (trimStart (space ++ quoted file (',' :: (space' ++ (number ++ after))))) =
          some (file, ',' :: (space' ++ (number ++ after))) := by
      rw [Text.trimStart_eq_iff.mpr ⟨solid_quoted _ _, space, isSpace, rfl⟩]
      exact takeQuoted_eq_some_iff.mpr ⟨noQuote, rfl⟩
    have isNumber :
        takeDigits (trimStart (space' ++ (number ++ after))) = some (number, after) := by
      rw [Text.trimStart_eq_iff.mpr ⟨isNumeral.solid, space', isSpace', rfl⟩]
      exact takeDigits_eq_some_iff.mpr ⟨isNumeral, rfl⟩
    simp [debugPlace?, isName, isNumber]

/-! ### Files -/

theorem exists_startsFile {line : List Char} {record : LineRecord}
    (read : fileRecord? line = some record) :
    ∃ index name rest, StartsFile line index name rest := by
  simp only [fileRecord?, Option.bind_eq_bind, Option.bind_eq_some_iff, Prod.exists] at read
  obtain ⟨body, keyword, _, blanks, index, behind, digits, _, moreBlanks, name, rest, quote, -⟩ :=
    read
  refine ⟨index, name, rest, startsFile_iff.mpr ⟨body, keyword, behind, ?_, ?_⟩⟩
  · exact Option.bind_eq_some_iff.mpr ⟨_, blanks, digits⟩
  · exact Option.bind_eq_some_iff.mpr ⟨_, moreBlanks, quote⟩

/-- What is read of a line that begins with the record of a file. -/
theorem fileRecord?_of_starts {line index name rest : List Char}
    (starts : StartsFile line index name rest) :
    fileRecord? line = some ((((takeBlanks rest).bind takeQuoted).map (·.1)).elim
      (.file index name) fun other => .file index (name ++ '/' :: other)) := by
  obtain ⟨body, keyword, behind, digits, quote⟩ := startsFile_iff.mp starts
  obtain ⟨_, blanks, digits⟩ := Option.bind_eq_some_iff.mp digits
  obtain ⟨_, moreBlanks, quote⟩ := Option.bind_eq_some_iff.mp quote
  simp only [fileRecord?, keyword, blanks, digits, moreBlanks, quote, Option.bind_eq_bind,
    Option.bind_some]
  cases (takeBlanks rest).bind takeQuoted <;> rfl

theorem fileRecord?_eq_some_iff {line : List Char} {record : LineRecord} :
    fileRecord? line = some record ↔ ∃ index name rest, StartsFile line index name rest ∧
      ((record = .file index name ∧ ∀ other, ¬AnotherName rest other) ∨
        ∃ other, record = .file index (name ++ '/' :: other) ∧ AnotherName rest other) := by
  constructor
  · intro read
    obtain ⟨index, name, rest, starts⟩ := exists_startsFile read
    rw [fileRecord?_of_starts starts, Option.some.injEq] at read
    exact ⟨index, name, rest, starts, (eq_elim_iff fun _ => takeQuoted_second_iff).mp read.symm⟩
  · rintro ⟨index, name, rest, starts, parts⟩
    rw [fileRecord?_of_starts starts, (eq_elim_iff fun _ => takeQuoted_second_iff).mpr parts]

/-! ### Positions -/

theorem exists_startsLocation {line : List Char} {record : LineRecord}
    (read : locationRecord? line = some record) :
    ∃ file number rest, StartsLocation line file number rest := by
  simp only [locationRecord?, Option.bind_eq_bind, Option.bind_eq_some_iff, Prod.exists] at read
  obtain ⟨body, keyword, _, blanks, file, behind, digits, _, moreBlanks, number, rest, moreDigits,
    -⟩ := read
  refine ⟨file, number, rest, startsLocation_iff.mpr ⟨body, keyword, behind, ?_, ?_⟩⟩
  · exact Option.bind_eq_some_iff.mpr ⟨_, blanks, digits⟩
  · exact Option.bind_eq_some_iff.mpr ⟨_, moreBlanks, moreDigits⟩

/-- What is read of a line that begins with the record of a position. -/
theorem locationRecord?_of_starts {line file number rest : List Char}
    (starts : StartsLocation line file number rest) :
    locationRecord? line = some ((((takeBlanks rest).bind takeDigits).map (·.1)).elim
      (.location file number none) fun column => .location file number (some column)) := by
  obtain ⟨body, keyword, behind, digits, moreDigits⟩ := startsLocation_iff.mp starts
  obtain ⟨_, blanks, digits⟩ := Option.bind_eq_some_iff.mp digits
  obtain ⟨_, moreBlanks, moreDigits⟩ := Option.bind_eq_some_iff.mp moreDigits
  simp only [locationRecord?, keyword, blanks, digits, moreBlanks, moreDigits,
    Option.bind_eq_bind, Option.bind_some]
  cases (takeBlanks rest).bind takeDigits <;> rfl

theorem locationRecord?_eq_some_iff {line : List Char} {record : LineRecord} :
    locationRecord? line = some record ↔ ∃ file number rest, StartsLocation line file number rest ∧
      ((record = .location file number none ∧ ∀ column, ¬AColumn rest column) ∨
        ∃ column, record = .location file number (some column) ∧ AColumn rest column) := by
  constructor
  · intro read
    obtain ⟨file, number, rest, starts⟩ := exists_startsLocation read
    rw [locationRecord?_of_starts starts, Option.some.injEq] at read
    exact ⟨file, number, rest, starts, (eq_elim_iff fun _ => takeDigits_column_iff).mp read.symm⟩
  · rintro ⟨file, number, rest, starts, parts⟩
    rw [locationRecord?_of_starts starts, (eq_elim_iff fun _ => takeDigits_column_iff).mpr parts]

theorem debugRecord?_eq_some_iff {line : List Char} {record : LineRecord} :
    debugRecord? line = some record ↔ ∃ rest, StartsDebugLine line rest ∧
      ((record = .debugLine none ∧ ∀ file number, ¬APlace rest file number) ∨
        ∃ file number, record = .debugLine (some (file, number)) ∧ APlace rest file number) := by
  have reads : debugRecord? line = some record ↔
      ∃ rest, StartsDebugLine line rest ∧ record = .debugLine (debugPlace? rest) := by
    simp only [debugRecord?, Option.bind_eq_bind, Option.bind_eq_some_iff, startsDebugLine_iff]
    constructor
    · rintro ⟨body, keyword, word, blanks, rest, isWord, whole⟩
      exact ⟨rest, ⟨body, keyword, word, blanks, isWord⟩, (Option.some.inj whole).symm⟩
    · rintro ⟨rest, ⟨body, keyword, word, blanks, isWord⟩, rfl⟩
      exact ⟨body, keyword, word, blanks, rest, isWord, rfl⟩
  rw [reads]
  refine exists_congr fun rest => and_congr_right fun _ => ?_
  simp only [← debugPlace?_eq_some_iff]
  cases debugPlace? rest with
  | none => simp
  | some place =>
      rcases place with ⟨file, number⟩
      simp

/-! ### All records -/

/-- A line begins with one directive only. -/
theorem takeKeyword_apart {keyword other line rest : List Char}
    (found : takeKeyword keyword line = some rest)
    (apart : other.isPrefixOf? (keyword ++ rest) = none) : takeKeyword other line = none := by
  rw [takeKeyword] at found ⊢
  rwa [← List.isPrefixOf?_eq_some_iff_append_eq.mp found]

theorem fileRecord?_of_location {line file number rest : List Char}
    (starts : StartsLocation line file number rest) : fileRecord? line = none := by
  obtain ⟨body, keyword, -⟩ := startsLocation_iff.mp starts
  have noFile : takeKeyword ['.', 'f', 'i', 'l', 'e'] line = none :=
    takeKeyword_apart keyword (by simp [List.isPrefixOf?])
  simp [fileRecord?, noFile]

theorem records_of_debugLine {line rest : List Char} (starts : StartsDebugLine line rest) :
    fileRecord? line = none ∧ locationRecord? line = none := by
  obtain ⟨body, keyword, -⟩ := startsDebugLine_iff.mp starts
  have noFile : takeKeyword ['.', 'f', 'i', 'l', 'e'] line = none :=
    takeKeyword_apart keyword (by simp [List.isPrefixOf?])
  have noLocation : takeKeyword ['.', 'l', 'o', 'c'] line = none :=
    takeKeyword_apart keyword (by simp [List.isPrefixOf?])
  simp [fileRecord?, locationRecord?, noFile, noLocation]

/-- A record is read off a line exactly if the line holds it. -/
theorem lineRecord?_eq_some_iff {line : List Char} {record : LineRecord} :
    lineRecord? line = some record ↔ HoldsRecord line record := by
  simp only [lineRecord?, Option.orElse_eq_orElse, Option.orElse_eq_or, Option.or_eq_some_iff,
    Option.or_eq_none_iff]
  constructor
  · rintro ((isFile | ⟨-, isLocation⟩) | ⟨-, isDebug⟩)
    · obtain ⟨index, name, rest, starts, ⟨rfl, alone⟩ | ⟨other, rfl, follows⟩⟩ :=
        fileRecord?_eq_some_iff.mp isFile
      · exact .file starts alone
      · exact .fileIn starts follows
    · obtain ⟨file, number, rest, starts, ⟨rfl, alone⟩ | ⟨column, rfl, follows⟩⟩ :=
        locationRecord?_eq_some_iff.mp isLocation
      · exact .location starts alone
      · exact .locationColumn starts follows
    · obtain ⟨rest, starts, ⟨rfl, alone⟩ | ⟨file, number, rfl, follows⟩⟩ :=
        debugRecord?_eq_some_iff.mp isDebug
      · exact .debugBare starts alone
      · exact .debugPlace starts follows
  · intro holds
    cases holds with
    | file starts alone =>
        exact .inl (.inl (fileRecord?_eq_some_iff.mpr ⟨_, _, _, starts, .inl ⟨rfl, alone⟩⟩))
    | fileIn starts follows =>
        exact .inl (.inl (fileRecord?_eq_some_iff.mpr ⟨_, _, _, starts, .inr ⟨_, rfl, follows⟩⟩))
    | location starts alone =>
        exact .inl (.inr ⟨fileRecord?_of_location starts,
          locationRecord?_eq_some_iff.mpr ⟨_, _, _, starts, .inl ⟨rfl, alone⟩⟩⟩)
    | locationColumn starts follows =>
        exact .inl (.inr ⟨fileRecord?_of_location starts,
          locationRecord?_eq_some_iff.mpr ⟨_, _, _, starts, .inr ⟨_, rfl, follows⟩⟩⟩)
    | debugBare starts alone =>
        exact .inr ⟨records_of_debugLine starts,
          debugRecord?_eq_some_iff.mpr ⟨_, starts, .inl ⟨rfl, alone⟩⟩⟩
    | debugPlace starts follows =>
        exact .inr ⟨records_of_debugLine starts,
          debugRecord?_eq_some_iff.mpr ⟨_, starts, .inr ⟨_, _, rfl, follows⟩⟩⟩

/-- A line holds one record at most. -/
theorem HoldsRecord.unique {line : List Char} {record other : LineRecord}
    (first : HoldsRecord line record) (second : HoldsRecord line other) : record = other := by
  rw [← lineRecord?_eq_some_iff] at first second
  exact Option.some.inj (first.symm.trans second)

end BuildExplorer.Listing
