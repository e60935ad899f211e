import BuildExplorer.Proofs.Decimal.Spelling
import BuildExplorer.Proofs.Diagnostic.Colour
import BuildExplorer.Proofs.Text.Interspersed
import BuildExplorer.Proofs.Text.Trimmed

/-!
# Diagnostics as tools write them

A tool writes a word for the file, a place in it and a message.  The place is a line
number and perhaps a column number, set apart by colons or by brackets.  Reading goes
through such a line once: each number goes up to the first character that is no digit,
the characters that close the place are passed over, and the blank behind them keeps the
message apart.  So what was written is read, whatever the message says.
-/

namespace BuildExplorer.Diagnostic

open Text (isBlank isDigit readUInt32 trim trimStart)

/-! ## Numbers -/

/-- The ten ASCII digits are among the digits of all scripts. -/
theorem isDigit_of_ascii {char : Char} (ascii : char.isDigit = true) : isDigit char = true := by
  have bounds : 48 ≤ char.toNat ∧ char.toNat ≤ 57 := by
    simpa [Char.isDigit, UInt32.le_iff_toNat_le] using ascii
  simp [isDigit, Text.digitRanges, Text.CodeRange.holds, bounds]

/-- A number is read up to what is no digit. -/
theorem takeNumber_toDigits (number : Nat) {rest : List Char}
    (ends : ∀ char ∈ rest.head?, isDigit char = false) :
    takeNumber (Nat.toDigits 10 number ++ rest) = some (Nat.toDigits 10 number, rest) := by
  have areDigits := Decimal.areDigits_toDigits number
  have cuts : Text.CutsAt isDigit (Nat.toDigits 10 number) rest :=
    ⟨fun char member => isDigit_of_ascii (areDigits.each char member), ends⟩
  have nonempty : (Nat.toDigits 10 number).isEmpty = false :=
    List.isEmpty_eq_false_iff.mpr areDigits.nonempty
  rw [takeNumber, cuts.takeWhile_eq, cuts.dropWhile_eq, nonempty]
  rfl

/-- No number begins with what is no digit. -/
theorem takeNumber_cons {char : Char} (notDigit : isDigit char = false) (rest : List Char) :
    takeNumber (char :: rest) = none := by
  simp [takeNumber, notDigit]

theorem readUInt32_toDigits (number : Nat) :
    readUInt32 (Nat.toDigits 10 number) =
      if number < UInt32.size then some (UInt32.ofNat number) else none := by
  have areDigits := Decimal.areDigits_toDigits number
  have isNumber : Text.numeralValue (Nat.toDigits 10 number) = number :=
    Nat.ofDigitChars_ten_toDigits
  have readable : ((Nat.toDigits 10 number).isEmpty ||
      !(Nat.toDigits 10 number).all Char.isDigit) = false := by
    simpa [areDigits.nonempty] using areDigits.each
  rw [readUInt32, Text.readNumeral, readable, if_neg Bool.false_ne_true, isNumber]
  dsimp only
  split <;> rfl

/-! ## Places -/

/-- How a tool sets a place apart: `:3:5:` or `(3,5):`. -/
inductive Style where
  | colons
  | brackets
  deriving DecidableEq, Repr

namespace Style

def opening : Style → Char
  | .colons => ':'
  | .brackets => '('

def separator : Style → Char
  | .colons => ':'
  | .brackets => ','

def closing : Style → List Char
  | .colons => [':']
  | .brackets => [')', ':']

/-- A column number as it is written behind a line number. -/
def column (style : Style) : Option Nat → List Char
  | none => []
  | some column => style.separator :: Nat.toDigits 10 column

/-- A place as it is written. -/
def place (style : Style) (line : Nat) (column : Option Nat) : List Char :=
  style.opening :: (Nat.toDigits 10 line ++ (style.column column ++ style.closing))

end Style

/-- What is read as the message: the rest of the line on which it begins, trimmed. -/
def messageOf (text : List Char) : List Char :=
  trim ((trimStart text).takeWhile (· != '\n'))

theorem messageOf_eq_trim {text : List Char} (noFeed : '\n' ∉ text) :
    messageOf text = trim text := by
  have oneLine : (trimStart text).takeWhile (· != '\n') = trimStart text := by
    refine List.takeWhile_eq_self_iff.mpr fun char member => ?_
    have inText : char ∈ text := (List.dropWhile_suffix isBlank).subset member
    simpa using ne_of_mem_of_not_mem inText noFeed
  rw [messageOf, oneLine, trim, Text.trimStart_trimStart, ← trim]

@[simp]
theorem dropOptional_self (char : Char) (rest : List Char) :
    dropOptional char (char :: rest) = rest :=
  if_pos rfl

theorem dropOptional_of_ne {char first : Char} (different : first ≠ char) (rest : List Char) :
    dropOptional char (first :: rest) = first :: rest :=
  if_neg different

/-- No digit is left out. -/
theorem dropOptional_toDigits {char : Char} (notDigit : char.isDigit = false) (number : Nat)
    (rest : List Char) :
    dropOptional char (Nat.toDigits 10 number ++ rest) = Nat.toDigits 10 number ++ rest := by
  have areDigits := Decimal.areDigits_toDigits number
  obtain ⟨first, others, isNumber⟩ := List.exists_cons_of_ne_nil areDigits.nonempty
  have isFirst : first.isDigit = true := areDigits.each first (by simp [isNumber])
  have different : first ≠ char := by
    rintro rfl
    rw [isFirst] at notDigit
    exact Bool.false_ne_true notDigit.symm
  rw [isNumber, List.cons_append, dropOptional_of_ne different]

/-- Where no column was written, none is read: a blank follows what closes the place. -/
theorem takeColumn_closing (style : Style) (message : List Char) :
    takeColumn (style.closing ++ ' ' :: message) = none := by
  have blank : takeNumber (' ' :: message) = none := takeNumber_cons (by decide) message
  have bracket : takeNumber (')' :: ':' :: ' ' :: message) = none :=
    takeNumber_cons (by decide) _
  cases style with
  | colons => simp [takeColumn, Style.closing, dropOptional_of_ne, blank]
  | brackets => simp [takeColumn, Style.closing, dropOptional_of_ne, bracket]

/-- A column that was written is read, and what is left in front of the message closes
the place. -/
theorem takeColumn_column (style : Style) (column : Nat) (message : List Char) :
    ∃ closing, (∀ char ∈ closing, char = ')' ∨ char = ':') ∧
      takeColumn (style.column (some column) ++ (style.closing ++ ' ' :: message)) =
        some (Nat.toDigits 10 column, closing ++ ' ' :: message) := by
  cases style with
  | colons =>
      have whole : ∀ rest, dropOptional ',' (Nat.toDigits 10 column ++ rest) =
          Nat.toDigits 10 column ++ rest := dropOptional_toDigits (by decide) column
      have number : takeNumber (Nat.toDigits 10 column ++ ':' :: ' ' :: message) =
          some (Nat.toDigits 10 column, ':' :: ' ' :: message) :=
        takeNumber_toDigits column (by rintro char ⟨⟩; decide)
      refine ⟨[], by simp, ?_⟩
      simp [takeColumn, Style.column, Style.separator, Style.closing, whole, number]
  | brackets =>
      have number : takeNumber (Nat.toDigits 10 column ++ ')' :: ':' :: ' ' :: message) =
          some (Nat.toDigits 10 column, ')' :: ':' :: ' ' :: message) :=
        takeNumber_toDigits column (by rintro char ⟨⟩; decide)
      refine ⟨[')', ':'], by simp, ?_⟩
      simp [takeColumn, Style.column, Style.separator, Style.closing, dropOptional_of_ne, number]

/-- What closes a place is passed over, and so is the blank behind it. -/
theorem trimStart_dropWhile_closing {closing : List Char}
    (closes : ∀ char ∈ closing, char = ')' ∨ char = ':') (message : List Char) :
    trimStart ((closing ++ ' ' :: message).dropWhile fun char => char == ')' || char == ':') =
      trimStart message := by
  have cuts : Text.CutsAt (fun char => char == ')' || char == ':') closing (' ' :: message) := by
    refine ⟨fun char member => by simpa using closes char member, ?_⟩
    rintro char ⟨⟩
    decide
  rw [cuts.dropWhile_eq, Text.trimStart_cons, if_pos (by decide)]

/-- A place is read as it was written, and the message is read behind it. -/
theorem takePlace_place (style : Style) (line : Nat) (column : Option Nat)
    (message : List Char) :
    takePlace (style.place line column ++ ' ' :: message) =
      some (Nat.toDigits 10 line, column.map (Nat.toDigits 10), messageOf message) := by
  have opens : (decide (style.opening = '(') || decide (style.opening = ':')) = true := by
    cases style <;> decide
  have ends : ∀ char ∈ (style.column column ++ (style.closing ++ ' ' :: message)).head?,
      isDigit char = false := by
    cases column <;> cases style <;> rintro char ⟨⟩ <;> decide
  have number := takeNumber_toDigits line ends
  rw [Style.place, List.cons_append, takePlace, if_pos opens, List.append_assoc, List.append_assoc,
    number, Option.map_some]
  cases column with
  | none =>
      have closes : ∀ char ∈ style.closing, char = ')' ∨ char = ':' := by
        cases style <;> simp [Style.closing]
      simp only [Style.column, List.nil_append, takeColumn_closing,
        trimStart_dropWhile_closing closes]
      rfl
  | some column =>
      obtain ⟨closing, closes, read⟩ := takeColumn_column style column message
      simp only [read, trimStart_dropWhile_closing closes]
      rfl

/-! ## The severity -/

/-- The text begins with the word, in small letters or capitals. -/
def BeginsWith (word text : List Char) : Prop :=
  ∃ front back, text = front ++ back ∧ front.map Char.toLower = word

theorem startsWithWord_iff {word text : List Char} :
    startsWithWord word text = true ↔ BeginsWith word text := by
  rw [startsWithWord, List.isPrefixOf_iff_prefix, List.prefix_map_iff]
  constructor
  · rintro ⟨front, ⟨back, rfl⟩, rfl⟩
    exact ⟨front, back, rfl, rfl⟩
  · rintro ⟨front, back, rfl, rfl⟩
    exact ⟨front, List.prefix_append front back, rfl⟩

/-- The severity that a message announces with its first word. -/
inductive Announces (message : List Char) : Severity → Prop
  | error (begins : BeginsWith "error".toList message) : Announces message .error
  | fatal (begins : BeginsWith "fatal error".toList message) : Announces message .error
  | warning (begins : BeginsWith "warning".toList message) : Announces message .warning
  | info (noError : ¬BeginsWith "error".toList message)
      (notFatal : ¬BeginsWith "fatal error".toList message)
      (noWarning : ¬BeginsWith "warning".toList message) : Announces message .info

/-- The severity of a trimmed message is the one that it announces. -/
theorem announces_severityOf (text : List Char) :
    Announces (trim text) (severityOf (trim text)) := by
  have isError : ['e', 'r', 'r', 'o', 'r'] = "error".toList := by decide
  have isFatal :
      ['f', 'a', 't', 'a', 'l', ' ', 'e', 'r', 'r', 'o', 'r'] = "fatal error".toList := by
    decide
  have isWarning : ['w', 'a', 'r', 'n', 'i', 'n', 'g'] = "warning".toList := by decide
  rw [severityOf, Text.trimStart_trim, isFatal, isError, isWarning]
  split
  · rename_i begins
    rw [Bool.or_eq_true, startsWithWord_iff, startsWithWord_iff] at begins
    rcases begins with error | fatal
    · exact .error error
    · exact .fatal fatal
  · rename_i noError
    rw [Bool.or_eq_true, startsWithWord_iff, startsWithWord_iff, not_or] at noError
    split
    · rename_i warning
      exact .warning (startsWithWord_iff.mp warning)
    · rename_i noWarning
      exact .info noError.1 noError.2 (fun begins => noWarning (startsWithWord_iff.mpr begins))

/-! ## Words for files -/

/-- The name of a file as diagnostics give it: path characters, with a dot among them. -/
structure FileWord where
  chars : List Char
  arePathChars : ∀ char ∈ chars, isPathChar char = true
  hasDot : '.' ∈ chars

theorem FileWord.nonempty (word : FileWord) : word.chars ≠ [] :=
  List.ne_nil_of_mem word.hasDot

/-- The word in front of a place: the placeholder or the name of a file. -/
inductive Location where
  | source
  | file (word : FileWord)

namespace Location

def word : Location → List Char
  | .source => sourcePlaceholder.toList
  | .file word => word.chars

/-- The file that a tag names. -/
def file? : Location → Option String
  | .source => none
  | .file word => some (String.ofList word.chars)

end Location

/-- No character of a path is a blank. -/
theorem isBlank_of_isPathChar {char : Char} (isPath : isPathChar char = true) :
    isBlank char = false := by
  simp only [isPathChar, Bool.or_eq_true, beq_iff_eq] at isPath
  rcases isPath with (((rfl | rfl) | rfl) | rfl) | isWord
  · decide
  · decide
  · decide
  · decide
  · exact Text.isBlank_of_isWordChar isWord

theorem ne_of_isPathChar {char other : Char} (isPath : isPathChar char = true)
    (notPath : isPathChar other = false) : char ≠ other := by
  rintro rfl
  rw [isPath] at notPath
  exact Bool.false_ne_true notPath.symm

/-- What follows some path characters is not blank at its front, either way. -/
theorem isBlank_head {front : List Char} (arePathChars : ∀ char ∈ front, isPathChar char = true)
    {next : Char} (notBlank : isBlank next = false) (rest : List Char) :
    ∀ char ∈ (front ++ next :: rest).head?, isBlank char = false := by
  cases front with
  | nil =>
      rintro char ⟨⟩
      exact notBlank
  | cons first front =>
      rintro char ⟨⟩
      exact isBlank_of_isPathChar (arePathChars first List.mem_cons_self)

section Words

variable {indent : List Char} (blanks : ∀ char ∈ indent, isBlank char = true)

include blanks

theorem trimStart_indent {text : List Char} (starts : ∀ char ∈ text.head?, isBlank char = false) :
    trimStart (indent ++ text) = text :=
  Text.trimStart_eq_iff.mpr ⟨starts, indent, blanks, rfl⟩

/-- Behind the placeholder, the place is read. -/
theorem sourceTag?_placeholder (rest : List Char) :
    sourceTag? (indent ++ (sourcePlaceholder.toList ++ rest)) =
      (takePlace rest).bind fun (number, column, message) =>
        tagAt none number column message := by
  have starts : ∀ char ∈ (sourcePlaceholder.toList ++ rest).head?, isBlank char = false := by
    rw [toList_sourcePlaceholder]
    rintro char ⟨⟩
    decide
  have isWord : sourcePlaceholder.toList.isPrefixOf? (sourcePlaceholder.toList ++ rest) =
      some rest := List.isPrefixOf?_eq_some_iff_append_eq.mpr rfl
  rw [sourceTag?, trimStart_indent blanks starts, isWord]
  rfl

/-- A line that does not begin with the placeholder is not about the source. -/
theorem sourceTag?_eq_none {first : Char} (notBlank : isBlank first = false) (other : first ≠ '<')
    (rest : List Char) : sourceTag? (indent ++ first :: rest) = none := by
  have starts : ∀ char ∈ (first :: rest).head?, isBlank char = false := by
    rintro char ⟨⟩
    exact notBlank
  have noWord : sourcePlaceholder.toList.isPrefixOf? (first :: rest) = none := by
    rw [Text.isPrefixOf?_eq_none_iff, toList_sourcePlaceholder]
    exact fun begins => other (List.cons_prefix_cons.mp begins).1.symm
  rw [sourceTag?, trimStart_indent blanks starts, noWord]
  rfl

/-- Behind the name of a file, the place is read. -/
theorem fileTag?_word (word : FileWord) {next : Char} (notPath : isPathChar next = false)
    (notBlank : isBlank next = false) (rest : List Char) :
    fileTag? (indent ++ (word.chars ++ next :: rest)) =
      (takePlace (next :: rest)).bind fun (number, column, message) =>
        tagAt (some (String.ofList word.chars)) number column message := by
  have cuts : Text.CutsAt isPathChar word.chars (next :: rest) := by
    refine ⟨word.arePathChars, ?_⟩
    rintro char ⟨⟩
    exact notPath
  have nonempty : word.chars.isEmpty = false := List.isEmpty_eq_false_iff.mpr word.nonempty
  have hasDot : word.chars.contains '.' = true := List.contains_iff_mem.mpr word.hasDot
  rw [fileTag?, trimStart_indent blanks (isBlank_head word.arePathChars notBlank rest)]
  simp only [cuts.takeWhile_eq, cuts.dropWhile_eq, nonempty, hasDot]
  rfl

/-- Where a bracket follows the path characters at the front, no file is named. -/
theorem fileTag?_bracket {front : List Char}
    (arePathChars : ∀ char ∈ front, isPathChar char = true) (rest : List Char) :
    fileTag? (indent ++ (front ++ '<' :: rest)) = none := by
  have cuts : Text.CutsAt isPathChar front ('<' :: rest) := by
    refine ⟨arePathChars, ?_⟩
    rintro char ⟨⟩
    decide
  rw [fileTag?, trimStart_indent blanks (isBlank_head arePathChars (by decide) rest)]
  simp only [cuts.takeWhile_eq, cuts.dropWhile_eq]
  split
  · rfl
  · simp [takePlace]

end Words

/-! ## Whole lines -/

theorem escape_not_mem_indent {indent : List Char}
    (blanks : ∀ char ∈ indent, isBlank char = true) : escapeChar ∉ indent :=
  fun member => absurd (blanks escapeChar member) (by decide)

theorem escape_not_mem_word (location : Location) : escapeChar ∉ location.word := by
  cases location with
  | source => decide
  | file word => exact fun member => absurd (word.arePathChars escapeChar member) (by decide)

theorem escape_not_mem_toDigits (number : Nat) : escapeChar ∉ Nat.toDigits 10 number :=
  fun member =>
    absurd ((Decimal.areDigits_toDigits number).each escapeChar member) (by decide)

theorem escape_not_mem_place (style : Style) (line : Nat) (column : Option Nat) :
    escapeChar ∉ style.place line column := by
  have noLine := escape_not_mem_toDigits line
  have noMark : escapeChar ≠ style.opening ∧ escapeChar ∉ style.closing ∧
      escapeChar ≠ style.separator := by
    cases style <;> decide
  cases column with
  | none => simp [Style.place, Style.column, noLine, noMark]
  | some column =>
      have noColumn := escape_not_mem_toDigits column
      simp [Style.place, Style.column, noLine, noColumn, noMark]

/-- A diagnostic as a tool writes it. -/
def written (indent : List Char) (location : Location) (style : Style) (line : Nat)
    (column : Option Nat) (message : List Char) : List Char :=
  indent ++ (location.word ++ (style.place line column ++ ' ' :: message))

/-- The tag of a diagnostic has its place and its message, without the colours. -/
theorem tag?_written {indent : List Char} (blanks : ∀ char ∈ indent, isBlank char = true)
    (location : Location) (style : Style) (line : Nat) (column : Option Nat)
    (message : List Char) :
    tag? (written indent location style line column message) =
      tagAt location.file? (Nat.toDigits 10 line) (column.map (Nat.toDigits 10))
        (messageOf (withoutColour message)) := by
  have plain : withoutColour (written indent location style line column message) =
      written indent location style line column (withoutColour message) := by
    have noBlank : ' ' ≠ escapeChar := by decide
    rw [written, withoutColour_append (escape_not_mem_indent blanks),
      withoutColour_append (escape_not_mem_word location),
      withoutColour_append (escape_not_mem_place style line column), withoutColour_cons noBlank]
    rfl
  have opens : isPathChar style.opening = false ∧ isBlank style.opening = false := by
    cases style <;> decide
  have isPlace := takePlace_place style line column (withoutColour message)
  rw [tag?, plain, written, Option.orElse_eq_orElse, Option.orElse_eq_or]
  cases location with
  | source =>
      have isSource : sourceTag? (indent ++ (Location.source.word ++
          (style.place line column ++ ' ' :: withoutColour message))) =
            tagAt none (Nat.toDigits 10 line) (column.map (Nat.toDigits 10))
              (messageOf (withoutColour message)) := by
        rw [Location.word, sourceTag?_placeholder blanks, isPlace]
        rfl
      have noFile : fileTag? (indent ++ (Location.source.word ++
          (style.place line column ++ ' ' :: withoutColour message))) = none := by
        have noFront : ∀ char ∈ ([] : List Char), isPathChar char = true := by simp
        rw [Location.word, toList_sourcePlaceholder]
        exact fileTag?_bracket blanks noFront _
      rw [isSource, noFile, Option.or_none]
      rfl
  | file word =>
      have noSource : sourceTag? (indent ++ ((Location.file word).word ++
          (style.place line column ++ ' ' :: withoutColour message))) = none := by
        obtain ⟨first, others, isWord⟩ := List.exists_cons_of_ne_nil word.nonempty
        have isPath : isPathChar first = true := word.arePathChars first (by simp [isWord])
        rw [Location.word, isWord]
        exact sourceTag?_eq_none blanks (isBlank_of_isPathChar isPath)
          (ne_of_isPathChar isPath (by decide)) _
      have isFile : fileTag? (indent ++ ((Location.file word).word ++
          (style.place line column ++ ' ' :: withoutColour message))) =
            tagAt (some (String.ofList word.chars)) (Nat.toDigits 10 line)
              (column.map (Nat.toDigits 10)) (messageOf (withoutColour message)) := by
        rw [Style.place, List.cons_append] at isPlace ⊢
        rw [Location.word, fileTag?_word blanks word opens.1 opens.2, isPlace]
        rfl
      rw [noSource, isFile, Option.none_or]
      rfl

/-- What is read of numbers: a line number that does not fit makes no tag, and a column
number that does not fit is left out. -/
theorem tagAt_toDigits (file : Option String) (line : Nat) (column : Option Nat)
    (message : List Char) :
    tagAt file (Nat.toDigits 10 line) (column.map (Nat.toDigits 10)) message =
      if line < UInt32.size then
        some {
          line := UInt32.ofNat line
          column := (column.filter (· < UInt32.size)).map UInt32.ofNat
          file
          text := String.ofList message
          severity := severityOf message }
      else none := by
  have isColumn : (column.map (Nat.toDigits 10)).bind readUInt32 =
      (column.filter (· < UInt32.size)).map UInt32.ofNat := by
    cases column with
    | none => rfl
    | some column =>
        rw [Option.map_some, Option.bind_some, readUInt32_toDigits, Option.filter_some]
        by_cases fits : column < UInt32.size <;> simp [fits]
  rw [tagAt, readUInt32_toDigits, isColumn]
  split <;> rfl

/-- A diagnostic that was written is read: its line and column number, its file, its
message without the blanks around it, and the severity that this announces.  A line
number that does not fit makes no tag. -/
theorem written_is_read {indent message : List Char}
    (blanks : ∀ char ∈ indent, isBlank char = true) (noFeed : '\n' ∉ message)
    (noEscape : escapeChar ∉ message) (location : Location) (style : Style) (line : Nat)
    (column : Option Nat) :
    let text := String.ofList (written indent location style line column message)
    (line < UInt32.size → (∀ number ∈ column, number < UInt32.size) →
      ∃ tag, ofLines none [text] = [⟨text, some tag⟩] ∧ tag.line.toNat = line ∧
        tag.column.map UInt32.toNat = column ∧ tag.file = location.file? ∧
          tag.text = String.ofList (trim message) ∧ Announces (trim message) tag.severity) ∧
    (UInt32.size ≤ line → ofLines none [text] = [⟨text, none⟩]) := by
  intro text
  have read : ofLines none [text] = [⟨text, if line < UInt32.size then
      some {
        line := UInt32.ofNat line
        column := (column.filter (· < UInt32.size)).map UInt32.ofNat
        file := location.file?
        text := String.ofList (trim message)
        severity := severityOf (trim message) }
      else none⟩] := by
    rw [← tagAt_toDigits, ← messageOf_eq_trim noFeed]
    have isTag := tag?_written blanks location style line column message
    rw [withoutColour_eq_self noEscape] at isTag
    simp only [ofLines, ofLine, withPlaceholder, List.map_cons, List.map_nil, text,
      String.toList_ofList, isTag]
  constructor
  · intro fits columnFits
    rw [if_pos fits] at read
    refine ⟨_, read, UInt32.toNat_ofNat_of_lt' fits, ?_, rfl, rfl, announces_severityOf message⟩
    cases column with
    | none => rfl
    | some number =>
        have numberFits := columnFits number rfl
        simp [Option.filter_some, numberFits, UInt32.toNat_ofNat_of_lt' numberFits]
  · intro large
    rwa [if_neg (Nat.not_lt.mpr large)] at read

/-- The theorem at a message that begins with digits and marks of its own. -/
theorem written_is_read_digits :
    let word : FileWord := ⟨"src\\a-1.h".toList, List.all_eq_true.mp (by decide), by decide⟩
    let indent := [' ', '\t']
    let message := "7:(8): Error, again ".toList
    let text := String.ofList (written indent (.file word) .colons 12 none message)
    (∀ char ∈ indent, isBlank char = true) ∧ '\n' ∉ message ∧ escapeChar ∉ message ∧
      12 < UInt32.size ∧ (∀ number ∈ (none : Option Nat), number < UInt32.size) ∧
        (12 < UInt32.size → (∀ number ∈ (none : Option Nat), number < UInt32.size) →
          ∃ tag, ofLines none [text] = [⟨text, some tag⟩] ∧ tag.line.toNat = 12 ∧
            tag.column.map UInt32.toNat = none ∧ tag.file = (Location.file word).file? ∧
              tag.text = String.ofList (trim message) ∧
                Announces (trim message) tag.severity) ∧
        (UInt32.size ≤ 12 → ofLines none [text] = [⟨text, none⟩]) := by
  intro word indent message text
  have blanks : ∀ char ∈ indent, isBlank char = true := List.all_eq_true.mp (by decide)
  have noFeed : '\n' ∉ message := by decide
  have noEscape : escapeChar ∉ message := by decide
  have columnFits : ∀ number ∈ (none : Option Nat), number < UInt32.size := by simp
  exact ⟨blanks, noFeed, noEscape, by decide, columnFits,
    written_is_read blanks noFeed noEscape (.file word) .colons 12 none⟩

end BuildExplorer.Diagnostic
