import BuildExplorer.Audit
import BuildExplorer.Text.Digit
import BuildExplorer.Text.Quoted

/-!
# Records that cannot be forged

An escape tells where it ends and which character it stands for, so a quoted text tells
where it ends and what is in it, and so does a list of quoted texts: whatever quotes,
commas, brackets and escapes stand in the texts themselves.  All that is written has a
visible form.

The arguments of a tool are texts of any kind, and they stand in the middle of a record of
one line.  They are quoted there, so they bring no line end into the record, and what was
quoted can be told from the record: no choice of arguments makes a record look like that
of others.
-/

namespace BuildExplorer.Text.Quoted

/-! ## Hexadecimal digits -/

/-- The number that hexadecimal digits spell. -/
def hexNumber (digits : List Char) : Nat :=
  digits.foldl (fun number digit => 16 * number + (hexValue digit).getD 0) 0

theorem hexNumber_concat (digits : List Char) (digit : Char) :
    hexNumber (digits ++ [digit]) = 16 * hexNumber digits + (hexValue digit).getD 0 := by
  rw [hexNumber, List.foldl_append]
  rfl

theorem hexValue_digitChar {value : Nat} (isDigit : value < 16) :
    hexValue value.digitChar = some value := by
  have each : ∀ value < 16, hexValue value.digitChar = some value := by decide
  exact each value isDigit

/-- The digits of a number spell the number. -/
theorem hexNumber_toDigits (number : Nat) : hexNumber (Nat.toDigits 16 number) = number := by
  induction number using Nat.strongRecOn with
  | ind number inductionHypothesis =>
      rw [Nat.toDigits_eq_if (by decide)]
      split
      · rename_i isDigit
        rw [← List.nil_append [number.digitChar], hexNumber_concat, hexValue_digitChar isDigit]
        exact Nat.zero_add number
      · rw [hexNumber_concat, inductionHypothesis (number / 16) (by omega),
          hexValue_digitChar (Nat.mod_lt _ (by decide)), Option.getD_some, Nat.div_add_mod]

/-- Each digit of a number is the digit of a value below the base. -/
theorem exists_of_mem_toDigits {number : Nat} {digit : Char}
    (member : digit ∈ Nat.toDigits 16 number) : ∃ value < 16, digit = value.digitChar := by
  induction number using Nat.strongRecOn with
  | ind number inductionHypothesis =>
      rw [Nat.toDigits_eq_if (by decide)] at member
      split at member
      · rename_i isDigit
        exact ⟨number, isDigit, List.mem_singleton.mp member⟩
      · rcases List.mem_append.mp member with earlier | isLast
        · exact inductionHypothesis (number / 16) (by omega) earlier
        · exact ⟨number % 16, Nat.mod_lt _ (by decide), List.mem_singleton.mp isLast⟩

theorem brace_not_mem_toDigits (number : Nat) : '\x7d' ∉ Nat.toDigits 16 number := by
  intro member
  obtain ⟨value, -, isDigit⟩ := exists_of_mem_toDigits member
  exact Nat.digitChar_ne '\x7d' (by decide) isDigit.symm

/-! ## Escapes -/

/-- The character that an escape of one letter stands for. -/
def shortEscape? : Char → Option Char
  | '"' => some '"'
  | '\\' => some '\\'
  | 'n' => some '\n'
  | 'r' => some '\r'
  | 't' => some '\t'
  | '0' => some '\x00'
  | _ => none

theorem mem_of_shortEscape? {letter char : Char} (denotes : shortEscape? letter = some char) :
    letter ∈ ['"', '\\', 'n', 'r', 't', '0'] := by
  unfold shortEscape? at denotes
  split at denotes <;> simp_all

/-- A character is written with an escape of one letter, as itself, or by its number. -/
theorem escape_cases (char : Char) :
    (∃ letter, shortEscape? letter = some char ∧ escape char = ['\\', letter]) ∨
      (char ≠ '\\' ∧ isPrintable char = true ∧ escape char = [char]) ∨
        escape char = ['\\', 'u', '\x7b'] ++ Nat.toDigits 16 char.toNat ++ ['\x7d'] := by
  unfold escape
  split
  · exact .inl ⟨'"', by simp [shortEscape?, *], rfl⟩
  split
  · exact .inl ⟨'\\', by simp [shortEscape?, *], rfl⟩
  split
  · exact .inl ⟨'n', by simp [shortEscape?, *], rfl⟩
  split
  · exact .inl ⟨'r', by simp [shortEscape?, *], rfl⟩
  split
  · exact .inl ⟨'t', by simp [shortEscape?, *], rfl⟩
  split
  · rename_i isNull
    obtain rfl : char = '\x00' := Char.toNat_inj.mp isNull
    exact .inl ⟨'0', rfl, rfl⟩
  split
  · exact .inr (.inl ⟨by assumption, by assumption, rfl⟩)
  · exact .inr (.inr rfl)

/-- Read a character inside the quotes: the character, and what is behind it. -/
def unescape? : List Char → Option (Char × List Char)
  | '\\' :: 'u' :: '\x7b' :: rest =>
      let digits := rest.takeWhile (· != '\x7d')
      some (Char.ofNat (hexNumber digits), rest.drop (digits.length + 1))
  | '\\' :: letter :: rest => (shortEscape? letter).map (·, rest)
  | char :: rest => some (char, rest)
  | [] => none

theorem unescape?_number (char : Char) (rest : List Char) :
    unescape? (['\\', 'u', '\x7b'] ++ Nat.toDigits 16 char.toNat ++ ['\x7d'] ++ rest) =
      some (char, rest) := by
  have digits : (Nat.toDigits 16 char.toNat ++ '\x7d' :: rest).takeWhile (· != '\x7d') =
      Nat.toDigits 16 char.toNat := by
    rw [List.takeWhile_append_of_pos, List.takeWhile_cons_of_neg (by decide), List.append_nil]
    intro digit member
    have apart : digit ≠ '\x7d' := fun isBrace => brace_not_mem_toDigits _ (isBrace ▸ member)
    simpa using apart
  simp only [List.cons_append, List.nil_append, List.append_assoc]
  rw [unescape?]
  simp only [digits, hexNumber_toDigits, Char.ofNat_toNat, ← List.drop_drop, List.drop_left]
  rfl

/-- A character that was escaped is read back, whatever is behind it. -/
theorem unescape?_escape (char : Char) (rest : List Char) :
    unescape? (escape char ++ rest) = some (char, rest) := by
  rcases escape_cases char with ⟨letter, denotes, isShort⟩ | ⟨notBackslash, -, isPlain⟩ | isNumber
  · have notNumber : letter ≠ 'u' := by
      rintro rfl
      cases denotes
    simp [isShort, unescape?, notNumber, denotes]
  · simp [isPlain, unescape?, notBackslash]
  · rw [isNumber]
    exact unescape?_number char rest

/-- An escape tells its character and where it ends. -/
theorem escape_append_inj {first second : Char} {rest others : List Char}
    (same : escape first ++ rest = escape second ++ others) : first = second ∧ rest = others := by
  have read := unescape?_escape first rest
  rw [same, unescape?_escape second others] at read
  obtain ⟨isFirst, isRest⟩ := Prod.mk.inj (Option.some.inj read)
  exact ⟨isFirst.symm, isRest.symm⟩

/-- No escape can be taken for the quote at the end. -/
theorem escape_append_ne_quote (char : Char) (rest others : List Char) :
    escape char ++ rest ≠ '"' :: others := by
  intro same
  have read := unescape?_escape char rest
  rw [same] at read
  obtain ⟨rfl, -⟩ := Prod.mk.inj (Option.some.inj (read.symm.trans (by rfl)))
  exact absurd (List.cons.inj same).1 (by decide)

/-! ## Texts and lists of texts -/

theorem flatMap_escape_append_inj {first second rest others : List Char}
    (same : first.flatMap escape ++ '"' :: rest = second.flatMap escape ++ '"' :: others) :
    first = second ∧ rest = others := by
  induction first generalizing second with
  | nil =>
      cases second with
      | nil => exact ⟨rfl, (List.cons.inj same).2⟩
      | cons char second =>
          rw [List.flatMap_cons, List.append_assoc] at same
          exact absurd same.symm (escape_append_ne_quote char _ _)
  | cons char first inductionHypothesis =>
      rw [List.flatMap_cons, List.append_assoc] at same
      cases second with
      | nil => exact absurd same (escape_append_ne_quote char _ _)
      | cons other second =>
          rw [List.flatMap_cons, List.append_assoc] at same
          obtain ⟨rfl, behind⟩ := escape_append_inj same
          obtain ⟨rfl, isRest⟩ := inductionHypothesis behind
          exact ⟨rfl, isRest⟩

/-- A quoted text tells its text and where it ends. -/
theorem encode_append_inj {first second rest others : List Char}
    (same : encode first ++ rest = encode second ++ others) : first = second ∧ rest = others := by
  simp only [encode, List.cons_append, List.append_assoc, List.nil_append] at same
  exact flatMap_escape_append_inj (List.cons.inj same).2

/-- What stands behind a member of a list: the members that follow, and the end. -/
def following : List (List Char) → List Char
  | [] => [']']
  | text :: texts => ',' :: ' ' :: encode text ++ following texts

theorem encodeList_cons (text : List Char) (texts : List (List Char)) :
    encodeList (text :: texts) = '[' :: encode text ++ following texts := by
  have parted : [',', ' '].intercalate ((text :: texts).map encode) ++ [']'] =
      encode text ++ following texts := by
    induction texts generalizing text with
    | nil => rw [List.map_singleton, List.intercalate_singleton, following]
    | cons second texts inductionHypothesis =>
        rw [List.map_cons, List.map_cons, List.intercalate_cons_cons, ← List.map_cons,
          List.append_assoc, inductionHypothesis second, List.append_assoc]
        rfl
  rw [encodeList, List.cons_append, parted]
  rfl

theorem following_append_inj {first second : List (List Char)} {rest others : List Char}
    (same : following first ++ rest = following second ++ others) :
    first = second ∧ rest = others := by
  induction first generalizing second with
  | nil =>
      cases second with
      | nil => exact ⟨rfl, (List.cons.inj same).2⟩
      | cons text second => exact absurd (List.cons.inj same).1 (by decide)
  | cons text first inductionHypothesis =>
      cases second with
      | nil => exact absurd (List.cons.inj same).1 (by decide)
      | cons other second =>
          simp only [following, List.cons_append, List.append_assoc, List.cons.injEq,
            true_and] at same
          obtain ⟨rfl, behind⟩ := encode_append_inj same
          obtain ⟨rfl, isRest⟩ := inductionHypothesis behind
          exact ⟨rfl, isRest⟩

/-- A list of quoted texts tells its texts and where it ends. -/
theorem encodeList_append_inj {first second : List (List Char)} {rest others : List Char}
    (same : encodeList first ++ rest = encodeList second ++ others) :
    first = second ∧ rest = others := by
  cases first with
  | nil =>
      cases second with
      | nil => exact ⟨rfl, List.append_cancel_left same⟩
      | cons text second =>
          rw [encodeList_cons] at same
          exact absurd (List.cons.inj (List.cons.inj same).2).1 (by decide)
  | cons text first =>
      rw [encodeList_cons] at same
      cases second with
      | nil => exact absurd (List.cons.inj (List.cons.inj same).2).1 (by decide)
      | cons other second =>
          rw [encodeList_cons] at same
          simp only [List.cons_append, List.append_assoc, List.cons.injEq, true_and] at same
          obtain ⟨rfl, behind⟩ := encode_append_inj same
          obtain ⟨rfl, isRest⟩ := following_append_inj behind
          exact ⟨rfl, isRest⟩

/-! ## What is written -/

theorem isPrintable_digitChar {value : Nat} (isDigit : value < 16) :
    isPrintable value.digitChar = true := by
  have each : ∀ value < 16, isPrintable value.digitChar = true := by decide
  exact each value isDigit

/-- An escape has a visible form. -/
theorem isPrintable_of_mem_escape {char written : Char} (member : written ∈ escape char) :
    isPrintable written = true := by
  have letters : ∀ letter ∈ ['"', '\\', 'n', 'r', 't', '0'], isPrintable letter = true :=
    List.all_eq_true.mp (by decide)
  have opening : ∀ written ∈ ['\\', 'u', '\x7b'], isPrintable written = true :=
    List.all_eq_true.mp (by decide)
  have closing : isPrintable '\x7d' = true := by decide
  rcases escape_cases char with ⟨letter, denotes, isShort⟩ | ⟨-, visible, isPlain⟩ | isNumber
  · rw [isShort, List.mem_cons, List.mem_singleton] at member
    rcases member with rfl | rfl
    · exact letters '\\' (by decide)
    · exact letters written (mem_of_shortEscape? denotes)
  · rw [isPlain] at member
    rwa [List.mem_singleton.mp member]
  · rw [isNumber, List.mem_append, List.mem_append] at member
    rcases member with (isOpening | isDigit) | isClosing
    · exact opening written isOpening
    · obtain ⟨value, small, rfl⟩ := exists_of_mem_toDigits isDigit
      exact isPrintable_digitChar small
    · rwa [List.mem_singleton.mp isClosing]

theorem isPrintable_of_mem_encode {text : List Char} {written : Char}
    (member : written ∈ encode text) : isPrintable written = true := by
  simp only [encode, List.mem_cons, List.mem_append, List.mem_flatMap, List.not_mem_nil,
    or_false] at member
  rcases member with (isQuote | ⟨char, -, inEscape⟩) | isQuote
  · rw [isQuote]
    decide
  · exact isPrintable_of_mem_escape inEscape
  · rw [isQuote]
    decide

theorem isPrintable_of_mem_following {texts : List (List Char)} {written : Char}
    (member : written ∈ following texts) : isPrintable written = true := by
  induction texts with
  | nil =>
      rw [List.mem_singleton.mp member]
      decide
  | cons text texts inductionHypothesis =>
      simp only [following, List.mem_cons, List.mem_append] at member
      rcases member with (isComma | isBlank | inText) | behind
      · rw [isComma]
        decide
      · rw [isBlank]
        decide
      · exact isPrintable_of_mem_encode inText
      · exact inductionHypothesis behind

/-- A list of quoted texts has a visible form, whatever is in the texts. -/
theorem isPrintable_of_mem_encodeList {texts : List (List Char)} {written : Char}
    (member : written ∈ encodeList texts) : isPrintable written = true := by
  cases texts with
  | nil =>
      have brackets : ∀ written ∈ ['[', ']'], isPrintable written = true :=
        List.all_eq_true.mp (by decide)
      exact brackets written member
  | cons text texts =>
      simp only [encodeList_cons, List.mem_cons, List.mem_append] at member
      rcases member with (isBracket | inText) | behind
      · rw [isBracket]
        decide
      · exact isPrintable_of_mem_encode inText
      · exact isPrintable_of_mem_following behind

end BuildExplorer.Text.Quoted

namespace BuildExplorer.Audit

/-! ## Records -/

theorem Level.noFeed_word (level : Level) : '\n' ∉ level.word.toList := by
  cases level <;> decide

/-- What stands in front of the arguments in a record. -/
def Record.opening (record : Record) : String :=
  "level=" ++ record.level.word ++ " toolchain=" ++ record.toolchain ++
    " command=" ++ record.command.text ++ " args="

/-- What stands behind the arguments in a record. -/
def Record.closing (record : Record) : String :=
  " msg=" ++ record.message

/-- The arguments stand in the middle of a record. -/
theorem Record.toList_text (record : Record) :
    record.text.toList = record.opening.toList ++
      (Text.Quoted.encodeList (record.args.map String.toList) ++ record.closing.toList) := by
  have parts : record.text = record.opening ++
      String.ofList (Text.Quoted.encodeList (record.args.map String.toList)) ++ " msg=" ++
        record.message := rfl
  rw [parts, String.append_assoc, String.toList_append, String.toList_append,
    String.toList_ofList, List.append_assoc]
  rfl

theorem Record.noFeed_opening {record : Record} (toolchain : '\n' ∉ record.toolchain.toList)
    (command : '\n' ∉ record.command.text.toList) : '\n' ∉ record.opening.toList := by
  have level := record.level.noFeed_word
  have words : ∀ word ∈ ["level=", " toolchain=", " command=", " args="], '\n' ∉ word.toList := by
    decide
  unfold opening
  simp only [String.toList_append, List.mem_append, not_or]
  exact ⟨⟨⟨⟨⟨⟨words _ (by decide), level⟩, words _ (by decide)⟩, toolchain⟩,
    words _ (by decide)⟩, command⟩, words _ (by decide)⟩

theorem Record.noFeed_closing {record : Record} (message : '\n' ∉ record.message.toList) :
    '\n' ∉ record.closing.toList := by
  rw [closing, String.toList_append, List.mem_append, not_or]
  exact ⟨by decide, message⟩

/-- Quoted arguments bring no line end into a record. -/
theorem noFeed_quoted (texts : List (List Char)) : '\n' ∉ Text.Quoted.encodeList texts := by
  intro member
  have visible := Text.Quoted.isPrintable_of_mem_encodeList member
  exact absurd visible (by decide)

/-- Whatever the arguments are, a record is one line if the other texts in it are, and two
records that differ in their arguments only have different texts. -/
theorem arguments_forge_no_record (record : Record) (args : List String) :
    ('\n' ∉ record.toolchain.toList → '\n' ∉ record.command.text.toList →
        '\n' ∉ record.message.toList → '\n' ∉ record.text.toList) ∧
      ({ record with args }.text = record.text ↔ args = record.args) := by
  constructor
  · intro toolchain command message
    rw [record.toList_text, List.mem_append, List.mem_append, not_or, not_or]
    exact ⟨Record.noFeed_opening toolchain command, noFeed_quoted _,
      Record.noFeed_closing message⟩
  · constructor
    · intro same
      have sameChars : { record with args }.text.toList = record.text.toList :=
        congrArg String.toList same
      rw [Record.toList_text, record.toList_text] at sameChars
      have quoted := List.append_cancel_left sameChars
      obtain ⟨sameTexts, -⟩ := Text.Quoted.encodeList_append_inj quoted
      exact (List.map_inj_right fun _ _ isSame => String.toList_injective isSame).mp sameTexts
    · rintro rfl
      rfl

/-- The theorem at a record with an argument that without its escapes would read as two, beside
the list with these two. -/
theorem arguments_forge_no_record_look_alike :
    let record : Record :=
      { level := .info, toolchain := "cc65", command := ⟨"/opt/cl65"⟩,
        args := ["-g", "a\", \"b"], message := "compile ok" }
    ('\n' ∉ record.toolchain.toList ∧ '\n' ∉ record.command.text.toList ∧
        '\n' ∉ record.message.toList ∧ '\n' ∉ record.text.toList) ∧
      { record with args := ["-g", "a", "b"] }.text ≠ record.text := by
  intro record
  obtain ⟨oneLine, tellsApart⟩ := arguments_forge_no_record record ["-g", "a", "b"]
  have toolchain : '\n' ∉ record.toolchain.toList := by decide
  have command : '\n' ∉ record.command.text.toList := by decide
  have message : '\n' ∉ record.message.toList := by decide
  refine ⟨⟨toolchain, command, message, oneLine toolchain command message⟩, fun same => ?_⟩
  exact absurd (tellsApart.mp same) (by decide)

end BuildExplorer.Audit
