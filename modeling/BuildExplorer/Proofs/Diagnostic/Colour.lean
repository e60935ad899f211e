import Mathlib.Data.List.Basic
import BuildExplorer.Proofs.Diagnostic.Placeholder

/-!
# Coloured lines

A coloured line is a plain one with complete colour sequences put between its characters.
The scan that takes the colour away goes over each sequence as a whole, and over a
character that is no escape as if it had just begun.  So it finds the plain line again,
wherever the sequences stand.

The name of the input file is replaced before that, in the coloured line.  It is found
there where it is found in the plain line, if no sequence stands inside of it and no part
of a sequence belongs to it.
-/

namespace BuildExplorer.Diagnostic

open Text (replaceAll)

/-! ## Sequences -/

/-- The ASCII letters stand behind the digits. -/
theorem isDigit_eq_false_of_isAlpha {char : Char} (isLetter : char.isAlpha = true) :
    char.isDigit = false := by
  have isCase : char.isUpper = true ∨ char.isLower = true := Bool.or_eq_true_iff.mp isLetter
  have behind : '9'.toNat < char.toNat := by
    rcases isCase with upper | lower
    · have bounds : 'A'.val ≤ char.val ∧ char.val ≤ 'Z'.val := of_decide_eq_true upper
      exact Nat.lt_of_lt_of_le (by decide) (UInt32.le_iff_toNat_le.mp bounds.1)
    · have bound : 'a'.val ≤ char.val := of_decide_eq_true (Bool.and_eq_true_iff.mp lower).1
      exact Nat.lt_of_lt_of_le (by decide) (UInt32.le_iff_toNat_le.mp bound)
  rw [Bool.eq_false_iff]
  intro isDigit
  exact absurd (Char.isDigit_iff_toNat.mp isDigit).2 (Nat.not_le.mpr behind)

/-- A complete colour sequence: its numbers, with the semicolons, and the letter that
ends it. -/
structure ColourSequence where
  parameters : List Char
  letter : Char
  areParameters : ∀ char ∈ parameters, isParameter char = true
  isLetter : letter.isAlpha = true

namespace ColourSequence

/-- The sequence as it is written. -/
def text (sequence : ColourSequence) : List Char :=
  escapeChar :: '[' :: (sequence.parameters ++ [sequence.letter])

/-- A letter is no number and no semicolon. -/
theorem isParameter_letter (sequence : ColourSequence) : isParameter sequence.letter = false := by
  have isLetter := sequence.isLetter
  rw [isParameter, Bool.or_eq_false_iff]
  constructor
  · exact isDigit_eq_false_of_isAlpha isLetter
  · rw [beq_eq_false_iff_ne]
    rintro isSemicolon
    rw [isSemicolon] at isLetter
    exact absurd isLetter (by decide)

/-- A sequence holds no slash. -/
theorem slash_not_mem_text (sequence : ColourSequence) : '/' ∉ sequence.text := by
  intro member
  simp only [text, List.mem_cons, List.mem_append, List.not_mem_nil, or_false] at member
  rcases member with isEscape | isBracket | isParameter | isLast
  · exact absurd isEscape (by decide)
  · exact absurd isBracket (by decide)
  · exact absurd (sequence.areParameters _ isParameter) (by decide)
  · have isLetter := sequence.isLetter
    rw [← isLast] at isLetter
    exact absurd isLetter (by decide)

end ColourSequence

/-! ## The scan -/

/-- What is known to be text does not change what is still to come. -/
theorem uncolourFrom_eq_append (held done text : List Char) :
    uncolourFrom held done text = done.reverse ++ uncolourFrom held [] text := by
  induction text generalizing held done with
  | nil => simp [uncolourFrom]
  | cons char rest inductionHypothesis =>
      simp only [uncolourFrom]
      split_ifs
      · exact inductionHypothesis _ _
      · exact inductionHypothesis _ _
      · rw [inductionHypothesis, inductionHypothesis _ (held ++ [])]
        simp
      · rw [inductionHypothesis, inductionHypothesis _ (char :: held ++ [])]
        simp

/-- A character that is no escape is text, where no sequence has begun. -/
theorem withoutColour_cons {char : Char} (notEscape : char ≠ escapeChar) (rest : List Char) :
    withoutColour (char :: rest) = char :: withoutColour rest := by
  have isText : withoutColour (char :: rest) = uncolourFrom [] [char] rest := by
    simp [withoutColour, uncolourFrom, notEscape]
  rw [isText, uncolourFrom_eq_append]
  rfl

theorem withoutColour_append {front : List Char} (noEscape : escapeChar ∉ front)
    (back : List Char) : withoutColour (front ++ back) = front ++ withoutColour back := by
  induction front with
  | nil => rfl
  | cons char front inductionHypothesis =>
      rw [List.mem_cons, not_or] at noEscape
      rw [List.cons_append, withoutColour_cons (Ne.symm noEscape.1), inductionHypothesis noEscape.2,
        List.cons_append]

/-- A text without escapes has no colour. -/
theorem withoutColour_eq_self {text : List Char} (noEscape : escapeChar ∉ text) :
    withoutColour text = text := by
  simpa using withoutColour_append noEscape []

/-- A sequence that has begun goes on to its letter and is then dropped. -/
theorem uncolourFrom_begun (last previous : Char) (others : List Char) {parameters : List Char}
    (areParameters : ∀ char ∈ parameters, isParameter char = true) {letter : Char}
    (notParameter : isParameter letter = false) (isLetter : letter.isAlpha = true)
    (done rest : List Char) :
    uncolourFrom (last :: previous :: others) done (parameters ++ letter :: rest) =
      uncolourFrom [] done rest := by
  induction parameters generalizing last previous others with
  | nil =>
      rw [List.nil_append, uncolourFrom]
      · simp [notParameter, isLetter]
      · exact List.cons_ne_nil _ _
      · simp
  | cons char parameters inductionHypothesis =>
      obtain ⟨isFirst, areOthers⟩ := List.forall_mem_cons.mp areParameters
      rw [List.cons_append, uncolourFrom]
      · simp only [isFirst, if_true]
        exact inductionHypothesis char last (previous :: others) areOthers
      · exact List.cons_ne_nil _ _
      · simp

/-- A sequence is passed over. -/
theorem withoutColour_sequence (sequence : ColourSequence) (rest : List Char) :
    withoutColour (sequence.text ++ rest) = withoutColour rest := by
  have begins : withoutColour (sequence.text ++ rest) =
      uncolourFrom ['[', escapeChar] [] (sequence.parameters ++ sequence.letter :: rest) := by
    simp [withoutColour, ColourSequence.text, uncolourFrom]
  rw [begins, uncolourFrom_begun '[' escapeChar [] sequence.areParameters
    sequence.isParameter_letter sequence.isLetter]
  rfl

/-! ## Pieces of a coloured line -/

/-- A character of the line itself, or a sequence that was put into it. -/
inductive Piece where
  | own (char : Char)
  | colour (sequence : ColourSequence)

namespace Piece

/-- The piece as it is written. -/
def coloured : Piece → List Char
  | .own char => [char]
  | .colour sequence => sequence.text

/-- What the plain line has of the piece. -/
def plain : Piece → List Char
  | .own char => [char]
  | .colour _ => []

/-- The sequence, if the piece is one. -/
def sequence? : Piece → Option ColourSequence
  | .own _ => none
  | .colour sequence => some sequence

end Piece

/-- The line with its colours. -/
def colouredText (pieces : List Piece) : List Char :=
  pieces.flatMap Piece.coloured

/-- The line without the sequences. -/
def plainText (pieces : List Piece) : List Char :=
  pieces.flatMap Piece.plain

/-- The sequences in the line, in order. -/
def sequences (pieces : List Piece) : List ColourSequence :=
  pieces.filterMap Piece.sequence?

section Pieces

variable (char : Char) (sequence : ColourSequence) (pieces others : List Piece)

@[simp]
theorem colouredText_own :
    colouredText (.own char :: pieces) = char :: colouredText pieces :=
  rfl

@[simp]
theorem colouredText_colour :
    colouredText (.colour sequence :: pieces) = sequence.text ++ colouredText pieces :=
  rfl

@[simp]
theorem plainText_own : plainText (.own char :: pieces) = char :: plainText pieces :=
  rfl

@[simp]
theorem plainText_colour : plainText (.colour sequence :: pieces) = plainText pieces :=
  rfl

theorem plainText_append : plainText (pieces ++ others) = plainText pieces ++ plainText others :=
  List.flatMap_append

theorem colouredText_append :
    colouredText (pieces ++ others) = colouredText pieces ++ colouredText others :=
  List.flatMap_append

theorem sequences_append : sequences (pieces ++ others) = sequences pieces ++ sequences others :=
  List.filterMap_append

end Pieces

section Characters

variable (text : List Char)

theorem plainText_map_own : plainText (text.map .own) = text := by
  simp [plainText, List.flatMap_map, Piece.plain]

theorem colouredText_map_own : colouredText (text.map .own) = text := by
  simp [colouredText, List.flatMap_map, Piece.coloured]

theorem sequences_map_own : sequences (text.map .own) = [] := by
  simp [sequences, List.filterMap_map, Piece.sequence?]

end Characters

/-- Without its colours, a coloured line is the plain one. -/
theorem withoutColour_colouredText {pieces : List Piece}
    (noEscape : escapeChar ∉ plainText pieces) :
    withoutColour (colouredText pieces) = plainText pieces := by
  induction pieces with
  | nil => rfl
  | cons piece pieces inductionHypothesis =>
      cases piece with
      | own char =>
          rw [plainText_own, List.mem_cons, not_or] at noEscape
          rw [colouredText_own, withoutColour_cons (Ne.symm noEscape.1), plainText_own,
            inductionHypothesis noEscape.2]
      | colour sequence =>
          rw [colouredText_colour, withoutColour_sequence, plainText_colour]
          exact inductionHypothesis noEscape

/-- The plain line has the same tag as the coloured one. -/
theorem tag?_colouredText {pieces : List Piece} (noEscape : escapeChar ∉ plainText pieces) :
    tag? (colouredText pieces) = tag? (plainText pieces) := by
  rw [tag?, tag?, withoutColour_colouredText noEscape, withoutColour_eq_self noEscape]

/-! ## Names in a coloured line -/

/-- A sequence stands inside an occurrence of the word in the plain line: the word begins
in front of it and goes on behind it. -/
def Splits (word : List Char) (pieces : List Piece) : Prop :=
  ∃ front sequence back start rest, pieces = front ++ .colour sequence :: back ∧
    word = start ++ rest ∧ start ≠ [] ∧ rest ≠ [] ∧
      start <:+ plainText front ∧ rest <+: plainText back

/-- Whether a word is split is told by the places of the sequences in the line and of
their cuts in the word. -/
theorem splits_iff {word : List Char} {pieces : List Piece} :
    Splits word pieces ↔ ∃ place < pieces.length, ∃ cut < word.length, 0 < cut ∧
      (pieces[place]?.bind Piece.sequence?).isSome = true ∧
        word.take cut <:+ plainText (pieces.take place) ∧
          word.drop cut <+: plainText (pieces.drop (place + 1)) := by
  constructor
  · rintro ⟨front, sequence, back, start, rest, rfl, rfl, startNonempty, restNonempty, ends,
      begins⟩
    have positive : 0 < start.length := List.length_pos_iff.mpr startNonempty
    have goesOn : 0 < rest.length := List.length_pos_iff.mpr restNonempty
    refine ⟨front.length, by simp, start.length, by simpa using goesOn, positive, ?_, ?_, ?_⟩
    · simp [Piece.sequence?]
    · simpa using ends
    · simpa using begins
  · rintro ⟨place, inPieces, cut, inWord, positive, isSequence, ends, begins⟩
    obtain ⟨sequence, isPiece⟩ : ∃ sequence, pieces[place] = .colour sequence := by
      rw [List.getElem?_eq_getElem inPieces] at isSequence
      cases isPiece : pieces[place] with
      | own char => simp [isPiece, Piece.sequence?] at isSequence
      | colour sequence => exact ⟨sequence, rfl⟩
    refine ⟨pieces.take place, sequence, pieces.drop (place + 1), word.take cut, word.drop cut,
      ?_, (List.take_append_drop cut word).symm, ?_, ?_, ends, begins⟩
    · rw [← isPiece, ← List.drop_eq_getElem_cons inPieces, List.take_append_drop]
    · rw [← List.length_pos_iff, List.length_take]
      omega
    · rw [← List.length_pos_iff, List.length_drop]
      omega

instance (word : List Char) (pieces : List Piece) : Decidable (Splits word pieces) :=
  decidable_of_iff _ splits_iff.symm

theorem Splits.append_left {word : List Char} {pieces : List Piece}
    (splits : Splits word pieces) (others : List Piece) : Splits word (others ++ pieces) := by
  obtain ⟨front, sequence, back, start, rest, rfl, isWord, startNonempty, restNonempty, ends,
    begins⟩ := splits
  refine ⟨others ++ front, sequence, back, start, rest, by simp, isWord, startNonempty,
    restNonempty, ?_, begins⟩
  rw [plainText_append]
  exact ends.trans (List.suffix_append _ _)

/-- If nothing splits the word, the rest of an occurrence stands together, too. -/
theorem exists_after_of_unsplit {front back : List Char} {pieces : List Piece}
    (nonempty : front ≠ []) (begins : back <+: plainText pieces)
    (unsplit : ¬Splits (front ++ back) (front.map .own ++ pieces)) :
    ∃ after, pieces = back.map .own ++ after := by
  induction back generalizing front pieces with
  | nil => exact ⟨pieces, rfl⟩
  | cons next back inductionHypothesis =>
      cases pieces with
      | nil => exact absurd (List.prefix_nil.mp begins) (List.cons_ne_nil _ _)
      | cons piece pieces =>
          cases piece with
          | own char =>
              obtain ⟨rfl, behind⟩ := List.cons_prefix_cons.mp begins
              have longer : front ++ [next] ≠ [] := List.append_ne_nil_of_left_ne_nil nonempty _
              obtain ⟨after, rfl⟩ := inductionHypothesis longer behind (by simpa using unsplit)
              exact ⟨after, rfl⟩
          | colour sequence =>
              have ends : front <:+ plainText (front.map .own) := by rw [plainText_map_own]
              exact absurd ⟨front.map .own, sequence, pieces, front, next :: back, rfl, rfl,
                nonempty, List.cons_ne_nil _ _, ends, begins⟩ unsplit

/-- What the coloured line begins with, without an escape, the plain line begins with. -/
theorem prefix_plainText {text : List Char} {pieces : List Piece} (noEscape : escapeChar ∉ text)
    (begins : text <+: colouredText pieces) : text <+: plainText pieces := by
  induction pieces generalizing text with
  | nil => exact begins
  | cons piece pieces inductionHypothesis =>
      cases text with
      | nil => exact List.nil_prefix
      | cons first text =>
          rw [List.mem_cons, not_or] at noEscape
          cases piece with
          | own char =>
              obtain ⟨rfl, behind⟩ := List.cons_prefix_cons.mp begins
              exact List.cons_prefix_cons.mpr ⟨rfl, inductionHypothesis noEscape.2 behind⟩
          | colour sequence =>
              exact absurd (List.cons_prefix_cons.mp begins).1.symm noEscape.1

/-- The pieces that are shown are those of a line in which a word was replaced, in the
coloured line as in the plain one, with each sequence where it was. -/
structure Rewrites (word replacement : List Char) (pieces shown : List Piece) : Prop where
  coloured : replaceAll word replacement (colouredText pieces) = colouredText shown
  plain : replaceAll word replacement (plainText pieces) = plainText shown
  same : sequences shown = sequences pieces

namespace Rewrites

variable {first : Char} {body word replacement : List Char} {pieces shown : List Piece}

theorem nil : Rewrites word replacement [] [] :=
  ⟨Text.replaceAll_nil _ _, Text.replaceAll_nil _ _, rfl⟩

/-- A sequence without the first character of the word is passed over. -/
theorem colour {sequence : ColourSequence} (outside : first ∉ sequence.text)
    (behind : Rewrites (first :: body) replacement pieces shown) :
    Rewrites (first :: body) replacement (.colour sequence :: pieces)
      (.colour sequence :: shown) where
  coloured := by
    rw [colouredText_colour, colouredText_colour, Text.replaceAll_append_of_apart outside,
      behind.coloured]
  plain := behind.plain
  same := congrArg (sequence :: ·) behind.same

/-- A character at which the plain line has no occurrence stays in both lines. -/
theorem own {char : Char} (noEscape : escapeChar ∉ word)
    (notHere : ¬word <+: plainText (.own char :: pieces))
    (behind : Rewrites word replacement pieces shown) :
    Rewrites word replacement (.own char :: pieces) (.own char :: shown) where
  coloured := by
    have notColoured : ¬word <+: colouredText (.own char :: pieces) :=
      fun begins => notHere (prefix_plainText noEscape begins)
    rw [colouredText_own] at notColoured ⊢
    rw [Text.replaceAll_cons notColoured, behind.coloured, colouredText_own]
  plain := by
    rw [plainText_own] at notHere ⊢
    rw [Text.replaceAll_cons notHere, behind.plain, plainText_own]
  same := behind.same

/-- An occurrence without sequences in it is replaced in both lines. -/
theorem occurrence (nonempty : word ≠ []) (behind : Rewrites word replacement pieces shown) :
    Rewrites word replacement (word.map .own ++ pieces) (replacement.map .own ++ shown) where
  coloured := by
    rw [colouredText_append, colouredText_append, colouredText_map_own, colouredText_map_own,
      Text.replaceAll_append nonempty, behind.coloured]
  plain := by
    rw [plainText_append, plainText_append, plainText_map_own, plainText_map_own,
      Text.replaceAll_append nonempty, behind.plain]
  same := by
    rw [sequences_append, sequences_append, sequences_map_own, sequences_map_own, behind.same]

end Rewrites

/-- A word is replaced alike in both lines, if it is not split and no sequence holds its
first character. -/
theorem exists_rewrites {first : Char} {body : List Char} (replacement : List Char)
    (outside : ∀ sequence : ColourSequence, first ∉ sequence.text)
    (noEscape : escapeChar ∉ first :: body) {pieces : List Piece}
    (unsplit : ¬Splits (first :: body) pieces) :
    ∃ shown, Rewrites (first :: body) replacement pieces shown := by
  generalize isSize : pieces.length = size
  induction size using Nat.strongRecOn generalizing pieces with
  | ind size inductionHypothesis =>
      have onBehind : ∀ front behind : List Piece, front ≠ [] → pieces = front ++ behind →
          ∃ shown, Rewrites (first :: body) replacement behind shown := by
        rintro front behind nonempty rfl
        have shorter : behind.length < size := by
          have positive : 0 < front.length := List.length_pos_iff.mpr nonempty
          rw [← isSize, List.length_append]
          omega
        exact inductionHypothesis _ shorter (fun splits => unsplit (splits.append_left front)) rfl
      match pieces with
      | [] => exact ⟨[], .nil⟩
      | .colour sequence :: behind =>
          obtain ⟨shown, rewrites⟩ := onBehind [.colour sequence] behind (List.cons_ne_nil _ _) rfl
          exact ⟨_, rewrites.colour (outside sequence)⟩
      | .own char :: behind =>
          by_cases here : first :: body <+: plainText (.own char :: behind)
          · obtain ⟨rfl, beyond⟩ := List.cons_prefix_cons.mp here
            obtain ⟨after, rfl⟩ :=
              exists_after_of_unsplit (List.cons_ne_nil first []) beyond unsplit
            obtain ⟨shown, rewrites⟩ := onBehind ((first :: body).map .own) after (by simp) rfl
            exact ⟨_, rewrites.occurrence (List.cons_ne_nil first body)⟩
          · obtain ⟨shown, rewrites⟩ := onBehind [.own char] behind (List.cons_ne_nil _ _) rfl
            exact ⟨_, rewrites.own noEscape here⟩

/-! ## Lines with and without colours -/

/-- Where the name of the input file stands in a coloured line, it stands in one piece,
and no part of a sequence belongs to it. -/
structure StandsApart (name : String) (pieces : List Piece) : Prop where
  unsplit : ¬Splits name.toList pieces
  outside : escapeChar ∈ name.toList → ¬name.toList <:+: colouredText pieces

/-- The placeholder comes to stand in the same places of both lines. -/
theorem exists_rewrites_withPlaceholder {input : Option String} {pieces : List Piece}
    (noEscape : escapeChar ∉ plainText pieces)
    (absolute : ∀ name ∈ input, name.toList.head? = some '/')
    (apart : ∀ name ∈ input, StandsApart name pieces) :
    ∃ shown, withPlaceholder input (colouredText pieces) = colouredText shown ∧
      withPlaceholder input (plainText pieces) = plainText shown ∧
        sequences shown = sequences pieces := by
  cases input with
  | none => exact ⟨pieces, rfl, rfl, rfl⟩
  | some name =>
      obtain ⟨unsplit, outside⟩ := apart name rfl
      by_cases hasEscape : escapeChar ∈ name.toList
      · have notColoured := outside hasEscape
        have notPlain : ¬name.toList <:+: plainText pieces :=
          fun occurs => noEscape (occurs.subset hasEscape)
        exact ⟨pieces, Text.replaceAll_eq_self notColoured, Text.replaceAll_eq_self notPlain, rfl⟩
      · obtain ⟨body, isName⟩ := exists_body_of_absolute (absolute name rfl)
        rw [isName] at hasEscape unsplit
        obtain ⟨shown, rewrites⟩ := exists_rewrites sourcePlaceholder.toList
          ColourSequence.slash_not_mem_text hasEscape unsplit
        rw [← isName] at rewrites
        exact ⟨shown, rewrites.coloured, rewrites.plain, rewrites.same⟩

/-- The placeholder brings no escape into a line. -/
theorem escape_not_mem_withPlaceholder (input : Option String) {line : List Char}
    (noEscape : escapeChar ∉ line) : escapeChar ∉ withPlaceholder input line := by
  cases input with
  | none => exact noEscape
  | some name =>
      intro member
      rcases Text.mem_of_mem_replaceAll member with inLine | inPlaceholder
      · exact noEscape inLine
      · exact absurd inPlaceholder (by decide)

/-- A coloured line and the plain one are read with the same tag, and the texts that are
shown differ in the sequences that were put in, which are all still there. -/
theorem colour_keeps_tag {input : Option String} {pieces : List Piece}
    (noEscape : escapeChar ∉ plainText pieces)
    (absolute : ∀ name ∈ input, name.toList.head? = some '/')
    (apart : ∀ name ∈ input, StandsApart name pieces) :
    ∃ (shown : List Piece) (tag : Option Tag), sequences shown = sequences pieces ∧
      ofLines input [String.ofList (plainText pieces)] =
        [⟨String.ofList (plainText shown), tag⟩] ∧
      ofLines input [String.ofList (colouredText pieces)] =
        [⟨String.ofList (colouredText shown), tag⟩] := by
  obtain ⟨shown, isColoured, isPlain, same⟩ :=
    exists_rewrites_withPlaceholder noEscape absolute apart
  have noEscapeShown : escapeChar ∉ plainText shown := by
    rw [← isPlain]
    exact escape_not_mem_withPlaceholder input noEscape
  refine ⟨shown, tag? (plainText shown), same, ?_, ?_⟩
  · simp only [ofLines, ofLine, List.map_cons, List.map_nil, String.toList_ofList, isPlain]
  · simp only [ofLines, ofLine, List.map_cons, List.map_nil, String.toList_ofList, isColoured,
      tag?_colouredText noEscapeShown]

/-- The theorem at a line with colours inside of the number, of a separator and behind the
name: with them and without, it is about line 12 of the source. -/
theorem colour_keeps_tag_in_number :
    let red : ColourSequence :=
      ⟨['3', '1', ';', '1'], 'm', List.all_eq_true.mp (by decide), by decide⟩
    let plain : ColourSequence := ⟨[], 'm', List.forall_mem_nil _, by decide⟩
    let name := "/w/a.c"
    let pieces : List Piece :=
      .colour red :: ("/w/a.c".toList.map .own ++ .colour plain :: .own ':' :: .own '1' ::
        .colour red :: .own '2' :: .own ':' :: .colour plain :: " error".toList.map .own)
    escapeChar ∉ plainText pieces ∧ (∀ other ∈ some name, other.toList.head? = some '/') ∧
      (∀ other ∈ some name, StandsApart other pieces) ∧
        ∃ shown : List Piece, sequences shown = sequences pieces ∧
          ofLines (some name) [String.ofList (plainText pieces)] =
            [⟨String.ofList (plainText shown), some ⟨12, none, none, "error", .error⟩⟩] ∧
          ofLines (some name) [String.ofList (colouredText pieces)] =
            [⟨String.ofList (colouredText shown), some ⟨12, none, none, "error", .error⟩⟩] := by
  intro red plain name pieces
  have noEscape : escapeChar ∉ plainText pieces := by decide
  have absolute : ∀ other ∈ some name, other.toList.head? = some '/' := by
    rintro other ⟨⟩
    decide
  have apart : ∀ other ∈ some name, StandsApart other pieces := by
    rintro other ⟨⟩
    exact ⟨by decide +kernel, fun hasEscape => absurd hasEscape (by decide)⟩
  obtain ⟨shown, tag, same, isPlain, isColoured⟩ := colour_keeps_tag noEscape absolute apart
  have read : (ofLines (some name) [String.ofList (plainText pieces)]).map Line.tag =
      [some ⟨12, none, none, "error", .error⟩] := by
    decide +kernel
  rw [isPlain] at read
  obtain rfl : tag = _ := List.singleton_inj.mp read
  exact ⟨noEscape, absolute, apart, shown, same, isPlain, isColoured⟩

/-- A name with an escape in it can be brought into a line by its colours.  Nothing splits
the name in the plain line, which does not hold it. -/
theorem colour_completes_name :
    let bold : ColourSequence := ⟨['1'], 'm', List.all_eq_true.mp (by decide), by decide⟩
    let name := "/a\x1b[1mb.c"
    let pieces : List Piece :=
      "/a".toList.map .own ++ .colour bold :: "b.c:3: error".toList.map .own
    escapeChar ∉ plainText pieces ∧ name.toList.head? = some '/' ∧
      ¬Splits name.toList pieces ∧
        (ofLines (some name) [String.ofList (plainText pieces)]).map Line.tag =
          [some ⟨3, none, some "/ab.c", "error", .error⟩] ∧
        (ofLines (some name) [String.ofList (colouredText pieces)]).map Line.tag =
          [some ⟨3, none, none, "error", .error⟩] := by
  decide +kernel

end BuildExplorer.Diagnostic
