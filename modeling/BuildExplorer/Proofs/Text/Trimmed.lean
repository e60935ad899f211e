import Mathlib.Data.List.TakeWhile
import BuildExplorer.Text.Blank
import BuildExplorer.Text.WordChar

/-!
# Trimmed texts

A text is cut where a property of its characters first fails.  Trimming, for one, takes
away the blanks at an end of a text and nothing else.

Words hold no blanks: the blanks, too, are given by a few ranges of code points, and none
of these meets a range of word characters.
-/

namespace BuildExplorer.Text

/-! ## Cutting a text -/

/-- The two pieces of a text that is cut where a property first fails. -/
structure CutsAt (holds : Char → Bool) (front back : List Char) : Prop where
  whole : ∀ char ∈ front, holds char = true
  ends : ∀ char ∈ back.head?, holds char = false

namespace CutsAt

variable {holds : Char → Bool} {front back : List Char}

theorem takeWhile_eq (cuts : CutsAt holds front back) :
    (front ++ back).takeWhile holds = front := by
  rw [List.takeWhile_append_of_pos cuts.whole]
  cases back with
  | nil => exact List.append_nil front
  | cons char back =>
      rw [List.takeWhile_cons_of_neg (by simp [cuts.ends char rfl]), List.append_nil]

theorem dropWhile_eq (cuts : CutsAt holds front back) :
    (front ++ back).dropWhile holds = back := by
  rw [List.dropWhile_append_of_pos cuts.whole]
  cases back with
  | nil => rfl
  | cons char back => rw [List.dropWhile_cons_of_neg (by simp [cuts.ends char rfl])]

end CutsAt

theorem cutsAt_takeWhile (holds : Char → Bool) (text : List Char) :
    CutsAt holds (text.takeWhile holds) (text.dropWhile holds) := by
  refine ⟨fun char member => List.mem_takeWhile_imp member, fun char isHead => ?_⟩
  have fails := List.head?_dropWhile_not holds text
  rw [Option.mem_def.mp isHead] at fails
  exact fails

/-! ## Blanks -/

/-- What is left of a text begins with no blank, and what was taken away are blanks. -/
theorem trimStart_eq_iff {text rest : List Char} :
    trimStart text = rest ↔
      (∀ char ∈ rest.head?, isBlank char = false) ∧
        ∃ indent, (∀ char ∈ indent, isBlank char = true) ∧ text = indent ++ rest := by
  constructor
  · rintro rfl
    have cuts := cutsAt_takeWhile isBlank text
    exact ⟨cuts.ends, text.takeWhile isBlank, cuts.whole, List.takeWhile_append_dropWhile.symm⟩
  · rintro ⟨starts, indent, blanks, rfl⟩
    exact CutsAt.dropWhile_eq ⟨blanks, starts⟩

theorem trimStart_eq_self_iff {text : List Char} :
    trimStart text = text ↔ ∀ char ∈ text.head?, isBlank char = false := by
  rw [trimStart_eq_iff]
  exact ⟨And.left, fun starts => ⟨starts, [], by simp, rfl⟩⟩

theorem trimEnd_eq_self_iff {text : List Char} :
    trimEnd text = text ↔ ∀ char ∈ text.getLast?, isBlank char = false := by
  calc
    trimEnd text = text ↔ trimStart text.reverse = text.reverse := by
      rw [trimEnd, ← trimStart, List.reverse_eq_iff]
    _ ↔ ∀ char ∈ text.reverse.head?, isBlank char = false := trimStart_eq_self_iff
    _ ↔ ∀ char ∈ text.getLast?, isBlank char = false := by rw [List.head?_reverse]

/-- A text without blanks around it is trimmed. -/
theorem trim_eq_self {text : List Char} (starts : ∀ char ∈ text.head?, isBlank char = false)
    (ends : ∀ char ∈ text.getLast?, isBlank char = false) : trim text = text := by
  rw [trim, trimStart_eq_self_iff.mpr starts, trimEnd_eq_self_iff.mpr ends]

/-- Trimming takes a text from the front and from the end only. -/
theorem trimEnd_prefix (text : List Char) : trimEnd text <+: text := by
  rw [trimEnd, ← List.reverse_suffix, List.reverse_reverse]
  exact List.dropWhile_suffix _

theorem trimStart_trimStart (text : List Char) : trimStart (trimStart text) = trimStart text :=
  trimStart_eq_self_iff.mpr (trimStart_eq_iff.mp rfl).1

/-- No blank is left at the front of a trimmed text. -/
theorem trimStart_trim (text : List Char) : trimStart (trim text) = trim text := by
  rw [trimStart_eq_self_iff]
  intro char isHead
  obtain ⟨after, isText⟩ := trimEnd_prefix (trimStart text)
  refine (trimStart_eq_iff.mp (rfl : trimStart text = trimStart text)).1 char ?_
  rw [← isText, List.head?_append, ← trim, Option.mem_def.mp isHead]
  rfl

/-! ## Words -/

/-- Do two ranges have nothing in common? -/
def CodeRange.apart (first second : CodeRange) : Bool :=
  first.2.blt second.1 || second.2.blt first.1

/-- A character of some ranges is in none that are apart from all of them. -/
theorem inRanges_eq_false_of_apart {ranges others : List CodeRange} {char : Char}
    (apart : (ranges.all fun range => others.all range.apart) = true)
    (held : inRanges others char = true) : inRanges ranges char = false := by
  rw [Bool.eq_false_iff]
  intro also
  obtain ⟨range, member, holds⟩ := List.any_eq_true.mp also
  obtain ⟨other, otherMember, otherHolds⟩ := List.any_eq_true.mp held
  have rangesApart := List.all_eq_true.mp (List.all_eq_true.mp apart range member) other otherMember
  simp only [CodeRange.holds, CodeRange.apart, Bool.and_eq_true, Bool.or_eq_true,
    decide_eq_true_eq, Nat.blt_eq] at holds otherHolds rangesApart
  omega

/-- The blanks, in order. -/
def blankRanges : List CodeRange :=
  [(9, 13), (0x20, 0x20), (0x85, 0x85), (0xA0, 0xA0), (0x1680, 0x1680), (0x2000, 0x200A),
    (0x2028, 0x2028), (0x2029, 0x2029), (0x202F, 0x202F), (0x205F, 0x205F), (0x3000, 0x3000)]

theorem isBlank_eq_inRanges (char : Char) : isBlank char = inRanges blankRanges char := by
  have single (code : Nat) : (char.toNat == code) = CodeRange.holds (code, code) char := by
    rw [Bool.eq_iff_iff]
    simp only [CodeRange.holds, beq_iff_eq, Bool.and_eq_true, decide_eq_true_eq]
    omega
  simp only [isBlank, blankRanges, inRanges_cons, inRanges_nil, Bool.or_false, single,
    CodeRange.holds, Bool.or_assoc]

/-- No word character is a blank. -/
theorem isBlank_of_isWordChar {char : Char} (isWord : isWordChar char = true) :
    isBlank char = false := by
  by_cases ascii : char.toNat < 128
  · have ofCode : ∀ code < 128, isWordChar (Char.ofNat code) = true →
        isBlank (Char.ofNat code) = false := by decide
    simpa [isWord] using ofCode char.toNat ascii
  · have apart : (blankRanges.all fun range => wordRanges.all range.apart) = true := by
      decide +kernel
    rw [isWordChar, if_neg ascii] at isWord
    rw [isBlank_eq_inRanges]
    exact inRanges_eq_false_of_apart apart isWord

/-- No letter is a blank. -/
theorem isBlank_of_isAlpha {char : Char} (isLetter : char.isAlpha = true) :
    isBlank char = false := by
  have ascii : char.toNat < 128 := by
    rcases Bool.or_eq_true_iff.mp isLetter with upper | lower
    · have bounds : 'A'.val ≤ char.val ∧ char.val ≤ 'Z'.val := of_decide_eq_true upper
      exact Nat.lt_of_le_of_lt (UInt32.le_iff_toNat_le.mp bounds.2) (by decide)
    · have bound : char.val ≤ 'z'.val := of_decide_eq_true (Bool.and_eq_true_iff.mp lower).2
      exact Nat.lt_of_le_of_lt (UInt32.le_iff_toNat_le.mp bound) (by decide)
  have isWord : isWordChar char = true := by
    simp [isWordChar, ascii, Char.isAlphanum, isLetter]
  exact isBlank_of_isWordChar isWord

end BuildExplorer.Text
