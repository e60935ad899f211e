import Mathlib.Data.List.Infix
import BuildExplorer.Text.Replace

/-!
# Texts with a word replaced

Replacement goes through a text from the left.  Where the word stands, the replacement
is written and the scan goes on behind the word; any other character stays.  So a text
falls into occurrences and other characters, and each law of replacement is an
induction on this layout.  The laws that relate the result to the text need letters
that tell an occurrence: a replacement that begins with a letter of its own is found
again exactly where it was written.
-/

namespace BuildExplorer.Text

variable {word replacement text result : List Char}

/-! ## One step of the scan -/

@[simp]
theorem replaceAll_nil (word replacement : List Char) : replaceAll word replacement [] = [] := by
  simp [replaceAll, replaceFrom]

/-- What is skipped leaves no trace. -/
theorem replaceFrom_append (word replacement skipped rest : List Char) :
    replaceFrom word replacement skipped.length [] (skipped ++ rest) =
      replaceFrom word replacement 0 [] rest := by
  induction skipped with
  | nil => rfl
  | cons char skipped inductionHypothesis => exact inductionHypothesis

/-- A character at which the word does not stand stays. -/
theorem replaceAll_cons {char : Char} {rest : List Char} (notHere : ¬word <+: char :: rest) :
    replaceAll word replacement (char :: rest) = char :: replaceAll word replacement rest := by
  have nonempty : word.isEmpty = false := by
    cases word with
    | nil => exact absurd List.nil_prefix notHere
    | cons first others => rfl
  rw [← List.isPrefixOf_iff_prefix] at notHere
  rw [replaceAll, replaceAll, nonempty, if_neg Bool.false_ne_true, if_neg Bool.false_ne_true,
    replaceFrom, if_neg notHere, replaceFrom_eq_append]
  rfl

/-- The word gives the replacement. -/
theorem replaceAll_append (nonempty : word ≠ []) (rest : List Char) :
    replaceAll word replacement (word ++ rest) =
      replacement ++ replaceAll word replacement rest := by
  obtain ⟨first, others, rfl⟩ := List.exists_cons_of_ne_nil nonempty
  have here : (first :: others).isPrefixOf (first :: (others ++ rest)) = true :=
    List.isPrefixOf_iff_prefix.mpr (List.prefix_append (first :: others) rest)
  have skips := replaceFrom_append (first :: others) replacement others rest
  rw [replaceAll, replaceAll, List.cons_append, List.isEmpty_cons, if_neg Bool.false_ne_true,
    if_neg Bool.false_ne_true, replaceFrom, if_pos here, replaceFrom_eq_append, List.length_cons,
    Nat.add_sub_cancel, skips]
  simp

/-! ## The layout of a text -/

/-- A text and what it becomes: occurrences of the word give the replacement, and the
other characters, at which the word does not stand, stay. -/
inductive Replaced (word replacement : List Char) : List Char → List Char → Prop
  | nil : Replaced word replacement [] []
  | occurrence {rest behind : List Char} (later : Replaced word replacement rest behind) :
      Replaced word replacement (word ++ rest) (replacement ++ behind)
  | other {char : Char} {rest behind : List Char} (notHere : ¬word <+: char :: rest)
      (later : Replaced word replacement rest behind) :
      Replaced word replacement (char :: rest) (char :: behind)

theorem replaced_replaceAll (nonempty : word ≠ []) (replacement text : List Char) :
    Replaced word replacement text (replaceAll word replacement text) := by
  generalize isSize : text.length = size
  induction size using Nat.strongRecOn generalizing text with
  | ind size inductionHypothesis =>
      cases text with
      | nil =>
          rw [replaceAll_nil]
          exact .nil
      | cons char rest =>
          by_cases here : word <+: char :: rest
          · obtain ⟨after, isText⟩ := here
            have shorter : after.length < size := by
              have wordLength : 0 < word.length := List.length_pos_iff.mpr nonempty
              rw [← isSize, ← isText, List.length_append]
              omega
            rw [← isText, replaceAll_append nonempty]
            exact .occurrence (inductionHypothesis _ shorter after rfl)
          · have shorter : rest.length < size := by
              rw [← isSize]
              exact Nat.lt_succ_self _
            rw [replaceAll_cons here]
            exact .other here (inductionHypothesis _ shorter rest rfl)

/-- The layout of a text determines what it becomes. -/
theorem Replaced.replaceAll_eq (nonempty : word ≠ [])
    (replaced : Replaced word replacement text result) :
    replaceAll word replacement text = result := by
  induction replaced with
  | nil => exact replaceAll_nil word replacement
  | occurrence _ inductionHypothesis => rw [replaceAll_append nonempty, inductionHypothesis]
  | other notHere _ inductionHypothesis => rw [replaceAll_cons notHere, inductionHypothesis]

/-- Each character of the result is from the text or the replacement. -/
theorem mem_of_mem_replaceAll {char : Char} (member : char ∈ replaceAll word replacement text) :
    char ∈ text ∨ char ∈ replacement := by
  by_cases empty : word = []
  · rw [empty, replaceAll_nil_word] at member
    exact .inl member
  · have replaced := replaced_replaceAll empty replacement text
    generalize replaceAll word replacement text = result at member replaced
    induction replaced with
    | nil => exact absurd member List.not_mem_nil
    | occurrence _ inductionHypothesis =>
        rcases List.mem_append.mp member with written | behind
        · exact .inr written
        · exact (inductionHypothesis behind).imp_left (List.mem_append_right word)
    | other _ _ inductionHypothesis =>
        rcases List.mem_cons.mp member with rfl | behind
        · exact .inl List.mem_cons_self
        · exact (inductionHypothesis behind).imp_left (List.mem_cons_of_mem _)

/-! ## Texts without the word -/

/-- Nothing is replaced in a text without the word. -/
theorem replaceAll_eq_self (absent : ¬word <:+: text) :
    replaceAll word replacement text = text := by
  induction text with
  | nil => exact replaceAll_nil word replacement
  | cons char rest inductionHypothesis =>
      rw [List.infix_cons_iff, not_or] at absent
      rw [replaceAll_cons absent.1, inductionHypothesis absent.2]

/-- A word does not begin in a text without its first character. -/
theorem infix_of_infix_append {first : Char} {others front back : List Char}
    (apart : first ∉ front) (occurs : first :: others <:+: front ++ back) :
    first :: others <:+: back := by
  induction front with
  | nil => exact occurs
  | cons char front inductionHypothesis =>
      rw [List.mem_cons, not_or] at apart
      rcases List.infix_cons_iff.mp occurs with here | later
      · exact absurd (List.cons_prefix_cons.mp here).1 apart.1
      · exact inductionHypothesis apart.2 later

/-- A text without the first character of the word stays in front of any other. -/
theorem replaceAll_append_of_apart {first : Char} {others front : List Char}
    (apart : first ∉ front) (back : List Char) :
    replaceAll (first :: others) replacement (front ++ back) =
      front ++ replaceAll (first :: others) replacement back := by
  induction front with
  | nil => rfl
  | cons char front inductionHypothesis =>
      rw [List.mem_cons, not_or] at apart
      have notHere : ¬first :: others <+: char :: (front ++ back) :=
        fun here => apart.1 (List.cons_prefix_cons.mp here).1
      rw [List.cons_append, replaceAll_cons notHere, inductionHypothesis apart.2, List.cons_append]

/-! ## The result and the text -/

namespace Replaced

/-- A word that stands in the text is first replaced behind a part that stays. -/
theorem exists_first (replaced : Replaced word replacement text result) (nonempty : word ≠ [])
    (occurs : word <:+: text) :
    ∃ front rest behind, text = front ++ (word ++ rest) ∧
      result = front ++ (replacement ++ behind) ∧ Replaced word replacement rest behind := by
  induction replaced with
  | nil => exact absurd (List.infix_nil.mp occurs) nonempty
  | @occurrence rest behind later _ => exact ⟨[], rest, behind, rfl, rfl, later⟩
  | @other char _ _ notHere _ inductionHypothesis =>
      rcases List.infix_cons_iff.mp occurs with here | later
      · exact absurd here notHere
      · obtain ⟨front, rest, behind, rfl, rfl, rests⟩ := inductionHypothesis later
        exact ⟨char :: front, rest, behind, rfl, rfl, rests⟩

variable {first : Char} {others : List Char}

/-- The result begins as the text does, or as the replacement does. -/
theorem head?_eq (replaced : Replaced word (first :: others) text result) :
    result.head? = text.head? ∨ result.head? = some first := by
  cases replaced with
  | nil => exact .inl rfl
  | occurrence _ => exact .inr rfl
  | other _ _ => exact .inl rfl

/-- What the result begins with, in front of any replacement, the text begins with. -/
theorem begins_of_begins (replaced : Replaced word (first :: others) text result)
    {part : List Char} (apart : first ∉ part) (begins : part <+: result) : part <+: text := by
  induction replaced generalizing part with
  | nil => exact begins
  | occurrence _ _ =>
      cases part with
      | nil => exact List.nil_prefix
      | cons char part =>
          obtain rfl : char = first := (List.cons_prefix_cons.mp begins).1
          exact absurd List.mem_cons_self apart
  | other _ _ inductionHypothesis =>
      cases part with
      | nil => exact List.nil_prefix
      | cons char part =>
          obtain ⟨rfl, behind⟩ := List.cons_prefix_cons.mp begins
          rw [List.mem_cons, not_or] at apart
          exact List.cons_prefix_cons.mpr ⟨rfl, inductionHypothesis apart.2 behind⟩

/-- The word is gone, if it does not begin in the replacement and does not hold the
character that the replacement begins with. -/
theorem not_infix {start : Char} {body : List Char}
    (replaced : Replaced (start :: body) (first :: others) text result)
    (starts : start ∉ first :: others) (apart : first ∉ start :: body) :
    ¬start :: body <:+: result := by
  induction replaced with
  | nil => exact fun occurs => List.cons_ne_nil _ _ (List.infix_nil.mp occurs)
  | occurrence _ inductionHypothesis =>
      exact fun occurs => inductionHypothesis (infix_of_infix_append starts occurs)
  | @other char rest behind notHere later inductionHypothesis =>
      intro occurs
      rcases List.infix_cons_iff.mp occurs with here | beyond
      · exact notHere ((Replaced.other notHere later).begins_of_begins apart here)
      · exact inductionHypothesis beyond

/-- Read the other way, the result gives the text: in a text without the replacement it
stands only where it was written, if its first character is none of its others. -/
theorem swap (replaced : Replaced word (first :: others) text result) (once : first ∉ others)
    (absent : ¬first :: others <:+: text) : Replaced (first :: others) word result text := by
  induction replaced with
  | nil => exact .nil
  | @occurrence rest behind _ inductionHypothesis =>
      refine .occurrence (inductionHypothesis fun occurs => absent ?_)
      exact occurs.trans (List.suffix_append word rest).isInfix
  | @other char rest behind notHere later inductionHypothesis =>
      rw [List.infix_cons_iff, not_or] at absent
      refine .other (fun here => absent.1 ?_) (inductionHypothesis absent.2)
      obtain ⟨rfl, body⟩ := List.cons_prefix_cons.mp here
      exact List.cons_prefix_cons.mpr ⟨rfl, later.begins_of_begins once body⟩

end Replaced

end BuildExplorer.Text
