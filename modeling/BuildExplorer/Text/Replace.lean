/-!
# Replacing a word

Replacement of every occurrence of a word, from left to right and without
overlap.
-/

namespace BuildExplorer.Text

/-- The scan behind `replaceAll`: `skip` characters of an occurrence are still
to be passed over, and `done` is what was written so far, last character
first. -/
def replaceFrom (word replacement : List Char) :
    (skip : Nat) → (done : List Char) → List Char → List Char
  | _, done, [] => done.reverse
  | skip + 1, done, _ :: rest => replaceFrom word replacement skip done rest
  | 0, done, char :: rest =>
      if word.isPrefixOf (char :: rest) then
        replaceFrom word replacement (word.length - 1) (replacement.reverse ++ done) rest
      else
        replaceFrom word replacement 0 (char :: done) rest

/-- The text with each occurrence of `word` replaced.  The empty word occurs
nowhere. -/
def replaceAll (word replacement text : List Char) : List Char :=
  if word.isEmpty then text else replaceFrom word replacement 0 [] text

/-- Does the word occur in the text? -/
def occursIn (word : List Char) : List Char → Bool
  | [] => word.isEmpty
  | char :: rest => word.isPrefixOf (char :: rest) || occursIn word rest

@[simp]
theorem replaceAll_nil_word (replacement text : List Char) :
    replaceAll [] replacement text = text :=
  rfl

/-- What was written before does not change what is still to come. -/
theorem replaceFrom_eq_append (word replacement : List Char) (skip : Nat)
    (done text : List Char) :
    replaceFrom word replacement skip done text =
      done.reverse ++ replaceFrom word replacement skip [] text := by
  induction text generalizing skip done with
  | nil => cases skip <;> simp [replaceFrom]
  | cons char rest ih =>
      cases skip with
      | succ skip => simpa [replaceFrom] using ih skip done
      | zero =>
          by_cases occurs : word.isPrefixOf (char :: rest)
          · simp only [replaceFrom, occurs, if_true]
            rw [ih, ih _ (replacement.reverse ++ [])]
            simp
          · simp only [replaceFrom, occurs, Bool.false_eq_true, if_false]
            rw [ih, ih _ [char]]
            simp

end BuildExplorer.Text
