/-!
# Blank characters

The twenty-five characters that count as white space in every tool output this
library reads, and the operations that cut text at them.
-/

namespace BuildExplorer.Text

/-- A character with the Unicode property `White_Space`. -/
def isBlank (char : Char) : Bool :=
  let code := char.toNat
  (9 ≤ code && code ≤ 13) || code == 0x20 || code == 0x85 || code == 0xA0 ||
    code == 0x1680 || (0x2000 ≤ code && code ≤ 0x200A) || code == 0x2028 ||
    code == 0x2029 || code == 0x202F || code == 0x205F || code == 0x3000

/-- Whatever the standard library takes for white space is blank. -/
theorem isBlank_of_isWhitespace {char : Char} (white : char.isWhitespace = true) :
    isBlank char = true := by
  simp only [Char.isWhitespace, Bool.or_eq_true, decide_eq_true_eq] at white
  rcases white with ((rfl | rfl) | rfl) | rfl <;> rfl

/-- The text from its first character that is not blank. -/
def trimStart (text : List Char) : List Char :=
  text.dropWhile isBlank

/-- The text up to its last character that is not blank. -/
def trimEnd (text : List Char) : List Char :=
  (text.reverse.dropWhile isBlank).reverse

/-- The text without the blanks around it. -/
def trim (text : List Char) : List Char :=
  trimEnd (trimStart text)

/-- Is there nothing but blanks? -/
def allBlank (text : List Char) : Bool :=
  text.all isBlank

/-- The maximal runs of characters that are not blank, in order. -/
def words (text : List Char) : List (List Char) :=
  (text.splitOnP isBlank).filter (!·.isEmpty)

@[simp]
theorem trimStart_nil : trimStart [] = [] :=
  rfl

theorem trimStart_cons (char : Char) (text : List Char) :
    trimStart (char :: text) = if isBlank char then trimStart text else char :: text := by
  by_cases blank : isBlank char <;> simp [trimStart, blank]

@[simp]
theorem allBlank_nil : allBlank [] = true :=
  rfl

@[simp]
theorem allBlank_cons (char : Char) (text : List Char) :
    allBlank (char :: text) = (isBlank char && allBlank text) := by
  simp [allBlank]

end BuildExplorer.Text
