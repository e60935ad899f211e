import BuildExplorer.Json.Numeral
import BuildExplorer.Json.Printer
import BuildExplorer.Proofs.Decimal.Spelling
import BuildExplorer.Proofs.Text.Trimmed

/-!
# Reading the numbers that are written

A number does not tell where it ends.  What is written of a number is read to its end if
no digit, point or exponent follows, and then it makes no difference what does follow.
An integer of 64 bits is read as itself.  A binary fraction is read as some number, which
need not be the one that was written: the digits are rounded on the way.
-/

namespace BuildExplorer.Json.Numeral

open Decimal (AreDigits IsWhole IsTail Spelled)

/-! ## Where a number ends -/

/-- Can a number go on with the character? -/
def continues (char : Char) : Bool :=
  char.isDigit || char = '.' || char = 'e' || char = 'E'

/-- A rest with which no number goes on. -/
def Ended (rest : List Char) : Prop :=
  ∀ char ∈ rest.head?, continues char = false

theorem ended_nil : Ended [] :=
  fun _ impossible => nomatch impossible

theorem Ended.not_digit {rest : List Char} (ended : Ended rest) :
    ∀ char ∈ rest.head?, char.isDigit = false := by
  intro char isHead
  have stops := ended char isHead
  simp only [continues, Bool.or_eq_false_iff] at stops
  exact stops.1.1.1

/-- A text that is read to its end as one value, whatever ends it. -/
def ReadsAs (text : List Char) (json : Json) : Prop :=
  ∀ rest, Ended rest → read (text ++ rest) = some (json, rest)

/-! ## Digits -/

/-- The number that a digit denotes. -/
def digitValue (char : Char) : Nat :=
  char.toNat - 48

theorem takeDigits_append {digits rest : List Char} (each : ∀ char ∈ digits, char.isDigit = true)
    (ends : ∀ char ∈ rest.head?, char.isDigit = false) :
    takeDigits (digits ++ rest) = (digits.map digitValue, rest) := by
  have cuts : Text.CutsAt Char.isDigit digits rest := ⟨each, ends⟩
  rw [takeDigits, cuts.takeWhile_eq, cuts.dropWhile_eq]
  rfl

theorem ne_of_isDigit {char other : Char} (isDigit : char.isDigit = true)
    (notDigit : other.isDigit = false) : char ≠ other := by
  rintro rfl
  rw [isDigit] at notDigit
  exact Bool.false_ne_true notDigit.symm

/-- Only the digit zero denotes zero. -/
theorem eq_zero_of_digitValue_eq_zero {char : Char} (isDigit : char.isDigit = true)
    (isZero : digitValue char = 0) : char = '0' := by
  have bounds : 48 ≤ char.toNat ∧ char.toNat ≤ 57 := by
    simpa [Char.isDigit, UInt32.le_iff_toNat_le] using isDigit
  have isCode : char.toNat = '0'.toNat := by
    have : char.toNat - 48 = 0 := isZero
    have zero : '0'.toNat = 48 := rfl
    omega
  exact Char.toNat_inj.mp isCode

/-! ## The three parts -/

theorem readExponent_append {sign digits : List Char}
    (isSign : sign = [] ∨ sign = ['+'] ∨ sign = ['-']) (areDigits : AreDigits digits) :
    ∃ negative size, ∀ rest, Ended rest →
      readExponent (sign ++ digits ++ rest) = some (negative, size, rest) := by
  obtain ⟨first, others, rfl⟩ := List.exists_cons_of_ne_nil areDigits.nonempty
  have isDigit := areDigits.each first List.mem_cons_self
  have notPlus : first ≠ '+' := ne_of_isDigit isDigit (by decide)
  have notMinus : first ≠ '-' := ne_of_isDigit isDigit (by decide)
  have taken : ∀ rest, Ended rest → takeDigits (first :: (others ++ rest)) =
      (digitValue first :: others.map digitValue, rest) :=
    fun rest ended => takeDigits_append areDigits.each ended.not_digit
  let size := ((first :: others).map digitValue).foldl (fun value digit => 10 * value + digit) 0
  rcases isSign with rfl | rfl | rfl
  · refine ⟨false, size, fun rest ended => ?_⟩
    simp [readExponent, notPlus, notMinus, taken rest ended, size]
  · refine ⟨false, size, fun rest ended => ?_⟩
    simp only [readExponent, List.cons_append, List.nil_append, taken rest ended]
    rfl
  · refine ⟨true, size, fun rest ended => ?_⟩
    simp only [readExponent, List.cons_append, List.nil_append, taken rest ended]
    rfl

/-- Where a number ends, no tail of it is found. -/
theorem readTail_of_ended (negative : Bool) (number : Scaled) {rest : List Char}
    (ended : Ended rest) :
    readTail negative number rest = some (integer negative number, rest) := by
  cases rest with
  | nil => rfl
  | cons char rest =>
      have stops := ended char rfl
      simp only [continues, Bool.or_eq_false_iff, decide_eq_false_iff_not] at stops
      obtain ⟨⟨⟨-, notPoint⟩, notSmall⟩, notLarge⟩ := stops
      simp [readTail, notPoint, notSmall, notLarge]

/-- A fraction that is not followed by an exponent. -/
theorem readTail_fraction (negative : Bool) (number : Scaled) {digits : List Char}
    (areDigits : AreDigits digits) : ∃ json, ∀ rest, Ended rest →
      readTail negative number ('.' :: (digits ++ rest)) = some (json, rest) := by
  obtain ⟨first, others, rfl⟩ := List.exists_cons_of_ne_nil areDigits.nonempty
  refine ⟨signed negative (((first :: others).map digitValue).foldl Scaled.fraction
    { number with full := false }).magnitude, fun rest ended => ?_⟩
  rw [readTail, takeDigits_append areDigits.each ended.not_digit]
  cases rest with
  | nil => rfl
  | cons char rest =>
      have stops := ended char rfl
      simp only [continues, Bool.or_eq_false_iff, decide_eq_false_iff_not] at stops
      obtain ⟨⟨-, notSmall⟩, notLarge⟩ := stops
      simp [notSmall, notLarge]

theorem readTail_append {tail : List Char} (isTail : IsTail tail) (negative : Bool)
    (number : Scaled) : ∃ json, ∀ rest, Ended rest →
      readTail negative number (tail ++ rest) = some (json, rest) := by
  cases isTail with
  | nothing => exact ⟨_, fun rest ended => readTail_of_ended negative number ended⟩
  | fraction areDigits => exact readTail_fraction negative number areDigits
  | exponent isSign areDigits =>
      obtain ⟨sign, size, exponentRead⟩ := readExponent_append isSign areDigits
      refine ⟨signed negative (number.withExponent sign size), fun rest ended => ?_⟩
      simp only [List.cons_append, readTail, exponentRead rest ended, Option.map_some]
  | @both fraction sign' digits areFraction isSign areDigits =>
      obtain ⟨first, others, rfl⟩ := List.exists_cons_of_ne_nil areFraction.nonempty
      obtain ⟨sign, size, exponentRead⟩ := readExponent_append isSign areDigits
      refine ⟨signed negative ((((first :: others).map digitValue).foldl Scaled.fraction
        { number with full := false }).withExponent sign size), fun rest ended => ?_⟩
      have notDigit : ∀ after : List Char, ∀ char ∈ ('e' :: after).head?, char.isDigit = false := by
        rintro after char ⟨⟩
        rfl
      have taken := takeDigits_append areFraction.each (notDigit (sign' ++ digits ++ rest))
      rw [List.cons_append] at taken
      simp only [List.cons_append, List.append_assoc, readTail] at taken exponentRead ⊢
      rw [taken]
      simp only [List.map_cons, exponentRead rest ended, Option.map_some]

theorem readUnsigned_of_takeDigits (negative : Bool) {text rest : List Char} {digits : List Nat}
    (taken : takeDigits text = (digits, rest)) (nonempty : digits ≠ [])
    (leads : ∀ others, digits = 0 :: others → others = []) :
    readUnsigned negative text =
      readTail negative (digits.foldl Scaled.whole ⟨0, 0, false⟩) rest := by
  unfold readUnsigned
  rw [taken]
  split
  · rename_i isEmpty
    injection isEmpty with isEmpty
    exact absurd isEmpty nonempty
  · rename_i isZero
    injection isZero with isZero
    exact nomatch leads _ isZero
  · rename_i same
    injection same with sameDigits sameRest
    rw [sameDigits, sameRest]

theorem readUnsigned_append (negative : Bool) {whole : List Char} (isWhole : IsWhole whole)
    {after : List Char} (notDigit : ∀ char ∈ after.head?, char.isDigit = false) :
    readUnsigned negative (whole ++ after) =
      readTail negative ((whole.map digitValue).foldl Scaled.whole ⟨0, 0, false⟩) after := by
  apply readUnsigned_of_takeDigits negative (takeDigits_append isWhole.each notDigit)
  · simpa using isWhole.nonempty
  · intro others isZero
    obtain ⟨first, rest, rfl⟩ := List.exists_cons_of_ne_nil isWhole.nonempty
    obtain ⟨firstZero, rfl⟩ := List.cons.inj isZero
    have leads := eq_zero_of_digitValue_eq_zero (isWhole.each first List.mem_cons_self) firstZero
    subst leads
    rw [(List.cons.inj (isWhole.leads rfl)).2]
    rfl

/-- What follows the whole part of a number does not begin with a digit. -/
theorem IsTail.not_digit {tail : List Char} (isTail : IsTail tail) {rest : List Char}
    (ended : Ended rest) : ∀ char ∈ (tail ++ rest).head?, char.isDigit = false := by
  cases isTail with
  | nothing => exact ended.not_digit
  | fraction | exponent | both =>
      rintro char ⟨⟩
      rfl

theorem read_of_digit {text : List Char} (starts : ∀ char ∈ text.head?, char.isDigit = true) :
    read text = readUnsigned false text := by
  unfold read
  split
  · exact absurd (starts '-' rfl) (by decide)
  · rfl

/-- A number that is spelled is read, behind a sign or without one. -/
theorem exists_readsAs_of_spelled {magnitude : List Char} (spelled : Spelled magnitude)
    (negative : Bool) :
    ∃ json, ReadsAs (if negative then '-' :: magnitude else magnitude) json := by
  obtain ⟨whole, tail, rfl, isWhole, isTail⟩ := spelled
  obtain ⟨json, tailRead⟩ := readTail_append isTail negative
    ((whole.map digitValue).foldl Scaled.whole ⟨0, 0, false⟩)
  have unsignedRead : ∀ rest, Ended rest →
      readUnsigned negative (whole ++ tail ++ rest) = some (json, rest) := by
    intro rest ended
    rw [List.append_assoc, readUnsigned_append negative isWhole (IsTail.not_digit isTail ended)]
    exact tailRead rest ended
  refine ⟨json, fun rest ended => ?_⟩
  cases negative with
  | true => exact unsignedRead rest ended
  | false =>
      have starts : ∀ char ∈ (whole ++ tail ++ rest).head?, char.isDigit = true := by
        rw [List.append_assoc, isWhole.head?_append]
        exact fun char isHead => isWhole.each char (List.mem_of_head? isHead)
      exact (read_of_digit starts).trans (unsignedRead rest ended)

/-! ## Integers -/

/-- Digits below the limit are read exactly. -/
theorem foldl_whole {digits : List Char} {start : Nat}
    (small : Nat.ofDigitChars 10 digits start < significandLimit) :
    (digits.map digitValue).foldl Scaled.whole ⟨start, 0, false⟩ =
      ⟨Nat.ofDigitChars 10 digits start, 0, false⟩ := by
  induction digits generalizing start with
  | nil => rfl
  | cons char digits inductionHypothesis =>
      -- The number only grows, so that it lies below the limit all the way.
      have grows : ∀ (digits : List Char) (start : Nat),
          start ≤ Nat.ofDigitChars 10 digits start := by
        intro digits
        induction digits with
        | nil => exact fun start => Nat.le_refl start
        | cons char digits inductionHypothesis =>
            intro start
            have next := inductionHypothesis (10 * start + (char.toNat - '0'.toNat))
            rw [Nat.ofDigitChars_cons]
            omega
      rw [Nat.ofDigitChars_cons] at small ⊢
      have below : 10 * start + digitValue char < significandLimit :=
        Nat.lt_of_le_of_lt (grows digits _) small
      have taken : Scaled.whole ⟨start, 0, false⟩ (digitValue char) =
          ⟨10 * start + digitValue char, 0, false⟩ := by
        simp [Scaled.whole, Nat.not_le.mpr below]
      rw [List.map_cons, List.foldl_cons, taken]
      exact inductionHypothesis small

/-- The digits of a natural number are read as this number. -/
theorem readUnsigned_toDigits (negative : Bool) {value : Nat} (small : value < significandLimit)
    {rest : List Char} (ended : Ended rest) :
    readUnsigned negative (Nat.toDigits 10 value ++ rest) =
      some (integer negative ⟨value, 0, false⟩, rest) := by
  rw [readUnsigned_append negative (Decimal.isWhole_toDigits value) ended.not_digit, foldl_whole,
    Nat.ofDigitChars_ten_toDigits, readTail_of_ended negative _ ended]
  rwa [Nat.ofDigitChars_ten_toDigits]

/-- An integer of 64 bits, with a sign or without one. -/
def IsWord (value : Int) : Prop :=
  -twoTo 63 ≤ value ∧ value < twoTo 64

theorem readsAs_printInt {value : Int} (isWord : IsWord value) :
    ReadsAs (printInt value) (.ofInt value) := by
  intro rest ended
  obtain ⟨notBelow, notAbove⟩ := isWord
  cases value with
  | ofNat magnitude =>
      have small : magnitude < significandLimit := by
        apply Int.ofNat_lt.mp
        exact notAbove
      have starts : ∀ char ∈ (Nat.toDigits 10 magnitude ++ rest).head?, char.isDigit = true := by
        have areDigits := Decimal.areDigits_toDigits magnitude
        rw [areDigits.head?_append]
        exact fun char isHead => areDigits.each char (List.mem_of_head? isHead)
      rw [printInt, read_of_digit starts, readUnsigned_toDigits false small ended]
      rfl
  | negSucc magnitude =>
      have small : magnitude + 1 ≤ twoTo 63 := by
        have : (twoTo 63 : Int) = 9223372036854775808 := rfl
        have : twoTo 63 = 9223372036854775808 := rfl
        omega
      have below : magnitude + 1 < significandLimit :=
        Nat.lt_of_le_of_lt small (by decide)
      have notLarge : ¬(magnitude + 1 > twoTo 63) := Nat.not_lt.mpr small
      rw [printInt, List.cons_append, read, readUnsigned_toDigits true below ended]
      simp only [integer, notLarge]
      rfl

/-! ## Numbers -/

/-- What the text of a number is read as.  What has no spelling is written as `null`. -/
def reread (number : Number) : Json :=
  match read (printNumber number) with
  | some (json, _) => json
  | none => .null

theorem reread_of_readsAs {number : Number} {json : Json}
    (readsAs : ReadsAs (printNumber number) json) : reread number = json := by
  have whole := readsAs [] ended_nil
  rw [List.append_nil] at whole
  rw [reread, whole]

theorem reread_integer {value : Int} (isWord : IsWord value) :
    reread (.integer value) = .ofInt value :=
  reread_of_readsAs (readsAs_printInt isWord)

/-- An integer of any size is spelled. -/
theorem spelled_printInt (value : Int) : ∃ (negative : Bool) (magnitude : List Char),
    Spelled magnitude ∧ printInt value = if negative then '-' :: magnitude else magnitude := by
  have spelled : ∀ value, Spelled (Nat.toDigits 10 value) := fun value =>
    ⟨Nat.toDigits 10 value, [], (List.append_nil _).symm, Decimal.isWhole_toDigits value, .nothing⟩
  cases value with
  | ofNat magnitude => exact ⟨false, _, spelled magnitude, rfl⟩
  | negSucc magnitude => exact ⟨true, _, spelled (magnitude + 1), rfl⟩

/-- A number is spelled, behind a sign or without one, or it is written as `null`. -/
theorem spelled_or_null (number : Number) :
    (∃ (negative : Bool) (magnitude : List Char), Spelled magnitude ∧
        printNumber number = if negative then '-' :: magnitude else magnitude) ∨
      printNumber number = ['n', 'u', 'l', 'l'] := by
  cases number with
  | integer value => exact .inl (spelled_printInt value)
  | binary value =>
      cases value with
      | finite negative mantissa exponent =>
          exact .inl ⟨negative, Decimal.spelled_finiteText negative mantissa exponent⟩
      | infinite negative => exact .inr rfl
      | nan => exact .inr rfl

end BuildExplorer.Json.Numeral
