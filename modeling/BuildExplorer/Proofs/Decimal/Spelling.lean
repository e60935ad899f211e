import BuildExplorer.Decimal.Shortest

/-!
# How numbers are spelled

The text of a number has three parts: digits in front of the point, which begin with a
zero only where they are nothing else, and perhaps a fraction and an exponent.  Every
integer and every finite number is spelled this way, so that a reader who knows the
three parts can read whatever was written.
-/

namespace BuildExplorer.Decimal

/-! ## The three parts -/

/-- There is a digit, and nothing else. -/
structure AreDigits (text : List Char) : Prop where
  nonempty : text ≠ []
  each : ∀ char ∈ text, char.isDigit = true

/-- The digits in front of the point. -/
structure IsWhole (text : List Char) : Prop extends AreDigits text where
  leads : text.head? = some '0' → text = ['0']

/-- What may follow them. -/
inductive IsTail : List Char → Prop where
  | nothing : IsTail []
  | fraction {digits : List Char} (areDigits : AreDigits digits) : IsTail ('.' :: digits)
  | exponent {sign digits : List Char} (isSign : sign = [] ∨ sign = ['+'] ∨ sign = ['-'])
      (areDigits : AreDigits digits) : IsTail ('e' :: (sign ++ digits))
  | both {fraction sign digits : List Char} (areFraction : AreDigits fraction)
      (isSign : sign = [] ∨ sign = ['+'] ∨ sign = ['-']) (areDigits : AreDigits digits) :
      IsTail ('.' :: (fraction ++ 'e' :: (sign ++ digits)))

/-- A magnitude that is spelled in this way. -/
def Spelled (text : List Char) : Prop :=
  ∃ whole tail, text = whole ++ tail ∧ IsWhole whole ∧ IsTail tail

theorem AreDigits.append {front back : List Char} (areFront : AreDigits front)
    (each : ∀ char ∈ back, char.isDigit = true) : AreDigits (front ++ back) where
  nonempty := by simp [areFront.nonempty]
  each := by
    intro char member
    rcases List.mem_append.mp member with inFront | inBack
    · exact areFront.each char inFront
    · exact each char inBack

theorem AreDigits.of_sublist {text digits : List Char} (areDigits : AreDigits digits)
    (nonempty : text ≠ []) (part : text.Sublist digits) : AreDigits text :=
  ⟨nonempty, fun char member => areDigits.each char (part.mem member)⟩

theorem AreDigits.head?_append {digits : List Char} (areDigits : AreDigits digits)
    (back : List Char) : (digits ++ back).head? = digits.head? := by
  obtain ⟨first, others, rfl⟩ := List.exists_cons_of_ne_nil areDigits.nonempty
  rfl

/-- A digit on its own may be any digit. -/
theorem isWhole_singleton {digit : Char} (isDigit : digit.isDigit = true) : IsWhole [digit] where
  nonempty := List.cons_ne_nil _ _
  each := by simpa using isDigit
  leads := by simp

/-! ## Natural numbers -/

theorem areDigits_toDigits (value : Nat) : AreDigits (Nat.toDigits 10 value) :=
  ⟨Nat.toDigits_ne_nil, fun _ member => Nat.isDigit_of_mem_toDigits (by decide) (by decide) member⟩

/-- Only zero begins with a zero. -/
theorem head?_toDigits {value : Nat} (leads : (Nat.toDigits 10 value).head? = some '0') :
    value = 0 := by
  induction value using Nat.strongRecOn with
  | ind value inductionHypothesis =>
      by_cases small : value < 10
      · have each : ∀ value < 10, (Nat.toDigits 10 value).head? = some '0' → value = 0 := by decide
        exact each value small leads
      · rw [Nat.toDigits_of_base_le (by decide) (by omega),
          (areDigits_toDigits _).head?_append] at leads
        have isZero := inductionHypothesis (value / 10) (by omega) leads
        omega

theorem isWhole_toDigits (value : Nat) : IsWhole (Nat.toDigits 10 value) where
  toAreDigits := areDigits_toDigits value
  leads := by
    intro leads
    rw [head?_toDigits leads]
    rfl

/-! ## Decimals -/

/-- A decimal that is not zero, or is zero without an exponent. -/
def Scientific.Proper (decimal : Scientific) : Prop :=
  decimal.digits = 0 → decimal.exponent = 0

/-- A proper decimal is spelled with all three parts where they are needed. -/
theorem Scientific.spelled_text {decimal : Scientific} (proper : decimal.Proper) :
    Spelled (decimal.text ['+']) := by
  have areDigits := areDigits_toDigits decimal.digits
  have isWhole := isWhole_toDigits decimal.digits
  have positive : 0 < (Nat.toDigits 10 decimal.digits).length :=
    List.length_pos_iff.mpr areDigits.nonempty
  have zeros : ∀ count, ∀ char ∈ List.replicate count '0', char.isDigit = true := by
    intro count char member
    rw [List.eq_of_mem_replicate member]
    rfl
  unfold text
  dsimp only
  generalize isText : Nat.toDigits 10 decimal.digits = digits at areDigits isWhole positive ⊢
  split
  · -- An integer, with zeros behind its digits.
    refine ⟨digits ++ List.replicate decimal.exponent.toNat '0', ['.', '0'], rfl,
      ⟨areDigits.append (zeros _), ?_⟩, .fraction (isWhole_singleton rfl).toAreDigits⟩
    intro leads
    rw [areDigits.head?_append] at leads
    have isZero : decimal.digits = 0 := head?_toDigits (isText ▸ leads)
    rw [isWhole.leads leads, proper isZero]
    rfl
  · rename_i notInteger
    simp only [Bool.and_eq_true, decide_eq_true_eq, not_and] at notInteger
    split
    · -- The point stands between the digits.
      rename_i inside
      simp only [Bool.and_eq_true, decide_eq_true_eq] at inside
      generalize isPlace : ((digits.length : Int) + decimal.exponent).toNat = place
      have placed : 0 < place ∧ place < digits.length := by omega
      have front : digits.take place ≠ [] := by
        apply List.ne_nil_of_length_pos
        rw [List.length_take]
        omega
      have back : digits.drop place ≠ [] := by
        apply List.ne_nil_of_length_pos
        rw [List.length_drop]
        omega
      refine ⟨digits.take place, '.' :: digits.drop place, rfl,
        ⟨areDigits.of_sublist front (List.take_sublist _ _), ?_⟩,
        .fraction (areDigits.of_sublist back (List.drop_sublist _ _))⟩
      intro leads
      rw [List.head?_take, if_neg (by omega)] at leads
      have single := congrArg List.length (isWhole.leads leads)
      rw [List.length_singleton] at single
      omega
    · split
      · -- Zeros stand between the point and the digits.
        generalize (-((digits.length : Int) + decimal.exponent)).toNat = count
        have areFraction : AreDigits (List.replicate count '0' ++ digits) := by
          refine ⟨by simp [areDigits.nonempty], ?_⟩
          intro char member
          rcases List.mem_append.mp member with isZero | isDigit
          · exact zeros count char isZero
          · exact areDigits.each char isDigit
        exact ⟨['0'], '.' :: (List.replicate count '0' ++ digits), by simp,
          isWhole_singleton rfl, .fraction areFraction⟩
      · -- One digit stands in front of the point, and a power of ten behind the others.
        generalize isPower : (digits.length : Int) + decimal.exponent - 1 = power
        have isSign : (if power < 0 then ['-'] else ['+']) = [] ∨
            (if power < 0 then ['-'] else ['+']) = ['+'] ∨
            (if power < 0 then ['-'] else ['+']) = ['-'] := by
          split <;> simp
        have arePower := areDigits_toDigits power.natAbs
        split
        · exact ⟨digits, _, rfl, isWhole, .exponent isSign arePower⟩
        · rename_i several
          obtain ⟨first, others, rfl⟩ := List.exists_cons_of_ne_nil areDigits.nonempty
          have back : others ≠ [] := by
            rintro rfl
            exact several rfl
          have areOthers : AreDigits others :=
            areDigits.of_sublist back (List.sublist_cons_self _ _)
          refine ⟨[first], _, by simp, isWhole_singleton (areDigits.each _ List.mem_cons_self),
            .both areOthers isSign arePower⟩

/-! ## Binary numbers -/

theorem twoTo_pos (exponent : Nat) : 0 < twoTo exponent :=
  Nat.pow_pos (by decide)

theorem tenTo_pos (exponent : Nat) : 0 < tenTo exponent :=
  Nat.pow_pos (by decide)

theorem ratio_pos {mantissa : Nat} (positive : 0 < mantissa) (exponent : Int) :
    0 < (Binary64.ratio mantissa exponent).1 := by
  unfold Binary64.ratio
  split
  · exact positive
  · exact Nat.mul_pos positive (twoTo_pos _)

/-- What rounds to a positive number is not zero: it would lie below the number half way
to the one before. -/
theorem digits_ne_zero_of_roundsTo {mantissa : Nat} (positive : 0 < mantissa) {exponent : Int}
    {decimal : Scientific} (rounds : roundsTo mantissa exponent decimal = true) :
    decimal.digits ≠ 0 := by
  intro isZero
  have below : ∀ numerator denominator, 0 < numerator →
      decimal.compareRatio numerator denominator = .lt := by
    intro numerator denominator above
    have isRatio : decimal.ratio.1 = 0 ∧ 0 < decimal.ratio.2 := by
      unfold Scientific.ratio
      split
      · exact ⟨isZero, tenTo_pos _⟩
      · simp [isZero]
    simp only [Scientific.compareRatio, isRatio.1, Nat.zero_mul]
    exact Nat.compare_eq_lt.mpr (Nat.mul_pos above isRatio.2)
  unfold roundsTo at rounds
  dsimp only at rounds
  rw [below _ _ (ratio_pos (by split <;> omega) _)] at rounds
  split at rounds
  · exact nomatch rounds
  · exact nomatch rounds

theorem digits_ne_zero_of_nearestOnGrid {mantissa : Nat} (positive : 0 < mantissa)
    {exponent place : Int} {count : Nat} {decimal : Scientific}
    (found : nearestOnGrid mantissa exponent place count = some decimal) :
    decimal.digits ≠ 0 := by
  -- Whichever of the two neighbours is tried first, what is found rounds to the number.
  have rounds : ∀ first second : Scientific,
      (if roundsTo mantissa exponent first then some first
        else if roundsTo mantissa exponent second then some second else none) = some decimal →
      roundsTo mantissa exponent decimal = true := by
    intro first second isFound
    split at isFound
    · exact Option.some.inj isFound ▸ ‹_›
    · split at isFound
      · exact Option.some.inj isFound ▸ ‹_›
      · exact nomatch isFound
  exact digits_ne_zero_of_roundsTo positive (rounds _ _ found)

theorem digits_dropZeros_ne_zero (fuel : Nat) {decimal : Scientific}
    (notZero : decimal.digits ≠ 0) : (decimal.dropZeros fuel).digits ≠ 0 := by
  induction fuel generalizing decimal with
  | zero => exact notZero
  | succ fuel inductionHypothesis =>
      unfold Scientific.dropZeros
      split
      · rename_i ends
        simp only [Bool.and_eq_true, decide_eq_true_eq] at ends
        apply inductionHypothesis
        dsimp only
        omega
      · exact notZero

theorem dropZeros_zero (fuel : Nat) : Scientific.dropZeros fuel ⟨0, 0⟩ = ⟨0, 0⟩ := by
  cases fuel <;> rfl

theorem proper_shortest {mantissa : Nat} (positive : 0 < mantissa) (exponent : Int) :
    (shortest mantissa exponent).Proper := by
  unfold shortest
  dsimp only
  generalize isFound : (List.range 17).findSome? _ = found
  cases found with
  | none =>
      rw [Option.getD_none, dropZeros_zero]
      exact fun _ => rfl
  | some decimal =>
      obtain ⟨count, -, onGrid⟩ := List.exists_of_findSome?_eq_some isFound
      have notZero := digits_dropZeros_ne_zero 20 (digits_ne_zero_of_nearestOnGrid positive onGrid)
      exact fun isZero => absurd isZero notZero

/-- Every finite number is spelled by its text, behind its sign. -/
theorem spelled_finiteText (negative : Bool) (mantissa : Nat) (exponent : Int) :
    ∃ magnitude, Spelled magnitude ∧ finiteText ['+'] negative mantissa exponent =
      if negative then '-' :: magnitude else magnitude := by
  by_cases isZero : mantissa = 0
  · refine ⟨['0', '.', '0'], ⟨['0'], ['.', '0'], rfl, isWhole_singleton rfl, ?_⟩, ?_⟩
    · exact .fraction (isWhole_singleton rfl).toAreDigits
    · simp only [finiteText, if_pos isZero]
  · refine ⟨(shortest mantissa exponent).text ['+'], ?_, ?_⟩
    · exact Scientific.spelled_text (proper_shortest (Nat.pos_of_ne_zero isZero) exponent)
    · simp only [finiteText, if_neg isZero]

end BuildExplorer.Decimal
