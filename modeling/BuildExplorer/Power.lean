/-!
# Powers of two and of ten

The limits of fixed-width integers are powers of two, and decimal places are
powers of ten.
-/

namespace BuildExplorer

/-- A power of two. -/
def twoTo (exponent : Nat) : Nat :=
  Nat.pow 2 exponent

/-- A power of ten. -/
def tenTo (exponent : Nat) : Nat :=
  Nat.pow 10 exponent

@[simp]
theorem twoTo_zero : twoTo 0 = 1 :=
  rfl

@[simp]
theorem twoTo_succ (exponent : Nat) : twoTo (exponent + 1) = twoTo exponent * 2 :=
  rfl

@[simp]
theorem tenTo_zero : tenTo 0 = 1 :=
  rfl

@[simp]
theorem tenTo_succ (exponent : Nat) : tenTo (exponent + 1) = tenTo exponent * 10 :=
  rfl

end BuildExplorer
