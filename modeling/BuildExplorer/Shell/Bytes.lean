import BuildExplorer.Path
import BuildExplorer.Text.Utf8

/-!
# Texts of a shell

A shell and the programs around it know bytes and no characters.  Their texts
are kept with one character for each byte, the one of the same number, so that
every byte sequence has exactly one text.  Texts from outside, such as paths,
are spelled in bytes first.
-/

namespace BuildExplorer.Shell

/-- The text with one character for each byte. -/
def textOf (bytes : List UInt8) : List Char :=
  bytes.map fun byte => Char.ofNat byte.toNat

/-- The bytes of a text. -/
def bytesOf (text : List Char) : List UInt8 :=
  text.map fun char => UInt8.ofNat char.toNat

@[simp]
theorem textOf_nil : textOf [] = [] :=
  rfl

@[simp]
theorem bytesOf_nil : bytesOf [] = [] :=
  rfl

@[simp]
theorem bytesOf_append (front back : List Char) :
    bytesOf (front ++ back) = bytesOf front ++ bytesOf back := by
  simp [bytesOf]

/-- The number of a byte is that of its character. -/
theorem toNat_ofNat_byte (byte : UInt8) : (Char.ofNat byte.toNat).toNat = byte.toNat := by
  have small : byte.toNat < 256 := byte.toNat_lt
  have valid : byte.toNat.isValidChar := Or.inl (by omega)
  rw [Char.ofNat, dif_pos valid]
  rfl

/-- No byte is lost in a text. -/
@[simp]
theorem bytesOf_textOf (bytes : List UInt8) : bytesOf (textOf bytes) = bytes := by
  induction bytes with
  | nil => rfl
  | cons byte rest inductionHypothesis =>
      simp only [bytesOf, textOf, List.map_cons] at inductionHypothesis ⊢
      rw [toNat_ofNat_byte, inductionHypothesis]
      simp

/-- The text for characters: that of the bytes which spell them. -/
def spelled (chars : List Char) : List Char :=
  textOf (Text.Utf8.encode chars)

/-- The characters that a text spells. -/
def unspelled (text : List Char) : List Char :=
  Text.Utf8.decodeLossy (bytesOf text)

/-- The path that a text spells. -/
def pathOf (text : List Char) : Path :=
  Path.ofChars (unspelled text)

end BuildExplorer.Shell
