import BuildExplorer.Text.Printable

/-!
# Quoted texts

A text between double quotes, with an escape for the quote, the backslash and
every character that has no visible form of its own.  A list of texts is
written between brackets, its members parted by a comma and a space.
-/

namespace BuildExplorer.Text.Quoted

/-- How one character stands inside the quotes. -/
def escape (char : Char) : List Char :=
  if char = '"' then ['\\', '"']
  else if char = '\\' then ['\\', '\\']
  else if char = '\n' then ['\\', 'n']
  else if char = '\r' then ['\\', 'r']
  else if char = '\t' then ['\\', 't']
  else if char.toNat = 0 then ['\\', '0']
  else if isPrintable char then [char]
  else ['\\', 'u', '\x7b'] ++ Nat.toDigits 16 char.toNat ++ ['\x7d']

/-- A text between double quotes. -/
def encode (text : List Char) : List Char :=
  '"' :: text.flatMap escape ++ ['"']

/-- A list of texts between brackets. -/
def encodeList (texts : List (List Char)) : List Char :=
  '[' :: [',', ' '].intercalate (texts.map encode) ++ [']']

@[simp]
theorem encodeList_nil : encodeList [] = ['[', ']'] :=
  rfl

end BuildExplorer.Text.Quoted
