/-!
# Reading bytes as text

Bytes are read one at a time.  The reader is either between characters or
inside one, where it knows how many more bytes the character needs and which
values the next of them may have.  A byte that does not fit ends the broken
character and is read again as a first byte, so that each maximal broken prefix
counts as one broken character.
-/

namespace BuildExplorer.Text.Utf8

/-- What the reader knows between two bytes. -/
inductive State where
  /-- No character is open. -/
  | idle
  /-- `missing + 1` more bytes are needed; the next is from `low` to `high`, and
  `value` is made of the bits read so far. -/
  | inside (missing : Nat) (low high : UInt8) (value : Nat)
  deriving DecidableEq, Repr

/-- A character, or `none` for a broken one. -/
abbrev Symbol := Option Char

/-- Read the first byte of a character. -/
def State.first (byte : UInt8) : State × List Symbol :=
  if byte < 0x80 then (.idle, [some (Char.ofNat byte.toNat)])
  else if 0xC2 ≤ byte && byte ≤ 0xDF then (.inside 0 0x80 0xBF (byte.toNat - 0xC0), [])
  else if byte == 0xE0 then (.inside 1 0xA0 0xBF 0, [])
  else if byte == 0xED then (.inside 1 0x80 0x9F 13, [])
  else if 0xE1 ≤ byte && byte ≤ 0xEF then (.inside 1 0x80 0xBF (byte.toNat - 0xE0), [])
  else if byte == 0xF0 then (.inside 2 0x90 0xBF 0, [])
  else if 0xF1 ≤ byte && byte ≤ 0xF3 then (.inside 2 0x80 0xBF (byte.toNat - 0xF0), [])
  else if byte == 0xF4 then (.inside 2 0x80 0x8F 4, [])
  else (.idle, [none])

/-- Read one byte: the next state and the symbols that it completes. -/
def State.next : State → UInt8 → State × List Symbol
  | .idle, byte => State.first byte
  | .inside missing low high value, byte =>
      if low ≤ byte && byte ≤ high then
        let value := 64 * value + (byte.toNat - 0x80)
        match missing with
        | 0 => (.idle, [some (Char.ofNat value)])
        | missing + 1 => (.inside missing 0x80 0xBF value, [])
      else
        let (state, symbols) := State.first byte
        (state, none :: symbols)

/-- The symbol that the end of the bytes completes. -/
def State.finish : State → List Symbol
  | .idle => []
  | .inside .. => [none]

/-- The state after the bytes and the symbols completed by them, last symbol
first. -/
def run (state : State) (bytes : List UInt8) : State × List Symbol :=
  bytes.foldl (fun (state, done) byte =>
    let (state, symbols) := state.next byte
    (state, symbols.reverse ++ done)) (state, [])

/-- The characters, whole and broken, that the bytes spell. -/
def symbols (bytes : List UInt8) : List Symbol :=
  let (state, done) := run .idle bytes
  done.reverse ++ state.finish

/-- Read bytes as text, with U+FFFD for each broken character. -/
def decodeLossy (bytes : List UInt8) : List Char :=
  (symbols bytes).map (·.getD '\uFFFD')

/-- Read bytes as text if no character is broken. -/
def decode? (bytes : List UInt8) : Option (List Char) :=
  (symbols bytes).mapM id

/-- The bytes of a text. -/
def encode (text : List Char) : List UInt8 :=
  text.flatMap String.utf8EncodeChar

@[simp]
theorem decodeLossy_nil : decodeLossy [] = [] :=
  rfl

@[simp]
theorem encode_nil : encode [] = [] :=
  rfl

@[simp]
theorem encode_cons (char : Char) (text : List Char) :
    encode (char :: text) = String.utf8EncodeChar char ++ encode text := by
  simp [encode]

end BuildExplorer.Text.Utf8
