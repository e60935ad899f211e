/-!
# SHA-256

The hash function of FIPS 180-4.  A message is padded to blocks of 64 bytes;
each block changes a state of eight words in 64 rounds.
-/

namespace BuildExplorer.Digest.Sha256

/-- The eight words of the state. -/
structure State where
  a : UInt32
  b : UInt32
  c : UInt32
  d : UInt32
  e : UInt32
  f : UInt32
  g : UInt32
  h : UInt32
  deriving DecidableEq, Repr

/-- The state before the first block. -/
def initial : State :=
  ⟨0x6a09e667, 0xbb67ae85, 0x3c6ef372, 0xa54ff53a, 0x510e527f, 0x9b05688c, 0x1f83d9ab, 0x5be0cd19⟩

/-- The constants of the rounds. -/
def constants : List UInt32 :=
  [0x428a2f98, 0x71374491, 0xb5c0fbcf, 0xe9b5dba5, 0x3956c25b, 0x59f111f1, 0x923f82a4, 0xab1c5ed5,
   0xd807aa98, 0x12835b01, 0x243185be, 0x550c7dc3, 0x72be5d74, 0x80deb1fe, 0x9bdc06a7, 0xc19bf174,
   0xe49b69c1, 0xefbe4786, 0x0fc19dc6, 0x240ca1cc, 0x2de92c6f, 0x4a7484aa, 0x5cb0a9dc, 0x76f988da,
   0x983e5152, 0xa831c66d, 0xb00327c8, 0xbf597fc7, 0xc6e00bf3, 0xd5a79147, 0x06ca6351, 0x14292967,
   0x27b70a85, 0x2e1b2138, 0x4d2c6dfc, 0x53380d13, 0x650a7354, 0x766a0abb, 0x81c2c92e, 0x92722c85,
   0xa2bfe8a1, 0xa81a664b, 0xc24b8b70, 0xc76c51a3, 0xd192e819, 0xd6990624, 0xf40e3585, 0x106aa070,
   0x19a4c116, 0x1e376c08, 0x2748774c, 0x34b0bcb5, 0x391c0cb3, 0x4ed8aa4a, 0x5b9cca4f, 0x682e6ff3,
   0x748f82ee, 0x78a5636f, 0x84c87814, 0x8cc70208, 0x90befffa, 0xa4506ceb, 0xbef9a3f7, 0xc67178f2]

/-- Rotate a word to the right. -/
def rotate (word : UInt32) (count : UInt32) : UInt32 :=
  (word >>> count) ||| (word <<< (32 - count))

/-- One round. -/
def State.round (state : State) (word constant : UInt32) : State :=
  let sum1 := rotate state.e 6 ^^^ rotate state.e 11 ^^^ rotate state.e 25
  let choice := (state.e &&& state.f) ^^^ (~~~state.e &&& state.g)
  let first := state.h + sum1 + choice + constant + word
  let sum0 := rotate state.a 2 ^^^ rotate state.a 13 ^^^ rotate state.a 22
  let majority := (state.a &&& state.b) ^^^ (state.a &&& state.c) ^^^ (state.b &&& state.c)
  ⟨first + (sum0 + majority), state.a, state.b, state.c, state.d + first, state.e, state.f, state.g⟩

/-- The sum of two states, word by word. -/
def State.add (left right : State) : State :=
  ⟨left.a + right.a, left.b + right.b, left.c + right.c, left.d + right.d,
   left.e + right.e, left.f + right.f, left.g + right.g, left.h + right.h⟩

/-- The big-endian words of some bytes. -/
def wordsOfBytes : List UInt8 → List UInt32
  | a :: b :: c :: d :: rest =>
      ((a.toUInt32 <<< 24) ||| (b.toUInt32 <<< 16) ||| (c.toUInt32 <<< 8) ||| d.toUInt32) ::
        wordsOfBytes rest
  | _ => []

/-- Add `count` words to a schedule. -/
def extend (count : Nat) (schedule : Array UInt32) : Array UInt32 :=
  match count with
  | 0 => schedule
  | count + 1 =>
      let earlier (back : Nat) : UInt32 := schedule.getD (schedule.size - back) 0
      let early := earlier 15
      let late := earlier 2
      let sigma0 := rotate early 7 ^^^ rotate early 18 ^^^ (early >>> 3)
      let sigma1 := rotate late 17 ^^^ rotate late 19 ^^^ (late >>> 10)
      extend count (schedule.push (earlier 16 + sigma0 + earlier 7 + sigma1))

/-- The state after a block. -/
def State.absorb (state : State) (block : List UInt8) : State :=
  let schedule := (extend 48 (wordsOfBytes block).toArray).toList
  state.add ((schedule.zip constants).foldl (fun state (word, constant) =>
    state.round word constant) state)

/-- The bytes of a number in eight places, most significant first. -/
def lengthBytes (value : Nat) : List UInt8 :=
  [56, 48, 40, 32, 24, 16, 8, 0].map fun shift => UInt8.ofNat (value >>> shift)

/-- The message with a one bit, zeros and its length in bits behind it. -/
def pad (message : List UInt8) : List UInt8 :=
  let zeros := (119 - message.length % 64) % 64
  message ++ 0x80 :: List.replicate zeros 0 ++ lengthBytes (8 * message.length)

/-- The state after `count` blocks. -/
def absorbAll (count : Nat) (state : State) (bytes : List UInt8) : State :=
  match count with
  | 0 => state
  | count + 1 => absorbAll count (state.absorb (bytes.take 64)) (bytes.drop 64)

/-- The eight words of the hash of a message. -/
def digestWords (message : List UInt8) : List UInt32 :=
  let padded := pad message
  let state := absorbAll (padded.length / 64) initial padded
  [state.a, state.b, state.c, state.d, state.e, state.f, state.g, state.h]

/-- A word in eight hexadecimal digits. -/
def wordHex (word : UInt32) : List Char :=
  [28, 24, 20, 16, 12, 8, 4, 0].map fun shift => Nat.digitChar ((word.toNat >>> shift) % 16)

/-- The hash of a message in 64 hexadecimal digits. -/
def hex (message : List UInt8) : String :=
  String.ofList ((digestWords message).flatMap wordHex)

@[simp]
theorem length_lengthBytes (value : Nat) : (lengthBytes value).length = 8 :=
  rfl

/-- A padded message consists of whole blocks. -/
theorem length_pad_mod (message : List UInt8) : (pad message).length % 64 = 0 := by
  simp only [pad, List.length_append, List.length_cons, List.length_replicate, length_lengthBytes]
  omega

end BuildExplorer.Digest.Sha256
