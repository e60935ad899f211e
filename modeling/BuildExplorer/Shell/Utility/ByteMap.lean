import BuildExplorer.Shell.Pattern
import BuildExplorer.Shell.Printing
import BuildExplorer.Shell.Utility.Input

/-!
# Mapping bytes

The bytes of one set are exchanged for those of another, dropped, or squeezed
together where they repeat.
-/

namespace BuildExplorer.Shell.Utility

/-! ## Sets -/

/-- The bytes from one up to another. -/
def byteRange (low high : Nat) : List UInt8 :=
  (List.range (high + 1 - low)).map fun offset => UInt8.ofNat (low + offset)

/-- The first byte of a set, which may be written as an escape, and what follows it. -/
def setByte : List Char → Option (UInt8 × List Char)
  | [] => none
  | '\\' :: rest =>
      match Printing.escape false rest with
      | ([byte], after) => some (byte, after)
      | _ => (rest.head?.map fun char => (UInt8.ofNat char.toNat, rest.drop 1))
  | char :: rest => some (UInt8.ofNat char.toNat, rest)

/-- The bytes of a set: single ones, ranges and classes. -/
def setBytes : Nat → List Char → List UInt8
  | 0, _ => []
  | fuel + 1, text =>
      match text.head?, classAt? (text.drop 1) with
      | some '[', some (ranges, ']' :: after) =>
          (ranges.flatMap fun (low, high) => byteRange low.toNat high.toNat) ++ setBytes fuel after
      | _, _ =>
          match setByte text with
          | none => []
          | some (low, '-' :: rest) =>
              match setByte rest with
              | none => [low, 45]
              | some (high, after) => byteRange low.toNat high.toNat ++ setBytes fuel after
          | some (byte, rest) => byte :: setBytes fuel rest

/-- Read a set. -/
def setOf (text : List Char) : List UInt8 :=
  setBytes (text.length + 1) text

/-! ## Changes -/

/-- Replace a byte by the one at its place in another set, whose last byte stands for
all that are missing. -/
def mapByte (sources targets : List UInt8) (byte : UInt8) : UInt8 :=
  match sources.idxOf? byte with
  | none => byte
  | some index => (targets[index]?).getD (targets.getLast?.getD byte)

/-- Drop bytes of a set that repeat the one in front of them, which `last` is for the
first one. -/
def squeeze (set : List UInt8) : Option UInt8 → List UInt8 → List UInt8
  | _, [] => []
  | last, byte :: rest =>
      if last = some byte && set.contains byte then squeeze set last rest
      else byte :: squeeze set (some byte) rest

/-- What becomes of bytes by the options and sets of `tr`, and which of them are squeezed
together; nothing if there are too few sets or too many. -/
def changeOf? (given : Given) : Option ((List UInt8 → List UInt8) × List UInt8) :=
  let sets := given.operands.map setOf
  let firstSet (set : List UInt8) : List UInt8 :=
    if given.has 'c' then (byteRange 0 255).filter fun byte => !set.contains byte else set
  match sets, given.has 'd', given.has 's' with
  | [set], true, false => some (List.filter fun byte => !(firstSet set).contains byte, [])
  | [set], false, true => some (id, firstSet set)
  | [set, other], false, squeezes =>
      let table := (byteRange 0 255).toArray.map (mapByte (firstSet set) other)
      some (List.map fun byte => (table[byte.toNat]?).getD byte, if squeezes then other else [])
  | _, _, _ => none

/-- Map the bytes of the input. -/
def tr (arguments : List (List Char)) : Run Unit :=
  withOptions { plain := "cds", endsAtOperand := true } arguments 1 fun given => do
    match changeOf? given with
    | none => misuse 1 "missing or extra operand"
    | some (change, squeezed) =>
        let step (last : Option UInt8) (chunk : List UInt8) : Run (Option UInt8 × Bool) := do
          let bytes := squeeze squeezed last (change chunk)
          put bytes
          return (bytes.getLast? <|> last, true)
        match ← forChunks standardInput blockSize step inputFuel none with
        | .ok _ => return ()
        | .error fault => fail 1 ("read error: " ++ faultText fault)

end BuildExplorer.Shell.Utility
