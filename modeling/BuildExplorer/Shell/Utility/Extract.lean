import BuildExplorer.Shell.Utility.Input

/-!
# Utilities that show files or parts of them
-/

namespace BuildExplorer.Shell.Utility

open Host (Fault)

/-! ## Whole files -/

/-- Copy an input to the output as it comes. -/
def copy (input : Input) : Run (Except Fault Unit) :=
  forChunks input (2 * blockSize) (fun _ chunk => do
    put chunk
    Run.flush
    return ((), (← Run.process).lost.isNone)) inputFuel ()

/-- Is the file that is read the one that is written to, and is there something left
to read?  Then the copy would come to no end. -/
def writesIntoItself (input : Input) : Run Bool := do
  match ← Run.ask (.describe input.descriptor), ← Run.ask (.describe 1) with
  | some (.toFile read place _ size), some (.toFile written _ _ _) =>
      return read == written && place < size
  | _, _ => return false

/-- Copy inputs to the output. -/
def cat (arguments : List (List Char)) : Run Unit :=
  withOptions { plain := "u" } arguments 1 fun given => do
    forNames given.sources fun name => do
      let isLoop ← withInput name fun input => do
        if ← writesIntoItself input then return .ok true
        else return (← copy input).map fun _ => false
      match isLoop with
      | .ok false => return true
      | .ok true =>
          complain (quoteIfNeeded name ++ ": input file is output file")
          return false
      | .error fault =>
          complainOfFile name fault
          return false

/-! ## The start and the end -/

/-- How much of a file is shown. -/
inductive Amount where
  | bytes (count : Nat)
  | lines (count : Nat)
  /-- All from a line on, counted from one. -/
  | fromLine (number : Nat)
  deriving Repr

/-- A number, perhaps with a letter for a factor behind it. -/
def countOf? (text : List Char) : Option Nat :=
  let number := Text.readNumeral (twoTo 31)
  match text.getLast? with
  | some 'k' => (number text.dropLast).map (1024 * ·)
  | some 'M' => (number text.dropLast).map (1024 * 1024 * ·)
  | _ => number text

/-- Read the number of bytes or lines that options ask for. -/
def amountOf (given : Given) : Except String Amount :=
  let number (what : String) (text : List Char) : Except String Nat :=
    match countOf? text with
    | some count => .ok count
    | none => .error ("invalid number of " ++ what ++ ": " ++ quote text)
  match given.value? 'c', given.value? 'n' with
  | some count, _ => (number "bytes" count).map .bytes
  | none, some ('+' :: count) => (number "lines" count).map .fromLine
  | none, some count => (number "lines" count).map .lines
  | none, none => .ok (.lines 10)

/-- Write a bare number of lines as an option with a value. -/
def spelledOut : List (List Char) → List (List Char)
  | ('-' :: digit :: digits) :: rest =>
      if (digit :: digits).all Char.isDigit then ['-', 'n'] :: (digit :: digits) :: rest
      else ('-' :: digit :: digits) :: rest
  | arguments => arguments

/-- Show so many items of an input, where `split` parts the chunk that has the last of
them.  What is behind that is left to others, if one can go back to it. -/
def showFront (input : Input) (count size : Nat) (itemsIn : List UInt8 → Nat)
    (front : Nat → List UInt8 → List UInt8) : Run (Except Fault Unit) := do
  let step (left : Nat) (chunk : List UInt8) : Run (Nat × Bool) := do
    let shown := front left chunk
    put shown
    giveBack input (chunk.length - shown.length)
    return (left - itemsIn chunk, itemsIn chunk < left)
  if count = 0 then return .ok ()
  else return (← forChunks input size step inputFuel count).map fun _ => ()

/-- Show the part of an input from its start. -/
def showStart (amount : Amount) (input : Input) : Run (Except Fault Unit) :=
  let size := if input.isOwn then blockSize else 8192
  match amount with
  | .bytes count => showFront input count (min count size) List.length List.take
  | .lines count => showFront input count size (List.count 10) lines
  | .fromLine count => showFront input count size (List.count 10) lines
where
  lines (count : Nat) (chunk : List UInt8) : List UInt8 := ((byteLines chunk).take count).flatten

/-- Show the part of an input up to its end. -/
def showEnd (amount : Amount) (input : Input) : Run (Except Fault Unit) := do
  match ← readAll input with
  | .error fault => return .error fault
  | .ok bytes =>
      let lines := byteLines bytes
      put <|
        match amount with
        | .bytes count => bytes.drop (bytes.length - count)
        | .lines count => (lines.drop (lines.length - count)).flatten
        | .fromLine number => (lines.drop (number - 1)).flatten
      return .ok ()

/-- Show a part of each file. -/
def showParts (part : Amount → Input → Run (Except Fault Unit)) (arguments : List (List Char)) :
    Run Unit :=
  withOptions { plain := "q", valued := "nc" } (spelledOut arguments) 1 fun given => do
    match amountOf given with
    | .error text => fail 1 text
    | .ok amount =>
        forNames given.sources fun name => do
          match ← withInput name (part amount) with
          | .ok () => return true
          | .error fault =>
              complain ("cannot open " ++ quote name ++ " for reading: " ++ faultText fault)
              return false

/-- Show the start of each file. -/
def head (arguments : List (List Char)) : Run Unit :=
  showParts showStart arguments

/-- Show the end of each file. -/
def tail (arguments : List (List Char)) : Run Unit :=
  showParts showEnd arguments

/-! ## Bytes as numbers -/

/-- A number in a base with a least number of digits. -/
def inDigits (base least value : Nat) : List Char :=
  let digits := Nat.toDigits base value
  List.replicate (least - digits.length) '0' ++ digits

/-- A byte as a character or an escape. -/
def dumpedChar (byte : Nat) : List Char :=
  match ([0, 7, 8, 9, 10, 11, 12, 13].zip "0abtnvfr".toList).lookup byte with
  | some letter => ['\\', letter]
  | none => if 32 ≤ byte && byte < 127 then [Char.ofNat byte] else inDigits 8 3 byte

/-- How wide a byte is shown that is of the type of a name, and how it is spelled. -/
def dumpStyle? (name : String) : Option (Nat × (Nat → List Char)) :=
  match name with
  | "c" => some (4, dumpedChar)
  | "o1" => some (4, inDigits 8 3)
  | "u1" => some (4, Nat.toDigits 10)
  | "x1" => some (3, inDigits 16 2)
  | _ => none

/-- Show bytes as numbers or characters, sixteen in a row behind their place. -/
def od (arguments : List (List Char)) : Run Unit :=
  withOptions { plain := "cv", valued := "At" } arguments 1 fun given => do
    let name := if given.has 'c' then ['c'] else (given.value? 't').getD []
    match dumpStyle? (String.ofList name) with
    | none => fail 1 ("invalid type string " ++ quote name)
    | some (width, spell) =>
        let place (number : Nat) : List Char :=
          if given.value? 'A' = some ['n'] then [] else inDigits 8 7 number
        withContents given.sources fun bytes => do
          let rows := (List.range ((bytes.length + 15) / 16)).map fun row =>
            place (16 * row) ++ ((bytes.drop (16 * row)).take 16).flatMap fun byte =>
              let text := spell byte.toNat
              List.replicate (width - text.length) ' ' ++ text
          let final := place bytes.length
          Run.say (Text.unlines (rows ++ if final.isEmpty then [] else [final]))

end BuildExplorer.Shell.Utility
