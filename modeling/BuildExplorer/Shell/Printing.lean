import BuildExplorer.Shell.Arithmetic
import BuildExplorer.Shell.Bytes

/-!
# Printed text

What `echo` and `printf` write: a backslash begins an escape, and a percent
sign in a format takes an argument.
-/

namespace BuildExplorer.Shell.Printing

/-! ## Escapes -/

/-- Is the character a digit of an octal number? -/
def isOctal (char : Char) : Bool :=
  '0' ≤ char && char ≤ '7'

/-- The byte for octal digits. -/
def octalByte (digits : List Char) : UInt8 :=
  UInt8.ofNat (Arithmetic.valueOf 8 digits)

/-- The byte for a letter behind a backslash. -/
def letterEscape? (char : Char) : Option UInt8 :=
  match char with
  | 'a' => some 7
  | 'b' => some 8
  | 't' => some 9
  | 'n' => some 10
  | 'v' => some 11
  | 'f' => some 12
  | 'r' => some 13
  | 'e' => some 27
  | '\\' => some 92
  | _ => none

/-- Read an escape behind its backslash: its bytes, and what follows it.  With
`zeroFirst` a zero in front of an octal number does not count. -/
def escape (zeroFirst : Bool) (text : List Char) : List UInt8 × List Char :=
  match text with
  | [] => ([92], [])
  | char :: rest =>
      match letterEscape? char with
      | some byte => ([byte], rest)
      | none =>
          if isOctal char then
            let text := if zeroFirst && char = '0' then rest else text
            let digits := (text.take 3).takeWhile isOctal
            ([octalByte digits], text.drop digits.length)
          else (92 :: bytesOf [char], rest)

/-- The bytes of a text with escapes, and whether it asks to stop. -/
def escaped : Nat → List Char → List UInt8 × Bool
  | 0, _ => ([], false)
  | _, [] => ([], false)
  | _, '\\' :: 'c' :: _ => ([], true)
  | fuel + 1, '\\' :: rest =>
      let (bytes, after) := escape true rest
      let (others, stops) := escaped fuel after
      (bytes ++ others, stops)
  | fuel + 1, char :: rest =>
      let (others, stops) := escaped fuel rest
      (bytesOf [char] ++ others, stops)

/-- What `echo` writes. -/
def echo (arguments : List (List Char)) : List UInt8 :=
  let (endsLine, words) :=
    match arguments with
    | ['-', 'n'] :: rest => (false, rest)
    | words => (true, words)
  let text := [' '].intercalate words
  let (bytes, stops) := escaped (text.length + 1) text
  bytes ++ if endsLine && !stops then [10] else []

/-! ## Layouts -/

/-- How a value is set: at which width, on which side, and with how many digits
or characters. -/
structure Layout where
  toLeft : Bool := false
  zeroFilled : Bool := false
  showsSign : Bool := false
  width : Nat := 0
  precision : Option Nat := none

/-- Set bytes in their width. -/
def Layout.pad (layout : Layout) (bytes : List UInt8) : List UInt8 :=
  let missing := List.replicate (layout.width - bytes.length) (32 : UInt8)
  if layout.toLeft then bytes ++ missing else missing ++ bytes

/-- Set the digits of a number behind its sign. -/
def Layout.padNumber (layout : Layout) (sign digits : List Char) : List UInt8 :=
  let least :=
    match layout.precision with
    | some least => least
    | none =>
        if layout.zeroFilled && !layout.toLeft then layout.width - sign.length else 1
  layout.pad (bytesOf (sign ++ List.replicate (least - digits.length) '0' ++ digits))

/-- The sign that stands in front of a number. -/
def Layout.sign (layout : Layout) (isNegative : Bool) : List Char :=
  if isNegative then ['-'] else if layout.showsSign then ['+'] else []

/-! ## Formats -/

/-- What a format has written so far, and what went wrong. -/
structure Printed where
  /-- The last piece comes first. -/
  pieces : List (List UInt8) := []
  complaints : List String := []
  arguments : List (List Char)
  /-- Is nothing more to be written? -/
  isOver : Bool := false
  /-- Is the format itself wrong? -/
  isRefused : Bool := false

def Printed.write (printed : Printed) (bytes : List UInt8) : Printed :=
  { printed with pieces := bytes :: printed.pieces }

/-- Take an argument. -/
def Printed.take (printed : Printed) : Option (List Char) × Printed :=
  (printed.arguments.head?, { printed with arguments := printed.arguments.drop 1 })

def Printed.complain (printed : Printed) (text : String) : Printed :=
  { printed with complaints := text :: printed.complaints }

/-- Stop at a format that is wrong. -/
def Printed.refuse (printed : Printed) (text : String) : Printed :=
  { printed.complain text with isOver := true, isRefused := true }

/-- A number as one of 64 bits: the nearest one of those with a sign, or what is left
of it without a sign. -/
def inRange (isSigned : Bool) (value : Int) : Int :=
  if isSigned then Arithmetic.saturate value
  else if value.natAbs < twoTo 64 then value.emod (twoTo 64)
  else twoTo 64 - 1

/-- Is a number one of 64 bits? -/
def isInRange (isSigned : Bool) (value : Int) : Bool :=
  if isSigned then Arithmetic.saturate value = value else value.natAbs < twoTo 64

/-- The number that an argument stands for, and the complaint about it.  Behind a quote,
that is the code of a character. -/
def numberOf (isSigned : Bool) : List Char → Int × Option String
  | [] => (0, none)
  | '"' :: rest => ((rest.head?.map fun char => (char.toNat : Int)).getD 0, none)
  | '\'' :: rest => ((rest.head?.map fun char => (char.toNat : Int)).getD 0, none)
  | text =>
      match Arithmetic.integerAt? (Arithmetic.skipBlanks text) with
      | none => (0, some "expected numeric value")
      | some (value, rest) =>
          (inRange isSigned value,
            if !rest.isEmpty then some "not completely converted"
            else if isInRange isSigned value then none
            else some "Numerical result out of range")

/-- Take an argument as a number. -/
def Printed.takeNumber (isSigned : Bool) (printed : Printed) : Int × Printed :=
  let (argument, printed) := printed.take
  let (value, complaint) := numberOf isSigned (argument.getD [])
  match complaint with
  | none => (value, printed)
  | some complaint =>
      (value, printed.complain (String.ofList (argument.getD []) ++ ": " ++ complaint))

/-- Read a count at the front of a text. -/
def countAt (text : List Char) : Nat × List Char :=
  (Text.numeralValue (text.takeWhile Char.isDigit), text.dropWhile Char.isDigit)

/-- Read the layout between a percent sign and its letter. -/
def layoutOf (text : List Char) : Layout × List Char :=
  let isFlag (char : Char) : Bool := ['-', '0', '+'].contains char
  let flags := text.takeWhile isFlag
  let (width, rest) := countAt (text.dropWhile isFlag)
  let layout : Layout := {
    toLeft := flags.contains '-', zeroFilled := flags.contains '0'
    showsSign := flags.contains '+', width }
  match rest with
  | '.' :: rest =>
      let (precision, rest) := countAt rest
      ({ layout with precision := some precision }, rest)
  | rest => (layout, rest)

/-- Write an argument for the letter of a format; `none` if there is no such
letter. -/
def convert (printed : Printed) (layout : Layout) (letter : Char) : Option Printed :=
  let inBase (base : Nat) (change : Char → Char) :=
    let (value, printed) := printed.takeNumber false
    let digits := Nat.toDigits base (value.emod (twoTo 64)).toNat
    some (printed.write (layout.padNumber [] (digits.map change)))
  let asInteger :=
    let (value, printed) := printed.takeNumber true
    some (printed.write
      (layout.padNumber (layout.sign (value < 0)) (Nat.toDigits 10 value.natAbs)))
  match letter with
  | 's' =>
      let (argument, printed) := printed.take
      let bytes := bytesOf (argument.getD [])
      some (printed.write (layout.pad ((layout.precision.map bytes.take).getD bytes)))
  | 'c' =>
      let (argument, printed) := printed.take
      let bytes := bytesOf (argument.getD [])
      some (printed.write (layout.pad [bytes.headD 0]))
  | 'b' =>
      let (argument, printed) := printed.take
      let text := argument.getD []
      let (bytes, stops) := escaped (text.length + 1) text
      some { printed.write (layout.pad bytes) with isOver := stops }
  | 'd' => asInteger
  | 'i' => asInteger
  | 'u' => inBase 10 id
  | 'x' => inBase 16 id
  | 'X' => inBase 16 Char.toUpper
  | 'o' => inBase 8 id
  | _ => none

/-- Write a format once. -/
def formatOnce : Nat → List Char → Printed → Printed
  | 0, _, printed => printed
  | _, [], printed => printed
  | fuel + 1, '\\' :: rest, printed =>
      let (bytes, after) := escape false rest
      formatOnce fuel after (printed.write bytes)
  | fuel + 1, '%' :: '%' :: rest, printed => formatOnce fuel rest (printed.write [37])
  | fuel + 1, '%' :: rest, printed =>
      let (layout, after) := layoutOf rest
      match after with
      | [] => printed.refuse "missing format character"
      | letter :: after =>
          match convert printed layout letter with
          | none =>
              let directive := rest.take (rest.length - after.length)
              printed.refuse ("%" ++ String.ofList directive ++ ": invalid directive")
          | some printed => if printed.isOver then printed else formatOnce fuel after printed
  | fuel + 1, char :: rest, printed =>
      formatOnce fuel rest (printed.write (bytesOf [char]))

/-- Write a format again and again until all arguments are used up. -/
def formatAll (format : List Char) : Nat → Printed → Printed
  | 0, printed => printed
  | fuel + 1, before =>
      let printed := formatOnce (format.length + 1) format before
      if printed.isOver || printed.arguments.isEmpty ||
          printed.arguments.length = before.arguments.length then printed
      else formatAll format fuel printed

/-- What `printf` writes. -/
def printf (format : List Char) (arguments : List (List Char)) : Printed :=
  formatAll format (arguments.length + 1) { arguments }

/-- All that was written. -/
def Printed.bytes (printed : Printed) : List UInt8 :=
  printed.pieces.reverse.flatten

end BuildExplorer.Shell.Printing
