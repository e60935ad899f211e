import BuildExplorer.Shell.Utility.Extract

/-!
# Counting and putting in order
-/

namespace BuildExplorer.Shell.Utility

open Host (FileTree)

/-! ## Counting -/

/-- The counts of bytes for the options of `wc`. -/
def counts (given : Given) (bytes : List UInt8) : List Nat :=
  let isBlank (byte : UInt8) : Bool := byte = 32 || (9 ≤ byte && byte ≤ 13)
  let words := (bytes.splitOnP isBlank).filter (!·.isEmpty)
  let all := [('l', bytes.count 10), ('w', words.length), ('c', bytes.length)]
  (all.filter fun (letter, _) => given.options.isEmpty || given.has letter).map (·.2)

/-- Numbers in columns of a width. -/
def columns (width : Nat) (numbers : List Nat) : List Char :=
  [' '].intercalate (numbers.map fun number =>
    let digits := Nat.toDigits 10 number
    List.replicate (width - digits.length) ' ' ++ digits)

/-- Count lines, words and bytes.  Several counts stand in columns, as wide as the number
of all bytes, and seven at least if that is not known in advance. -/
def wc (arguments : List (List Char)) : Run Unit :=
  withOptions { plain := "clw" } arguments 1 fun given => do
    let isAlone := (counts given []).length = 1 && given.operands.length ≤ 1
    let mut found := []
    let mut status := 0
    for name in given.sources do
      match ← withInput name readAll with
      | .ok bytes => found := (counts given bytes, bytes.length, ' ' :: name) :: found
      | .error fault =>
          complainOfFile name fault
          status := 1
    let total := found.foldl (fun total (_, length, _) => total + length) 0
    let width :=
      if isAlone then 1
      else max (if given.operands.isEmpty then 7 else 1) (Nat.toDigits 10 total).length
    for (numbers, _, name) in found.reverse do
      Run.say (columns width numbers ++ (if given.operands.isEmpty then [] else name) ++ ['\n'])
    if given.operands.length > 1 then
      let sums := found.foldl (fun sums item => List.zipWith (· + ·) sums item.1)
        ((counts given []).map fun _ => 0)
      Run.say (columns width sums ++ " total\n".toList)
    Run.setStatus status

/-! ## Order -/

/-- The part of lines by which they are put in order: from a field on, perhaps up to
another one, and whether it is a number. -/
structure Key where
  first : Nat := 1
  last : Option Nat := none
  isNumber : Bool := false

/-- Read a key such as `2`, `2n` or `2,3`. -/
def Key.ofText? (text : List Char) : Option Key := do
  let letters := text.filter Char.isAlpha
  let fields := (text.filter (!·.isAlpha)).splitOn ','
  let numbers ← fields.mapM (Text.readNumeral (twoTo 31))
  if letters.any (· != 'n') then none
  else
    match numbers with
    | [first] => some { first, isNumber := letters.contains 'n' }
    | [first, last] => some { first, last := some last, isNumber := letters.contains 'n' }
    | _ => none

/-- The fields of a line: the blanks in front of a field belong to it. -/
def fieldsOf (line : List Char) : List (List Char) :=
  (line.splitBy fun left right => !(left != ' ' && right = ' '))

/-- The text of a key in a line. -/
def Key.textIn (key : Key) (line : List Char) : List Char :=
  let fields := fieldsOf line
  ((fields.take (key.last.getD fields.length)).drop (key.first - 1)).flatten

/-- The number at the front of a text. -/
def numberAt (text : List Char) : Int :=
  match text.dropWhile (· = ' ') with
  | '-' :: rest => -Text.numeralValue (rest.takeWhile Char.isDigit)
  | rest => Text.numeralValue (rest.takeWhile Char.isDigit)

/-- Compare texts by the order of their bytes. -/
def compareTexts (first second : List Char) : Ordering :=
  if first = second then .eq else if FileTree.inOrder first second then .lt else .gt

/-- Compare lines by a key. -/
def Key.compare (key : Key) (first second : List Char) : Ordering :=
  let first := key.textIn first
  let second := key.textIn second
  if key.isNumber then Ord.compare (numberAt first) (numberAt second)
  else compareTexts first second

/-- Put lines in order: by the keys, and at last as a whole. -/
def sort (arguments : List (List Char)) : Run Unit :=
  withOptions { plain := "nru", valued := "k" } arguments 2 fun given => do
    let texts := (given.options.filter (·.1 = 'k')).map (·.2)
    match texts.mapM Key.ofText? with
    | none => fail 2 "invalid field specification"
    | some keys =>
        let usual : Key := { isNumber := given.has 'n' }
        let keys := if keys.isEmpty then [usual] else keys.map fun key =>
          { key with isNumber := key.isNumber || given.has 'n' }
        let compareKeys (first second : List Char) : Ordering :=
          keys.foldl (fun found key => found.then (key.compare first second)) .eq
        let isInOrder (first second : List Char) : Bool :=
          let found := compareKeys first second
          let found := if given.has 'u' then found else found.then (compareTexts first second)
          (if given.has 'r' then found.swap else found) != .gt
        withContents given.sources fun bytes => do
          let lines := (lineTexts bytes).mergeSort isInOrder
          let groups := lines.splitBy fun first second => compareKeys first second = .eq
          let shown := if given.has 'u' then groups.filterMap List.head? else lines
          put (bytesOf (Text.unlines shown))

end BuildExplorer.Shell.Utility
