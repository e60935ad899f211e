import BuildExplorer.Shell.Pattern
import BuildExplorer.Shell.Utility.Input

/-!
# Searching and editing lines

Lines are searched and edited by regular expressions, as far as these consist of single
characters, sets of them and stars.  A match starts as far to the left as possible and
repeats as often as possible.
-/

namespace BuildExplorer.Shell.Utility

/-! ## Regular expressions -/

/-- A part of a regular expression: what a character has to be, and whether there may be
any number of such characters. -/
structure RegularPart where
  pattern : OneOf
  isRepeated : Bool := false
  deriving DecidableEq, Repr

/-- A regular expression: its parts, and whether it only matches at the start of a line,
or up to its end. -/
structure Regular where
  parts : List RegularPart
  isAtStart : Bool := false
  isAtEnd : Bool := false
  deriving DecidableEq, Repr

namespace Regular

/-- Read the parts of an expression up to its end; the answer also tells whether a sign
for the end of the line closes it. -/
def partsOf : Nat → List Char → Option (List RegularPart × Bool)
  | 0, _ => none
  | _, [] => some ([], false)
  | _, ['$'] => some ([], true)
  | fuel + 1, text =>
      let behind (pattern : OneOf) (rest : List Char) : Option (List RegularPart × Bool) :=
        let isRepeated := rest.head? = some '*'
        (partsOf fuel (if isRepeated then rest.drop 1 else rest)).map fun (parts, isAtEnd) =>
          (⟨pattern, isRepeated⟩ :: parts, isAtEnd)
      match text with
      | '.' :: rest => behind .anything rest
      | '[' :: rest => (bracket? ['^'] rest).bind fun (pattern, rest) => behind pattern rest
      | '\\' :: char :: rest => if char.isAlphanum then none else behind (.exactly char) rest
      | char :: rest => behind (.exactly char) rest
      | [] => none

/-- Read an expression. -/
def ofText? (text : List Char) : Option Regular :=
  let isAtStart := text.head? = some '^'
  let inner := if isAtStart then text.drop 1 else text
  (partsOf (inner.length + 1) inner).map fun (parts, isAtEnd) => ⟨parts, isAtStart, isAtEnd⟩

/-- What is left of a text behind parts that match at its front. -/
def restBehind? (isAtEnd : Bool) : List RegularPart → List Char → Option (List Char)
  | [], text => if isAtEnd && !text.isEmpty then none else some text
  | ⟨pattern, isRepeated⟩ :: parts, char :: text =>
      let without := if isRepeated then restBehind? isAtEnd parts (char :: text) else none
      if !pattern.accepts char then without
      else if isRepeated then restBehind? isAtEnd (⟨pattern, true⟩ :: parts) text <|> without
      else restBehind? isAtEnd parts text
  | ⟨_, isRepeated⟩ :: parts, [] => if isRepeated then restBehind? isAtEnd parts [] else none
  termination_by parts text => parts.length + text.length

/-- The first match in a text: what stands in front of it, the match itself, and what
stands behind it. -/
def firstMatch? (regular : Regular) (text : List Char) :
    Option (List Char × List Char × List Char) :=
  let places := List.range (if regular.isAtStart then 1 else text.length + 1)
  places.findSome? fun place =>
    let here := text.drop place
    (restBehind? regular.isAtEnd regular.parts here).map fun rest =>
      (text.take place, here.take (here.length - rest.length), rest)

end Regular

/-! ## Searching -/

/-- Show the lines that match, or do not match. -/
def grep (arguments : List (List Char)) : Run Unit :=
  withOptions { plain := "vcq" } arguments 2 fun given => do
    match given.operands with
    | [] => misuse 2 "missing pattern"
    | pattern :: names =>
        match Regular.ofText? pattern with
        | none => fail 2 ("unsupported pattern " ++ quote pattern)
        | some regular =>
            withContents (if names.isEmpty then [['-']] else names) fun bytes => do
              let found := (lineTexts bytes).filter fun line =>
                (regular.firstMatch? line).isSome != given.has 'v'
              if given.has 'c' then Run.say (Nat.toDigits 10 found.length ++ ['\n'])
              else if !given.has 'q' then Run.say (Text.unlines found)
              Run.setStatus (if found.isEmpty then 1 else 0)

/-! ## Editing -/

/-- The replacement of what an expression matches, in which an ampersand stands for the
match itself. -/
structure Substitution where
  regular : Regular
  replacement : List Char
  everywhere : Bool

/-- Read a text up to a sign that no backslash protects, and give what follows it. -/
def upTo (sign : Char) : List Char → Option (List Char × List Char)
  | [] => none
  | '\\' :: char :: rest =>
      (upTo sign rest).map fun (front, after) =>
        (if char = sign then char :: front else '\\' :: char :: front, after)
  | char :: rest =>
      if char = sign then some ([], rest)
      else (upTo sign rest).map fun (front, after) => (char :: front, after)

/-- Read a substitution such as `s/a*/b/g`. -/
def Substitution.ofText? : List Char → Option Substitution
  | 's' :: sign :: rest => do
      let (expression, rest) ← upTo sign rest
      let (replacement, flags) ← upTo sign rest
      let regular ← Regular.ofText? expression
      if flags = [] ∨ flags = ['g'] then return ⟨regular, replacement, flags = ['g']⟩ else none
  | _ => none

/-- What a replacement stands for, where a match is known. -/
def filledIn (found : List Char) : List Char → List Char
  | [] => []
  | '\\' :: 'n' :: rest => '\n' :: filledIn found rest
  | '\\' :: char :: rest => char :: filledIn found rest
  | '&' :: rest => found ++ filledIn found rest
  | char :: rest => char :: filledIn found rest

/-- Replace the first match in a line, or all of them; right behind a match, nothing at
all does not match. -/
def Substitution.apply (substitution : Substitution) : Nat → Bool → List Char → List Char
  | 0, _, line => line
  | fuel + 1, isBehind, line =>
      match substitution.regular.firstMatch? line with
      | none => line
      | some (front, found, rest) =>
          let changed := front ++ filledIn found substitution.replacement
          if !substitution.everywhere || substitution.regular.isAtStart then changed ++ rest
          else if !found.isEmpty then changed ++ substitution.apply fuel true rest
          else
            let changed := if isBehind && front.isEmpty then [] else changed
            match rest with
            | [] => changed
            | char :: rest => changed ++ char :: substitution.apply fuel false rest

/-- Edit the lines of inputs by a substitution.  A last line without an end gets none. -/
def sed (arguments : List (List Char)) : Run Unit :=
  withOptions {} arguments 1 fun given => do
    match given.operands with
    | [] => misuse 1 "missing script"
    | script :: names =>
        match Substitution.ofText? script with
        | none => fail 1 ("-e expression #1: unsupported script " ++ quote script)
        | some substitution =>
            withContents (if names.isEmpty then [['-']] else names) fun bytes => do
              let lines := (lineTexts bytes).map fun line =>
                substitution.apply (line.length + 1) false line
              let text := Text.unlines lines
              let isOpen : Bool := !bytes.isEmpty && bytes.getLast? != some 10
              put (bytesOf (if isOpen then text.dropLast else text))

end BuildExplorer.Shell.Utility
