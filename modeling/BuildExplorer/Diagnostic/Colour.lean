/-!
# Colour sequences

Terminals are told to change colour by an escape character, a bracket, numbers
parted by semicolons, and a letter.  Such sequences say nothing about a
diagnostic.
-/

namespace BuildExplorer.Diagnostic

/-- The escape character. -/
def escapeChar : Char := '\x1b'

/-- A character of the numbers in a colour sequence. -/
def isParameter (char : Char) : Bool :=
  char.isDigit || char == ';'

/-- The scan behind `withoutColour`: `held` is what may be the start of a colour
sequence and `done` what is known to be text, both last character first. -/
def uncolourFrom (held done : List Char) : List Char → List Char
  | [] => (held ++ done).reverse
  | char :: rest =>
      let continues :=
        match held with
        | [] => false
        | [_] => char == '['
        | _ => isParameter char
      if continues then uncolourFrom (char :: held) done rest
      else if 2 ≤ held.length && char.isAlpha then uncolourFrom [] done rest
      else if char == escapeChar then uncolourFrom [char] (held ++ done) rest
      else uncolourFrom [] (char :: held ++ done) rest

/-- The text without its colour sequences. -/
def withoutColour (text : List Char) : List Char :=
  uncolourFrom [] [] text

@[simp]
theorem withoutColour_nil : withoutColour [] = [] :=
  rfl

end BuildExplorer.Diagnostic
