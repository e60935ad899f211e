/-!
# Patterns

Patterns for names and words, in which `*` stands for any text, `?` for any
character, and brackets for one of several characters.
-/

namespace BuildExplorer.Shell

/-! ## Single characters -/

/-- What stands for one character. -/
inductive OneOf where
  | exactly (char : Char)
  | anything
  /-- A character between two others, or none such. -/
  | between (negated : Bool) (ranges : List (Char × Char))
  deriving DecidableEq, Repr, Inhabited

/-- Is a character in one of several ranges? -/
def isInRanges (ranges : List (Char × Char)) (char : Char) : Bool :=
  ranges.any fun (low, high) => low ≤ char && char ≤ high

/-- Does a character match? -/
def OneOf.accepts (pattern : OneOf) (char : Char) : Bool :=
  match pattern with
  | .exactly expected => char = expected
  | .anything => true
  | .between negated ranges => isInRanges ranges char != negated

@[simp]
theorem OneOf.accepts_exactly (expected char : Char) :
    (OneOf.exactly expected).accepts char = decide (char = expected) :=
  rfl

@[simp]
theorem OneOf.accepts_anything (char : Char) : OneOf.anything.accepts char = true :=
  rfl

/-- The characters of a class that has a name. -/
def rangesOfClass? (name : String) : Option (List (Char × Char)) :=
  match name with
  | "lower" => some [('a', 'z')]
  | "upper" => some [('A', 'Z')]
  | "alpha" => some [('A', 'Z'), ('a', 'z')]
  | "digit" => some [('0', '9')]
  | "alnum" => some [('0', '9'), ('A', 'Z'), ('a', 'z')]
  | "space" => some [('\t', '\r'), (' ', ' ')]
  | "blank" => some [('\t', '\t'), (' ', ' ')]
  | "cntrl" => some [('\x00', '\x1f'), ('\x7f', '\x7f')]
  | "punct" => some [('!', '/'), (':', '@'), ('[', '\x60'), ('\x7b', '~')]
  | "print" => some [(' ', '~')]
  | "graph" => some [('!', '~')]
  | "xdigit" => some [('0', '9'), ('A', 'F'), ('a', 'f')]
  | _ => none

/-- Read the name of a class such as `[:digit:]` behind its bracket, and give what
follows it. -/
def classAt? (text : List Char) : Option (List (Char × Char) × List Char) :=
  match text with
  | ':' :: rest =>
      let name := rest.takeWhile (· != ':')
      match rest.drop name.length with
      | ':' :: ']' :: after =>
          (rangesOfClass? (String.ofList name)).map fun ranges => (ranges, after)
      | _ => none
  | _ => none

/-- A character that a backslash may protect, and what follows it. -/
def unprotected (char : Char) (rest : List Char) : Char × List Char :=
  match char, rest with
  | '\\', protectedChar :: rest => (protectedChar, rest)
  | char, rest => (char, rest)

/-- Read the ranges of a bracket expression up to the bracket that closes it; a
bracket at the very start stands for itself, and a backslash protects the character
behind it. -/
def bracketRanges (isFirst : Bool) :
    Nat → List Char → Option (List (Char × Char) × List Char)
  | 0, _ => none
  | _, [] => none
  | fuel + 1, char :: rest =>
      let further (found : List (Char × Char)) (rest : List Char) :
          Option (List (Char × Char) × List Char) :=
        (bracketRanges false fuel rest).map fun (ranges, after) => (found ++ ranges, after)
      if char = ']' ∧ !isFirst then some ([], rest)
      else
        match if char = '[' then classAt? rest else none with
        | some (ranges, after) => further ranges after
        | none =>
            let (low, rest) := unprotected char rest
            match rest with
            | '-' :: high :: after =>
                if high = ']' then further [(low, low)] rest
                else
                  let (high, after) := unprotected high after
                  further [(low, high)] after
            | rest => further [(low, low)] rest

/-- Read a bracket expression behind its bracket, and give what follows it; some marks
at its start turn it round. -/
def bracket? (marks : List Char) (text : List Char) : Option (OneOf × List Char) :=
  let negated := text.head?.any marks.contains
  let inner := if negated then text.drop 1 else text
  (bracketRanges true (inner.length + 1) inner).map fun (ranges, after) =>
    (.between negated ranges, after)

/-! ## Globs -/

/-- A part of a pattern for names. -/
inductive GlobPart where
  | one (pattern : OneOf)
  | any
  deriving DecidableEq, Repr, Inhabited

/-- Does a pattern match a text as a whole? -/
def globMatches : List GlobPart → List Char → Bool
  | [], text => text.isEmpty
  | .one pattern :: rest, char :: text => pattern.accepts char && globMatches rest text
  | .one _ :: _, [] => false
  | .any :: rest, text =>
      (List.range (text.length + 1)).any fun count => globMatches rest (text.drop count)

@[simp]
theorem globMatches_nil (text : List Char) : globMatches [] text = text.isEmpty :=
  rfl

/-- Read the parts of a pattern, in which a backslash protects the character behind
it. -/
def globParts (marks : List Char) : Nat → List Char → List GlobPart
  | 0, _ => []
  | _, [] => []
  | fuel + 1, '*' :: rest => .any :: globParts marks fuel rest
  | fuel + 1, '?' :: rest => .one .anything :: globParts marks fuel rest
  | fuel + 1, '\\' :: char :: rest => .one (.exactly char) :: globParts marks fuel rest
  | fuel + 1, '[' :: rest =>
      match bracket? marks rest with
      | some (pattern, after) => .one pattern :: globParts marks fuel after
      | none => .one (.exactly '[') :: globParts marks fuel rest
  | fuel + 1, char :: rest => .one (.exactly char) :: globParts marks fuel rest

/-- Read a pattern of the shell. -/
def globOfText (text : List Char) : List GlobPart :=
  globParts ['!'] (text.length + 1) text

end BuildExplorer.Shell
