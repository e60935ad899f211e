import BuildExplorer.Shell.Run
import BuildExplorer.Text.Digit

/-!
# What utilities have in common

Utilities read options and operands, and complain under their own names.
-/

namespace BuildExplorer.Shell.Utility

/-! ## Complaints -/

/-- A text between quotes. -/
def quote (text : List Char) : String :=
  "'" ++ String.ofList text ++ "'"

/-- A name, between quotes if a shell would not take it for itself. -/
def quoteIfNeeded (name : List Char) : String :=
  let isHarmless (char : Char) : Bool := char.isAlphanum || "%+,-./@]_".toList.contains char
  if !name.isEmpty && name.all isHarmless then String.ofList name else quote name

/-- Complain as the program that runs, after all that it wrote has left it. -/
def complain (text : String) : Run Unit := do
  Run.flush
  Run.complain (String.ofList (← Run.process).name ++ ": " ++ text)

/-- Fail as the program that runs. -/
def fail (status : Nat) (text : String) : Run Unit := do
  complain text
  Run.setStatus status

/-- Complain about a call, and point to the help. -/
def misuse (status : Nat) (text : String) : Run Unit := do
  complain text
  Run.fail status
    ("Try '" ++ String.ofList (← Run.process).name ++ " --help' for more information.")

/-! ## Options -/

/-- The letters that a program knows as options, and those of them that take a value. -/
structure Known where
  plain : String := ""
  valued : String := ""
  /-- Do options end at the first operand? -/
  endsAtOperand : Bool := false

/-- What a program was given. -/
structure Given where
  /-- Letters of options, with their values. -/
  options : List (Char × List Char) := []
  operands : List (List Char) := []

/-- Is an option given? -/
def Given.has (given : Given) (letter : Char) : Bool :=
  given.options.any (·.1 == letter)

/-- The last value of an option. -/
def Given.value? (given : Given) (letter : Char) : Option (List Char) :=
  given.options.reverse.lookup letter

/-- The operands, or the input if there are none. -/
def Given.sources (given : Given) : List (List Char) :=
  if given.operands.isEmpty then [['-']] else given.operands

/-- Read the letters of an argument.  A letter that takes a value takes the rest
of the argument, or the next one; the answer tells whether it took that. -/
def Known.letters (known : Known) (next : Option (List Char)) :
    List Char → Except String (List (Char × List Char) × Bool)
  | [] => .ok ([], false)
  | letter :: rest =>
      if known.valued.toList.contains letter then
        match rest, next with
        | [], none => .error ("option requires an argument -- " ++ quote [letter])
        | [], some value => .ok ([(letter, value)], true)
        | rest, _ => .ok ([(letter, rest)], false)
      else if known.plain.toList.contains letter then do
        let (others, takesNext) ← letters known next rest
        return ((letter, []) :: others, takesNext)
      else .error ("invalid option -- " ++ quote [letter])

/-- Read arguments. -/
def Given.ofArguments (known : Known) : Nat → List (List Char) → Except String Given
  | 0, _ => .ok {}
  | _, [] => .ok {}
  | _, ['-', '-'] :: rest => .ok { operands := rest }
  | _, ('-' :: '-' :: name) :: _ =>
      .error ("unrecognized option " ++ quote ('-' :: '-' :: name))
  | fuel + 1, ('-' :: letter :: letters) :: rest => do
      let (options, takesNext) ← known.letters rest.head? (letter :: letters)
      let given ← Given.ofArguments known fuel (if takesNext then rest.drop 1 else rest)
      return { given with options := options ++ given.options }
  | fuel + 1, operand :: rest => do
      if known.endsAtOperand then return { operands := operand :: rest }
      else
        let given ← Given.ofArguments known fuel rest
        return { given with operands := operand :: given.operands }

/-- Run with the options of a program, or complain about them. -/
def withOptions (known : Known) (arguments : List (List Char)) (status : Nat)
    (run : Given → Run Unit) : Run Unit := do
  match Given.ofArguments known (arguments.length + 1) arguments with
  | .ok given => run given
  | .error text => misuse status text

end BuildExplorer.Shell.Utility
