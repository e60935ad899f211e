import BuildExplorer.Shell.Arithmetic
import BuildExplorer.Shell.Run

/-!
# Tests

The conditions of `test` and `[`: texts, numbers and files are compared, and a
condition can be negated.  How many words there are tells which of them is the
operator.
-/

namespace BuildExplorer.Shell.Test

open Host (FileTree Entry)

/-- Why words are no condition. -/
inductive Mistake where
  | unexpectedOperator (word : List Char)
  | missingArgument (operator : List Char)
  | notNumber (text : List Char)
  deriving DecidableEq, Repr

/-- The wording of a mistake. -/
def Mistake.message : Mistake → String
  | .unexpectedOperator word => String.ofList word ++ ": unexpected operator"
  | .missingArgument operator => String.ofList operator ++ ": argument expected"
  | .notNumber text => "Illegal number: " ++ String.ofList text

/-- The number that a word stands for. -/
def numberOf (word : List Char) : Except Mistake Int :=
  match Arithmetic.decimal? word with
  | some value => .ok value
  | none => .error (.notNumber word)

/-- Does a condition hold for a text or a file?  Nothing, if there is no such
operator. -/
def holdsForOne? (state : View) (operator operand : List Char) : Option Bool :=
  let found := FileTree.find state.tree state.process.directory (pathOf operand)
  let entry : Option Entry := found.toOption.map (·.2)
  let isPlain : Bool :=
    match entry with
    | some (.file _ _) => true
    | some (.utility _) => true
    | _ => false
  match String.ofList operator with
  | "-n" => some !operand.isEmpty
  | "-z" => some operand.isEmpty
  | "-e" => some entry.isSome
  | "-r" => some entry.isSome
  | "-w" => some entry.isSome
  | "-d" => some (entry == some .directory)
  | "-p" => some (entry == some .pipe)
  | "-f" => some isPlain
  | "-x" =>
      match entry with
      | some (.file _ isExecutable) => some isExecutable
      | other => some (isPlain || other == some .directory)
  | "-s" =>
      match entry with
      | some (.file contents _) => some !contents.isEmpty
      | other => some (isPlain || other == some .directory)
  | _ => none

/-- Does a condition hold for two texts or numbers?  Nothing, if there is no such
operator. -/
def holdsForTwo? (left operator right : List Char) : Option (Except Mistake Bool) :=
  let compare (holds : Int → Int → Bool) : Option (Except Mistake Bool) :=
    some do return holds (← numberOf left) (← numberOf right)
  match String.ofList operator with
  | "=" => some (.ok (left == right))
  | "!=" => some (.ok (left != right))
  | "-eq" => compare fun left right => left == right
  | "-ne" => compare fun left right => left != right
  | "-ge" => compare fun left right => right ≤ left
  | "-gt" => compare fun left right => right < left
  | "-le" => compare fun left right => left ≤ right
  | "-lt" => compare fun left right => left < right
  | _ => none

/-- Does the condition that words stand for hold? -/
def holds (state : View) : List (List Char) → Except Mistake Bool
  | [] => .ok false
  | [word] => .ok !word.isEmpty
  | first :: second :: rest =>
      match rest with
      | [] =>
          if first = ['!'] then .ok second.isEmpty
          else
            match holdsForOne? state first second with
            | some value => .ok value
            | none =>
                .error <|
                  if (holdsForTwo? [] second []).isSome then .missingArgument second
                  else .unexpectedOperator first
      | third :: others =>
          match others, holdsForTwo? first second third with
          | [], some outcome => outcome
          | _, _ =>
              if first = ['!'] then (holds state (second :: rest)).map fun value => !value
              else .error (.unexpectedOperator second)

end BuildExplorer.Shell.Test
