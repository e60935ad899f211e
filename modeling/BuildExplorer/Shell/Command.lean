/-!
# Shell commands

What a script of a POSIX shell consists of, once its text has been read.  Words
hold the commands whose output they stand for, and commands hold words.
-/

namespace BuildExplorer.Shell

mutual

/-- What to do with the value of a parameter, or without one. -/
inductive Fallback where
  | none
  /-- Take a word instead; with `orEmpty`, also for an empty value. -/
  | useWord (word : List Piece) (orEmpty : Bool)
  /-- Take a word instead, and make it the value. -/
  | assign (word : List Piece) (orEmpty : Bool)
  /-- Stop with a word as the complaint. -/
  | demand (word : List Piece) (orEmpty : Bool)
  /-- Take a word if there is a value. -/
  | replaceBy (word : List Piece) (orEmpty : Bool)
  /-- The number of characters. -/
  | length
  /-- Remove what a pattern matches, from the start or from the end. -/
  | trim (pattern : List Piece) (fromEnd longest : Bool)
  /-- Nothing that makes sense. -/
  | unknown

/-- A part of a word. -/
inductive Piece where
  | plain (char : Char)
  | quoted (text : List Char)
  | parameter (name : List Char) (fallback : Fallback) (isQuoted : Bool)
  | command (body : Command) (isQuoted : Bool)
  | arithmetic (expression : List Piece) (isQuoted : Bool)

/-- Where a descriptor is led to. -/
inductive Target where
  /-- A file that is written anew. -/
  | write (word : List Piece)
  | append (word : List Piece)
  | read (word : List Piece)
  /-- A file that is read and written. -/
  | update (word : List Piece)
  /-- The text that is given in place. -/
  | text (word : List Piece)
  /-- Another descriptor, or nothing for `-`. -/
  | same (word : List Piece)

/-- A redirection of a descriptor. -/
inductive Redirection where
  | mk (descriptor : Nat) (target : Target)

/-- A command. -/
inductive Command where
  | simple (line : Nat) (assignments : List (List Char × List Piece)) (words : List (List Piece))
      (redirections : List Redirection)
  | pipeline (negated : Bool) (parts : List Command)
  /-- The second one runs if the first one succeeds. -/
  | both (first second : Command)
  /-- The second one runs if the first one fails. -/
  | either (first second : Command)
  | sequence (commands : List Command)
  | background (command : Command)
  /-- Runs in a process of its own. -/
  | subshell (body : Command)
  | branch (condition thenPart elsePart : Command)
  /-- Runs its body while, or until, a condition holds. -/
  | loop (expected : Bool) (condition body : Command)
  /-- Runs its body for each word; without words, for each argument. -/
  | each (name : List Char) (words : Option (List (List Piece))) (body : Command)
  | choose (word : List Piece) (arms : List (List (List Piece) × Command))
  | define (name : List Char) (body : Command)
  | redirected (command : Command) (redirections : List Redirection)

end

/-- A word. -/
abbrev Word := List Piece

/-- The command that does nothing. -/
def Command.nothing : Command :=
  .sequence []

end BuildExplorer.Shell
