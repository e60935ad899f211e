import BuildExplorer.Text.Digit

/-!
# Signals

What a process does about a signal when it has not said otherwise.
-/

namespace BuildExplorer.Shell.Signal

/-- The first of the signals that have no names. -/
def firstUnnamed : Nat := 34

/-- The names of signals with their numbers. -/
def names : List (String × Nat) :=
  [("EXIT", 0), ("HUP", 1), ("INT", 2), ("QUIT", 3), ("ILL", 4), ("TRAP", 5), ("ABRT", 6),
    ("BUS", 7), ("FPE", 8), ("KILL", 9), ("USR1", 10), ("SEGV", 11), ("USR2", 12), ("PIPE", 13),
    ("ALRM", 14), ("TERM", 15), ("CHLD", 17), ("CONT", 18), ("STOP", 19),
    ("TSTP", 20), ("TTIN", 21), ("TTOU", 22), ("URG", 23), ("XCPU", 24), ("XFSZ", 25),
    ("VTALRM", 26), ("PROF", 27), ("WINCH", 28), ("IO", 29), ("PWR", 30), ("SYS", 31)]

/-- What is said about a process that a signal ended. -/
def obituaries : List (Nat × String) :=
  [(1, "Hangup"), (3, "Quit"), (4, "Illegal instruction"), (5, "Trace/breakpoint trap"),
    (6, "Aborted"), (7, "Bus error"), (8, "Floating point exception"), (9, "Killed"),
    (10, "User defined signal 1"), (11, "Segmentation fault"), (12, "User defined signal 2"),
    (14, "Alarm clock"), (15, "Terminated"), (16, "Stack fault"),
    (24, "CPU time limit exceeded"), (25, "File size limit exceeded"),
    (26, "Virtual timer expired"), (27, "Profiling timer expired"), (29, "I/O possible"),
    (30, "Power failure"), (31, "Bad system call")]

/-- What is said about a process that a signal ended; nothing for those that end
a process as a matter of course. -/
def obituary? (number : Nat) : Option String :=
  if firstUnnamed ≤ number then
    some ("Real-time signal " ++ String.ofList (Nat.toDigits 10 (number - firstUnnamed)))
  else obituaries.lookup number

/-- The signal of a number or a name. -/
def ofText? (text : List Char) : Option Nat :=
  match Text.readNumeral 65 text with
  | some number => some number
  | none => names.lookup (String.ofList (text.map Char.toUpper))

/-- The signal that tells a process that one of its own has ended. -/
def childEnded : Nat := 17

/-- The signal that ends a process in any case. -/
def kill : Nat := 9

/-- The signal that stops a process in any case. -/
def stop : Nat := 19

/-- The signal that lets a process go on that was stopped. -/
def goOn : Nat := 18

/-- The signal for a process that writes to a pipe which nobody reads. -/
def brokenPipe : Nat := 13

/-- Signals that nothing is done about. -/
def harmless : List Nat :=
  [0, 17, 18, 23, 28]

/-- Signals that stop a process without ending it. -/
def stopping : List Nat :=
  [19, 20, 21, 22]

/-- Signals that a process can do nothing about. -/
def inevitable : List Nat :=
  [kill, stop]

/-- What a signal does to a process that has not said otherwise. -/
inductive Effect where
  | nothing
  | stops
  | ends
  deriving DecidableEq, Repr

/-- The effect of a signal. -/
def effect (signal : Nat) : Effect :=
  if harmless.contains signal then .nothing
  else if stopping.contains signal then .stops
  else .ends

end BuildExplorer.Shell.Signal
