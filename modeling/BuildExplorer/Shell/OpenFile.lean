import BuildExplorer.Shell.Task

/-!
# Open files and pipes

An open file is shared by all descriptors that lead to it, and with it the place
up to which it was read or written.  A pipe holds what was written to one of its
ends until it is read at the other one.
-/

namespace BuildExplorer.Shell

open Host (Location)

/-! ## Pipes -/

/-- What waits in a pipe: chunks in order, and behind them others of which the
latest comes first. -/
structure Pipe where
  front : List (List UInt8) := []
  back : List (List UInt8) := []
  /-- How many bytes there are. -/
  size : Nat := 0
  deriving Inhabited

namespace Pipe

/-- How many bytes a pipe can hold. -/
def capacity : Nat := 65536

/-- How many bytes are written to a pipe without a part of others between them. -/
def wholePiece : Nat := 4096

/-- Put bytes behind the others. -/
def push (pipe : Pipe) (bytes : List UInt8) : Pipe :=
  { pipe with back := bytes :: pipe.back, size := pipe.size + bytes.length }

/-- Part chunks behind a number of bytes. -/
def takeChunks : Nat → List (List UInt8) → List UInt8 × List (List UInt8)
  | 0, chunks => ([], chunks)
  | _, [] => ([], [])
  | count, chunk :: rest =>
      let (front, left) := chunk.splitAt count
      if left.isEmpty then
        let (bytes, others) := takeChunks (count - front.length) rest
        (front ++ bytes, others)
      else (front, left :: rest)

/-- How long the first line of chunks is, with its end if that is there. -/
def lineLength : List (List UInt8) → Nat
  | [] => 0
  | chunk :: rest =>
      match chunk.findIdx? (· == 10) with
      | some place => place + 1
      | none => chunk.length + lineLength rest

/-- Take bytes from the front, no more than there are. -/
def take (pipe : Pipe) (count : Nat) : List UInt8 × Pipe :=
  let (bytes, front) := takeChunks count (pipe.front ++ pipe.back.reverse)
  (bytes, { front, size := pipe.size - bytes.length })

/-- Take the first line. -/
def takeLine (pipe : Pipe) : List UInt8 × Pipe :=
  pipe.take (lineLength (pipe.front ++ pipe.back.reverse))

/-- Parting chunks loses nothing. -/
theorem takeChunks_append (count : Nat) (chunks : List (List UInt8)) :
    (takeChunks count chunks).1 ++ (takeChunks count chunks).2.flatten = chunks.flatten := by
  fun_induction takeChunks count chunks with
  | case1 => rfl
  | case2 => rfl
  | case3 count chunk rest _ front left parted isWhole bytes others taken inductionHypothesis =>
      obtain ⟨rfl, rfl⟩ := Prod.mk.inj (List.splitAt_eq ▸ parted)
      simp_all [List.take_of_length_le]
  | case4 count chunk rest _ front left parted isParted =>
      obtain ⟨rfl, rfl⟩ := Prod.mk.inj (List.splitAt_eq ▸ parted)
      simp [← List.append_assoc]

end Pipe

/-! ## Open files -/

/-- What can be read or written. -/
inductive Resource where
  /-- A file by its number. -/
  | file (node : Nat)
  | directory
  | device (device : Host.Device)
  | pipe (number : Nat)
  /-- A stream that is captured outside. -/
  | captured (stream : Tool.Stream)
  deriving DecidableEq, Repr

/-- Something that is open. -/
structure OpenFile where
  resource : Resource
  /-- How far a file was read or written. -/
  offset : Nat := 0
  reads : Bool := false
  writes : Bool := false
  /-- Does all that is written go behind the end? -/
  appends : Bool := false
  deriving DecidableEq, Repr

/-- Where a file is that is or was open: at a location, or at none any more. -/
inductive Node where
  | named (location : Location)
  | nameless (contents : List UInt8)
  deriving DecidableEq, Repr

/-- A descriptor of a process: the number of the open file that it leads to. -/
structure Descriptor where
  number : Nat
  file : Nat
  /-- Is it closed when the process becomes another program? -/
  isPrivate : Bool := false
  deriving DecidableEq, Repr

/-- The lowest number from one on that is no descriptor yet. -/
def freeNumber (descriptors : List Descriptor) (first : Nat) : Nat :=
  let isFree (offset : Nat) : Bool := descriptors.all (·.number != first + offset)
  first + ((List.range (descriptors.length + 1)).find? isFree).getD 0

/-- Bytes at a place of a file; a gap in front of it is filled with zeros. -/
def overwrite (contents : List UInt8) (offset : Nat) (bytes : List UInt8) : List UInt8 :=
  let length := contents.length
  if offset = length then contents ++ bytes
  else
    contents.take offset ++ List.replicate (offset - length) 0 ++ bytes ++
      contents.drop (offset + bytes.length)

@[simp]
theorem overwrite_at_end (contents bytes : List UInt8) :
    overwrite contents contents.length bytes = contents ++ bytes := by
  simp [overwrite]

/-- The front of bytes up to the first end of a line. -/
def lineFront (bytes : List UInt8) : List UInt8 :=
  let front := bytes.takeWhile (· != 10)
  bytes.take (front.length + 1)

end BuildExplorer.Shell
