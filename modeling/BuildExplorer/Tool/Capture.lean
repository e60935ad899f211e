import BuildExplorer.Host.Fault
import BuildExplorer.Text.Lines
import BuildExplorer.Text.Utf8
import BuildExplorer.Tool.Basic

/-!
# Captured output

An output stream is read chunk by chunk.  Only its first bytes are kept, but it
is read to its end, so that the tool never waits for its reader.
-/

namespace BuildExplorer.Tool

/-- What a read of a stream comes to: a chunk, which is empty if the stream is over, or a
fault. -/
abbrev Read := Except Host.Fault (List UInt8)

/-- What is kept of a stream. -/
structure Capture where
  kept : List UInt8 := []
  /-- Was there more than what is kept? -/
  truncated : Bool := false
  deriving DecidableEq, Repr, Inhabited

namespace Capture

/-- Read a chunk, when at most `limit` bytes are kept. -/
def add (limit : Nat) (capture : Capture) (chunk : List UInt8) : Capture :=
  if capture.truncated then capture
  else
    let room := limit - capture.kept.length
    if chunk.length ≤ room then { capture with kept := capture.kept ++ chunk }
    else ⟨capture.kept ++ chunk.take room, true⟩

@[simp]
theorem add_truncated (limit : Nat) (kept chunk : List UInt8) :
    add limit ⟨kept, true⟩ chunk = ⟨kept, true⟩ :=
  rfl

/-- Read a stream that comes in chunks. -/
def ofChunks (limit : Nat) (chunks : List (List UInt8)) : Capture :=
  chunks.foldl (add limit) {}

@[simp]
theorem ofChunks_nil (limit : Nat) : ofChunks limit [] = {} :=
  rfl

/-- Read a stream until it is over or fails, given what the reads to come will come to.
Reading goes on when nothing more is kept.  The reads that are not made are left; where
none of them is the last one, the reader still waits for another. -/
def readAll (limit : Nat) (capture : Capture) : List Read → Capture × Option (List Read)
  | [] => (capture, none)
  | .ok [] :: unread => (capture, some unread)
  | .error _ :: unread => (capture, some unread)
  | .ok (byte :: bytes) :: reads => readAll limit (capture.add limit (byte :: bytes)) reads

end Capture

/-- The lines of a stream. -/
def linesOfBytes (bytes : List UInt8) : List String :=
  (Text.lines (Text.Utf8.decodeLossy bytes)).map String.ofList

/-- The lines of a captured stream, with a last one that tells of what is
missing. -/
def Capture.lines (capture : Capture) : List String :=
  linesOfBytes capture.kept ++ if capture.truncated then [truncatedLine] else []

end BuildExplorer.Tool
