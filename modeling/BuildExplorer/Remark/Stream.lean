import BuildExplorer.Remark.Basic
import BuildExplorer.Text.Blank
import BuildExplorer.Text.Lines

/-!
# Streams of remarks

A stream holds documents: each starts at a line `--- !Kind` and ends at a line
`...`.  What stands outside of documents is chatter.  A document that is not
ended before the next one starts is given up, and so is one whose body cannot
be read.
-/

namespace BuildExplorer.Remark

open Text

/-- What the first line of a document begins with. -/
def documentStart : List Char :=
  ['-', '-', '-', ' ', '!']

/-- The last line of a document. -/
def documentEnd : List Char :=
  ['.', '.', '.']

/-- A document on its way: its kind and its lines, the latest first. -/
abbrev OpenDocument := List Char × List (List Char)

/-- The documents read so far, the latest first, and the open one. -/
structure Splitter where
  done : List (String × String)
  pending : Option OpenDocument

/-- Read a line. -/
def Splitter.next (splitter : Splitter) (line : List Char) : Splitter :=
  match documentStart.isPrefixOf? line with
  | some kind => { splitter with pending := some (trim kind, []) }
  | none =>
      if trimEnd line = documentEnd then
        match splitter.pending with
        | some (kind, body) =>
            ⟨(String.ofList kind, String.ofList (unlines body.reverse)) :: splitter.done, none⟩
        | none => splitter
      else
        match splitter.pending with
        | some (kind, body) => { splitter with pending := some (kind, line :: body) }
        | none => splitter

/-- The documents of a stream as pairs of kind and body. -/
def documents (text : String) : List (String × String) :=
  ((lines text.toList).foldl Splitter.next ⟨[], none⟩).done.reverse

/-- The remarks of a stream, whose document bodies are read by `read`. -/
def ofStream (read : String → Option Body) (text : String) : List Remark :=
  (documents text).filterMap fun (kind, body) => (read body).map (Remark.ofBody kind)

end BuildExplorer.Remark
