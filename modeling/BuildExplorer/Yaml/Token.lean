import BuildExplorer.Text.Utf8

/-!
# Tokens of a YAML stream

Tags are addresses in which any bytes can be spelled, so a tag is a sequence of
bytes and need not be text.
-/

namespace BuildExplorer.Yaml

/-- A tag, or a part of one. -/
structure Tag where
  bytes : List UInt8
  deriving DecidableEq, Repr, Inhabited

namespace Tag

/-- The tag of bytes, of which those behind a zero do not count. -/
def ofBytes (bytes : List UInt8) : Tag :=
  ⟨bytes.takeWhile (· != 0)⟩

def ofText (text : String) : Tag :=
  ofBytes (Text.Utf8.encode text.toList)

def append (front back : Tag) : Tag :=
  ⟨front.bytes ++ back.bytes⟩

/-- Does the tag start with an exclamation mark, as the tags of an application
do? -/
def isLocal (tag : Tag) : Bool :=
  tag.bytes.head? == some 33

/-- The name in a tag of the application: what follows the exclamation mark, if
that is text.  A second mark does not belong to the name unless it is all of
it. -/
def name? (tag : Tag) : Option String :=
  match Text.Utf8.decode? tag.bytes with
  | some ['!'] => some "!"
  | some ['!', '!'] => some "!"
  | some ('!' :: '!' :: name) => some (String.ofList name)
  | some ('!' :: name) => some (String.ofList name)
  | _ => none

end Tag

/-- How a scalar is written. -/
inductive ScalarStyle where
  | plain
  | quoted
  | literal
  | folded
  deriving DecidableEq, Repr

/-- A token.  Block collections have no brackets in the stream; the scanner
writes their starts and ends where the indentation changes. -/
inductive Token where
  | versionDirective (major minor : Nat)
  | tagDirective (handle : String) (scope : Tag)
  | documentStart
  | documentEnd
  | blockSequenceStart
  | blockMappingStart
  | blockEnd
  | flowSequenceStart
  | flowSequenceEnd
  | flowMappingStart
  | flowMappingEnd
  | blockEntry
  | flowEntry
  | key
  | value
  | alias (name : String)
  | anchor (name : String)
  | tag (handle : String) (suffix : Tag)
  | scalar (text : String) (style : ScalarStyle)
  deriving DecidableEq, Repr

end BuildExplorer.Yaml
