import BuildExplorer.Text.Blank

/-!
# Bundles of device code

A compiler that makes code for several devices writes one text with a section
for each target, between a start line and an end line that name the target.
-/

namespace BuildExplorer.DeviceBundle

open Text

/-- What a start line begins with. -/
def startMarker : String :=
  "# __CLANG_OFFLOAD_BUNDLE____START__ "

/-- What an end line begins with. -/
def endMarker : String :=
  "# __CLANG_OFFLOAD_BUNDLE____END__ "

/-- What belongs to each target, in the order of the targets. -/
abbrev PerTarget (Body : Type) := List (String × Body)

/-- The sections of a bundle. -/
abbrev Sections := PerTarget String

/-- Set what belongs to a target. -/
def insert {Body : Type} (target : String) (body : Body) : PerTarget Body → PerTarget Body
  | [] => [(target, body)]
  | (first, text) :: rest =>
      if target < first then (target, body) :: (first, text) :: rest
      else if target = first then (target, body) :: rest
      else (first, text) :: insert target body rest

/-- The state of the reader between two lines. -/
structure Reader where
  sections : Sections
  /-- Was there a start line? -/
  started : Bool
  /-- The target of the open section and its lines, the latest first. -/
  pending : Option (List Char × List (List Char))

/-- What a line is. -/
inductive LineKind where
  | start (target : List Char)
  | finish (target : List Char)
  | body

/-- What a line is; blanks behind a target do not belong to it. -/
def lineKind (line : List Char) : LineKind :=
  match startMarker.toList.isPrefixOf? line with
  | some target => .start (trimEnd target)
  | none =>
      match endMarker.toList.isPrefixOf? line with
      | some target => .finish (trimEnd target)
      | none => .body

/-- The text of the lines of a section. -/
def bodyText (lines : List (List Char)) : List Char :=
  lines.flatMap (· ++ ['\n'])

/-- Read a line. -/
def Reader.next (reader : Reader) (line : List Char) : Reader :=
  match lineKind line with
  | .start target => { reader with started := true, pending := some (target, []) }
  | .finish target =>
      match reader.pending with
      | some (name, body) =>
          if name = target then
            { reader with
              sections :=
                insert (String.ofList name) (String.ofList (bodyText body.reverse)) reader.sections
              pending := none }
          else reader
      | none => reader
  | .body =>
      match reader.pending with
      | some (name, body) => { reader with pending := some (name, line :: body) }
      | none => reader

/-- The reader before the first line. -/
def Reader.initial : Reader :=
  ⟨[], false, none⟩

/-- The sections of a bundled text, or `none` for a text without a start line.
A section that is never ended is left out. -/
def split (text : String) : Option Sections :=
  let reader := (text.toList.splitOn '\n').foldl Reader.next .initial
  if reader.started then some reader.sections else none

/-- The first target for the host itself. -/
def hostTarget (sections : Sections) : Option String :=
  (sections.find? fun (target, _) => "host-".toList.isPrefixOf target.toList).map (·.1)

end BuildExplorer.DeviceBundle
