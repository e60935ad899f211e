/-!
# Paths

A path is a text whose components are parted by slashes.  Empty components and
components `.` say nothing, except for a `.` at the very start.
-/

namespace BuildExplorer

/-- A path of the file system. -/
structure Path where
  text : String
  deriving DecidableEq, Repr, Inhabited

namespace Path

/-- The characters of a path. -/
def chars (path : Path) : List Char :=
  path.text.toList

def ofChars (chars : List Char) : Path :=
  ⟨String.ofList chars⟩

@[simp]
theorem chars_ofChars (chars : List Char) : (ofChars chars).chars = chars := by
  simp [ofChars, Path.chars]

/-- Does the path start at the root? -/
def isAbsolute (path : Path) : Bool :=
  path.chars.head? == some '/'

/-- The path of a file that is named relative to this path. -/
def join (path : Path) (name : String) : Path :=
  if name.toList.head? == some '/' || path.text.isEmpty then ⟨name⟩
  else if path.chars.getLast? == some '/' then ⟨path.text ++ name⟩
  else ⟨path.text ++ "/" ++ name⟩

/-! ## Components -/

/-- The components that say something, in order. -/
def components (path : Path) : List (List Char) :=
  (path.chars.splitOn '/').filter fun piece => !piece.isEmpty && piece != ['.']

/-- Drop components at the end that say nothing, but never the first piece;
pieces are given last first. -/
def dropSilent : List (List Char) → List (List Char)
  | [] => []
  | [first] => [first]
  | piece :: next :: rest =>
      if piece.isEmpty || piece == ['.'] then dropSilent (next :: rest)
      else piece :: next :: rest

/-- The last component, if it is more than the root or nothing, and the pieces
in front of it, last first. -/
def splitLast? (path : Path) : Option (List Char × List (List Char)) :=
  match dropSilent (path.chars.splitOn '/').reverse with
  | [] => none
  | piece :: before => if piece.isEmpty then none else some (piece, before)

/-- The path without its last component. -/
def parent? (path : Path) : Option Path :=
  path.splitLast?.map fun (_, before) =>
    match dropSilent before with
    | [[]] => ⟨"/"⟩
    | before => ofChars (['/'].intercalate before.reverse)

/-- The last component, unless it leads to another directory. -/
def fileName? (path : Path) : Option (List Char) :=
  match path.splitLast? with
  | none => none
  | some (name, before) =>
      if name = ['.', '.'] || (name = ['.'] && before.isEmpty) then none else some name

/-- Cut a file name at its last dot; a dot at the start does not count. -/
def cutAtDot (name : List Char) : List Char × Option (List Char) :=
  let after := (name.reverse.takeWhile (· != '.')).reverse
  let stem := name.take (name.length - after.length - 1)
  if after.length = name.length || stem.isEmpty then (name, none) else (stem, some after)

/-- The part of the file name behind its last dot. -/
def extension? (path : Path) : Option (List Char) :=
  path.fileName?.bind fun name => (cutAtDot name).2

/-- The path with another extension; a path without a file name stays as it
is. -/
def withExtension (path : Path) (extension : String) : Path :=
  match path.fileName?, path.splitLast? with
  | some name, some (_, before) =>
      let stem := (cutAtDot name).1
      ofChars (['/'].intercalate ((stem :: before).reverse) ++ '.' :: extension.toList)
  | _, _ => path

end Path

end BuildExplorer
