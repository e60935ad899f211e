import BuildExplorer.Listing.Basic
import BuildExplorer.Listing.Statement

/-!
# The line table

While a listing is read, the table holds the files named so far and the
position that the last record set.
-/

namespace BuildExplorer.Listing

open Text

/-- Names of files and the current position. -/
structure LineTable where
  /-- The files named so far, the latest first. -/
  files : List (UInt32 × String)
  position : Option Position
  deriving DecidableEq, Repr

namespace LineTable

/-- The table before the first line. -/
def empty : LineTable :=
  ⟨[], none⟩

/-- The position that `.loc` sets: none for line zero and for a number that
does not fit 32 bits; a column of zero is no column. -/
def located (table : LineTable) (file line : List Char) (column : Option (List Char)) :
    Option Position :=
  let number := (readUInt32 line).getD 0
  if number = 0 then none
  else
    some {
      file := table.files.lookup ((readUInt32 file).getD 0)
      line := number
      column := (column.bind readUInt32).filter (· ≠ 0) }

/-- The position that `.dbg line` sets. -/
def debugged (place : Option (List Char × List Char)) : Option Position := do
  let (file, line) ← place
  let number ← readUInt32 line
  return { file := some (String.ofList file), line := number, column := none }

/-- The table after a record. -/
def record (table : LineTable) : LineRecord → LineTable
  | .file index name =>
      match readUInt32 index with
      | some index => { table with files := (index, String.ofList name) :: table.files }
      | none => table
  | .location file line column => { table with position := table.located file line column }
  | .debugLine place => { table with position := debugged place }

/-- The table after a line. -/
def observe (table : LineTable) (line : List Char) : LineTable :=
  match lineRecord? line with
  | some found => table.record found
  | none => table

/-- The table after some lines. -/
def observeAll (table : LineTable) (lines : List (List Char)) : LineTable :=
  lines.foldl observe table

@[simp]
theorem observeAll_nil (table : LineTable) : table.observeAll [] = table :=
  rfl

@[simp]
theorem observeAll_cons (table : LineTable) (line : List Char) (lines : List (List Char)) :
    table.observeAll (line :: lines) = (table.observe line).observeAll lines :=
  rfl

theorem observeAll_append (table : LineTable) (lines lines' : List (List Char)) :
    table.observeAll (lines ++ lines') = (table.observeAll lines).observeAll lines' := by
  simp [observeAll]

end LineTable

end BuildExplorer.Listing
