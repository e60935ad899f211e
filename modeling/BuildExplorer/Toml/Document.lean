import BuildExplorer.Toml.Scalar

/-!
# TOML documents

A document is a list of key-value pairs and of headers.  A header opens a table,
or adds one to an array of tables.  Keys with dots open tables on their way,
which no header may open again.
-/

namespace BuildExplorer.Toml

/-! ## Tables -/

/-- What a key stands for. -/
inductive Item where
  | value (json : Json)
  /-- A table: was it only mentioned on the way to another one, and was it
  opened by a key with dots? -/
  | table (implicit dotted : Bool) (entries : List (String × Item))
  /-- The tables of an array, the latest first. -/
  | tables (elements : List (List (String × Item)))

abbrev Entries := List (String × Item)

/-- A table on its way. -/
structure Table where
  implicit : Bool := false
  dotted : Bool := false
  entries : Entries := []

/-- Set what a key stands for, at its place or at the end. -/
def setEntry (key : String) (item : Item) : Entries → Entries
  | [] => [(key, item)]
  | (first, found) :: rest =>
      if first = key then (key, item) :: rest else (first, found) :: setEntry key item rest

/-- Change the table that a path leads to.  Tables on the way are made where
they are missing; a key with dots may not pass through a table that a header
opened. -/
def change (dotted : Bool) (edit : Table → Option Table) : List String → Table → Option Table
  | [], table => edit table
  | key :: path, table => do
      match table.entries.lookup key with
      | none =>
          let inner ← change dotted edit path ⟨true, dotted, []⟩
          return { table with
            entries := setEntry key (.table inner.implicit inner.dotted inner.entries)
              table.entries }
      | some (.table implicit wasDotted entries) =>
          if dotted && !implicit then none
          else
            let inner ← change dotted edit path ⟨implicit, wasDotted, entries⟩
            return { table with
              entries := setEntry key (.table inner.implicit inner.dotted inner.entries)
                table.entries }
      | some (.tables (last :: earlier)) =>
          let inner ← change dotted edit path ⟨false, false, last⟩
          return { table with
            entries := setEntry key (.tables (inner.entries :: earlier)) table.entries }
      | some _ => none

/-- Add a pair to a table.  A key with dots only adds to tables that such keys
opened, and a key without dots only to others. -/
def addPair (path : List String) (key : String) (value : Json) (table : Table) : Option Table :=
  change true (fun table =>
    match table.dotted == path.isEmpty, table.entries.lookup key with
    | false, none => some { table with entries := table.entries ++ [(key, .value value)] }
    | _, _ => none) path table

mutual

/-- The value that an item stands for. -/
def Item.toJson : Item → Json
  | .value json => json
  | .table _ _ entries => .object (entriesToJson entries)
  | .tables elements => .array (elementsToJson elements).reverse

def entriesToJson : List (String × Item) → List (String × Json)
  | [] => []
  | (key, item) :: rest => (key, item.toJson) :: entriesToJson rest

def elementsToJson : List (List (String × Item)) → List Json
  | [] => []
  | entries :: rest => .object (entriesToJson entries) :: elementsToJson rest

end

/-! ## Keys -/

/-- A character of a key without quotes. -/
def isBareChar (char : Char) : Bool :=
  char.isAlphanum || char == '_' || char == '-'

/-- Read one part of a key. -/
def takeKeyPart (text : List Char) : Option (String × List Char) :=
  match text with
  | '"' :: _ | '\'' :: _ =>
      (takeLineString text).map fun (name, rest) => (String.ofList name, rest)
  | text =>
      let name := text.takeWhile isBareChar
      if name.isEmpty then none else some (String.ofList name, text.dropWhile isBareChar)

/-- How many parts a key may have and how deep values may nest. -/
def depthLimit : Nat := 79

/-- Read a key: parts with dots between them. -/
def takeKey (fuel : Nat) (done : List String) (text : List Char) :
    Option (List String × List Char) :=
  match fuel with
  | 0 => none
  | fuel + 1 =>
      match takeKeyPart (skipSpace text) with
      | none => none
      | some (part, rest) =>
          match skipSpace rest with
          | '.' :: rest => takeKey fuel (part :: done) rest
          | rest => some ((part :: done).reverse, rest)

/-- Read a key of bounded length. -/
def key (text : List Char) : Option (List String × List Char) :=
  takeKey depthLimit [] text

/-! ## Values -/

/-- Pass blanks, comments and line ends inside an array. -/
def skipFiller (fuel : Nat) (text : List Char) : List Char :=
  match fuel with
  | 0 => text
  | fuel + 1 =>
      let text := skipSpace text
      match text with
      | '#' :: _ => skipFiller fuel (skipComment text)
      | _ =>
          match takeNewline text with
          | some rest => skipFiller fuel rest
          | none => text

mutual

/-- Read a value; `depth` bounds how deep arrays and tables nest in it. -/
def value (fuel depth : Nat) (text : List Char) : Option (Json × List Char) :=
  match fuel with
  | 0 => none
  | fuel + 1 =>
      match text with
      | '"' :: _ | '\'' :: _ =>
          (takeString text).map fun (chars, rest) => (.string (String.ofList chars), rest)
      | 't' :: 'r' :: 'u' :: 'e' :: rest => some (.bool true, rest)
      | 'f' :: 'a' :: 'l' :: 's' :: 'e' :: rest => some (.bool false, rest)
      | '[' :: rest =>
          match depth with
          | 0 => none
          | depth + 1 => items fuel depth [] (skipFiller (rest.length + 1) rest)
      | '\x7b' :: rest =>
          match depth with
          | 0 => none
          | depth + 1 =>
              match skipSpace rest with
              | '\x7d' :: rest => some (.object [], rest)
              | rest => pairs fuel depth ⟨false, false, []⟩ rest
      | text =>
          match takeDateTime text with
          | some rest => some (dateValue (text.take (text.length - rest.length)), rest)
          | none => takeNumber text

/-- Read the items of an array up to its closing bracket. -/
def items (fuel depth : Nat) (done : List Json) (text : List Char) : Option (Json × List Char) :=
  match fuel with
  | 0 => none
  | fuel + 1 =>
      match text with
      | ']' :: rest => some (.array done.reverse, rest)
      | text =>
          match value fuel depth text with
          | none => none
          | some (item, rest) =>
              match skipFiller (rest.length + 1) rest with
              | ',' :: rest =>
                  items fuel depth (item :: done) (skipFiller (rest.length + 1) rest)
              | ']' :: rest => some (.array (item :: done).reverse, rest)
              | _ => none

/-- Read the pairs of an inline table up to its closing brace. -/
def pairs (fuel depth : Nat) (table : Table) (text : List Char) : Option (Json × List Char) :=
  match fuel with
  | 0 => none
  | fuel + 1 =>
      match key text with
      | some (path, '=' :: rest) =>
          match value fuel depth (skipSpace rest) with
          | none => none
          | some (item, rest) =>
              match addPair path.dropLast (path.getLastD "") item table with
              | none => none
              | some table =>
                  match skipSpace rest with
                  | ',' :: rest => pairs fuel depth table rest
                  | '\x7d' :: rest => some (.object (entriesToJson table.entries), rest)
                  | _ => none
      | _ => none

end

/-! ## Documents -/

/-- A document on its way: the finished tables, and the table that pairs are
added to with its path. -/
structure Builder where
  root : Table := {}
  path : List String := []
  isElement : Bool := false
  current : Table := {}

/-- Put the current table in its place. -/
def Builder.close (builder : Builder) : Option Table :=
  if builder.path.isEmpty then some builder.current
  else
    let key := builder.path.getLastD ""
    let table := builder.current
    change false (fun parent =>
      match parent.entries.lookup key, builder.isElement with
      | none, false =>
          some { parent with
            entries := parent.entries ++ [(key, .table table.implicit table.dotted table.entries)] }
      | none, true =>
          some { parent with entries := parent.entries ++ [(key, .tables [table.entries])] }
      | some (.tables elements), true =>
          some { parent with
            entries := setEntry key (.tables (table.entries :: elements)) parent.entries }
      | _, _ => none) builder.path.dropLast builder.root

/-- The table that a path leads to, if it was mentioned before. -/
def find? : List String → Table → Option Item
  | [], _ => none
  | [key], table => table.entries.lookup key
  | key :: path, table =>
      match table.entries.lookup key with
      | some (.table implicit dotted entries) => find? path ⟨implicit, dotted, entries⟩
      | some (.tables (last :: _)) => find? path ⟨false, false, last⟩
      | _ => none

/-- Remove what a path leads to; tables on the way are made where they are
missing. -/
def detach (path : List String) (root : Table) : Option Table :=
  change false (fun parent =>
    some { parent with
      entries := parent.entries.filter (·.1 != path.getLastD "") }) path.dropLast root

/-- Open the table of a header. -/
def Builder.openTable (builder : Builder) (path : List String) : Option Builder := do
  let root ← builder.close
  let found := find? path root
  let root ← detach path root
  match found with
  | none => return { root, path, isElement := false, current := {} }
  | some (.table true false entries) =>
      return { root, path, isElement := false, current := { entries } }
  | some _ => none

/-- Open a new table in the array of a header. -/
def Builder.openElement (builder : Builder) (path : List String) : Option Builder := do
  let root ← builder.close
  match find? path root with
  | none | some (.tables _) =>
      let root ← change false some path.dropLast root
      return { root, path, isElement := true, current := {} }
  | some _ => none

/-- Read a header whose first bracket was read. -/
def header (builder : Builder) (text : List Char) : Option (Builder × List Char) :=
  match text with
  | '[' :: rest =>
      match key rest with
      | some (path, ']' :: ']' :: rest) => (builder.openElement path).map (·, rest)
      | _ => none
  | rest =>
      match key rest with
      | some (path, ']' :: rest) => (builder.openTable path).map (·, rest)
      | _ => none

/-- Read a pair. -/
def pair (builder : Builder) (text : List Char) : Option (Builder × List Char) :=
  match key text with
  | some (path, '=' :: rest) => do
      let rest := skipSpace rest
      let (item, rest) ← value (2 * rest.length + 2) depthLimit rest
      let current ← addPair path.dropLast (path.getLastD "") item builder.current
      return ({ builder with current }, rest)
  | _ => none

/-- Read the lines of a document. -/
def lines (fuel : Nat) (builder : Builder) (text : List Char) : Option Builder :=
  match fuel with
  | 0 => none
  | fuel + 1 =>
      let line := skipSpace text
      let content :=
        match line with
        | [] => some (builder, [])
        | '#' :: _ | '\n' :: _ | '\r' :: _ => some (builder, line)
        | '[' :: rest => header builder rest
        | _ => pair builder line
      match content with
      | none => none
      | some (builder, rest) =>
          match skipComment (skipSpace rest) with
          | [] => some builder
          | rest =>
              match takeNewline rest with
              | some rest => lines fuel builder rest
              | none => none

/-- Read a document as one value. -/
def parse (text : String) : Option Json := do
  let chars :=
    match text.toList with
    | '\uFEFF' :: rest => rest
    | chars => chars
  let builder ← lines (chars.length + 1) {} chars
  let root ← builder.close
  return .object (entriesToJson root.entries)

end BuildExplorer.Toml
