import Mathlib.Data.List.Induction
import BuildExplorer.Proofs.Listing.Filtered
import BuildExplorer.Proofs.Listing.Records

/-!
# Where lines come from

Records of the line table stand among the lines of a listing, and a line has the
position that the last record up to it has set.  This file says so without a table:
which record is the last, and which file had its number when it stood there.  What
stands behind a line has no say in its position.
-/

namespace BuildExplorer.Listing

open Text (allBlank numeralValue readUInt32)

/-! ## Numbers of records -/

/-- The numbers of a record, as they are written. -/
def LineRecord.numerals : LineRecord → List (List Char)
  | .file index _ => [index]
  | .location source number column => source :: number :: column.toList
  | .debugLine place => place.toList.map (·.2)

/-- The numbers of a record are written in ASCII digits and fit 32 bits. -/
def LineRecord.IsPlain (record : LineRecord) : Prop :=
  ∀ digits ∈ record.numerals,
    digits.all Char.isDigit = true ∧ numeralValue digits < UInt32.size

instance (record : LineRecord) : Decidable record.IsPlain :=
  inferInstanceAs (Decidable (∀ digits ∈ record.numerals, _))

/-- The numbers of the record on a line, if there is one, are plain. -/
def HoldsPlain (line : List Char) : Prop :=
  ∀ record, HoldsRecord line record → record.IsPlain

instance (line : List Char) : Decidable (HoldsPlain line) :=
  decidable_of_iff (∀ record ∈ lineRecord? line, record.IsPlain)
    (forall_congr' fun _ => imp_congr_left lineRecord?_eq_some_iff)

/-- The number that some digits stand for. -/
def numberOf (digits : List Char) : UInt32 :=
  UInt32.ofNat (numeralValue digits)

/-- No number of a record is missing. -/
theorem HoldsRecord.numerals_nonempty {line : List Char} {record : LineRecord}
    (holds : HoldsRecord line record) : ∀ digits ∈ record.numerals, digits ≠ [] := by
  cases holds with
  | file starts _ | fileIn starts _ =>
      obtain ⟨_, _, _, _, _, _, isIndex, _⟩ := starts
      simpa [LineRecord.numerals] using isIndex.nonempty
  | location starts _ =>
      obtain ⟨_, _, _, _, _, _, isFile, isNumber, _⟩ := starts
      simpa [LineRecord.numerals] using ⟨isFile.nonempty, isNumber.nonempty⟩
  | locationColumn starts follows =>
      obtain ⟨_, _, _, _, _, _, isFile, isNumber, _⟩ := starts
      obtain ⟨_, _, _, isColumn, _⟩ := follows
      simpa [LineRecord.numerals] using
        ⟨isFile.nonempty, isNumber.nonempty, isColumn.nonempty⟩
  | debugBare => simp [LineRecord.numerals]
  | debugPlace _ follows =>
      obtain ⟨_, _, _, _, _, _, isNumber, _⟩ := follows
      simpa [LineRecord.numerals] using isNumber.nonempty

/-- The numbers of a record are read as what they stand for. -/
theorem readUInt32_eq_numberOf {line digits : List Char} {record : LineRecord}
    (holds : HoldsRecord line record) (plain : record.IsPlain)
    (member : digits ∈ record.numerals) : readUInt32 digits = some (numberOf digits) := by
  obtain ⟨areDigits, fits⟩ := plain digits member
  have nonempty := holds.numerals_nonempty digits member
  have read : Text.readNumeral UInt32.size digits = some (numeralValue digits) := by
    rw [Text.readNumeral, if_neg (by simpa [nonempty] using areDigits)]
    exact if_pos fits
  rw [readUInt32, read, Option.map_some, numberOf]

/-! ## The last line that states something -/

/-- The last of some lines that states something, if there is one: the lines in front
of it and what it states. -/
def Latest {Fact : Type} (states : List Char → Fact → Prop) (lines : List (List Char)) :
    Option (List (List Char) × Fact) → Prop
  | none => ∀ line ∈ lines, ∀ fact, ¬states line fact
  | some (earlier, fact) => ∃ line later, lines = earlier ++ line :: later ∧
      states line fact ∧ ∀ other ∈ later, ∀ fact, ¬states other fact

section Latest

variable {Fact : Type} {states : List Char → Fact → Prop} {lines : List (List Char)}
  {line : List Char}

/-- A line that states nothing changes nothing. -/
theorem Latest.concat {latest : Option (List (List Char) × Fact)}
    (isLatest : Latest states lines latest) (quiet : ∀ fact, ¬states line fact) :
    Latest states (lines ++ [line]) latest := by
  have behind {others : List (List Char)} (before : ∀ other ∈ others, ∀ fact, ¬states other fact) :
      ∀ other ∈ others ++ [line], ∀ fact, ¬states other fact :=
    List.forall_mem_append.mpr ⟨before, List.forall_mem_singleton.mpr quiet⟩
  match latest, isLatest with
  | none, before => exact behind before
  | some (earlier, fact), ⟨stating, later, isLines, here, before⟩ =>
      exact ⟨stating, later ++ [line], by rw [isLines, List.append_assoc, List.cons_append], here,
        behind before⟩

theorem latest_concat_self {fact : Fact} (here : states line fact) :
    Latest states (lines ++ [line]) (some (lines, fact)) :=
  ⟨line, [], rfl, here, by simp⟩

/-- A line that states something does not stand behind the last that does. -/
theorem eq_nil_of_quiet {other : List Char} {later later' between : List (List Char)} {fact : Fact}
    (same : line :: later = between ++ other :: later') (here : states other fact)
    (quiet : ∀ other ∈ later, ∀ fact, ¬states other fact) : between = [] := by
  cases between with
  | nil => rfl
  | cons _ between =>
      have behind : other ∈ later := by simp [(List.cons.inj same).2]
      exact absurd here (quiet other behind fact)

theorem Latest.some_unique {found found' : List (List Char) × Fact}
    (functional : ∀ line fact fact', states line fact → states line fact' → fact = fact')
    (first : Latest states lines (some found)) (second : Latest states lines (some found')) :
    found = found' := by
  rcases found with ⟨earlier, fact⟩
  rcases found' with ⟨earlier', fact'⟩
  obtain ⟨stating, later, rfl, here, quiet⟩ := first
  obtain ⟨stating', later', same, here', quiet'⟩ := second
  rcases List.append_eq_append_iff.mp same with ⟨between, rfl, rest⟩ | ⟨between, rfl, rest⟩
  · obtain rfl := eq_nil_of_quiet rest here' quiet
    obtain ⟨rfl, -⟩ := List.cons.inj rest
    rw [List.append_nil, functional stating fact fact' here here']
  · obtain rfl := eq_nil_of_quiet rest here quiet'
    obtain ⟨rfl, -⟩ := List.cons.inj rest
    rw [List.append_nil, functional stating' fact fact' here here']

theorem Latest.not_none {found : List (List Char) × Fact}
    (isLatest : Latest states lines (some found)) : ¬Latest states lines none := by
  obtain ⟨stating, later, rfl, here, -⟩ := isLatest
  exact fun quiet => quiet stating (by simp) found.2 here

/-- Where a line states one thing at most, the last is one. -/
theorem Latest.unique {latest latest' : Option (List (List Char) × Fact)}
    (functional : ∀ line fact fact', states line fact → states line fact' → fact = fact')
    (first : Latest states lines latest) (second : Latest states lines latest') :
    latest = latest' := by
  match latest, latest' with
  | none, none => rfl
  | none, some _ => exact absurd first second.not_none
  | some _, none => exact absurd second first.not_none
  | some _, some _ => exact congrArg some (first.some_unique functional second)

end Latest

/-! ## The position at the end of some lines -/

/-- A line names the file of an index. -/
def NamesFile (index : UInt32) (line name : List Char) : Prop :=
  ∃ digits, HoldsRecord line (.file digits name) ∧ numberOf digits = index

/-- A line holds a record that sets the position, which all do that do not name a file. -/
def SetsPosition (line : List Char) (record : LineRecord) : Prop :=
  HoldsRecord line record ∧ ∀ digits name, record ≠ .file digits name

/-- The position that is set by the last record, which stands behind some lines. -/
inductive Places : Option (List (List Char) × LineRecord) → Option Position → Prop
  | unset : Places none none
  | lineZero {earlier : List (List Char)} {file number : List Char} {column : Option (List Char)}
      (isZero : numberOf number = 0) : Places (some (earlier, .location file number column)) none
  | located {earlier : List (List Char)} {file number : List Char} {column : Option (List Char)}
      {named : Option (List (List Char) × List Char)} (notZero : numberOf number ≠ 0)
      (names : Latest (NamesFile (numberOf file)) earlier named) :
      Places (some (earlier, .location file number column)) (some {
        file := named.map fun (_, name) => String.ofList name
        line := numberOf number
        column := (column.map numberOf).filter (· ≠ 0) })
  | bare {earlier : List (List Char)} : Places (some (earlier, .debugLine none)) none
  | debugged {earlier : List (List Char)} {file number : List Char} :
      Places (some (earlier, .debugLine (some (file, number)))) (some {
        file := some (String.ofList file)
        line := numberOf number
        column := none })

/-- The position at the end of some lines is set by the last record among them. -/
def Attributed (lines : List (List Char)) (position : Option Position) : Prop :=
  ∃ latest, Latest SetsPosition lines latest ∧ Places latest position

theorem NamesFile.unique {index : UInt32} (line name name' : List Char)
    (first : NamesFile index line name) (second : NamesFile index line name') : name = name' := by
  obtain ⟨digits, holds, -⟩ := first
  obtain ⟨digits', holds', -⟩ := second
  exact (LineRecord.file.inj (holds.unique holds')).2

theorem Places.unique {latest : Option (List (List Char) × LineRecord)}
    {position position' : Option Position} (first : Places latest position)
    (second : Places latest position') : position = position' := by
  cases first with
  | unset => cases second; rfl
  | lineZero isZero =>
      cases second with
      | lineZero => rfl
      | located notZero _ => exact absurd isZero notZero
  | located notZero names =>
      cases second with
      | lineZero isZero => exact absurd isZero notZero
      | located _ names' =>
          rw [names.unique NamesFile.unique names']
  | bare => cases second; rfl
  | debugged => cases second; rfl

/-- There is one position at the end of some lines. -/
theorem Attributed.unique {lines : List (List Char)} {position position' : Option Position}
    (first : Attributed lines position) (second : Attributed lines position') :
    position = position' := by
  obtain ⟨latest, isLatest, places⟩ := first
  obtain ⟨latest', isLatest', places'⟩ := second
  obtain rfl := isLatest.unique (fun _ _ _ one other => one.1.unique other.1) isLatest'
  exact places.unique places'

/-- A line that sets no position leaves the position as it is. -/
theorem Attributed.concat {lines : List (List Char)} {line : List Char}
    {position : Option Position} (attributed : Attributed lines position)
    (quiet : ∀ record, ¬SetsPosition line record) : Attributed (lines ++ [line]) position := by
  obtain ⟨latest, isLatest, places⟩ := attributed
  exact ⟨latest, isLatest.concat quiet, places⟩

/-! ## What the line table holds -/

/-- The table holds the position at the end of some lines, and for each index the name
of the last file among them that has the index. -/
structure LineTable.Reflects (table : LineTable) (lines : List (List Char)) : Prop where
  position : Attributed lines table.position
  files (index : UInt32) : ∃ named, Latest (NamesFile index) lines named ∧
    table.files.lookup index = named.map fun (_, name) => String.ofList name

namespace LineTable

theorem reflects_empty : LineTable.empty.Reflects [] where
  position := ⟨none, by simp [Latest], .unset⟩
  files _ := ⟨none, by simp [Latest], rfl⟩

variable {table : LineTable} {lines : List (List Char)} {line : List Char}

/-- The position that `.loc` sets is read off the table. -/
theorem Reflects.places_located {file number : List Char} {column : Option (List Char)}
    (reflects : table.Reflects lines) (holds : HoldsRecord line (.location file number column))
    (plain : (LineRecord.location file number column).IsPlain) :
    Places (some (lines, .location file number column)) (table.located file number column) := by
  have isFile : readUInt32 file = some (numberOf file) :=
    readUInt32_eq_numberOf holds plain (by simp [LineRecord.numerals])
  have isNumber : readUInt32 number = some (numberOf number) :=
    readUInt32_eq_numberOf holds plain (by simp [LineRecord.numerals])
  have isColumn : column.bind readUInt32 = column.map numberOf := by
    cases column with
    | none => rfl
    | some column => exact readUInt32_eq_numberOf holds plain (by simp [LineRecord.numerals])
  simp only [located, isFile, isNumber, isColumn, Option.getD_some]
  obtain ⟨named, names, isNamed⟩ := reflects.files (numberOf file)
  by_cases isZero : numberOf number = 0
  · rw [if_pos isZero]
    exact .lineZero isZero
  · rw [if_neg isZero, isNamed]
    exact .located isZero names

/-- The position that `.dbg line` sets. -/
theorem places_debugged {place : Option (List Char × List Char)}
    (holds : HoldsRecord line (.debugLine place)) (plain : (LineRecord.debugLine place).IsPlain) :
    Places (some (lines, .debugLine place)) (debugged place) := by
  cases place with
  | none => exact .bare
  | some place =>
      rcases place with ⟨file, number⟩
      have isNumber : readUInt32 number = some (numberOf number) :=
        readUInt32_eq_numberOf holds plain (by simp [LineRecord.numerals])
      simp only [debugged, Option.bind_eq_bind, Option.bind_some, isNumber]
      exact .debugged

/-- A line that names no file leaves the files as they are. -/
theorem Reflects.files_concat (reflects : table.Reflects lines)
    (quiet : ∀ digits name, ¬HoldsRecord line (.file digits name)) (index : UInt32) :
    ∃ named, Latest (NamesFile index) (lines ++ [line]) named ∧
      table.files.lookup index = named.map fun (_, name) => String.ofList name := by
  obtain ⟨named, names, isNamed⟩ := reflects.files index
  exact ⟨named, names.concat fun name ⟨digits, holds, _⟩ => quiet digits name holds, isNamed⟩

/-- A line that names a file is the last to do so for the index. -/
theorem Reflects.files_concat_file {digits name : List Char} (reflects : table.Reflects lines)
    (holds : HoldsRecord line (.file digits name)) (index : UInt32) :
    ∃ named, Latest (NamesFile index) (lines ++ [line]) named ∧
      ((numberOf digits, String.ofList name) :: table.files).lookup index =
        named.map fun (_, name) => String.ofList name := by
  by_cases isIndex : index = numberOf digits
  · subst isIndex
    exact ⟨some (lines, name), latest_concat_self ⟨digits, holds, rfl⟩, by simp⟩
  · obtain ⟨named, names, isNamed⟩ := reflects.files index
    refine ⟨named, names.concat ?_, ?_⟩
    · rintro other ⟨digits', holds', isOther⟩
      obtain ⟨rfl, rfl⟩ := LineRecord.file.inj (holds.unique holds')
      exact isIndex isOther.symm
    · rw [List.lookup_cons, beq_false_of_ne isIndex, isNamed]

/-- The table after one more line. -/
theorem Reflects.observe (reflects : table.Reflects lines)
    (plain : HoldsPlain line) :
    (table.observe line).Reflects (lines ++ [line]) := by
  unfold LineTable.observe
  cases found : lineRecord? line with
  | none =>
      have quiet : ∀ record, ¬HoldsRecord line record := by
        intro record holds
        rw [lineRecord?_eq_some_iff.mpr holds] at found
        cases found
      exact ⟨reflects.position.concat fun record sets => quiet record sets.1,
        reflects.files_concat fun digits name => quiet (.file digits name)⟩
  | some record =>
      have holds := lineRecord?_eq_some_iff.mp found
      have isPlain := plain record holds
      cases record with
      | file digits name =>
          have read : readUInt32 digits = some (numberOf digits) :=
            readUInt32_eq_numberOf holds isPlain (by simp [LineRecord.numerals])
          simp only [record, read]
          refine ⟨reflects.position.concat ?_, reflects.files_concat_file holds⟩
          rintro record ⟨holds', notFile⟩
          exact notFile digits name (holds'.unique holds)
      | location file number column =>
          refine ⟨⟨_, latest_concat_self ⟨holds, by simp⟩,
            reflects.places_located holds isPlain⟩, reflects.files_concat ?_⟩
          intro digits name holds'
          cases holds.unique holds'
      | debugLine place =>
          refine ⟨⟨_, latest_concat_self ⟨holds, by simp⟩, places_debugged holds isPlain⟩,
            reflects.files_concat ?_⟩
          intro digits name holds'
          cases holds.unique holds'

/-- The table after all lines. -/
theorem reflects_observeAll
    (plain : ∀ line ∈ lines, HoldsPlain line) :
    (LineTable.empty.observeAll lines).Reflects lines := by
  induction lines using List.reverseRecOn with
  | nil => exact reflects_empty
  | append_singleton lines line inductionHypothesis =>
      obtain ⟨before, here⟩ := List.forall_mem_append.mp plain
      rw [observeAll_append, observeAll_cons, observeAll_nil]
      exact (inductionHypothesis before).observe (List.forall_mem_singleton.mp here)

end LineTable

/-! ## The lines that are shown -/

/-- A place in a filtered list is that of an item behind as many that pass. -/
theorem exists_split_of_lt_length_filter {Item : Type} {passes : Item → Bool}
    {items : List Item} {n : Nat} (isPlace : n < (items.filter passes).length) :
    ∃ before item after, items = before ++ item :: after ∧ passes item = true ∧
      (before.filter passes).length = n := by
  induction items generalizing n with
  | nil => exact absurd isPlace (Nat.not_lt_zero n)
  | cons first rest inductionHypothesis =>
      by_cases isPassing : passes first = true
      · rw [List.filter_cons_of_pos isPassing] at isPlace
        cases n with
        | zero => exact ⟨[], first, rest, rfl, isPassing, rfl⟩
        | succ n =>
            obtain ⟨before, item, after, rfl, passing, isLength⟩ :=
              inductionHypothesis (Nat.lt_of_succ_lt_succ isPlace)
            refine ⟨first :: before, item, after, rfl, passing, ?_⟩
            rw [List.filter_cons_of_pos isPassing, List.length_cons, isLength]
      · rw [List.filter_cons_of_neg isPassing] at isPlace
        obtain ⟨before, item, after, rfl, passing, isLength⟩ := inductionHypothesis isPlace
        refine ⟨first :: before, item, after, rfl, passing, ?_⟩
        rw [List.filter_cons_of_neg isPassing, isLength]

/-- The lines that show something are, in order, those of the text that survive. -/
theorem getElem?_solid_ofText_iff {text : String} {filters : Filters} {n : Nat} {found : Line} :
    (solid (ofText text filters))[n]? = some found ↔
      ∃ before line after, Text.lines text.toList = before ++ line :: after ∧
        Survives filters (Text.lines text.toList) line ∧
          (before.filter (Survives filters (Text.lines text.toList) ·)).length = n ∧
            shown filters line (LineTable.empty.observeAll (before ++ [line])).position =
              found := by
  let lines := Text.lines text.toList
  constructor
  · intro isFound
    have isPlace : n < (lines.filter (Survives filters lines ·)).length := by
      obtain ⟨isPlace, -⟩ := List.getElem?_eq_some_iff.mp isFound
      rw [solid_ofText, List.length_map] at isPlace
      rwa [← length_filter_withPositions]
    obtain ⟨before, line, after, isLines, passing, rfl⟩ := exists_split_of_lt_length_filter isPlace
    have survives : Survives filters lines line := of_decide_eq_true passing
    refine ⟨before, line, after, isLines, survives, rfl, ?_⟩
    exact Option.some.inj ((getElem?_solid_ofText isLines survives).symm.trans isFound)
  · rintro ⟨before, line, after, isLines, survives, rfl, rfl⟩
    exact getElem?_solid_ofText isLines survives

/-- A blank line between others has no position. -/
theorem source_eq_none_of_isBlank {text : String} {filters : Filters} {found : Line}
    (member : found ∈ ofText text filters) (blank : found.isBlank = true) :
    found.source = none := by
  by_cases isSeparator : found = .separator
  · rw [isSeparator]
    rfl
  · obtain ⟨original, position, -, notBlank, -, rfl⟩ :=
      (mem_ofText_iff isSeparator text filters).mp member
    rw [isBlank_shown, notBlank] at blank
    exact absurd blank Bool.false_ne_true

/-- Where the numbers of all records are plain, each line that is shown is told by a
line of the text: its text is that line's, and its position is the one that the last
record up to that line has set, or none if it defines a label.  There is one such
position for all lines up to any place, whatever stands behind them.  A blank line
has none. -/
theorem ofText_attributes_lines {text : String} {filters : Filters}
    (plain : ∀ line ∈ Text.lines text.toList, HoldsPlain line) :
    let lines := Text.lines text.toList
    (∀ upTo, upTo <+: lines → ∃! position, Attributed upTo position) ∧
      (∀ n found, (solid (ofText text filters))[n]? = some found ↔
        ∃ before line after, lines = before ++ line :: after ∧ Survives filters lines line ∧
          (before.filter (Survives filters lines ·)).length = n ∧
            found.text = String.ofList (if filters.trim then squash line else line) ∧
              if definesLabel line then found.source = none
              else Attributed (before ++ [line]) found.source) ∧
        ∀ found ∈ ofText text filters, found.isBlank = true → found.source = none := by
  intro lines
  have attributed (upTo : List (List Char)) (isPrefix : upTo <+: lines) :
      Attributed upTo (LineTable.empty.observeAll upTo).position :=
    (LineTable.reflects_observeAll fun line member => plain line (isPrefix.subset member)).position
  refine ⟨?unique, ?lines, fun found member blank => source_eq_none_of_isBlank member blank⟩
  case unique =>
      intro upTo isPrefix
      have here := attributed upTo isPrefix
      exact ⟨_, here, fun position other => other.unique here⟩
  case lines =>
      intro n found
      rw [getElem?_solid_ofText_iff]
      refine exists_congr fun before => exists_congr fun line => exists_congr fun after =>
        and_congr_right fun isLines => and_congr_right fun _ => and_congr_right fun _ => ?_
      have isPrefix : before ++ [line] <+: lines := ⟨after, by simp [lines, isLines]⟩
      have here := attributed (before ++ [line]) isPrefix
      rcases found with ⟨foundText, source⟩
      simp only [shown, Line.mk.injEq]
      refine and_congr eq_comm ?_
      by_cases isLabel : definesLabel line = true
      · rw [if_pos isLabel, if_pos isLabel]
        exact eq_comm
      · rw [if_neg isLabel, if_neg isLabel]
        constructor
        · rintro rfl
          exact here
        · intro other
          exact here.unique other

/-- The theorem at a listing in which a file loses its number behind a position. -/
theorem ofText_attributes_lines_renumbered :
    let text := "\t.file 1 \"a.c\"\n\t.loc 1 3 7\n\t.file 1 \"src\" \"b.c\"\nf:\n\tret\n"
    let filters : Filters := { directives := true }
    let lines := Text.lines text.toList
    (∀ line ∈ lines, HoldsPlain line) ∧
      (∀ upTo, upTo <+: lines → ∃! position, Attributed upTo position) ∧
        (∀ n found, (solid (ofText text filters))[n]? = some found ↔
          ∃ before line after, lines = before ++ line :: after ∧ Survives filters lines line ∧
            (before.filter (Survives filters lines ·)).length = n ∧
              found.text = String.ofList (if filters.trim then squash line else line) ∧
                if definesLabel line then found.source = none
                else Attributed (before ++ [line]) found.source) ∧
          ∀ found ∈ ofText text filters, found.isBlank = true → found.source = none := by
  intro text filters lines
  have plain : ∀ line ∈ lines, HoldsPlain line := by decide +kernel
  exact ⟨plain, ofText_attributes_lines plain⟩

/-- A position keeps the file that had the number when it was set. -/
example : ofText
      "\t.file 1 \"a.c\"\n\t.loc 1 3 7\n\t.file 1 \"src\" \"b.c\"\nf:\n\tnop\n\t.loc 1 4\n\tret\n"
      { directives := true } =
    [⟨"f:", none⟩, ⟨"\tnop", some ⟨some "a.c", 3, some 7⟩⟩,
      ⟨"\tret", some ⟨some "src/b.c", 4, none⟩⟩] := by
  decide +kernel

end BuildExplorer.Listing
