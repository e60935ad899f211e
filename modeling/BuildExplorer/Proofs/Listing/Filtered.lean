import Mathlib.Data.List.Basic
import BuildExplorer.Proofs.Listing.Labels

/-!
# What filters do to a listing

A filter leaves out lines and does nothing else.  The line table is kept for all
lines of the text before any filter is asked, so a line that is left out still
counts for the positions behind it.  Separators aside, the lines that are shown
are in step with the lines of the text that are neither blank nor left out.
-/

namespace BuildExplorer

/-- The filters without those that leave out lines. -/
def Filters.keepingLines (filters : Filters) : Filters :=
  { filters with labels := false, directives := false, commentOnly := false }

namespace Listing

open Text (allBlank words)

/-! ## Lines that show something -/

/-- Is there nothing to be seen on a line? -/
def Line.isBlank (line : Line) : Bool :=
  allBlank line.text.toList

/-- The lines of a listing that are not blank. -/
def solid (lines : List Line) : List Line :=
  lines.filter (!·.isBlank)

theorem solid_cons (line : Line) (lines : List Line) :
    solid (line :: lines) = if line.isBlank then solid lines else line :: solid lines := by
  by_cases blank : line.isBlank = true <;> simp [solid, blank]

theorem isBlank_separator : Line.separator.isBlank = true :=
  rfl

/-- A text is blank exactly if it has no words. -/
theorem allBlank_iff_words {text : List Char} : allBlank text = true ↔ words text = [] := by
  rw [Text.words_eq_runs, Text.runs_eq_nil_iff]
  exact List.all_eq_true

/-- Squashing blanks leaves something to be seen if there was something. -/
theorem allBlank_squash (line : List Char) : allBlank (squash line) = allBlank line := by
  rw [Bool.eq_iff_iff, allBlank_iff_words, allBlank_iff_words, words_squash]

theorem isBlank_shown (filters : Filters) (line : List Char) (position : Option Position) :
    (shown filters line position).isBlank = allBlank line := by
  unfold shown Line.isBlank
  split
  · simpa using allBlank_squash line
  · simp

/-- A separator in front of lines shows nothing. -/
theorem solid_separator (parts : Bool) (lines : List Line) :
    solid (if parts then .separator :: lines else lines) = solid lines := by
  cases parts with
  | false => rfl
  | true => rw [if_pos rfl, solid_cons, if_pos isBlank_separator]

/-- Separators go between lines, which stay as they are and in order. -/
theorem solid_separateFrom (gap : Bool) (done : List Line) (entries : List (Option Line)) :
    solid (separateFrom gap done entries) =
      (solid (entries.filterMap id)).reverse ++ solid done := by
  induction entries generalizing gap done with
  | nil => rfl
  | cons entry rest inductionHypothesis =>
      cases entry with
      | none =>
          rw [separateFrom, inductionHypothesis]
          rfl
      | some line =>
          rw [separateFrom, inductionHypothesis, solid_cons, solid_separator]
          by_cases blank : line.isBlank = true <;> simp [solid_cons, blank]

/-- The lines that show something are those of the entries. -/
theorem solid_separate (entries : List (Option Line)) :
    solid (separate entries) = solid (entries.filterMap id) := by
  rw [separate, solid, List.filter_reverse, ← solid, solid_separateFrom]
  simp [solid]

/-! ## Lines that are left out -/

/-- The filters leave out a line of a text: a label that no line of the text refers
to, a comment, or a directive that no label stands in front of. -/
inductive LeftOut (filters : Filters) (lines : List (List Char)) (line : List Char) : Prop where
  | label {name rest : List Char} (filtered : filters.labels = true)
      (defines : labelDefinition? line = some (name, rest))
      (unused : name ∉ allReferences lines)
  | comment (filtered : filters.commentOnly = true) (isComment : isCommentOnly line = true)
  | directive (filtered : filters.directives = true) (noLabel : definesLabel line = false)
      (isDirective : isDirective line = true)

theorem dropped_iff_leftOut {filters : Filters} {lines : List (List Char)} {line : List Char} :
    dropped filters (referencedNames filters lines) line = true ↔ LeftOut filters lines line := by
  constructor
  · intro isDropped
    simp only [dropped, Bool.or_eq_true, Bool.and_eq_true] at isDropped
    rcases isDropped with (⟨filtered, unused⟩ | ⟨filtered, isComment⟩) |
      ⟨⟨filtered, noLabel⟩, isDirective⟩
    · split at unused
      · rename_i name rest defines
        refine .label filtered defines ?_
        simpa [referencedNames, filtered] using unused
      · exact absurd unused Bool.false_ne_true
    · exact .comment filtered isComment
    · exact .directive filtered (by simpa using noLabel) isDirective
  · intro leftOut
    cases leftOut with
    | label filtered defines unused => simp [dropped, referencedNames, filtered, defines, unused]
    | comment filtered isComment => simp [dropped, filtered, isComment]
    | directive filtered noLabel isDirective => simp [dropped, filtered, noLabel, isDirective]

instance (filters : Filters) (lines : List (List Char)) (line : List Char) :
    Decidable (LeftOut filters lines line) :=
  decidable_of_iff _ dropped_iff_leftOut

theorem dropped_eq_decide_leftOut (filters : Filters) (lines : List (List Char))
    (line : List Char) :
    dropped filters (referencedNames filters lines) line = decide (LeftOut filters lines line) := by
  rw [Bool.eq_iff_iff, dropped_iff_leftOut, decide_eq_true_iff]

/-- A line of a text is shown unless it is blank or left out. -/
def Survives (filters : Filters) (lines : List (List Char)) (line : List Char) : Prop :=
  allBlank line = false ∧ ¬LeftOut filters lines line

instance (filters : Filters) (lines : List (List Char)) (line : List Char) :
    Decidable (Survives filters lines line) :=
  inferInstanceAs (Decidable (_ ∧ _))

theorem decide_survives (filters : Filters) (lines : List (List Char)) (line : List Char) :
    decide (Survives filters lines line) =
      (!allBlank line && decide (¬LeftOut filters lines line)) := by
  by_cases blank : allBlank line = true <;> simp [Survives, blank]

/-- What the entry of a line has to show. -/
theorem entry_bind_id (filters : Filters) (lines : List (List Char))
    (positioned : List Char × Option Position) :
    (entry filters (referencedNames filters lines) positioned).bind id =
      if Survives filters lines positioned.1 then
        some (shown filters positioned.1 positioned.2)
      else none := by
  rcases positioned with ⟨line, position⟩
  rw [entry, dropped_eq_decide_leftOut]
  by_cases blank : allBlank line = true
  · simp [Survives, blank]
  · by_cases leftOut : LeftOut filters lines line <;> simp [Survives, blank, leftOut]

/-- The entries of some lines show something where the lines survive. -/
theorem solid_entries (filters : Filters) (lines : List (List Char))
    (positioned : List (List Char × Option Position)) :
    solid ((positioned.filterMap (entry filters (referencedNames filters lines))).filterMap id) =
      (positioned.filter (Survives filters lines ·.1)).map fun positioned =>
        shown filters positioned.1 positioned.2 := by
  rw [List.filterMap_filterMap, solid, List.filter_filterMap, ← List.filterMap_eq_map,
    List.filterMap_filter]
  refine List.filterMap_congr fun positioned _ => ?_
  rcases positioned with ⟨line, position⟩
  rw [entry_bind_id]
  by_cases survives : Survives filters lines line
  · simp [survives, isBlank_shown, survives.1]
  · simp [survives]

/-- The lines that show something are what is shown of the lines that survive. -/
theorem solid_ofText (text : String) (filters : Filters) :
    solid (ofText text filters) =
      ((withPositions (Text.lines text.toList)).filter
        (Survives filters (Text.lines text.toList) ·.1)).map fun positioned =>
          shown filters positioned.1 positioned.2 := by
  rw [ofText, solid_separate, solid_entries]

theorem not_leftOut_keepingLines (filters : Filters) (lines : List (List Char))
    (line : List Char) : ¬LeftOut filters.keepingLines lines line := by
  rintro (⟨filtered, -, -⟩ | ⟨filtered, -⟩ | ⟨filtered, -, -⟩) <;> exact nomatch filtered

theorem shown_keepingLines (filters : Filters) (line : List Char) (position : Option Position) :
    shown filters.keepingLines line position = shown filters line position :=
  rfl

/-- Where no line is left out, all lines that are not blank are shown. -/
theorem solid_ofText_keepingLines (text : String) (filters : Filters) :
    solid (ofText text filters.keepingLines) =
      ((withPositions (Text.lines text.toList)).filter (!allBlank ·.1)).map fun positioned =>
        shown filters positioned.1 positioned.2 := by
  rw [solid_ofText]
  simp [decide_survives, not_leftOut_keepingLines, shown_keepingLines]

/-! ## Positions -/

theorem positionsFrom_cons (table : LineTable) (line : List Char) (rest : List (List Char)) :
    positionsFrom table [] (line :: rest) =
      positionsFrom (table.observe line) [] rest ++ [(line, (table.observe line).position)] := by
  rw [positionsFrom, positionsFrom_eq_append]

/-- The positions of some lines go on from those in front of them. -/
theorem positionsFrom_append (table : LineTable) (before after : List (List Char)) :
    positionsFrom table [] (before ++ after) =
      positionsFrom (table.observeAll before) [] after ++ positionsFrom table [] before := by
  induction before generalizing table with
  | nil => simp [positionsFrom]
  | cons line before inductionHypothesis =>
      rw [List.cons_append, positionsFrom_cons, inductionHypothesis, positionsFrom_cons,
        List.append_assoc, LineTable.observeAll_cons]

/-- The position of a line is told by all lines up to it. -/
theorem withPositions_append_cons (before : List (List Char)) (line : List Char)
    (after : List (List Char)) :
    ∃ behind, withPositions (before ++ line :: after) =
      withPositions before ++
        (line, (LineTable.empty.observeAll (before ++ [line])).position) :: behind := by
  let here := LineTable.empty.observeAll (before ++ [line])
  have isHere : (LineTable.empty.observeAll before).observe line = here := by
    simp [here, LineTable.observeAll_append]
  refine ⟨(positionsFrom here [] after).reverse, ?_⟩
  rw [withPositions, positionsFrom_append, positionsFrom_cons, isHere]
  simp [withPositions, here]

/-- As many lines survive with their positions as without. -/
theorem length_filter_withPositions (survives : List Char → Bool) (lines : List (List Char)) :
    ((withPositions lines).filter (survives ·.1)).length = (lines.filter survives).length := by
  calc
    ((withPositions lines).filter (survives ·.1)).length =
        (((withPositions lines).map (·.1)).filter survives).length := by
      rw [List.filter_map, List.length_map]
      rfl
    _ = (lines.filter survives).length := by rw [map_fst_withPositions]

/-- A line that survives is shown behind those in front of it that survive, with
the position that all lines up to it have set. -/
theorem getElem?_solid_ofText {text : String} {filters : Filters} {before after : List (List Char)}
    {line : List Char} (isLines : Text.lines text.toList = before ++ line :: after)
    (survives : Survives filters (Text.lines text.toList) line) :
    (solid (ofText text filters))[(before.filter
        (Survives filters (Text.lines text.toList) ·)).length]? =
      some (shown filters line (LineTable.empty.observeAll (before ++ [line])).position) := by
  obtain ⟨behind, isPositions⟩ := withPositions_append_cons before line after
  rw [← isLines] at isPositions
  rw [solid_ofText, isPositions, List.filter_append,
    List.filter_cons_of_pos (by simpa using survives), List.map_append, List.map_cons,
    ← length_filter_withPositions]
  simp

/-! ## The whole -/

/-- Filters delete lines and change nothing else.  Without those that leave out
lines, all lines of the text that are not blank are shown, as they are or squashed.
With them, the lines that are left out are missing, and the others are shown as
before: in order, with their text and their position.  The position of each line
is the one that all lines up to it have set, whether they are shown or not. -/
theorem ofText_deletes_left_out (text : String) (filters : Filters) :
    let lines := Text.lines text.toList
    let visible := lines.filter (!allBlank ·)
    let whole := solid (ofText text filters.keepingLines)
    let remaining := solid (ofText text filters)
    whole.map (·.text) =
        visible.map (fun line => String.ofList (if filters.trim then squash line else line)) ∧
      remaining =
        ((visible.zip whole).filter fun (line, _) => ¬LeftOut filters lines line).map (·.2) ∧
      ∀ before line after, lines = before ++ line :: after → Survives filters lines line →
        remaining[(before.filter (Survives filters lines ·)).length]? =
          some (shown filters line (LineTable.empty.observeAll (before ++ [line])).position) := by
  intro lines visible whole remaining
  let positioned := (withPositions lines).filter (!allBlank ·.1)
  have isVisible : visible = positioned.map (·.1) := by
    calc
      visible = ((withPositions lines).map (·.1)).filter (!allBlank ·) := by
        rw [map_fst_withPositions]
      _ = positioned.map (·.1) := List.filter_map
  have isWhole : whole = positioned.map fun positioned => shown filters positioned.1 positioned.2 :=
    solid_ofText_keepingLines text filters
  refine ⟨?texts, ?deletion, fun before line after isLines survives =>
    getElem?_solid_ofText isLines survives⟩
  case texts =>
      rw [isWhole, isVisible, List.map_map, List.map_map]
      rfl
  case deletion =>
      calc
        remaining = (positioned.filter fun positioned => ¬LeftOut filters lines positioned.1).map
            fun positioned => shown filters positioned.1 positioned.2 := by
          rw [List.filter_filter]
          simp only [remaining, solid_ofText, decide_survives, Bool.and_comm, lines]
        _ = ((visible.zip whole).filter fun (line, _) =>
              ¬LeftOut filters lines line).map (·.2) := by
          rw [isWhole, isVisible, List.zip_map', List.filter_map, List.map_map]
          rfl

/-- A position that is left out still counts for the line behind it. -/
example : solid (ofText "\t.loc 1 3\n\tret\n" { directives := true }) =
    [⟨"\tret", some ⟨none, 3, none⟩⟩] := by
  decide +kernel

end Listing

end BuildExplorer
