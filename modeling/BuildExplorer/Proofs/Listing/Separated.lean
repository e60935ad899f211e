import Mathlib.Data.List.Chain
import BuildExplorer.Proofs.Listing.Filtered

/-!
# Separators between lines

Blank lines of a text are not shown as they are.  Between two lines that are shown, all
blank lines together become one separator, however many lines are left out there, too.
In front of the first line that is shown, and behind the last, there is none.
-/

namespace BuildExplorer.Listing

open Text (allBlank)

/-! ## Parted lines -/

/-- Empty lines part the other lines of a listing: none stands at an end or next to
another, none knows a source line, and on all other lines there is something to be seen. -/
structure Parted (lines : List Line) : Prop where
  starts : ∀ line ∈ lines.head?, line.text ≠ ""
  ends : ∀ line ∈ lines.getLast?, line.text ≠ ""
  apart : lines.IsChain fun line next => ¬(line.text = "" ∧ next.text = "")
  sourceless : ∀ line ∈ lines, line.text = "" → line.source = none
  solid : ∀ line ∈ lines, line.text ≠ "" → line.isBlank = false

variable {line : Line} {lines : List Line}

/-- A line with something to be seen is not empty. -/
theorem text_ne_of_solid (solid : line.isBlank = false) : line.text ≠ "" := by
  intro isEmpty
  rw [Line.isBlank, isEmpty] at solid
  exact Bool.false_ne_true solid.symm

namespace Parted

theorem nil : Parted [] := by
  constructor <;> simp

/-- The order of the lines has no say. -/
theorem reverse (parted : Parted lines) : Parted lines.reverse where
  starts := by simpa using parted.ends
  ends := by simpa using parted.starts
  apart := List.isChain_reverse.mpr (parted.apart.imp fun _ _ apart both => apart both.symm)
  sourceless := by simpa using parted.sourceless
  solid := by simpa using parted.solid

/-- A line goes in front of others. -/
theorem cons (parted : Parted lines) (solid : line.isBlank = false) : Parted (line :: lines) where
  starts := by simpa using text_ne_of_solid solid
  ends := by
    cases lines with
    | nil => simpa using text_ne_of_solid solid
    | cons next rest => simpa using parted.ends
  apart := List.isChain_cons.mpr
    ⟨fun _ _ both => text_ne_of_solid solid both.1, parted.apart⟩
  sourceless := List.forall_mem_cons.mpr
    ⟨fun isEmpty => absurd isEmpty (text_ne_of_solid solid), parted.sourceless⟩
  solid := List.forall_mem_cons.mpr ⟨fun _ => solid, parted.solid⟩

/-- A line goes in front of others with a separator in between. -/
theorem cons_separator (parted : Parted lines) (nonempty : lines ≠ [])
    (solid : line.isBlank = false) : Parted (line :: .separator :: lines) where
  starts := by simpa using text_ne_of_solid solid
  ends := by
    obtain ⟨next, rest, rfl⟩ := List.exists_cons_of_ne_nil nonempty
    simpa using parted.ends
  apart := by
    refine List.isChain_cons_cons.mpr ⟨fun both => text_ne_of_solid solid both.1, ?_⟩
    exact List.isChain_cons.mpr ⟨fun next isNext both => parted.starts next isNext both.2,
      parted.apart⟩
  sourceless := List.forall_mem_cons.mpr
    ⟨fun isEmpty => absurd isEmpty (text_ne_of_solid solid),
      List.forall_mem_cons.mpr ⟨fun _ => rfl, parted.sourceless⟩⟩
  solid := List.forall_mem_cons.mpr ⟨fun _ => solid,
    List.forall_mem_cons.mpr ⟨fun notEmpty => absurd rfl notEmpty, parted.solid⟩⟩

end Parted

/-- Whatever entries follow, the lines stay parted. -/
theorem parted_separateFrom {gap : Bool} {done : List Line} {entries : List (Option Line)}
    (parted : Parted done) (solid : ∀ line, some line ∈ entries → line.isBlank = false) :
    Parted (separateFrom gap done entries) := by
  induction entries generalizing gap done with
  | nil => exact parted
  | cons entry rest inductionHypothesis =>
      have restSolid : ∀ line, some line ∈ rest → line.isBlank = false :=
        fun line member => solid line (List.mem_cons_of_mem _ member)
      cases entry with
      | none => exact inductionHypothesis parted restSolid
      | some line =>
          have lineSolid : line.isBlank = false := solid line List.mem_cons_self
          rw [separateFrom]
          split
          · rename_i isGap
            have nonempty : done ≠ [] := by
              rintro rfl
              simp at isGap
            exact inductionHypothesis (parted.cons_separator nonempty lineSolid) restSolid
          · exact inductionHypothesis (parted.cons lineSolid) restSolid

/-! ## Between two lines -/

/-- What comes behind some entries sees of them the lines and whether a gap was passed. -/
theorem separateFrom_append (gap : Bool) (done : List Line) (before : List (Option Line)) :
    ∃ gap', ∀ after, separateFrom gap done (before ++ after) =
      separateFrom gap' (separateFrom gap done before) after := by
  induction before generalizing gap done with
  | nil => exact ⟨gap, fun _ => rfl⟩
  | cons entry rest inductionHypothesis =>
      cases entry with
      | none => exact inductionHypothesis true done
      | some line => exact inductionHypothesis false _

/-- Gaps add nothing to the lines. -/
theorem separateFrom_gaps (gap : Bool) (done : List Line) (count : Nat)
    (after : List (Option Line)) :
    separateFrom gap done (List.replicate count none ++ after) =
      separateFrom (gap || count != 0) done after := by
  induction count generalizing gap with
  | zero => simp
  | succ count inductionHypothesis =>
      rw [List.replicate_succ, List.cons_append, separateFrom, inductionHypothesis]
      simp

/-- The lines so far stay as they are. -/
theorem suffix_separateFrom (gap : Bool) (done : List Line) (entries : List (Option Line)) :
    done <:+ separateFrom gap done entries := by
  induction entries generalizing gap done with
  | nil => exact List.suffix_refl _
  | cons entry rest inductionHypothesis =>
      cases entry with
      | none => exact inductionHypothesis true done
      | some line =>
          refine List.IsSuffix.trans ?_ (inductionHypothesis false _)
          refine List.IsSuffix.trans ?_ (List.suffix_cons _ _)
          split
          · exact List.suffix_cons _ _
          · exact List.suffix_refl _

/-- Between two lines stands one separator for all gaps, and none without a gap. -/
theorem separate_cut (before : List (Option Line)) (line : Line) (gaps : Nat) (next : Line)
    (after : List (Option Line)) :
    ∃ front back,
      separate (before ++ some line :: (List.replicate gaps none ++ some next :: after)) =
        front ++ line :: ((if gaps = 0 then [] else [.separator]) ++ next :: back) ∧
      solid front = solid (before.filterMap id) := by
  let done := separateFrom false [] before
  obtain ⟨gap, isCut⟩ := separateFrom_append false [] before
  let front := if gap && !done.isEmpty then Line.separator :: done else done
  let here := if gaps = 0 then line :: front else .separator :: line :: front
  have read : separateFrom false []
        (before ++ some line :: (List.replicate gaps none ++ some next :: after)) =
      separateFrom false (next :: here) after := by
    rw [isCut, separateFrom, separateFrom_gaps, separateFrom]
    by_cases noGap : gaps = 0 <;> simp [here, front, done, noGap]
  obtain ⟨later, isLater⟩ := suffix_separateFrom false (next :: here) after
  refine ⟨front.reverse, later.reverse, ?_, ?_⟩
  · rw [separate, read, ← isLater]
    by_cases noGap : gaps = 0 <;> simp [here, noGap]
  · calc
      solid front.reverse = (solid front).reverse := List.filter_reverse
      _ = (solid done).reverse := by rw [solid_separator]
      _ = solid (before.filterMap id) := by
        rw [solid_separateFrom]
        simp [solid]

/-! ## Entries of lines -/

/-- Two lines of a text, each with its position, and the lines between them. -/
theorem withPositions_cut (before : List (List Char)) (line : List Char)
    (between : List (List Char)) (next : List Char) (after : List (List Char)) :
    ∃ inner behind, inner.map (·.1) = between ∧
      withPositions (before ++ line :: (between ++ next :: after)) =
        withPositions before ++
          (line, (LineTable.empty.observeAll (before ++ [line])).position) :: (inner ++
            (next, (LineTable.empty.observeAll (before ++ line :: between ++ [next])).position) ::
              behind) := by
  obtain ⟨inner, upToNext⟩ := withPositions_append_cons before line between
  obtain ⟨behind, whole⟩ := withPositions_append_cons (before ++ line :: between) next after
  have isInner : inner.map (·.1) = between := by
    have lines := map_fst_withPositions (before ++ line :: between)
    rw [upToNext, List.map_append, map_fst_withPositions] at lines
    exact (List.cons.inj (List.append_cancel_left lines)).2
  refine ⟨inner, behind, isInner, ?_⟩
  rw [upToNext] at whole
  simpa using whole

section Entries

variable {filters : Filters} {text : List (List Char)} {original : List Char}
  {positioned : List (List Char × Option Position)}

theorem entry_of_survives (survives : Survives filters text original)
    (position : Option Position) :
    entry filters (referencedNames filters text) (original, position) =
      some (some (shown filters original position)) := by
  have notDropped : dropped filters (referencedNames filters text) original = false := by
    rw [dropped_eq_decide_leftOut, decide_eq_false survives.2]
  exact entry_eq_some_some_iff.mpr ⟨survives.1, notDropped, rfl⟩

/-- A line that does not survive leaves a gap if it is blank, and nothing otherwise. -/
theorem entry_of_not_survives (hidden : ¬Survives filters text original)
    (position : Option Position) :
    entry filters (referencedNames filters text) (original, position) =
      if allBlank original then some none else none := by
  rw [entry, dropped_eq_decide_leftOut]
  by_cases blank : allBlank original = true
  · simp [blank]
  · have leftOut : LeftOut filters text original := by
      by_contra notLeftOut
      exact hidden ⟨by simpa using blank, notLeftOut⟩
    simp [blank, leftOut]

/-- Lines that do not survive leave gaps, and as many as are blank. -/
theorem entries_of_not_survives
    (hidden : ∀ entry ∈ positioned, ¬Survives filters text entry.1) :
    positioned.filterMap (entry filters (referencedNames filters text)) =
      List.replicate (positioned.countP (allBlank ·.1)) none := by
  induction positioned with
  | nil => rfl
  | cons first rest inductionHypothesis =>
      obtain ⟨firstHidden, restHidden⟩ := List.forall_mem_cons.mp hidden
      rw [List.filterMap_cons, entry_of_not_survives firstHidden, inductionHypothesis restHidden]
      by_cases blank : allBlank first.1 = true
      · simp [blank, List.replicate_succ]
      · simp [blank]

/-- The entries of a text in which two lines survive and none between them does. -/
theorem entries_cut {before between after : List (List Char)} {line next : List Char}
    (isText : text = before ++ line :: (between ++ next :: after))
    (lineSurvives : Survives filters text line) (nextSurvives : Survives filters text next)
    (hidden : ∀ other ∈ between, ¬Survives filters text other) :
    ∃ behind, (withPositions text).filterMap (entry filters (referencedNames filters text)) =
      (withPositions before).filterMap (entry filters (referencedNames filters text)) ++
        some (shown filters line (LineTable.empty.observeAll (before ++ [line])).position) ::
          (List.replicate (between.countP allBlank) none ++
            some (shown filters next
              (LineTable.empty.observeAll (before ++ line :: between ++ [next])).position) ::
                behind) := by
  obtain ⟨inner, behind, rfl, isPositioned⟩ := withPositions_cut before line between next after
  rw [← isText] at isPositioned
  have innerHidden : ∀ entry ∈ inner, ¬Survives filters text entry.1 :=
    fun entry member => hidden entry.1 (List.mem_map.mpr ⟨entry, member, rfl⟩)
  refine ⟨behind.filterMap (entry filters (referencedNames filters text)), ?_⟩
  rw [isPositioned, List.filterMap_append,
    List.filterMap_cons_some (entry_of_survives lineSurvives _), List.filterMap_append,
    List.filterMap_cons_some (entry_of_survives nextSurvives _),
    entries_of_not_survives innerHidden, List.countP_map]
  rfl

end Entries

/-! ## The whole -/

/-- Blank lines are normalised.  Empty lines part the other lines of a listing: none is
the first or the last line or stands next to another, none knows a source line, and on
all other lines there is something to be seen.  Where two lines of the text survive, and
none between them does, they are shown one behind the other, with an empty line in between
if and only if some line of the text between them is blank.  The place where they are
shown is told by the number of lines in front of them that survive. -/
theorem ofText_normalises_blank_lines (text : String) (filters : Filters) :
    let lines := Text.lines text.toList
    Parted (ofText text filters) ∧
      ∀ before line between next after, lines = before ++ line :: (between ++ next :: after) →
        Survives filters lines line → Survives filters lines next →
          (∀ other ∈ between, ¬Survives filters lines other) →
            ∃ front back, ofText text filters =
                front ++
                  shown filters line (LineTable.empty.observeAll (before ++ [line])).position ::
                    ((if between.any allBlank then [.separator] else []) ++
                      shown filters next (LineTable.empty.observeAll
                        (before ++ line :: between ++ [next])).position :: back) ∧
              (solid front).length = (before.filter (Survives filters lines ·)).length := by
  intro lines
  constructor
  · refine (parted_separateFrom Parted.nil ?_).reverse
    intro line member
    obtain ⟨⟨original, position⟩, -, isShown⟩ := List.mem_filterMap.mp member
    obtain ⟨notBlank, -, rfl⟩ := entry_eq_some_some_iff.mp isShown
    rw [isBlank_shown, notBlank]
  · intro before line between next after isLines lineSurvives nextSurvives hidden
    obtain ⟨behind, isEntries⟩ := entries_cut isLines lineSurvives nextSurvives hidden
    obtain ⟨front, back, isCut, isFront⟩ := separate_cut _ _ (between.countP allBlank) _ behind
    rw [← isEntries] at isCut
    have anyBlank : between.any allBlank = true ↔ ¬between.countP allBlank = 0 := by
      simp [List.countP_eq_zero]
    refine ⟨front, back, ?shown, ?place⟩
    case shown =>
        simp only [anyBlank, ite_not]
        exact isCut
    case place =>
        rw [isFront, solid_entries, List.length_map]
        exact length_filter_withPositions (Survives filters lines ·) before

/-- Blank lines around a line that is left out become one separator. -/
example : (ofText "\n f:\n \n# note\n\t\n\tret\n\n" { commentOnly := true }).map (·.text) =
    [" f:", "", "\tret"] := by
  decide +kernel

end BuildExplorer.Listing
