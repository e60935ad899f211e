import BuildExplorer.Proofs.Text.Trimmed

/-!
# Runs between separators

Words and names are read off a text in the same way: the text is cut at the
characters that separate, and empty pieces are passed over.  What is left are the
maximal runs of the other characters.  Everything about them follows from one
equation: a text with a separator in it has the runs in front of the separator
and those behind it.
-/

namespace BuildExplorer.Text

/-- The maximal runs of characters that do not separate, in order. -/
def runs (separates : Char → Bool) (text : List Char) : List (List Char) :=
  (text.splitOnP separates).filter (!·.isEmpty)

theorem words_eq_runs (text : List Char) : words text = runs isBlank text :=
  rfl

variable {separates : Char → Bool}

/-! ## Where runs come from -/

@[simp]
theorem runs_nil : runs separates [] = [] := by
  simp [runs]

/-- A separator parts the runs in front of it from those behind it. -/
theorem runs_append_cons {separator : Char} (isSeparator : separates separator = true)
    (front back : List Char) :
    runs separates (front ++ separator :: back) = runs separates front ++ runs separates back := by
  rw [runs, List.splitOnP_append_cons front back isSeparator, List.filter_append]
  rfl

theorem runs_cons {separator : Char} (isSeparator : separates separator = true)
    (text : List Char) : runs separates (separator :: text) = runs separates text := by
  simpa using runs_append_cons isSeparator [] text

/-- A text without separators is one run. -/
theorem runs_eq_singleton {run : List Char} (nonempty : run ≠ [])
    (whole : ∀ char ∈ run, separates char = false) : runs separates run = [run] := by
  rw [runs, List.splitOnP_eq_singleton whole]
  simp [nonempty]

/-- Separators in front of a text say nothing. -/
theorem runs_append_of_separators {skipped : List Char}
    (separators : ∀ char ∈ skipped, separates char = true) (text : List Char) :
    runs separates (skipped ++ text) = runs separates text := by
  induction skipped with
  | nil => rfl
  | cons char skipped inductionHypothesis =>
      rw [List.cons_append, runs_cons (separators char List.mem_cons_self)]
      exact inductionHypothesis fun char member => separators char (List.mem_cons_of_mem _ member)

theorem runs_eq_nil_of_separators {text : List Char}
    (separators : ∀ char ∈ text, separates char = true) : runs separates text = [] := by
  simpa using runs_append_of_separators separators []

/-- A run at the start of a text is its first one. -/
theorem runs_append_of_run {run after : List Char} (nonempty : run ≠ [])
    (whole : ∀ char ∈ run, separates char = false)
    (ends : ∀ char ∈ after.head?, separates char = true) :
    runs separates (run ++ after) = run :: runs separates after := by
  cases after with
  | nil => rw [List.append_nil, runs_eq_singleton nonempty whole, runs_nil]
  | cons separator after =>
      have isSeparator : separates separator = true := ends separator rfl
      rw [runs_append_cons isSeparator, runs_eq_singleton nonempty whole, runs_cons isSeparator]
      rfl

/-! ## Where a run stands -/

/-- A run that stands between two parts of a text: it holds no separator, and
what touches it separates. -/
structure StandsBetween (separates : Char → Bool) (before run after : List Char) : Prop where
  nonempty : run ≠ []
  whole : ∀ char ∈ run, separates char = false
  starts : ∀ char ∈ before.getLast?, separates char = true
  ends : ∀ char ∈ after.head?, separates char = true

/-- The runs around one that stands in a text. -/
theorem StandsBetween.runs_eq {before run after : List Char}
    (stands : StandsBetween separates before run after) :
    runs separates (before ++ run ++ after) =
      runs separates before ++ run :: runs separates after := by
  rw [List.append_assoc]
  rcases List.eq_nil_or_concat before with rfl | ⟨front, separator, rfl⟩
  · simpa using runs_append_of_run stands.nonempty stands.whole stands.ends
  · have isSeparator : separates separator = true := stands.starts separator (by simp)
    rw [List.concat_eq_append, List.append_assoc, List.singleton_append,
      runs_append_cons isSeparator, runs_append_of_run stands.nonempty stands.whole stands.ends,
      runs_append_cons isSeparator, runs_nil, List.append_nil]

/-- A text is cut where a property first fails. -/
theorem exists_cut (holds : Char → Bool) (text : List Char) :
    ∃ front back, text = front ++ back ∧ (∀ char ∈ front, holds char = true) ∧
      ∀ char ∈ back.head?, holds char = false := by
  have cuts := cutsAt_takeWhile holds text
  exact ⟨text.takeWhile holds, text.dropWhile holds, List.takeWhile_append_dropWhile.symm,
    cuts.whole, cuts.ends⟩

/-- A text that does not consist of separators has a first run. -/
theorem separators_or_exists_run (text : List Char) :
    (∀ char ∈ text, separates char = true) ∨
      ∃ skipped run after, text = skipped ++ run ++ after ∧
        (∀ char ∈ skipped, separates char = true) ∧
        StandsBetween separates skipped run after := by
  obtain ⟨skipped, body, rfl, separators, start⟩ := exists_cut separates text
  obtain ⟨run, after, rfl, whole, ends⟩ := exists_cut (!separates ·) body
  by_cases empty : run = []
  · subst empty
    left
    cases after with
    | nil => simpa using separators
    | cons char after => simpa [start char rfl] using ends char rfl
  · right
    refine ⟨skipped, run, after, (List.append_assoc _ _ _).symm, separators, empty, ?_, ?_, ?_⟩
    · simpa using whole
    · exact fun char isLast => separators char (List.mem_of_getLast? isLast)
    · simpa using ends

/-- A text has no runs exactly if all of it separates. -/
theorem runs_eq_nil_iff {text : List Char} :
    runs separates text = [] ↔ ∀ char ∈ text, separates char = true := by
  constructor
  · intro noRun
    rcases separators_or_exists_run text with separators | ⟨skipped, run, after, rfl, -, stands⟩
    · exact separators
    · rw [stands.runs_eq] at noRun
      simp at noRun
  · exact runs_eq_nil_of_separators

/-- The first run of a text stands behind nothing but separators. -/
theorem runs_eq_cons_iff {text run : List Char} {others : List (List Char)} :
    runs separates text = run :: others ↔
      ∃ skipped after, text = skipped ++ run ++ after ∧
        (∀ char ∈ skipped, separates char = true) ∧
        StandsBetween separates skipped run after ∧ runs separates after = others := by
  constructor
  · intro first
    rcases separators_or_exists_run text with
      separators | ⟨skipped, word, after, rfl, separators, stands⟩
    · rw [runs_eq_nil_of_separators separators] at first
      exact nomatch first
    · rw [stands.runs_eq, runs_eq_nil_of_separators separators, List.nil_append] at first
      obtain ⟨rfl, rfl⟩ := List.cons.inj first
      exact ⟨skipped, after, rfl, separators, stands, rfl⟩
  · rintro ⟨skipped, after, rfl, separators, stands, rfl⟩
    rw [stands.runs_eq, runs_eq_nil_of_separators separators]
    rfl

/-- A run is found exactly where it stands; those in front of it are the runs of
the text in front of it. -/
theorem runs_eq_append_cons_iff {text run : List Char} {earlier others : List (List Char)} :
    runs separates text = earlier ++ run :: others ↔
      ∃ before after, text = before ++ run ++ after ∧ StandsBetween separates before run after ∧
        runs separates before = earlier ∧ runs separates after = others := by
  constructor
  · intro found
    induction earlier generalizing text with
    | nil =>
        obtain ⟨skipped, after, isText, separators, stands, isRest⟩ := runs_eq_cons_iff.mp found
        exact ⟨skipped, after, isText, stands, runs_eq_nil_of_separators separators, isRest⟩
    | cons first earlier inductionHypothesis =>
        obtain ⟨skipped, rest, rfl, separators, stands, isRest⟩ := runs_eq_cons_iff.mp found
        obtain ⟨before, after, rfl, later, isEarlier, isOthers⟩ := inductionHypothesis isRest
        have parted : before ≠ [] := by
          rintro rfl
          obtain ⟨char, run, rfl⟩ := List.exists_cons_of_ne_nil later.nonempty
          have separator := stands.ends char rfl
          rw [later.whole char List.mem_cons_self] at separator
          exact Bool.false_ne_true separator
        have ends : ∀ char ∈ before.head?, separates char = true := by
          intro char isHead
          refine stands.ends char ?_
          obtain ⟨head, tail, rfl⟩ := List.exists_cons_of_ne_nil parted
          exact isHead
        refine ⟨skipped ++ first ++ before, after, by simp, ⟨later.nonempty, later.whole, ?_,
          later.ends⟩, ?_, isOthers⟩
        · intro char isLast
          refine later.starts char ?_
          rwa [List.getLast?_append, List.getLast?_eq_some_getLast parted, Option.some_or,
            ← List.getLast?_eq_some_getLast parted] at isLast
        · rw [StandsBetween.runs_eq ⟨stands.nonempty, stands.whole, stands.starts, ends⟩,
            runs_eq_nil_of_separators separators, isEarlier]
          rfl
  · rintro ⟨before, after, rfl, stands, rfl, rfl⟩
    exact stands.runs_eq

/-- A run is a part of the text that holds no separator. -/
theorem mem_runs {text run : List Char} (member : run ∈ runs separates text) :
    run ≠ [] ∧ ∀ char ∈ run, separates char = false := by
  obtain ⟨earlier, others, isRuns⟩ := List.append_of_mem member
  obtain ⟨before, after, -, stands, -⟩ := runs_eq_append_cons_iff.mp isRuns
  exact ⟨stands.nonempty, stands.whole⟩

/-- The runs behind the first are those with another character in front of them
that does not separate. -/
theorem mem_drop_runs_iff {text run : List Char} :
    run ∈ (runs separates text).drop 1 ↔
      ∃ before after, text = before ++ run ++ after ∧ StandsBetween separates before run after ∧
        ∃ char ∈ before, separates char = false := by
  have notFirst : ∀ before : List Char, runs separates before ≠ [] ↔
      ∃ char ∈ before, separates char = false := by
    intro before
    rw [ne_eq, runs_eq_nil_iff]
    simp
  constructor
  · intro member
    obtain ⟨first, rest, isRuns⟩ : ∃ first rest, runs separates text = first :: rest := by
      cases isRuns : runs separates text with
      | nil => simp [isRuns] at member
      | cons first rest => exact ⟨first, rest, rfl⟩
    rw [isRuns, List.drop_one, List.tail_cons] at member
    obtain ⟨earlier, others, rfl⟩ := List.append_of_mem member
    have atRun : runs separates text = (first :: earlier) ++ run :: others := isRuns
    obtain ⟨before, after, rfl, stands, isEarlier, -⟩ := runs_eq_append_cons_iff.mp atRun
    refine ⟨before, after, rfl, stands, (notFirst before).mp ?_⟩
    rw [isEarlier]
    exact List.cons_ne_nil _ _
  · rintro ⟨before, after, rfl, stands, another⟩
    rw [stands.runs_eq]
    obtain ⟨first, earlier, isRuns⟩ := List.exists_cons_of_ne_nil ((notFirst before).mpr another)
    rw [isRuns]
    simp

/-! ## Runs that are joined -/

/-- A joined text holds the separator and what its parts hold. -/
theorem mem_intercalate {separator char : Char} {parts : List (List Char)}
    (member : char ∈ [separator].intercalate parts) :
    char = separator ∨ ∃ part ∈ parts, char ∈ part := by
  induction parts with
  | nil => simp at member
  | cons first parts inductionHypothesis =>
      cases parts with
      | nil => exact .inr ⟨first, List.mem_singleton_self first, by simpa using member⟩
      | cons second parts =>
          rw [List.intercalate_cons_cons, List.append_assoc, List.singleton_append] at member
          rcases List.mem_append.mp member with inFirst | isSeparator | behind
          · exact .inr ⟨first, List.mem_cons_self, inFirst⟩
          · exact .inl rfl
          · rename_i behind
            refine (inductionHypothesis behind).imp_right ?_
            rintro ⟨part, isPart, inPart⟩
            exact ⟨part, List.mem_cons_of_mem _ isPart, inPart⟩

/-- The runs of texts that are joined by a separator are those of each text. -/
theorem runs_intercalate_eq_flatMap {separator : Char} (isSeparator : separates separator = true)
    (texts : List (List Char)) :
    runs separates ([separator].intercalate texts) = texts.flatMap (runs separates) := by
  induction texts with
  | nil => simp
  | cons first texts inductionHypothesis =>
      cases texts with
      | nil => simp
      | cons second texts =>
          rw [List.intercalate_cons_cons, List.append_assoc, List.singleton_append,
            runs_append_cons isSeparator, inductionHypothesis]
          rfl

/-- Runs that are joined by a separator are found again. -/
theorem runs_intercalate {separator : Char} (isSeparator : separates separator = true)
    {pieces : List (List Char)}
    (areRuns : ∀ piece ∈ pieces, piece ≠ [] ∧ ∀ char ∈ piece, separates char = false) :
    runs separates ([separator].intercalate pieces) = pieces := by
  rw [runs_intercalate_eq_flatMap isSeparator]
  induction pieces with
  | nil => rfl
  | cons first pieces inductionHypothesis =>
      obtain ⟨nonempty, whole⟩ := areRuns first List.mem_cons_self
      rw [List.flatMap_cons, runs_eq_singleton nonempty whole,
        inductionHypothesis fun piece member => areRuns piece (List.mem_cons_of_mem _ member)]
      rfl

/-- Separators behind a text say nothing. -/
theorem runs_append_separators (text : List Char) {skipped : List Char}
    (separators : ∀ char ∈ skipped, separates char = true) :
    runs separates (text ++ skipped) = runs separates text := by
  cases skipped with
  | nil => rw [List.append_nil]
  | cons separator skipped =>
      rw [runs_append_cons (separators separator List.mem_cons_self),
        runs_eq_nil_of_separators fun char member =>
          separators char (List.mem_cons_of_mem _ member),
        List.append_nil]

/-! ## Words -/

/-- Blanks in front of a text say nothing. -/
theorem words_trimStart (text : List Char) : words (trimStart text) = words text := by
  have parts : text.takeWhile isBlank ++ trimStart text = text :=
    List.takeWhile_append_dropWhile
  calc
    words (trimStart text) = words (text.takeWhile isBlank ++ trimStart text) :=
      (runs_append_of_separators (fun char member => List.mem_takeWhile_imp member) _).symm
    _ = words text := congrArg words parts

/-- Blanks behind a text say nothing. -/
theorem words_trimEnd (text : List Char) : words (trimEnd text) = words text := by
  have parts : trimEnd text ++ (text.reverse.takeWhile isBlank).reverse = text := by
    rw [trimEnd, ← List.reverse_append, List.takeWhile_append_dropWhile, List.reverse_reverse]
  calc
    words (trimEnd text) = words (trimEnd text ++ (text.reverse.takeWhile isBlank).reverse) :=
      (runs_append_separators _ fun char member =>
        List.mem_takeWhile_imp (List.mem_reverse.mp member)).symm
    _ = words text := congrArg words parts

/-- A text has the words that it has without the blanks around it. -/
theorem words_trim (text : List Char) : words (trim text) = words text := by
  rw [trim, words_trimEnd, words_trimStart]

/-- What a line begins with behind its blanks is the beginning of its first word, if there
is no blank in it. -/
theorem prefix_trimStart_iff {front line : List Char} (nonempty : front ≠ [])
    (solid : ∀ char ∈ front, isBlank char = false) :
    front <+: trimStart line ↔ ∃ glued others, words line = (front ++ glued) :: others := by
  constructor
  · rintro ⟨rest, isLine⟩
    obtain ⟨glued, after, rfl, gluedSolid, ends⟩ := exists_cut (!isBlank ·) rest
    have whole : ∀ char ∈ front ++ glued, isBlank char = false := by
      refine List.forall_mem_append.mpr ⟨solid, ?_⟩
      simpa using gluedSolid
    refine ⟨glued, words after, ?_⟩
    rw [← words_trimStart, ← isLine, ← List.append_assoc]
    refine runs_append_of_run (List.append_ne_nil_of_left_ne_nil nonempty _) whole ?_
    simpa using ends
  · rintro ⟨glued, others, isWords⟩
    obtain ⟨skipped, after, rfl, blanks, stands, -⟩ := runs_eq_cons_iff.mp isWords
    obtain ⟨first, front, rfl⟩ := List.exists_cons_of_ne_nil nonempty
    have cuts : CutsAt isBlank skipped (first :: front ++ glued ++ after) := by
      refine ⟨blanks, fun char isHead => ?_⟩
      obtain rfl := Option.some.inj isHead
      exact solid _ List.mem_cons_self
    rw [List.append_assoc skipped, trimStart, cuts.dropWhile_eq, List.append_assoc]
    exact List.prefix_append _ _

/-- One more character in front of a text adds to its words at the front. -/
theorem joined_words_cons_suffix (char : Char) (text : List Char) :
    [' '].intercalate (words text) <:+ [' '].intercalate (words (char :: text)) := by
  by_cases blank : isBlank char = true
  · rw [words_eq_runs (char :: text), runs_cons blank]
    exact List.suffix_refl _
  · obtain ⟨word, after, rfl, solid, ends⟩ := exists_cut (!isBlank ·) text
    have whole : ∀ other ∈ word, isBlank other = false := by simpa using solid
    have ends : ∀ other ∈ after.head?, isBlank other = true := by simpa using ends
    have longer : words (char :: (word ++ after)) = (char :: word) :: words after := by
      refine runs_append_of_run (List.cons_ne_nil char word) ?_ ends
      exact List.forall_mem_cons.mpr ⟨by simpa using blank, whole⟩
    have joins : ∀ front : List Char, [' '].intercalate (front :: words after) =
        front ++ if words after = [] then [] else ' ' :: [' '].intercalate (words after) := by
      intro front
      cases words after with
      | nil => simp
      | cons second rest => rw [List.intercalate_cons_cons]; simp
    rw [longer, joins]
    by_cases empty : word = []
    · subst empty
      rw [List.nil_append]
      split
      · rename_i none
        rw [none]
        exact List.nil_suffix
      · exact ⟨[char, ' '], by simp⟩
    · have shorter : words (word ++ after) = word :: words after :=
        runs_append_of_run empty whole ends
      rw [shorter, joins, List.cons_append]
      exact List.suffix_cons _ _

/-- The joined words of the end of a text end those of the text. -/
theorem joined_words_suffix {text rest : List Char} (suffix : rest <:+ text) :
    [' '].intercalate (words rest) <:+ [' '].intercalate (words text) := by
  obtain ⟨front, rfl⟩ := suffix
  induction front with
  | nil => exact List.suffix_refl _
  | cons char front inductionHypothesis =>
      exact inductionHypothesis.trans (joined_words_cons_suffix char (front ++ rest))

end BuildExplorer.Text
