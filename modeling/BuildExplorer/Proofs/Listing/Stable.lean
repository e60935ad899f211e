import BuildExplorer.Proofs.Listing.Separated
import BuildExplorer.Proofs.Text.Lines

/-!
# Trimmed listings are stable

What kind of line a line is, is told by its words, which squashing its blanks leaves alone.
So a line that is shown squashed is shown again when the listing is read again, and it is
shown as it is, for it is squashed already.  Its separators are stable, too: a listing that
is parted by empty lines has a gap wherever it has a separator, and nowhere else.
-/

namespace BuildExplorer.Listing

open Text (isBlank trimStart words allBlank)

/-! ## Kinds of lines -/

/-- What comments begin with. -/
def commentMarks : List (List Char) :=
  [['#'], [';'], ['@'], ['/', '/']]

theorem isCommentOnly_iff {line : List Char} :
    isCommentOnly line = true ↔ ∃ mark ∈ commentMarks, mark <+: trimStart line := by
  unfold isCommentOnly commentMarks
  rcases trimStart line with _ | ⟨first, _ | ⟨second, rest⟩⟩
  · simp
  · simp only [List.mem_cons]
    split <;> simp_all [eq_comm]
  · simp only [List.mem_cons]
    split <;> simp_all [eq_comm]

theorem isDirective_iff {line : List Char} :
    isDirective line = true ↔
      ∃ char, (char.isAlpha || char == '_') = true ∧ ['.', char] <+: trimStart line := by
  unfold isDirective
  split
  · rename_i char rest body
    simp [body]
  · rename_i body
    simp only [Bool.false_eq_true, false_iff, not_exists, not_and]
    rintro char - ⟨rest, isBody⟩
    exact body char rest isBody.symm

section Kinds

variable {line other : List Char}

/-- Lines with the same words begin with the same, as far as there is no blank in it. -/
theorem prefix_trimStart_congr (same : words line = words other) {front : List Char}
    (nonempty : front ≠ []) (solid : ∀ char ∈ front, isBlank char = false) :
    front <+: trimStart line ↔ front <+: trimStart other := by
  rw [Text.prefix_trimStart_iff nonempty solid, Text.prefix_trimStart_iff nonempty solid, same]

theorem isCommentOnly_congr (same : words line = words other) :
    isCommentOnly line = isCommentOnly other := by
  have solid : ∀ mark ∈ commentMarks, mark ≠ [] ∧ ∀ char ∈ mark, isBlank char = false := by
    simp only [commentMarks, List.forall_mem_cons, List.not_mem_nil, false_implies, implies_true]
    decide
  rw [Bool.eq_iff_iff, isCommentOnly_iff, isCommentOnly_iff]
  refine exists_congr fun mark => and_congr_right fun isMark => ?_
  exact prefix_trimStart_congr same (solid mark isMark).1 (solid mark isMark).2

theorem isDirective_congr (same : words line = words other) :
    isDirective line = isDirective other := by
  rw [Bool.eq_iff_iff, isDirective_iff, isDirective_iff]
  refine exists_congr fun char => and_congr_right fun isStart => ?_
  have solid : isBlank char = false := by
    rcases Bool.or_eq_true_iff.mp isStart with isLetter | isUnderscore
    · exact Text.isBlank_of_isAlpha isLetter
    · rw [beq_iff_eq.mp isUnderscore]
      decide
  refine prefix_trimStart_congr same (List.cons_ne_nil _ _) ?_
  simpa using ⟨(by decide : isBlank '.' = false), solid⟩

/-- Lines with the same words define the same label, if any. -/
theorem defines_congr (same : words line = words other) {name : List Char} :
    (∃ rest, labelDefinition? line = some (name, rest)) ↔
      ∃ rest, labelDefinition? other = some (name, rest) := by
  rw [defines_iff_words, defines_iff_words, same]

theorem definesLabel_congr (same : words line = words other) :
    definesLabel line = definesLabel other := by
  rw [Bool.eq_iff_iff]
  simp only [definesLabel, Option.isSome_iff_exists, Prod.exists, defines_congr same]

/-- Whether a line is left out is told by its words. -/
theorem LeftOut.of_words_eq {filters : Filters} {lines : List (List Char)}
    (leftOut : LeftOut filters lines line) (same : words line = words other) :
    LeftOut filters lines other := by
  cases leftOut with
  | label filtered defines unused =>
      obtain ⟨rest, otherDefines⟩ := (defines_congr same).mp ⟨_, defines⟩
      exact .label filtered otherDefines unused
  | comment filtered isComment => exact .comment filtered (isCommentOnly_congr same ▸ isComment)
  | directive filtered noLabel directive =>
      exact .directive filtered (definesLabel_congr same ▸ noLabel)
        (isDirective_congr same ▸ directive)

/-- Only the filter for labels looks at other lines. -/
theorem LeftOut.of_noLabels {filters : Filters} {lines : List (List Char)}
    (leftOut : LeftOut filters lines line) (noLabels : filters.labels = false)
    (otherLines : List (List Char)) : LeftOut filters otherLines line := by
  cases leftOut with
  | label filtered defines unused => exact absurd filtered (by simp [noLabels])
  | comment filtered isComment => exact .comment filtered isComment
  | directive filtered noLabel directive => exact .directive filtered noLabel directive

end Kinds

/-! ## Squashed lines -/

/-- Does a line begin with a blank? -/
def isIndented (line : List Char) : Bool :=
  line.head?.any isBlank

theorem squash_eq (line : List Char) :
    squash line =
      (if isIndented line then [' ', ' '] else []) ++ [' '].intercalate (words line) := by
  cases line with
  | nil => rfl
  | cons first rest =>
      by_cases blank : isBlank first = true <;> simp [squash, isIndented, blank]

/-- The first character of joined words is one of a word. -/
theorem isIndented_joined (line : List Char) :
    isIndented ([' '].intercalate (words line)) = false := by
  rcases isWords : words line with _ | ⟨word, others⟩
  · rfl
  · obtain ⟨nonempty, whole⟩ := Text.mem_runs (isWords ▸ List.mem_cons_self : word ∈ words line)
    obtain ⟨first, rest, rfl⟩ := List.exists_cons_of_ne_nil nonempty
    have solid : isBlank first = false := whole first List.mem_cons_self
    cases others <;> simp [isIndented, List.intercalate_cons_cons, solid]

theorem isIndented_squash (line : List Char) : isIndented (squash line) = isIndented line := by
  rw [squash_eq]
  by_cases indented : isIndented line = true
  · rw [if_pos indented, indented]
    rfl
  · rw [if_neg indented, List.nil_append, isIndented_joined]
    simpa using indented

/-- A line that is squashed already stays as it is. -/
theorem squash_squash (line : List Char) : squash (squash line) = squash line := by
  rw [squash_eq (squash line), isIndented_squash, words_squash, ← squash_eq]

/-- The only blanks on a squashed line are spaces. -/
theorem mem_squash {line : List Char} {char : Char} (member : char ∈ squash line) :
    char = ' ' ∨ isBlank char = false := by
  rw [squash_eq, List.mem_append] at member
  rcases member with inIndent | inWords
  · left
    split at inIndent <;> simp at inIndent
    exact inIndent
  · refine (Text.mem_intercalate inWords).imp_right ?_
    rintro ⟨word, isWord, inWord⟩
    exact (Text.mem_runs isWord).2 char inWord

/-! ## Lines that are read again -/

/-- A line without its position. -/
def Line.unplaced (line : Line) : Line :=
  { line with source := none }

/-- What the line of a listing becomes when its text is read again: an empty line is a gap. -/
def Line.entryAgain (line : Line) : Option Line :=
  if line.text = "" then none else some line

theorem separateFrom_map {change : Line → Line} (keeps : change .separator = .separator)
    (gap : Bool) (done : List Line) (entries : List (Option Line)) :
    separateFrom gap (done.map change) (entries.map (Option.map change)) =
      (separateFrom gap done entries).map change := by
  induction entries generalizing gap done with
  | nil => rfl
  | cons entry rest inductionHypothesis =>
      cases entry with
      | none => exact inductionHypothesis true done
      | some line =>
          rw [List.map_cons, Option.map_some, separateFrom, separateFrom, List.isEmpty_map,
            ← inductionHypothesis]
          split <;> simp [keeps]

/-- Separators go between lines whatever is on them. -/
theorem separate_map {change : Line → Line} (keeps : change .separator = .separator)
    (entries : List (Option Line)) :
    separate (entries.map (Option.map change)) = (separate entries).map change := by
  have mapped := separateFrom_map keeps false [] entries
  rw [List.map_nil] at mapped
  rw [separate, separate, mapped, List.map_reverse]

/-- Lines that are read again come back as they are, behind a separator if there was a gap.
The first of them is not empty where an empty line would be lost: behind a gap and at the
start. -/
theorem separateFrom_entryAgain {gap : Bool} {done lines : List Line}
    (ends : ∀ line ∈ lines.getLast?, line.text ≠ "")
    (apart : lines.IsChain fun line next => ¬(line.text = "" ∧ next.text = ""))
    (sourceless : ∀ line ∈ lines, line.text = "" → line.source = none)
    (starts : gap = true ∨ done = [] → ∀ line ∈ lines.head?, line.text ≠ "") :
    separateFrom gap done (lines.map Line.entryAgain) =
      lines.reverse ++
        if gap && !done.isEmpty && !lines.isEmpty then .separator :: done else done := by
  induction lines generalizing gap done with
  | nil => simp [separateFrom]
  | cons line rest inductionHypothesis =>
      have restEnds : ∀ line ∈ rest.getLast?, line.text ≠ "" := by
        intro last isLast
        refine ends last ?_
        rw [List.getLast?_cons, Option.mem_def.mp isLast]
        rfl
      have restSourceless := (List.forall_mem_cons.mp sourceless).2
      by_cases empty : line.text = ""
      -- The gap that an empty line leaves puts it back in front of the next line.
      · have behindLine : gap = false ∧ done ≠ [] := by
          have notFirst : ¬(gap = true ∨ done = []) := fun first => starts first line rfl empty
          simpa using notFirst
        obtain ⟨rfl, nonempty⟩ := behindLine
        have isSeparator : line = .separator := by
          have noSource := sourceless line List.mem_cons_self empty
          cases line
          cases empty
          cases noSource
          rfl
        have inFront : rest ≠ [] := by
          rintro rfl
          exact ends line rfl empty
        have restStarts : ∀ next ∈ rest.head?, next.text ≠ "" := fun next isNext isEmpty =>
          (List.isChain_cons.mp apart).1 next isNext ⟨empty, isEmpty⟩
        rw [List.map_cons, Line.entryAgain, if_pos empty, separateFrom,
          inductionHypothesis restEnds apart.tail restSourceless fun _ => restStarts]
        simp [nonempty, inFront, isSeparator]
      · rw [List.map_cons, Line.entryAgain, if_neg empty, separateFrom,
          inductionHypothesis restEnds apart.tail restSourceless (by simp)]
        cases gap <;> cases done <;> simp

/-- Parted lines are stable. -/
theorem Parted.separate_entryAgain {lines : List Line} (parted : Parted lines) :
    separate (lines.map Line.entryAgain) = lines := by
  rw [separate, separateFrom_entryAgain parted.ends parted.apart parted.sourceless
    fun _ => parted.starts]
  simp

/-! ## Listings that are read again -/

/-- Empty lines part the lines of a listing. -/
theorem parted_ofText (text : String) (filters : Filters) : Parted (ofText text filters) := by
  refine (parted_separateFrom Parted.nil fun line member => ?_).reverse
  obtain ⟨⟨original, position⟩, -, isShown⟩ := List.mem_filterMap.mp member
  obtain ⟨notBlank, -, rfl⟩ := entry_eq_some_some_iff.mp isShown
  rw [isBlank_shown, notBlank]

section Again

variable {text : String} {filters : Filters} {listing : List Line}

/-- On a line of a trimmed listing there is nothing, or a squashed line that survives. -/
theorem text_of_mem_ofText (trim : filters.trim = true) {line : Line}
    (member : line ∈ ofText text filters) :
    line.text = "" ∨ ∃ original, Survives filters (Text.lines text.toList) original ∧
      line.text.toList = squash original := by
  by_cases isSeparator : line = .separator
  · left
    rw [isSeparator]
    rfl
  · right
    obtain ⟨original, position, -, solid, kept, rfl⟩ := (mem_ofText_iff isSeparator _ _).mp member
    rw [dropped_eq_decide_leftOut, decide_eq_false_iff_not] at kept
    exact ⟨original, ⟨solid, kept⟩, by simp [shown, trim]⟩

/-- The lines of a listing are found again in its text, if no line ends inside of them. -/
theorem lines_of_listing (parted : Parted listing)
    (oneLine : ∀ line ∈ listing, ∀ char ∈ line.text.toList, char = ' ' ∨ isBlank char = false) :
    Text.lines ("\n".intercalate (listing.map (·.text))).toList =
      listing.map (·.text.toList) := by
  have noFeed : ∀ piece ∈ listing.map (·.text.toList), '\n' ∉ piece := by
    refine List.forall_mem_map.mpr fun line member isFeed => ?_
    exact absurd (oneLine line member '\n' isFeed) (by decide)
  have noReturn : ∀ piece ∈ listing.map (·.text.toList), piece.getLast? ≠ some '\r' := by
    refine List.forall_mem_map.mpr fun line member isReturn => ?_
    exact absurd (oneLine line member '\r' (List.mem_of_getLast? isReturn)) (by decide)
  have ends : ∀ piece ∈ (listing.map (·.text.toList)).getLast?, piece ≠ [] := by
    intro piece isLast
    rw [List.getLast?_map] at isLast
    obtain ⟨line, isLine, rfl⟩ := Option.map_eq_some_iff.mp isLast
    simpa using parted.ends line isLine
  have found := Text.linesOfPieces_append noReturn ends []
  rw [List.append_nil, Text.linesOfPieces_nil, List.append_nil] at found
  calc
    Text.lines ("\n".intercalate (listing.map (·.text))).toList =
        Text.lines (['\n'].intercalate (listing.map (·.text.toList))) := by
      rw [String.toList_intercalate, List.map_map]
      rfl
    _ = listing.map (·.text.toList) := by rw [Text.lines_intercalate noFeed, found]

/-- A line of a listing stays as it is when the listing is read again: it is empty, or it
survives and is squashed already. -/
def StaysIn (filters : Filters) (lines : List (List Char)) (line : List Char) : Prop :=
  line = [] ∨ Survives filters lines line ∧ squash line = line

/-- The entry of a line that stays, up to its position. -/
theorem entry_of_staysIn {lines : List (List Char)} {line : List Char} (trim : filters.trim = true)
    (stays : StaysIn filters lines line) (position : Option Position) :
    (entry filters (referencedNames filters lines) (line, position)).map
        (Option.map Line.unplaced) =
      some (if line = [] then none else some ⟨String.ofList line, none⟩) := by
  rcases stays with rfl | ⟨survives, squashed⟩
  · rfl
  · have nonempty : line ≠ [] := by
      rintro rfl
      exact absurd survives.1 (by decide)
    rw [entry_of_survives survives, if_neg nonempty]
    simp [shown, Line.unplaced, trim, squashed]

/-- A listing whose lines stay is read again as it is, up to positions. -/
theorem separate_entries_again (trim : filters.trim = true) (parted : Parted listing)
    (stay : ∀ line ∈ listing, StaysIn filters (listing.map (·.text.toList)) line.text.toList) :
    (separate ((withPositions (listing.map (·.text.toList))).filterMap (entry filters
        (referencedNames filters (listing.map (·.text.toList)))))).map Line.unplaced =
      listing.map Line.unplaced := by
  let lines := listing.map (·.text.toList)
  let entryOf (line : List Char) : Option Line :=
    if line = [] then none else some ⟨String.ofList line, none⟩
  have read : ((withPositions lines).filterMap
        (entry filters (referencedNames filters lines))).map (Option.map Line.unplaced) =
      (listing.map Line.entryAgain).map (Option.map Line.unplaced) := by
    calc
      _ = (withPositions lines).filterMap (some ∘ (entryOf ·.1)) := by
        rw [List.map_filterMap]
        refine List.filterMap_congr fun positioned member => ?_
        have isLine : positioned.1 ∈ lines := by
          rw [← map_fst_withPositions lines]
          exact List.mem_map_of_mem member
        obtain ⟨line, inListing, isText⟩ := List.mem_map.mp isLine
        exact entry_of_staysIn trim (isText ▸ stay line inListing) positioned.2
      _ = ((withPositions lines).map (·.1)).map entryOf := by
        rw [List.filterMap_eq_map, List.map_map]
        rfl
      _ = (listing.map Line.entryAgain).map (Option.map Line.unplaced) := by
        rw [map_fst_withPositions, List.map_map, List.map_map]
        refine List.map_congr_left fun line _ => ?_
        by_cases empty : line.text = "" <;>
          simp [entryOf, Line.entryAgain, Line.unplaced, empty]
  rw [← separate_map rfl, read, separate_map rfl, parted.separate_entryAgain]

end Again

/-! ## The whole -/

/-- With blanks squashed, and with no regard to labels, a listing is stable.  Its lines are
found again in its text, and from these the filters make the same lines. -/
theorem trimmed_listing_is_stable {text : String} {filters : Filters} (trim : filters.trim = true)
    (noLabels : filters.labels = false) :
    let texts := (ofText text filters).map (·.text)
    Text.lines ("\n".intercalate texts).toList = texts.map String.toList ∧
      (ofText ("\n".intercalate texts) filters).map (·.text) = texts := by
  intro texts
  let listing := ofText text filters
  have parted : Parted listing := parted_ofText text filters
  have oneLine : ∀ line ∈ listing, ∀ char ∈ line.text.toList,
      char = ' ' ∨ isBlank char = false := by
    intro line member char inText
    rcases text_of_mem_ofText trim member with empty | ⟨original, -, isSquashed⟩
    · simp [empty] at inText
    · exact mem_squash (isSquashed ▸ inText)
  have found : Text.lines ("\n".intercalate texts).toList = listing.map (·.text.toList) :=
    lines_of_listing parted oneLine
  have stay : ∀ line ∈ listing,
      StaysIn filters (listing.map (·.text.toList)) line.text.toList := by
    intro line member
    rcases text_of_mem_ofText trim member with empty | ⟨original, ⟨solid, kept⟩, isSquashed⟩
    · exact .inl (by simp [empty])
    · right
      rw [isSquashed]
      refine ⟨⟨by rw [allBlank_squash, solid], fun leftOut => kept ?_⟩, squash_squash original⟩
      exact (leftOut.of_words_eq (words_squash original)).of_noLabels noLabels _
  constructor
  · rw [found, List.map_map]
    rfl
  · have again : (ofText ("\n".intercalate texts) filters).map Line.unplaced =
        listing.map Line.unplaced := by
      rw [ofText, found]
      exact separate_entries_again trim parted stay
    calc
      (ofText ("\n".intercalate texts) filters).map (·.text) =
          ((ofText ("\n".intercalate texts) filters).map Line.unplaced).map (·.text) := by
        rw [List.map_map]
        rfl
      _ = (listing.map Line.unplaced).map (·.text) := by rw [again]
      _ = texts := by
        rw [List.map_map]
        rfl

/-- The theorem at a text with wide blanks, returns at the ends of lines and a directive that
is left out. -/
theorem trimmed_listing_is_stable_wide_blanks :
    let text := "\n f:\r\n\r\n\u3000\n\t.text\n\tmov\u2003eax,\u00a0 ebx\r"
    let filters : Filters := { trim := true, directives := true }
    let texts := (ofText text filters).map (·.text)
    filters.trim = true ∧ filters.labels = false ∧ texts = ["  f:", "", "  mov eax, ebx"] ∧
      Text.lines ("\n".intercalate texts).toList = texts.map String.toList ∧
        (ofText ("\n".intercalate texts) filters).map (·.text) = texts := by
  intro text filters texts
  exact ⟨rfl, rfl, by decide +kernel, trimmed_listing_is_stable rfl rfl⟩

/-- Under the filter for labels a listing need not be stable: a label may be mentioned only
on a line that is left out. -/
example :
    let again (text : String) := (ofText text { trim := true, labels := true }).map (·.text)
    again "a: jmp b\nb:\n" = ["b:"] ∧ again "b:" = [] := by
  decide +kernel

end BuildExplorer.Listing
