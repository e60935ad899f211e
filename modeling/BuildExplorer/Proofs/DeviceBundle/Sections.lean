import Mathlib.Data.List.Induction
import BuildExplorer.Proofs.Explorer.Devices
import BuildExplorer.Proofs.Text.Interspersed
import BuildExplorer.Proofs.Text.Trimmed

/-!
# Sections are found as they were written

A compiler writes each section between a start and an end line, and other output may
stand around the sections.  The reader finds for each target the lines of its last
section, whatever they hold, and no other target.  A text is taken for a bundle as
soon as it has a start line.
-/

namespace BuildExplorer.DeviceBundle

open Text (trimEnd isBlank unlines Interspersed isPrefixOf?_eq_none_iff)

/-! ## Kinds of lines -/

theorem lineKind_start (target : List Char) :
    lineKind (startMarker.toList ++ target) = .start (trimEnd target) := by
  have isStart : startMarker.toList.isPrefixOf? (startMarker.toList ++ target) = some target :=
    List.isPrefixOf?_eq_some_iff_append_eq.mpr rfl
  unfold lineKind
  rw [isStart]

/-- No end line is a start line. -/
theorem isPrefixOf?_startMarker_finish (target : List Char) :
    startMarker.toList.isPrefixOf? (endMarker.toList ++ target) = none := by
  simp [startMarker, endMarker, List.isPrefixOf?]

theorem lineKind_finish (target : List Char) :
    lineKind (endMarker.toList ++ target) = .finish (trimEnd target) := by
  have isFinish : endMarker.toList.isPrefixOf? (endMarker.toList ++ target) = some target :=
    List.isPrefixOf?_eq_some_iff_append_eq.mpr rfl
  unfold lineKind
  rw [isPrefixOf?_startMarker_finish, isFinish]

theorem lineKind_body {line : List Char} (notStart : ¬startMarker.toList <+: line)
    (notFinish : ¬endMarker.toList <+: line) : lineKind line = .body := by
  unfold lineKind
  rw [isPrefixOf?_eq_none_iff.mpr notStart, isPrefixOf?_eq_none_iff.mpr notFinish]

/-- Each line is one of the three kinds. -/
theorem lineKind_cases (line : List Char) :
    (∃ target, line = startMarker.toList ++ target) ∨
      (¬startMarker.toList <+: line ∧ ∃ target, line = endMarker.toList ++ target) ∨
        (¬startMarker.toList <+: line ∧ ¬endMarker.toList <+: line) := by
  by_cases isStart : startMarker.toList <+: line
  · obtain ⟨target, rfl⟩ := isStart
    exact .inl ⟨target, rfl⟩
  · by_cases isFinish : endMarker.toList <+: line
    · obtain ⟨target, rfl⟩ := isFinish
      exact .inr (.inl ⟨isStart, target, rfl⟩)
    · exact .inr (.inr ⟨isStart, isFinish⟩)

/-! ## What a line does -/

theorem next_start (reader : Reader) (target : List Char) :
    reader.next (startMarker.toList ++ target) =
      { reader with started := true, pending := some (trimEnd target, []) } := by
  unfold Reader.next
  rw [lineKind_start]

/-- While no section is open, a line that starts none is passed over. -/
theorem next_of_closed {reader : Reader} (closed : reader.pending = none) {line : List Char}
    (notStart : ¬startMarker.toList <+: line) : reader.next line = reader := by
  unfold Reader.next
  rcases lineKind_cases line with ⟨target, isLine⟩ | ⟨-, target, isLine⟩ | ⟨-, notFinish⟩
  · exact absurd ⟨target, isLine.symm⟩ notStart
  · rw [isLine, lineKind_finish]
    simp [closed]
  · rw [lineKind_body notStart notFinish]
    simp [closed]

/-- A line that is no marker goes to the open section. -/
theorem next_body {reader : Reader} {target line : List Char} {body : List (List Char)}
    (pending : reader.pending = some (target, body)) (notStart : ¬startMarker.toList <+: line)
    (notFinish : ¬endMarker.toList <+: line) :
    reader.next line = { reader with pending := some (target, line :: body) } := by
  unfold Reader.next
  rw [lineKind_body notStart notFinish]
  simp [pending]

/-- The end line of the open section sets it. -/
theorem next_finish {reader : Reader} {target : List Char} {body : List (List Char)}
    (pending : reader.pending = some (trimEnd target, body)) :
    reader.next (endMarker.toList ++ target) =
      { reader with
        sections :=
          insert (String.ofList (trimEnd target)) (String.ofList (unlines body.reverse))
            reader.sections
        pending := none } := by
  unfold Reader.next
  rw [lineKind_finish]
  simp only [pending, if_pos]
  rfl

/-- Was there a start line? -/
theorem started_next (reader : Reader) (line : List Char) :
    (reader.next line).started = true ↔
      reader.started = true ∨ startMarker.toList <+: line := by
  rcases lineKind_cases line with
    ⟨target, isLine⟩ | ⟨notStart, target, isLine⟩ | ⟨notStart, notFinish⟩
  · rw [isLine, next_start]
    simp
  · have same : (reader.next line).started = reader.started := by
      unfold Reader.next
      rw [isLine, lineKind_finish]
      dsimp only
      split
      · split <;> rfl
      · rfl
    simp [same, notStart]
  · have same : (reader.next line).started = reader.started := by
      unfold Reader.next
      rw [lineKind_body notStart notFinish]
      dsimp only
      split <;> rfl
    simp [same, notStart]

theorem started_foldl (reader : Reader) (lines : List (List Char)) :
    (lines.foldl Reader.next reader).started = true ↔
      reader.started = true ∨ ∃ line ∈ lines, startMarker.toList <+: line := by
  induction lines generalizing reader with
  | nil => simp
  | cons line lines inductionHypothesis =>
      rw [List.foldl_cons, inductionHypothesis, started_next]
      simp [or_assoc]

/-- A text without start lines, and no other, is no bundle. -/
theorem split_eq_none_iff (text : String) :
    split text = none ↔
      ∀ line ∈ text.toList.splitOn '\n', ¬startMarker.toList <+: line := by
  have started := started_foldl .initial (text.toList.splitOn '\n')
  rw [show Reader.initial.started = false from rfl] at started
  simp only [Bool.false_eq_true, false_or] at started
  unfold split
  dsimp only
  split
  · rename_i isStarted
    obtain ⟨line, member, isStart⟩ := started.mp isStarted
    simp only [reduceCtorEq, false_iff, not_forall, not_not]
    exact ⟨line, member, isStart⟩
  · rename_i notStarted
    simp only [true_iff]
    exact fun line member isStart => notStarted (started.mpr ⟨line, member, isStart⟩)

/-! ## The map of the sections -/

theorem lookup_cons {Body : Type} (target : String) (body : Body) (bodies : PerTarget Body)
    (key : String) :
    List.lookup key ((target, body) :: bodies) =
      if key = target then some body else bodies.lookup key := by
  by_cases same : key = target <;> simp [List.lookup_cons, beq_eq_false_iff_ne.mpr, same]

/-- What is set for a target is found for it, and nothing else changes. -/
theorem lookup_insert {Body : Type} (target : String) (body : Body) (bodies : PerTarget Body)
    (key : String) :
    (insert target body bodies).lookup key =
      if key = target then some body else bodies.lookup key := by
  induction bodies with
  | nil => exact lookup_cons target body [] key
  | cons first bodies inductionHypothesis =>
      rcases first with ⟨other, text⟩
      rw [insert]
      split
      · exact lookup_cons target body _ key
      · split
        · rename_i same
          subst same
          rw [lookup_cons, lookup_cons]
          split <;> rfl
        · rename_i notSame
          rw [lookup_cons, lookup_cons, inductionHypothesis]
          by_cases isOther : key = other
          · subst isOther
            rw [if_pos rfl, if_pos rfl, if_neg (Ne.symm notSame)]
          · rw [if_neg isOther, if_neg isOther]

/-- In a map that is in order, what is listed for a target is what is found for it. -/
theorem InOrder.mem_iff {Body : Type} {bodies : PerTarget Body} (inOrder : InOrder bodies)
    {target : String} {body : Body} :
    (target, body) ∈ bodies ↔ bodies.lookup target = some body := by
  induction bodies with
  | nil => simp
  | cons first bodies inductionHypothesis =>
      rcases first with ⟨other, text⟩
      obtain ⟨isFirst, rest⟩ := List.pairwise_cons.mp inOrder
      rw [List.mem_cons, lookup_cons, Prod.mk.injEq]
      by_cases same : target = other
      · subst same
        have notLater : (target, body) ∉ bodies := fun later =>
          String.lt_irrefl target (isFirst _ later)
        simp [notLater, eq_comm]
      · simp [same, inductionHypothesis rest]

/-! ## Sections as they are written -/

theorem noFeed_markers : '\n' ∉ startMarker.toList ∧ '\n' ∉ endMarker.toList := by
  simp [startMarker, endMarker]

/-- A section as a compiler writes it into a bundle. -/
structure Section where
  target : List Char
  body : List (List Char)
  targetOneLine : '\n' ∉ target
  targetTrimmed : ∀ char ∈ target.getLast?, isBlank char = false
  bodyLines : ∀ line ∈ body, '\n' ∉ line
  bodyUnmarked : ∀ line ∈ body, ¬startMarker.toList <+: line ∧ ¬endMarker.toList <+: line

namespace Section

/-- The lines of a section between its start and its end line. -/
def lines (written : Section) : List (List Char) :=
  (startMarker.toList ++ written.target) :: written.body ++ [endMarker.toList ++ written.target]

theorem lines_ne_nil (written : Section) : written.lines ≠ [] :=
  List.cons_ne_nil _ _

theorem noFeed_of_mem_lines (written : Section) : ∀ line ∈ written.lines, '\n' ∉ line := by
  intro line member
  rcases List.mem_cons.mp member with rfl | later
  · simpa [noFeed_markers.1] using written.targetOneLine
  · rcases List.mem_append.mp later with inBody | isLast
    · exact written.bodyLines line inBody
    · obtain rfl := List.mem_singleton.mp isLast
      simpa [noFeed_markers.2] using written.targetOneLine

/-- What is set for the target of a section. -/
def text (written : Section) : String :=
  String.ofList (unlines written.body)

end Section

/-- A line that may stand around sections. -/
def IsOther (line : List Char) : Prop :=
  '\n' ∉ line ∧ ¬startMarker.toList <+: line

instance (line : List Char) : Decidable (IsOther line) :=
  inferInstanceAs (Decidable (_ ∧ _))

/-- An end line may stand where no section is open. -/
theorem isOther_finish {target : List Char} (oneLine : '\n' ∉ target) :
    IsOther (endMarker.toList ++ target) :=
  ⟨by simpa [noFeed_markers.2] using oneLine,
    isPrefixOf?_eq_none_iff.mp (isPrefixOf?_startMarker_finish target)⟩

/-- The text of the last section for a target. -/
def lastText (sections : List Section) (target : String) : Option String :=
  (sections.filter fun written => String.ofList written.target = target).getLast?.map Section.text

/-- The reader behind a section. -/
def Reader.take (reader : Reader) (written : Section) : Reader where
  sections := insert (String.ofList written.target) written.text reader.sections
  started := true
  pending := none

/-- The lines of a body go to the open section, the latest first. -/
theorem foldl_body {reader : Reader} {target : List Char} {body done : List (List Char)}
    (pending : reader.pending = some (target, done))
    (unmarked : ∀ line ∈ body, ¬startMarker.toList <+: line ∧ ¬endMarker.toList <+: line) :
    body.foldl Reader.next reader =
      { reader with pending := some (target, body.reverse ++ done) } := by
  induction body generalizing reader done with
  | nil => rw [List.foldl_nil, List.reverse_nil, List.nil_append, ← pending]
  | cons line body inductionHypothesis =>
      obtain ⟨notStart, notFinish⟩ := unmarked line List.mem_cons_self
      rw [List.foldl_cons, next_body pending notStart notFinish,
        inductionHypothesis rfl fun other member => unmarked other (List.mem_cons_of_mem _ member),
        List.reverse_cons, List.append_assoc, List.singleton_append]

/-- A section is set under its target, whatever was open before it. -/
theorem foldl_section (reader : Reader) (written : Section) :
    written.lines.foldl Reader.next reader = reader.take written := by
  have trimmed : trimEnd written.target = written.target :=
    Text.trimEnd_eq_self_iff.mpr written.targetTrimmed
  rw [Section.lines, List.cons_append, List.foldl_cons, next_start, List.foldl_append,
    foldl_body rfl written.bodyUnmarked, List.foldl_cons, List.foldl_nil, next_finish rfl]
  simp [Reader.take, Section.text, trimmed]

theorem sections_foldl_take_inOrder (sections : List Section) {reader : Reader}
    (inOrder : InOrder reader.sections) :
    InOrder (sections.foldl Reader.take reader).sections := by
  induction sections generalizing reader with
  | nil => exact inOrder
  | cons written sections inductionHypothesis =>
      exact inductionHypothesis (inOrder.insert _ _)

theorem lastText_concat (sections : List Section) (written : Section) (target : String) :
    lastText (sections ++ [written]) target =
      if target = String.ofList written.target then some written.text
      else lastText sections target := by
  rw [lastText, List.filter_append]
  by_cases same : target = String.ofList written.target
  · simp [same]
  · simp [same, Ne.symm same, lastText]

/-- The last section for a target is found, or else what was set before. -/
theorem lookup_foldl_take (sections : List Section) (reader : Reader) (target : String) :
    (sections.foldl Reader.take reader).sections.lookup target =
      (lastText sections target).or (reader.sections.lookup target) := by
  induction sections using List.reverseRecOn with
  | nil => rfl
  | append_singleton sections written inductionHypothesis =>
      rw [List.foldl_append, List.foldl_cons, List.foldl_nil, Reader.take, lookup_insert,
        lastText_concat, inductionHypothesis]
      split <;> rfl

theorem started_foldl_take {sections : List Section} (nonempty : sections ≠ [])
    (reader : Reader) : (sections.foldl Reader.take reader).started = true := by
  obtain ⟨earlier, written, rfl⟩ := (List.eq_nil_or_concat sections).resolve_left nonempty
  rw [List.concat_eq_append, List.foldl_append]
  rfl

/-! ## The whole -/

/-- Sections are found as they were written.  Whatever other lines stand around them,
as long as none is a start line, the text is a bundle in which each target has the
lines of its last section, each ended by a line feed, and there is no other target.
Any text is a bundle exactly if it has a start line.

The lines of the text are those between its line feeds, so a text whose last line is
ended has an empty line behind it. -/
theorem split_finds_sections {sections : List Section} {lines : List (List Char)}
    (layout : Interspersed Section.lines IsOther sections lines)
    (nonempty : sections ≠ []) :
    (∃ found, split (String.ofList (['\n'].intercalate lines)) = some found ∧ InOrder found ∧
      ∀ target, found.lookup target = lastText sections target) ∧
    ∀ text : String, split text = none ↔
      ∀ line ∈ text.toList.splitOn '\n', ¬startMarker.toList <+: line := by
  refine ⟨?found, split_eq_none_iff⟩
  have oneLine : ∀ line ∈ lines, '\n' ∉ line :=
    layout.forall_mem (fun _ => And.left) Section.noFeed_of_mem_lines
  have notEmpty : lines ≠ [] := layout.ne_nil Section.lines_ne_nil nonempty
  have passes : ∀ (reader : Reader) (line : List Char), reader.pending = none →
      IsOther line → reader.next line = reader :=
    fun _ _ closed isOther => next_of_closed closed isOther.2
  have read : lines.foldl Reader.next .initial = sections.foldl Reader.take .initial :=
    layout.foldl_eq passes (fun reader written _ => foldl_section reader written)
      (fun _ _ _ => rfl) rfl
  refine ⟨(sections.foldl Reader.take .initial).sections, ?_, ?_, ?_⟩
  · rw [split, String.toList_ofList, List.splitOn_intercalate '\n' oneLine notEmpty, read,
      if_pos (started_foldl_take nonempty .initial)]
  · exact sections_foldl_take_inOrder sections List.Pairwise.nil
  · intro target
    rw [lookup_foldl_take]
    exact Option.or_none

/-- The theorem at a text with two sections for one target and a stray end line. -/
theorem split_finds_sections_repeated :
    let first : Section :=
      ⟨['a'], [['x']], by decide, by rintro _ ⟨⟩; decide, by decide, by decide⟩
    let second : Section :=
      ⟨['a'], [[], ['y', '\r']], by decide, by rintro _ ⟨⟩; decide, by decide, by decide⟩
    let stray := endMarker.toList ++ ['a']
    let lines := first.lines ++ stray :: (second.lines ++ [[]])
    Interspersed Section.lines IsOther [first, second] lines ∧ [first, second] ≠ [] ∧
      (∃ found, split (String.ofList (['\n'].intercalate lines)) = some found ∧ InOrder found ∧
        ∀ target, found.lookup target = lastText [first, second] target) ∧
      ∀ text : String, split text = none ↔
        ∀ line ∈ text.toList.splitOn '\n', ¬startMarker.toList <+: line := by
  intro first second stray lines
  have layout : Interspersed Section.lines IsOther [first, second] lines :=
    .part first (.other (isOther_finish (by decide)) (.part second (.other (by decide) .nil)))
  have nonempty : [first, second] ≠ [] := List.cons_ne_nil _ _
  exact ⟨layout, nonempty, split_finds_sections layout nonempty⟩

end BuildExplorer.DeviceBundle
