import Mathlib.Data.List.Flatten
import BuildExplorer.Proofs.DeviceBundle.Sections

/-!
# What a section holds

Any text may be given to the reader: sections may be started twice, left open, closed by
the end line of another target, or follow one another for one target.  What is listed
for a target is then what its last closed section holds.  An end line of another target
leaves the section open, but goes to no section, so it is missing in what is listed.

The reader is described line by line.  It holds the section that is open behind the
lines so far, and for each target what its last closed section holds.
-/

namespace BuildExplorer.DeviceBundle

open Text (trimEnd unlines isPrefixOf?_eq_none_iff)

/-! ## Marker lines -/

/-- A line has a marker in front of a target; blanks behind the target do not count. -/
def Marks (marker : String) (target line : List Char) : Prop :=
  ∃ name, line = marker.toList ++ name ∧ trimEnd name = target

/-- A line starts a section of a target. -/
def Starts (target line : List Char) : Prop :=
  Marks startMarker target line

/-- A line ends a section of a target. -/
def Finishes (target line : List Char) : Prop :=
  Marks endMarker target line

variable {marker : String} {target other line : List Char}

theorem Marks.isPrefix (marks : Marks marker target line) : marker.toList <+: line := by
  obtain ⟨name, isLine, -⟩ := marks
  exact ⟨name, isLine.symm⟩

theorem marks_append_iff {name : List Char} :
    Marks marker target (marker.toList ++ name) ↔ trimEnd name = target := by
  constructor
  · rintro ⟨name', same, rfl⟩
    rw [List.append_cancel_left same]
  · exact fun isTarget => ⟨name, rfl, isTarget⟩

theorem Marks.unique (first : Marks marker target line) (second : Marks marker other line) :
    target = other := by
  obtain ⟨name, rfl, isTarget⟩ := first
  exact isTarget.symm.trans (marks_append_iff.mp second)

theorem Finishes.not_start (finishes : Finishes target line) :
    ¬startMarker.toList <+: line := by
  obtain ⟨name, isLine, -⟩ := finishes
  rw [isLine]
  exact isPrefixOf?_eq_none_iff.mp (isPrefixOf?_startMarker_finish name)

/-! ## Sections among lines -/

/-- At the end of some lines a section of a target is open: behind its start line stand
the lines inside, none of which starts a section or ends this one. -/
def Opens (target : List Char) (lines inside : List (List Char)) : Prop :=
  ∃ before start, lines = before ++ start :: inside ∧ Starts target start ∧
    ∀ line ∈ inside, ¬startMarker.toList <+: line ∧ ¬Finishes target line

/-- Some lines hold a section of a target, with the lines inside and those after its
end line. -/
def Encloses (target : List Char) (lines inside after : List (List Char)) : Prop :=
  ∃ upTo finish, lines = upTo ++ finish :: after ∧ Opens target upTo inside ∧
    Finishes target finish

/-- The last section of a target holds some lines. -/
def LastHolds (target : List Char) (lines inside : List (List Char)) : Prop :=
  ∃ after, Encloses target lines inside after ∧
    ∀ inside' after', ¬Encloses target after inside' after'

variable {lines inside after : List (List Char)}

theorem not_opens_nil : ¬Opens target [] inside := by
  rintro ⟨before, start, isNil, -⟩
  simp at isNil

theorem not_encloses_nil : ¬Encloses target [] inside after := by
  rintro ⟨upTo, finish, isNil, -⟩
  simp at isNil

/-- A cut of some lines and one more is at that line, or among the lines before. -/
theorem concat_eq_append_cons_iff {front back : List (List Char)} {here : List Char} :
    lines ++ [line] = front ++ here :: back ↔
      (back = [] ∧ lines = front ∧ line = here) ∨
        ∃ earlier, back = earlier ++ [line] ∧ lines = front ++ here :: earlier := by
  constructor
  · intro same
    rcases List.eq_nil_or_concat back with rfl | ⟨earlier, last, rfl⟩
    · obtain ⟨isFront, isHere⟩ := List.append_inj' same rfl
      exact .inl ⟨rfl, isFront, List.singleton_inj.mp isHere⟩
    · rw [List.concat_eq_append, ← List.cons_append, ← List.append_assoc] at same
      obtain ⟨isLines, isLast⟩ := List.append_inj' same rfl
      rw [List.singleton_inj.mp isLast]
      exact .inr ⟨earlier, List.concat_eq_append, isLines⟩
  · rintro (⟨rfl, rfl, rfl⟩ | ⟨earlier, rfl, rfl⟩)
    · rfl
    · rw [List.append_assoc, List.cons_append]

/-- A section is open behind a line if the line starts it, or stands inside it. -/
theorem opens_concat_iff :
    Opens target (lines ++ [line]) inside ↔
      (inside = [] ∧ Starts target line) ∨
        ∃ earlier, inside = earlier ++ [line] ∧ Opens target lines earlier ∧
          ¬startMarker.toList <+: line ∧ ¬Finishes target line := by
  constructor
  · rintro ⟨before, start, isLines, starts, unmarked⟩
    rcases concat_eq_append_cons_iff.mp isLines with ⟨rfl, rfl, rfl⟩ | ⟨earlier, rfl, rfl⟩
    · exact .inl ⟨rfl, starts⟩
    · obtain ⟨unmarkedEarlier, unmarkedLast⟩ := List.forall_mem_append.mp unmarked
      have here := unmarkedLast line List.mem_cons_self
      exact .inr ⟨earlier, rfl, ⟨before, start, rfl, starts, unmarkedEarlier⟩, here⟩
  · rintro (⟨rfl, starts⟩ | ⟨earlier, rfl, ⟨before, start, rfl, starts, unmarked⟩, here⟩)
    · exact ⟨lines, line, rfl, starts, by simp⟩
    · exact ⟨before, start, by simp, starts,
        List.forall_mem_append.mpr ⟨unmarked, List.forall_mem_singleton.mpr here⟩⟩

theorem opens_concat_of_not_start (notStart : ¬startMarker.toList <+: line) :
    Opens target (lines ++ [line]) inside ↔
      ∃ earlier, inside = earlier ++ [line] ∧ Opens target lines earlier ∧
        ¬Finishes target line := by
  have notStarts : ¬Starts target line := fun starts => notStart starts.isPrefix
  simp [opens_concat_iff, notStart, notStarts]

/-- One section is open at most. -/
theorem Opens.unique {inside' : List (List Char)} (first : Opens target lines inside)
    (second : Opens other lines inside') : target = other ∧ inside = inside' := by
  induction lines using List.reverseRecOn generalizing inside inside' with
  | nil => exact absurd first not_opens_nil
  | append_singleton lines line inductionHypothesis =>
      rcases opens_concat_iff.mp first with ⟨rfl, starts⟩ | ⟨earlier, rfl, opens, notStart, -⟩
      · rcases opens_concat_iff.mp second with ⟨rfl, starts'⟩ | ⟨_, -, -, notStart, -⟩
        · exact ⟨starts.unique starts', rfl⟩
        · exact absurd starts.isPrefix notStart
      · rcases opens_concat_iff.mp second with ⟨rfl, starts⟩ | ⟨earlier', rfl, opens', -, -⟩
        · exact absurd starts.isPrefix notStart
        · obtain ⟨sameTarget, rfl⟩ := inductionHypothesis opens opens'
          exact ⟨sameTarget, rfl⟩

theorem Opens.append (opens : Opens target after inside) (front : List (List Char)) :
    Opens target (front ++ after) inside := by
  obtain ⟨before, start, rfl, starts, unmarked⟩ := opens
  exact ⟨front ++ before, start, (List.append_assoc _ _ _).symm, starts, unmarked⟩

/-- A section that is open behind an end line of its target started behind that line. -/
theorem Opens.behind {front : List (List Char)} {finish : List Char}
    (finishes : Finishes target finish) (opens : Opens target (front ++ finish :: after) inside) :
    Opens target after inside := by
  induction after using List.reverseRecOn generalizing inside with
  | nil =>
      rcases opens_concat_iff.mp opens with ⟨-, starts⟩ | ⟨_, -, -, -, notFinish⟩
      · exact absurd starts.isPrefix finishes.not_start
      · exact absurd finishes notFinish
  | append_singleton after line inductionHypothesis =>
      rw [← List.cons_append, ← List.append_assoc] at opens
      rcases opens_concat_iff.mp opens with starts | ⟨earlier, isInside, opens, here⟩
      · exact opens_concat_iff.mpr (.inl starts)
      · exact opens_concat_iff.mpr (.inr ⟨earlier, isInside, inductionHypothesis opens, here⟩)

/-- A section among some lines and one more is closed by that line, or was closed before. -/
theorem encloses_concat_iff :
    Encloses target (lines ++ [line]) inside after ↔
      (after = [] ∧ Opens target lines inside ∧ Finishes target line) ∨
        ∃ earlier, after = earlier ++ [line] ∧ Encloses target lines inside earlier := by
  constructor
  · rintro ⟨upTo, finish, isLines, opens, finishes⟩
    rcases concat_eq_append_cons_iff.mp isLines with ⟨rfl, rfl, rfl⟩ | ⟨earlier, rfl, rfl⟩
    · exact .inl ⟨rfl, opens, finishes⟩
    · exact .inr ⟨earlier, rfl, upTo, finish, rfl, opens, finishes⟩
  · rintro (⟨rfl, opens, finishes⟩ | ⟨earlier, rfl, upTo, finish, rfl, opens, finishes⟩)
    · exact ⟨lines, line, rfl, opens, finishes⟩
    · exact ⟨upTo, finish, by simp, opens, finishes⟩

/-- A line that closes no section of a target leaves its last section as it is. -/
theorem lastHolds_concat_of_quiet
    (quiet : ∀ inside, Opens target lines inside → ¬Finishes target line) :
    LastHolds target (lines ++ [line]) inside ↔ LastHolds target lines inside := by
  constructor
  · rintro ⟨after, encloses, last⟩
    rcases encloses_concat_iff.mp encloses with ⟨-, opens, finishes⟩ | ⟨earlier, rfl, before⟩
    · exact absurd finishes (quiet inside opens)
    · exact ⟨earlier, before, fun inside' after' later =>
        last inside' (after' ++ [line]) (encloses_concat_iff.mpr (.inr ⟨after', rfl, later⟩))⟩
  · rintro ⟨after, encloses, last⟩
    refine ⟨after ++ [line], encloses_concat_iff.mpr (.inr ⟨after, rfl, encloses⟩), ?_⟩
    intro inside' after' later
    rcases encloses_concat_iff.mp later with ⟨-, opens, finishes⟩ | ⟨earlier, -, encloses'⟩
    · obtain ⟨upTo, finish, rfl, -⟩ := encloses
      have behind := (opens.append [finish]).append upTo
      exact quiet inside' behind finishes
    · exact last inside' earlier encloses'

/-- A line that closes the open section makes it the last one of its target. -/
theorem lastHolds_concat_of_closes (opens : Opens target lines inside)
    (finishes : Finishes target line) {held : List (List Char)} :
    LastHolds target (lines ++ [line]) held ↔ held = inside := by
  constructor
  · rintro ⟨after, encloses, last⟩
    rcases encloses_concat_iff.mp encloses with ⟨-, opens', -⟩ |
      ⟨earlier, rfl, upTo, finish, rfl, -, finishes'⟩
    · exact (opens'.unique opens).2
    · have later : Encloses target (earlier ++ [line]) inside [] :=
        encloses_concat_iff.mpr (.inl ⟨rfl, opens.behind finishes', finishes⟩)
      exact absurd later (last inside [])
  · rintro rfl
    exact ⟨[], encloses_concat_iff.mpr (.inl ⟨rfl, opens, finishes⟩),
      fun _ _ => not_encloses_nil⟩

/-! ## What the reader holds -/

/-- The lines of an open section that the reader keeps: all but end lines. -/
def kept (inside : List (List Char)) : List (List Char) :=
  inside.filter fun line => ¬endMarker.toList <+: line

theorem kept_concat_of_finish (finishes : endMarker.toList <+: line) :
    kept (inside ++ [line]) = kept inside := by
  simp [kept, finishes]

theorem kept_concat_of_body (notFinish : ¬endMarker.toList <+: line) :
    kept (inside ++ [line]) = kept inside ++ [line] := by
  simp [kept, notFinish]

/-- The reader holds the open section and, for each target, what its last section holds. -/
structure Reader.Reflects (reader : Reader) (lines : List (List Char)) : Prop where
  pending (target : List Char) (body : List (List Char)) :
    reader.pending = some (target, body) ↔
      ∃ inside, Opens target lines inside ∧ body.reverse = kept inside
  sections (target body : String) :
    reader.sections.lookup target = some body ↔
      ∃ inside, LastHolds target.toList lines inside ∧
        body = String.ofList (unlines (kept inside))

/-- A line that is no marker goes to the section that is open, if one is. -/
theorem next_unmarked {reader : Reader} (notStart : ¬startMarker.toList <+: line)
    (notFinish : ¬endMarker.toList <+: line) :
    reader.next line = { reader with
      pending := reader.pending.map fun (target, body) => (target, line :: body) } := by
  cases pending : reader.pending with
  | none => rw [next_of_closed pending notStart, Option.map_none, ← pending]
  | some held => rw [next_body pending notStart notFinish, Option.map_some]

/-- An end line of another target than the open one is passed over. -/
theorem next_finish_of_other {reader : Reader} {name : List Char}
    (other : ∀ body, reader.pending ≠ some (trimEnd name, body)) :
    reader.next (endMarker.toList ++ name) = reader := by
  unfold Reader.next
  rw [lineKind_finish]
  dsimp only
  split
  · rename_i target body pending
    rw [if_neg]
    rintro rfl
    exact other body pending
  · rfl

namespace Reader.Reflects

variable {reader : Reader}

theorem exists_pending (reflects : reader.Reflects lines) (opens : Opens target lines inside) :
    ∃ body, reader.pending = some (target, body) ∧ body.reverse = kept inside :=
  ⟨(kept inside).reverse, (reflects.pending target _).mpr ⟨inside, opens, by simp⟩, by simp⟩

/-- A line that closes no section leaves all sections as they are. -/
theorem sections_concat (reflects : reader.Reflects lines) {target : String}
    (quiet : ∀ inside, Opens target.toList lines inside → ¬Finishes target.toList line)
    (body : String) :
    reader.sections.lookup target = some body ↔
      ∃ inside, LastHolds target.toList (lines ++ [line]) inside ∧
        body = String.ofList (unlines (kept inside)) := by
  simp only [reflects.sections, lastHolds_concat_of_quiet quiet]

theorem next_start (reflects : reader.Reflects lines) (name : List Char) :
    (reader.next (startMarker.toList ++ name)).Reflects
      (lines ++ [startMarker.toList ++ name]) := by
  have isStart : startMarker.toList <+: startMarker.toList ++ name := List.prefix_append _ _
  rw [DeviceBundle.next_start]
  refine ⟨fun target body => ?_, fun target => reflects.sections_concat ?_⟩
  · rw [Option.some.injEq, Prod.mk.injEq]
    constructor
    · rintro ⟨rfl, rfl⟩
      exact ⟨[], opens_concat_iff.mpr (.inl ⟨rfl, name, rfl, rfl⟩), rfl⟩
    · rintro ⟨inside, opens, isBody⟩
      rcases opens_concat_iff.mp opens with ⟨rfl, starts⟩ | ⟨_, -, -, notStart, -⟩
      · exact ⟨Marks.unique ⟨name, rfl, rfl⟩ starts, (List.reverse_eq_nil_iff.mp isBody).symm⟩
      · exact absurd isStart notStart
  · exact fun _ _ finishes => finishes.not_start isStart

theorem next_body (reflects : reader.Reflects lines) (notStart : ¬startMarker.toList <+: line)
    (notFinish : ¬endMarker.toList <+: line) : (reader.next line).Reflects (lines ++ [line]) := by
  have unfinished (target : List Char) : ¬Finishes target line :=
    fun finishes => notFinish finishes.isPrefix
  rw [next_unmarked notStart notFinish]
  refine ⟨fun target body => ?_, fun target => reflects.sections_concat fun _ _ => unfinished _⟩
  constructor
  · intro isPending
    obtain ⟨⟨name, held⟩, wasPending, isHeld⟩ := Option.map_eq_some_iff.mp isPending
    obtain ⟨rfl, rfl⟩ := Prod.mk.inj isHeld
    obtain ⟨inside, opens, isBody⟩ := (reflects.pending name held).mp wasPending
    refine ⟨inside ++ [line], ?_, ?_⟩
    · exact (opens_concat_of_not_start notStart).mpr ⟨inside, rfl, opens, unfinished name⟩
    · rw [List.reverse_cons, isBody, kept_concat_of_body notFinish]
  · rintro ⟨inside, opens, isBody⟩
    obtain ⟨earlier, rfl, opens, -⟩ := (opens_concat_of_not_start notStart).mp opens
    obtain ⟨held, wasPending, isHeld⟩ := reflects.exists_pending opens
    rw [kept_concat_of_body notFinish, ← isHeld, ← List.reverse_cons] at isBody
    rw [wasPending, Option.map_some, List.reverse_inj.mp isBody]

/-- The end line of the open section makes it the last section of its target. -/
theorem next_finish (reflects : reader.Reflects lines) {name : List Char}
    {body : List (List Char)} (pending : reader.pending = some (trimEnd name, body)) :
    (reader.next (endMarker.toList ++ name)).Reflects
      (lines ++ [endMarker.toList ++ name]) := by
  have finishes : Finishes (trimEnd name) (endMarker.toList ++ name) := ⟨name, rfl, rfl⟩
  obtain ⟨inside, opens, isBody⟩ := (reflects.pending (trimEnd name) body).mp pending
  rw [DeviceBundle.next_finish pending]
  refine ⟨fun target held => ?_, fun target text => ?_⟩
  · refine iff_of_false nofun ?_
    rintro ⟨inside', opens', -⟩
    obtain ⟨earlier, -, opens', unfinished⟩ :=
      (opens_concat_of_not_start finishes.not_start).mp opens'
    obtain ⟨rfl, -⟩ := opens.unique opens'
    exact unfinished finishes
  · rw [lookup_insert]
    by_cases isTarget : target = String.ofList (trimEnd name)
    · subst isTarget
      rw [if_pos rfl, String.toList_ofList, Option.some.injEq, isBody]
      simp only [lastHolds_concat_of_closes opens finishes, exists_eq_left]
      exact eq_comm
    · rw [if_neg isTarget]
      refine reflects.sections_concat (fun inside' opens' _ => isTarget ?_) text
      rw [(opens.unique opens').1, String.ofList_toList]

/-- Other end lines change nothing. -/
theorem next_finish_of_other (reflects : reader.Reflects lines) {name : List Char}
    (other : ∀ body, reader.pending ≠ some (trimEnd name, body)) :
    (reader.next (endMarker.toList ++ name)).Reflects
      (lines ++ [endMarker.toList ++ name]) := by
  have isFinish : endMarker.toList <+: endMarker.toList ++ name := List.prefix_append _ _
  have notStart : ¬startMarker.toList <+: endMarker.toList ++ name :=
    isPrefixOf?_eq_none_iff.mp (isPrefixOf?_startMarker_finish name)
  have unfinished {target : List Char} {inside : List (List Char)}
      (opens : Opens target lines inside) : ¬Finishes target (endMarker.toList ++ name) := by
    intro finishes
    obtain ⟨body, pending, -⟩ := reflects.exists_pending opens
    rw [← marks_append_iff.mp finishes] at pending
    exact other body pending
  rw [DeviceBundle.next_finish_of_other other]
  refine ⟨fun target body => ?_, fun target => reflects.sections_concat fun _ => unfinished⟩
  rw [reflects.pending]
  constructor
  · rintro ⟨inside, opens, isBody⟩
    refine ⟨inside ++ [_], (opens_concat_of_not_start notStart).mpr
      ⟨inside, rfl, opens, unfinished opens⟩, ?_⟩
    rw [isBody, kept_concat_of_finish isFinish]
  · rintro ⟨inside, opens, isBody⟩
    obtain ⟨earlier, rfl, opens, -⟩ := (opens_concat_of_not_start notStart).mp opens
    rw [kept_concat_of_finish isFinish] at isBody
    exact ⟨earlier, opens, isBody⟩

/-- The reader behind one more line. -/
theorem next (reflects : reader.Reflects lines) (line : List Char) :
    (reader.next line).Reflects (lines ++ [line]) := by
  rcases lineKind_cases line with ⟨name, isLine⟩ | ⟨-, name, isLine⟩ | ⟨notStart, notFinish⟩
  · rw [isLine]
    exact reflects.next_start name
  · rw [isLine]
    by_cases closes : ∃ body, reader.pending = some (trimEnd name, body)
    · obtain ⟨body, pending⟩ := closes
      exact reflects.next_finish pending
    · exact reflects.next_finish_of_other (not_exists.mp closes)
  · exact reflects.next_body notStart notFinish

end Reader.Reflects

theorem reflects_initial : Reader.initial.Reflects [] where
  pending _ _ := by simp [Reader.initial, not_opens_nil]
  sections _ _ := by simp [Reader.initial, LastHolds, not_encloses_nil]

/-- The reader behind all lines. -/
theorem reflects_foldl (lines : List (List Char)) :
    (lines.foldl Reader.next .initial).Reflects lines := by
  induction lines using List.reverseRecOn with
  | nil => exact reflects_initial
  | append_singleton lines line inductionHypothesis =>
      rw [List.foldl_append, List.foldl_cons, List.foldl_nil]
      exact inductionHypothesis.next line

/-! ## The whole -/

/-- Lines of which some are left out have the same text only if none is. -/
theorem eq_of_unlines_eq {some all : List (List Char)} (sublist : some.Sublist all)
    (same : unlines some = unlines all) : some = all := by
  induction sublist with
  | slnil => rfl
  | @cons some all line sublist _ =>
      have shorter : (unlines some).length ≤ (unlines all).length :=
        (sublist.flatMap _).length_le
      rw [same, Text.unlines_cons] at shorter
      simp only [List.length_append, List.length_cons] at shorter
      omega
  | cons_cons line _ inductionHypothesis =>
      rw [Text.unlines_cons, Text.unlines_cons] at same
      rw [inductionHypothesis (List.cons.inj (List.append_cancel_left same)).2]

/-- A section is verbatim if no end line stands inside it. -/
theorem unlines_kept_iff {inside : List (List Char)} :
    unlines (kept inside) = unlines inside ↔ ∀ line ∈ inside, ¬endMarker.toList <+: line := by
  constructor
  · intro same
    have isKept : kept inside = inside := eq_of_unlines_eq List.filter_sublist same
    simpa using List.filter_eq_self.mp isKept
  · intro unmarked
    rw [kept, List.filter_eq_self.mpr (by simpa using unmarked)]

/-- The sections of a text are what the reader holds behind its lines. -/
theorem sections_of_split {text : String} {found : Sections} (isSplit : split text = some found) :
    ((text.toList.splitOn '\n').foldl Reader.next .initial).sections = found := by
  simp only [split] at isSplit
  split at isSplit
  · exact Option.some.inj isSplit
  · cases isSplit

theorem LastHolds.exists_start (holds : LastHolds target lines inside) :
    ∃ line ∈ lines, startMarker.toList <+: line := by
  obtain ⟨after, ⟨_, finish, rfl, ⟨before, start, rfl, starts, -⟩, -⟩, -⟩ := holds
  exact ⟨start, by simp, starts.isPrefix⟩

theorem mem_split_iff {text target body : String} :
    (∃ found, split text = some found ∧ (target, body) ∈ found) ↔
      ∃ inside, LastHolds target.toList (text.toList.splitOn '\n') inside ∧
        body = String.ofList (unlines (kept inside)) := by
  have reflects := reflects_foldl (text.toList.splitOn '\n')
  constructor
  · rintro ⟨found, isSplit, member⟩
    rw [(split_inOrder isSplit).mem_iff, ← sections_of_split isSplit] at member
    exact (reflects.sections target body).mp member
  · rintro ⟨inside, holds, isBody⟩
    obtain ⟨line, member, isStart⟩ := holds.exists_start
    obtain ⟨found, isSplit⟩ := Option.ne_none_iff_exists'.mp fun isNone =>
      (split_eq_none_iff text).mp isNone line member isStart
    refine ⟨found, isSplit, ?_⟩
    rw [(split_inOrder isSplit).mem_iff, ← sections_of_split isSplit]
    exact (reflects.sections target body).mpr ⟨inside, holds, isBody⟩

/-- A text lists a target exactly if a section of it is closed, and lists then what the
last such section holds: all lines between its start and its end line but other end
lines.  So a section is listed verbatim if and only if no end line stands inside it. -/
theorem listed_verbatim_iff_no_end_line_inside (text target : String) :
    let lines := text.toList.splitOn '\n'
    (∀ body, (∃ found, split text = some found ∧ (target, body) ∈ found) ↔
      ∃ inside, LastHolds target.toList lines inside ∧
        body = String.ofList (unlines (inside.filter fun line => ¬endMarker.toList <+: line))) ∧
    ∀ inside, LastHolds target.toList lines inside →
      ((∃ found, split text = some found ∧ (target, String.ofList (unlines inside)) ∈ found) ↔
        ∀ line ∈ inside, ¬endMarker.toList <+: line) := by
  intro lines
  refine ⟨fun body => mem_split_iff, fun inside holds => ?_⟩
  obtain ⟨found, isSplit, member⟩ := mem_split_iff.mpr ⟨inside, holds, rfl⟩
  rw [(split_inOrder isSplit).mem_iff] at member
  constructor
  · rintro ⟨found', isSplit', member'⟩
    obtain rfl := Option.some.inj (isSplit.symm.trans isSplit')
    rw [(split_inOrder isSplit).mem_iff] at member'
    have same := Option.some.inj (member.symm.trans member')
    exact unlines_kept_iff.mp (String.ofList_injective same)
  · intro unmarked
    exact mem_split_iff.mpr ⟨inside, holds, by rw [unlines_kept_iff.mpr unmarked]⟩

/-- The end line of another target is left out of a section. -/
example : split ("# __CLANG_OFFLOAD_BUNDLE____START__ a\nx\n" ++
      "# __CLANG_OFFLOAD_BUNDLE____END__ b\ny\n# __CLANG_OFFLOAD_BUNDLE____END__ a\n") =
    some [("a", "x\ny\n")] := by
  decide +kernel

end BuildExplorer.DeviceBundle
