import BuildExplorer.Proofs.Text.Interspersed
import BuildExplorer.Proofs.Text.Trimmed
import BuildExplorer.Remark.Stream

/-!
# Documents are found as they were written

A compiler writes each remark as a document between a start line, which names the
kind, and an end line; other output may stand around the documents.  The documents
are found in order, each with its kind and its lines, so a document whose body cannot
be read leaves its neighbours alone.
-/

namespace BuildExplorer.Remark

open Text (trim trimEnd isBlank unlines Interspersed isPrefixOf?_eq_none_iff)

/-! ## What a line does -/

theorem next_start (splitter : Splitter) (kind : List Char) :
    splitter.next (documentStart ++ kind) =
      { splitter with pending := some (trim kind, []) } := by
  rw [Splitter.next, List.isPrefixOf?_eq_some_iff_append_eq.mpr rfl]

/-- While no document is open, a line that starts none is passed over. -/
theorem next_of_closed {splitter : Splitter} (closed : splitter.pending = none)
    {line : List Char} (notStart : ¬documentStart <+: line) : splitter.next line = splitter := by
  rw [Splitter.next, isPrefixOf?_eq_none_iff.mpr notStart]
  dsimp only
  split <;> rw [closed]

/-- A line that neither starts nor ends a document goes to the open one. -/
theorem next_body {splitter : Splitter} {kind line : List Char} {body : List (List Char)}
    (pending : splitter.pending = some (kind, body)) (notStart : ¬documentStart <+: line)
    (notEnd : trimEnd line ≠ documentEnd) :
    splitter.next line = { splitter with pending := some (kind, line :: body) } := by
  rw [Splitter.next, isPrefixOf?_eq_none_iff.mpr notStart]
  dsimp only
  rw [if_neg notEnd, pending]

/-- An end line closes the open document. -/
theorem next_end {splitter : Splitter} {kind : List Char} {body : List (List Char)}
    (pending : splitter.pending = some (kind, body)) :
    splitter.next documentEnd =
      ⟨(String.ofList kind, String.ofList (unlines body.reverse)) :: splitter.done, none⟩ := by
  have notStart : documentStart.isPrefixOf? documentEnd = none := by decide
  have isEnd : trimEnd documentEnd = documentEnd := by decide
  rw [Splitter.next, notStart]
  dsimp only
  rw [if_pos isEnd, pending]

/-! ## Documents as they are written -/

/-- A document as a compiler writes it into a stream. -/
structure Document where
  kind : List Char
  body : List (List Char)
  kindOneLine : '\n' ∉ kind
  kindStarts : ∀ char ∈ kind.head?, isBlank char = false
  kindEnds : ∀ char ∈ kind.getLast?, isBlank char = false
  bodyLines : ∀ line ∈ body, '\n' ∉ line ∧ line.getLast? ≠ some '\r'
  bodyPlain : ∀ line ∈ body, ¬documentStart <+: line ∧ trimEnd line ≠ documentEnd

namespace Document

/-- The lines of a document between its start and its end line. -/
def lines (document : Document) : List (List Char) :=
  (documentStart ++ document.kind) :: document.body ++ [documentEnd]

/-- The text between the start and the end line. -/
def text (document : Document) : String :=
  String.ofList (unlines document.body)

/-- The lines of a document are lines of a text: nothing in them ends a line. -/
theorem endless_of_mem_lines (document : Document) :
    ∀ line ∈ document.lines, '\n' ∉ line ∧ line.getLast? ≠ some '\r' := by
  intro line member
  rcases List.mem_cons.mp member with rfl | later
  · constructor
    · simpa [documentStart] using document.kindOneLine
    · intro isReturn
      rw [List.getLast?_append] at isReturn
      cases isLast : document.kind.getLast? with
      | none => simp [isLast, documentStart] at isReturn
      | some char =>
          have notBlank := document.kindEnds char isLast
          rw [isLast, Option.some_or, Option.some.injEq] at isReturn
          rw [isReturn] at notBlank
          exact absurd notBlank (by decide)
  · rcases List.mem_append.mp later with inBody | isEnd
    · exact document.bodyLines line inBody
    · obtain rfl := List.mem_singleton.mp isEnd
      decide

theorem getLast?_lines (document : Document) : document.lines.getLast? = some documentEnd := by
  rw [lines, List.getLast?_append]
  rfl

end Document

/-- A line that may stand around documents. -/
def IsOther (line : List Char) : Prop :=
  '\n' ∉ line ∧ ¬documentStart <+: line

instance (line : List Char) : Decidable (IsOther line) :=
  inferInstanceAs (Decidable (_ ∧ _))

/-- Without its return, such a line may stand there, too. -/
theorem IsOther.dropReturn {line : List Char} (isOther : IsOther line) :
    IsOther (Text.dropReturn line) := by
  have kept := Text.dropReturn_prefix line
  exact ⟨fun member => isOther.1 (kept.subset member),
    fun isStart => isOther.2 (isStart.trans kept)⟩

/-- The splitter behind a document. -/
def Splitter.take (splitter : Splitter) (document : Document) : Splitter where
  done := (String.ofList document.kind, document.text) :: splitter.done
  pending := none

/-- The lines of a body go to the open document, the latest first. -/
theorem foldl_body {splitter : Splitter} {kind : List Char} {body done : List (List Char)}
    (pending : splitter.pending = some (kind, done))
    (plain : ∀ line ∈ body, ¬documentStart <+: line ∧ trimEnd line ≠ documentEnd) :
    body.foldl Splitter.next splitter =
      { splitter with pending := some (kind, body.reverse ++ done) } := by
  induction body generalizing splitter done with
  | nil => rw [List.foldl_nil, List.reverse_nil, List.nil_append, ← pending]
  | cons line body inductionHypothesis =>
      obtain ⟨notStart, notEnd⟩ := plain line List.mem_cons_self
      rw [List.foldl_cons, next_body pending notStart notEnd,
        inductionHypothesis rfl fun other member => plain other (List.mem_cons_of_mem _ member),
        List.reverse_cons, List.append_assoc, List.singleton_append]

/-- A document is taken as a whole, whatever was open before it. -/
theorem foldl_document (splitter : Splitter) (document : Document) :
    document.lines.foldl Splitter.next splitter = splitter.take document := by
  have trimmed : trim document.kind = document.kind :=
    Text.trim_eq_self document.kindStarts document.kindEnds
  rw [Document.lines, List.cons_append, List.foldl_cons, next_start, List.foldl_append,
    foldl_body rfl document.bodyPlain, List.foldl_cons, List.foldl_nil, next_end rfl]
  simp [Splitter.take, Document.text, trimmed]

theorem foldl_take (documents : List Document) (splitter : Splitter) :
    (documents.foldl Splitter.take splitter).done =
      (documents.map fun document => (String.ofList document.kind, document.text)).reverse ++
        splitter.done := by
  induction documents generalizing splitter with
  | nil => rfl
  | cons document documents inductionHypothesis =>
      rw [List.foldl_cons, inductionHypothesis, List.map_cons, List.reverse_cons,
        List.append_assoc, List.singleton_append]
      rfl

/-- The documents of a stream, among any lines that start none. -/
theorem documents_of_layout {written : List Document} {lines : List (List Char)}
    (layout : Interspersed Document.lines IsOther written lines) :
    documents (String.ofList (['\n'].intercalate lines)) =
      written.map fun document => (String.ofList document.kind, document.text) := by
  have oneLine : ∀ line ∈ lines, '\n' ∉ line :=
    layout.forall_mem (fun _ => And.left) fun document line member =>
      (document.endless_of_mem_lines line member).1
  have passes : ∀ (splitter : Splitter) (line : List Char), splitter.pending = none →
      IsOther line → splitter.next line = splitter :=
    fun _ _ closed isOther => next_of_closed closed isOther.2
  have noReturn : ∀ (document : Document), ∀ line ∈ document.lines, line.getLast? ≠ some '\r' :=
    fun document line member => (document.endless_of_mem_lines line member).2
  have ends : ∀ (document : Document), ∀ line ∈ document.lines.getLast?, line ≠ [] := by
    intro document line isLast
    rw [document.getLast?_lines] at isLast
    obtain rfl := Option.some.inj isLast
    exact List.cons_ne_nil _ _
  have stays : ∀ line, IsOther line → IsOther (Text.dropReturn line) :=
    fun _ isOther => isOther.dropReturn
  have read : (Text.linesOfPieces lines).foldl Splitter.next ⟨[], none⟩ =
      written.foldl Splitter.take ⟨[], none⟩ :=
    (layout.linesOfPieces noReturn ends stays).foldl_eq passes
      (fun splitter document _ => foldl_document splitter document) (fun _ _ _ => rfl) rfl
  rw [documents, String.toList_ofList, Text.lines_intercalate oneLine, read, foldl_take,
    List.append_nil, List.reverse_reverse]

/-! ## Remarks -/

/-- Each document whose body can be read makes one remark, in order and whatever reads
the bodies; the others make none.  The remark is of the kind that the document names,
has the arguments of the body in their order, and its message is what they spell.

The documents stand among any other lines that start none, such as stray end lines.
The lines are those between line feeds, so a stream whose last line is ended has an
empty line behind it. -/
theorem ofStream_reads_documents (read : String → Option Body) {written : List Document}
    {lines : List (List Char)}
    (layout : Interspersed Document.lines IsOther written lines) :
    ofStream read (String.ofList (['\n'].intercalate lines)) =
      written.filterMap fun document => (read document.text).map fun body => {
        pass := body.pass
        name := body.name
        place := body.place
        function := body.function
        arguments := body.arguments
        message := spell body.arguments
        kind := String.ofList document.kind } := by
  rw [ofStream, documents_of_layout layout, List.filterMap_map]
  rfl

/-- The theorem at a stream with a document that cannot be read, a stray end line and
chatter. -/
theorem ofStream_reads_documents_malformed :
    let broken : Document :=
      ⟨['M'], [['[']], by decide, by rintro _ ⟨⟩; decide, by rintro _ ⟨⟩; decide,
        by decide, by decide⟩
    let sound : Document :=
      ⟨['P', ' ', 'Q'], [['a'], []], by decide, by rintro _ ⟨⟩; decide, by rintro _ ⟨⟩; decide,
        by decide, by decide⟩
    let lines := ['n', 'o', 't', 'e', '\r'] ::
      (broken.lines ++ documentEnd :: (sound.lines ++ [[]]))
    let read : String → Option Body := fun text =>
      if text = "a\n\n" then some ⟨"p", "n", none, "f", [[(.string "k", .bool true)]]⟩ else none
    Interspersed Document.lines IsOther [broken, sound] lines ∧
      ofStream read (String.ofList (['\n'].intercalate lines)) =
        [broken, sound].filterMap fun document => (read document.text).map fun body => {
          pass := body.pass
          name := body.name
          place := body.place
          function := body.function
          arguments := body.arguments
          message := spell body.arguments
          kind := String.ofList document.kind } := by
  intro broken sound lines read
  have layout : Interspersed Document.lines IsOther [broken, sound] lines :=
    .other (by decide) (.part broken (.other (by decide) (.part sound (.other (by decide) .nil))))
  exact ⟨layout, ofStream_reads_documents read layout⟩

/-- A document that is not ended before the next one starts is given up. -/
example : documents "--- !A\nx\n--- !B\r\ny\n... \n" = [("B", "y\n")] := by
  decide +kernel

end BuildExplorer.Remark
