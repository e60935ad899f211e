import BuildExplorer.Proofs.Remark.Documents
import BuildExplorer.Remark.Body

/-!
# Streams one behind the other

Compilers write their remarks one behind the other into one stream.  A start line gives up
whatever document is open, so where a stream begins with one, its remarks are the same
behind any other stream.  All that is asked of the other is that its last line is ended;
it may be broken off or hold no document at all.
-/

namespace BuildExplorer.Remark

/-! ## What was done before -/

/-- The splitter that has done some other documents before. -/
def Splitter.behind (splitter : Splitter) (earlier : List (String × String)) : Splitter :=
  { splitter with done := splitter.done ++ earlier }

/-- What was done before has no say in what a line does. -/
theorem next_behind (splitter : Splitter) (earlier : List (String × String)) (line : List Char) :
    (splitter.behind earlier).next line = (splitter.next line).behind earlier := by
  unfold Splitter.next Splitter.behind
  dsimp only
  split
  · rfl
  · split
    · split <;> rfl
    · split <;> rfl

theorem foldl_behind (splitter : Splitter) (earlier : List (String × String))
    (lines : List (List Char)) :
    lines.foldl Splitter.next (splitter.behind earlier) =
      (lines.foldl Splitter.next splitter).behind earlier := by
  induction lines generalizing splitter with
  | nil => rfl
  | cons line lines inductionHypothesis =>
      rw [List.foldl_cons, next_behind, inductionHypothesis, List.foldl_cons]

/-- Where lines begin with a start line, nothing counts that was open before. -/
theorem foldl_of_start (splitter : Splitter) {line : List Char} (isStart : documentStart <+: line)
    (lines : List (List Char)) :
    (line :: lines).foldl Splitter.next splitter =
      ((line :: lines).foldl Splitter.next ⟨[], none⟩).behind splitter.done := by
  obtain ⟨kind, rfl⟩ := isStart
  have same : splitter.next (documentStart ++ kind) =
      (Splitter.next ⟨[], none⟩ (documentStart ++ kind)).behind splitter.done := by
    rw [next_start, next_start]
    rfl
  rw [List.foldl_cons, same, foldl_behind, List.foldl_cons]

/-! ## The whole -/

theorem documents_append {first second : String}
    (ended : first = "" ∨ first.toList.getLast? = some '\n')
    (starts : documentStart <+: second.toList) :
    documents (first ++ second) = documents first ++ documents second := by
  have endedLine : first.toList = [] ∨ first.toList.getLast? = some '\n' :=
    ended.imp_left String.toList_eq_nil_iff.mpr
  obtain ⟨line, others, isLines, isStart⟩ :=
    Text.exists_lines_eq_cons starts (by decide) (by decide) (by decide)
  rw [documents, String.toList_append, Text.lines_append_of_ended endedLine, List.foldl_append,
    isLines, foldl_of_start _ isStart, ← isLines]
  exact List.reverse_append

/-- A new document isolates what stands in front of it.  Where the first of two streams is
empty or its last line is ended, and the second begins with a start line, the remarks are
those of the first and then those of the second, whatever reads the bodies.  The first
may be malformed, or break off within a document, which is then given up. -/
theorem ofStream_append_of_new_document (read : String → Option Body) {first second : String}
    (ended : first = "" ∨ first.toList.getLast? = some '\n')
    (starts : documentStart <+: second.toList) :
    ofStream read (first ++ second) = ofStream read first ++ ofStream read second := by
  rw [ofStream, documents_append ended starts, List.filterMap_append]
  rfl

theorem ofStream_of_document {read : String → Option Body} {text kind content : String}
    {body : Body} (isOne : documents text = [(kind, content)]) (isBody : read content = some body) :
    ofStream read text = [ofBody kind body] := by
  simp [ofStream, isOne, isBody]

/-- A body without arguments is told by its other fields. -/
theorem body?_eq_of_fields {text pass name function : String} {place : Option Place}
    (fields : (body? text).map (fun body =>
      (body.pass, body.name, body.place, body.function, body.arguments.isEmpty)) =
        some (pass, name, place, function, true)) :
    body? text = some ⟨pass, name, place, function, []⟩ := by
  obtain ⟨body, isBody, areFields⟩ := Option.map_eq_some_iff.mp fields
  simp only [Prod.mk.injEq, List.isEmpty_iff] at areFields
  obtain ⟨rfl, rfl, rfl, rfl, noArguments⟩ := areFields
  rw [isBody, ← noArguments]

/-- The theorem at a stream that breaks off within a document, whose end line then is that
of the next document.  Each stream has one remark, and nothing is left of the document that
was given up. -/
theorem ofStream_append_of_new_document_unended :
    let first := "...\n--- !Missed\nPass: a\nName: n\n...\n--- !Passed\r\nPass: b\n"
    let second := "--- !Analysis\nPass: c\nName: m\nFunction: f\n...\nnote"
    (first = "" ∨ first.toList.getLast? = some '\n') ∧ documentStart <+: second.toList ∧
      ofStream body? (first ++ second) = ofStream body? first ++ ofStream body? second ∧
      ofStream body? first = [ofBody "Missed" ⟨"a", "n", none, "", []⟩] ∧
      ofStream body? second = [ofBody "Analysis" ⟨"c", "m", none, "f", []⟩] := by
  intro first second
  have ended : first = "" ∨ first.toList.getLast? = some '\n' := .inr (by decide +kernel)
  have starts : documentStart <+: second.toList := by decide +kernel
  refine ⟨ended, starts, ofStream_append_of_new_document body? ended starts, ?first, ?second⟩
  case first =>
      have isOne : documents first = [("Missed", "Pass: a\nName: n\n")] := by
        decide +kernel
      exact ofStream_of_document isOne (body?_eq_of_fields (by decide +kernel))
  case second =>
      have isOne : documents second = [("Analysis", "Pass: c\nName: m\nFunction: f\n")] := by
        decide +kernel
      exact ofStream_of_document isOne (body?_eq_of_fields (by decide +kernel))

/-- A document that is not ended is given up, and so is its kind. -/
example : documents ("--- !A\nx\n" ++ "--- !B\ny\n...\n") = [("B", "y\n")] := by
  decide +kernel

end BuildExplorer.Remark
