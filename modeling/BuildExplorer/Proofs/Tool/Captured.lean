import BuildExplorer.Proofs.Text.Lines
import BuildExplorer.Proofs.Text.Utf8
import BuildExplorer.Proofs.Tool.Supervised

/-!
# What is captured of a stream

A reader takes a stream as it comes, in chunks of any size.  What it keeps is told by the
bytes alone, and it goes on reading when it keeps no more, until a read says that the stream
is over or has failed.  A reader under supervision does the same, chunk by chunk.

Only the first bytes are kept, and the cut may be anywhere: inside of a character, between
the two characters of a line end, beside bytes that belong to no character.  Reading the
kept bytes gives what reading all of them gives, up to one broken character at the cut; so
the lines are the same, up to the line that the cut is in.
-/

namespace BuildExplorer.Tool

/-! ## Chunks -/

namespace Capture

theorem foldl_add_ofBytes (limit : Nat) (bytes : List UInt8) (chunks : List (List UInt8)) :
    chunks.foldl (add limit) (ofBytes limit bytes) = ofBytes limit (bytes ++ chunks.flatten) := by
  induction chunks generalizing bytes with
  | nil => simp
  | cons chunk chunks inductionHypothesis =>
      rw [List.foldl_cons, add_ofBytes, inductionHypothesis, List.flatten_cons, List.append_assoc]

/-- What is kept of chunks is kept of their bytes. -/
theorem ofChunks_eq_ofBytes (limit : Nat) (chunks : List (List UInt8)) :
    ofChunks limit chunks = ofBytes limit chunks.flatten := by
  have kept := foldl_add_ofBytes limit [] chunks
  rwa [ofBytes_nil, List.nil_append] at kept

/-- Chunks are read and added, however much is kept already. -/
theorem readAll_chunks (limit : Nat) (capture : Capture) {chunks : List (List UInt8)}
    (nonempty : ∀ chunk ∈ chunks, chunk ≠ []) (reads : List Read) :
    readAll limit capture (chunks.map .ok ++ reads) =
      readAll limit (chunks.foldl (add limit) capture) reads := by
  induction chunks generalizing capture with
  | nil => rfl
  | cons chunk chunks inductionHypothesis =>
      obtain ⟨chunkNonempty, othersNonempty⟩ := List.forall_mem_cons.mp nonempty
      obtain ⟨byte, bytes, rfl⟩ := List.exists_cons_of_ne_nil chunkNonempty
      exact inductionHypothesis _ othersNonempty

/-- The read at the end of the stream is the last one, and so is a read that fails. -/
theorem readAll_last (limit : Nat) (capture : Capture) {last : Read}
    (isLast : last = .ok [] ∨ ∃ fault, last = .error fault) (unread : List Read) :
    readAll limit capture (last :: unread) = (capture, some unread) := by
  rcases isLast with rfl | ⟨fault, rfl⟩ <;> rfl

end Capture

namespace Supervision

namespace State

/-- A reader that reads takes the chunk that comes, and goes on reading. -/
theorem step_arrives (state : State) (stream : Stream) (capture : Capture)
    (chunk : List UInt8) :
    (state.setReader stream ⟨capture, .reading⟩).step (.arrives stream chunk) =
      some (state.setReader stream ⟨capture.add state.limit chunk, .reading⟩) := by
  cases stream <;> rfl

/-- A reader that reads takes all chunks that come. -/
theorem run_arrivals (state : State) (stream : Stream) (capture : Capture)
    (chunks : List (List UInt8)) :
    (state.setReader stream ⟨capture, .reading⟩).run (chunks.map (.arrives stream)) =
      some (state.setReader stream ⟨chunks.foldl (.add state.limit) capture, .reading⟩) := by
  induction chunks generalizing capture with
  | nil => rfl
  | cons chunk chunks inductionHypothesis =>
      rw [List.map_cons, State.run, step_arrives, Option.bind_some, inductionHypothesis,
        List.foldl_cons]

/-- A reader that reads stops at the end of its stream and keeps what it has. -/
theorem step_streamEnds (state : State) (stream : Stream) (capture : Capture) :
    (state.setReader stream ⟨capture, .reading⟩).step (.streamEnds stream) =
      some (state.setReader stream ⟨capture, .ended⟩) := by
  cases stream <;> rfl

end State

/-- What is captured of a stream are its first bytes, as many as there is room for, and
whether it has brought more: the chunks in which they come have no say, nor whether the
stream is over at last or fails.  A reader reads on as long as chunks come, also when it keeps
no more, makes no read behind the last one, and does so under supervision, too. -/
theorem chunks_have_no_say {limit : Nat} {bytes : List UInt8} {chunks : List (List UInt8)}
    {last : Read} (isStream : chunks.flatten = bytes) (nonempty : ∀ chunk ∈ chunks, chunk ≠ [])
    (isLast : last = .ok [] ∨ ∃ fault, last = .error fault) (unread : List Read) :
    let capture : Capture := { kept := bytes.take limit, truncated := limit < bytes.length }
    Capture.readAll limit {} (chunks.map .ok) = (capture, none) ∧
      Capture.readAll limit {} (chunks.map .ok ++ last :: unread) = (capture, some unread) ∧
        ∀ (state : State) (stream : Stream), state.limit = limit →
          (state.setReader stream {}).run (chunks.map (.arrives stream)) =
              some (state.setReader stream ⟨capture, .reading⟩) ∧
            (state.setReader stream {}).run (chunks.map (.arrives stream) ++ [.streamEnds stream]) =
              some (state.setReader stream ⟨capture, .ended⟩) := by
  intro capture
  have captured : chunks.foldl (.add limit) {} = capture := by
    rw [← Capture.ofChunks, Capture.ofChunks_eq_ofBytes, isStream]
    rfl
  refine ⟨?waits, ?ends, fun state stream isLimit => ?supervised⟩
  case waits =>
      have read := Capture.readAll_chunks limit {} nonempty []
      rwa [List.append_nil, captured] at read
  case ends =>
      rw [Capture.readAll_chunks limit {} nonempty, captured, Capture.readAll_last limit _ isLast]
  case supervised =>
      have arrived := State.run_arrivals state stream {} chunks
      rw [isLimit, captured] at arrived
      refine ⟨arrived, ?_⟩
      rw [State.run_append, arrived, Option.bind_some, State.run, State.step_streamEnds]
      rfl

/-- The theorem at a stream that fails after its room was filled inside of a chunk. -/
theorem chunks_have_no_say_failing_stream :
    let chunks : List (List UInt8) := [[104], [97, 108], [102, 33, 33], [10]]
    let bytes : List UInt8 := [104, 97, 108, 102, 33, 33, 10]
    let last : Read := .error .brokenPipe
    let capture : Capture := ⟨[104, 97, 108, 102, 33], true⟩
    let start : State := { limit := 5 }
    chunks.flatten = bytes ∧ (∀ chunk ∈ chunks, chunk ≠ []) ∧
      (last = .ok [] ∨ ∃ fault, last = .error fault) ∧ start.limit = 5 ∧
      Capture.readAll 5 {} (chunks.map .ok) = (capture, none) ∧
        Capture.readAll 5 {} (chunks.map .ok ++ last :: [.ok [10]]) = (capture, some [.ok [10]]) ∧
          start.run (chunks.map (.arrives .stderr)) =
              some (start.setReader .stderr ⟨capture, .reading⟩) ∧
            start.run (chunks.map (.arrives .stderr) ++ [.streamEnds .stderr]) =
              some (start.setReader .stderr ⟨capture, .ended⟩) := by
  intro chunks bytes last capture start
  have nonempty : ∀ chunk ∈ chunks, chunk ≠ [] := by decide
  have isLast : last = .ok [] ∨ ∃ fault, last = .error fault := .inr ⟨_, rfl⟩
  obtain ⟨waits, ends, supervised⟩ :=
    chunks_have_no_say (rfl : chunks.flatten = bytes) nonempty isLast [.ok [10]]
  exact ⟨rfl, nonempty, isLast, rfl, waits, ends, supervised start .stderr rfl⟩

end Supervision

/-! ## Lines in front of the cut -/

/-- The texts of a stream that is cut off and of the whole stream begin alike.  Behind that
the one has a broken character at most, and the other has something if the one has. -/
theorem exists_decodeLossy_take (limit : Nat) (bytes : List UInt8) :
    ∃ same cut whole : List Char,
      Text.Utf8.decodeLossy (bytes.take limit) = same ++ cut ∧
        Text.Utf8.decodeLossy bytes = same ++ whole ∧ '\n' ∉ cut ∧ (cut ≠ [] → whole ≠ []) := by
  obtain ⟨same, cut, whole, isCut, isWhole, broken, goesOn⟩ :=
    Text.Utf8.exists_decodeLossy_append (bytes.take limit) (bytes.drop limit)
  rw [List.take_append_drop] at isWhole
  refine ⟨same, cut, whole, isCut, isWhole, fun isFeed => ?_, goesOn⟩
  exact absurd (broken '\n' isFeed) (by decide)

/-- A stream that is cut off, wherever that is, has no more lines than the whole stream, and
each of its lines but the last is the line of the whole stream at the same place. -/
theorem cut_changes_last_line_only (limit : Nat) (bytes : List UInt8) :
    let cut := linesOfBytes (bytes.take limit)
    let whole := linesOfBytes bytes
    cut.length ≤ whole.length ∧
      ∀ index, index + 1 < cut.length → cut[index]? = whole[index]? := by
  intro cut whole
  obtain ⟨same, left, right, isCut, isWhole, noFeed, goesOn⟩ := exists_decodeLossy_take limit bytes
  have cutLines : cut = (Text.lines (same ++ left)).map String.ofList := by
    rw [← isCut]
    rfl
  have wholeLines : whole = (Text.lines (same ++ right)).map String.ofList := by
    rw [← isWhole]
    rfl
  have begins : cut.dropLast <+: whole := by
    rw [cutLines, wholeLines, ← List.map_dropLast]
    exact (Text.dropLast_lines_prefix same noFeed right).map String.ofList
  refine ⟨?_, fun index isEarlier => ?_⟩
  · rw [cutLines, wholeLines, List.length_map, List.length_map]
    exact Text.length_lines_le same noFeed goesOn
  · have isLine : index < cut.dropLast.length := by
      rw [List.length_dropLast]
      omega
    rw [List.prefix_iff_getElem?.mp begins index isLine, List.getElem_dropLast,
      List.getElem?_eq_getElem]

/-- The theorem at a cut inside of the second line, between the bytes of a character. -/
theorem cut_changes_last_line_only_in_character :
    let bytes : List UInt8 := [0x61, 0x0D, 0x0A, 0xE2, 0x82, 0xAC, 0x0D, 0x0A, 0x62]
    let cut := linesOfBytes (bytes.take 5)
    let whole := linesOfBytes bytes
    cut = ["a", "\uFFFD"] ∧ whole = ["a", "€", "b"] ∧ 0 + 1 < cut.length ∧
      cut.length ≤ whole.length ∧ cut[0]? = whole[0]? := by
  intro bytes cut whole
  have isEarlier : 0 + 1 < cut.length := by decide +kernel
  obtain ⟨noMore, same⟩ := cut_changes_last_line_only 5 bytes
  exact ⟨by decide +kernel, by decide +kernel, isEarlier, noMore, same 0 isEarlier⟩

end BuildExplorer.Tool
