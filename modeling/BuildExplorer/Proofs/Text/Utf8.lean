import BuildExplorer.Text.Utf8

/-!
# Bytes of texts

A text is read back from its bytes.  The reader gets through the bytes of one character
at a time: the first of them tells how many follow, and each of the others brings six
bits of the code.
-/

namespace BuildExplorer.Text.Utf8

/-- Different texts have different bytes. -/
theorem encode_injective {first second : List Char} (same : encode first = encode second) :
    first = second := by
  have sameBytes : first.utf8Encode = second.utf8Encode := by
    rw [List.utf8Encode, List.utf8Encode]
    exact congrArg List.toByteArray same
  rw [← String.toByteArray_ofList, ← String.toByteArray_ofList, String.toByteArray_inj,
    String.ofList_inj] at sameBytes
  exact sameBytes

/-! ## One byte -/

theorem first_one {code : Nat} (isCode : code < 128) :
    State.first (UInt8.ofNat code) = (.idle, [some (Char.ofNat code)]) := by
  have each : ∀ code : Fin 128,
      State.first (UInt8.ofNat code) = (.idle, [some (Char.ofNat code)]) := by
    decide +kernel
  exact each ⟨code, isCode⟩

theorem first_two {lead : Nat} (notShorter : 2 ≤ lead) (isLead : lead < 32) :
    State.first (UInt8.ofNat (lead + 192)) = (.inside 0 0x80 0xBF lead, []) := by
  have each : ∀ lead : Fin 32, 2 ≤ lead.val →
      State.first (UInt8.ofNat (lead + 192)) = (.inside 0 0x80 0xBF lead, []) := by
    decide +kernel
  exact each ⟨lead, isLead⟩ notShorter

theorem first_three {lead : Nat} (isLead : lead < 16) :
    State.first (UInt8.ofNat (lead + 224)) =
      (.inside 1 (if lead = 0 then 0xA0 else 0x80) (if lead = 13 then 0x9F else 0xBF) lead,
        []) := by
  have each : ∀ lead : Fin 16, State.first (UInt8.ofNat (lead + 224)) =
      (.inside 1 (if lead.val = 0 then 0xA0 else 0x80) (if lead.val = 13 then 0x9F else 0xBF)
        lead, []) := by
    decide +kernel
  exact each ⟨lead, isLead⟩

theorem first_four {lead : Nat} (isLead : lead < 5) :
    State.first (UInt8.ofNat (lead + 240)) =
      (.inside 2 (if lead = 0 then 0x90 else 0x80) (if lead = 4 then 0x8F else 0xBF) lead,
        []) := by
  have each : ∀ lead : Fin 5, State.first (UInt8.ofNat (lead + 240)) =
      (.inside 2 (if lead.val = 0 then 0x90 else 0x80) (if lead.val = 4 then 0x8F else 0xBF)
        lead, []) := by
    decide +kernel
  exact each ⟨lead, isLead⟩

/-- A byte behind the first one brings its six bits. -/
theorem next_inside (missing : Nat) {low high : UInt8} (value : Nat) {tail : Nat}
    (isTail : tail < 64) (notBelow : low.toNat ≤ tail + 128) (notAbove : tail + 128 ≤ high.toNat) :
    (State.inside missing low high value).next (UInt8.ofNat (tail + 128)) =
      match missing with
      | 0 => (.idle, [some (Char.ofNat (64 * value + tail))])
      | missing + 1 => (.inside missing 0x80 0xBF (64 * value + tail), []) := by
  have isByte : (UInt8.ofNat (tail + 128)).toNat = tail + 128 := by
    rw [UInt8.toNat_ofNat']
    omega
  have inRange : (low ≤ UInt8.ofNat (tail + 128) && UInt8.ofNat (tail + 128) ≤ high) = true := by
    simp only [Bool.and_eq_true, decide_eq_true_eq, UInt8.le_iff_toNat_le, isByte]
    exact ⟨notBelow, notAbove⟩
  have sixBits : tail + 128 - (0x80 : UInt8).toNat = tail := Nat.add_sub_cancel tail 128
  simp only [State.next, inRange, if_true, isByte]
  cases missing <;> simp

/-! ## One character -/

@[simp]
theorem run_nil (state : State) : run state [] = (state, []) :=
  rfl

theorem run_append (state : State) (front back : List UInt8) :
    run state (front ++ back) =
      ((run (run state front).1 back).1,
        (run (run state front).1 back).2 ++ (run state front).2) := by
  have carried : ∀ (bytes : List UInt8) (state : State) (done : List Symbol),
      bytes.foldl (fun (found : State × List Symbol) byte =>
        ((found.1.next byte).1, (found.1.next byte).2.reverse ++ found.2)) (state, done) =
          ((run state bytes).1, (run state bytes).2 ++ done) := by
    intro bytes
    induction bytes with
    | nil => exact fun _ _ => rfl
    | cons byte bytes inductionHypothesis =>
        intro state done
        have unfolded : run state (byte :: bytes) =
            ((run (state.next byte).1 bytes).1,
              (run (state.next byte).1 bytes).2 ++ ((state.next byte).2.reverse ++ [])) := by
          rw [run, List.foldl_cons]
          exact inductionHypothesis _ _
        rw [List.foldl_cons, inductionHypothesis, unfolded]
        simp
  rw [run, List.foldl_append]
  exact carried back _ _

theorem run_cons (state : State) (byte : UInt8) (bytes : List UInt8) :
    run state (byte :: bytes) =
      ((run (state.next byte).1 bytes).1,
        (run (state.next byte).1 bytes).2 ++ (state.next byte).2.reverse) := by
  have once : run state [byte] = ((state.next byte).1, (state.next byte).2.reverse) := by
    simp [run]
  rw [← List.singleton_append, run_append, once]

/-- The bytes of a character are read as this character. -/
theorem run_utf8EncodeChar (char : Char) :
    run .idle (String.utf8EncodeChar char) = (.idle, [some char]) := by
  have valid : char.toNat < 0xD800 ∨ 0xDFFF < char.toNat ∧ char.toNat < 0x110000 := char.valid
  have isChar : Char.ofNat char.toNat = char := Char.ofNat_toNat char
  have isCode : char.val.toNat = char.toNat := rfl
  rw [String.utf8EncodeChar.eq_1, isCode]
  generalize char.toNat = code at valid isChar ⊢
  split
  · rw [run_cons, State.next, first_one (by omega), run_nil, isChar]
    rfl
  · split
    · have isWhole : 64 * (code / 64 % 32) + code % 64 = code := by omega
      rw [run_cons, State.next, first_two (by omega) (by omega), run_cons,
        next_inside 0 _ (by omega) (by simp) (by simp; omega), run_nil, isWhole, isChar]
      rfl
    · split
      · have isWhole : 64 * (64 * (code / 4096 % 16) + code / 64 % 64) + code % 64 = code := by
          omega
        rw [run_cons, State.next, first_three (by omega), run_cons,
          next_inside 1 _ (by omega) (by split <;> simp; omega) (by split <;> simp <;> omega),
          run_cons, next_inside 0 _ (by omega) (by simp) (by simp; omega), run_nil, isWhole, isChar]
        rfl
      · have isWhole : 64 * (64 * (64 * (code / 262144 % 8) + code / 4096 % 64) +
            code / 64 % 64) + code % 64 = code := by
          omega
        rw [run_cons, State.next, first_four (by omega), run_cons,
          next_inside 2 _ (by omega) (by split <;> simp; omega) (by split <;> simp <;> omega),
          run_cons, next_inside 1 _ (by omega) (by simp) (by simp; omega),
          run_cons, next_inside 0 _ (by omega) (by simp) (by simp; omega), run_nil, isWhole, isChar]
        rfl

/-! ## Bytes in two parts -/

/-- The symbols that bytes complete behind a state. -/
def symbolsFrom (state : State) (bytes : List UInt8) : List Symbol :=
  (run state bytes).2.reverse ++ (run state bytes).1.finish

/-- The symbols that the first part completes stay; those behind them are told by the
state between the parts. -/
theorem symbols_append (front back : List UInt8) :
    symbols (front ++ back) =
      (run .idle front).2.reverse ++ symbolsFrom (run .idle front).1 back := by
  change symbolsFrom .idle (front ++ back) = _
  rw [symbolsFrom, symbolsFrom, run_append, List.reverse_append, List.append_assoc]

/-- Inside of a character, a byte completes a symbol or leads on inside. -/
theorem next_inside_progresses (missing : Nat) (low high : UInt8) (value : Nat) (byte : UInt8) :
    ((State.inside missing low high value).next byte).2 ≠ [] ∨
      ((State.inside missing low high value).next byte).1 ≠ .idle := by
  rw [State.next]
  split
  · cases missing with
    | zero => exact .inl (List.cons_ne_nil _ _)
    | succ missing => exact .inr nofun
  · exact .inl (List.cons_ne_nil _ _)

/-- A character that was begun is completed, if only as a broken one. -/
theorem symbolsFrom_ne_nil {state : State} (begun : state ≠ .idle) (bytes : List UInt8) :
    symbolsFrom state bytes ≠ [] := by
  induction bytes generalizing state with
  | nil =>
      cases state with
      | idle => exact absurd rfl begun
      | inside missing low high value => exact List.cons_ne_nil _ _
  | cons byte bytes inductionHypothesis =>
      cases state with
      | idle => exact absurd rfl begun
      | inside missing low high value =>
          have isNext : symbolsFrom (.inside missing low high value) (byte :: bytes) =
              ((State.inside missing low high value).next byte).2 ++
                symbolsFrom ((State.inside missing low high value).next byte).1 bytes := by
            rw [symbolsFrom, symbolsFrom, run_cons, List.reverse_append, List.reverse_reverse,
              List.append_assoc]
          rw [isNext]
          rcases next_inside_progresses missing low high value byte with completed | inside
          · exact List.append_ne_nil_of_left_ne_nil completed _
          · exact List.append_ne_nil_of_right_ne_nil _ (inductionHypothesis inside)

/-- Bytes that are cut off read as the whole does, up to the character that the cut is in:
that one is broken by the cut, and the whole has something in its place. -/
theorem exists_decodeLossy_append (front back : List UInt8) :
    ∃ same cut whole : List Char,
      decodeLossy front = same ++ cut ∧ decodeLossy (front ++ back) = same ++ whole ∧
        (∀ char ∈ cut, char = '\uFFFD') ∧ (cut ≠ [] → whole ≠ []) := by
  let shown (symbols : List Symbol) := symbols.map (·.getD '\uFFFD')
  generalize isState : (run .idle front).1 = state
  refine ⟨shown (run .idle front).2.reverse, shown state.finish, shown (symbolsFrom state back),
    ?_, ?_, ?_, ?_⟩
  · rw [← List.map_append, ← isState]
    rfl
  · rw [← List.map_append, ← isState, decodeLossy, symbols_append]
  · cases state with
    | idle => exact List.forall_mem_nil _
    | inside missing low high value => exact List.forall_mem_singleton.mpr rfl
  · intro isCut
    have begun : state ≠ .idle := by
      rintro rfl
      exact isCut rfl
    exact fun isNil => symbolsFrom_ne_nil begun back (List.map_eq_nil_iff.mp isNil)

/-! ## Texts -/

theorem run_encode (text : List Char) :
    run .idle (encode text) = (.idle, (text.map some).reverse) := by
  induction text with
  | nil => rfl
  | cons char text inductionHypothesis =>
      rw [encode_cons, run_append, run_utf8EncodeChar]
      simp [inductionHypothesis]

theorem symbols_encode (text : List Char) : symbols (encode text) = text.map some := by
  simp [symbols, run_encode, State.finish]

/-- A text is read back from its bytes. -/
@[simp]
theorem decode?_encode (text : List Char) : decode? (encode text) = some text := by
  have unbroken : ∀ text : List Char, (text.map some).mapM id = some text := by
    intro text
    induction text with
    | nil => rfl
    | cons char text inductionHypothesis =>
        rw [List.map_cons, List.mapM_cons, inductionHypothesis]
        rfl
  rw [decode?, symbols_encode, unbroken]

@[simp]
theorem decodeLossy_encode (text : List Char) : decodeLossy (encode text) = text := by
  rw [decodeLossy, symbols_encode, List.map_map]
  exact List.map_id _

end BuildExplorer.Text.Utf8
