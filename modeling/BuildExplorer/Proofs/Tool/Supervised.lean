import BuildExplorer.Tool.Supervision

/-!
# Supervised runs lose no output

A supervisor takes a run for complete when it awaits no reader any more.  It counts
readers down by their announcements, or sets the count to nothing once all of them are
gone and no announcement is on its way.  So it never awaits fewer readers than have an
announcement to make or on its way.  This is the invariant that ties its count to the
readers, in whatever order the parties act: a run completes only when the tool has ended
and both streams were read to their end, unless a reader died.  A run that is stopped at
the deadline shows what the readers had when their captures were taken.
-/

namespace BuildExplorer.Tool

/-! ## What is kept of a stream -/

namespace Capture

/-- What is kept of a stream that has brought some bytes: as many of the first ones as
there is room for. -/
def ofBytes (limit : Nat) (bytes : List UInt8) : Capture where
  kept := bytes.take limit
  truncated := limit < bytes.length

@[simp]
theorem ofBytes_nil (limit : Nat) : ofBytes limit [] = {} := by
  simp [ofBytes]

theorem kept_prefix (limit : Nat) (bytes : List UInt8) : (ofBytes limit bytes).kept <+: bytes :=
  List.take_prefix limit bytes

theorem length_kept_le (limit : Nat) (bytes : List UInt8) :
    (ofBytes limit bytes).kept.length ≤ limit :=
  List.length_take_le limit bytes

/-- How the bytes were cut into chunks does not show in what is kept of them. -/
theorem add_ofBytes (limit : Nat) (bytes chunk : List UInt8) :
    (ofBytes limit bytes).add limit chunk = ofBytes limit (bytes ++ chunk) := by
  by_cases full : limit < bytes.length
  · have more : limit < (bytes ++ chunk).length := by
      rw [List.length_append]
      omega
    simp only [ofBytes, full, more, decide_true, add_truncated]
    rw [List.take_append_of_le_length (by omega)]
  · have whole : bytes.take limit = bytes := List.take_of_length_le (by omega)
    have parts : (bytes ++ chunk).take limit = bytes ++ chunk.take (limit - bytes.length) := by
      rw [List.take_append, whole]
    by_cases fits : chunk.length ≤ limit - bytes.length
    · have room : ¬limit < (bytes ++ chunk).length := by
        rw [List.length_append]
        omega
      simp only [ofBytes, add, full, room, whole, parts, decide_false, fits, if_true,
        List.take_of_length_le fits]
      rfl
    · have more : limit < (bytes ++ chunk).length := by
        rw [List.length_append]
        omega
      simp only [ofBytes, add, full, more, whole, parts, decide_false, decide_true, fits, if_false]
      rfl

end Capture

namespace Supervision

/-- What a stream has brought to its reader in the course of events. -/
def delivered (stream : Stream) (events : List Event) : List UInt8 :=
  events.flatMap fun
    | .arrives other chunk => if other = stream then chunk else []
    | _ => []

@[simp]
theorem delivered_nil (stream : Stream) : delivered stream [] = [] :=
  rfl

@[simp]
theorem delivered_append (stream : Stream) (earlier later : List Event) :
    delivered stream (earlier ++ later) = delivered stream earlier ++ delivered stream later :=
  List.flatMap_append

/-- The reports that are made of what was taken of both streams: there is no ending if the
tool was killed. -/
inductive Final (stdout stderr : Capture) : Option Ending → Report → Prop where
  | completed (ending : Ending) (elapsedMs : UInt64) :
      Final stdout stderr (some ending) (completed stdout stderr ending elapsedMs)
  | stopped (elapsedMs : UInt64) : Final stdout stderr none (stopped stdout stderr elapsedMs)

namespace State

/-! ## The parts of a state -/

@[simp]
theorem reader_setReader (state : State) (stream other : Stream) (reader : Reader) :
    (state.setReader stream reader).reader other =
      if other = stream then reader else state.reader other := by
  cases stream <;> cases other <;> rfl

/-- Nothing but the readers changes with a reader. -/
theorem setReader_eq (state : State) (stream : Stream) (reader : Reader) :
    ∃ stdout stderr, state.setReader stream reader = { state with stdout, stderr } := by
  cases stream with
  | stdout => exact ⟨reader, state.stderr, rfl⟩
  | stderr => exact ⟨state.stdout, reader, rfl⟩

/-- A reader makes no announcement by being changed. -/
theorem announced_setReader (state : State) (stream : Stream) (reader : Reader) :
    (state.setReader stream reader).announced = state.announced := by
  cases stream <;> rfl

theorem setReader_eq_announced (state : State) (stream : Stream) (reader : Reader) :
    state.setReader stream reader =
      { state.setReader stream reader with announced := state.announced } := by
  cases stream <;> rfl

theorem isReading_setReader (state : State) (stream other : Stream) (reader : Reader) :
    (state.setReader stream reader).isReading other =
      if other = stream then decide (reader.state = .reading) else state.isReading other := by
  rw [isReading, reader_setReader]
  split <;> rfl

/-- How many readers have an announcement to make. -/
def owing (state : State) : Nat :=
  (state.reader .stdout).state.owes.toNat + (state.reader .stderr).state.owes.toNat

/-- What a change of a reader does to the number of readers that have an announcement to
make. -/
theorem owing_setReader (state : State) (stream : Stream) (reader : Reader) :
    (state.setReader stream reader).owing + (state.reader stream).state.owes.toNat =
      state.owing + reader.state.owes.toNat := by
  cases stream with
  | stdout =>
      simp only [owing, reader_setReader, if_true, reduceCtorEq, if_false]
      omega
  | stderr =>
      simp only [owing, reader_setReader, if_true, reduceCtorEq, if_false]
      omega

theorem owing_setReader_of_same {state : State} {stream : Stream} {capture : Capture}
    {after : ReaderState} (same : after.owes = (state.reader stream).state.owes) :
    (state.setReader stream ⟨capture, after⟩).owing = state.owing := by
  have owing_eq := owing_setReader state stream ⟨capture, after⟩
  rw [same] at owing_eq
  exact Nat.add_right_cancel owing_eq

theorem owing_setReader_of_owes {state : State} {stream : Stream} {capture : Capture}
    {after : ReaderState} (owes : (state.reader stream).state.owes = true)
    (done : after.owes = false) :
    (state.setReader stream ⟨capture, after⟩).owing + 1 = state.owing := by
  have owing_eq := owing_setReader state stream ⟨capture, after⟩
  rwa [owes, done] at owing_eq

/-- Where no announcement is to be made, nothing is read. -/
theorem isReading_eq_false_of_owing {state : State} (noneOwes : state.owing = 0)
    (stream : Stream) : state.isReading stream = false := by
  have owesNothing : (state.reader stream).state.owes = false := by
    rw [owing, Nat.add_eq_zero_iff, Bool.toNat_eq_zero, Bool.toNat_eq_zero] at noneOwes
    cases stream with
    | stdout => exact noneOwes.1
    | stderr => exact noneOwes.2
  refine decide_eq_false fun reads => ?_
  rw [reads] at owesNothing
  cases owesNothing

/-- Readers that are gone have no announcement to make. -/
theorem owing_eq_zero_of_allGone {state : State} (gone : state.allGone = true) :
    state.owing = 0 := by
  rw [allGone, Bool.and_eq_true, decide_eq_true_eq, decide_eq_true_eq] at gone
  obtain ⟨stdout, stderr⟩ := gone
  rw [owing, reader, reader, stdout, stderr]
  rfl

/-! ## What can happen -/

/-- What an event that is possible makes of a state. -/
inductive Advance (state : State) : Event → State → Prop where
  | toolEnds {ending : Ending} :
      Advance state (.toolEnds ending) { state with ending := some ending }
  | arrives {stream : Stream} {chunk : List UInt8} (reads : state.isReading stream = true) :
      Advance state (.arrives stream chunk) (state.setReader stream
        ⟨(state.reader stream).capture.add state.limit chunk, (state.reader stream).state⟩)
  | streamEnds {stream : Stream} (reads : state.isReading stream = true) :
      Advance state (.streamEnds stream)
        (state.setReader stream ⟨(state.reader stream).capture, .ended⟩)
  | announces {stream : Stream} (ended : (state.reader stream).state = .ended) :
      Advance state (.announces stream)
        { state.setReader stream ⟨(state.reader stream).capture, .announced⟩ with
          announced := state.announced + 1 }
  | leaves {stream : Stream} (announced : (state.reader stream).state = .announced) :
      Advance state (.leaves stream)
        (state.setReader stream ⟨(state.reader stream).capture, .gone⟩)
  | readerDies {stream : Stream} (owes : (state.reader stream).state.owes = true) :
      Advance state (.readerDies stream)
        (state.setReader stream ⟨(state.reader stream).capture, .gone⟩)
  | looks (waits : state.phase = .waiting) :
      Advance state .looks { state with seen := state.ending }
  | takes {left : Nat} (listens : state.phase.listens = true)
      (announced : state.announced = left + 1) :
      Advance state .takes { state with announced := left, awaited := state.awaited - 1 }
  | seesNone (listens : state.phase.listens = true) (noneLeft : state.announced = 0)
      (gone : state.allGone = true) :
      Advance state .seesNone { state with awaited := 0 }
  | completes {ending : Ending} (waits : state.phase = .waiting)
      (seen : state.seen = some ending) (noneLeft : state.awaited = 0) :
      Advance state .completes
        { state with phase := .collecting (some ending) state.stdout.capture }
  | expires {ending : Ending} (waits : state.phase = .waiting) :
      Advance state .expires { state with phase := .draining, ending := some ending }
  | concludes (drains : state.phase = .draining) :
      Advance state .concludes { state with phase := .collecting none state.stdout.capture }
  | reportsCompleted {ending : Ending} {stdout : Capture} {elapsedMs : UInt64}
      (collects : state.phase = .collecting (some ending) stdout) :
      Advance state (.reports elapsedMs)
        { state with phase := .over (completed stdout state.stderr.capture ending elapsedMs) }
  | reportsStopped {stdout : Capture} {elapsedMs : UInt64}
      (collects : state.phase = .collecting none stdout) :
      Advance state (.reports elapsedMs)
        { state with phase := .over (stopped stdout state.stderr.capture elapsedMs) }

theorem report?_eq_some_iff {state : State} {report : Report} :
    state.report? = some report ↔ state.phase = .over report := by
  unfold report?
  cases state.phase <;> simp

theorem advance_of_step {state next : State} {event : Event}
    (stepped : state.step event = some next) : Advance state event next := by
  cases event with
  | toolEnds ending =>
      simp only [State.step, Option.ite_none_right_eq_some, Option.some.injEq] at stepped
      obtain ⟨-, rfl⟩ := stepped
      exact .toolEnds
  | arrives stream chunk =>
      simp only [State.step, Option.ite_none_right_eq_some, Option.some.injEq] at stepped
      obtain ⟨reads, rfl⟩ := stepped
      exact .arrives reads
  | streamEnds stream =>
      simp only [State.step, Option.ite_none_right_eq_some, Option.some.injEq] at stepped
      obtain ⟨reads, rfl⟩ := stepped
      exact .streamEnds reads
  | announces stream =>
      simp only [State.step, announced_setReader, Option.ite_none_right_eq_some,
        Option.some.injEq] at stepped
      obtain ⟨ended, rfl⟩ := stepped
      exact .announces ended
  | leaves stream =>
      simp only [State.step, Option.ite_none_right_eq_some, Option.some.injEq] at stepped
      obtain ⟨announced, rfl⟩ := stepped
      exact .leaves announced
  | readerDies stream =>
      simp only [State.step, Option.ite_none_right_eq_some, Option.some.injEq] at stepped
      obtain ⟨owes, rfl⟩ := stepped
      exact .readerDies owes
  | looks =>
      simp only [State.step, Option.ite_none_right_eq_some, Option.some.injEq] at stepped
      obtain ⟨waits, rfl⟩ := stepped
      exact .looks waits
  | takes =>
      simp only [State.step] at stepped
      split at stepped
      · cases stepped
      · rename_i left announced
        simp only [Option.ite_none_right_eq_some, Option.some.injEq] at stepped
        obtain ⟨listens, rfl⟩ := stepped
        exact .takes listens announced
  | seesNone =>
      simp only [State.step, Bool.and_eq_true, decide_eq_true_eq, Option.ite_none_right_eq_some,
        Option.some.injEq] at stepped
      obtain ⟨⟨⟨listens, noneLeft⟩, gone⟩, rfl⟩ := stepped
      exact .seesNone listens noneLeft gone
  | completes =>
      simp only [State.step] at stepped
      split at stepped
      · rename_i ending waits seen
        simp only [Option.ite_none_right_eq_some, Option.some.injEq] at stepped
        obtain ⟨noneLeft, rfl⟩ := stepped
        exact .completes waits seen noneLeft
      · cases stepped
  | expires =>
      simp only [State.step, Option.ite_none_right_eq_some, Option.some.injEq] at stepped
      obtain ⟨waits, rfl⟩ := stepped
      exact .expires waits
  | concludes =>
      simp only [State.step, Option.ite_none_right_eq_some, Option.some.injEq] at stepped
      obtain ⟨drains, rfl⟩ := stepped
      exact .concludes drains
  | reports elapsedMs =>
      simp only [State.step] at stepped
      split at stepped
      · rename_i collects
        cases stepped
        exact .reportsCompleted collects
      · rename_i collects
        cases stepped
        exact .reportsStopped collects
      · cases stepped

/-! ## Readers that are gone -/

/-- A reader that has read to the end, or died, gets nothing more. -/
theorem Advance.keeps_unread {state next : State} {event : Event} {stream : Stream}
    (advance : Advance state event next) (unread : state.isReading stream = false) :
    next.isReading stream = false ∧ delivered stream [event] = [] := by
  have unreads : ∀ other capture after, after ≠ .reading →
      (state.setReader other ⟨capture, after⟩).isReading stream = false := by
    intro other capture after readsNoMore
    rw [isReading_setReader, decide_eq_false readsNoMore, unread, ite_self]
  cases advance with
  | @arrives other chunk reads =>
      have apart : other ≠ stream := by
        rintro rfl
        rw [unread] at reads
        cases reads
      constructor
      · rw [isReading_setReader, if_neg apart.symm]
        exact unread
      · simp [delivered, apart]
  | @streamEnds other | @leaves other | @readerDies other =>
      exact ⟨unreads other _ _ (by decide), rfl⟩
  | @announces other =>
      refine ⟨?_, rfl⟩
      have same := unreads other (state.reader other).capture .announced (by decide)
      rwa [setReader_eq_announced] at same
  | _ => exact ⟨unread, rfl⟩

theorem delivered_of_unread {state last : State} {events : List Event} {stream : Stream}
    (ran : state.run events = some last) (unread : state.isReading stream = false) :
    delivered stream events = [] := by
  induction events generalizing state with
  | nil => rfl
  | cons event events inductionHypothesis =>
      obtain ⟨next, stepped, ranOn⟩ := Option.bind_eq_some_iff.mp ran
      obtain ⟨unreadStill, brings⟩ := (advance_of_step stepped).keeps_unread unread
      have split : delivered stream (event :: events) =
          delivered stream [event] ++ delivered stream events :=
        delivered_append stream [event] events
      rw [split, brings, inductionHypothesis ranOn unreadStill]
      rfl

/-! ## What holds after some events -/

/-- What is known of a supervisor that has taken the output: the tool had ended and nothing
more can come, or the deadline had come. -/
inductive Collected (limit : Nat) (events : List Event) (state : State) :
    Option Ending → Capture → Prop where
  | whole {ending : Ending} (ended : .toolEnds ending ∈ events)
      (unread : ∀ stream, state.isReading stream = false) :
      Collected limit events state (some ending) (.ofBytes limit (delivered .stdout events))
  | part {earlier : List Event} (isEarlier : earlier <+: events) (expired : .expires ∈ earlier) :
      Collected limit events state none (.ofBytes limit (delivered .stdout earlier))

theorem Collected.advance {limit : Nat} {events : List Event} {state next : State}
    {event : Event} {ending : Option Ending} {stdout : Capture}
    (collected : Collected limit events state ending stdout)
    (advance : Advance state event next) :
    Collected limit (events ++ [event]) next ending stdout := by
  cases collected with
  | whole ended unread =>
      have bringsNothing := (advance.keeps_unread (unread .stdout)).2
      have same : delivered .stdout events = delivered .stdout (events ++ [event]) := by
        rw [delivered_append, bringsNothing, List.append_nil]
      rw [same]
      exact .whole (List.mem_append_left _ ended) fun stream =>
        (advance.keeps_unread (unread stream)).1
  | part isEarlier expired => exact .part (isEarlier.trans (List.prefix_append _ _)) expired

/-- What is known of a state that was reached by some events. -/
structure Upheld (limit : Nat) (events : List Event) (state : State) : Prop where
  limit_eq : state.limit = limit
  /-- A reader has captured what its stream has brought. -/
  captures : ∀ stream, (state.reader stream).capture = .ofBytes limit (delivered stream events)
  /-- A reader stops reading only if its stream has ended, or if it has died. -/
  goes : ∀ stream, state.isReading stream = false →
    .streamEnds stream ∈ events ∨ .readerDies stream ∈ events
  /-- The supervisor has not missed a reader that is still to be heard of. -/
  awaits : state.owing + state.announced ≤ state.awaited
  /-- Until the tool is killed, it ends by itself. -/
  ends : ∀ ending, state.phase = .waiting → state.ending = some ending →
    .toolEnds ending ∈ events
  sees : ∀ ending, state.seen = some ending → .toolEnds ending ∈ events
  drains : state.phase = .draining → .expires ∈ events
  collects : ∀ ending stdout, state.phase = .collecting ending stdout →
    Collected limit events state ending stdout

theorem upheld_start (limit : Nat) : Upheld limit [] { limit } := by
  constructor
  case limit_eq => rfl
  case captures =>
      intro stream
      rw [delivered_nil, Capture.ofBytes_nil]
      cases stream <;> rfl
  case goes => intro stream gone; cases stream <;> cases gone
  case awaits => exact Nat.le_refl 2
  case ends => intro ending _ impossible; cases impossible
  case sees => intro ending impossible; cases impossible
  case drains => intro impossible; cases impossible
  case collects => intro ending stdout impossible; cases impossible

/-- An event that brings nothing leaves alone what was brought. -/
theorem Upheld.quiet {limit : Nat} {events : List Event} {state next : State} {event : Event}
    (upheld : Upheld limit events state) (brings : ∀ stream, delivered stream [event] = [])
    (limit_eq : next.limit = state.limit)
    (readers : ∀ stream, next.reader stream = state.reader stream)
    (awaits : state.owing + next.announced ≤ next.awaited)
    (ends : ∀ ending, next.phase = .waiting → next.ending = some ending →
      .toolEnds ending ∈ events ++ [event])
    (sees : ∀ ending, next.seen = some ending → .toolEnds ending ∈ events ++ [event])
    (drains : next.phase = .draining → .expires ∈ events ++ [event])
    (collects : ∀ ending stdout, next.phase = .collecting ending stdout →
      Collected limit (events ++ [event]) next ending stdout) :
    Upheld limit (events ++ [event]) next := by
  constructor
  case limit_eq => exact limit_eq.trans upheld.limit_eq
  case captures =>
      intro stream
      rw [readers, upheld.captures, delivered_append, brings, List.append_nil]
  case goes =>
      intro stream unread
      rw [isReading, readers] at unread
      exact (upheld.goes stream unread).imp (List.mem_append_left _) (List.mem_append_left _)
  case awaits =>
      rw [owing, readers, readers]
      exact awaits
  case ends => exact ends
  case sees => exact sees
  case drains => exact drains
  case collects => exact collects

/-- An event at the reader of one stream. -/
theorem Upheld.atReader {limit : Nat} {events : List Event} {state next : State} {event : Event}
    {stream : Stream} {reader : Reader} {announced : Nat} (upheld : Upheld limit events state)
    (advance : Advance state event next)
    (isNext : next = { state.setReader stream reader with announced })
    (brings : ∀ other, other ≠ stream → delivered other [event] = [])
    (captures : reader.capture = .ofBytes limit (delivered stream (events ++ [event])))
    (goes : reader.state ≠ .reading →
      .streamEnds stream ∈ events ++ [event] ∨ .readerDies stream ∈ events ++ [event])
    (awaits : (state.setReader stream reader).owing + announced ≤ state.awaited) :
    Upheld limit (events ++ [event]) next := by
  have readers : ∀ other, next.reader other = (state.setReader stream reader).reader other := by
    intro other
    rw [isNext]
    cases other <;> rfl
  have owing_eq : next.owing = (state.setReader stream reader).owing := by
    rw [owing, readers, readers]
    rfl
  obtain ⟨stdout, stderr, isSet⟩ := setReader_eq state stream reader
  rw [isSet] at isNext
  constructor
  case limit_eq => rw [isNext]; exact upheld.limit_eq
  case captures =>
      intro other
      rw [readers, reader_setReader]
      by_cases same : other = stream
      · rw [if_pos same, same]
        exact captures
      · rw [if_neg same, upheld.captures, delivered_append, brings other same, List.append_nil]
  case goes =>
      intro other unread
      rw [isReading, readers, reader_setReader] at unread
      by_cases same : other = stream
      · rw [if_pos same] at unread
        rw [same]
        exact goes (of_decide_eq_false unread)
      · rw [if_neg same] at unread
        exact (upheld.goes other unread).imp (List.mem_append_left _) (List.mem_append_left _)
  case awaits =>
      rw [owing_eq, isNext]
      exact awaits
  case ends =>
      intro ending waits isEnding
      rw [isNext] at waits isEnding
      exact List.mem_append_left _ (upheld.ends ending waits isEnding)
  case sees =>
      intro ending isSeen
      rw [isNext] at isSeen
      exact List.mem_append_left _ (upheld.sees ending isSeen)
  case drains =>
      intro drains
      rw [isNext] at drains
      exact List.mem_append_left _ (upheld.drains drains)
  case collects =>
      intro ending stdout collects
      have samePhase : next.phase = state.phase := by rw [isNext]
      rw [samePhase] at collects
      exact (upheld.collects ending stdout collects).advance advance

/-- A reader that goes on, or goes, keeps what it has captured. -/
theorem Upheld.captures_still {limit : Nat} {events : List Event} {state : State} {event : Event}
    {stream : Stream} (upheld : Upheld limit events state)
    (brings : delivered stream [event] = []) :
    (state.reader stream).capture = .ofBytes limit (delivered stream (events ++ [event])) := by
  rw [upheld.captures, delivered_append, brings, List.append_nil]

/-- A reader that has read to the end, or died, is known to have done so. -/
theorem Upheld.goes_still {limit : Nat} {events : List Event} {state : State}
    {stream : Stream} (upheld : Upheld limit events state)
    (readsNoMore : (state.reader stream).state ≠ .reading) (event : Event) :
    .streamEnds stream ∈ events ++ [event] ∨ .readerDies stream ∈ events ++ [event] :=
  (upheld.goes stream (decide_eq_false readsNoMore)).imp
    (List.mem_append_left _) (List.mem_append_left _)

/-- What is known of a state stays true with every event that is possible. -/
theorem Upheld.advance {limit : Nat} {events : List Event} {state next : State} {event : Event}
    (upheld : Upheld limit events state) (advance : Advance state event next) :
    Upheld limit (events ++ [event]) next := by
  have awaits := upheld.awaits
  have isLast : event ∈ events ++ [event] := by simp
  have endsStill : ∀ ending, state.phase = .waiting → state.ending = some ending →
      .toolEnds ending ∈ events ++ [event] := by
    intro ending waits isEnding
    exact List.mem_append_left _ (upheld.ends ending waits isEnding)
  have seesStill : ∀ ending, state.seen = some ending →
      .toolEnds ending ∈ events ++ [event] := by
    intro ending isSeen
    exact List.mem_append_left _ (upheld.sees ending isSeen)
  have drainsStill : state.phase = .draining → .expires ∈ events ++ [event] := by
    intro drains
    exact List.mem_append_left _ (upheld.drains drains)
  have collectsStill : ∀ ending stdout, state.phase = .collecting ending stdout →
      Collected limit (events ++ [event]) next ending stdout := by
    intro ending stdout collects
    exact (upheld.collects ending stdout collects).advance advance
  cases advance with
  | toolEnds =>
      refine upheld.quiet (fun _ => rfl) rfl (fun _ => rfl) awaits ?_ seesStill drainsStill
        collectsStill
      rintro _ - ⟨⟩
      exact isLast
  | @arrives stream chunk reads =>
      have reading : (state.reader stream).state = .reading := of_decide_eq_true reads
      refine upheld.atReader (.arrives reads) (setReader_eq_announced _ _ _) ?brings ?captures
        ?goes ?awaits
      case brings =>
          intro other apart
          simp [delivered, apart.symm]
      case captures =>
          rw [upheld.captures, upheld.limit_eq, Capture.add_ofBytes, delivered_append]
          simp [delivered]
      case goes => intro readsNoMore; exact absurd reading readsNoMore
      case awaits =>
          rw [owing_setReader_of_same rfl]
          exact awaits
  | @streamEnds stream reads =>
      have reading : (state.reader stream).state = .reading := of_decide_eq_true reads
      refine upheld.atReader (.streamEnds reads) (setReader_eq_announced _ _ _) (fun _ _ => rfl)
        (upheld.captures_still rfl) (fun _ => .inl isLast) ?awaits
      case awaits =>
          rw [owing_setReader_of_same (by rw [reading]; rfl)]
          exact awaits
  | @announces stream ended =>
      have readsNoMore : (state.reader stream).state ≠ .reading := by
        rw [ended]
        decide
      refine upheld.atReader (.announces ended) rfl (fun _ _ => rfl)
        (upheld.captures_still rfl) (fun _ => upheld.goes_still readsNoMore _) ?awaits
      case awaits =>
          have owes : (state.reader stream).state.owes = true := by rw [ended]; rfl
          have fewer : (state.setReader stream
              ⟨(state.reader stream).capture, .announced⟩).owing + 1 = state.owing :=
            owing_setReader_of_owes owes rfl
          omega
  | @leaves stream announced =>
      have readsNoMore : (state.reader stream).state ≠ .reading := by
        rw [announced]
        decide
      refine upheld.atReader (.leaves announced) (setReader_eq_announced _ _ _) (fun _ _ => rfl)
        (upheld.captures_still rfl) (fun _ => upheld.goes_still readsNoMore _) ?awaits
      case awaits =>
          rw [owing_setReader_of_same (by rw [announced]; rfl)]
          exact awaits
  | @readerDies stream owes =>
      refine upheld.atReader (.readerDies owes) (setReader_eq_announced _ _ _) (fun _ _ => rfl)
        (upheld.captures_still rfl) (fun _ => .inr isLast) ?awaits
      case awaits =>
          have fewer : (state.setReader stream
              ⟨(state.reader stream).capture, .gone⟩).owing + 1 = state.owing :=
            owing_setReader_of_owes owes rfl
          omega
  | looks waits =>
      refine upheld.quiet (fun _ => rfl) rfl (fun _ => rfl) awaits endsStill ?_ drainsStill
        collectsStill
      intro ending isSeen
      exact endsStill ending waits isSeen
  | takes listens announced =>
      refine upheld.quiet (fun _ => rfl) rfl (fun _ => rfl) ?_ endsStill seesStill drainsStill
        collectsStill
      dsimp only
      omega
  | seesNone listens noneLeft gone =>
      refine upheld.quiet (fun _ => rfl) rfl (fun _ => rfl) ?_ endsStill seesStill drainsStill
        collectsStill
      have noneOwes := owing_eq_zero_of_allGone gone
      dsimp only
      omega
  | @completes ending waits seen noneLeft =>
      have noneOwes : state.owing = 0 := by omega
      refine upheld.quiet (fun _ => rfl) rfl (fun _ => rfl) awaits (by rintro _ ⟨⟩) seesStill
        (by rintro ⟨⟩) ?_
      rintro _ _ ⟨⟩
      have captured : (state.reader .stdout).capture =
          .ofBytes limit (delivered .stdout (events ++ [.completes])) :=
        upheld.captures_still rfl
      rw [reader] at captured
      rw [captured]
      exact .whole (seesStill ending seen) (isReading_eq_false_of_owing noneOwes)
  | concludes drains =>
      refine upheld.quiet (fun _ => rfl) rfl (fun _ => rfl) awaits (by rintro _ ⟨⟩) seesStill
        (by rintro ⟨⟩) ?_
      rintro _ _ ⟨⟩
      have captured : state.stdout.capture = .ofBytes limit (delivered .stdout events) :=
        upheld.captures .stdout
      rw [captured]
      exact .part (List.prefix_append _ _) (upheld.drains drains)
  | expires =>
      refine upheld.quiet (fun _ => rfl) rfl (fun _ => rfl) awaits (by rintro _ ⟨⟩) seesStill
        (fun _ => isLast) ?_
      rintro _ _ ⟨⟩
  | reportsCompleted | reportsStopped =>
      refine upheld.quiet (fun _ => rfl) rfl (fun _ => rfl) awaits (by rintro _ ⟨⟩) seesStill
        (by rintro ⟨⟩) ?_
      rintro _ _ ⟨⟩

theorem Upheld.run {limit : Nat} {earlier events : List Event} {state last : State}
    (upheld : Upheld limit earlier state) (ran : state.run events = some last) :
    Upheld limit (earlier ++ events) last := by
  induction events generalizing earlier state with
  | nil =>
      cases ran
      rw [List.append_nil]
      exact upheld
  | cons event events inductionHypothesis =>
      obtain ⟨next, stepped, ranOn⟩ := Option.bind_eq_some_iff.mp ran
      have later := inductionHypothesis (upheld.advance (advance_of_step stepped)) ranOn
      rwa [List.append_assoc] at later

/-! ## When a report is made -/

theorem run_append (state : State) (earlier later : List Event) :
    state.run (earlier ++ later) = (state.run earlier).bind fun between => between.run later := by
  induction earlier generalizing state with
  | nil => rfl
  | cons event events inductionHypothesis =>
      rw [List.cons_append, State.run, State.run, Option.bind_assoc]
      congr 1
      funext next
      exact inductionHypothesis next

/-- A report stays as it is, whatever else happens. -/
theorem Advance.keeps_report {state next : State} {event : Event} {report : Report}
    (advance : Advance state event next) (isReport : state.report? = some report) :
    next.report? = some report := by
  have isOver := report?_eq_some_iff.mp isReport
  cases advance with
  | toolEnds => exact isReport
  | @arrives stream | @streamEnds stream | @announces stream | @leaves stream
  | @readerDies stream => cases stream <;> exact isReport
  | looks isPhase | completes isPhase | expires isPhase | concludes isPhase
  | reportsCompleted isPhase | reportsStopped isPhase =>
      rw [isOver] at isPhase
      cases isPhase
  | takes listens | seesNone listens =>
      rw [isOver] at listens
      cases listens

theorem report?_of_run {state last : State} {events : List Event} {report : Report}
    (ran : state.run events = some last) (isReport : state.report? = some report) :
    last.report? = some report := by
  induction events generalizing state with
  | nil =>
      cases ran
      exact isReport
  | cons event events inductionHypothesis =>
      obtain ⟨next, stepped, ranOn⟩ := Option.bind_eq_some_iff.mp ran
      exact inductionHypothesis ranOn ((advance_of_step stepped).keeps_report isReport)

/-- A report is made by a supervisor that has taken the output, of that and of what was
captured of the errors. -/
theorem Advance.makes_report {state next : State} {event : Event} {report : Report}
    (advance : Advance state event next) (notYet : state.report? = none)
    (isReport : next.report? = some report) :
    ∃ ending stdout, state.phase = .collecting ending stdout ∧
      Final stdout state.stderr.capture ending report := by
  have isOver := report?_eq_some_iff.mp isReport
  have notOver : state.phase ≠ .over report := by
    intro overBefore
    rw [report?_eq_some_iff.mpr overBefore] at notYet
    cases notYet
  cases advance with
  | toolEnds | looks | takes | seesNone => exact absurd isOver notOver
  | @arrives stream | @streamEnds stream | @announces stream | @leaves stream
  | @readerDies stream => cases stream <;> exact absurd isOver notOver
  | completes | expires | concludes => cases isOver
  | @reportsCompleted ending stdout elapsedMs collects =>
      cases isOver
      exact ⟨some ending, stdout, collects, .completed ending elapsedMs⟩
  | @reportsStopped stdout elapsedMs collects =>
      cases isOver
      exact ⟨none, stdout, collects, .stopped elapsedMs⟩

/-- A run with a report has an event with which the report was made. -/
theorem exists_reporting_event {state last : State} {events : List Event} {report : Report}
    (ran : state.run events = some last) (notYet : state.report? = none)
    (isReport : last.report? = some report) :
    ∃ before event after between next, events = before ++ event :: after ∧
      state.run before = some between ∧ between.report? = none ∧
      between.step event = some next ∧ next.report? = some report ∧
      next.run after = some last := by
  induction events generalizing state with
  | nil =>
      cases ran
      rw [notYet] at isReport
      cases isReport
  | cons event events inductionHypothesis =>
      obtain ⟨next, stepped, ranOn⟩ := Option.bind_eq_some_iff.mp ran
      cases reported : next.report? with
      | none =>
          obtain ⟨before, later, after, between, final, rfl, ranBefore, rest⟩ :=
            inductionHypothesis ranOn reported
          refine ⟨event :: before, later, after, between, final, rfl, ?_, rest⟩
          rw [State.run, stepped]
          exact ranBefore
      | some other =>
          have same := report?_of_run ranOn reported
          rw [isReport, Option.some.injEq] at same
          subst same
          exact ⟨[], event, events, state, next, rfl, rfl, notYet, stepped, reported, ranOn⟩

end State

/-! ## What a report tells -/

/-- A report shows what is kept of the bytes of both streams, and behind the errors some
more lines. -/
structure Shows (limit : Nat) (bytes : Stream → List UInt8) (more : List String)
    (report : Report) : Prop where
  stdout : report.stdout = (Capture.ofBytes limit (bytes .stdout)).lines
  stderr : report.stderr = (Capture.ofBytes limit (bytes .stderr)).lines ++ more
  truncated : report.truncated =
    (decide (limit < (bytes .stdout).length) || decide (limit < (bytes .stderr).length))

/-- A report on a run that was complete before some of its events. -/
structure Completed (limit : Nat) (before events : List Event) (report : Report) : Prop where
  ended : ∃ ending, .toolEnds ending ∈ before ∧ report.code = ending.code
  closed : ∀ stream, .streamEnds stream ∈ before ∨ .readerDies stream ∈ before
  /-- Nothing that was brought is missing, also of what came later. -/
  shows : Shows limit (fun stream => delivered stream events) [] report

/-- What was brought when the output was taken after some events, and the errors after some
others. -/
def brought (output errors : List Event) : Stream → List UInt8
  | .stdout => delivered .stdout output
  | .stderr => delivered .stderr errors

/-- A report on a run that was stopped: the deadline had come before the output was taken,
and the errors were taken after that. -/
structure Stopped (limit : Nat) (output errors events : List Event) (report : Report) :
    Prop where
  expired : .expires ∈ output
  first : output <+: errors
  code : report.code = 124
  lastError : report.stderr.getLast? = some timeoutLine
  shows : Shows limit (brought output errors) [timeoutLine] report
  kept : ∀ stream, (Capture.ofBytes limit (brought output errors stream)).kept <+:
      delivered stream events ∧
    (Capture.ofBytes limit (brought output errors stream)).kept.length ≤ limit

theorem delivered_prefix {stream : Stream} {earlier events : List Event}
    (isEarlier : earlier <+: events) : delivered stream earlier <+: delivered stream events := by
  obtain ⟨later, rfl⟩ := isEarlier
  rw [delivered_append]
  exact List.prefix_append _ _

open State in
/-- A report that a supervisor makes, in whatever order the tool, the readers and the
supervisor act, is on one of two kinds of runs.  Where the deadline did not come first,
the tool had ended, each stream had come to its end or lost its reader, and all that the
streams have brought is shown as far as there is room.  Where it did, the report says so,
and shows what the readers had when it was taken. -/
theorem report_accounts_for_streams {limit : Nat} {events : List Event} {last : State}
    {report : Report} (ran : State.run { limit } events = some last)
    (isReport : last.report? = some report) :
    ∃ before event after, events = before ++ event :: after ∧
      (State.run { limit } before).bind State.report? = none ∧
      (State.run { limit } (before ++ [event])).bind State.report? = some report ∧
      (report.timedOut = false ∧ Completed limit before events report ∨
        report.timedOut = true ∧ ∃ output, Stopped limit output before events report) := by
  obtain ⟨before, event, after, between, next, rfl, ranBefore, notYet, stepped, reported, ranOn⟩ :=
    exists_reporting_event ran rfl isReport
  have upheld : Upheld limit before between := (upheld_start limit).run ranBefore
  have ranTo : State.run { limit } (before ++ [event]) = some next := by
    rw [run_append, ranBefore, Option.bind_some, State.run, stepped]
    rfl
  refine ⟨before, event, after, rfl, ?_, ?_, ?_⟩
  · rw [ranBefore]
    exact notYet
  · rw [ranTo]
    exact reported
  have stderr : between.stderr.capture = .ofBytes limit (delivered .stderr before) :=
    upheld.captures .stderr
  obtain ⟨ending, stdout, collects, final⟩ := (advance_of_step stepped).makes_report notYet reported
  rw [stderr] at final
  cases upheld.collects ending stdout collects with
  | @whole ending ended unread =>
      have whole : ∀ stream, delivered stream (before ++ event :: after) =
          delivered stream before := by
        intro stream
        have ranBetween : between.run (event :: after) = some last := by
          rw [State.run, stepped]
          exact ranOn
        rw [delivered_append, delivered_of_unread ranBetween (unread stream), List.append_nil]
      cases final
      left
      refine ⟨rfl, ⟨ending, ended, rfl⟩, fun stream => upheld.goes stream (unread stream), ?_⟩
      simp only [whole]
      exact ⟨rfl, (List.append_nil _).symm, rfl⟩
  | @part output isEarlier expired =>
      cases final
      right
      refine ⟨rfl, output, expired, isEarlier, rfl, List.getLast?_concat, ⟨rfl, rfl, rfl⟩, ?_⟩
      intro stream
      refine ⟨(Capture.kept_prefix limit _).trans ?_, Capture.length_kept_le limit _⟩
      cases stream with
      | stdout => exact delivered_prefix (isEarlier.trans (List.prefix_append _ _))
      | stderr => exact delivered_prefix (List.prefix_append _ _)

/-- The theorem at a tool that ends well, while something it has left running holds its
output open until the deadline: what was kept of the output is shown, and that it is not
all. -/
theorem report_accounts_for_streams_held_open :
    let events : List Event :=
      [.arrives .stdout [104, 97, 108, 102], .toolEnds (.exit 0), .looks, .streamEnds .stderr,
        .announces .stderr, .takes, .leaves .stderr, .arrives .stdout [33, 33], .expires,
        .concludes, .arrives .stdout [33], .reports 1000]
    ∃ last report, State.run { limit := 5 } events = some last ∧ last.report? = some report ∧
      report.stdout = ["half!", "[Truncated]"] ∧
      report.stderr = ["Killed - processing time exceeded"] ∧
      ∃ before event after, events = before ++ event :: after ∧
        (State.run { limit := 5 } before).bind State.report? = none ∧
        (State.run { limit := 5 } (before ++ [event])).bind State.report? = some report ∧
        (report.timedOut = false ∧ Completed 5 before events report ∨
          report.timedOut = true ∧ ∃ output, Stopped 5 output before events report) := by
  intro events
  have shown : ((State.run { limit := 5 } events).bind State.report?).map
      (fun report => (report.stdout, report.stderr)) =
        some (["half!", "[Truncated]"], ["Killed - processing time exceeded"]) := by
    decide +kernel
  obtain ⟨report, isSome, isShown⟩ := Option.map_eq_some_iff.mp shown
  obtain ⟨last, ran, isReport⟩ := Option.bind_eq_some_iff.mp isSome
  obtain ⟨stdout, stderr⟩ := Prod.mk.inj isShown
  exact ⟨last, report, ran, isReport, stdout, stderr, report_accounts_for_streams ran isReport⟩

end Supervision

end BuildExplorer.Tool
