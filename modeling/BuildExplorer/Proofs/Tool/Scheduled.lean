import BuildExplorer.Proofs.Tool.Supervised
import Mathlib.Data.List.Basic

/-!
# A prompt supervisor always reports

A schedule lists the events of a run from what the tool does and when.  It tells of
a run only if each of its events is possible where it stands.  It does whenever the
tool acts as tools do: it ends once, each of its streams ends once, and nothing
arrives on a stream that has ended.  The invariant is that all that has happened was
dealt with at once, so that the supervisor awaits just the readers of the streams
that are still open.  The report shows what the tool has brought in time.
-/

namespace BuildExplorer.Tool.Supervision

/-! ## What a tool does -/

/-- The events that a tool brings about, and not its supervisor or a reader. -/
inductive Event.IsOfTool : Event → Prop where
  | toolEnds (ending : Ending) : IsOfTool (.toolEnds ending)
  | arrives (stream : Stream) (chunk : List UInt8) : IsOfTool (.arrives stream chunk)
  | streamEnds (stream : Stream) : IsOfTool (.streamEnds stream)

/-- The second event cannot come after the first one, as the tool or the stream that it
is of has come to its end. -/
inductive Event.Forbids : Event → Event → Prop where
  | toolEnds (ending other : Ending) : Forbids (.toolEnds ending) (.toolEnds other)
  | arrives (stream : Stream) (chunk : List UInt8) :
      Forbids (.streamEnds stream) (.arrives stream chunk)
  | streamEnds (stream : Stream) : Forbids (.streamEnds stream) (.streamEnds stream)

/-- Events in an order in which a tool can bring them about. -/
structure Coherent (events : List Event) : Prop where
  ofTool : ∀ event ∈ events, event.IsOfTool
  possible : events.Pairwise fun first second => ¬first.Forbids second

/-- The tool and its streams have come to their ends. -/
structure Complete (events : List Event) : Prop where
  ended : ∃ ending, .toolEnds ending ∈ events
  closed : ∀ stream, .streamEnds stream ∈ events

theorem Coherent.sublist {events part : List Event} (coherent : Coherent events)
    (isPart : part.Sublist events) : Coherent part where
  ofTool event member := coherent.ofTool event (isPart.subset member)
  possible := coherent.possible.sublist isPart

/-- Is the event about the tool itself, or about one of its streams? -/
def Event.isAbout : Option Stream → Event → Bool
  | none, .toolEnds _ => true
  | some stream, .arrives other _ => stream = other
  | some stream, .streamEnds other => stream = other
  | _, _ => false

/-- An event forbids only events that are about the same. -/
theorem Event.Forbids.about_same {first second : Event} (forbids : first.Forbids second) :
    ∃ about, first.isAbout about = true ∧ second.isAbout about = true := by
  cases forbids with
  | toolEnds ending other => exact ⟨none, rfl, rfl⟩
  | arrives stream chunk => exact ⟨some stream, decide_eq_true rfl, decide_eq_true rfl⟩
  | streamEnds stream => exact ⟨some stream, decide_eq_true rfl, decide_eq_true rfl⟩

/-- Events are possible in their order if those about the tool are, and those about each
stream. -/
theorem pairwise_not_forbids {happenings : List Happening}
    (each : ∀ about, (happenings.filter (·.event.isAbout about)).Pairwise fun first second =>
      ¬first.event.Forbids second.event) :
    happenings.Pairwise fun first second => ¬first.event.Forbids second.event := by
  rw [List.pairwise_iff_forall_sublist]
  intro first second part forbids
  obtain ⟨about, isFirst, isSecond⟩ := forbids.about_same
  have partOfAbout := part.filter (·.event.isAbout about)
  simp only [List.filter_cons, isFirst, isSecond, if_true, List.filter_nil] at partOfAbout
  exact List.pairwise_iff_forall_sublist.mp (each about) partOfAbout forbids

/-! ## Events and what follows them -/

/-- Events, each with what follows it at once. -/
def withReactions (events : List Event) : List Event :=
  events.flatMap fun event => event :: reactions event

theorem flatMap_event (happenings : List Happening) :
    (happenings.flatMap fun happening => happening.event :: reactions happening.event) =
      withReactions (happenings.map (·.event)) := by
  rw [withReactions, List.flatMap_map]

/-- Only the tool brings something on a stream. -/
theorem delivered_withReactions (stream : Stream) (events : List Event) :
    delivered stream (withReactions events) = delivered stream events := by
  induction events with
  | nil => rfl
  | cons event events inductionHypothesis =>
      have brings : delivered stream (event :: reactions event) = delivered stream [event] := by
        cases event <;> simp [delivered, reactions]
      have parted : withReactions (event :: events) =
          (event :: reactions event) ++ withReactions events := rfl
      rw [parted, delivered_append, brings, inductionHypothesis, ← delivered_append]
      rfl

/-- Only the tool ends. -/
theorem toolEnds_mem_withReactions {ending : Ending} {events : List Event}
    (member : .toolEnds ending ∈ withReactions events) : .toolEnds ending ∈ events := by
  obtain ⟨event, isEvent, isEnding⟩ := List.mem_flatMap.mp member
  rcases List.mem_cons.mp isEnding with rfl | isReaction
  · exact isEvent
  · cases event <;> simp [reactions] at isReaction

namespace State

/-! ## Dealing with what happens -/

/-- The tool can bring about an event next. -/
def Allows (state : State) : Event → Prop
  | .toolEnds _ => state.phase = .waiting ∧ state.ending = none
  | .arrives stream _ | .streamEnds stream => state.isReading stream = true
  | _ => False

/-- The supervisor listens, has heard all announcements, and awaits just the readers that
still have one to make. -/
structure Abreast (state : State) : Prop where
  listens : state.phase.listens = true
  announced : state.announced = 0
  awaited : state.awaited = state.owing

/-- All that has happened between two states was dealt with. -/
structure Dealt (events : List Event) (state next : State) : Prop where
  abreast : next.Abreast
  phase : next.phase = state.phase
  allows : ∀ event, state.Allows event → (∀ earlier ∈ events, ¬earlier.Forbids event) →
    next.Allows event
  seen : state.seen.isSome ∨ (∃ ending, .toolEnds ending ∈ events) → next.seen.isSome
  gone : ∀ stream, (state.reader stream).state = .gone ∨ .streamEnds stream ∈ events →
    (next.reader stream).state = .gone

theorem Abreast.dealt_nil {state : State} (abreast : state.Abreast) : Dealt [] state state where
  abreast
  phase := rfl
  allows _ allowed _ := allowed
  seen seen := by simpa using seen
  gone stream gone := by simpa using gone

theorem Dealt.append {earlier later : List Event} {state between next : State}
    (first : Dealt earlier state between) (second : Dealt later between next) :
    Dealt (earlier ++ later) state next where
  abreast := second.abreast
  phase := second.phase.trans first.phase
  allows event allowed unforbidden :=
    second.allows event
      (first.allows event allowed fun other member =>
        unforbidden other (List.mem_append_left later member))
      fun other member => unforbidden other (List.mem_append_right earlier member)
  seen seen := by
    apply second.seen
    simp only [List.mem_append] at seen
    obtain seen | ⟨ending, member | member⟩ := seen
    · exact .inl (first.seen (.inl seen))
    · exact .inl (first.seen (.inr ⟨ending, member⟩))
    · exact .inr ⟨ending, member⟩
  gone stream gone := by
    apply second.gone
    simp only [List.mem_append] at gone
    obtain gone | member | member := gone
    · exact .inl (first.gone stream (.inl gone))
    · exact .inl (first.gone stream (.inr member))
    · exact .inr member

/-- The supervisor sees at once that the tool has ended. -/
theorem Abreast.toolEnds {state : State} (abreast : state.Abreast) {ending : Ending}
    (allowed : state.Allows (.toolEnds ending)) :
    ∃ next, state.run [.toolEnds ending, .looks] = some next ∧
      Dealt [.toolEnds ending] state next := by
  obtain ⟨waits, runs⟩ := allowed
  have ran : state.run [.toolEnds ending, .looks] =
      some { state with ending := some ending, seen := some ending } := by
    simp [State.run, step, waits, runs]
  refine ⟨_, ran, ?dealt⟩
  case dealt =>
    refine ⟨⟨abreast.listens, abreast.announced, abreast.awaited⟩, rfl, ?allows, fun _ => rfl,
      fun stream gone => ?gone⟩
    case allows =>
      intro event allowed unforbidden
      cases event with
      | toolEnds other => exact absurd (.toolEnds ending other) (unforbidden _ (by simp))
      | _ => exact allowed
    case gone =>
      have isGone : (state.reader stream).state = .gone := by simpa using gone
      exact isGone

/-- How the reader of a stream is left once an event of the stream was dealt with. -/
inductive Leaves (stream : Stream) : Event → ReaderState → Prop where
  | arrives (chunk : List UInt8) : Leaves stream (.arrives stream chunk) .reading
  | streamEnds : Leaves stream (.streamEnds stream) .gone

/-- An event of a stream concerns nobody but the reader of the stream. -/
theorem Abreast.dealt_setReader {state : State} (abreast : state.Abreast) {stream : Stream}
    {event : Event} {capture : Capture} {after : ReaderState} {awaited : Nat}
    (leaves : Leaves stream event after) (reads : state.isReading stream = true)
    (awaits : awaited = (state.setReader stream ⟨capture, after⟩).owing) :
    Dealt [event] state { state.setReader stream ⟨capture, after⟩ with awaited } := by
  have isReading : (state.reader stream).state = .reading := of_decide_eq_true reads
  have phase : (state.setReader stream ⟨capture, after⟩).phase = state.phase := by
    cases stream <;> rfl
  have ending : (state.setReader stream ⟨capture, after⟩).ending = state.ending := by
    cases stream <;> rfl
  have seen : (state.setReader stream ⟨capture, after⟩).seen = state.seen := by
    cases stream <;> rfl
  have announced := announced_setReader state stream ⟨capture, after⟩
  have readsStill (other : Stream) (readsOther : state.isReading other = true)
      (goesOn : event = .streamEnds stream → other ≠ stream) :
      (state.setReader stream ⟨capture, after⟩).isReading other = true := by
    rw [isReading_setReader]
    cases leaves with
    | arrives chunk => simp [readsOther]
    | streamEnds => rw [if_neg (goesOn rfl), readsOther]
  refine ⟨⟨phase ▸ abreast.listens, announced.trans abreast.announced, awaits⟩, phase, ?allows,
    ?seen, ?gone⟩
  case allows =>
    intro other allowed unforbidden
    have free : ¬event.Forbids other := unforbidden event (List.mem_singleton_self event)
    cases other with
    | toolEnds _ => exact ⟨phase.trans allowed.1, ending.trans allowed.2⟩
    | arrives _ chunk =>
        exact readsStill _ allowed fun isEnd same => free (isEnd ▸ same ▸ .arrives stream chunk)
    | streamEnds _ =>
        exact readsStill _ allowed fun isEnd same => free (isEnd ▸ same ▸ .streamEnds stream)
    | _ => exact allowed
  case seen =>
    intro sees
    have seenBefore : state.seen.isSome := by
      cases leaves <;> simpa using sees
    exact seen ▸ seenBefore
  case gone =>
    intro other gone
    change ((state.setReader stream ⟨capture, after⟩).reader other).state = .gone
    rw [reader_setReader]
    cases leaves with
    | arrives chunk =>
        have goneBefore : (state.reader other).state = .gone := by simpa using gone
        have otherStream : other ≠ stream := by
          rintro rfl
          rw [isReading] at goneBefore
          cases goneBefore
        rw [if_neg otherStream, goneBefore]
    | streamEnds =>
        split
        · rfl
        · rename_i otherStream
          simpa [otherStream] using gone

/-- The reader of a stream keeps what arrives. -/
theorem Abreast.arrives {state : State} (abreast : state.Abreast) {stream : Stream}
    {chunk : List UInt8} (reads : state.isReading stream = true) :
    ∃ next, state.run [.arrives stream chunk] = some next ∧
      Dealt [.arrives stream chunk] state next := by
  have isReading : (state.reader stream).state = .reading := of_decide_eq_true reads
  have owing : state.awaited = (state.setReader stream
      ⟨(state.reader stream).capture.add state.limit chunk, .reading⟩).owing := by
    rw [owing_setReader_of_same (by rw [isReading]), abreast.awaited]
  refine ⟨_, ?_, abreast.dealt_setReader (.arrives chunk) reads owing⟩
  cases stream <;> simp [State.run, step, reads, isReading, setReader]

/-- The end of a stream is announced and heard of, and its reader goes. -/
theorem Abreast.streamEnds {state : State} (abreast : state.Abreast) {stream : Stream}
    (reads : state.isReading stream = true) :
    ∃ next, state.run [.streamEnds stream, .announces stream, .leaves stream, .takes] =
      some next ∧ Dealt [.streamEnds stream] state next := by
  have isReading : (state.reader stream).state = .reading := of_decide_eq_true reads
  have owing : state.awaited - 1 = (state.setReader stream
      ⟨(state.reader stream).capture, .gone⟩).owing := by
    have fewer : (state.setReader stream
        ⟨(state.reader stream).capture, .gone⟩).owing + 1 = state.owing :=
      owing_setReader_of_owes (by rw [isReading]; rfl) rfl
    rw [abreast.awaited]
    omega
  refine ⟨_, ?_, abreast.dealt_setReader .streamEnds reads owing⟩
  cases stream <;>
    simp [State.run, step, reads, setReader, reader, abreast.announced, abreast.listens]

/-- Whatever the tool can bring about is dealt with. -/
theorem Abreast.deal {state : State} (abreast : state.Abreast) {event : Event}
    (ofTool : event.IsOfTool) (allowed : state.Allows event) :
    ∃ next, state.run (event :: reactions event) = some next ∧ Dealt [event] state next := by
  cases ofTool with
  | toolEnds ending => exact abreast.toolEnds allowed
  | arrives stream chunk => exact abreast.arrives allowed
  | streamEnds stream => exact abreast.streamEnds allowed

/-- What the tool can bring about one after the other is dealt with. -/
theorem Abreast.dealAll {state : State} (abreast : state.Abreast) {events : List Event}
    (coherent : Coherent events) (allowed : ∀ event ∈ events, state.Allows event) :
    ∃ next, state.run (withReactions events) = some next ∧ Dealt events state next := by
  induction events generalizing state with
  | nil => exact ⟨state, rfl, abreast.dealt_nil⟩
  | cons event events inductionHypothesis =>
      rw [List.forall_mem_cons] at allowed
      obtain ⟨notForbidden, _⟩ := List.pairwise_cons.mp coherent.possible
      obtain ⟨between, ran, dealt⟩ :=
        abreast.deal (coherent.ofTool event List.mem_cons_self) allowed.1
      have allowedStill : ∀ later ∈ events, between.Allows later := fun later member =>
        dealt.allows later (allowed.2 later member) fun earlier isEvent => by
          rw [List.mem_singleton.mp isEvent]
          exact notForbidden later member
      obtain ⟨next, ranOn, dealtOn⟩ := inductionHypothesis dealt.abreast
        (coherent.sublist (List.sublist_cons_self event events)) allowedStill
      refine ⟨next, ?_, dealt.append dealtOn⟩
      rw [withReactions, List.flatMap_cons, run_append, ran]
      exact ranOn

/-- A supervisor that kills the tool goes on with what comes on the streams. -/
theorem Abreast.expires {state : State} (abreast : state.Abreast)
    (waits : state.phase = .waiting) :
    ∃ killed, state.step .expires = some killed ∧ killed.phase = .draining ∧ killed.Abreast ∧
      ∀ event, event.isOfStream = true → state.Allows event → killed.Allows event := by
  have expires : state.step .expires = some { state with
      phase := .draining, ending := some (state.ending.getD (.signal killSignal)) } := by
    rw [step, if_pos waits]
  refine ⟨_, expires, rfl, ⟨rfl, abreast.announced, abreast.awaited⟩, ?_⟩
  intro event ofStream allowed
  cases event with
  | arrives | streamEnds => exact allowed
  | _ => cases ofStream

/-- A supervisor that has seen the tool and both streams end reports that. -/
theorem Dealt.reports_completed {events : List Event} {state next : State}
    (dealt : Dealt events state next) (waits : state.phase = .waiting)
    (complete : Complete events) (elapsedMs : UInt64) :
    ∃ ending, next.seen = some ending ∧
      (next.run [.completes, .reports elapsedMs]).bind report? =
        some (completed next.stdout.capture next.stderr.capture ending elapsedMs) := by
  obtain ⟨ending, seen⟩ := Option.isSome_iff_exists.mp (dealt.seen (.inr complete.ended))
  have nobody : next.owing = 0 := owing_eq_zero_of_allGone <| by
    rw [allGone, Bool.and_eq_true, decide_eq_true_eq, decide_eq_true_eq]
    exact ⟨dealt.gone .stdout (.inr (complete.closed .stdout)),
      dealt.gone .stderr (.inr (complete.closed .stderr))⟩
  have awaitsNobody : next.awaited = 0 := dealt.abreast.awaited.trans nobody
  have waitsStill : next.phase = .waiting := dealt.phase.trans waits
  refine ⟨ending, seen, ?_⟩
  simp [State.run, step, waitsStill, seen, awaitsNobody, report?]

/-- A supervisor that has killed the tool reports that. -/
theorem Dealt.reports_stopped {events : List Event} {state next : State}
    (dealt : Dealt events state next) (drains : state.phase = .draining) (elapsedMs : UInt64) :
    (next.run [.concludes, .reports elapsedMs]).bind report? =
      some (stopped next.stdout.capture next.stderr.capture elapsedMs) := by
  have drainsStill : next.phase = .draining := dealt.phase.trans drains
  simp [State.run, step, drainsStill, report?]

theorem allows_at_start (limit : Nat) {event : Event} (ofTool : event.IsOfTool) :
    Allows { limit } event := by
  rcases ofTool with ending | ⟨_ | _, chunk⟩ | (_ | _)
  case toolEnds => exact ⟨rfl, rfl⟩
  all_goals rfl

end State

/-! ## Reports -/

/-- What is kept of a stream after some events. -/
def keptOf (limit : Nat) (events : List Event) (stream : Stream) : Capture :=
  .ofBytes limit (delivered stream events)

/-- Where the tool and its streams come to their ends, the report tells how the tool did, and
shows what arrived. -/
theorem report_of_complete {events : List Event} (coherent : Coherent events)
    (complete : Complete events) (limit : Nat) (elapsedMs : UInt64) :
    ∃ ending, .toolEnds ending ∈ events ∧
      (State.run { limit } (withReactions events ++ [.completes, .reports elapsedMs])).bind
        State.report? =
          some (completed (keptOf limit events .stdout) (keptOf limit events .stderr) ending
            elapsedMs) := by
  have startAbreast : State.Abreast { limit } := ⟨rfl, rfl, rfl⟩
  obtain ⟨next, ran, dealt⟩ := startAbreast.dealAll coherent fun event member =>
    State.allows_at_start limit (coherent.ofTool event member)
  obtain ⟨ending, seen, isReport⟩ := dealt.reports_completed rfl complete elapsedMs
  have upheld := (State.upheld_start limit).run ran
  have captures (stream : Stream) : (next.reader stream).capture = keptOf limit events stream := by
    rw [keptOf, ← delivered_withReactions]
    exact upheld.captures stream
  refine ⟨ending, toolEnds_mem_withReactions (upheld.sees ending seen), ?_⟩
  rw [State.run_append, ran, ← captures, ← captures]
  exact isReport

/-- Where the tool is killed, the report tells that, and shows what arrived before and after
that. -/
theorem report_of_killed {early later : List Event} (coherent : Coherent (early ++ later))
    (ofStream : ∀ event ∈ later, event.isOfStream = true) (limit : Nat) (elapsedMs : UInt64) :
    (State.run { limit } (withReactions early ++ .expires :: withReactions later ++
      [.concludes, .reports elapsedMs])).bind State.report? =
        some (stopped (keptOf limit (early ++ later) .stdout)
          (keptOf limit (early ++ later) .stderr) elapsedMs) := by
  have coherentEarly := coherent.sublist (List.sublist_append_left early later)
  have coherentLater := coherent.sublist (List.sublist_append_right early later)
  have startAbreast : State.Abreast { limit } := ⟨rfl, rfl, rfl⟩
  obtain ⟨between, ran, dealt⟩ := startAbreast.dealAll coherentEarly fun event member =>
    State.allows_at_start limit (coherentEarly.ofTool event member)
  obtain ⟨killed, expires, drains, killedAbreast, allowedStill⟩ :=
    dealt.abreast.expires dealt.phase
  obtain ⟨next, ranOn, dealtOn⟩ := killedAbreast.dealAll coherentLater fun event member => by
    refine allowedStill event (ofStream event member) ?_
    have atStart := State.allows_at_start limit (coherentLater.ofTool event member)
    refine dealt.allows event atStart fun earlier isEarlier => ?_
    exact (List.pairwise_append.mp coherent.possible).2.2 earlier isEarlier event member
  have whole : State.run { limit } (withReactions early ++ .expires :: withReactions later) =
      some next := by
    rw [State.run_append, ran, Option.bind_some, State.run, expires, Option.bind_some, ranOn]
  have upheld := (State.upheld_start limit).run whole
  have captures (stream : Stream) :
      (next.reader stream).capture = keptOf limit (early ++ later) stream := by
    have brings : delivered stream (.expires :: withReactions later) =
        delivered stream (withReactions later) := rfl
    rw [keptOf, delivered_append, ← delivered_withReactions, ← delivered_withReactions stream later,
      ← brings, ← delivered_append]
    exact upheld.captures stream
  rw [State.run_append, whole, ← captures, ← captures]
  exact dealtOn.reports_stopped drains elapsedMs

/-! ## Schedules -/

/-- What a tool does, in order.  If that is said to be all, then the tool and its streams
have come to their ends by a time. -/
structure Credible (isComplete : Bool) (endMs : Nat) (happenings : List Happening) :
    Prop where
  coherent : Coherent (happenings.map (·.event))
  inOrder : happenings.Pairwise fun first second => first.timeMs ≤ second.timeMs
  complete : isComplete = true → Complete (happenings.map (·.event))
  inTime : isComplete = true → ∀ happening ∈ happenings, happening.timeMs ≤ endMs

/-- What happens before a deadline. -/
def early (deadlineMs : Nat) (happenings : List Happening) : List Happening :=
  happenings.filter (·.timeMs < deadlineMs)

/-- What happens on the streams in the moment after a deadline. -/
def late (deadlineMs : Nat) (happenings : List Happening) : List Happening :=
  happenings.filter fun happening =>
    deadlineMs ≤ happening.timeMs && happening.timeMs < deadlineMs + graceMs &&
      happening.event.isOfStream

/-- In the order of time, a deadline parts what comes before it from what comes later. -/
theorem filter_lt_append_filter_le {Item : Type} {time : Item → Nat} {items : List Item}
    (inOrder : items.Pairwise fun first second => time first ≤ time second) (deadline : Nat) :
    items.filter (time · < deadline) ++ items.filter (deadline ≤ time ·) = items := by
  induction items with
  | nil => rfl
  | cons first rest inductionHypothesis =>
      obtain ⟨isFirst, inOrder⟩ := List.pairwise_cons.mp inOrder
      by_cases early : time first < deadline
      · have notLate : ¬deadline ≤ time first := Nat.not_le_of_lt early
        simpa [early, notLate] using inductionHypothesis inOrder
      · have allLate : ∀ item ∈ first :: rest, deadline ≤ time item := by
          have firstLate := Nat.le_of_not_lt early
          exact List.forall_mem_cons.mpr
            ⟨firstLate, fun item member => Nat.le_trans firstLate (isFirst item member)⟩
        have noneEarly : (first :: rest).filter (time · < deadline) = [] := by
          rw [List.filter_eq_nil_iff]
          intro item member
          simpa using allLate item member
        rw [noneEarly, List.nil_append, List.filter_eq_self]
        exact fun item member => decide_eq_true (allLate item member)

section

variable {isComplete : Bool} {endMs deadlineMs : Nat} {happenings : List Happening}

theorem early_append_late_sublist (deadlineMs : Nat)
    (inOrder : happenings.Pairwise fun first second => first.timeMs ≤ second.timeMs) :
    (early deadlineMs happenings ++ late deadlineMs happenings).Sublist happenings := by
  have lateLater : (late deadlineMs happenings).Sublist
      (happenings.filter (deadlineMs ≤ ·.timeMs)) := by
    refine List.monotone_filter_right happenings fun happening isLate => ?_
    exact (Bool.and_eq_true_iff.mp (Bool.and_eq_true_iff.mp isLate).1).1
  have both := (List.Sublist.refl (early deadlineMs happenings)).append lateLater
  rwa [early, filter_lt_append_filter_le inOrder deadlineMs] at both

/-- If all is over before the deadline, the report tells how the tool ended, and shows what
arrived on its streams. -/
theorem report_eq_completed (credible : Credible isComplete endMs happenings)
    (allOver : isComplete = true) (inTime : endMs < deadlineMs) (limit : Nat) :
    let events := happenings.map (·.event)
    ∃ ending, .toolEnds ending ∈ events ∧
      report limit deadlineMs isComplete endMs happenings =
        some (completed (keptOf limit events .stdout) (keptOf limit events .stderr) ending
          (UInt64.ofNat endMs)) := by
  intro events
  have all : happenings.filter (·.timeMs < deadlineMs) = happenings := by
    rw [List.filter_eq_self]
    intro happening member
    have := credible.inTime allOver happening member
    exact decide_eq_true (by omega)
  have decided : (isComplete && endMs < deadlineMs) = true := by simp [allOver, inTime]
  rw [report, schedule]
  simp only [decided, if_true, all, flatMap_event]
  exact report_of_complete credible.coherent (credible.complete allOver) limit _

/-- If all is not over before the deadline, the report tells that the tool was killed, and
shows what arrived on its streams before that and in the moment after it. -/
theorem report_eq_stopped (credible : Credible isComplete endMs happenings)
    (tooLate : ¬(isComplete = true ∧ endMs < deadlineMs)) (limit : Nat) :
    let events := (early deadlineMs happenings ++ late deadlineMs happenings).map (·.event)
    report limit deadlineMs isComplete endMs happenings =
      some (stopped (keptOf limit events .stdout) (keptOf limit events .stderr)
        (UInt64.ofNat deadlineMs)) := by
  intro events
  have part := early_append_late_sublist deadlineMs credible.inOrder
  have parted : events = (early deadlineMs happenings).map (·.event) ++
      (late deadlineMs happenings).map (·.event) := List.map_append
  have coherent := credible.coherent.sublist (part.map (·.event))
  rw [List.map_append] at coherent
  have ofStream : ∀ event ∈ (late deadlineMs happenings).map (·.event),
      event.isOfStream = true := by
    intro event member
    obtain ⟨happening, isHappening, rfl⟩ := List.mem_map.mp member
    exact (Bool.and_eq_true_iff.mp (List.mem_filter.mp isHappening).2).2
  have decided : ¬(isComplete && endMs < deadlineMs) = true := by
    rwa [Bool.and_eq_true, decide_eq_true_eq]
  rw [report, schedule]
  simp only [decided, flatMap_event]
  rw [parted]
  exact report_of_killed coherent ofStream limit _

/-- Whatever a tool does, a prompt supervisor makes a report on it. -/
theorem exists_report (credible : Credible isComplete endMs happenings)
    (limit deadlineMs : Nat) :
    ∃ made, report limit deadlineMs isComplete endMs happenings = some made := by
  by_cases inTime : isComplete = true ∧ endMs < deadlineMs
  · obtain ⟨_, -, isReport⟩ := report_eq_completed credible inTime.1 inTime.2 limit
    exact ⟨_, isReport⟩
  · exact ⟨_, report_eq_stopped credible inTime limit⟩

end

end BuildExplorer.Tool.Supervision
