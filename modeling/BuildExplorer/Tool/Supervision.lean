import BuildExplorer.Tool.Capture

/-!
# Supervision of a run

A run has three parties.  The tool writes to two streams and ends.  A reader for
each stream captures what comes, announces the end of the stream, and goes; or
it dies without an announcement.  The supervisor waits until it has seen the
tool end and knows that both readers are done.  If the deadline comes first, it
kills the tool, and gives the readers a moment for what is left.  Then it takes
what they have captured of the output, and after that of the errors, and reports
both.

The parties act in any order: a run is a list of events, and an event that is
not possible ends the run in `none`.
-/

namespace BuildExplorer.Tool

/-- One of the two streams that are captured. -/
inductive Stream where
  | stdout
  | stderr
  deriving DecidableEq, Repr

/-- How a tool ended. -/
inductive Ending where
  | exit (code : UInt8)
  | signal (number : UInt8)
  deriving DecidableEq, Repr

/-- The code for an ending. -/
def Ending.code : Ending → Int32
  | .exit code => Int32.ofNat code.toNat
  | .signal number => Int32.ofNat (128 + number.toNat)

/-- The signal that kills. -/
def killSignal : UInt8 := 9

namespace Supervision

/-- What the reader of a stream is doing. -/
inductive ReaderState where
  | reading
  /-- The stream is over, and that is still to be announced. -/
  | ended
  /-- The end of the stream was announced, and the reader is about to go. -/
  | announced
  /-- The reader is gone, with an announcement or without one. -/
  | gone
  deriving DecidableEq, Repr

/-- Is there an announcement still to come, unless the reader dies? -/
def ReaderState.owes : ReaderState → Bool
  | .reading => true
  | .ended => true
  | _ => false

/-- A reader with what it has captured. -/
structure Reader where
  capture : Capture := {}
  state : ReaderState := .reading
  deriving DecidableEq, Repr

/-- What the supervisor is doing. -/
inductive Phase where
  /-- It waits for the tool and the readers. -/
  | waiting
  /-- It has killed the tool and waits for the readers. -/
  | draining
  /-- It has taken what was captured of the output.  There is no ending if the tool was
  killed. -/
  | collecting (ending : Option Ending) (stdout : Capture)
  | over (report : Report)
  deriving DecidableEq, Repr

/-- Does the supervisor listen to its readers? -/
def Phase.listens : Phase → Bool
  | .waiting => true
  | .draining => true
  | _ => false

/-- What happens in a run. -/
inductive Event where
  | toolEnds (ending : Ending)
  | arrives (stream : Stream) (chunk : List UInt8)
  | streamEnds (stream : Stream)
  /-- The reader of a stream announces its end. -/
  | announces (stream : Stream)
  /-- The reader of a stream goes, once it has announced its end. -/
  | leaves (stream : Stream)
  | readerDies (stream : Stream)
  /-- The supervisor looks whether the tool has ended. -/
  | looks
  /-- The supervisor takes one announcement. -/
  | takes
  /-- The supervisor sees that there is no reader and no announcement left. -/
  | seesNone
  /-- The supervisor has all that it waited for, and takes the output. -/
  | completes
  /-- The supervisor sees that the deadline has come, and kills the tool. -/
  | expires
  /-- The supervisor waits no longer for the readers of a killed tool, and takes the
  output. -/
  | concludes
  /-- The supervisor takes the errors, and makes its report. -/
  | reports (elapsedMs : UInt64)
  deriving DecidableEq, Repr

/-- The report on a run that came to its end. -/
def completed (stdout stderr : Capture) (ending : Ending) (elapsedMs : UInt64) : Report where
  code := ending.code
  stdout := stdout.lines
  stderr := stderr.lines
  truncated := stdout.truncated || stderr.truncated
  elapsedMs := elapsedMs

/-- The report on a run that was stopped at its deadline. -/
def stopped (stdout stderr : Capture) (elapsedMs : UInt64) : Report where
  code := timeoutCode
  stdout := stdout.lines
  stderr := stderr.lines ++ [timeoutLine]
  timedOut := true
  truncated := stdout.truncated || stderr.truncated
  elapsedMs := elapsedMs

/-- The state of a run. -/
structure State where
  /-- How many bytes of each stream are kept. -/
  limit : Nat
  stdout : Reader := {}
  stderr : Reader := {}
  ending : Option Ending := none
  /-- The ending, once the supervisor has seen it. -/
  seen : Option Ending := none
  /-- Announcements on their way. -/
  announced : Nat := 0
  /-- How many readers the supervisor takes to be reading. -/
  awaited : Nat := 2
  phase : Phase := .waiting
  deriving DecidableEq, Repr

namespace State

/-- The reader of a stream. -/
def reader (state : State) : Stream → Reader
  | .stdout => state.stdout
  | .stderr => state.stderr

def setReader (state : State) (stream : Stream) (reader : Reader) : State :=
  match stream with
  | .stdout => { state with stdout := reader }
  | .stderr => { state with stderr := reader }

/-- Is the reader of a stream at work? -/
def isReading (state : State) (stream : Stream) : Bool :=
  (state.reader stream).state = .reading

/-- Are both readers gone? -/
def allGone (state : State) : Bool :=
  decide (state.stdout.state = .gone) && decide (state.stderr.state = .gone)

/-- The state after an event, if the event is possible. -/
def step (state : State) : Event → Option State
  | .toolEnds ending =>
      if state.ending.isNone then some { state with ending := some ending } else none
  | .arrives stream chunk =>
      if state.isReading stream then
        let reader := state.reader stream
        some (state.setReader stream
          { reader with capture := reader.capture.add state.limit chunk })
      else none
  | .streamEnds stream =>
      if state.isReading stream then
        some (state.setReader stream { state.reader stream with state := .ended })
      else none
  | .announces stream =>
      if (state.reader stream).state = .ended then
        let next := state.setReader stream { state.reader stream with state := .announced }
        some { next with announced := next.announced + 1 }
      else none
  | .leaves stream =>
      if (state.reader stream).state = .announced then
        some (state.setReader stream { state.reader stream with state := .gone })
      else none
  | .readerDies stream =>
      if (state.reader stream).state.owes then
        some (state.setReader stream { state.reader stream with state := .gone })
      else none
  | .looks =>
      if state.phase = .waiting then some { state with seen := state.ending } else none
  | .takes =>
      match state.announced with
      | 0 => none
      | announced + 1 =>
          if state.phase.listens then some { state with announced, awaited := state.awaited - 1 }
          else none
  | .seesNone =>
      if state.phase.listens && state.announced = 0 && state.allGone then
        some { state with awaited := 0 }
      else none
  | .completes =>
      match state.phase, state.seen with
      | .waiting, some ending =>
          if state.awaited = 0 then
            some { state with phase := .collecting (some ending) state.stdout.capture }
          else none
      | _, _ => none
  | .expires =>
      if state.phase = .waiting then
        some { state with
          phase := .draining, ending := some (state.ending.getD (.signal killSignal)) }
      else none
  | .concludes =>
      if state.phase = .draining then
        some { state with phase := .collecting none state.stdout.capture }
      else none
  | .reports elapsedMs =>
      match state.phase with
      | .collecting (some ending) stdout =>
          let report := completed stdout state.stderr.capture ending elapsedMs
          some { state with phase := .over report }
      | .collecting none stdout =>
          some { state with phase := .over (stopped stdout state.stderr.capture elapsedMs) }
      | _ => none

/-- The state after events in order. -/
def run (state : State) : List Event → Option State
  | [] => some state
  | event :: events => (state.step event).bind fun next => next.run events

/-- The report, once there is one. -/
def report? (state : State) : Option Report :=
  match state.phase with
  | .over report => some report
  | _ => none

end State

/-! ## Schedules -/

/-- Something that a tool does, and when. -/
structure Happening where
  timeMs : Nat
  event : Event

/-- What follows at once: the supervisor looks at the tool, and the end of a stream is
announced and heard of. -/
def reactions : Event → List Event
  | .toolEnds _ => [.looks]
  | .streamEnds stream => [.announces stream, .leaves stream, .takes]
  | _ => []

/-- Does the event tell about a stream? -/
def Event.isOfStream : Event → Bool
  | .arrives _ _ => true
  | .streamEnds _ => true
  | _ => false

/-- How long the readers of a killed tool are waited for. -/
def graceMs : Nat := 100

/-- The events of a run with a prompt supervisor.  It completes if all that it
waits for happens before the deadline.  Else it kills the tool, and takes what
still comes on the streams for a moment. -/
def schedule (deadlineMs : Nat) (isComplete : Bool) (endMs : Nat) (happenings : List Happening) :
    List Event :=
  let eventsOf (found : List Happening) : List Event :=
    found.flatMap fun happening => happening.event :: reactions happening.event
  let events := eventsOf (happenings.filter (·.timeMs < deadlineMs))
  if isComplete && endMs < deadlineMs then
    events ++ [.completes, .reports (UInt64.ofNat endMs)]
  else
    let isLate (happening : Happening) : Bool :=
      deadlineMs ≤ happening.timeMs && happening.timeMs < deadlineMs + graceMs &&
        happening.event.isOfStream
    events ++ .expires :: eventsOf (happenings.filter isLate) ++
      [.concludes, .reports (UInt64.ofNat deadlineMs)]

/-- The report on a run with a prompt supervisor. -/
def report (limit deadlineMs : Nat) (isComplete : Bool) (endMs : Nat)
    (happenings : List Happening) : Option Report :=
  ((State.mk limit {} {} none none 0 2 .waiting).run
    (schedule deadlineMs isComplete endMs happenings)).bind State.report?

end Supervision

end BuildExplorer.Tool
