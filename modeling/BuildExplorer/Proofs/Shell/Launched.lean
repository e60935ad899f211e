import BuildExplorer.Proofs.Program.Trace
import BuildExplorer.Proofs.Shell.Streams
import BuildExplorer.Proofs.Tool.Issued
import BuildExplorer.Proofs.Tool.Scheduled
import BuildExplorer.Shell.Launch

/-!
# Reports on launched tools

A tool that is launched either cannot be started, or its processes run as one system.
What happened in the system is always in an order in which a tool can bring it about, so
that there is a run of a supervisor behind every report.  The report tells how the tool
ended and shows what its processes have written, or that it was killed at the deadline.
-/

namespace BuildExplorer.Shell

open Tool.Supervision (Complete Event Happening Credible completed delivered delivered_append early
  graceMs late stopped)

/-! ## Sorting -/

/-- Sorting keeps the order of what was in order before. -/
theorem filter_mergeSort {Item : Type} {le : Item → Item → Bool}
    (trans : ∀ first second third, le first second → le second third → le first third)
    (total : ∀ first second, le first second || le second first) {isPart : Item → Bool}
    {items : List Item} (inOrder : (items.filter isPart).Pairwise fun first second =>
      le first second = true) :
    (items.mergeSort le).filter isPart = items.filter isPart := by
  have part : (items.filter isPart).Sublist ((items.mergeSort le).filter isPart) := by
    have sorted : (items.filter isPart).Sublist (items.mergeSort le) :=
      List.sublist_mergeSort trans total inOrder List.filter_sublist
    simpa [List.filter_filter] using sorted.filter isPart
  have same := ((List.mergeSort_perm items le).filter isPart).length_eq
  exact (part.eq_of_length same.symm).symm

/-- The order of time. -/
def isBefore (first second : Happening) : Bool :=
  first.timeMs ≤ second.timeMs

theorem isBefore_iff {first second : Happening} :
    isBefore first second = true ↔ first.timeMs ≤ second.timeMs :=
  decide_eq_true_iff

theorem isBefore_trans (first second third : Happening) (before : isBefore first second)
    (later : isBefore second third) : isBefore first third :=
  isBefore_iff.mpr (Nat.le_trans (isBefore_iff.mp before) (isBefore_iff.mp later))

theorem isBefore_total (first second : Happening) :
    isBefore first second || isBefore second first := by
  rw [Bool.or_eq_true, isBefore_iff, isBefore_iff]
  exact Nat.le_total _ _

/-! ## What happened -/

theorem filter_happeningsOn (system : System) (name : Tool.Stream) (about : Option Tool.Stream) :
    (happeningsOn system name).filter (·.event.isAbout about) =
      if about = some name then happeningsOn system name else [] := by
  have isAbout : ∀ happening ∈ happeningsOn system name,
      happening.event.isAbout about = decide (about = some name) := by
    intro happening member
    rcases List.mem_append.mp member with member | member
    all_goals
      obtain ⟨_, -, rfl⟩ := List.mem_map.mp member
      cases about <;> simp [Event.isAbout]
  rw [List.filter_congr isAbout]
  split <;> simp [*]

theorem filter_endHappening (system : System) (about : Option Tool.Stream) :
    (endHappening system).filter (·.event.isAbout about) =
      if about = none then endHappening system else [] := by
  have isAbout : ∀ happening ∈ endHappening system,
      happening.event.isAbout about = decide (about = none) := by
    intro happening member
    obtain ⟨_, -, rfl⟩ := List.mem_map.mp member
    cases about <;> simp [Event.isAbout]
  rw [List.filter_congr isAbout]
  split <;> simp [*]

namespace System

variable {clockUs : Nat} {system : System}

/-- What happened on a stream came one after the other, and nothing behind its end. -/
theorem Orderly.pairwise_happeningsOn (orderly : system.Orderly clockUs) (name : Tool.Stream) :
    (happeningsOn system name).Pairwise fun first second =>
      first.timeMs ≤ second.timeMs ∧ ¬first.event.Forbids second.event := by
  have stream := orderly.stream name
  rw [happeningsOn, List.pairwise_append]
  refine ⟨?arrivals, ?ending, ?between⟩
  case arrivals =>
    rw [List.pairwise_map, List.pairwise_reverse]
    exact stream.latestFirst.imp fun isLater => ⟨Nat.div_le_div_right isLater, by rintro ⟨⟩⟩
  case ending =>
    cases (system.stream name).closedUs <;> simp
  case between =>
    intro first isFirst second isSecond
    obtain ⟨chunk, member, rfl⟩ := List.mem_map.mp isFirst
    obtain ⟨closedUs, isClosed, rfl⟩ := List.mem_map.mp isSecond
    have past := (stream.closed closedUs (Option.mem_toList.mp isClosed)).2 chunk
      (List.mem_reverse.mp member)
    exact ⟨Nat.div_le_div_right past, by rintro ⟨⟩⟩

/-- What happened to one party came one after the other. -/
theorem Orderly.pairwise_about (orderly : system.Orderly clockUs) (about : Option Tool.Stream) :
    ((happeningsOn system .stdout ++ happeningsOn system .stderr ++ endHappening system).filter
      (·.event.isAbout about)).Pairwise fun first second =>
        first.timeMs ≤ second.timeMs ∧ ¬first.event.Forbids second.event := by
  rw [List.filter_append, List.filter_append, filter_happeningsOn, filter_happeningsOn,
    filter_endHappening]
  match about with
  | none =>
      simp only [reduceCtorEq, if_true, if_false, List.nil_append, endHappening]
      cases system.mainEnding <;> simp
  | some .stdout => simpa using orderly.pairwise_happeningsOn .stdout
  | some .stderr => simpa using orderly.pairwise_happeningsOn .stderr

/-- What happened to one party is told in its order. -/
theorem Orderly.filter_happenings (orderly : system.Orderly clockUs)
    (about : Option Tool.Stream) :
    (happenings system).filter (·.event.isAbout about) =
      (happeningsOn system .stdout ++ happeningsOn system .stderr ++ endHappening system).filter
        (·.event.isAbout about) :=
  filter_mergeSort isBefore_trans isBefore_total
    ((orderly.pairwise_about about).imp fun both => isBefore_iff.mpr both.1)

theorem Orderly.filter_happenings_stream (orderly : system.Orderly clockUs)
    (name : Tool.Stream) :
    (happenings system).filter (·.event.isAbout (some name)) = happeningsOn system name := by
  rw [orderly.filter_happenings, List.filter_append, List.filter_append, filter_happeningsOn,
    filter_happeningsOn, filter_endHappening]
  cases name <;> simp

theorem mem_happenings {happening : Happening} :
    happening ∈ happenings system ↔
      (∃ name, happening ∈ happeningsOn system name) ∨ happening ∈ endHappening system := by
  rw [happenings, List.mem_mergeSort, List.mem_append, List.mem_append]
  constructor
  · rintro ((onStdout | onStderr) | atEnd)
    · exact .inl ⟨.stdout, onStdout⟩
    · exact .inl ⟨.stderr, onStderr⟩
    · exact .inr atEnd
  · rintro (⟨_ | _, onStream⟩ | atEnd)
    · exact .inl (.inl onStream)
    · exact .inl (.inr onStream)
    · exact .inr atEnd

theorem le_endMs {timeUs : Nat} (isTime : timeUs ∈ system.mainEnding.toList.map (·.1) ++
    (system.stdout.closedUs.toList ++ system.stderr.closedUs.toList)) :
    timeUs / 1000 ≤ endMs system := by
  refine Nat.div_le_div_right ?_
  rw [List.foldl_max_eq_max (List.ne_nil_of_mem isTime)]
  exact Nat.le_trans (List.le_max_of_mem isTime) (Nat.le_max_right ..)

/-- Once all is over on a stream, all that happened on it is in time. -/
theorem Orderly.le_endMs_of_closed (orderly : system.Orderly clockUs) {name : Tool.Stream}
    (isClosed : (system.stream name).closedUs.isSome) :
    ∀ happening ∈ happeningsOn system name, happening.timeMs ≤ endMs system := by
  obtain ⟨closedUs, isClosed⟩ := Option.isSome_iff_exists.mp isClosed
  have inTime : closedUs / 1000 ≤ endMs system := by
    refine le_endMs ?_
    cases name with
    | stdout => simp [show system.stdout.closedUs = some closedUs from isClosed]
    | stderr => simp [show system.stderr.closedUs = some closedUs from isClosed]
  intro happening member
  rcases List.mem_append.mp member with arrival | closing
  · obtain ⟨chunk, isChunk, rfl⟩ := List.mem_map.mp arrival
    have past := ((orderly.stream name).closed closedUs isClosed).2 chunk
      (List.mem_reverse.mp isChunk)
    exact Nat.le_trans (Nat.div_le_div_right past) inTime
  · obtain ⟨otherUs, isOther, rfl⟩ := List.mem_map.mp closing
    rw [isClosed, Option.mem_toList] at isOther
    cases isOther
    exact inTime

theorem le_endMs_of_endHappening :
    ∀ happening ∈ endHappening system, happening.timeMs ≤ endMs system := by
  intro happening member
  obtain ⟨⟨timeUs, ending⟩, isEnding, rfl⟩ := List.mem_map.mp member
  refine le_endMs ?_
  exact List.mem_append_left _ (List.mem_map_of_mem isEnding)

theorem isOver_iff : system.isOver = true ↔
    system.mainEnding.isSome ∧ ∀ name, (system.stream name).closedUs.isSome := by
  rw [isOver, Bool.and_eq_true, Bool.and_eq_true, and_assoc]
  refine and_congr_right fun _ => ⟨fun both name => ?_, fun each => ⟨each .stdout, each .stderr⟩⟩
  cases name with
  | stdout => exact both.1
  | stderr => exact both.2

theorem isOfTool_of_mem_happenings {happening : Happening}
    (member : happening ∈ happenings system) : happening.event.IsOfTool := by
  rcases mem_happenings.mp member with ⟨name, onStream⟩ | atEnd
  · rcases List.mem_append.mp onStream with arrival | closing
    · obtain ⟨chunk, -, rfl⟩ := List.mem_map.mp arrival
      exact .arrives name chunk.2
    · obtain ⟨closedUs, -, rfl⟩ := List.mem_map.mp closing
      exact .streamEnds name
  · obtain ⟨ending, -, rfl⟩ := List.mem_map.mp atEnd
    exact .toolEnds ending.2

theorem complete_of_isOver (allOver : system.isOver = true) :
    Complete ((happenings system).map (·.event)) := by
  obtain ⟨hasEnded, allClosed⟩ := isOver_iff.mp allOver
  refine ⟨?ended, fun name => ?closed⟩
  case ended =>
    obtain ⟨ending, isEnding⟩ := Option.isSome_iff_exists.mp hasEnded
    have atEnd : ⟨ending.1 / 1000, .toolEnds ending.2⟩ ∈ endHappening system :=
      List.mem_map.mpr ⟨ending, Option.mem_toList.mpr isEnding, rfl⟩
    exact ⟨ending.2, List.mem_map.mpr ⟨_, mem_happenings.mpr (.inr atEnd), rfl⟩⟩
  case closed =>
    obtain ⟨closedUs, isClosed⟩ := Option.isSome_iff_exists.mp (allClosed name)
    have onStream : ⟨closedUs / 1000, .streamEnds name⟩ ∈ happeningsOn system name :=
      List.mem_append_right _ (List.mem_map.mpr ⟨closedUs, Option.mem_toList.mpr isClosed, rfl⟩)
    exact List.mem_map.mpr ⟨_, mem_happenings.mpr (.inl ⟨name, onStream⟩), rfl⟩

/-- What happened in an orderly system can happen to a tool. -/
theorem Orderly.credible (orderly : system.Orderly clockUs) :
    Credible system.isOver (endMs system) (happenings system) := by
  refine ⟨⟨?ofTool, ?possible⟩, ?inOrder, ?complete, ?inTime⟩
  case ofTool =>
    intro event member
    obtain ⟨happening, isMember, rfl⟩ := List.mem_map.mp member
    exact isOfTool_of_mem_happenings isMember
  case possible =>
    rw [List.pairwise_map]
    refine Tool.Supervision.pairwise_not_forbids fun about => ?_
    rw [orderly.filter_happenings]
    exact (orderly.pairwise_about about).imp fun both => both.2
  case inOrder =>
    exact (List.pairwise_mergeSort isBefore_trans isBefore_total _).imp isBefore_iff.mp
  case complete => exact complete_of_isOver
  case inTime =>
    intro allOver happening member
    rcases mem_happenings.mp member with ⟨name, onStream⟩ | atEnd
    · exact orderly.le_endMs_of_closed ((isOver_iff.mp allOver).2 name) happening onStream
    · exact le_endMs_of_endHappening happening atEnd

end System

/-! ## What was written -/

/-- The bytes that were put down of what was written to a stream, in order. -/
def System.written (system : System) (name : Tool.Stream) : List UInt8 :=
  (system.stream name).chunks.reverse.flatMap (·.2)

/-- The bytes that were put down of what was written to a stream before a time, in order. -/
def System.writtenBefore (system : System) (timeMs : Nat) (name : Tool.Stream) : List UInt8 :=
  ((system.stream name).chunks.reverse.filter (·.1 / 1000 < timeMs)).flatMap (·.2)

/-- Only what is about a stream brings something on it. -/
theorem delivered_filter (name : Tool.Stream) (found : List Happening) :
    delivered name ((found.filter (·.event.isAbout (some name))).map (·.event)) =
      delivered name (found.map (·.event)) := by
  induction found with
  | nil => rfl
  | cons happening found inductionHypothesis =>
      have parted (others : List Event) : delivered name (happening.event :: others) =
          delivered name [happening.event] ++ delivered name others :=
        delivered_append name [happening.event] others
      rw [List.map_cons, parted, ← inductionHypothesis]
      cases isAbout : happening.event.isAbout (some name) with
      | true => rw [List.filter_cons, if_pos isAbout, List.map_cons, parted]
      | false =>
          have bringsNothing : delivered name [happening.event] = [] := by
            cases isEvent : happening.event with
            | arrives other chunk =>
                rw [isEvent] at isAbout
                have otherName : other ≠ name := fun same => of_decide_eq_false isAbout same.symm
                simp [delivered, otherName]
            | _ => rfl
          have isOther : ¬happening.event.isAbout (some name) = true := by simp [isAbout]
          rw [bringsNothing, List.filter_cons, if_neg isOther, List.nil_append]

/-- What happened on a stream in some time brings what was written to it in that time. -/
theorem delivered_happeningsOn (system : System) (name : Tool.Stream) (isPart : Nat → Bool) :
    delivered name (((happeningsOn system name).filter (isPart ·.timeMs)).map (·.event)) =
      ((system.stream name).chunks.reverse.filter (isPart <| ·.1 / 1000)).flatMap (·.2) := by
  have endBringsNothing (times : List Nat) :
      delivered name (times.map fun _ => .streamEnds name) = [] := by
    simp [delivered]
  have chunksBring (chunks : List (Nat × List UInt8)) :
      delivered name (chunks.map fun chunk => .arrives name chunk.2) = chunks.flatMap (·.2) := by
    simp [delivered, List.flatMap_map]
  rw [happeningsOn, List.filter_append, List.map_append, delivered_append, List.filter_map,
    List.filter_map, List.map_map, List.map_map]
  rw [← List.append_nil (List.flatMap _ _), ← chunksBring]
  exact congrArg _ (endBringsNothing _)

namespace System

variable {clockUs : Nat} {system : System}

theorem Orderly.delivered_happenings (orderly : system.Orderly clockUs) (name : Tool.Stream) :
    delivered name ((happenings system).map (·.event)) = system.written name := by
  have brought := delivered_happeningsOn system name fun _ => true
  simp only [List.filter_eq_self.mpr, implies_true] at brought
  rw [← delivered_filter, orderly.filter_happenings_stream, brought, written]

theorem Orderly.delivered_early (orderly : system.Orderly clockUs) (deadlineMs : Nat)
    (name : Tool.Stream) :
    delivered name ((early deadlineMs (happenings system)).map (·.event)) =
      ((system.stream name).chunks.reverse.filter (·.1 / 1000 < deadlineMs)).flatMap (·.2) := by
  rw [← delivered_filter, early, List.filter_comm, orderly.filter_happenings_stream]
  exact delivered_happeningsOn system name (· < deadlineMs)

theorem Orderly.delivered_late (orderly : system.Orderly clockUs) (deadlineMs : Nat)
    (name : Tool.Stream) :
    delivered name ((late deadlineMs (happenings system)).map (·.event)) =
      ((system.stream name).chunks.reverse.filter fun chunk =>
        deadlineMs ≤ chunk.1 / 1000 && chunk.1 / 1000 < deadlineMs + graceMs).flatMap (·.2) := by
  have isPart : (late deadlineMs (happenings system)).filter (·.event.isAbout (some name)) =
      (happeningsOn system name).filter fun happening =>
        deadlineMs ≤ happening.timeMs && happening.timeMs < deadlineMs + graceMs := by
    rw [← orderly.filter_happenings_stream, late, List.filter_filter, List.filter_filter]
    refine List.filter_congr fun happening _ => ?_
    cases happening.event <;> simp [Event.isAbout, Event.isOfStream, Bool.and_comm]
  rw [← delivered_filter, isPart]
  exact delivered_happeningsOn system name fun timeMs =>
    deadlineMs ≤ timeMs && timeMs < deadlineMs + graceMs

/-- Up to the end of the moment after a deadline, all that was written is brought. -/
theorem Orderly.delivered_early_late (orderly : system.Orderly clockUs) (deadlineMs : Nat)
    (name : Tool.Stream) :
    delivered name ((early deadlineMs (happenings system) ++
      late deadlineMs (happenings system)).map (·.event)) =
        system.writtenBefore (deadlineMs + graceMs) name := by
  rw [List.map_append, delivered_append, orderly.delivered_early, orderly.delivered_late,
    ← List.flatMap_append, writtenBefore]
  have inOrder : (system.stream name).chunks.reverse.Pairwise fun first second =>
      first.1 / 1000 ≤ second.1 / 1000 :=
    (List.pairwise_reverse.mpr (orderly.stream name).latestFirst).imp Nat.div_le_div_right
  have parted := Tool.Supervision.filter_lt_append_filter_le
    (inOrder.filter (·.1 / 1000 < deadlineMs + graceMs)) deadlineMs
  rw [List.filter_filter, List.filter_filter] at parted
  have isEarly : ∀ chunk ∈ (system.stream name).chunks.reverse,
      (decide (chunk.1 / 1000 < deadlineMs) && decide (chunk.1 / 1000 < deadlineMs + graceMs)) =
        decide (chunk.1 / 1000 < deadlineMs) := by
    intro chunk _
    rw [← Bool.decide_and, decide_eq_decide]
    omega
  rw [← parted, List.filter_congr isEarly]

end System

/-! ## Reports -/

/-- What is kept of a stream for the report on a call. -/
def keptFor (call : Tool.Call) (bytes : List UInt8) : Tool.Capture :=
  .ofBytes call.maxOutputBytes.toNat bytes

namespace System

variable {clockUs : Nat} {system : System}

/-- If all is over in time, the report tells how the process ended, and shows what was written
to its streams. -/
theorem Orderly.reportOf_eq_completed (orderly : system.Orderly clockUs) (call : Tool.Call)
    (allOver : system.isOver = true) (inTime : endMs system < call.timeoutMs.toNat) :
    ∃ timeUs ending, system.mainEnding = some (timeUs, ending) ∧
      reportOf call system =
        completed (keptFor call (system.written .stdout)) (keptFor call (system.written .stderr))
          ending (UInt64.ofNat (endMs system)) := by
  obtain ⟨ending, member, isReport⟩ := Tool.Supervision.report_eq_completed orderly.credible
    allOver inTime call.maxOutputBytes.toNat
  obtain ⟨happening, isMember, isEnd⟩ := List.mem_map.mp member
  rcases mem_happenings.mp isMember with ⟨name, onStream⟩ | atEnd
  · rcases List.mem_append.mp onStream with arrival | closing
    · obtain ⟨_, -, rfl⟩ := List.mem_map.mp arrival
      cases isEnd
    · obtain ⟨_, -, rfl⟩ := List.mem_map.mp closing
      cases isEnd
  · obtain ⟨⟨timeUs, other⟩, isEnding, rfl⟩ := List.mem_map.mp atEnd
    cases isEnd
    refine ⟨timeUs, ending, Option.mem_toList.mp isEnding, ?_⟩
    rw [reportOf, isReport]
    simp only [Tool.Supervision.keptOf, orderly.delivered_happenings]
    rfl

/-- If all is not over in time, the report tells that the process was killed, and shows what was
written to its streams up to the deadline and in the moment after it. -/
theorem Orderly.reportOf_eq_stopped (orderly : system.Orderly clockUs) (call : Tool.Call)
    (tooLate : ¬(system.isOver = true ∧ endMs system < call.timeoutMs.toNat)) :
    let lastMs := call.timeoutMs.toNat + graceMs
    reportOf call system =
      stopped (keptFor call (system.writtenBefore lastMs .stdout))
        (keptFor call (system.writtenBefore lastMs .stderr)) call.timeoutMs := by
  intro lastMs
  have isReport := Tool.Supervision.report_eq_stopped orderly.credible tooLate
    call.maxOutputBytes.toNat
  rw [reportOf, isReport]
  simp only [Tool.Supervision.keptOf, orderly.delivered_early_late, UInt64.ofNat_toNat]
  rfl

/-- The report on an orderly system is one that a supervisor makes. -/
theorem Orderly.issued_reportOf (orderly : system.Orderly clockUs) (call : Tool.Call) :
    (reportOf call system).Issued := by
  obtain ⟨report, isReport⟩ := Tool.Supervision.exists_report orderly.credible
    call.maxOutputBytes.toNat call.timeoutMs.toNat
  rw [reportOf, isReport]
  exact .supervised call.maxOutputBytes.toNat _ isReport

end System

/-! ## Launched tools -/

theorem orderly_firstSystem (tree : Host.FileTree) (limit : Nat) (task : Task) :
    (firstSystem tree limit task).Orderly 0 where
  clock := rfl
  stream name := by
    cases name <;> exact ⟨.nil, nofun, nofun⟩
  closed name := by
    cases name <;> nofun
  ended := nofun

theorem exists_orderly_systemOf (tree : Host.FileTree) (call : Tool.Call) (process : Process)
    (start : Start) : ∃ clockUs, (systemOf tree call process start).Orderly clockUs :=
  (orderly_firstSystem ..).run ..

theorem launch_of_prepare {Tools : Type} {call : Tool.Call} {machine : Host.Machine Tools}
    {process : Process} {start : Start}
    (prepared : prepare machine.tree machine.directory call = .ok (process, start)) :
    (launch call machine).1 = reportOf call (systemOf machine.tree call process start) := by
  simp only [launch, prepared]

/-- Whatever a tool does that is launched, the report on it is made of what it comes to.  If
the tool and all that hold its streams end in time, the report tells how the tool ended and
shows all that was written to its streams, as far as there is room.  Else it tells that the
tool was killed, and shows what was written up to a moment after the deadline. -/
theorem launch_reports_run {Tools : Type} {call : Tool.Call} {machine : Host.Machine Tools}
    {process : Process} {start : Start}
    (prepared : prepare machine.tree machine.directory call = .ok (process, start)) :
    let system := systemOf machine.tree call process start
    let report := (launch call machine).1
    let lastMs := call.timeoutMs.toNat + graceMs
    (system.isOver = true ∧ endMs system < call.timeoutMs.toNat →
      ∃ timeUs ending, system.mainEnding = some (timeUs, ending) ∧
        report =
          completed (keptFor call (system.written .stdout)) (keptFor call (system.written .stderr))
            ending (UInt64.ofNat (endMs system))) ∧
    (¬(system.isOver = true ∧ endMs system < call.timeoutMs.toNat) →
      report =
        stopped (keptFor call (system.writtenBefore lastMs .stdout))
          (keptFor call (system.writtenBefore lastMs .stderr)) call.timeoutMs) := by
  intro system report lastMs
  obtain ⟨_, orderly⟩ := exists_orderly_systemOf machine.tree call process start
  have isReport : report = reportOf call system := launch_of_prepare prepared
  rw [isReport]
  exact ⟨fun inTime => orderly.reportOf_eq_completed call inTime.1 inTime.2,
    orderly.reportOf_eq_stopped call⟩

/-- Whatever is launched, on whatever machine, the report on it is one that can come back:
there is a run of a supervisor behind it, unless the tool could not be started. -/
theorem issued_launch {Tools : Type} (call : Tool.Call) (machine : Host.Machine Tools) :
    (launch call machine).1.Issued := by
  cases prepared : prepare machine.tree machine.directory call with
  | error fault =>
      simp only [launch, prepared]
      exact .notLaunched _
  | ok found =>
      obtain ⟨process, start⟩ := found
      obtain ⟨_, orderly⟩ := exists_orderly_systemOf machine.tree call process start
      rw [launch_of_prepare prepared]
      exact orderly.issued_reportOf call

/-- All reports that a program gets on a machine with this shell are ones that can come
back. -/
theorem issued_of_mem_invocations {Tools Outcome : Type} {program : Program Outcome}
    {machine : Host.Machine Tools} {invocation : Tool.Invocation}
    (member : invocation ∈ program.invocations (Host.Machine.answer launch) machine) :
    invocation.report.Issued := by
  obtain ⟨before, isAnswer⟩ := Program.exists_answer_of_mem_invocations member
  rw [isAnswer]
  exact issued_launch invocation.call before

end BuildExplorer.Shell
