import BuildExplorer.Proofs.Attempt
import BuildExplorer.Shell.Schedule

/-!
# Captured streams

What comes out of a system is put down with the time at which it came.  Time only
goes forward, and a stream is closed when no open file leads to it any more.  As an
open file can only come from another one that leads to the same stream, nothing is
ever written to a stream behind its end, whatever the processes do.
-/

namespace BuildExplorer.Shell

open Host (FileTree Fault Location)

/-! ## The invariant -/

/-- Up to a time, the chunks of a stream came one after the other, and none behind its
end. -/
structure Stream.Orderly (clockUs : Nat) (stream : Stream) : Prop where
  latestFirst : stream.chunks.Pairwise fun later earlier => earlier.1 ≤ later.1
  past : ∀ chunk ∈ stream.chunks, chunk.1 ≤ clockUs
  closed : ∀ closedUs, stream.closedUs = some closedUs →
    closedUs ≤ clockUs ∧ ∀ chunk ∈ stream.chunks, chunk.1 ≤ closedUs

namespace System

/-- An open file leads to a captured stream. -/
def LeadsTo (system : System) (name : Tool.Stream) : Prop :=
  ∃ item ∈ system.files, item.2.resource = .captured name

/-- At a time, the streams of a system are orderly, and nothing leads to those that are
closed. -/
structure Orderly (clockUs : Nat) (system : System) : Prop where
  clock : system.clockUs = clockUs
  stream : ∀ name, (system.stream name).Orderly clockUs
  closed : ∀ name, (system.stream name).closedUs.isSome → ¬system.LeadsTo name
  ended : ∀ timeUs ending, system.mainEnding = some (timeUs, ending) → timeUs ≤ clockUs

variable {clockUs : Nat} {system : System} {thread : Thread}

theorem anyOpen_captured_eq_false {name : Tool.Stream} :
    system.anyOpen (·.resource == .captured name) = false ↔ ¬system.LeadsTo name := by
  simp [anyOpen, LeadsTo]

/-! ## What does not matter -/

/-- Streams stay orderly with all that is not about them. -/
theorem Orderly.rest (orderly : system.Orderly clockUs) {tree : FileTree} {threads : List Thread}
    {remains : List Remains} {pipes : List (Nat × Pipe)} {nodes : List (Nat × Node)}
    {nextProcess nextObject effort limit main : Nat} :
    Orderly clockUs { system with
      tree, threads, remains, pipes, nodes, nextProcess, nextObject, effort, limit, main } :=
  ⟨orderly.clock, orderly.stream, orderly.closed, orderly.ended⟩

/-- Streams stay orderly with other open files, if none leads to where none did before. -/
theorem Orderly.files (orderly : system.Orderly clockUs) {files : List (Nat × OpenFile)}
    (leads : ∀ item ∈ files, ∀ name, item.2.resource = .captured name → system.LeadsTo name) :
    Orderly clockUs { system with files } where
  clock := orderly.clock
  stream := orderly.stream
  closed name isClosed := fun ⟨item, member, isName⟩ =>
    orderly.closed name isClosed (leads item member name isName)
  ended := orderly.ended

theorem Orderly.putThread (orderly : system.Orderly clockUs) (thread : Thread) :
    (system.putThread thread).Orderly clockUs :=
  orderly.rest

theorem Orderly.changeThread (orderly : system.Orderly clockUs) (number : Nat)
    (change : Thread → Thread) : (system.changeThread number change).Orderly clockUs :=
  orderly.rest

theorem Orderly.setContents (orderly : system.Orderly clockUs) (node : Nat)
    (contents : List UInt8) : (system.setContents node contents).Orderly clockUs := by
  unfold System.setContents
  split
  · split
    · exact orderly.rest
    · exact orderly
  · exact orderly.rest
  · exact orderly

theorem Orderly.nodeAt (orderly : system.Orderly clockUs) (location : Location) :
    (system.nodeAt location).2.Orderly clockUs := by
  unfold System.nodeAt
  split
  · exact orderly
  · exact orderly.rest

theorem Orderly.changeFiles (orderly : system.Orderly clockUs) (change : FileChange) :
    (system.changeFiles change).2.Orderly clockUs := by
  unfold System.changeFiles
  split
  · exact orderly
  · exact orderly.rest

/-! ## Open files -/

/-- Where a descriptor leads, an open file leads. -/
theorem leadsTo_of_opened? {descriptor number : Nat} {file : OpenFile} {name : Tool.Stream}
    (opened : system.opened? thread descriptor = some (number, file))
    (isName : file.resource = .captured name) : system.LeadsTo name := by
  simp only [opened?, Option.bind_eq_bind, Option.bind_eq_some_iff, Option.pure_def,
    Option.some.injEq, Prod.mk.injEq] at opened
  obtain ⟨found, -, other, isFile, -, rfl⟩ := opened
  obtain ⟨front, back, parted, -⟩ := List.lookup_eq_some_iff.mp isFile
  exact ⟨(found.file, other), parted ▸ List.mem_append_right front List.mem_cons_self, isName⟩

theorem Orderly.setFile (orderly : system.Orderly clockUs) {number : Nat} {file : OpenFile}
    (leads : ∀ name, file.resource = .captured name → system.LeadsTo name) :
    (system.setFile number file).Orderly clockUs := by
  refine orderly.files fun item member name isName => ?_
  obtain ⟨before, isBefore, rfl⟩ := List.mem_map.mp member
  split at isName
  · exact leads name isName
  · exact ⟨before, isBefore, isName⟩

theorem Orderly.addFile (orderly : system.Orderly clockUs) (thread : Thread) {file : OpenFile}
    (leads : ∀ name, file.resource = .captured name → system.LeadsTo name) :
    (system.addFile thread file).2.2.Orderly clockUs := by
  have added : Orderly clockUs
      { system with files := put system.nextObject file system.files } := by
    refine orderly.files fun item member name isName => ?_
    rcases List.mem_cons.mp member with rfl | member
    · exact leads name isName
    · exact ⟨item, (List.mem_filter.mp member).1, isName⟩
  exact added.rest

/-- What is opened once more leads to where the other one does. -/
theorem Orderly.reopen (orderly : system.Orderly clockUs) {descriptor : Nat} {mode : OpenMode}
    {resource : Resource} {after : System}
    (reopened : system.reopen thread descriptor mode = .ok (resource, after)) :
    after.Orderly clockUs ∧ ∀ name, resource = .captured name → after.LeadsTo name := by
  unfold System.reopen at reopened
  split at reopened
  · cases reopened
  · rename_i file opened
    split at reopened
    · cases reopened
      refine ⟨?_, by rintro _ ⟨⟩⟩
      split
      · exact orderly.setContents _ _
      · exact orderly
    · split at reopened
      · cases reopened
      · cases reopened
        exact ⟨orderly, by rintro _ ⟨⟩⟩
    · cases reopened
      exact ⟨orderly, fun name isName => leadsTo_of_opened? opened isName⟩

/-- No path leads to a captured stream. -/
theorem Orderly.resourceAt (orderly : system.Orderly clockUs) (location : Location)
    (found : Host.Entry) :
    (system.resourceAt location found).2.Orderly clockUs ∧
      ∀ name, (system.resourceAt location found).1 ≠ .captured name := by
  cases found with
  | file | pipe => exact ⟨(orderly.nodeAt location).rest, by rintro _ ⟨⟩⟩
  | directory | device | utility => exact ⟨orderly, by rintro _ ⟨⟩⟩

theorem Orderly.openPath (orderly : system.Orderly clockUs) {directory : Location} {path : Path}
    {mode : OpenMode} {resource : Resource} {after : System}
    (opened : system.openPath directory path mode = .ok (resource, after)) :
    after.Orderly clockUs ∧ ∀ name, resource ≠ .captured name := by
  have withTree (tree : FileTree) : Orderly clockUs { system with tree } := orderly.rest
  dsimp only [System.openPath] at opened
  split at opened
  all_goals
    obtain ⟨tree, -, opened⟩ := bind_eq_ok_iff.mp opened
    obtain ⟨⟨location, found⟩, -, opened⟩ := bind_eq_ok_iff.mp opened
    dsimp only at opened
    split at opened
    · cases opened
    · have isFound := (withTree tree).resourceAt location found
      rw [Except.ok.inj opened] at isFound
      exact isFound

/-! ## Closing -/

theorem Orderly.setStream (orderly : system.Orderly clockUs) {name : Tool.Stream}
    {stream : Stream} (isOrderly : stream.Orderly clockUs)
    (closed : stream.closedUs.isSome → ¬system.LeadsTo name) :
    (system.setStream name stream).Orderly clockUs := by
  cases name with
  | stdout =>
      refine ⟨orderly.clock, fun other => ?_, fun other => ?_, orderly.ended⟩
      · cases other with
        | stdout => exact isOrderly
        | stderr => exact orderly.stream .stderr
      · cases other with
        | stdout => exact closed
        | stderr => exact orderly.closed .stderr
  | stderr =>
      refine ⟨orderly.clock, fun other => ?_, fun other => ?_, orderly.ended⟩
      · cases other with
        | stdout => exact orderly.stream .stdout
        | stderr => exact isOrderly
      · cases other with
        | stdout => exact orderly.closed .stdout
        | stderr => exact closed

/-- A stream to which nothing leads any more is closed now. -/
theorem Orderly.close (orderly : system.Orderly clockUs) (name : Tool.Stream) :
    Orderly clockUs
      (if (system.stream name).closedUs.isSome ||
          system.anyOpen (·.resource == .captured name) then system
        else system.setStream name
          { system.stream name with closedUs := some system.clockUs }) := by
  split
  · exact orderly
  · rename_i open?
    simp only [Bool.or_eq_true, not_or, Bool.not_eq_true, anyOpen_captured_eq_false] at open?
    have stream := orderly.stream name
    refine orderly.setStream ⟨stream.latestFirst, stream.past, ?_⟩ fun _ => open?.2
    rintro _ ⟨⟩
    rw [orderly.clock]
    exact ⟨Nat.le_refl _, stream.past⟩

theorem Orderly.release (orderly : system.Orderly clockUs) (numbers : List Nat) :
    (system.release numbers).Orderly clockUs := by
  have kept : Orderly clockUs { system with
      files := system.files.filter fun item => !(numbers.contains item.1 &&
        system.threads.all fun thread => thread.descriptors.all (·.file != item.1)) } :=
    orderly.files fun item member name isName => ⟨item, (List.mem_filter.mp member).1, isName⟩
  exact (kept.rest.close .stdout).close .stderr

theorem Orderly.closeAll (orderly : system.Orderly clockUs) (thread : Thread)
    (test : Descriptor → Bool) : (system.closeAll thread test).2.Orderly clockUs :=
  (orderly.putThread _).release _

theorem Orderly.duplicate (orderly : system.Orderly clockUs) (thread : Thread)
    (descriptor target : Nat) :
    (system.duplicate thread descriptor target).2.2.Orderly clockUs := by
  unfold System.duplicate
  split
  · exact orderly
  · split
    · exact orderly
    · exact orderly.closeAll _ _

/-! ## Ends and signals -/

theorem Orderly.finish (orderly : system.Orderly clockUs) (number : Nat) (ending : Tool.Ending) :
    (system.finish number ending).Orderly clockUs := by
  unfold System.finish
  split
  · exact orderly
  · have ended : Orderly clockUs { system with
        mainEnding :=
          if number = system.main then some (system.clockUs, ending) else system.mainEnding } := by
      refine ⟨orderly.clock, orderly.stream, orderly.closed, fun timeUs other isEnding => ?_⟩
      dsimp only at isEnding
      split at isEnding
      · cases isEnding
        exact Nat.le_of_eq orderly.clock
      · exact orderly.ended timeUs other isEnding
    exact ended.rest.release _

theorem Orderly.strike (orderly : system.Orderly clockUs) (signal number : Nat) :
    (system.strike signal number).Orderly clockUs := by
  unfold System.strike
  dsimp only
  repeat' split
  all_goals first
    | exact orderly
    | exact orderly.changeThread _ _
    | exact orderly.finish _ _

theorem Orderly.signal (orderly : system.Orderly clockUs) (signal number : Nat) :
    (system.signal signal number).Orderly clockUs := by
  unfold System.signal
  split
  · exact orderly
  · split
    · exact List.foldlRecOn _ _ (orderly.changeThread _ _) fun _ orderly _ _ =>
        orderly.strike _ _
    · exact orderly.strike _ _

end System

/-! ## Single calls -/

/-- What comes of an attempt at a time: an orderly system, or waiting until later. -/
def Progress.Orderly (clockUs : Nat) : Progress → Prop
  | .moves system => system.Orderly clockUs
  | .waits untilUs => ∀ timeUs, untilUs = some timeUs → clockUs < timeUs

namespace System

variable {clockUs : Nat} {system : System} {thread : Thread}

theorem Orderly.goOnAfter (orderly : system.Orderly clockUs) (costUs : Nat) (thread : Thread)
    (task : Task) : (system.goOnAfter costUs thread task).Orderly clockUs :=
  orderly.rest

theorem Orderly.goOn (orderly : system.Orderly clockUs) (thread : Thread) (task : Task) :
    (system.goOn thread task).Orderly clockUs :=
  orderly.goOnAfter 0 thread task

theorem Orderly.goOnLater (orderly : system.Orderly clockUs) (thread : Thread) (task : Task) :
    (system.goOnLater thread task).Orderly clockUs :=
  orderly.goOnAfter transferUs thread task

theorem Orderly.goOnBehind (orderly : system.Orderly clockUs) (count : Nat) (thread : Thread)
    (task : Task) : (system.goOnBehind count thread task).Orderly clockUs :=
  orderly.rest

theorem waits_none_orderly (clockUs : Nat) : (Progress.waits none).Orderly clockUs := by
  rintro _ ⟨⟩

theorem Orderly.takeBytes (orderly : system.Orderly clockUs) {number : Nat} {file : OpenFile}
    (leads : ∀ name, file.resource = .captured name → system.LeadsTo name) (count : Option Nat) :
    (system.takeBytes number file count).2.Orderly clockUs := by
  unfold System.takeBytes
  dsimp only
  split
  · exact orderly.setFile leads
  · split
    · exact orderly.rest
    · exact orderly.rest
  · exact orderly
  · exact orderly
  · exact orderly

theorem Orderly.read (orderly : system.Orderly clockUs) (thread : Thread) (descriptor : Nat)
    (count : Option Nat) (next : Reading → Task) :
    (system.read thread descriptor count next).Orderly clockUs := by
  unfold System.read
  dsimp only
  split
  · exact orderly.goOnLater _ _
  · rename_i number file opened
    have taken : (system.takeBytes number file count).2.Orderly clockUs :=
      orderly.takeBytes (fun name isName => leadsTo_of_opened? opened isName) count
    repeat' split
    all_goals first
      | exact orderly.goOnLater _ _
      | exact taken.goOnLater _ _
      | exact taken.goOnBehind _ _ _
      | exact waits_none_orderly clockUs

theorem Orderly.writeToFile (orderly : system.Orderly clockUs) (thread : Thread) (number : Nat)
    {file : OpenFile} {node : Nat} (isFile : file.resource = .file node) (bytes : List UInt8)
    (next : Except Fault Unit → Task) :
    (system.writeToFile thread number file node bytes next).Orderly clockUs := by
  have written (contents : List UInt8) (offset : Nat) :
      ((system.setContents node contents).setFile number { file with offset }).Orderly clockUs :=
    (orderly.setContents node contents).setFile fun name isName => by
      rw [isFile] at isName
      cases isName
  unfold System.writeToFile
  dsimp only
  generalize (if file.appends then (system.contents node).length else file.offset) = offset
  split
  · exact waits_none_orderly clockUs
  · exact (written _ _).goOnBehind _ _ _

theorem Orderly.writeToPipe (orderly : system.Orderly clockUs) (thread : Thread)
    (descriptor pipe : Nat) (bytes : List UInt8) (next : Except Fault Unit → Task) :
    (system.writeToPipe thread descriptor pipe bytes next).Orderly clockUs := by
  unfold System.writeToPipe
  dsimp only
  split
  · exact (orderly.putThread _).signal _ _
  · split
    · exact waits_none_orderly clockUs
    · exact orderly.rest.goOnBehind _ _ _

/-- What is written to a stream that is open comes behind all that was written to it. -/
theorem Orderly.writeToStream (orderly : system.Orderly clockUs) {name : Tool.Stream}
    (leads : system.LeadsTo name) (bytes : List UInt8) :
    (system.writeToStream name bytes).Orderly clockUs := by
  have stream := orderly.stream name
  have isOpen : (system.stream name).closedUs = none := by
    cases isClosed : (system.stream name).closedUs with
    | none => rfl
    | some closedUs => exact absurd leads (orderly.closed name (by rw [isClosed]; rfl))
  unfold System.writeToStream
  dsimp only
  split
  · exact orderly
  · refine orderly.setStream ⟨?latestFirst, ?past, ?closed⟩ fun isClosed => ?_
    case latestFirst =>
      exact List.pairwise_cons.mpr
        ⟨fun chunk member => orderly.clock ▸ stream.past chunk member, stream.latestFirst⟩
    case past =>
      exact List.forall_mem_cons.mpr ⟨Nat.le_of_eq orderly.clock, stream.past⟩
    case closed =>
      intro closedUs isClosed
      rw [isOpen] at isClosed
      cases isClosed
    · rw [isOpen] at isClosed
      cases isClosed

theorem Orderly.write (orderly : system.Orderly clockUs) (thread : Thread) (descriptor : Nat)
    (bytes : List UInt8) (next : Except Fault Unit → Task) :
    (system.write thread descriptor bytes next).Orderly clockUs := by
  unfold System.write
  split
  · exact orderly.goOnLater _ _
  · rename_i number file opened
    have leads : ∀ name, file.resource = .captured name → system.LeadsTo name :=
      fun name isName => leadsTo_of_opened? opened isName
    split
    · exact orderly.goOnLater _ _
    · split
      · exact orderly.goOnLater _ _
      · split
        · rename_i isFile
          exact orderly.writeToFile _ _ isFile _ _
        · exact orderly.writeToPipe _ _ _ _ _
        · rename_i name isName
          exact (orderly.writeToStream (leads name isName) bytes).goOnBehind _ _ _
        · exact orderly.goOnLater _ _
        · exact orderly.goOnBehind _ _ _

theorem Orderly.settle (orderly : system.Orderly clockUs) (thread : Thread) (resource : Resource)
    (mode : OpenMode) (descriptor : Nat) (task : Task) :
    (system.settle thread resource mode descriptor task).Orderly clockUs := by
  unfold System.settle
  split
  · exact orderly.rest.goOnLater _ _
  · exact orderly.goOnLater _ _

theorem Orderly.openFile (orderly : system.Orderly clockUs) (thread : Thread)
    (directory : Location) (path : Path) (mode : OpenMode) (next : Except Fault Nat → Task) :
    (system.openFile thread directory path mode next).Orderly clockUs := by
  unfold System.openFile
  dsimp only
  split
  · exact orderly.goOnLater _ _
  · rename_i resource after found
    have opened : after.Orderly clockUs ∧
        ∀ name, resource = .captured name → after.LeadsTo name := by
      split at found
      · exact orderly.reopen found
      · obtain ⟨orderly, noStream⟩ := orderly.openPath found
        exact ⟨orderly, fun name isName => absurd isName (noStream name)⟩
    let file : OpenFile :=
      { resource, reads := mode.reads, writes := mode.writes, appends := mode.appends }
    have added : (after.addFile thread file).2.2.Orderly clockUs := opened.1.addFile thread opened.2
    split
    · exact added.goOnLater _ _
    · exact added.settle _ _ _ _ _

theorem Orderly.await (orderly : system.Orderly clockUs) (thread : Thread) (isDisturbable : Bool)
    (untilUs : Option Nat) (next : Waiting → Task) :
    (system.await thread isDisturbable untilUs next).Orderly clockUs := by
  unfold System.await
  split
  · exact orderly.rest.goOnLater _ _
  · split
    · exact orderly.goOn _ _
    · split
      · exact orderly.goOn _ _
      · split
        · exact orderly.goOn _ _
        · rename_i notOver
          intro timeUs isTime
          simp only [isTime, Option.any_some, decide_eq_true_eq, orderly.clock] at notOver
          exact Nat.lt_of_not_le notOver

theorem Orderly.send (orderly : system.Orderly clockUs) (thread : Thread) (signal : Nat)
    (target : Int) (next : Bool → Task) :
    (system.send thread signal target next).Orderly clockUs :=
  List.foldlRecOn _ _ (orderly.putThread _) fun _ orderly _ _ => orderly.signal _ _

theorem Orderly.fork (orderly : system.Orderly clockUs) (thread : Thread) (child : Task)
    (next : Nat → Task) : (system.fork thread child next).Orderly clockUs := by
  unfold System.fork
  split
  · exact waits_none_orderly clockUs
  · exact orderly.rest.goOnAfter _ _ _

theorem Orderly.seek (orderly : system.Orderly clockUs) {descriptor number : Nat}
    {file : OpenFile} (opened : system.opened? thread descriptor = some (number, file))
    (offset : Nat) : (system.setFile number { file with offset }).Orderly clockUs :=
  orderly.setFile fun _ isName => leadsTo_of_opened? opened isName

/-- Whatever a process does next, the system stays orderly. -/
theorem Orderly.advance (orderly : system.Orderly clockUs) (thread : Thread) :
    (system.advance thread).Orderly clockUs := by
  unfold System.advance
  generalize thread.task = task
  cases task with
  | exit status => exact orderly.finish _ _
  | fork child next => exact orderly.fork _ _ _
  | ask call next =>
      cases call with
      | work | clock | files | describe | identity | setDisposition | noted | takeNoted
      | leadGroup =>
          exact orderly.goOnAfter _ _ _
      | keep descriptor =>
          dsimp only
          split
          · exact orderly.goOn _ _
          · exact orderly.goOn _ _
      | pause untilUs =>
          dsimp only
          split
          · exact orderly.goOn _ _
          · rename_i notOver
            intro timeUs isTime
            simp only [isTime, Option.any_some, Bool.or_eq_true, decide_eq_true_eq, orderly.clock,
              not_or] at notOver
            exact Nat.lt_of_not_le notOver.2
      | changeFiles change => exact (orderly.changeFiles change).goOnLater _ _
      | openFile directory path mode => exact orderly.openFile _ _ _ _ _
      | meet descriptor => exact waits_none_orderly clockUs
      | close descriptor => exact (orderly.closeAll _ _).goOn _ _
      | duplicate descriptor target => exact (orderly.duplicate _ _ _).goOn _ _
      | makePipe =>
          let made : System := { system with
            pipes := put system.nextObject {} system.pipes, nextObject := system.nextObject + 1 }
          let reader : OpenFile := { resource := .pipe system.nextObject, reads := true }
          have withReader : (made.addFile thread reader).2.2.Orderly clockUs :=
            orderly.rest.addFile thread (by rintro _ ⟨⟩)
          exact (withReader.addFile (made.addFile thread reader).2.1
            (by rintro _ ⟨⟩)).goOnLater _ _
      | read | readLine => exact orderly.read _ _ _ _
      | write descriptor bytes => exact orderly.write _ _ _ _
      | seek descriptor offset =>
          dsimp only
          split
          · exact orderly.goOn _ _
          · rename_i opened
            exact (orderly.seek opened offset).goOn _ _
      | becomeProgram => exact (orderly.closeAll _ _).goOn _ _
      | await isDisturbable untilUs => exact orderly.await _ _ _ _
      | send signal target => exact orderly.send _ _ _ _

theorem earlier_orderly {first second : Option Nat}
    (firstLater : (Progress.waits first).Orderly clockUs)
    (secondLater : (Progress.waits second).Orderly clockUs) :
    (Progress.waits (earlier first second)).Orderly clockUs := by
  intro timeUs isTime
  cases first with
  | none => exact secondLater timeUs isTime
  | some firstUs =>
      cases second with
      | none => exact firstLater timeUs isTime
      | some secondUs =>
          have := firstLater firstUs rfl
          have := secondLater secondUs rfl
          simp only [earlier, Option.some.injEq] at isTime
          omega

/-- What comes of several processes, of which those that were tried wait. -/
theorem Orderly.attempt (orderly : system.Orderly clockUs) {earliest : Option Nat}
    (later : (Progress.waits earliest).Orderly clockUs) (threads : List Thread) :
    (system.attempt earliest threads).Orderly clockUs := by
  induction threads generalizing earliest with
  | nil => exact later
  | cons thread rest inductionHypothesis =>
      unfold System.attempt
      split
      · exact inductionHypothesis later
      · split
        · rename_i notReady
          refine inductionHypothesis (earlier_orderly later ?_)
          rintro _ ⟨⟩
          exact orderly.clock ▸ notReady
        · have advanced := orderly.advance thread
          split
          · rename_i moved
            rw [moved] at advanced
            exact advanced
          · rename_i waits
            rw [waits] at advanced
            exact inductionHypothesis (earlier_orderly later advanced)

/-! ## Runs -/

/-- As time goes by, streams stay orderly. -/
theorem Orderly.later (orderly : system.Orderly clockUs) {laterUs : Nat}
    (isLater : clockUs ≤ laterUs) : Orderly laterUs { system with clockUs := laterUs } where
  clock := rfl
  stream name :=
    { latestFirst := (orderly.stream name).latestFirst
      past := fun chunk member => Nat.le_trans ((orderly.stream name).past chunk member) isLater
      closed := fun closedUs isClosed =>
        ((orderly.stream name).closed closedUs isClosed).imp_left (Nat.le_trans · isLater) }
  closed := orderly.closed
  ended timeUs ending isEnding := Nat.le_trans (orderly.ended timeUs ending isEnding) isLater

/-- A run leaves an orderly system, at a time up to which it was to go on. -/
theorem Orderly.runUntil (orderly : system.Orderly clockUs) {untilUs : Nat}
    (inTime : clockUs ≤ untilUs) (fuel : Nat) :
    ∃ laterUs ≤ untilUs, (system.runUntil untilUs fuel).Orderly laterUs := by
  induction fuel generalizing system clockUs with
  | zero => exact ⟨clockUs, inTime, orderly⟩
  | succ fuel inductionHypothesis =>
      have attempted := orderly.attempt (waits_none_orderly clockUs) system.threads
      unfold System.runUntil
      split
      · exact ⟨clockUs, inTime, orderly⟩
      · split
        · rename_i moved
          rw [moved] at attempted
          exact inductionHypothesis attempted inTime
        · exact ⟨clockUs, inTime, orderly⟩
        · rename_i timeUs waits
          rw [waits] at attempted
          split
          · exact ⟨clockUs, inTime, orderly⟩
          · rename_i notOver
            exact inductionHypothesis (orderly.later (Nat.le_of_lt (attempted timeUs rfl)))
              (Nat.le_of_not_le notOver)

theorem Orderly.endGroup (orderly : system.Orderly clockUs) : system.endGroup.Orderly clockUs :=
  List.foldlRecOn _ _ orderly fun _ orderly _ _ => orderly.signal _ _

/-- Whatever processes do, and whether their group is ended at the deadline or not, the
captured streams are orderly in the end. -/
theorem Orderly.run (orderly : system.Orderly 0) (fuel deadlineUs graceUs : Nat) :
    ∃ laterUs, (system.run fuel deadlineUs graceUs).Orderly laterUs := by
  obtain ⟨laterUs, inTime, orderly⟩ := orderly.runUntil (Nat.zero_le deadlineUs) fuel
  unfold System.run
  dsimp only
  split
  · exact ⟨laterUs, orderly⟩
  · obtain ⟨lastUs, -, orderly⟩ :=
      (orderly.later inTime).endGroup.runUntil (Nat.le_add_right deadlineUs graceUs) fuel
    exact ⟨lastUs, orderly⟩

end System

end BuildExplorer.Shell
