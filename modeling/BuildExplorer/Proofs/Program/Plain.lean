import BuildExplorer.Proofs.Program.Trace
import BuildExplorer.Family.Environment
import BuildExplorer.Family.Outputs

/-!
# Programs that only look and write to the log

Reading what tools have left, looking for tools and writing to the audit log run no tool
themselves, leave the entries of a cache alone, and write to no file but the log.
-/

namespace BuildExplorer

/-! ## What is asked for in a build -/

/-- What may be asked for to write to a log: it is written behind its end, and no directory is
made but those that lead to it. -/
inductive Host.Action.Records (log : Option Path) : Host.Action → Prop where
  | leads {path directory : Path} (isLog : log = some path)
      (isParent : path.parent? = some directory) : Records log (.createDirectories directory)
  | appends {path : Path} (contents : Host.Bytes) (isLog : log = some path) :
      Records log (.appendContents path contents)

/-- What may be asked for to look at files and to write to a log: besides the log, no file is
changed. -/
inductive Host.Action.Looks (log : Option Path) : Host.Action → Prop where
  | reads (path : Path) : Looks log (.readContents path)
  | finds (path : Path) : Looks log (.isFile path)
  | stamps : Looks log .timeStamp
  | records {action : Host.Action} (recording : action.Records log) : Looks log action

/-- What may be asked for in a build once its files are laid out. -/
inductive Host.Action.Works (log : Option Path) : Host.Action → Prop where
  | runs (call : Tool.Call) : Works log (.execute call)
  | looks {action : Host.Action} (looking : action.Looks log) : Works log action

namespace Program

variable {Outcome : Type}

/-- Every action that the program can come to looks at files or writes to a log. -/
abbrev Looks (log : Option Path) (program : Program Outcome) : Prop :=
  program.Only (Host.Action.Looks log)

/-- Every action that the program can come to belongs to a build. -/
abbrev Works (log : Option Path) (program : Program Outcome) : Prop :=
  program.Only (Host.Action.Works log)

theorem Looks.plain {log : Option Path} {program : Program Outcome} (looks : program.Looks log) :
    program.Plain :=
  looks.mono fun _ looking => by rcases looking with _ | _ | _ | ⟨_ | _⟩ <;> rfl

theorem Looks.works {log : Option Path} {program : Program Outcome} (looks : program.Looks log) :
    program.Works log :=
  looks.mono fun _ => .looks

theorem Looks.invocations {log : Option Path} {program : Program Outcome}
    (looks : program.Looks log) {World : Type} (host : Host World) (world : World) :
    program.invocations host world = [] :=
  looks.plain.invocations host world

theorem Works.storeless {log : Option Path} {program : Program Outcome}
    (works : program.Works log) : program.Storeless := by
  refine works.mono fun action working => ?_
  cases working with
  | runs call => rfl
  | looks looking => rcases looking with _ | _ | _ | ⟨_ | _⟩ <;> rfl

end Program

open Program (Looks)

/-! ## The audit log -/

namespace Audit

theorem makeParent_looks (path : Path) : (makeParent path).Looks (some path) := by
  unfold makeParent
  split
  · exact Program.only_pure _ _
  · rename_i isParent
    exact Program.only_perform_iff.mpr (.records (.leads rfl isParent))

theorem appendTo_looks (path : Path) (record : Record) :
    (appendTo path record).Looks (some path) := by
  refine Program.Only.bind (makeParent_looks path) fun made => ?_
  cases made with
  | error fault => exact Program.only_pure _ _
  | ok _ =>
      refine Program.Only.ask .stamps fun stamp => ?_
      exact Program.Only.ask (.records (.appends _ rfl)) fun _ => Program.only_pure _ _

theorem log_looks (path : Option Path) (record : Record) : (log path record).Looks path := by
  cases path with
  | none => exact Program.only_pure _ _
  | some path => exact appendTo_looks path record

end Audit

/-! ## Files that tools leave -/

theorem Linker.readMap?_looks (log : Option Path) (directory : Path) :
    (readMap? directory).Looks log := by
  refine Program.Only.ask (.reads _) fun contents => ?_
  cases contents <;> exact Program.only_pure _ _

namespace Artifact

theorem ofFile?_looks (log : Option Path) (kind : Kind) (path : Path)
    (displayName : Option String) : (ofFile? kind path displayName).Looks log := by
  refine Program.Only.ask (.reads _) fun contents => ?_
  cases contents <;> exact Program.only_pure _ _

theorem ofExisting?_looks (log : Option Path) (kind : Kind) (path : Path)
    (displayName : Option String) : (ofExisting? kind path displayName).Looks log := by
  refine Program.Only.ask (.finds _) fun isThere => ?_
  cases isThere with
  | false => exact Program.only_pure _ _
  | true => exact ofFile?_looks log kind path displayName

theorem probe_looks (log : Option Path) (directory : Path) (names : List (String × Kind)) :
    (probe directory names).Looks log := by
  induction names with
  | nil => exact Program.only_pure _ _
  | cons named rest inductionHypothesis =>
      refine Program.Only.bind (ofExisting?_looks _ _ _ _) fun _ => ?_
      exact Program.Only.bind inductionHypothesis fun _ => Program.only_pure _ _

end Artifact

namespace Family

theorem stepLines_looks (log : Option Path) (family : Family) (name : String)
    (directory : Path) : (family.stepLines name directory).Looks log := by
  unfold stepLines
  split
  · exact Program.Only.bind (Linker.readMap?_looks log directory) fun _ => Program.only_pure _ _
  · exact Program.only_pure _ _

theorem readRemarks_looks (log : Option Path) (path : Path) : (readRemarks path).Looks log := by
  refine Program.Only.bind ?_ fun text => ?_
  · exact Program.Only.ask (.reads _) fun _ => Program.only_pure _ _
  · cases text <;> exact Program.only_pure _ _

theorem artifacts_looks (log : Option Path) (family : Family) (job : Job) (result : Result) :
    (family.artifacts job result).Looks log := by
  cases family with
  | standard | rustc => exact Program.only_pure _ _
  | cc65 | clang =>
      unfold artifacts
      dsimp only
      split
      · exact Program.Only.bind (Artifact.ofExisting?_looks _ _ _ _) fun _ =>
          Program.only_pure _ _
      · exact Program.only_pure _ _

/-! ## Installed tools -/

theorem toolVariables_looks (log : Option Path) (installation : Installation)
    (tools : List (String × String)) : (toolVariables log installation tools).Looks log := by
  induction tools with
  | nil => exact Program.only_pure _ _
  | cons tool rest inductionHypothesis =>
      refine Program.Only.bind ?_ fun _ =>
        Program.Only.bind inductionHypothesis fun _ => Program.only_pure _ _
      unfold Installation.existingTool?
      split
      · exact Program.only_pure _ _
      · refine Program.Only.ask (.finds _) fun isThere => ?_
        cases isThere with
        | false => exact Program.only_pure _ _
        | true => exact Program.Only.bind (Audit.log_looks _ _) fun _ => Program.only_pure _ _

theorem environment_looks (family : Family) (job : Job) :
    (family.environment job).Looks job.auditLog := by
  cases family with
  | standard | clang | rustc => exact Program.only_pure _ _
  | cc65 =>
      unfold environment
      dsimp only
      split
      · exact Program.only_pure _ _
      · exact Program.Only.bind (toolVariables_looks _ _ _) fun _ => Program.only_pure _ _

end Family

end BuildExplorer
