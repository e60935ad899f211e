import BuildExplorer.Proofs.Explorer.Ready
import BuildExplorer.Proofs.Explorer.Repeating
import BuildExplorer.Proofs.Host.Inside
import BuildExplorer.Proofs.Program.Bringing

/-!
# Extra files stay in the scratch directory

A name that is allowed for an extra file leads from the scratch directory to something
inside, however its slashes and dots are placed.  So nothing that is written to fill the
scratch directory changes anything outside, and behind that a build writes to the audit log
only: if anything else outside changes, a tool has changed it.
-/

namespace BuildExplorer.Explorer

open Program (Brings)
open Host (Location FileTree Machine ToolBehaviour bytesOf)

variable {Tools : Type}

/-! ## Names in the scratch directory -/

section Inside

variable {scratch : Path} {name : String}

/-- A name that is allowed leads from a directory through its components. -/
theorem components_join_of_allowed (absolute : scratch.isAbsolute = true)
    (allowed : Guard.checkFileName name = .ok ()) :
    (scratch.join name).components = scratch.components ++ (Path.mk name).components :=
  Path.components_join (Path.chars_ne_nil_of_isAbsolute absolute)
    (Guard.relative_of_allowed allowed)

theorem isAbsolute_join_of_allowed (absolute : scratch.isAbsolute = true)
    (allowed : Guard.checkFileName name = .ok ()) : (scratch.join name).isAbsolute = true := by
  rwa [Path.isAbsolute_join (Path.chars_ne_nil_of_isAbsolute absolute)
    (Guard.relative_of_allowed allowed)]

theorem up_not_mem_join_of_allowed (absolute : scratch.isAbsolute = true)
    (noneLeadsUp : ['.', '.'] ∉ scratch.components)
    (allowed : Guard.checkFileName name = .ok ()) :
    ['.', '.'] ∉ (scratch.join name).components := by
  rw [components_join_of_allowed absolute allowed, List.mem_append, not_or]
  refine ⟨noneLeadsUp, fun up => ?_⟩
  exact Guard.up_not_mem_of_allowed allowed (Path.up_mem_components_iff.mp up)

/-- The path of such a name leads where the scratch directory is, and from there on. -/
theorem goal_join_of_isAbsolute (directory : Location) (absolute : scratch.isAbsolute = true)
    (noneLeadsUp : ['.', '.'] ∉ scratch.components)
    (allowed : Guard.checkFileName name = .ok ()) :
    FileTree.goal directory (scratch.join name) =
      scratch.components ++ (Path.mk name).components := by
  rw [FileTree.goal_of_isAbsolute directory (isAbsolute_join_of_allowed absolute allowed)
    (up_not_mem_join_of_allowed absolute noneLeadsUp allowed),
    components_join_of_allowed absolute allowed]

theorem prefix_goal_join (directory : Location) (absolute : scratch.isAbsolute = true)
    (noneLeadsUp : ['.', '.'] ∉ scratch.components)
    (allowed : Guard.checkFileName name = .ok ()) :
    scratch.components <+: FileTree.goal directory (scratch.join name) := by
  rw [goal_join_of_isAbsolute directory absolute noneLeadsUp allowed]
  exact List.prefix_append _ _

/-- On the way to such a name is the scratch directory. -/
theorem mem_stages_join (directory : Location) (absolute : scratch.isAbsolute = true)
    (noneLeadsUp : ['.', '.'] ∉ scratch.components)
    (allowed : Guard.checkFileName name = .ok ()) :
    scratch.components ∈ FileTree.stages (FileTree.start directory (scratch.join name))
      ((scratch.join name).chars.splitOn '/') := by
  have isNamed := Path.chars_ne_nil_of_isAbsolute absolute
  have isHome : scratch.components = FileTree.follow [] (scratch.front.splitOn '/') := by
    rw [FileTree.follow_splitOn_front, ← FileTree.goal_of_isAbsolute directory absolute noneLeadsUp,
      FileTree.goal, FileTree.start, if_pos absolute]
  rw [FileTree.start, if_pos (isAbsolute_join_of_allowed absolute allowed), isHome,
    Path.splitOn_join isNamed (Guard.relative_of_allowed allowed)]
  exact FileTree.follow_mem_stages _ _ _

/-- Such a name leads to the scratch directory itself only if all its pieces are silent. -/
theorem goal_join_ne_iff (directory : Location) (absolute : scratch.isAbsolute = true)
    (noneLeadsUp : ['.', '.'] ∉ scratch.components)
    (allowed : Guard.checkFileName name = .ok ()) :
    FileTree.goal directory (scratch.join name) ≠ scratch.components ↔
      ∃ piece ∈ name.toList.splitOn '/', piece ≠ [] ∧ piece ≠ ['.'] := by
  rw [goal_join_of_isAbsolute directory absolute noneLeadsUp allowed, ne_eq,
    List.append_right_eq_self, Path.components, List.filter_eq_nil_iff]
  simp [Path.chars]

end Inside

/-! ## Filling the scratch directory -/

/-- A text that is written is asked for once. -/
theorem asked_writeText {World : Type} (host : Host World) (path : Path) (text : String)
    (world : World) :
    (writeText path text).asked host world =
      [(.writeContents path (Text.Utf8.encode text.toList), world)] := by
  unfold writeText
  rw [Program.asked_bind, Program.asked_writeContents]
  split <;> rfl

section Filling

variable (execute : ToolBehaviour Tools) {scratch : Path}
  (absolute : scratch.isAbsolute = true) (noneLeadsUp : ['.', '.'] ∉ scratch.components)

include absolute noneLeadsUp

theorem agreeOutside_writeContents {name : String} (allowed : Guard.checkFileName name = .ok ())
    (contents : Host.Bytes) (machine : Machine Tools) :
    FileTree.AgreeOutside scratch.components machine.tree
      (Machine.answer execute (.writeContents (scratch.join name) contents) machine).2.tree := by
  change FileTree.AgreeOutside _ _ (machine.update (FileTree.writeContents _ _ _ _)).2.tree
  cases written : FileTree.writeContents machine.tree machine.directory (scratch.join name)
      contents with
  | error fault => exact FileTree.AgreeOutside.refl _ _
  | ok tree =>
      exact FileTree.agreeOutside_updateFile
        (prefix_goal_join machine.directory absolute noneLeadsUp allowed) written

/-- Directories that lead to something in the scratch directory. -/
theorem agreeOutside_createDirectories {name : String}
    (allowed : Guard.checkFileName name = .ok ()) {path : Path}
    (pathAbsolute : path.isAbsolute = true)
    (onTheWay : path.components <+: (scratch.join name).components) {machine : Machine Tools}
    (leads : machine.tree.LeadsTo scratch.components) :
    FileTree.AgreeOutside scratch.components machine.tree
      (Machine.answer execute (.createDirectories path) machine).2.tree := by
  refine FileTree.agreeOutside_of_growsToward leads ?_
    (FileTree.growsToward_createDirectories machine.tree machine.directory
      (up_not_mem_join_of_allowed absolute noneLeadsUp allowed) pathAbsolute onTheWay)
  rw [components_join_of_allowed absolute allowed]
  exact List.prefix_append _ _

/-- What is done to fill a scratch directory leaves what is outside. -/
theorem agreeOutside_of_fills {action : Host.Action} (filling : Fills scratch action)
    {machine : Machine Tools} (leads : machine.tree.LeadsTo scratch.components) :
    FileTree.AgreeOutside scratch.components machine.tree
      (Machine.answer execute action machine).2.tree := by
  cases filling with
  | writes contents allowed =>
      exact agreeOutside_writeContents execute absolute noneLeadsUp allowed contents machine
  | leads allowed isParent =>
      obtain ⟨parentAbsolute, isAbove⟩ :=
        Path.parent_of_isAbsolute (isAbsolute_join_of_allowed absolute allowed) isParent
      exact agreeOutside_createDirectories execute absolute noneLeadsUp allowed parentAbsolute
        isAbove leads
  | makes allowed =>
      exact agreeOutside_createDirectories execute absolute noneLeadsUp allowed
        (isAbsolute_join_of_allowed absolute allowed) (List.prefix_refl _) leads
  | removes =>
      change FileTree.AgreeOutside _ _ (machine.removeAll scratch).tree
      unfold Machine.removeAll
      split
      · exact FileTree.AgreeOutside.refl _ _
      · rename_i location resolved
        rw [FileTree.eq_goal_of_resolve resolved,
          FileTree.goal_of_isAbsolute _ absolute noneLeadsUp]
        exact FileTree.agreeOutside_eraseBelow machine.tree scratch.components

/-- Where a file in the scratch directory could be written, all that leads to the scratch
directory is there. -/
theorem leadsTo_of_writeContents {name : String} (allowed : Guard.checkFileName name = .ok ())
    {contents : Host.Bytes} {machine written : Machine Tools}
    (isWritten : machine.update (FileTree.writeContents machine.tree machine.directory
      (scratch.join name) contents) = (.ok (), written)) :
    written.tree.LeadsTo scratch.components := by
  obtain ⟨tree, updated, rfl⟩ := Machine.update_eq_ok_iff.mp isWritten
  refine FileTree.leadsTo_of_updateFile (isAbsolute_join_of_allowed absolute allowed)
    (up_not_mem_join_of_allowed absolute noneLeadsUp allowed) ?_ updated
  rw [components_join_of_allowed absolute allowed]
  exact List.prefix_append _ _

theorem writeText_brings_leadsTo {name : String} (allowed : Guard.checkFileName name = .ok ())
    (text : String) :
    Brings (Machine.answer execute) (fun _ => True) (writeText (scratch.join name) text)
      fun outcome machine =>
        ∀ done, outcome = .ok done → machine.tree.LeadsTo scratch.components := by
  have writes : Brings (Machine.answer execute) (fun _ => True)
      (Program.writeContents (scratch.join name) (Text.Utf8.encode text.toList))
      fun outcome machine =>
        ∀ done, outcome = .ok done → machine.tree.LeadsTo scratch.components :=
    fun _ _ _ isWritten =>
      leadsTo_of_writeContents absolute noneLeadsUp allowed (Prod.ext isWritten rfl)
  refine Brings.bind writes fun outcome => ?_
  cases outcome with
  | error fault => exact Brings.fails
  | ok _ => exact Brings.pure fun _ leads _ _ => leads () rfl

/-- Nothing outside of the scratch directory changes while it is filled.  The source is the
first file: if it cannot be written, nothing else is done. -/
theorem agreeOutside_of_mem_asked_prepare {explorer : Explorer} {request : Request}
    {accepted : Accepted} (checked : check explorer.config request = .ok accepted)
    (options : List String) (machine : Machine Tools) :
    ∀ step ∈ (explorer.prepare accepted request options scratch).asked
        (Machine.answer execute) machine,
      FileTree.AgreeOutside scratch.components step.2.tree
        (Machine.answer execute step.1 step.2).2.tree := by
  obtain ⟨allowed, -⟩ := checkFileName_of_check checked
  have fills := prepare_fills checked options scratch
  have leads := writeText_brings_leadsTo execute absolute noneLeadsUp allowed request.source
    machine trivial
  have keeps : ∀ action, Fills scratch action → ∀ machine : Machine Tools,
      machine.tree.LeadsTo scratch.components →
        (Machine.answer execute action machine).2.tree.LeadsTo scratch.components :=
    fun _ filling _ leads =>
      leads.of_agreeOutside (agreeOutside_of_fills execute absolute noneLeadsUp filling leads)
  unfold prepare at fills ⊢
  have restFills := fills.of_bind (Machine.answer execute) machine
  rw [Program.asked_bind, asked_writeText]
  generalize (writeText (scratch.join accepted.language.sourceName) request.source).run
    (Machine.answer execute) machine = written at leads restFills ⊢
  rcases written with ⟨outcome, written⟩
  refine List.forall_mem_append.mpr ⟨?source, ?rest⟩
  case source =>
      exact List.forall_mem_singleton.mpr
        (agreeOutside_writeContents execute absolute noneLeadsUp allowed _ machine)
  case rest =>
      cases outcome with
      | error error => exact List.forall_mem_nil _
      | ok done =>
          intro step member
          obtain ⟨filling, stillLeads⟩ :=
            restFills.of_mem_asked keeps (leads done rfl) step member
          exact agreeOutside_of_fills execute absolute noneLeadsUp filling stillLeads

end Filling

/-! ## Building in the scratch directory -/

section Building

variable (execute : ToolBehaviour Tools)

/-- Once a scratch directory is filled, a build runs tools, writes to the log, or leaves all
as it is. -/
theorem agreeOutside_of_works (home : Location) {log : Option Path} {action : Host.Action}
    (works : action.Works log) (machine : Machine Tools) :
    action.isExecute = true ∨ action.Records log ∨
      FileTree.AgreeOutside home machine.tree (Machine.answer execute action machine).2.tree := by
  cases works with
  | runs call => exact .inl rfl
  | looks looking =>
      cases looking with
      | records recording => exact .inr (.inl recording)
      | reads path | finds path | stamps => exact .inr (.inr (FileTree.AgreeOutside.refl _ _))

theorem agreeOutside_of_mem_asked_buildIn {scratch : Path} (absolute : scratch.isAbsolute = true)
    (noneLeadsUp : ['.', '.'] ∉ scratch.components) {explorer : Explorer} {request : Request}
    {accepted : Accepted} (checked : check explorer.config request = .ok accepted)
    (options : List String) (machine : Machine Tools) :
    ∀ step ∈ (explorer.buildIn accepted request options scratch).asked
        (Machine.answer execute) machine,
      step.1.isExecute = true ∨ step.1.Records explorer.auditLog ∨
        FileTree.AgreeOutside scratch.components step.2.tree
          (Machine.answer execute step.1 step.2).2.tree := by
  have isJob := (prepare_always_isJob explorer accepted request options scratch).run
    (Machine.answer execute) machine
  have fills := agreeOutside_of_mem_asked_prepare execute absolute noneLeadsUp checked options
    machine
  unfold buildIn
  rw [Program.asked_bind]
  generalize (explorer.prepare accepted request options scratch).run (Machine.answer execute)
    machine = prepared at isJob ⊢
  rcases prepared with ⟨outcome, filled⟩
  refine List.forall_mem_append.mpr ⟨fun step member => .inr (.inr (fills step member)), ?_⟩
  cases outcome with
  | error error => exact List.forall_mem_nil _
  | ok job =>
      -- The job writes to the log of the explorer, whatever the request.
      obtain ⟨stepDirectory, rfl⟩ := isJob job rfl
      have works := build_works explorer.config accepted.family
        (explorer.job accepted request options scratch stepDirectory)
      rw [Program.asked_bind, Program.asked_pure, List.append_nil]
      intro step member
      exact agreeOutside_of_works execute scratch.components (works.mem_asked _ _ step member)
        step.2

end Building

/-- Where a scratch directory has an absolute path without names that lead up, a name that is
allowed for an extra file leads to its place and from there on never out of it, and to
something inside if any of its pieces says something.  In a build of whatever extra files,
nothing changes outside of the scratch directory but what the tools change, and the audit
log with the directories that lead to it. -/
theorem extra_files_stay_in_scratch {scratch : Path} (absolute : scratch.isAbsolute = true)
    (noneLeadsUp : ['.', '.'] ∉ scratch.components) :
    let home := scratch.components
    (∀ (directory : Location) (name : String), Guard.checkFileName name = .ok () →
      let path := scratch.join name
      let here := FileTree.start directory path
      let pieces := path.chars.splitOn '/'
      home <+: FileTree.goal directory path ∧
      home ∈ FileTree.stages here pieces ∧ FileTree.NeverLeaves home here pieces ∧
      (FileTree.goal directory path ≠ home ↔
        ∃ piece ∈ name.toList.splitOn '/', piece ≠ [] ∧ piece ≠ ['.'])) ∧
    ∀ {Tools : Type} (execute : ToolBehaviour Tools) (explorer : Explorer) (request : Request)
      (accepted : Accepted) (options : List String) (machine : Machine Tools),
      check explorer.config request = .ok accepted →
      ∀ step ∈ (explorer.buildIn accepted request options scratch).asked
          (Machine.answer execute) machine,
        step.1.isExecute = true ∨ step.1.Records explorer.auditLog ∨
          FileTree.AgreeOutside home step.2.tree
            (Machine.answer execute step.1 step.2).2.tree := by
  intro home
  refine ⟨?names, ?builds⟩
  case names =>
      intro directory name allowed path here pieces
      have noPieceLeadsUp : ['.', '.'] ∉ pieces := fun up =>
        up_not_mem_join_of_allowed absolute noneLeadsUp allowed
          (Path.up_mem_components_iff.mpr up)
      exact ⟨prefix_goal_join directory absolute noneLeadsUp allowed,
        mem_stages_join directory absolute noneLeadsUp allowed,
        FileTree.neverLeaves home here noPieceLeadsUp,
        goal_join_ne_iff directory absolute noneLeadsUp allowed⟩
  case builds =>
      intro Tools execute explorer request accepted options machine checked
      exact agreeOutside_of_mem_asked_buildIn execute absolute noneLeadsUp checked options machine

/-- The theorem at an extra file in a directory of its own, with two silent pieces in its name:
it is written inside of the scratch directory, and nothing changes outside. -/
theorem extra_files_stay_in_scratch_silent_pieces :
    let scratch : Path := ⟨"/tmp/cohccaaaaaa"⟩
    let name := "src//./main.c"
    let explorer : Explorer := { config := { compilers := [plainCompiler] } }
    let request : Request := { compiler := "cc", files := [⟨"src//./main.c", "int y;"⟩] }
    let accepted : Accepted := ⟨plainCompiler, .standard, .cpp⟩
    let host := Machine.answer greetingTools
    let machine := (host .makeScratch cacheMachine).2
    let build := explorer.buildIn accepted request [] scratch
    (host .makeScratch cacheMachine).1 = .ok scratch ∧
    scratch.isAbsolute = true ∧ ['.', '.'] ∉ scratch.components ∧
    Guard.checkFileName name = .ok () ∧ check explorer.config request = .ok accepted ∧
    FileTree.goal [] (scratch.join name) ≠ scratch.components ∧
    FileTree.readContents (build.run host machine).2.tree [] (scratch.join name) =
      .ok (bytesOf "int y;") ∧
    ∀ step ∈ build.asked host machine,
      step.1.isExecute = true ∨ step.1.Records none ∨
        FileTree.AgreeOutside scratch.components step.2.tree (host step.1 step.2).2.tree := by
  intro scratch name explorer request accepted host machine build
  have absolute : scratch.isAbsolute = true := by decide +kernel
  have noneLeadsUp : ['.', '.'] ∉ scratch.components := by decide +kernel
  have allowed : Guard.checkFileName name = .ok () := by decide +kernel
  have checked : check explorer.config request = .ok accepted := rfl
  obtain ⟨names, builds⟩ := extra_files_stay_in_scratch absolute noneLeadsUp
  obtain ⟨-, -, -, apart⟩ := names [] name allowed
  refine ⟨?made, absolute, noneLeadsUp, allowed, checked, ?apart, ?isWritten, ?stays⟩
  case made => rfl
  case apart => exact apart.mpr ⟨"src".toList, by decide +kernel, by decide +kernel⟩
  case isWritten => decide +kernel
  case stays => exact builds greetingTools explorer request accepted [] machine checked

end BuildExplorer.Explorer
