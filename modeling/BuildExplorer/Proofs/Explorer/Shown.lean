import BuildExplorer.Proofs.Explorer.Filled

/-!
# What is shown of a build

A result shows what is found in the scratch directory once the steps are over: a listing,
artifacts and remarks.  Whether a tool has made what is found there is not asked.  Where the
tools make and change no file, whatever is shown is an extra file of the request, and
nothing is shown where no extra file leads to a place that is looked at.
-/

namespace BuildExplorer

open Program (Always Brings)
open Host (Location FileTree Machine ToolBehaviour bytesOf)

variable {Tools : Type}

namespace Explorer

/-! ## Machines in a build -/

/-- What a machine can become by what belongs to a build: a tool is run, directories are made,
or a record is written behind the end of the log. -/
inductive Continues (execute : ToolBehaviour Tools) (log : Option Path) (machine : Machine Tools) :
    Machine Tools → Prop where
  | runs (call : Tool.Call) : Continues execute log machine
      { (execute call machine).2 with directory := machine.directory }
  | grows {tree : FileTree} (grows : FileTree.Grows machine.tree tree) :
      Continues execute log machine { machine with tree }
  | logs {path : Path} {contents : Host.Bytes} {tree : FileTree} (isLog : log = some path)
      (appended : FileTree.appendContents machine.tree machine.directory path contents = .ok tree) :
      Continues execute log machine { machine with tree }

theorem continues_answer (execute : ToolBehaviour Tools) {log : Option Path}
    {action : Host.Action} (works : action.Works log) (machine : Machine Tools) :
    Continues execute log machine (Machine.answer execute action machine).2 := by
  have stays : Continues execute log machine machine := .grows (FileTree.Grows.refl machine.tree)
  cases works with
  | runs call => exact .runs call
  | looks looking =>
      cases looking with
      | reads path | finds path | stamps => exact stays
      | records recording =>
          cases recording with
          | @leads _ parent => exact .grows (FileTree.grows_createDirectories _ _ parent)
          | @appends path contents isLog =>
              change Continues execute log machine
                (machine.update (FileTree.appendContents _ machine.directory path contents)).2
              cases appended :
                  FileTree.appendContents machine.tree machine.directory path contents with
              | error fault => exact stays
              | ok tree => exact .logs isLog appended

/-! ## Tools that make no file -/

/-- Tools that make and change no file: what is there after a run, besides directories, was
there before. -/
def IsIdle (execute : ToolBehaviour Tools) : Prop :=
  ∀ call machine place entry, (execute call machine).2.tree.entry? place = some entry →
    entry ≠ .directory → machine.tree.entry? place = some entry

/-- The scratch directory at a path holds at most some files. -/
structure FilledAtMost (scratch : Path) (directory : Location) (files : List ExtraFile)
    (machine : Machine Tools) : Prop where
  isDirectory : machine.directory = directory
  holds : machine.tree.HoldsAtMost (FileTree.goal directory scratch) files

/-- A log is elsewhere if it is not below a place. -/
def IsElsewhere (log : Option Path) (directory home : Location) : Prop :=
  ∀ path ∈ log, ¬home <+: FileTree.goal directory path

section Keeping

variable {execute : ToolBehaviour Tools} {scratch : Path} {directory : Location}
  {files : List ExtraFile} {log : Option Path}

/-- What belongs to a build adds no file to the scratch directory, if the tools do not. -/
theorem FilledAtMost.of_continues (idle : IsIdle execute)
    (elsewhere : IsElsewhere log directory (FileTree.goal directory scratch))
    {machine after : Machine Tools} (continues : Continues execute log machine after)
    (filled : FilledAtMost scratch directory files machine) :
    FilledAtMost scratch directory files after := by
  cases continues with
  | runs call =>
      exact ⟨filled.isDirectory, filled.holds.of_entries fun _ _ => idle call machine _ _⟩
  | grows grows => exact ⟨filled.isDirectory, filled.holds.grow grows⟩
  | logs isLog appended =>
      rw [filled.isDirectory] at appended
      exact ⟨filled.isDirectory, filled.holds.update (elsewhere _ isLog) appended⟩

/-- No program of a build adds a file to the scratch directory, if the tools do not. -/
theorem Works.brings {Outcome : Type} {program : Program Outcome} (works : program.Works log)
    (idle : IsIdle execute)
    (elsewhere : IsElsewhere log directory (FileTree.goal directory scratch)) :
    Brings (Machine.answer execute) (FilledAtMost scratch directory files) program
      fun _ => FilledAtMost scratch directory files :=
  Program.Only.brings works fun _ working _ filled =>
    FilledAtMost.of_continues idle elsewhere (continues_answer execute working _) filled

/-! ## What is looked at -/

theorem isFile_brings {path : Path} {names : Location}
    (isGoal : FileTree.goal directory path = FileTree.goal directory scratch ++ names) :
    Brings (Machine.answer execute) (FilledAtMost scratch directory files) (Program.isFile path)
      fun isThere machine => (isThere = true → ∃ text, lastContents files names = some text) ∧
        FilledAtMost scratch directory files machine := by
  intro machine filled
  refine ⟨fun isThere => ?_, filled⟩
  have isThere : FileTree.isFile machine.tree machine.directory path = true := isThere
  rw [filled.isDirectory] at isThere
  exact filled.holds.exists_of_isFile isGoal isThere

theorem readContents_brings {path : Path} {names : Location}
    (isGoal : FileTree.goal directory path = FileTree.goal directory scratch ++ names) :
    Brings (Machine.answer execute) (FilledAtMost scratch directory files)
      (Program.readContents path) fun outcome machine =>
        (∀ contents, outcome = .ok contents →
          ∃ text, lastContents files names = some text ∧ contents = bytesOf text) ∧
        FilledAtMost scratch directory files machine := by
  intro machine filled
  refine ⟨fun contents isRead => ?_, filled⟩
  have isRead : FileTree.readContents machine.tree machine.directory path = .ok contents := isRead
  rw [filled.isDirectory] at isRead
  exact filled.holds.exists_of_readContents isGoal isRead

/-- An artifact of a path is the last file that leads there. -/
def IsLastAt (files : List ExtraFile) (names : Location) (path : Path) (artifact : Artifact) :
    Prop :=
  artifact.path = path ∧ ∃ text, lastContents files names = some text ∧
    artifact.content = String.ofList (Text.Base64.encode (bytesOf text))

theorem ofExisting?_brings (kind : Artifact.Kind) (displayName : Option String) {path : Path}
    {names : Location}
    (isGoal : FileTree.goal directory path = FileTree.goal directory scratch ++ names) :
    Brings (Machine.answer execute) (FilledAtMost scratch directory files)
      (Artifact.ofExisting? kind path displayName) fun found machine =>
        (∀ artifact ∈ found, IsLastAt files names path artifact) ∧
          FilledAtMost scratch directory files machine := by
  have noneFound : ∀ artifact ∈ (none : Option Artifact), IsLastAt files names path artifact :=
    fun _ impossible => absurd impossible (Option.not_mem_none _)
  unfold Artifact.ofExisting?
  refine Brings.bind (isFile_brings isGoal) fun isThere => ?_
  refine Brings.of_and fun _ => ?_
  cases isThere with
  | false => exact Brings.pure fun _ filled => ⟨noneFound, filled⟩
  | true =>
      unfold Artifact.ofFile?
      refine Brings.bind (readContents_brings isGoal) fun outcome => ?_
      refine Brings.of_and fun isUploaded => ?_
      cases outcome with
      | error fault => exact Brings.pure fun _ filled => ⟨noneFound, filled⟩
      | ok contents =>
          refine Brings.pure fun _ filled => ⟨?_, filled⟩
          rintro _ ⟨⟩
          obtain ⟨text, isLast, rfl⟩ := isUploaded contents rfl
          exact ⟨rfl, text, isLast, rfl⟩

theorem readRemarks_brings {path : Path} {names : Location}
    (isGoal : FileTree.goal directory path = FileTree.goal directory scratch ++ names) :
    Brings (Machine.answer execute) (FilledAtMost scratch directory files)
      (Family.readRemarks path) fun remarks machine =>
        (lastContents files names = none → remarks = []) ∧
          FilledAtMost scratch directory files machine := by
  unfold Family.readRemarks Program.readText
  rw [bind_assoc]
  refine Brings.bind (readContents_brings isGoal) fun outcome => ?_
  refine Brings.of_and fun isUploaded => ?_
  rw [pure_bind]
  cases outcome with
  | error fault => exact Brings.pure fun _ filled => ⟨fun _ => rfl, filled⟩
  | ok contents =>
      obtain ⟨text, isLast, -⟩ := isUploaded contents rfl
      have contradicts : lastContents files names ≠ none := by simp [isLast]
      split
      · exact Brings.pure fun _ filled => ⟨fun _ => rfl, filled⟩
      · exact Brings.pure fun _ filled => ⟨fun noneLeads => absurd noneLeads contradicts, filled⟩

end Keeping

/-! ## Places that are looked at -/

/-- The names that lead from the scratch directory to where the last step runs. -/
def stepNames : BuildKind → Location
  | .single => []
  | .cmake => [buildDirectoryName.toList]

/-- The names of the files that are looked at where the last step runs. -/
def namesLookedAt (request : Request) : List String :=
  request.outputName :: "output.json" :: Artifact.knownNames.map (·.1)

theorem stepPlace_ne_nil {scratch : Path} (isNamed : scratch.chars ≠ []) (build : BuildKind) :
    (stepPlace scratch build).chars ≠ [] := by
  cases build with
  | single => exact isNamed
  | cmake => exact Path.chars_join_ne_nil isNamed (by decide)

/-- What is looked at where the last step runs is below the scratch directory. -/
theorem goal_stepPlace_join (directory : Location) {scratch : Path} (isNamed : scratch.chars ≠ [])
    (build : BuildKind) {name : String} (whole : '/' ∉ name.toList)
    (long : 2 < name.toList.length) :
    FileTree.goal directory ((stepPlace scratch build).join name) =
      FileTree.goal directory scratch ++ (stepNames build ++ [name.toList]) := by
  rw [FileTree.goal_join_single _ (stepPlace_ne_nil isNamed build) whole,
    FileTree.stepTo_of_long long]
  cases build with
  | single => rfl
  | cmake =>
      have isStep : FileTree.goal directory (scratch.join buildDirectoryName) =
          FileTree.goal directory scratch ++ [buildDirectoryName.toList] := by
        rw [FileTree.goal_join_single _ isNamed (by decide)]
        exact FileTree.stepTo_of_long (by decide)
      rw [stepPlace, isStep, List.append_assoc]
      rfl

theorem goal_of_namesLookedAt (directory : Location) {scratch : Path}
    (isNamed : scratch.chars ≠ []) {request : Request} {name : String}
    (member : name ∈ namesLookedAt request) :
    FileTree.goal directory ((stepPlace scratch request.build).join name) =
      FileTree.goal directory scratch ++ (stepNames request.build ++ [name.toList]) := by
  have each : ∀ build, ∀ name ∈ namesLookedAt { build },
      '/' ∉ name.toList ∧ 2 < name.toList.length := by
    intro build
    cases build <;> decide
  obtain ⟨whole, long⟩ := each request.build name member
  exact goal_stepPlace_join directory isNamed request.build whole long

/-! ## What a result shows -/

/-- An artifact is the last file at one of the places that are looked at. -/
def IsLastFile (scratch : Path) (request : Request) (files : List ExtraFile)
    (artifact : Artifact) : Prop :=
  ∃ name ∈ namesLookedAt request,
    IsLastAt files (stepNames request.build ++ [name.toList])
      ((stepPlace scratch request.build).join name) artifact

/-- The names that lead to the primary output. -/
def outputNames (request : Request) : Location :=
  stepNames request.build ++ [request.outputName.toList]

/-- The names that lead to the remarks. -/
def remarksNames : Location :=
  ["output.opt.yaml".toList]

/-- A result shows at most some files: no listing and no remarks unless one of them leads to
where these are looked for, and as artifacts only the last of them at a place that is looked
at. -/
structure ShowsAtMost (scratch : Path) (request : Request) (files : List ExtraFile)
    (result : Result) : Prop where
  listing : lastContents files (outputNames request) = none →
    result.listing = [] ∧ result.devices = none
  remarks : lastContents files remarksNames = none → result.remarks.getD [] = []
  artifacts : ∀ artifact ∈ result.artifacts, IsLastFile scratch request files artifact

theorem ShowsAtMost.addArtifacts {scratch : Path} {request : Request} {files : List ExtraFile}
    {result : Result} (shows : ShowsAtMost scratch request files result)
    {artifacts : List Artifact}
    (areFiles : ∀ artifact ∈ artifacts, IsLastFile scratch request files artifact) :
    ShowsAtMost scratch request files (result.addArtifacts artifacts) where
  listing := shows.listing
  remarks := shows.remarks
  artifacts := List.forall_mem_append.mpr ⟨shows.artifacts, areFiles⟩

/-! ## What is collected -/

section Collecting

variable {execute : ToolBehaviour Tools} {explorer : Explorer} {accepted : Accepted}
  {request : Request} {options : List String} {scratch : Path} {directory : Location}
  {files : List ExtraFile}

/-- The job of a request in its scratch directory. -/
def jobIn (explorer : Explorer) (accepted : Accepted) (request : Request) (options : List String)
    (scratch : Path) : Job :=
  explorer.job accepted request options scratch (stepPlace scratch request.build)

/-- What a compiler notes of its time is beside the primary output. -/
theorem output_withExtension (isNamed : scratch.chars ≠ []) :
    (jobIn explorer accepted request options scratch).output.withExtension "json" =
      (stepPlace scratch request.build).join "output.json" := by
  have isStep := stepPlace_ne_nil isNamed request.build
  change ((stepPlace scratch request.build).join request.outputName).withExtension "json" = _
  unfold Request.outputName
  split
  · exact Path.withExtension_join isStep "output" (by decide) (by decide)
      (by decide) (by decide) (by decide) (by decide) "json"
  · exact Path.withExtension_join isStep "output" (by decide) (by decide)
      (by decide) (by decide) (by decide) (by decide) "json"

theorem runSteps_works (config : Config) (family : Family) (job : Job) :
    (runSteps config family job).Works job.auditLog := by
  refine Program.Only.bind (steps_looks _ _ _).works fun _ => ?_
  refine Program.Only.bind ?_ fun _ => Program.only_pure _ _
  exact Step.runAll_works { family, inputName := _, auditLog := job.auditLog } _ _ _

/-- What a program leaves on a machine: a result that shows at most some files, and a scratch
directory that holds no others. -/
def LeavesAtMost (scratch : Path) (directory : Location) (request : Request)
    (files : List ExtraFile) (result : Result) (machine : Machine Tools) : Prop :=
  ShowsAtMost scratch request files result ∧ FilledAtMost scratch directory files machine

theorem addAssembly_artifacts (family : Family) (text : String) (filters : Filters)
    (result : Result) :
    (family.addAssembly text filters result).artifacts = result.artifacts ∧
      (family.addAssembly text filters result).remarks = result.remarks := by
  unfold Family.addAssembly
  split <;> exact ⟨rfl, rfl⟩

/-- The primary output brings no artifacts and no remarks. -/
theorem showOutput_always (family : Family) (job : Job) (result : Result) :
    (if job.request.filters.binary then disassemble family job result
      else readListing family job result).Always fun listed =>
        listed.artifacts = result.artifacts ∧ listed.remarks = result.remarks := by
  split
  · unfold disassemble
    split
    · exact Program.always_pure_iff.mpr ⟨rfl, rfl⟩
    · refine Always.bind (Program.always_true _) fun report _ => ?_
      split
      · exact addAssembly_artifacts _ _ _ _
      · exact Program.always_pure_iff.mpr ⟨rfl, rfl⟩
  · refine Always.bind (Program.always_true _) fun contents _ => ?_
    cases contents with
    | error fault => exact Program.always_pure_iff.mpr ⟨rfl, rfl⟩
    | ok contents => exact addAssembly_artifacts _ _ _ _

variable (idle : IsIdle execute) (isNamed : scratch.chars ≠ [])
  (elsewhere : IsElsewhere explorer.auditLog directory (FileTree.goal directory scratch))

include idle isNamed elsewhere

theorem addOutput_leaves (family : Family) {before : Result}
    (shows : ShowsAtMost scratch request files before) :
    Brings (Machine.answer execute) (FilledAtMost scratch directory files)
      (addOutput family (jobIn explorer accepted request options scratch) before)
      (LeavesAtMost scratch directory request files) := by
  have isGoal := goal_of_namesLookedAt directory isNamed
    (List.mem_cons_self : request.outputName ∈ namesLookedAt request)
  unfold addOutput
  refine Brings.bind (isFile_brings isGoal) fun isThere => ?_
  refine Brings.of_and fun isUploaded => ?_
  cases isThere with
  | false => exact Brings.pure fun _ filled => ⟨shows, filled⟩
  | true =>
      obtain ⟨text, isLast⟩ := isUploaded rfl
      have works : (if (jobIn explorer accepted request options scratch).request.filters.binary
          then disassemble family (jobIn explorer accepted request options scratch) before
          else readListing family (jobIn explorer accepted request options scratch) before).Works
            explorer.auditLog := by
        split
        · exact disassemble_works _ _ _ _
        · exact (readListing_looks _ _ _ _).works
      have same := showOutput_always family (jobIn explorer accepted request options scratch) before
      refine (Brings.and (same.brings _ _) (Works.brings works idle elsewhere)).weaken ?_
      rintro listed machine ⟨⟨sameArtifacts, sameRemarks⟩, filled⟩
      refine ⟨⟨?_, ?_, ?_⟩, filled⟩
      · intro noneLeads
        rw [outputNames, isLast] at noneLeads
        cases noneLeads
      · rw [sameRemarks]
        exact shows.remarks
      · rw [sameArtifacts]
        exact shows.artifacts

theorem addDerived_leaves (family : Family) {before : Result}
    (shows : ShowsAtMost scratch request files before) :
    Brings (Machine.answer execute) (FilledAtMost scratch directory files)
      (family.addDerived (jobIn explorer accepted request options scratch) before)
      (LeavesAtMost scratch directory request files) := by
  cases family with
  | standard | cc65 => exact Brings.pure fun _ filled => ⟨shows, filled⟩
  | clang =>
      have isGoal : FileTree.goal directory (scratch.join "output.opt.yaml") =
          FileTree.goal directory scratch ++ remarksNames := by
        rw [FileTree.goal_join_single _ isNamed (by decide)]
        exact FileTree.stepTo_of_long (by decide)
      unfold Family.addDerived
      dsimp only
      split
      · refine Brings.bind (readRemarks_brings isGoal) fun remarks => ?_
        refine Brings.of_and fun isUploaded => ?_
        exact Brings.pure fun _ filled => ⟨⟨shows.listing, isUploaded, shows.artifacts⟩, filled⟩
      · exact Brings.pure fun _ filled => ⟨shows, filled⟩
  | rustc =>
      unfold Family.addDerived
      dsimp only
      split
      · have works := Family.expandMacros_works .rustc
          (jobIn explorer accepted request options scratch) before.inputName
        refine Brings.bind (Works.brings works idle elsewhere) fun _ => ?_
        exact Brings.pure fun _ filled =>
          ⟨⟨shows.listing, shows.remarks, shows.artifacts⟩, filled⟩
      · exact Brings.pure fun _ filled => ⟨shows, filled⟩

omit idle elsewhere in
theorem ofExisting?_brings_lastFile (kind : Artifact.Kind) (displayName : Option String)
    {name : String} (member : name ∈ namesLookedAt request) :
    Brings (Machine.answer execute) (FilledAtMost scratch directory files)
      (Artifact.ofExisting? kind ((stepPlace scratch request.build).join name) displayName)
      fun found machine => (∀ artifact ∈ found.toList, IsLastFile scratch request files artifact) ∧
        FilledAtMost scratch directory files machine := by
  have isGoal := goal_of_namesLookedAt directory isNamed member
  refine (ofExisting?_brings kind displayName isGoal).weaken ?_
  rintro found machine ⟨areLast, filled⟩
  refine ⟨fun artifact isFound => ⟨name, member, ?_⟩, filled⟩
  exact areLast artifact (Option.mem_toList.mp isFound)

omit idle elsewhere in
theorem probe_brings {names : List (String × Artifact.Kind)}
    (known : ∀ named ∈ names, named.1 ∈ namesLookedAt request) :
    Brings (Machine.answer execute) (FilledAtMost scratch directory files)
      (Artifact.probe (stepPlace scratch request.build) names) fun found machine =>
        (∀ artifact ∈ found, IsLastFile scratch request files artifact) ∧
          FilledAtMost scratch directory files machine := by
  induction names with
  | nil => exact Brings.pure fun _ filled => ⟨List.forall_mem_nil _, filled⟩
  | cons named rest inductionHypothesis =>
      obtain ⟨isKnown, restKnown⟩ := List.forall_mem_cons.mp known
      refine Brings.bind (ofExisting?_brings_lastFile isNamed _ _ isKnown) fun found => ?_
      refine Brings.of_and fun areFiles => ?_
      refine Brings.bind (inductionHypothesis restKnown) fun others => ?_
      refine Brings.of_and fun othersAreFiles => ?_
      exact Brings.pure fun _ filled =>
        ⟨List.forall_mem_append.mpr ⟨areFiles, othersAreFiles⟩, filled⟩

omit idle elsewhere in
theorem artifacts_brings (family : Family) (result : Result) :
    Brings (Machine.answer execute) (FilledAtMost scratch directory files)
      (family.artifacts (jobIn explorer accepted request options scratch) result)
      fun found machine => (∀ artifact ∈ found, IsLastFile scratch request files artifact) ∧
        FilledAtMost scratch directory files machine := by
  cases family with
  | standard | rustc => exact Brings.pure fun _ filled => ⟨List.forall_mem_nil _, filled⟩
  | cc65 =>
      unfold Family.artifacts
      dsimp only
      split
      · refine Brings.bind (ofExisting?_brings_lastFile isNamed _ _ List.mem_cons_self) fun _ => ?_
        exact Brings.pure fun _ holds => holds
      · exact Brings.pure fun _ filled => ⟨List.forall_mem_nil _, filled⟩
  | clang =>
      unfold Family.artifacts
      dsimp only
      split
      · rw [output_withExtension isNamed]
        refine Brings.bind (ofExisting?_brings_lastFile isNamed _ _
          (List.mem_cons_of_mem _ List.mem_cons_self)) fun _ => ?_
        exact Brings.pure fun _ holds => holds
      · exact Brings.pure fun _ filled => ⟨List.forall_mem_nil _, filled⟩

theorem collect_leaves (family : Family) {before : Result}
    (shows : ShowsAtMost scratch request files before) :
    Brings (Machine.answer execute) (FilledAtMost scratch directory files)
      (collect family (jobIn explorer accepted request options scratch) before)
      (LeavesAtMost scratch directory request files) := by
  have known : ∀ named ∈ Artifact.knownNames, named.1 ∈ namesLookedAt request := by
    intro named member
    exact List.mem_cons_of_mem _ (List.mem_cons_of_mem _ (List.mem_map_of_mem member))
  refine Brings.bind (addOutput_leaves idle isNamed elsewhere family shows) fun listed => ?_
  refine Brings.of_and fun shows => ?_
  refine Brings.bind (addDerived_leaves idle isNamed elsewhere family shows) fun derived => ?_
  refine Brings.of_and fun shows => ?_
  refine Brings.bind (probe_brings isNamed known) fun found => ?_
  refine Brings.of_and fun areFiles => ?_
  refine Brings.bind (artifacts_brings isNamed family _) fun own => ?_
  refine Brings.of_and fun ownAreFiles => ?_
  exact Brings.pure fun _ filled => ⟨(shows.addArtifacts areFiles).addArtifacts ownAreFiles, filled⟩

omit isNamed in
theorem runSteps_leaves (family : Family) :
    Brings (Machine.answer execute) (FilledAtMost scratch directory files)
      (runSteps explorer.config family (jobIn explorer accepted request options scratch))
      (LeavesAtMost scratch directory request files) := by
  intro machine filled
  have works := runSteps_works explorer.config family
    (jobIn explorer accepted request options scratch)
  refine ⟨?_, Works.brings works idle elsewhere machine filled⟩
  obtain ⟨kept, recorded, -⟩ := exists_recordAll_runSteps (Machine.answer execute) explorer.config
    family (jobIn explorer accepted request options scratch) machine
  rw [recorded, Result.recordAll_eq]
  exact ⟨fun _ => ⟨rfl, rfl⟩, fun _ => rfl, List.forall_mem_nil _⟩

variable (accepted request options) in
/-- A build shows at most what its scratch directory held before, if its tools make no file. -/
theorem build_leaves (family : Family) :
    Brings (Machine.answer execute) (FilledAtMost scratch directory files)
      (build explorer.config family (jobIn explorer accepted request options scratch))
      (LeavesAtMost scratch directory request files) := by
  rw [build_eq_runSteps]
  refine Brings.bind (runSteps_leaves idle elsewhere family) fun ran => ?_
  exact Brings.of_and fun shows => collect_leaves idle isNamed elsewhere family shows

end Collecting

/-! ## The source is not looked at -/

theorem lastContents_laidOut {sourceName : String} {request : Request} {names : Location}
    (apart : (Path.mk sourceName).components ≠ names) :
    lastContents (laidOut sourceName request) names = lastContents request.files names := by
  have elsewhere : (ExtraFile.mk sourceName request.source).names ≠ names := apart
  rw [laidOut, lastContents_cons, if_neg elsewhere]
  cases lastContents request.files names <;> rfl

/-- The source is at none of the places that are looked at. -/
theorem sourceName_apart {language : Language} (known : language ∈ Language.all)
    (request : Request) :
    (∀ name ∈ namesLookedAt request,
      (Path.mk language.sourceName).components ≠ stepNames request.build ++ [name.toList]) ∧
      (Path.mk language.sourceName).components ≠ remarksNames := by
  have each : ∀ language ∈ Language.all, ∀ build : BuildKind,
      (∀ name ∈ namesLookedAt { build },
        (Path.mk language.sourceName).components ≠ stepNames build ++ [name.toList]) ∧
        (Path.mk language.sourceName).components ≠ remarksNames := by
    intro language known build
    cases build <;> revert language <;> decide +kernel
  exact each language known request.build

theorem ShowsAtMost.of_laidOut {language : Language} (known : language ∈ Language.all)
    {scratch : Path} {request : Request} {result : Result}
    (shows : ShowsAtMost scratch request (laidOut language.sourceName request) result) :
    ShowsAtMost scratch request request.files result := by
  obtain ⟨apart, remarksApart⟩ := sourceName_apart known request
  constructor
  case listing =>
      intro noneLeads
      refine shows.listing ?_
      rwa [outputNames, lastContents_laidOut (apart request.outputName List.mem_cons_self)]
  case remarks =>
      intro noneLeads
      refine shows.remarks ?_
      rwa [lastContents_laidOut remarksApart]
  case artifacts =>
      intro artifact member
      obtain ⟨name, isLookedAt, isPath, text, isLast, isContent⟩ := shows.artifacts artifact member
      rw [lastContents_laidOut (apart name isLookedAt)] at isLast
      exact ⟨name, isLookedAt, isPath, text, isLast, isContent⟩

end Explorer

end BuildExplorer
