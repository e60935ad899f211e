import BuildExplorer.Proofs.Explorer.Repeating
import BuildExplorer.Proofs.Host.Filling
import BuildExplorer.Proofs.Program.Bringing

/-!
# What is compiled

The source of a request is written into the scratch directory first, and then the extra
files, one after another.  So what the compiler finds under the name of the source is the
source, unless an extra file leads there: then it is what the last such file holds.  Under
the name of each extra file it finds the last of those that lead there.
-/

namespace BuildExplorer.Explorer

open Program (Always Brings)
open Host (Location FileTree Machine ToolBehaviour bytesOf)

variable {Tools : Type}

/-! ## Scratch directories that are filled -/

/-- The scratch directory at a path holds some files, and each of them is found under its
name. -/
structure Filled (scratch : Path) (directory : Location) (files : List ExtraFile)
    (machine : Machine Tools) : Prop where
  isNamed : scratch.chars ≠ []
  isDirectory : machine.directory = directory
  holds : machine.tree.Holds (FileTree.goal directory scratch) files
  leads : ∀ file ∈ files, FileTree.resolve machine.tree directory (scratch.join file.name) =
    .ok (FileTree.goal directory scratch ++ file.names)

section Filling

variable {scratch : Path} {directory : Location} {files : List ExtraFile}

/-- Where a machine can make a scratch directory. -/
def CanBeScratch (machine : Machine Tools) (place : Location) : Prop :=
  ∃ number, place = FileTree.goal machine.directory machine.scratchParent ++
    [Machine.numbered "cohcc" number]

/-- A scratch directory that was just made holds nothing. -/
theorem filled_of_makeFresh {machine made : Machine Tools} (grounded : machine.tree.Grounded)
    (isMade : machine.makeFresh machine.scratchParent "cohcc" .directory = (.ok scratch, made)) :
    CanBeScratch machine (FileTree.goal machine.directory scratch) ∧
      Filled scratch machine.directory [] made := by
  obtain ⟨number, fresh⟩ := Machine.exists_fresh (by decide) (by decide) isMade
  refine ⟨⟨number, fresh.isGoal⟩, ?_⟩
  constructor
  case isNamed => exact fresh.isPath
  case isDirectory => exact fresh.sameDirectory
  case holds =>
      rw [fresh.isTree]
      exact grounded.holds_put fresh.isFree
  case leads => exact List.forall_mem_nil _

/-- Directories that are made leave a scratch directory as it was filled. -/
theorem Filled.grow {machine : Machine Tools} (filled : Filled scratch directory files machine)
    {tree : FileTree} (grows : FileTree.Grows machine.tree tree) :
    Filled scratch directory files { machine with tree } where
  isNamed := filled.isNamed
  isDirectory := filled.isDirectory
  holds := filled.holds.grow grows
  leads := fun file member =>
    FileTree.resolve_of_directories (fun _ => grows.entry?_directory) (filled.leads file member)

theorem Filled.write {machine changed : Machine Tools}
    (filled : Filled scratch directory files machine) {file : ExtraFile}
    (allowed : Guard.checkFileName file.name = .ok ()) {path : Path}
    (isPath : scratch.join file.name = path)
    (written : machine.update (FileTree.writeContents machine.tree machine.directory path
      (bytesOf file.contents)) = (.ok (), changed)) :
    Filled scratch directory (files ++ [file]) changed := by
  subst isPath
  obtain ⟨tree, writes, rfl⟩ := Machine.update_eq_ok_iff.mp written
  rw [filled.isDirectory] at writes
  have isGoal := FileTree.goal_join_of_allowed directory filled.isNamed allowed
  have keeps : ∀ place, machine.tree.entry? place = some .directory →
      tree.entry? place = some .directory :=
    fun _ => FileTree.entry?_directory_of_updateFile writes
  constructor
  case isNamed => exact filled.isNamed
  case isDirectory => exact filled.isDirectory
  case holds => exact filled.holds.write isGoal writes
  case leads =>
      intro other member
      refine FileTree.resolve_of_directories keeps ?_
      rcases List.mem_append.mp member with earlier | isNew
      · exact filled.leads other earlier
      · obtain rfl := List.mem_singleton.mp isNew
        obtain ⟨location, resolved, -⟩ := FileTree.exists_of_updateFile writes
        rw [resolved, FileTree.eq_goal_of_resolve resolved, isGoal]
        rfl

end Filling

/-! ## Laying out the files -/

section LayingOut

variable (execute : ToolBehaviour Tools) (scratch : Path) (directory : Location)

theorem createDirectories_brings (files : List ExtraFile) (path : Path) :
    Brings (Machine.answer execute) (Filled scratch directory files)
      (Program.createDirectories path) fun _ => Filled scratch directory files :=
  fun _ filled => filled.grow (FileTree.grows_createDirectories _ _ path)

theorem makeParent_brings (files : List ExtraFile) (path : Path) :
    Brings (Machine.answer execute) (Filled scratch directory files)
      (Audit.makeParent path) fun _ => Filled scratch directory files := by
  unfold Audit.makeParent
  split
  · exact Brings.pure fun _ filled => filled
  · exact createDirectories_brings execute scratch directory files _

/-- A file that is written joins the files that were written before. -/
theorem writeText_brings (files : List ExtraFile) (file : ExtraFile)
    (allowed : Guard.checkFileName file.name = .ok ()) :
    Brings (Machine.answer execute) (Filled scratch directory files)
      (writeText (scratch.join file.name) file.contents) fun outcome machine =>
        ∀ done, outcome = .ok done → Filled scratch directory (files ++ [file]) machine := by
  generalize isPath : scratch.join file.name = path
  have writes : Brings (Machine.answer execute) (Filled scratch directory files)
      (Program.writeContents path (bytesOf file.contents)) fun outcome machine =>
        ∀ done, outcome = .ok done → Filled scratch directory (files ++ [file]) machine := by
    intro machine filled done isWritten
    exact filled.write allowed isPath (Prod.ext isWritten rfl)
  refine Brings.bind writes fun outcome => ?_
  cases outcome with
  | error fault => exact Brings.fails
  | ok _ => exact Brings.pure fun _ filled _ _ => filled () rfl

theorem writeFiles_brings (files : List ExtraFile) {later : List ExtraFile}
    (checked : checkFiles later = .ok ()) :
    Brings (Machine.answer execute) (Filled scratch directory files)
      (writeFiles scratch later) fun outcome machine =>
        ∀ done, outcome = .ok done → Filled scratch directory (files ++ later) machine := by
  induction later generalizing files with
  | nil =>
      rw [List.append_nil]
      exact Brings.pure fun _ filled _ _ => filled
  | cons file rest inductionHypothesis =>
      unfold checkFiles at checked
      split at checked
      · cases checked
      · rename_i allowed
        have leads := makeParent_brings execute scratch directory files (scratch.join file.name)
        have writes := writeText_brings execute scratch directory files file allowed
        unfold writeFiles
        generalize scratch.join file.name = path at leads writes ⊢
        refine Brings.bind leads fun made => ?_
        cases made with
        | error fault => exact Brings.fails
        | ok _ =>
            refine Brings.bind writes fun written => ?_
            cases written with
            | error error => exact Brings.fails
            | ok _ =>
                rw [List.append_cons files file rest]
                exact Brings.strengthen (fun _ filled => filled () rfl)
                  (inductionHypothesis (files ++ [file]) checked)

/-- Where the last step of a build runs. -/
def stepPlace (scratch : Path) : BuildKind → Path
  | .single => scratch
  | .cmake => scratch.join buildDirectoryName

theorem makeStepDirectory_brings (files : List ExtraFile) (build : BuildKind) :
    Brings (Machine.answer execute) (Filled scratch directory files)
      (makeStepDirectory scratch build) fun outcome machine =>
        ∀ step, outcome = .ok step →
          step = stepPlace scratch build ∧ Filled scratch directory files machine := by
  cases build with
  | single =>
      refine Brings.pure fun machine filled step isStep => ?_
      cases isStep
      exact ⟨rfl, filled⟩
  | cmake =>
      refine Brings.bind (createDirectories_brings execute scratch directory files _) fun made => ?_
      cases made with
      | error fault => exact Brings.fails
      | ok _ =>
          refine Brings.pure fun machine filled step isStep => ?_
          cases isStep
          exact ⟨rfl, filled⟩

/-- What is laid out is the source, and behind it the extra files. -/
def laidOut (sourceName : String) (request : Request) : List ExtraFile :=
  ⟨sourceName, request.source⟩ :: request.files

theorem layOut_brings {sourceName : String} {request : Request}
    (allowed : Guard.checkFileName sourceName = .ok ())
    (checked : checkFiles request.files = .ok ()) :
    Brings (Machine.answer execute) (Filled scratch directory [])
      (layOut sourceName request scratch) fun outcome machine =>
        ∀ step, outcome = .ok step →
          step = stepPlace scratch request.build ∧
            Filled scratch directory (laidOut sourceName request) machine := by
  let source : ExtraFile := ⟨sourceName, request.source⟩
  have writesSource := writeText_brings execute scratch directory [] source allowed
  have writesFiles := writeFiles_brings execute scratch directory [source] checked
  unfold layOut
  refine Brings.bind writesSource fun written => ?_
  cases written with
  | error error => exact Brings.fails
  | ok _ =>
      refine Brings.strengthen (fun _ filled => filled () rfl) ?_
      refine Brings.bind writesFiles fun written => ?_
      cases written with
      | error error => exact Brings.fails
      | ok _ =>
          exact Brings.strengthen (fun _ filled => filled () rfl)
            (makeStepDirectory_brings execute scratch directory _ _)

/-- A scratch directory that is prepared holds what was laid out. -/
theorem prepare_brings (explorer : Explorer) {request : Request} {accepted : Accepted}
    (checked : check explorer.config request = .ok accepted) (options : List String) :
    Brings (Machine.answer execute) (Filled scratch directory [])
      (explorer.prepare accepted request options scratch) fun outcome machine =>
        ∀ job, outcome = .ok job →
          job = explorer.job accepted request options scratch (stepPlace scratch request.build) ∧
            Filled scratch directory (laidOut accepted.language.sourceName request) machine := by
  obtain ⟨allowed, filesAllowed⟩ := checkFileName_of_check checked
  rw [prepare_eq_layOut]
  have laysOut := layOut_brings execute scratch directory allowed filesAllowed
  refine Brings.bind laysOut fun outcome => ?_
  cases outcome with
  | error error => exact Brings.fails
  | ok step =>
      refine Brings.pure fun machine isLaidOut job isJob => ?_
      obtain ⟨rfl, filled⟩ := isLaidOut step rfl
      cases isJob
      exact ⟨rfl, filled⟩

/-! ## Setting up -/

/-- A job is ready on a machine: its scratch directory was made in the place for such
directories, and holds the source and the extra files. -/
structure IsLaidOut (explorer : Explorer) (request : Request) (machine : Machine Tools)
    (accepted : Accepted) (scratch : Path) (job : Job) (readied : Machine Tools) : Prop where
  checked : check explorer.config request = .ok accepted
  isJob : job = explorer.job accepted request (userOptions explorer.config request) scratch
    (stepPlace scratch request.build)
  isScratch : CanBeScratch machine (FileTree.goal machine.directory scratch)
  filled : Filled scratch machine.directory
    (laidOut accepted.language.sourceName request) readied

theorem makeScratch_brings {machine : Machine Tools} (grounded : machine.tree.Grounded) :
    Brings (Machine.answer execute) (machine = ·) Program.makeScratch fun outcome made =>
      ∀ scratch, outcome = .ok scratch →
        CanBeScratch machine (FileTree.goal machine.directory scratch) ∧
          Filled scratch machine.directory [] made := by
  rintro _ rfl scratch isMade
  exact filled_of_makeFresh grounded (Prod.ext isMade rfl)

theorem setUpFresh_brings (explorer : Explorer) {request : Request} {machine : Machine Tools}
    (grounded : machine.tree.Grounded) {accepted : Accepted}
    (checked : check explorer.config request = .ok accepted) (key : String) :
    Brings (Machine.answer execute) (machine = ·)
      (explorer.setUpFresh accepted request (userOptions explorer.config request) key)
      fun setup readied => ∀ other key scratch job, setup = .ready other key scratch job →
        IsLaidOut explorer request machine other scratch job readied := by
  unfold setUpFresh
  refine Brings.bind (makeScratch_brings execute grounded) fun outcome => ?_
  cases outcome with
  | error fault => exact Brings.pure fun _ _ _ _ _ _ impossible => nomatch impossible
  | ok scratch =>
      refine Brings.strengthen (fun _ isMade => isMade scratch rfl) ?_
      refine Brings.of_and fun isScratch => ?_
      have prepares := prepare_brings execute scratch machine.directory explorer checked
        (userOptions explorer.config request)
      refine Brings.bind prepares fun prepared => ?_
      cases prepared with
      | error error =>
          refine Brings.bind (Always.brings (Program.always_true _) _ _) fun _ => ?_
          exact Brings.pure fun _ _ _ _ _ _ impossible => nomatch impossible
      | ok job =>
          refine Brings.pure fun readied isPrepared => ?_
          rintro _ _ _ _ ⟨⟩
          obtain ⟨isJob, isFilled⟩ := isPrepared job rfl
          exact ⟨checked, isJob, isScratch, isFilled⟩

/-- A set-up that makes a job ready leaves a scratch directory with the source and the extra
files. -/
theorem setUp_brings (explorer : Explorer) (request : Request) {machine : Machine Tools}
    (grounded : machine.tree.Grounded) :
    Brings (Machine.answer execute) (machine = ·) (explorer.setUp request) fun setup readied =>
      ∀ accepted key scratch job, setup = .ready accepted key scratch job →
        IsLaidOut explorer request machine accepted scratch job readied := by
  cases checked : check explorer.config request with
  | error error =>
      unfold setUp
      rw [checked]
      exact Brings.pure fun _ _ _ _ _ _ impossible => nomatch impossible
  | ok accepted =>
      have looks : Brings (Machine.answer execute) (machine = ·)
          (explorer.lookup (keyOf explorer.config accepted request)) fun _ => (machine = ·) := by
        rintro _ rfl
        exact (run_lookup_of_keepsFiles (Machine.answer_keepsFiles execute) explorer _ _).symm
      rw [setUp_of_check checked]
      refine Brings.bind looks fun found => ?_
      cases found with
      | some stored => exact Brings.pure fun _ _ _ _ _ _ impossible => nomatch impossible
      | none => exact setUpFresh_brings execute explorer grounded checked _

end LayingOut

/-! ## What the compiler is handed -/

/-- The one step of a single build is the first tool that is handed anything. -/
theorem handed_build_single {World : Type} (host : Host World) (config : Config) (family : Family)
    {job : Job} (single : job.request.build = .single) (world : World) :
    ((build config family job).handed host world).head? =
      some (job.call job.directory job.info.exe (compilerOptions config family job) [], world) := by
  have isStep : steps config family job =
      pure [⟨"compile",
        job.call job.directory job.info.exe (compilerOptions config family job) []⟩] := by
    unfold steps
    rw [single]
  rw [build_eq_runSteps, runSteps, isStep, pure_bind, Step.runAll, Step.run]
  simp only [Program.handed_bind, Program.handed_execute, List.cons_append, List.head?_cons]

/-- The source is the last argument of the compiler. -/
theorem getLast?_compilerOptions (config : Config) (family : Family) (job : Job) :
    (compilerOptions config family job).getLast? = some job.input.text := by
  rw [compilerOptions, List.getLast?_concat]

/-- The first tool that a request runs on a machine finds the scratch directory as it was laid
out. -/
theorem isLaidOut_of_handed (execute : ToolBehaviour Tools) {explorer : Explorer}
    {request : Request} {machine : Machine Tools} (grounded : machine.tree.Grounded)
    (single : request.build = .single) {call : Tool.Call} {found : Machine Tools}
    (isFirst : ((explorer.compile request).handed (Machine.answer execute) machine).head? =
      some (call, found)) :
    ∃ accepted scratch job,
      IsLaidOut explorer request machine accepted scratch job found ∧
        call = job.call job.directory job.info.exe
          (compilerOptions explorer.config accepted.family job) [] := by
  have laysOut := setUp_brings execute explorer request grounded machine rfl
  rw [compile_eq_setUp, Program.handed_bind, Program.handed_eq_nil (invocations_setUp _ _ _ _),
    List.nil_append] at isFirst
  generalize (explorer.setUp request).run (Machine.answer execute) machine = ended
    at laysOut isFirst
  rcases ended with ⟨setup, readied⟩
  cases setup with
  | refused error => cases isFirst
  | served result => cases isFirst
  | ready accepted key scratch job =>
      have isLaidOut := laysOut accepted key scratch job rfl
      have isSingle : job.request.build = .single := by
        rw [isLaidOut.isJob]
        exact single
      simp only [conclude, Program.handed_bind] at isFirst
      rw [List.head?_append, handed_build_single _ _ _ isSingle] at isFirst
      cases isFirst
      exact ⟨accepted, scratch, job, isLaidOut, rfl⟩

/-- What a file holds that the last of some files was written to. -/
theorem Filled.readContents {scratch : Path} {directory : Location} {files : List ExtraFile}
    {machine : Machine Tools} (filled : Filled scratch directory files machine) {file : ExtraFile}
    (member : file ∈ files) {text : String} (isLast : lastContents files file.names = some text) :
    FileTree.readContents machine.tree machine.directory (scratch.join file.name) =
      .ok (bytesOf text) := by
  rw [filled.isDirectory]
  exact filled.holds.readContents (filled.leads file member) isLast

/-- In a single build on a machine, whatever its tools do, the first tool is the compiler,
which is handed the source as its last argument.  There it finds the source of the request,
unless extra files lead to the same place: then it finds the last of these, and so the
source only if that holds the same text.  Under the name of each extra file it finds the
last one that leads there. -/
theorem compiler_finds_last_contents (execute : ToolBehaviour Tools) {explorer : Explorer}
    {request : Request} {machine : Machine Tools} (grounded : machine.tree.Grounded)
    (single : request.build = .single) {call : Tool.Call} {found : Machine Tools}
    (isFirst : ((explorer.compile request).handed (Machine.answer execute) machine).head? =
      some (call, found)) :
    ∃ accepted scratch,
      check explorer.config request = .ok accepted ∧ call.command = accepted.info.exe ∧
      call.directory = some scratch ∧
      let sourceName := accepted.language.sourceName
      let read := fun name =>
        FileTree.readContents found.tree found.directory (scratch.join name)
      let instead := lastContents request.files (Path.mk sourceName).components
      call.args.getLast? = some (scratch.join sourceName).text ∧
      read sourceName = .ok (bytesOf (instead.getD request.source)) ∧
      (read sourceName = .ok (bytesOf request.source) ↔
        ∀ text, instead = some text → text = request.source) ∧
      ∀ file ∈ request.files, ∃ text,
        lastContents request.files file.names = some text ∧
          read file.name = .ok (bytesOf text) := by
  obtain ⟨accepted, scratch, job, isLaidOut, rfl⟩ :=
    isLaidOut_of_handed execute grounded single isFirst
  have isJob := isLaidOut.isJob
  rw [single] at isJob
  refine ⟨accepted, scratch, isLaidOut.checked, ?command, ?directory, ?_⟩
  case command =>
      rw [isJob]
      rfl
  case directory =>
      rw [isJob]
      rfl
  intro sourceName read instead
  let source : ExtraFile := ⟨sourceName, request.source⟩
  have readSource : read sourceName = .ok (bytesOf (instead.getD request.source)) := by
    have isFirst : source ∈ laidOut sourceName request := List.mem_cons_self
    refine isLaidOut.filled.readContents isFirst ?_
    rw [laidOut, lastContents_cons]
    change (instead <|> _) = _
    cases instead <;> simp [source, ExtraFile.names, sourceName]
  refine ⟨?isLast, readSource, ?same, ?extra⟩
  case isLast =>
      change (compilerOptions explorer.config accepted.family job).getLast? = _
      rw [getLast?_compilerOptions, isJob]
      rfl
  case same =>
      rw [readSource]
      cases instead with
      | none => simp
      | some text => simp [Host.bytesOf_injective.eq_iff]
  case extra =>
      intro file member
      have leads : lastContents request.files file.names ≠ none := by
        intro noneLeads
        exact lastContents_eq_none_iff.mp noneLeads file member rfl
      obtain ⟨text, isLast⟩ := Option.ne_none_iff_exists'.mp leads
      refine ⟨text, isLast, ?_⟩
      refine isLaidOut.filled.readContents (List.mem_cons_of_mem _ member) ?_
      rw [laidOut, lastContents_cons, isLast]
      rfl

/-- The theorem at a request with an extra file that leads to the source: the compiler is
handed the source and finds the extra file. -/
theorem compiler_finds_last_contents_overwritten :
    let explorer : Explorer := { config := { compilers := [plainCompiler] } }
    let request : Request :=
      { compiler := "cc", source := "int x;", files := [⟨"./example.cpp", "int y;"⟩] }
    ∃ (call : Tool.Call) (found : Machine Unit) (scratch : Path),
      ((explorer.compile request).handed (Machine.answer greetingTools) cacheMachine).head? =
        some (call, found) ∧
      call.args.getLast? = some (scratch.join "example.cpp").text ∧
      FileTree.readContents found.tree found.directory (scratch.join "example.cpp") =
        .ok (bytesOf "int y;") := by
  intro explorer request
  have grounded : cacheMachine.tree.Grounded := FileTree.grounded_of_entries (by decide)
  let handed := (explorer.compile request).handed (Machine.answer greetingTools) cacheMachine
  have isHanded : handed.head?.isSome := by
    decide +kernel
  obtain ⟨⟨call, found⟩, isFirst⟩ := Option.isSome_iff_exists.mp isHanded
  obtain ⟨accepted, scratch, checked, -, -, isLast, isRead, -⟩ :=
    compiler_finds_last_contents greetingTools grounded rfl isFirst
  have isAccepted : check explorer.config request = .ok ⟨plainCompiler, .standard, .cpp⟩ := rfl
  obtain rfl := Except.ok.inj (isAccepted.symm.trans checked)
  have instead : lastContents request.files
      (Path.mk Language.cpp.sourceName).components = some "int y;" := by
    decide +kernel
  rw [instead] at isRead
  exact ⟨call, found, scratch, isFirst, isLast, isRead⟩

end BuildExplorer.Explorer
