import BuildExplorer.Proofs.Step.Fold
import BuildExplorer.Explorer.Compile

/-!
# Phases of a build

What each phase of a build can ask a host for.  Filling the scratch directory
and choosing the steps run no tool.  The steps are followed by at most two more
runs of tools: a disassembler that lists a linked program, and a compiler that
expands macros.  These add to what the steps have left and change nothing of it.
No phase of a build handles entries of a cache, and but for its tools it writes to no file
other than the audit log.
-/

namespace BuildExplorer

open Program (Plain Storeless Always)
open scoped List

/-! ## The scratch directory and the cache -/

/-- All that a lookup asks for is the contents of files. -/
theorem Cache.get_reads (cache : Cache) (key : String) :
    (cache.get key).Only fun action => ∃ path, action = .readContents path := by
  refine Program.Only.ask ⟨_, rfl⟩ fun contents => ?_
  cases contents <;> exact Program.only_pure _ _

/-- Storing runs no tool. -/
theorem Cache.put_idle (cache : Cache) (key : String) (result : Result) :
    (cache.put key result).Only fun action => action.isExecute = false := by
  refine Program.Only.ask rfl fun temporary => ?_
  cases temporary with
  | error fault => exact Program.only_pure _ _
  | ok temporary =>
      dsimp only
      split
      · exact Program.Only.ask rfl fun _ => Program.only_pure _ _
      · refine Program.Only.ask rfl fun written => ?_
        cases written with
        | error fault => exact Program.Only.ask rfl fun _ => Program.only_pure _ _
        | ok _ =>
            refine Program.Only.ask rfl fun moved => ?_
            cases moved with
            | error fault => exact Program.Only.ask rfl fun _ => Program.only_pure _ _
            | ok _ => exact Program.only_pure _ _

namespace Explorer

theorem lookup_reads (explorer : Explorer) (key : String) :
    (explorer.lookup key).Only fun action => ∃ path, action = .readContents path := by
  unfold lookup
  split
  · exact Program.only_pure _ _
  · exact Cache.get_reads _ _

theorem writeText_plain (path : Path) (text : String) : (writeText path text).Plain := by
  refine Program.Only.ask rfl fun written => ?_
  cases written <;> exact Program.only_pure _ _

theorem writeFiles_plain (directory : Path) (files : List ExtraFile) :
    (writeFiles directory files).Plain := by
  induction files with
  | nil => exact Program.only_pure _ _
  | cons file rest inductionHypothesis =>
      unfold writeFiles
      generalize directory.join file.name = path
      refine Program.Only.bind (Audit.makeParent_looks path).plain fun made => ?_
      cases made with
      | error fault => exact Program.only_pure _ _
      | ok _ =>
          refine Program.Only.bind (writeText_plain _ _) fun written => ?_
          cases written with
          | error error => exact Program.only_pure _ _
          | ok _ => exact inductionHypothesis

theorem makeStepDirectory_plain (directory : Path) (build : BuildKind) :
    (makeStepDirectory directory build).Plain := by
  cases build with
  | single => exact Program.only_pure _ _
  | cmake =>
      refine Program.Only.ask rfl fun made => ?_
      cases made <;> exact Program.only_pure _ _

/-- Lay out the files of a build; the directory of its last step is given back. -/
def layOut (sourceName : String) (request : Request) (directory : Path) :
    Program (Except SetupError Path) := do
  match ← writeText (directory.join sourceName) request.source with
  | .error error => return .error error
  | .ok () =>
      match ← writeFiles directory request.files with
      | .error error => return .error error
      | .ok () => makeStepDirectory directory request.build

theorem layOut_plain (sourceName : String) (request : Request) (directory : Path) :
    (layOut sourceName request directory).Plain := by
  unfold layOut
  refine Program.Only.bind (writeText_plain _ _) fun written => ?_
  cases written with
  | error error => exact Program.only_pure _ _
  | ok _ =>
      refine Program.Only.bind (writeFiles_plain _ _) fun filled => ?_
      cases filled with
      | error error => exact Program.only_pure _ _
      | ok _ => exact makeStepDirectory_plain _ _

/-- A scratch directory is filled by laying out the files. -/
theorem prepare_eq_layOut (explorer : Explorer) (accepted : Accepted) (request : Request)
    (userOptions : List String) (directory : Path) :
    explorer.prepare accepted request userOptions directory = do
      match ← layOut accepted.language.sourceName request directory with
      | .error error => return .error error
      | .ok stepDirectory =>
          return .ok (explorer.job accepted request userOptions directory stepDirectory) := by
  unfold prepare layOut
  rw [bind_assoc]
  refine bind_congr fun written => ?_
  cases written with
  | error error => rfl
  | ok _ =>
      dsimp only
      rw [bind_assoc]
      refine bind_congr fun filled => ?_
      cases filled with
      | error error => rfl
      | ok _ => rfl

theorem dispose_plain (explorer : Explorer) (directory : Path) :
    (explorer.dispose directory).Plain := by
  unfold dispose
  split
  · exact Program.only_pure _ _
  · exact Program.only_perform_iff.mpr rfl

theorem steps_looks (config : Config) (family : Family) (job : Job) :
    (steps config family job).Looks job.auditLog := by
  unfold steps
  split
  · exact Program.only_pure _ _
  · exact Program.Only.bind (Family.environment_looks _ _) fun _ => Program.only_pure _ _

end Explorer

/-! ## What a build asks for -/

theorem Step.run_works (setting : Setting) (step : Step) :
    (step.run setting).Works setting.auditLog := by
  refine Program.Only.ask (.runs _) fun report => ?_
  refine Program.Only.bind (Family.stepLines_looks _ _ _ _).works fun lines => ?_
  exact Program.Only.bind (Audit.log_looks _ _).works fun _ => Program.only_pure _ _

theorem Step.runAll_works (setting : Setting) (policy : FailurePolicy) (result : Result)
    (steps : List Step) : (runAll setting policy result steps).Works setting.auditLog := by
  induction steps generalizing result with
  | nil => exact Program.only_pure _ _
  | cons step rest inductionHypothesis =>
      refine Program.Only.bind (step.run_works setting) fun outcome => ?_
      dsimp only
      split
      · exact Program.only_pure _ _
      · exact Program.Only.bind (inductionHypothesis _) fun _ => Program.only_pure _ _

theorem Family.expandMacros_works (family : Family) (job : Job) (inputName : Option String) :
    (family.expandMacros job inputName).Works job.auditLog := by
  refine Program.Only.ask (.runs _) fun report => ?_
  split
  · exact Program.only_pure _ _
  · exact Program.Only.bind (Audit.log_looks _ _).works fun _ => Program.only_pure _ _

theorem Family.addDerived_works (family : Family) (job : Job) (result : Result) :
    (family.addDerived job result).Works job.auditLog := by
  cases family with
  | standard | cc65 => exact Program.only_pure _ _
  | clang =>
      unfold addDerived
      dsimp only
      split
      · exact Program.Only.bind (readRemarks_looks _ _).works fun _ => Program.only_pure _ _
      · exact Program.only_pure _ _
  | rustc =>
      unfold addDerived
      dsimp only
      split
      · exact Program.Only.bind (expandMacros_works _ _ _) fun _ => Program.only_pure _ _
      · exact Program.only_pure _ _

namespace Explorer

theorem readListing_looks (log : Option Path) (family : Family) (job : Job) (result : Result) :
    (readListing family job result).Looks log := by
  refine Program.Only.ask (.reads _) fun contents => ?_
  cases contents <;> exact Program.only_pure _ _

theorem disassemble_works (log : Option Path) (family : Family) (job : Job) (result : Result) :
    (disassemble family job result).Works log := by
  unfold disassemble
  split
  · exact Program.only_pure _ _
  · refine Program.Only.ask (.runs _) fun report => ?_
    split <;> exact Program.only_pure _ _

theorem addOutput_works (log : Option Path) (family : Family) (job : Job) (result : Result) :
    (addOutput family job result).Works log := by
  refine Program.Only.ask (.looks (.finds _)) fun isThere => ?_
  split
  · split
    · exact disassemble_works _ _ _ _
    · exact (readListing_looks _ _ _ _).works
  · exact Program.only_pure _ _

theorem collect_works (family : Family) (job : Job) (result : Result) :
    (collect family job result).Works job.auditLog := by
  refine Program.Only.bind (addOutput_works _ _ _ _) fun _ => ?_
  refine Program.Only.bind (Family.addDerived_works _ _ _) fun _ => ?_
  refine Program.Only.bind (Artifact.probe_looks _ _ _).works fun _ => ?_
  exact Program.Only.bind (Family.artifacts_looks _ _ _ _).works fun _ => Program.only_pure _ _

/-- Once its files are laid out, a build runs tools, looks at files and writes to the log. -/
theorem build_works (config : Config) (family : Family) (job : Job) :
    (build config family job).Works job.auditLog := by
  refine Program.Only.bind (steps_looks _ _ _).works fun _ => ?_
  refine Program.Only.bind ?_ fun _ => collect_works _ _ _
  exact Step.runAll_works { family, inputName := _, auditLog := job.auditLog } _ _ _

/-! ## Tools behind the steps -/

/-- The call that lists a linked program, if one is configured. -/
def disassemblerCall (job : Job) : Option Tool.Call :=
  if job.request.filters.binary then
    job.info.objdumper.map fun tool =>
      job.call job.stepDirectory tool (disassemblerOptions job) []
  else none

/-- The call that expands macros, if that is asked for and known to the family. -/
def macroExpansionCall (family : Family) (job : Job) : Option Tool.Call :=
  if family = .rustc && job.request.macroExpansion then
    some (job.call job.directory job.info.exe (Family.macroExpansionOptions job.input)
      [("RUSTC_BOOTSTRAP", "1")])
  else none

/-- What a disassembler that fails has to say; where none is run there is nothing. -/
def disassemblyErrors : Option Tool.Invocation → List Diagnostic.Line
  | none => []
  | some invocation =>
      if invocation.report.succeeded then []
      else invocation.report.stderr.map fun text => { text }

/-! ## What is found behind the steps is added to them -/

/-- Errors are added to what the steps have left, and nothing else of it changes.
What no step leaves, such as listings and artifacts, is not looked at. -/
structure AddsTo (before : Result) (errors : List Diagnostic.Line) (after : Result) : Prop where
  steps : after.steps = before.steps
  code : after.code = before.code
  timedOut : after.timedOut = before.timedOut
  elapsedMs : after.elapsedMs = before.elapsedMs
  stdout : after.stdout = before.stdout
  stderr : after.stderr = before.stderr ++ errors
  inputName : after.inputName = before.inputName
  options : after.options = before.options

theorem AddsTo.refl (result : Result) : AddsTo result [] result :=
  ⟨rfl, rfl, rfl, rfl, rfl, (List.append_nil _).symm, rfl, rfl⟩

theorem AddsTo.trans {first second third : Result} {errors later : List Diagnostic.Line}
    (adds : AddsTo first errors second) (addsLater : AddsTo second later third) :
    AddsTo first (errors ++ later) third where
  steps := addsLater.steps.trans adds.steps
  code := addsLater.code.trans adds.code
  timedOut := addsLater.timedOut.trans adds.timedOut
  elapsedMs := addsLater.elapsedMs.trans adds.elapsedMs
  stdout := addsLater.stdout.trans adds.stdout
  stderr := by rw [addsLater.stderr, adds.stderr, List.append_assoc]
  inputName := addsLater.inputName.trans adds.inputName
  options := addsLater.options.trans adds.options

theorem AddsTo.hasProcessFailure {before after : Result} {errors : List Diagnostic.Line}
    (adds : AddsTo before errors after) : after.hasProcessFailure = before.hasProcessFailure := by
  simp only [Result.hasProcessFailure, adds.steps, adds.timedOut]

theorem addsTo_addErrors (result : Result) (errors : List Diagnostic.Line) :
    AddsTo result errors (result.addErrors errors) :=
  ⟨rfl, rfl, rfl, rfl, rfl, rfl, rfl, rfl⟩

theorem addsTo_addArtifacts (result : Result) (artifacts : List Artifact) :
    AddsTo result [] (result.addArtifacts artifacts) :=
  ⟨rfl, rfl, rfl, rfl, rfl, (List.append_nil _).symm, rfl, rfl⟩

theorem addsTo_addAssembly (family : Family) (text : String) (filters : Filters)
    (result : Result) : AddsTo result [] (family.addAssembly text filters result) := by
  unfold Family.addAssembly
  split <;> exact ⟨rfl, rfl, rfl, rfl, rfl, (List.append_nil _).symm, rfl, rfl⟩

theorem addsTo_derived (result : Result) (remarksPath : Option Path)
    (remarks : Option (List Remark)) (macroExpansion : Option (List Diagnostic.Line)) :
    AddsTo result [] { result with remarksPath, remarks, macroExpansion } :=
  ⟨rfl, rfl, rfl, rfl, rfl, (List.append_nil _).symm, rfl, rfl⟩

variable {World : Type}

/-- A run of a program adds to a result.  It runs at most one tool, whose call is
known before, and the errors that are added depend on nothing but this tool. -/
def AddsBy (call : Option Tool.Call) (errorsOf : Option Tool.Invocation → List Diagnostic.Line)
    (before : Result) (host : Host World) (program : Program Result) (world : World) : Prop :=
  ∃ invocation : Option Tool.Invocation,
    program.invocations host world = invocation.toList ∧
      (∀ made ∈ invocation, call = some made.call) ∧
      AddsTo before (errorsOf invocation) (program.run host world).1

theorem AddsBy.of_plain {call : Option Tool.Call}
    {errorsOf : Option Tool.Invocation → List Diagnostic.Line} {before : Result}
    {host : Host World} {program : Program Result} {world : World}
    (silent : errorsOf none = []) (plain : program.Plain)
    (adds : AddsTo before [] (program.run host world).1) :
    AddsBy call errorsOf before host program world :=
  ⟨none, plain.invocations host world, fun _ impossible => (nomatch impossible), silent ▸ adds⟩

theorem AddsBy.of_execute {call : Tool.Call}
    {errorsOf : Option Tool.Invocation → List Diagnostic.Line} {before : Result}
    {host : Host World} {next : Tool.Report → Program Result} {world : World}
    (plain : ∀ report, (next report).Plain)
    (adds : ∀ report world,
      AddsTo before (errorsOf (some ⟨call, report⟩)) ((next report).run host world).1) :
    AddsBy (some call) errorsOf before host (Program.execute call >>= next) world := by
  refine ⟨some ⟨call, ((Program.execute call).run host world).1⟩, ?runs, ?known, ?adds⟩
  case runs =>
      rw [Program.invocations_bind, (plain _).invocations, List.append_nil]
      rfl
  case known =>
      rintro _ ⟨⟩
      rfl
  case adds =>
      rw [Program.run_bind]
      exact adds _ _

/-- A linked program is shown by the disassembler, if one is configured. -/
theorem disassemble_addsBy (host : Host World) (family : Family) {job : Job} (result : Result)
    (world : World) (binary : job.request.filters.binary = true) :
    AddsBy (disassemblerCall job) disassemblyErrors result host (disassemble family job result)
      world := by
  unfold disassemble disassemblerCall
  rw [if_pos binary]
  cases job.info.objdumper with
  | none => exact AddsBy.of_plain rfl (Program.only_pure _ _) (AddsTo.refl result)
  | some tool =>
      refine AddsBy.of_execute (fun report => ?_) fun report world => ?_
      · split <;> exact Program.only_pure _ _
      · by_cases lists : report.succeeded = true
        · simp only [disassemblyErrors, lists, if_true]
          exact addsTo_addAssembly _ _ _ _
        · simp only [disassemblyErrors, lists]
          exact addsTo_addErrors _ _

theorem readListing_always_adds (family : Family) (job : Job) (result : Result) :
    (readListing family job result).Always (AddsTo result []) := by
  refine Always.bind (Program.always_true _) fun contents _ => ?_
  cases contents with
  | error fault => exact AddsTo.refl result
  | ok contents => exact addsTo_addAssembly _ _ _ _

/-- The primary output is shown by the disassembler, or without any tool. -/
theorem addOutput_addsBy (host : Host World) (family : Family) (job : Job) (result : Result)
    (world : World) :
    AddsBy (disassemblerCall job) disassemblyErrors result host (addOutput family job result)
      world := by
  have looks : (Program.isFile job.output).Plain := Program.only_perform_iff.mpr rfl
  unfold addOutput AddsBy
  rw [Program.invocations_bind, looks.invocations, List.nil_append, Program.run_bind]
  split
  · split
    · rename_i binary
      exact disassemble_addsBy host family result _ binary
    · exact AddsBy.of_plain rfl (readListing_looks none _ _ _).plain
        ((readListing_always_adds family job result).run host _)
  · exact AddsBy.of_plain rfl (Program.only_pure _ _) (AddsTo.refl result)

/-- What is derived takes a tool only where macros are expanded, and brings no
errors. -/
theorem addDerived_addsBy (host : Host World) (family : Family) (job : Job) (result : Result)
    (world : World) :
    AddsBy (macroExpansionCall family job) (fun _ => []) result host
      (family.addDerived job result) world := by
  cases family with
  | standard | cc65 => exact AddsBy.of_plain rfl (Program.only_pure _ _) (AddsTo.refl result)
  | clang =>
      unfold Family.addDerived
      dsimp only
      split
      · refine AddsBy.of_plain rfl
          (Program.Only.bind (Family.readRemarks_looks none _).plain fun _ =>
            Program.only_pure _ _) ?_
        rw [Program.run_bind, Program.run_pure]
        exact addsTo_derived _ _ _ _
      · exact AddsBy.of_plain rfl (Program.only_pure _ _) (AddsTo.refl result)
  | rustc =>
      unfold Family.addDerived macroExpansionCall
      by_cases asked : job.request.macroExpansion = true
      · simp only [asked, decide_true, Bool.and_self, if_true, Family.expandMacros, bind_assoc]
        refine AddsBy.of_execute (fun report => ?_) fun report world => ?_
        · split
          · exact Program.only_pure _ _
          · rw [bind_assoc]
            exact Program.Only.bind (Audit.log_looks _ _).plain fun _ => Program.only_pure _ _
        · rw [Program.run_bind, Program.run_pure]
          exact addsTo_derived _ _ _ _
      · simp only [asked]
        exact AddsBy.of_plain rfl (Program.only_pure _ _) (AddsTo.refl result)

/-- Behind the steps at most two tools are run, first the disassembler and then the
compiler to expand macros.  What they and the artifacts bring is added to what the
steps have left; the errors grow only by those of a disassembler that fails. -/
theorem collect_adds (host : Host World) (family : Family) (job : Job) (result : Result)
    (world : World) :
    ∃ disassembly expansion : Option Tool.Invocation,
      (collect family job result).invocations host world =
        disassembly.toList ++ expansion.toList ∧
      (∀ made ∈ disassembly, disassemblerCall job = some made.call) ∧
      (∀ made ∈ expansion, macroExpansionCall family job = some made.call) ∧
      AddsTo result (disassemblyErrors disassembly)
        ((collect family job result).run host world).1 := by
  obtain ⟨disassembly, lists, listsBy, listing⟩ := addOutput_addsBy host family job result world
  let listed := (addOutput family job result).run host world
  obtain ⟨expansion, expands, expandsBy, derived⟩ :=
    addDerived_addsBy host family job listed.1 listed.2
  refine ⟨disassembly, expansion, ?runs, listsBy, expandsBy, ?adds⟩
  case runs =>
      unfold collect
      simp only [Program.invocations_bind, (Artifact.probe_looks none _ _).invocations,
        (Family.artifacts_looks none _ _ _).invocations, Program.invocations_pure, List.append_nil,
        lists]
      rw [expands]
  case adds =>
      unfold collect
      simp only [Program.run_bind, Program.run_pure]
      simpa using ((listing.trans derived).trans (addsTo_addArtifacts _ _)).trans
        (addsTo_addArtifacts _ _)

theorem map_call_toList_sublist {call : Option Tool.Call} {invocation : Option Tool.Invocation}
    (known : ∀ made ∈ invocation, call = some made.call) :
    invocation.toList.map (·.call) <+ call.toList := by
  cases invocation with
  | none => exact List.nil_sublist _
  | some made =>
      rw [known made rfl]
      exact List.Sublist.refl _

/-- Behind the steps at most two tools are run, each at most once. -/
theorem calls_collect (host : Host World) (family : Family) (job : Job) (result : Result)
    (world : World) :
    ((collect family job result).invocations host world).map (·.call) <+
      (disassemblerCall job).toList ++ (macroExpansionCall family job).toList := by
  obtain ⟨disassembly, expansion, runs, listsBy, expandsBy, -⟩ :=
    collect_adds host family job result world
  rw [runs, List.map_append]
  exact (map_call_toList_sublist listsBy).append (map_call_toList_sublist expandsBy)

end Explorer

end BuildExplorer
