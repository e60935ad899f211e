import BuildExplorer.Proofs.Explorer.Phases

/-!
# Plans of builds

Before its first tool runs, a build has laid out its files and has settled which
steps are to be run, and what happens behind one that fails.  A plan is what can
be seen of that: the limits within which a tool runs are left out, since they say
nothing of what it is asked to do.

What a build does in its scratch directory is to draft such a plan and to carry it
out: the planned steps are what it hands to tools first.
-/

namespace BuildExplorer

/-- A call without the limits within which the tool runs. -/
structure Tool.Errand where
  command : Path
  args : List String
  directory : Option Path
  environment : List (String × String)
  deriving DecidableEq, Repr

def Tool.Call.errand (call : Call) : Errand where
  command := call.command
  args := call.args
  directory := call.directory
  environment := call.environment

namespace Explorer

/-! ## Drafts -/

/-- Lay out the files of a build and choose its steps. -/
def draft (explorer : Explorer) (accepted : Accepted) (request : Request)
    (userOptions : List String) (directory : Path) :
    Program (Except SetupError (Job × List Step)) := do
  match ← layOut accepted.language.sourceName request directory with
  | .error error => return .error error
  | .ok stepDirectory => do
      let job := explorer.job accepted request userOptions directory stepDirectory
      return .ok (job, ← steps explorer.config accepted.family job)

/-- What happens behind a step that fails. -/
def policyOf (accepted : Accepted) : FailurePolicy :=
  accepted.info.failurePolicy.getD accepted.family.failurePolicy

/-- Run the steps that were chosen and collect what they leave. -/
def carryOut (config : Config) (accepted : Accepted) (job : Job) (chosen : List Step) :
    Program Result := do
  let inputName := some job.input.text
  let (result, _) ←
    Step.runAll { family := accepted.family, inputName, auditLog := job.auditLog }
      (policyOf accepted) (Result.start inputName (compilerOptions config accepted.family job))
      chosen
  collect accepted.family job result

/-- A build drafts what it is going to do, and carries it out. -/
theorem buildIn_eq_draft (explorer : Explorer) (accepted : Accepted) (request : Request)
    (userOptions : List String) (directory : Path) :
    explorer.buildIn accepted request userOptions directory = do
      match ← explorer.draft accepted request userOptions directory with
      | .error error => return .error error
      | .ok (job, chosen) => return .ok (← carryOut explorer.config accepted job chosen) := by
  unfold buildIn draft
  rw [prepare_eq_layOut, bind_assoc, bind_assoc]
  refine bind_congr fun laidOut => ?_
  cases laidOut with
  | error error => rfl
  | ok stepDirectory =>
      simp only [pure_bind, bind_assoc, build, carryOut]
      rfl

/-- Without a cache, a request that is accepted is built in a scratch directory of
its own. -/
theorem compile_eq_buildIn {explorer : Explorer} {accepted : Accepted} {request : Request}
    (noCache : explorer.cache = none)
    (checked : check explorer.config request = .ok accepted) :
    explorer.compile request = do
      match ← Program.makeScratch with
      | .error fault => return .error (.noScratch fault)
      | .ok directory => do
          let outcome ← explorer.buildIn accepted request
            (Guard.allowedOptions explorer.config.settings.forbiddenFlags request.options) directory
          explorer.dispose directory
          return outcome := by
  unfold compile lookup buildFresh
  simp only [checked, noCache, pure_bind]
  refine bind_congr fun scratch => ?_
  cases scratch with
  | error fault => rfl
  | ok directory =>
      refine bind_congr fun outcome => ?_
      cases outcome with
      | error error => rfl
      | ok result => simp only [store, noCache, pure_bind]

/-! ## Plans -/

/-- What can be seen of a build before its first tool runs. -/
structure Plan where
  policy : FailurePolicy
  /-- The names of the steps, and what is asked for in each. -/
  steps : List (String × Tool.Errand)
  deriving DecidableEq, Repr

/-- The plan with some steps. -/
def Plan.ofSteps (policy : FailurePolicy) (steps : List Step) : Plan where
  policy := policy
  steps := steps.map fun step => (step.name, step.call.errand)

/-- Lay out the files of a build and tell its plan. -/
def plan (explorer : Explorer) (accepted : Accepted) (request : Request)
    (userOptions : List String) (directory : Path) : Program (Except SetupError Plan) := do
  match ← explorer.draft accepted request userOptions directory with
  | .error error => return .error error
  | .ok (_, chosen) => return .ok (.ofSteps (policyOf accepted) chosen)

/-- Plan in a scratch directory that is made for it. -/
def inScratch (planning : Path → Program (Except SetupError Plan)) :
    Program (Except SetupError Plan) := do
  match ← Program.makeScratch with
  | .error fault => return .error (.noScratch fault)
  | .ok directory => planning directory

/-- The files come first, and the steps are chosen when they are there. -/
theorem plan_eq_layOut (explorer : Explorer) (accepted : Accepted) (request : Request)
    (userOptions : List String) (directory : Path) :
    explorer.plan accepted request userOptions directory = do
      match ← layOut accepted.language.sourceName request directory with
      | .error error => return .error error
      | .ok stepDirectory => do
          let job := explorer.job accepted request userOptions directory stepDirectory
          let chosen ← steps explorer.config accepted.family job
          return .ok (.ofSteps (policyOf accepted) chosen) := by
  unfold plan draft
  rw [bind_assoc]
  refine bind_congr fun laidOut => ?_
  cases laidOut with
  | error error => rfl
  | ok stepDirectory => simp only [pure_bind, bind_assoc]

/-! ## What is run -/

theorem draft_plain (explorer : Explorer) (accepted : Accepted) (request : Request)
    (userOptions : List String) (directory : Path) :
    (explorer.draft accepted request userOptions directory).Plain := by
  unfold draft
  refine Program.Only.bind (layOut_plain _ _ _) fun laidOut => ?_
  cases laidOut with
  | error error => exact Program.only_pure _ _
  | ok stepDirectory =>
      exact Program.Only.bind (steps_looks _ _ _).plain fun chosen => Program.only_pure _ _

/-- Steps that are carried out are handed to their tools, in order: all of them, or
else those up to the first that fails, if such a step ends the build.  Only then
other tools are run. -/
theorem carryOut_runs {World : Type} (host : Host World) (config : Config)
    (accepted : Accepted) (job : Job) (chosen : List Step) (world : World) :
    ∃ executed others,
      (carryOut config accepted job chosen).invocations host world = executed ++ others ∧
      executed.length = ((carryOut config accepted job chosen).run host world).1.steps.length ∧
      executed.map (·.call) = (chosen.take executed.length).map (·.call) ∧
      (executed.length = chosen.length ∨
        policyOf accepted = .abort ∧ ∃ invocation, executed.getLast? = some invocation ∧
          invocation.report.failure?.isSome = true) := by
  let setting : Step.Setting :=
    { family := accepted.family, inputName := some job.input.text, auditLog := job.auditLog }
  let start := Result.start (some job.input.text) (compilerOptions config accepted.family job)
  let stepping := Step.runAll setting (policyOf accepted) start chosen
  let given := Step.answers host setting world chosen
  let count := Step.executedCount (policyOf accepted) (given.map (·.report))
  have sameLength : given.length = chosen.length := Step.length_answers host setting world chosen
  have bound : count ≤ given.length := by
    simpa using Step.executedCount_le (policyOf accepted) (given.map (·.report))
  have ran : (stepping.run host world).1 =
      (start.recordAll ((Step.resultsOf setting chosen given).take count), count) :=
    Step.run_runAll host setting (policyOf accepted) start chosen world
  have invoked : stepping.invocations host world = (Step.invocationsOf chosen given).take count :=
    Step.invocations_runAll host setting (policyOf accepted) start chosen world
  have executedLength : (stepping.invocations host world).length = count := by
    rw [invoked]
    simp only [Step.invocationsOf, List.length_take, List.length_map, List.length_zip]
    omega
  have sameSteps : ((carryOut config accepted job chosen).run host world).1.steps =
      (stepping.run host world).1.1.steps := by
    rw [carryOut, Program.run_bind]
    obtain ⟨_, _, -, -, -, adds⟩ := collect_adds host accepted.family job
      (stepping.run host world).1.1 (stepping.run host world).2
    exact adds.steps
  refine ⟨stepping.invocations host world, _, Program.invocations_bind host stepping _ world,
    ?length, ?calls, ?ends⟩
  case length =>
      rw [executedLength, sameSteps, ran, Result.recordAll_eq]
      simp only [start, Result.start, Step.resultsOf, List.nil_append, List.length_take,
        List.length_map, List.length_zip]
      omega
  case calls =>
      rw [executedLength, invoked]
      exact Step.map_call_take_invocationsOf chosen given sameLength count
  case ends =>
      rw [executedLength]
      rcases Step.executedCount_ends (policyOf accepted) (given.map (·.report)) with
        all | ⟨aborts, report, isLast, failed⟩
      · left
        simpa [sameLength] using all
      · right
        rw [← List.map_take, ← Step.map_report_take_invocationsOf chosen given sameLength,
          ← invoked, List.getLast?_map, Option.map_eq_some_iff] at isLast
        obtain ⟨invocation, isLast, rfl⟩ := isLast
        exact ⟨aborts, invocation, isLast, failed⟩

/-- A plan is carried out by some runs of tools: the planned steps are handed to their tools,
in order, all of them, or else those up to the first that fails, if such a step is to end the
build.  Each of these runs is recorded. -/
structure Plan.CarriedOut (planned : Plan) (executed : List Tool.Invocation) (result : Result) :
    Prop where
  recorded : executed.length = result.steps.length
  errands : executed.map (·.call.errand) = (planned.steps.take executed.length).map (·.2)
  ends : executed.length = planned.steps.length ∨
    planned.policy = .abort ∧ ∃ invocation, executed.getLast? = some invocation ∧
      invocation.report.failure?.isSome = true

/-- A program that builds goes by one that plans: it begins with all that is done to plan, and
what comes of that is either its own error, without a tool being run, or a plan that it
carries out before it runs any other tool. -/
structure GoesBy {World : Type} (host : Host World) (world : World)
    (planning : Program (Except SetupError Plan)) (building : Program (Except SetupError Result)) :
    Prop where
  begins : ∃ later, building.trace host world = planning.trace host world ++ later
  refused : ∀ error, (planning.run host world).1 = .error error →
    (building.run host world).1 = .error error ∧ building.invocations host world = []
  carriesOut : ∀ planned, (planning.run host world).1 = .ok planned →
    ∃ result executed others, (building.run host world).1 = .ok result ∧
      building.invocations host world = executed ++ others ∧ planned.CarriedOut executed result

section Going

variable {World : Type} {host : Host World} {world : World}

theorem GoesBy.error (error : SetupError) :
    GoesBy host world (pure (.error error)) (pure (.error error)) where
  begins := ⟨[], rfl⟩
  refused := fun _ same => ⟨congrArg Except.error (Except.error.inj same), rfl⟩
  carriesOut := fun _ impossible => nomatch impossible

/-- What is done before both, and runs no tool, leaves a build to its plan. -/
theorem GoesBy.after {First : Type} {beginning : Program First} (plain : beginning.Plain)
    {planning : First → Program (Except SetupError Plan)}
    {building : First → Program (Except SetupError Result)}
    (goes : GoesBy host (beginning.run host world).2 (planning (beginning.run host world).1)
      (building (beginning.run host world).1)) :
    GoesBy host world (beginning >>= planning) (beginning >>= building) := by
  constructor
  case begins =>
      obtain ⟨later, events⟩ := goes.begins
      refine ⟨later, ?_⟩
      rw [Program.trace_bind, Program.trace_bind, events, List.append_assoc]
  all_goals
    rw [Program.run_bind, Program.run_bind, Program.invocations_bind, plain.invocations,
      List.nil_append]
  case refused => exact goes.refused
  case carriesOut => exact goes.carriesOut

/-- What is done in the end, and runs no tool, leaves a build to its plan. -/
theorem GoesBy.before {planning : Program (Except SetupError Plan)}
    {building : Program (Except SetupError Result)} (goes : GoesBy host world planning building)
    {ending : Program Unit} (plain : ending.Plain) :
    GoesBy host world planning (do
      let outcome ← building
      ending
      return outcome) := by
  constructor
  case begins =>
      obtain ⟨later, events⟩ := goes.begins
      rw [Program.trace_bind, events, List.append_assoc]
      exact ⟨_, rfl⟩
  all_goals
    rw [Program.run_bind, Program.run_bind, Program.run_pure, Program.invocations_bind,
      Program.invocations_bind, plain.invocations, Program.invocations_pure, List.append_nil,
      List.append_nil]
  case refused => exact goes.refused
  case carriesOut => exact goes.carriesOut

theorem buildIn_goesBy_plan (explorer : Explorer) (accepted : Accepted) (request : Request)
    (userOptions : List String) (directory : Path) :
    GoesBy host world (explorer.plan accepted request userOptions directory)
      (explorer.buildIn accepted request userOptions directory) := by
  have plain := draft_plain explorer accepted request userOptions directory
  rw [buildIn_eq_draft, plan]
  refine GoesBy.after plain ?_
  generalize (explorer.draft accepted request userOptions directory).run host world = drafted
  rcases drafted with ⟨error | ⟨job, chosen⟩, world⟩
  · exact GoesBy.error error
  · obtain ⟨executed, others, invoked, recorded, calls, ends⟩ :=
      carryOut_runs host explorer.config accepted job chosen world
    constructor
    case begins => exact ⟨_, rfl⟩
    case refused => exact fun _ impossible => nomatch impossible
    case carriesOut =>
        rintro _ ⟨⟩
        dsimp only
        rw [Program.run_bind, Program.run_pure, Program.invocations_bind, Program.invocations_pure,
          List.append_nil, invoked]
        refine ⟨_, executed, others, rfl, rfl, recorded, ?errands, ?ends⟩
        case errands =>
            calc
              executed.map (·.call.errand) = (executed.map (·.call)).map (·.errand) := by
                rw [List.map_map]
                rfl
              _ = ((chosen.take executed.length).map (·.call)).map (·.errand) := by rw [calls]
              _ = _ := by
                rw [Plan.ofSteps, ← List.map_take, List.map_map, List.map_map]
                rfl
        case ends =>
            simpa only [Plan.ofSteps, List.length_map] using ends

/-- Without a cache, a request that is accepted is built by what is planned in a scratch
directory of its own. -/
theorem compile_goesBy_plan {explorer : Explorer} {accepted : Accepted} {request : Request}
    (noCache : explorer.cache = none)
    (checked : check explorer.config request = .ok accepted) :
    GoesBy host world
      (inScratch (explorer.plan accepted request
        (Guard.allowedOptions explorer.config.settings.forbiddenFlags request.options)))
      (explorer.compile request) := by
  have plain : Program.makeScratch.Plain := Program.only_perform_iff.mpr rfl
  rw [compile_eq_buildIn noCache checked, inScratch]
  refine GoesBy.after plain ?_
  generalize Program.makeScratch.run host world = made
  rcases made with ⟨fault | directory, world⟩
  · exact GoesBy.error _
  · exact (buildIn_goesBy_plan explorer accepted request _ directory).before
      (dispose_plain explorer directory)

end Going

end Explorer

end BuildExplorer
