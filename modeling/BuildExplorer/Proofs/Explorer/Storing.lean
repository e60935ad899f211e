import Mathlib.Data.List.Forall2
import BuildExplorer.Proofs.Explorer.Setup

/-!
# Which results are stored

A result is stored by what is recorded of its steps.  The steps are all
invocations but those behind them, which list a linked program and expand
macros; of these nothing is recorded, and so they have no say in what is stored.
-/

namespace BuildExplorer

variable {World : Type}

/-! ## What is recorded of a build -/

/-- The record of a step keeps what was called and what was reported. -/
def StepResult.Keeps (step : StepResult) (invocation : Tool.Invocation) : Prop :=
  step = .ofReport step.step invocation.call.command.text invocation.call.args invocation.report
    step.stdout step.stderr

theorem Step.resultsOf_keeps (setting : Setting) (steps : List Step) (answers : List Answer) :
    List.Forall₂ StepResult.Keeps (resultsOf setting steps answers)
      (invocationsOf steps answers) := by
  rw [resultsOf, invocationsOf, List.forall₂_map_left_iff, List.forall₂_map_right_iff,
    List.forall₂_same]
  rintro ⟨step, answer⟩ -
  rfl

namespace Explorer

/-- Choose the steps of a job and run them. -/
def runSteps (config : Config) (family : Family) (job : Job) : Program Result := do
  let inputName := some job.input.text
  let chosen ← steps config family job
  let (result, _) ←
    Step.runAll { family, inputName, auditLog := job.auditLog }
      (job.info.failurePolicy.getD family.failurePolicy)
      (Result.start inputName (compilerOptions config family job)) chosen
  return result

/-- A build runs its steps and collects what they leave. -/
theorem build_eq_runSteps (config : Config) (family : Family) (job : Job) :
    build config family job = runSteps config family job >>= collect family job := by
  unfold build runSteps
  simp only [bind_assoc, pure_bind]

/-- What the steps leave is made of what is kept of each of them. -/
theorem exists_recordAll_runSteps (host : Host World) (config : Config) (family : Family)
    (job : Job) (world : World) :
    ∃ kept : List StepResult,
      ((runSteps config family job).run host world).1 =
        (Result.start (some job.input.text) (compilerOptions config family job)).recordAll kept ∧
      List.Forall₂ StepResult.Keeps kept ((runSteps config family job).invocations host world) := by
  unfold runSteps
  simp only [Program.run_bind, Program.invocations_bind, (steps_looks _ _ _).invocations,
    Program.run_pure, Program.invocations_pure, Step.run_runAll, Step.invocations_runAll,
    List.nil_append, List.append_nil]
  exact ⟨_, rfl, List.forall₂_take _ (Step.resultsOf_keeps _ _ _)⟩

theorem runSteps_keeps (host : Host World) (config : Config) (family : Family) (job : Job)
    (world : World) :
    List.Forall₂ StepResult.Keeps ((runSteps config family job).run host world).1.steps
      ((runSteps config family job).invocations host world) := by
  obtain ⟨kept, recorded, keeps⟩ := exists_recordAll_runSteps host config family job world
  rw [recorded, Result.recordAll_eq]
  exact keeps

/-- The steps show a process failure exactly if a tool of theirs did not run to its
end. -/
theorem hasProcessFailure_runSteps (host : Host World) (config : Config) (family : Family)
    (job : Job) (world : World) :
    ((runSteps config family job).run host world).1.hasProcessFailure =
      ((runSteps config family job).invocations host world).any (!·.report.ranToEnd) := by
  unfold runSteps
  simp only [Program.run_bind, Program.invocations_bind, (steps_looks _ _ _).invocations,
    Program.run_pure, Program.invocations_pure, List.nil_append, List.append_nil]
  exact Step.hasProcessFailure_run_runAll host _ _ _ _ _

/-- What is known of the invocations behind a result that was built: those of the
steps come first, and the result shows a process failure exactly if the tool of a
step did not run to its end. -/
structure Recorded (family : Family) (job : Job) (result : Result)
    (invocations : List Tool.Invocation) : Prop where
  steps : List.Forall₂ StepResult.Keeps result.steps (invocations.take result.steps.length)
  failure : result.hasProcessFailure =
    (invocations.take result.steps.length).any (!·.report.ranToEnd)
  others : List.Sublist ((invocations.drop result.steps.length).map (·.call))
    ((disassemblerCall job).toList ++ (macroExpansionCall family job).toList)

theorem build_recorded (host : Host World) (config : Config) (family : Family) (job : Job)
    (world : World) :
    Recorded family job ((build config family job).run host world).1
      ((build config family job).invocations host world) := by
  let left := (runSteps config family job).run host world
  have keeps := runSteps_keeps host config family job world
  obtain ⟨_, _, -, -, -, adds⟩ := collect_adds host family job left.1 left.2
  rw [build_eq_runSteps, Program.run_bind, Program.invocations_bind]
  refine ⟨?_, ?_, ?_⟩
  · rw [adds.steps, keeps.length_eq, List.take_left]
    exact keeps
  · rw [adds.hasProcessFailure, adds.steps, keeps.length_eq, List.take_left]
    exact hasProcessFailure_runSteps host config family job world
  · rw [adds.steps, keeps.length_eq, List.drop_left]
    exact calls_collect host family job left.1 left.2

/-! ## What is stored -/

/-- Storing begins with a file of its own in the directory of the cache. -/
theorem stores_put (host : Host World) (cache : Cache) (key : String) (result : Result)
    (world : World) : Stores ((cache.put key result).trace host world) :=
  ⟨⟨.makeTemporary cache.directory, (host (.makeTemporary cache.directory) world).1⟩,
    List.mem_cons_self, rfl⟩

/-- A result is handed to the cache unless it shows a process failure. -/
theorem stores_store_iff (host : Host World) (explorer : Explorer) (key : String)
    (result : Result) (world : World) :
    Stores ((explorer.store key result).trace host world) ↔
      explorer.cache.isSome = true ∧ result.hasProcessFailure = false := by
  unfold store
  cases explorer.cache with
  | none => simp
  | some cache =>
      by_cases failure : result.hasProcessFailure = true
      · simp [failure]
      · have stored := stores_put host cache key result world
        simp only [failure]
        rw [if_neg Bool.false_ne_true, Program.trace_bind, Program.trace_pure, List.append_nil]
        simpa using stored

/-- Storing runs no tool. -/
theorem store_idle (explorer : Explorer) (key : String) (result : Result) :
    (explorer.store key result).Only fun action => action.isExecute = false := by
  unfold store
  split
  · exact Program.only_pure _ _
  · split
    · exact Program.only_pure _ _
    · exact Program.Only.bind (Cache.put_idle _ _ _) fun _ => Program.only_pure _ _

/-- The three courses that a request can take: it is not built, its build cannot be
set up, or its build comes to a result, which is stored unless it shows a process
failure. -/
theorem compile_courses (host : Host World) (explorer : Explorer) (request : Request)
    (world : World) :
    let events := (explorer.compile request).trace host world
    let outcome := ((explorer.compile request).run host world).1
    (¬Builds events ∧ ¬Stores events) ∨
      (Builds events ∧ ¬Stores events ∧ ∃ error, outcome = .error error) ∨
      (Builds events ∧ ∃ result, outcome = .ok result ∧
        (Stores events ↔ explorer.cache.isSome = true ∧ result.hasProcessFailure = false) ∧
        ∃ family job, job.request = request ∧
          Recorded family job result ((explorer.compile request).invocations host world)) := by
  have ends := ends_setUp host explorer request world
  simp only [compile_eq_setUp, Program.trace_bind, Program.invocations_bind, Program.run_bind,
    invocations_setUp, List.nil_append, builds_append_iff, stores_append_iff, not_stores_setUp,
    false_or]
  generalize (explorer.setUp request).trace host world = events at ends ⊢
  generalize (explorer.setUp request).run host world = ended at ends ⊢
  rcases ended with ⟨setup, world⟩
  cases ends with
  | refused error =>
      by_cases built : Builds events
      · right
        left
        exact ⟨.inl built, not_stores_nil, error, rfl⟩
      · left
        simp [conclude, built]
  | served notBuilt =>
      left
      simp [conclude, notBuilt]
  | @ready accepted key directory job built isRequest =>
      right
      right
      have buildStores := not_stores_trace
        (build_works explorer.config accepted.family job).storeless host world
      have disposeStores := fun world =>
        not_stores_trace (dispose_plain explorer directory).storeless host world
      simp only [conclude, Program.trace_bind, Program.invocations_bind, Program.run_bind,
        Program.invocations_eq_nil (store_idle explorer key _), (dispose_plain _ _).invocations,
        Program.trace_pure, Program.invocations_pure, Program.run_pure, List.append_nil,
        stores_append_iff, stores_store_iff, buildStores, disposeStores, false_or, or_false]
      exact ⟨.inl built, _, rfl, Iff.rfl, accepted.family, job, isRequest,
        build_recorded host explorer.config accepted.family job world⟩

/-- A result is handed to the cache exactly if there is a cache, the result was
built, and the tool of each of its steps ran to its end: was started, was not lost
and was not stopped.  The steps of a result that was built are the first of all
invocations.  The others, of a disassembler or to expand macros, may end in any
way. -/
theorem compile_stores_iff_steps_ran (host : Host World) (explorer : Explorer)
    (request : Request) (world : World) :
    let events := (explorer.compile request).trace host world
    let invocations := (explorer.compile request).invocations host world
    let outcome := ((explorer.compile request).run host world).1
    (Stores events ↔
        explorer.cache.isSome = true ∧ Builds events ∧ ∃ result, outcome = .ok result ∧
          ∀ invocation ∈ invocations.take result.steps.length,
            invocation.report.ranToEnd = true) ∧
      (Builds events → ∀ result, outcome = .ok result →
        List.Forall₂ StepResult.Keeps result.steps (invocations.take result.steps.length) ∧
        ∃ family job, job.request = request ∧
          List.Sublist ((invocations.drop result.steps.length).map (·.call))
            ((disassemblerCall job).toList ++ (macroExpansionCall family job).toList)) := by
  intro events invocations outcome
  rcases compile_courses host explorer request world with
    ⟨notBuilt, notStored⟩ | ⟨built, notStored, error, failed⟩ |
      ⟨built, result, isResult, storedIff, family, job, isRequest, recorded⟩
  · exact ⟨iff_of_false notStored fun clean => notBuilt clean.2.1,
      fun built => absurd built notBuilt⟩
  · have noResult : ∀ result, outcome ≠ .ok result := by
      intro result isResult
      exact nomatch failed.symm.trans isResult
    constructor
    · refine iff_of_false notStored ?_
      rintro ⟨-, -, result, isResult, -⟩
      exact noResult result isResult
    · intro _ result isResult
      exact absurd isResult (noResult result)
  · have unique : ∀ other, outcome = .ok other → other = result := by
      intro other isOther
      exact (Except.ok.inj (isResult.symm.trans isOther)).symm
    have clean : result.hasProcessFailure = false ↔
        ∀ invocation ∈ invocations.take result.steps.length,
          invocation.report.ranToEnd = true := by
      rw [recorded.failure]
      simp [invocations]
    constructor
    · rw [storedIff, clean]
      constructor
      · rintro ⟨hasCache, ran⟩
        exact ⟨hasCache, built, result, isResult, ran⟩
      · rintro ⟨hasCache, -, other, isOther, ran⟩
        rw [unique other isOther] at ran
        exact ⟨hasCache, ran⟩
    · intro _ other isOther
      rw [unique other isOther]
      exact ⟨recorded.steps, family, job, isRequest, recorded.others⟩

end Explorer

end BuildExplorer
