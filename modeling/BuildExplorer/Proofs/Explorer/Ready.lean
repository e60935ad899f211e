import BuildExplorer.Proofs.Explorer.Serving
import BuildExplorer.Proofs.Explorer.Storing

/-!
# Set-ups that are ready

A job that is ready was made of the request as it was checked: with the options that
the configuration lets through, and under the key of the request.  All tools that a
request runs are run for such a job, and the first of them is the first step.
-/

namespace BuildExplorer

open Program (Always)

namespace Explorer

/-! ## Which job is ready -/

/-- What is ready is the job of a request that was checked. -/
structure IsReady (explorer : Explorer) (request : Request) (accepted : Accepted) (key : String)
    (job : Job) : Prop where
  checked : check explorer.config request = .ok accepted
  isKey : key = keyOf explorer.config accepted request
  isJob : ∃ directory stepDirectory,
    job = explorer.job accepted request (userOptions explorer.config request) directory
      stepDirectory

/-- The job that is made of a request has the options that it was given. -/
theorem prepare_always_isJob (explorer : Explorer) (accepted : Accepted) (request : Request)
    (options : List String) (directory : Path) :
    (explorer.prepare accepted request options directory).Always fun prepared =>
      ∀ job, prepared = .ok job → ∃ stepDirectory,
        job = explorer.job accepted request options directory stepDirectory := by
  rw [prepare_eq_layOut]
  refine Always.bind (Program.always_true _) fun laidOut _ => ?_
  cases laidOut with
  | error error => exact Program.always_pure_iff.mpr fun _ impossible => nomatch impossible
  | ok stepDirectory =>
      refine Program.always_pure_iff.mpr fun job isJob => ?_
      cases isJob
      exact ⟨stepDirectory, rfl⟩

theorem setUp_always_isReady (explorer : Explorer) (request : Request) :
    (explorer.setUp request).Always fun setup => ∀ accepted key directory job,
      setup = .ready accepted key directory job →
        explorer.IsReady request accepted key job := by
  unfold setUp
  cases checked : check explorer.config request with
  | error error => exact Program.always_pure_iff.mpr fun _ _ _ _ impossible => nomatch impossible
  | ok accepted =>
      refine Always.bind (Program.always_true _) fun found _ => ?_
      cases found with
      | some result =>
          exact Program.always_pure_iff.mpr fun _ _ _ _ impossible => nomatch impossible
      | none =>
          refine Always.bind (Program.always_true _) fun scratch _ => ?_
          cases scratch with
          | error fault =>
              exact Program.always_pure_iff.mpr fun _ _ _ _ impossible => nomatch impossible
          | ok directory =>
              refine Always.bind (prepare_always_isJob _ _ _ _ _) fun prepared isJob => ?_
              cases prepared with
              | error error =>
                  exact Always.bind (Program.always_true _) fun _ _ _ _ _ _ impossible =>
                    nomatch impossible
              | ok job =>
                  refine Program.always_pure_iff.mpr fun _ _ _ _ isReady => ?_
                  cases isReady
                  exact ⟨checked, rfl, directory, isJob job rfl⟩

/-! ## What is run for it -/

variable {World : Type}

/-- Every build has a step. -/
theorem steps_always_ne_nil (config : Config) (family : Family) (job : Job) :
    (steps config family job).Always (· ≠ []) := by
  unfold steps
  split
  · exact Program.always_pure_iff.mpr (List.cons_ne_nil _ _)
  · exact Always.bind (Program.always_true _) fun _ _ =>
      Program.always_pure_iff.mpr (List.cons_ne_nil _ _)

/-- The tools that are run first are those of the steps, from the first one on. -/
theorem calls_runSteps (host : Host World) (config : Config) (family : Family) (job : Job)
    (world : World) :
    ∃ count, 0 < count ∧
      ((runSteps config family job).invocations host world).map (·.call) =
        (((steps config family job).run host world).1.take count).map (·.call) := by
  have notEmpty := (steps_always_ne_nil config family job).run host world
  unfold runSteps
  simp only [Program.invocations_bind, (steps_looks _ _ _).invocations, Program.invocations_pure,
    Step.invocations_runAll, List.nil_append, List.append_nil]
  generalize ((steps config family job).run host world).1 = chosen at notEmpty ⊢
  rw [Step.map_call_take_invocationsOf _ _ (Step.length_answers _ _ _ _)]
  refine ⟨_, ?_, rfl⟩
  obtain ⟨first, rest, rfl⟩ := List.exists_cons_of_ne_nil notEmpty
  rw [Step.answers, List.map_cons, Step.executedCount_cons]
  split <;> omega

/-- The tools of a build are those of its steps, from the first one on, and behind them
at most the disassembler and the compiler that expands macros. -/
theorem calls_build (host : Host World) (config : Config) (family : Family) (job : Job)
    (world : World) :
    ∃ count calls, 0 < count ∧
      ((build config family job).invocations host world).map (·.call) =
        (((steps config family job).run host world).1.take count).map (·.call) ++ calls ∧
      calls.Sublist ((disassemblerCall job).toList ++ (macroExpansionCall family job).toList) := by
  obtain ⟨count, positive, called⟩ := calls_runSteps host config family job world
  rw [build_eq_runSteps, Program.invocations_bind, List.map_append, called]
  exact ⟨count, _, positive, rfl, calls_collect _ _ _ _ _⟩

/-- No build comes to its result without a tool. -/
theorem invocations_build_ne_nil (host : Host World) (config : Config) (family : Family)
    (job : Job) (world : World) : (build config family job).invocations host world ≠ [] := by
  intro idle
  have notEmpty := (steps_always_ne_nil config family job).run host world
  obtain ⟨count, calls, positive, called, -⟩ := calls_build host config family job world
  obtain ⟨first, rest, isSteps⟩ := List.exists_cons_of_ne_nil notEmpty
  obtain ⟨less, rfl⟩ := Nat.exists_eq_succ_of_ne_zero (Nat.ne_of_gt positive)
  rw [idle, isSteps] at called
  cases called

/-- A request runs no tools, or those of the build of a job that is ready. -/
theorem invocations_compile (host : Host World) (explorer : Explorer) (request : Request)
    (world : World) :
    (explorer.compile request).invocations host world = [] ∨
      ∃ accepted key job readied, explorer.IsReady request accepted key job ∧
        (explorer.compile request).invocations host world =
          (build explorer.config accepted.family job).invocations host readied := by
  have isReady := (setUp_always_isReady explorer request).run host world
  rw [compile_eq_setUp, Program.invocations_bind, invocations_setUp, List.nil_append]
  generalize (explorer.setUp request).run host world = ended at isReady ⊢
  rcases ended with ⟨setup, readied⟩
  cases setup with
  | refused error => exact .inl rfl
  | served result => exact .inl rfl
  | ready accepted key directory job =>
      refine .inr ⟨accepted, key, job, readied, isReady _ _ _ _ rfl, ?_⟩
      simp only [conclude, Program.invocations_bind, (dispose_plain _ _).invocations,
        Program.invocations_eq_nil (store_idle explorer key _), Program.invocations_pure,
        List.append_nil]

end Explorer

end BuildExplorer
