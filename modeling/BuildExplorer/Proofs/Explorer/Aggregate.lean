import BuildExplorer.Proofs.Explorer.Serving
import BuildExplorer.Proofs.Explorer.Storing

/-!
# Results as sums of their steps

What a result says of a build as a whole is what its steps say together.  The steps
leave the code, the times, the deadline and both streams; all that is found behind
them, such as listings, remarks, expanded macros and artifacts, is added beside.
Only the errors of a disassembler that fails are written behind those of the steps.
-/

namespace BuildExplorer.Explorer

variable {World : Type}

/-- The streams that the steps leave are those of the steps, one behind the other. -/
theorem streams_runSteps (host : Host World) (config : Config) (family : Family) (job : Job)
    (world : World) :
    let left := ((runSteps config family job).run host world).1
    left.stdout = left.steps.flatMap (·.stdout) ∧
      left.stderr = left.steps.flatMap (·.stderr) := by
  intro left
  obtain ⟨kept, recorded, -⟩ := exists_recordAll_runSteps host config family job world
  have closed : left = _ := recorded.trans (Result.recordAll_eq _ _)
  rw [closed]
  exact ⟨rfl, rfl⟩

/-- How a result comes about in a world where a job is ready, by the tools that were
run: those of the steps, perhaps a disassembler, and perhaps a compiler that expands
macros. -/
structure ComesAbout (host : Host World) (config : Config) (family : Family) (job : Job)
    (readied : World) (disassembly expansion : Option Tool.Invocation) (result : Result)
    (invocations : List Tool.Invocation) : Prop where
  invoked : invocations =
    (runSteps config family job).invocations host readied ++ disassembly.toList ++
      expansion.toList
  /-- Only a linked program is disassembled. -/
  disassembles : ∀ made ∈ disassembly,
    job.request.filters.binary = true ∧ disassemblerCall job = some made.call
  expands : ∀ made ∈ expansion, macroExpansionCall family job = some made.call
  /-- What is recorded are the tools of the steps, and no others. -/
  steps : List.Forall₂ StepResult.Keeps result.steps
    ((runSteps config family job).invocations host readied)
  adds : AddsTo ((runSteps config family job).run host readied).1 (disassemblyErrors disassembly)
    result
  stdout : result.stdout = result.steps.flatMap (·.stdout)
  stderr : result.stderr = result.steps.flatMap (·.stderr) ++ disassemblyErrors disassembly

theorem binary_of_disassemblerCall {job : Job} {call : Tool.Call}
    (asked : disassemblerCall job = some call) : job.request.filters.binary = true := by
  unfold disassemblerCall at asked
  split at asked
  · assumption
  · cases asked

/-- A build comes to its result by its steps and what is added to them. -/
theorem build_comesAbout (host : Host World) (config : Config) (family : Family) (job : Job)
    (world : World) :
    ∃ disassembly expansion,
      ComesAbout host config family job world disassembly expansion
        ((build config family job).run host world).1
        ((build config family job).invocations host world) := by
  let left := (runSteps config family job).run host world
  have keeps := runSteps_keeps host config family job world
  obtain ⟨stdout, stderr⟩ := streams_runSteps host config family job world
  obtain ⟨disassembly, expansion, invoked, lists, expands, adds⟩ :=
    collect_adds host family job left.1 left.2
  rw [build_eq_runSteps, Program.run_bind, Program.invocations_bind]
  refine ⟨disassembly, expansion, ?_⟩
  constructor
  case invoked => rw [invoked, List.append_assoc]
  case disassembles =>
      intro made isMade
      have asked := lists made isMade
      exact ⟨binary_of_disassemblerCall asked, asked⟩
  case expands => exact expands
  case steps =>
      rw [adds.steps]
      exact keeps
  case adds => exact adds
  case stdout => rw [adds.stdout, adds.steps, stdout]
  case stderr => rw [adds.stderr, adds.steps, stderr]

/-- A result that was built, and not taken from a cache, is one of a set-up that was
ready.  Its steps, code, deadline, time, streams, input and options are what the steps
of the job have left, and the output and the errors are those of the steps one behind
the other; only the errors of a disassembler that fails may follow. -/
theorem compile_adds_to_steps {host : Host World} {explorer : Explorer} {request : Request}
    {world : World} {result : Result}
    (built : Builds ((explorer.compile request).trace host world))
    (isResult : ((explorer.compile request).run host world).1 = .ok result) :
    ∃ accepted key directory job readied disassembly expansion,
      (explorer.setUp request).run host world =
        (.ready accepted key directory job, readied) ∧
      job.request = request ∧
      ComesAbout host explorer.config accepted.family job readied disassembly expansion result
        ((explorer.compile request).invocations host world) := by
  have ends := ends_setUp host explorer request world
  rw [compile_eq_setUp, Program.trace_bind, builds_append_iff] at built
  rw [compile_eq_setUp, Program.run_bind] at isResult
  rw [compile_eq_setUp, Program.invocations_bind, invocations_setUp, List.nil_append]
  generalize (explorer.setUp request).trace host world = events at ends built
  generalize (explorer.setUp request).run host world = ended at ends built isResult ⊢
  rcases ended with ⟨setup, readied⟩
  cases ends with
  | refused error => cases isResult
  | served notBuilt =>
      rcases built with earlier | later
      · exact absurd earlier notBuilt
      · exact absurd later not_builds_nil
  | @ready accepted key directory job _ isRequest =>
      obtain ⟨disassembly, expansion, comesAbout⟩ :=
        build_comesAbout host explorer.config accepted.family job readied
      refine ⟨accepted, key, directory, job, readied, disassembly, expansion, rfl, isRequest, ?_⟩
      simp only [conclude, Program.run_bind, Program.run_pure, Except.ok.injEq] at isResult
      simp only [conclude, Program.invocations_bind, (dispose_plain _ _).invocations,
        Program.invocations_eq_nil (store_idle explorer key _), Program.invocations_pure,
        List.append_nil]
      rw [← isResult]
      exact comesAbout

/-- A host on which a program is linked, with a warning, that cannot be listed. -/
def unlistedHost : Host Unit
  | .isFile _, world => (true, world)
  | .execute call, world =>
      if call.command = ⟨"/od"⟩ then ({ code := 1, stderr := ["bad format"] }, world)
      else ({ stderr := ["unused x"] }, world)
  | action, world => workingHost action world

/-- The theorem at a program that is linked and cannot be listed: what the
disassembler has to say is the last of the errors, and it is no step. -/
theorem compile_adds_to_steps_unlisted :
    let explorer : Explorer :=
      { config := { compilers := [{ id := "cc", exe := ⟨"/cc"⟩, objdumper := some ⟨"/od"⟩ }] } }
    let request : Request := { compiler := "cc", filters := { binary := true } }
    ∃ result : Result,
      Builds ((explorer.compile request).trace unlistedHost ()) ∧
      ((explorer.compile request).run unlistedHost ()).1 = .ok result ∧
      result.steps.map (·.step) = ["compile"] ∧
      result.stderr.map (·.text) = ["unused x", "bad format"] ∧
      ∃ accepted key directory job readied disassembly expansion,
        (explorer.setUp request).run unlistedHost () =
          (.ready accepted key directory job, readied) ∧
        job.request = request ∧
        ComesAbout unlistedHost explorer.config accepted.family job readied disassembly expansion
          result ((explorer.compile request).invocations unlistedHost ()) := by
  intro explorer request
  have built : Builds ((explorer.compile request).trace unlistedHost ()) :=
    ⟨⟨.makeScratch, .ok ⟨"/w"⟩⟩, List.mem_cons_self, rfl⟩
  have shown : ((explorer.compile request).run unlistedHost ()).1.toOption.map
      (fun result => (result.steps.map (·.step), result.stderr.map (·.text))) =
        some (["compile"], ["unused x", "bad format"]) := by
    decide +kernel
  obtain ⟨result, isSome, shown⟩ := Option.map_eq_some_iff.mp shown
  have isResult := eq_ok_of_toOption_eq_some isSome
  exact ⟨result, built, isResult, congrArg Prod.fst shown, congrArg Prod.snd shown,
    compile_adds_to_steps built isResult⟩

end BuildExplorer.Explorer
