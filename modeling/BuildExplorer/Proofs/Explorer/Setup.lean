import BuildExplorer.Proofs.Explorer.Phases

/-!
# Set-ups

All that can be refused to a request is refused before the first tool runs: the
request is checked, its result is looked up, and a scratch directory is made and
filled.  This is its set-up.  What follows a set-up has no errors of its own, so
a request ends in an error exactly if its set-up is refused.

A set-up that is refused has left nothing behind but files of the request in the
scratch directory, under names that do not lead out of it.
-/

namespace BuildExplorer

open Program (Always)

/-! ## Names of input files -/

theorem Language.mem_all_of_find? {key : String} {language : Language}
    (found : find? key = some language) : language ∈ all := by
  rw [find?, Option.orElse_eq_orElse, Option.orElse_eq_or, Option.or_eq_some_iff] at found
  rcases found with byId | ⟨-, byAlias⟩
  · exact List.mem_of_find?_eq_some byId
  · exact List.mem_of_find?_eq_some byAlias

/-- An input file is named as an extra file may be named. -/
theorem Language.checkFileName_sourceName {language : Language} (known : language ∈ all) :
    Guard.checkFileName language.sourceName = .ok () := by
  simp only [all, List.mem_cons, List.not_mem_nil, or_false] at known
  rcases known with rfl | rfl | rfl | rfl | rfl | rfl <;> rfl

namespace Explorer

/-- A request that was checked is for a language that is known, and the names of its extra
files are allowed. -/
theorem language_mem_all_of_check {config : Config} {request : Request} {accepted : Accepted}
    (checked : check config request = .ok accepted) :
    accepted.language ∈ Language.all ∧ checkFiles request.files = .ok () := by
  unfold check at checked
  split at checked
  · cases checked
  · split at checked
    · cases checked
    · split at checked
      · cases checked
      · rename_i found
        cases files : checkFiles request.files with
        | error error =>
            rw [files] at checked
            cases checked
        | ok _ =>
            cases targets : checkTargets request with
            | error error =>
                rw [files, targets] at checked
                cases checked
            | ok _ =>
                rw [files, targets] at checked
                cases checked
                exact ⟨Language.mem_all_of_find? found, rfl⟩

/-- Each extra file of a request that was checked has a name that is allowed, and
so has its input file. -/
theorem checkFileName_of_check {config : Config} {request : Request} {accepted : Accepted}
    (checked : check config request = .ok accepted) :
    Guard.checkFileName accepted.language.sourceName = .ok () ∧
      checkFiles request.files = .ok () := by
  obtain ⟨known, filesAllowed⟩ := language_mem_all_of_check checked
  exact ⟨Language.checkFileName_sourceName known, filesAllowed⟩

/-! ## Filling a scratch directory -/

/-- What may be done in a scratch directory before the first tool runs: files are
written under names that are allowed, directories are made for such files or under
such names, and in the end the whole may be removed. -/
inductive Fills (directory : Path) : Host.Action → Prop where
  | writes {name : String} (contents : Host.Bytes)
      (allowed : Guard.checkFileName name = .ok ()) :
      Fills directory (.writeContents (directory.join name) contents)
  | leads {name : String} {parent : Path} (allowed : Guard.checkFileName name = .ok ())
      (isParent : (directory.join name).parent? = some parent) :
      Fills directory (.createDirectories parent)
  | makes {name : String} (allowed : Guard.checkFileName name = .ok ()) :
      Fills directory (.createDirectories (directory.join name))
  | removes : Fills directory (.removeScratch directory)

theorem writeText_fills (directory : Path) {name : String}
    (allowed : Guard.checkFileName name = .ok ()) (text : String) :
    (writeText (directory.join name) text).Only (Fills directory) := by
  refine Program.Only.ask (Fills.writes _ allowed) fun written => ?_
  cases written <;> exact Program.only_pure _ _

theorem makeParent_fills (directory : Path) {name : String}
    (allowed : Guard.checkFileName name = .ok ()) :
    (Audit.makeParent (directory.join name)).Only (Fills directory) := by
  unfold Audit.makeParent
  split
  · exact Program.only_pure _ _
  · rename_i parent isParent
    exact Program.only_perform_iff.mpr (Fills.leads allowed isParent)

theorem writeFiles_fills {directory : Path} {files : List ExtraFile}
    (checked : checkFiles files = .ok ()) :
    (writeFiles directory files).Only (Fills directory) := by
  induction files with
  | nil => exact Program.only_pure _ _
  | cons file rest inductionHypothesis =>
      unfold checkFiles at checked
      split at checked
      · cases checked
      · rename_i allowed
        have leads := makeParent_fills directory allowed
        have writes := writeText_fills directory allowed file.contents
        unfold writeFiles
        generalize directory.join file.name = path at leads writes ⊢
        refine Program.Only.bind leads fun made => ?_
        cases made with
        | error fault => exact Program.only_pure _ _
        | ok _ =>
            refine Program.Only.bind writes fun written => ?_
            cases written with
            | error error => exact Program.only_pure _ _
            | ok _ => exact inductionHypothesis checked

theorem makeStepDirectory_fills (directory : Path) (build : BuildKind) :
    (makeStepDirectory directory build).Only (Fills directory) := by
  cases build with
  | single => exact Program.only_pure _ _
  | cmake =>
      have allowed : Guard.checkFileName buildDirectoryName = .ok () := rfl
      refine Program.Only.ask (Fills.makes allowed) fun made => ?_
      cases made <;> exact Program.only_pure _ _

theorem prepare_fills {explorer : Explorer} {request : Request} {accepted : Accepted}
    (checked : check explorer.config request = .ok accepted) (userOptions : List String)
    (directory : Path) :
    (explorer.prepare accepted request userOptions directory).Only (Fills directory) := by
  obtain ⟨allowed, filesAllowed⟩ := checkFileName_of_check checked
  unfold prepare
  refine Program.Only.bind (writeText_fills directory allowed _) fun written => ?_
  cases written with
  | error error => exact Program.only_pure _ _
  | ok _ =>
      refine Program.Only.bind (writeFiles_fills filesAllowed) fun filled => ?_
      cases filled with
      | error error => exact Program.only_pure _ _
      | ok _ =>
          refine Program.Only.bind (makeStepDirectory_fills _ _) fun made => ?_
          cases made <;> exact Program.only_pure _ _

theorem dispose_fills (explorer : Explorer) (directory : Path) :
    (explorer.dispose directory).Only (Fills directory) := by
  unfold dispose
  split
  · exact Program.only_pure _ _
  · exact Program.only_perform_iff.mpr Fills.removes

/-! ## Set-ups and what follows them -/

/-- How the set-up of a request ends. -/
inductive Setup where
  /-- The request cannot be built. -/
  | refused (error : SetupError)
  /-- The request needs no build. -/
  | served (result : Result)
  /-- A scratch directory is filled, and the job in it can begin. -/
  | ready (accepted : Accepted) (key : String) (directory : Path) (job : Job)

/-- Set up the build of a request that is not in the cache. -/
def setUpFresh (explorer : Explorer) (accepted : Accepted) (request : Request)
    (userOptions : List String) (key : String) : Program Setup := do
  match ← Program.makeScratch with
  | .error fault => return .refused (.noScratch fault)
  | .ok directory =>
      match ← explorer.prepare accepted request userOptions directory with
      | .ok job => return .ready accepted key directory job
      | .error error =>
          explorer.dispose directory
          return .refused error

/-- Set up the build of a request. -/
def setUp (explorer : Explorer) (request : Request) : Program Setup :=
  match check explorer.config request with
  | .error error => return .refused error
  | .ok accepted => do
      let userOptions :=
        Guard.allowedOptions explorer.config.settings.forbiddenFlags request.options
      let key := cacheKey accepted.info request userOptions
      match ← explorer.lookup key with
      | some result => return .served result
      | none => explorer.setUpFresh accepted request userOptions key

/-- Come to the end of a request that has been set up. -/
def conclude (explorer : Explorer) : Setup → Program (Except SetupError Result)
  | .refused error => return .error error
  | .served result => return .ok result
  | .ready accepted key directory job => do
      let result ← build explorer.config accepted.family job
      explorer.store key result
      explorer.dispose directory
      return .ok result

/-- A request is set up, and all else follows. -/
theorem compile_eq_setUp (explorer : Explorer) (request : Request) :
    explorer.compile request = explorer.setUp request >>= explorer.conclude := by
  unfold compile setUp
  cases check explorer.config request with
  | error error => rfl
  | ok accepted =>
      dsimp only
      rw [bind_assoc]
      refine bind_congr fun found => ?_
      cases found with
      | some result => rfl
      | none =>
          simp only [buildFresh, setUpFresh, bind_assoc]
          refine bind_congr fun scratch => ?_
          cases scratch with
          | error fault => rfl
          | ok directory =>
              simp only [buildIn, bind_assoc]
              refine bind_congr fun prepared => ?_
              cases prepared with
              | error error => simp only [pure_bind, bind_assoc, conclude]
              | ok job => simp only [pure_bind, bind_assoc, conclude]

/-! ## Courses of events -/

/-- Is something built in the course of events? -/
def Builds (events : List Host.Event) : Prop :=
  ∃ event ∈ events, event.action = .makeScratch

/-- Is something handed to a cache in the course of events? -/
def Stores (events : List Host.Event) : Prop :=
  ∃ event ∈ events, event.action.isStoring = true

@[simp]
theorem not_builds_nil : ¬Builds [] := by
  simp [Builds]

@[simp]
theorem not_stores_nil : ¬Stores [] := by
  simp [Stores]

theorem builds_append_iff {earlier later : List Host.Event} :
    Builds (earlier ++ later) ↔ Builds earlier ∨ Builds later := by
  simp only [Builds, List.mem_append, or_and_right, exists_or]

theorem stores_append_iff {earlier later : List Host.Event} :
    Stores (earlier ++ later) ↔ Stores earlier ∨ Stores later := by
  simp only [Stores, List.mem_append, or_and_right, exists_or]

theorem not_stores_trace {World Outcome : Type} {program : Program Outcome}
    (storeless : program.Storeless) (host : Host World) (world : World) :
    ¬Stores (program.trace host world) := by
  rintro ⟨event, member, stores⟩
  rw [storeless.mem_trace host world event member] at stores
  exact Bool.false_ne_true stores

/-- A lookup makes no scratch directory. -/
theorem not_builds_lookup {World : Type} (host : Host World) (explorer : Explorer)
    (key : String) (world : World) : ¬Builds ((explorer.lookup key).trace host world) := by
  rintro ⟨event, member, makes⟩
  obtain ⟨path, reads⟩ := (lookup_reads explorer key).mem_trace host world event member
  rw [reads] at makes
  exact nomatch makes

/-! ## What a set-up asks for -/

/-- What is asked for in a set-up, in view of all its events: an entry of the cache
is read, a scratch directory is made, and what was made is filled. -/
inductive SetsUp (events : List Host.Event) : Host.Action → Prop where
  | looksUp (path : Path) : SetsUp events (.readContents path)
  | makesScratch : SetsUp events .makeScratch
  | fills {directory : Path} {action : Host.Action}
      (made : (⟨.makeScratch, .ok directory⟩ : Host.Event) ∈ events)
      (filling : Fills directory action) : SetsUp events action

theorem SetsUp.isExecute_eq_false {events : List Host.Event} {action : Host.Action}
    (setsUp : SetsUp events action) : action.isExecute = false := by
  cases setsUp with
  | looksUp path => rfl
  | makesScratch => rfl
  | fills made filling => cases filling <;> rfl

theorem SetsUp.isStoring_eq_false {events : List Host.Event} {action : Host.Action}
    (setsUp : SetsUp events action) : action.isStoring = false := by
  cases setsUp with
  | looksUp path => rfl
  | makesScratch => rfl
  | fills made filling => cases filling <;> rfl

theorem SetsUp.mono {fewer events : List Host.Event} {action : Host.Action}
    (setsUp : SetsUp fewer action) (among : ∀ event ∈ fewer, event ∈ events) :
    SetsUp events action := by
  cases setsUp with
  | looksUp path => exact .looksUp path
  | makesScratch => exact .makesScratch
  | fills made filling => exact .fills (among _ made) filling

variable {World : Type}

theorem setsUp_setUpFresh (host : Host World) {explorer : Explorer} {accepted : Accepted}
    {request : Request} (checked : check explorer.config request = .ok accepted)
    (userOptions : List String) (key : String) (world : World) :
    let events := (explorer.setUpFresh accepted request userOptions key).trace host world
    ∀ event ∈ events, SetsUp events event.action := by
  unfold setUpFresh
  rw [Program.trace_bind]
  cases scratch : (Program.makeScratch.run host world).1 with
  | error fault =>
      intro events event member
      rcases List.mem_cons.mp member with rfl | later
      · exact .makesScratch
      · exact nomatch later
  | ok directory =>
      intro events event member
      have made : (⟨.makeScratch, .ok directory⟩ : Host.Event) ∈ events := by
        rw [← scratch]
        exact List.mem_cons_self
      rcases List.mem_cons.mp member with rfl | later
      · exact .makesScratch
      · refine .fills made (Program.Only.mem_trace ?_ host _ event later)
        refine Program.Only.bind (prepare_fills checked _ _) fun prepared => ?_
        cases prepared with
        | ok job => exact Program.only_pure _ _
        | error error =>
            exact Program.Only.bind (dispose_fills _ _) fun _ => Program.only_pure _ _

/-- Nothing is asked for in a set-up but what belongs to it. -/
theorem setsUp_setUp (host : Host World) (explorer : Explorer) (request : Request)
    (world : World) :
    let events := (explorer.setUp request).trace host world
    ∀ event ∈ events, SetsUp events event.action := by
  unfold setUp
  cases checked : check explorer.config request with
  | error error => exact fun _ impossible => nomatch impossible
  | ok accepted =>
      dsimp only
      generalize Guard.allowedOptions explorer.config.settings.forbiddenFlags request.options =
        userOptions
      generalize cacheKey accepted.info request userOptions = key
      rw [Program.trace_bind]
      intro event member
      rcases List.mem_append.mp member with looked | later
      · obtain ⟨path, isRead⟩ := (lookup_reads explorer key).mem_trace host world event looked
        rw [isRead]
        exact .looksUp path
      · cases found : ((explorer.lookup key).run host world).1 with
        | some stored =>
            rw [found] at later
            exact nomatch later
        | none =>
            rw [found] at later
            exact (setsUp_setUpFresh host checked userOptions key _ event later).mono
              fun event member => List.mem_append_right _ member

theorem invocations_setUp (host : Host World) (explorer : Explorer) (request : Request)
    (world : World) : (explorer.setUp request).invocations host world = [] := by
  refine Program.invocations_eq_nil_of_trace fun event member => ?_
  exact (setsUp_setUp host explorer request world event member).isExecute_eq_false

theorem not_stores_setUp (host : Host World) (explorer : Explorer) (request : Request)
    (world : World) : ¬Stores ((explorer.setUp request).trace host world) := by
  rintro ⟨event, member, stores⟩
  rw [(setsUp_setUp host explorer request world event member).isStoring_eq_false] at stores
  exact Bool.false_ne_true stores

/-! ## How a set-up ends -/

/-- How a set-up can end after some events.  Where there was something to be served,
no scratch directory was made; where a job is ready, it is one for the request. -/
inductive Ends (explorer : Explorer) (request : Request) (events : List Host.Event) :
    Setup → Prop where
  | refused (error : SetupError) : Ends explorer request events (.refused error)
  | served {result : Result} (notBuilt : ¬Builds events) :
      Ends explorer request events (.served result)
  | ready {accepted : Accepted} {key : String} {directory : Path} {job : Job}
      (built : Builds events) (isRequest : job.request = request) :
      Ends explorer request events (.ready accepted key directory job)

theorem Ends.append {explorer : Explorer} {request : Request} {earlier later : List Host.Event}
    {setup : Setup} (ends : Ends explorer request later setup) (notBuilt : ¬Builds earlier) :
    Ends explorer request (earlier ++ later) setup := by
  cases ends with
  | refused error => exact .refused error
  | served notBuiltLater =>
      exact .served fun built => (builds_append_iff.mp built).elim notBuilt notBuiltLater
  | ready built isRequest => exact .ready (builds_append_iff.mpr (.inr built)) isRequest

/-- The job that is made of a request is one for this request. -/
theorem prepare_always_job (explorer : Explorer) (accepted : Accepted) (request : Request)
    (userOptions : List String) (directory : Path) :
    (explorer.prepare accepted request userOptions directory).Always fun prepared =>
      ∀ job, prepared = .ok job → job.request = request := by
  rw [prepare_eq_layOut]
  refine Always.bind (Program.always_true _) fun laidOut _ => ?_
  cases laidOut with
  | error error => exact Program.always_pure_iff.mpr fun _ impossible => nomatch impossible
  | ok stepDirectory =>
      refine Program.always_pure_iff.mpr fun job isJob => ?_
      cases isJob
      rfl

theorem ends_setUpFresh (host : Host World) (explorer : Explorer) (accepted : Accepted)
    (request : Request) (userOptions : List String) (key : String) (world : World) :
    let fresh := explorer.setUpFresh accepted request userOptions key
    Ends explorer request (fresh.trace host world) (fresh.run host world).1 := by
  intro fresh
  have built : Builds (fresh.trace host world) :=
    ⟨⟨.makeScratch, (host .makeScratch world).1⟩, List.mem_cons_self, rfl⟩
  have always : fresh.Always (Ends explorer request (fresh.trace host world)) := by
    refine Always.bind (Program.always_true _) fun scratch _ => ?_
    cases scratch with
    | error fault => exact .refused _
    | ok directory =>
        refine Always.bind (prepare_always_job _ _ _ _ _) fun prepared isJob => ?_
        cases prepared with
        | ok job => exact .ready built (isJob job rfl)
        | error error => exact Always.bind (Program.always_true _) fun _ _ => .refused _
  exact always.run host world

theorem ends_setUp (host : Host World) (explorer : Explorer) (request : Request)
    (world : World) :
    Ends explorer request ((explorer.setUp request).trace host world)
      ((explorer.setUp request).run host world).1 := by
  unfold setUp
  cases check explorer.config request with
  | error error => exact .refused error
  | ok accepted =>
      dsimp only
      generalize Guard.allowedOptions explorer.config.settings.forbiddenFlags request.options =
        userOptions
      generalize cacheKey accepted.info request userOptions = key
      rw [Program.trace_bind, Program.run_bind]
      refine Ends.append ?_ (not_builds_lookup host explorer key world)
      cases ((explorer.lookup key).run host world).1 with
      | some stored => exact .served not_builds_nil
      | none => exact ends_setUpFresh host explorer accepted request userOptions key _

/-! ## Errors -/

/-- A request ends in an error exactly if its set-up is refused. -/
theorem compile_eq_error_iff (host : Host World) (explorer : Explorer) (request : Request)
    (world : World) (error : SetupError) :
    ((explorer.compile request).run host world).1 = .error error ↔
      ((explorer.setUp request).run host world).1 = .refused error := by
  rw [compile_eq_setUp, Program.run_bind]
  cases ((explorer.setUp request).run host world).1 with
  | refused other => simp [conclude]
  | served result => simp [conclude]
  | ready accepted key directory job =>
      simp only [conclude, Program.run_bind, Program.run_pure, reduceCtorEq]

/-- A request that ends in an error has run no tool and handed nothing to a cache.  All
that it has done belongs to its set-up: what it has written and made lies in a scratch
directory of its own.  So once a tool was run, there is a result. -/
theorem errors_have_no_effects (host : Host World) (explorer : Explorer) (request : Request)
    (world : World) :
    let events := (explorer.compile request).trace host world
    let invocations := (explorer.compile request).invocations host world
    let outcome := ((explorer.compile request).run host world).1
    (∀ error, outcome = .error error →
        invocations = [] ∧ ¬Stores events ∧ ∀ event ∈ events, SetsUp events event.action) ∧
      (invocations ≠ [] → ∃ result, outcome = .ok result) := by
  intro events invocations outcome
  have quiet : ∀ error, outcome = .error error →
      events = (explorer.setUp request).trace host world ∧ invocations = [] := by
    intro error isError
    have refused := (compile_eq_error_iff host explorer request world error).mp isError
    simp only [events, invocations, compile_eq_setUp, Program.trace_bind,
      Program.invocations_bind, invocations_setUp, refused, conclude, Program.trace_pure,
      Program.invocations_pure, List.append_nil, and_self]
  constructor
  · intro error isError
    obtain ⟨sameEvents, noInvocations⟩ := quiet error isError
    rw [sameEvents]
    exact ⟨noInvocations, not_stores_setUp host explorer request world,
      setsUp_setUp host explorer request world⟩
  · intro invoked
    cases isOutcome : outcome with
    | ok result => exact ⟨result, rfl⟩
    | error error => exact absurd (quiet error isOutcome).2 invoked

end Explorer

end BuildExplorer
