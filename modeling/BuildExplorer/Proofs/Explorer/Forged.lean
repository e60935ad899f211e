import BuildExplorer.Proofs.Explorer.Shown

/-!
# Extra files that are shown

Where the tools leave all files as they are, each extra file that leads to a place that is
looked at is shown, if no later one leads there: as the listing, as the remarks or as an
artifact.  So a request is answered with nothing but what it brought along exactly if it
brought along files for these places.
-/

namespace BuildExplorer

open Program (Always Brings)
open Host (Location FileTree Machine ToolBehaviour bytesOf)

variable {Tools : Type}

namespace Explorer

/-! ## Tools that leave files alone -/

/-- Tools that leave all files as they are. -/
def IsStill (execute : ToolBehaviour Tools) : Prop :=
  ∀ call machine, (execute call machine).2.tree = machine.tree

theorem IsStill.isIdle {execute : ToolBehaviour Tools} (still : IsStill execute) :
    IsIdle execute := by
  intro call machine place entry isEntry _
  rwa [still call machine] at isEntry

section Keeping

variable {execute : ToolBehaviour Tools} {scratch : Path} {directory : Location}
  {files : List ExtraFile} {log : Option Path}

/-- A log that is elsewhere leaves a scratch directory as it was filled. -/
theorem Filled.append {machine : Machine Tools} (filled : Filled scratch directory files machine)
    {path : Path} (elsewhere : ¬FileTree.goal directory scratch <+: FileTree.goal directory path)
    {contents : Host.Bytes} {tree : FileTree}
    (appended : FileTree.appendContents machine.tree directory path contents = .ok tree) :
    Filled scratch directory files { machine with tree } where
  isNamed := filled.isNamed
  isDirectory := filled.isDirectory
  holds := filled.holds.update elsewhere appended
  leads := fun file member =>
    FileTree.resolve_of_directories (fun _ => FileTree.entry?_directory_of_updateFile appended)
      (filled.leads file member)

/-- What belongs to a build leaves the scratch directory as it was filled, if the tools do. -/
theorem Filled.of_continues (still : IsStill execute)
    (elsewhere : IsElsewhere log directory (FileTree.goal directory scratch))
    {machine after : Machine Tools} (continues : Continues execute log machine after)
    (filled : Filled scratch directory files machine) : Filled scratch directory files after := by
  cases continues with
  | runs call =>
      have sameTree := still call machine
      constructor
      case isNamed => exact filled.isNamed
      case isDirectory => exact filled.isDirectory
      case holds =>
          rw [sameTree]
          exact filled.holds
      case leads =>
          rw [sameTree]
          exact filled.leads
  | grows grows => exact filled.grow grows
  | logs isLog appended =>
      rw [filled.isDirectory] at appended
      exact filled.append (elsewhere _ isLog) appended

theorem Works.brings_filled {Outcome : Type} {program : Program Outcome}
    (works : program.Works log) (still : IsStill execute)
    (elsewhere : IsElsewhere log directory (FileTree.goal directory scratch)) :
    Brings (Machine.answer execute) (Filled scratch directory files) program
      fun _ => Filled scratch directory files :=
  Program.Only.brings works fun _ working _ filled =>
    Filled.of_continues still elsewhere (continues_answer execute working _) filled

/-! ## What is found -/

/-- The last file that leads to a place is found there. -/
theorem Filled.find {machine : Machine Tools} (filled : Filled scratch directory files machine)
    (allowed : ∀ file ∈ files, Guard.checkFileName file.name = .ok ()) {names : Location}
    {text : String} (speaks : names ≠ []) (isLast : lastContents files names = some text) :
    FileTree.find machine.tree machine.directory (scratch.join (Path.spoken names)) =
      .ok (FileTree.goal directory scratch ++ names, .file (bytesOf text) false) := by
  obtain ⟨file, member, rfl, -⟩ := exists_of_lastContents isLast
  have relative := Guard.relative_of_allowed (allowed file member)
  rw [filled.isDirectory]
  exact FileTree.find_eq_ok_iff.mpr
    ⟨FileTree.resolve_join_spoken filled.isNamed relative speaks (filled.leads file member),
      filled.holds.placed isLast⟩

variable (allowed : ∀ file ∈ files, Guard.checkFileName file.name = .ok ())

include allowed

theorem isFile_brings_true {path : Path} {names : Location} (speaks : names ≠ [])
    (isPath : path = scratch.join (Path.spoken names)) :
    Brings (Machine.answer execute) (Filled scratch directory files) (Program.isFile path)
      fun isThere machine =>
        (∀ text, lastContents files names = some text → isThere = true) ∧
          Filled scratch directory files machine := by
  refine fun machine filled => ⟨fun text isLast => ?_, filled⟩
  have found := filled.find allowed speaks isLast
  rw [← isPath] at found
  change FileTree.isFile machine.tree machine.directory path = true
  rw [FileTree.isFile, found]

theorem readContents_brings_ok {path : Path} {names : Location} (speaks : names ≠ [])
    (isPath : path = scratch.join (Path.spoken names)) :
    Brings (Machine.answer execute) (Filled scratch directory files) (Program.readContents path)
      fun outcome machine =>
        (∀ text, lastContents files names = some text → outcome = .ok (bytesOf text)) ∧
          Filled scratch directory files machine := by
  refine fun machine filled => ⟨fun text isLast => ?_, filled⟩
  have found := filled.find allowed speaks isLast
  rw [← isPath] at found
  change FileTree.readContents machine.tree machine.directory path = _
  rw [FileTree.readContents, found]
  rfl

theorem ofExisting?_brings_some (kind : Artifact.Kind) (displayName : Option String)
    {path : Path} {names : Location} (speaks : names ≠ [])
    (isPath : path = scratch.join (Path.spoken names)) :
    Brings (Machine.answer execute) (Filled scratch directory files)
      (Artifact.ofExisting? kind path displayName) fun found machine =>
        (∀ text, lastContents files names = some text →
          found = some (Artifact.ofContents kind path displayName (bytesOf text))) ∧
          Filled scratch directory files machine := by
  unfold Artifact.ofExisting?
  refine Brings.bind (isFile_brings_true allowed speaks isPath) fun isThere => ?_
  refine Brings.of_and fun isFound => ?_
  cases isThere with
  | false =>
      refine Brings.pure fun _ filled => ⟨fun text isLast => ?_, filled⟩
      cases isFound text isLast
  | true =>
      unfold Artifact.ofFile?
      refine Brings.bind (readContents_brings_ok allowed speaks isPath) fun outcome => ?_
      refine Brings.of_and fun isRead => ?_
      cases outcome with
      | error fault =>
          refine Brings.pure fun _ filled => ⟨fun text isLast => ?_, filled⟩
          cases isRead text isLast
      | ok contents =>
          refine Brings.pure fun _ filled => ⟨fun text isLast => ?_, filled⟩
          cases isRead text isLast
          rfl

theorem readRemarks_brings_all {path : Path} {names : Location} (speaks : names ≠ [])
    (isPath : path = scratch.join (Path.spoken names)) :
    Brings (Machine.answer execute) (Filled scratch directory files) (Family.readRemarks path)
      fun remarks machine =>
        (∀ text, lastContents files names = some text →
          remarks = Remark.ofStream Remark.body? text) ∧
          Filled scratch directory files machine := by
  unfold Family.readRemarks Program.readText
  rw [bind_assoc]
  refine Brings.bind (readContents_brings_ok allowed speaks isPath) fun outcome => ?_
  refine Brings.of_and fun isRead => ?_
  rw [pure_bind]
  cases outcome with
  | error fault =>
      refine Brings.pure fun _ filled => ⟨fun text isLast => ?_, filled⟩
      cases isRead text isLast
  | ok contents =>
      have isText : ∀ text, lastContents files names = some text →
          (Except.ok contents).bind Host.textOfBytes = .ok text := by
        intro text isLast
        cases isRead text isLast
        simp [Except.bind, Host.textOfBytes, bytesOf]
      generalize (Except.ok contents).bind Host.textOfBytes = read at isText
      cases read with
      | error fault =>
          refine Brings.pure fun _ filled => ⟨fun text isLast => ?_, filled⟩
          cases isText text isLast
      | ok read =>
          refine Brings.pure fun _ filled => ⟨fun text isLast => ?_, filled⟩
          cases isText text isLast
          rfl

end Keeping

/-- A name where the last step runs is spoken from the scratch directory on. -/
theorem stepPlace_join {scratch : Path} (isNamed : scratch.chars ≠ []) (build : BuildKind)
    {name : String} (whole : '/' ∉ name.toList) :
    (stepPlace scratch build).join name =
      scratch.join (Path.spoken (stepNames build ++ [name.toList])) := by
  cases build with
  | single => simp [stepPlace, stepNames, Path.spoken]
  | cmake =>
      have relative : name.toList.head? ≠ some '/' := fun isHead => whole (List.mem_of_head? isHead)
      have isStep : (scratch.join buildDirectoryName).front = scratch.front ++ "/build".toList := by
        rcases (scratch.join buildDirectoryName).chars_eq_front_or with ⟨-, isFront⟩ | ⟨ends, -⟩
        · rw [← isFront, Path.chars_join isNamed (by decide)]
          rfl
        · rw [Path.chars_join isNamed (by decide), List.getLast?_append] at ends
          cases ends
      have isSpoken : (Path.spoken (stepNames .cmake ++ [name.toList])).toList =
          "build/".toList ++ name.toList := by
        simp [Path.spoken, stepNames, buildDirectoryName]
      apply Path.ext_chars
      rw [stepPlace, Path.chars_join (Path.chars_join_ne_nil isNamed (by decide)) relative, isStep,
        Path.chars_join isNamed (by rw [isSpoken]; simp), isSpoken]
      simp

theorem outputNames_ne_nil (request : Request) : outputNames request ≠ [] :=
  List.append_ne_nil_of_right_ne_nil _ (List.cons_ne_nil _ _)

/-- The primary output is spoken from the scratch directory on. -/
theorem output_eq_spoken (explorer : Explorer) (accepted : Accepted) (options : List String)
    {scratch : Path} (isNamed : scratch.chars ≠ []) (request : Request) :
    (jobIn explorer accepted request options scratch).output =
      scratch.join (Path.spoken (outputNames request)) := by
  have whole : '/' ∉ request.outputName.toList := by
    unfold Request.outputName
    split <;> decide
  exact stepPlace_join isNamed request.build whole

/-! ## What a result shows -/

/-- A result shows the listings of a text and no others. -/
def ShowsListing (family : Family) (filters : Filters) (text : String) (result : Result) : Prop :=
  result.listing = (family.addAssembly text filters {}).listing ∧
    result.devices = (family.addAssembly text filters {}).devices

theorem showsListing_addAssembly (family : Family) (filters : Filters) (text : String)
    {before : Result} (noListing : before.listing = []) (noDevices : before.devices = none) :
    ShowsListing family filters text (family.addAssembly text filters before) := by
  unfold ShowsListing Family.addAssembly
  split
  · simp [Family.addBundle, Result.addListing, noListing]
  · simp [Result.addListing, noListing, noDevices]

/-- The files at the places that only one family looks at are among some artifacts: what a
compiler notes of its time, and a program, if the options of the compiler ask for it. -/
structure OwnAmong (family : Family) (job : Job) (files : List ExtraFile)
    (options : List String) (artifacts : List Artifact) : Prop where
  timeTrace : family = .clang → job.hasOption "-ftime-trace" = true → ∀ text,
    lastContents files (stepNames job.request.build ++ ["output.json".toList]) = some text →
      Artifact.ofContents .timeTrace (job.output.withExtension "json") none (bytesOf text) ∈
        artifacts
  program : family = .cc65 → job.request.filters.binary = true →
    options.contains "c64" = true → ∀ text,
      lastContents files (outputNames job.request) = some text →
        Artifact.ofContents .c64Program job.output (Family.programName job.output)
          (bytesOf text) ∈ artifacts

theorem OwnAmong.mono {family : Family} {job : Job} {files : List ExtraFile}
    {options : List String} {fewer more : List Artifact}
    (among : OwnAmong family job files options fewer) (subset : fewer ⊆ more) :
    OwnAmong family job files options more where
  timeTrace := fun isClang asked text isLast => subset (among.timeTrace isClang asked text isLast)
  program := fun isCc65 binary asked text isLast =>
    subset (among.program isCc65 binary asked text isLast)

/-- A result shows all files that lead to places that are looked at: the listing of the last
one that leads to the primary output, unless that is a program, the remarks in the last one
that leads to theirs, each known artifact and those of the family. -/
structure ShowsAll (family : Family) (job : Job) (files : List ExtraFile) (result : Result) :
    Prop where
  listing : job.request.filters.binary = false → ∀ text,
    lastContents files (outputNames job.request) = some text →
      ShowsListing family job.request.filters text result
  remarks : family = .clang → job.request.optimizationRemarks = true → ∀ text,
    lastContents files remarksNames = some text →
      result.remarks = some (Remark.ofStream Remark.body? text)
  known : ∀ named ∈ Artifact.knownNames, ∀ text,
    lastContents files (stepNames job.request.build ++ [named.1.toList]) = some text →
      Artifact.ofContents named.2 (job.stepDirectory.join named.1) none (bytesOf text) ∈
        result.artifacts
  own : OwnAmong family job files result.options result.artifacts

/-! ## What is collected -/

section Collecting

variable {execute : ToolBehaviour Tools} {explorer : Explorer} {accepted : Accepted}
  {request : Request} {options : List String} {scratch : Path} {directory : Location}
  {files : List ExtraFile} (still : IsStill execute) (isNamed : scratch.chars ≠ [])
  (allowed : ∀ file ∈ files, Guard.checkFileName file.name = .ok ())
  (elsewhere : IsElsewhere explorer.auditLog directory (FileTree.goal directory scratch))

include still isNamed allowed elsewhere

theorem addOutput_brings_listing (family : Family) {before : Result}
    (noListing : before.listing = []) (noDevices : before.devices = none) :
    Brings (Machine.answer execute) (Filled scratch directory files)
      (addOutput family (jobIn explorer accepted request options scratch) before)
      fun listed machine =>
        (request.filters.binary = false → ∀ text,
          lastContents files (outputNames request) = some text →
            ShowsListing family request.filters text listed) ∧
          Filled scratch directory files machine := by
  have works := addOutput_works explorer.auditLog family
    (jobIn explorer accepted request options scratch) before
  have isPath := output_eq_spoken explorer accepted options isNamed request
  cases binary : request.filters.binary with
  | true =>
      exact (Works.brings_filled works still elsewhere).weaken
        fun _ _ filled => ⟨fun impossible => (nomatch impossible), filled⟩
  | false =>
      have speaks := outputNames_ne_nil request
      unfold addOutput
      refine Brings.bind (isFile_brings_true allowed speaks isPath) fun isThere => ?_
      refine Brings.of_and fun isFound => ?_
      cases isThere with
      | false =>
          refine Brings.pure fun _ filled => ⟨fun _ text isLast => ?_, filled⟩
          cases isFound text isLast
      | true =>
          have isBinary :
              ¬(jobIn explorer accepted request options scratch).request.filters.binary = true :=
            Bool.eq_false_iff.mp binary
          rw [if_pos rfl, if_neg isBinary, readListing]
          refine Brings.bind (readContents_brings_ok allowed speaks isPath) fun outcome => ?_
          refine Brings.of_and fun isRead => ?_
          cases outcome with
          | error fault =>
              refine Brings.pure fun _ filled => ⟨fun _ text isLast => ?_, filled⟩
              cases isRead text isLast
          | ok contents =>
              refine Brings.pure fun _ filled => ⟨fun _ text isLast => ?_, filled⟩
              cases isRead text isLast
              simp only [bytesOf, Text.Utf8.decodeLossy_encode, String.ofList_toList]
              exact showsListing_addAssembly _ _ _ noListing noDevices

theorem addDerived_brings_remarks (family : Family) (before : Result) :
    Brings (Machine.answer execute) (Filled scratch directory files)
      (family.addDerived (jobIn explorer accepted request options scratch) before)
      fun derived machine =>
        ((derived.listing = before.listing ∧ derived.devices = before.devices) ∧
          (family = .clang → request.optimizationRemarks = true → ∀ text,
            lastContents files remarksNames = some text →
              derived.remarks = some (Remark.ofStream Remark.body? text))) ∧
          Filled scratch directory files machine := by
  cases family with
  | standard | cc65 =>
      exact Brings.pure fun _ filled =>
        ⟨⟨⟨rfl, rfl⟩, fun impossible => (nomatch impossible)⟩, filled⟩
  | clang =>
      have whole : '/' ∉ "output.opt.yaml".toList := by decide
      have isPath : (jobIn explorer accepted request options scratch).remarksPath =
          scratch.join (Path.spoken remarksNames) :=
        stepPlace_join isNamed .single whole
      unfold Family.addDerived
      dsimp only
      split
      · refine Brings.bind
          (readRemarks_brings_all allowed (List.cons_ne_nil _ _) isPath) fun remarks => ?_
        refine Brings.of_and fun isRead => ?_
        refine Brings.pure fun _ filled => ⟨⟨⟨rfl, rfl⟩, fun _ _ text isLast => ?_⟩, filled⟩
        exact congrArg some (isRead text isLast)
      · rename_i notAsked
        exact Brings.pure fun _ filled =>
          ⟨⟨⟨rfl, rfl⟩, fun _ asked => absurd asked notAsked⟩, filled⟩
  | rustc =>
      unfold Family.addDerived
      dsimp only
      split
      · refine Brings.bind (Works.brings_filled (Family.expandMacros_works _ _ _) still elsewhere)
          fun _ => ?_
        exact Brings.pure fun _ filled =>
          ⟨⟨⟨rfl, rfl⟩, fun impossible => (nomatch impossible)⟩, filled⟩
      · exact Brings.pure fun _ filled =>
          ⟨⟨⟨rfl, rfl⟩, fun impossible => (nomatch impossible)⟩, filled⟩

omit still elsewhere in
theorem probe_brings_all {names : List (String × Artifact.Kind)}
    (whole : ∀ named ∈ names, '/' ∉ named.1.toList) :
    Brings (Machine.answer execute) (Filled scratch directory files)
      (Artifact.probe (stepPlace scratch request.build) names) fun found machine =>
        (∀ named ∈ names, ∀ text,
          lastContents files (stepNames request.build ++ [named.1.toList]) = some text →
            Artifact.ofContents named.2 ((stepPlace scratch request.build).join named.1) none
              (bytesOf text) ∈ found) ∧
          Filled scratch directory files machine := by
  induction names with
  | nil => exact Brings.pure fun _ filled => ⟨List.forall_mem_nil _, filled⟩
  | cons named rest inductionHypothesis =>
      obtain ⟨isWhole, restWhole⟩ := List.forall_mem_cons.mp whole
      have isPath := stepPlace_join isNamed request.build isWhole
      have speaks : stepNames request.build ++ [named.1.toList] ≠ [] :=
        List.append_ne_nil_of_right_ne_nil _ (List.cons_ne_nil _ _)
      refine Brings.bind
        (ofExisting?_brings_some allowed named.2 none speaks isPath) fun found => ?_
      refine Brings.of_and fun isFound => ?_
      refine Brings.bind (inductionHypothesis restWhole) fun others => ?_
      refine Brings.of_and fun othersFound => ?_
      refine Brings.pure fun _ filled => ⟨?_, filled⟩
      refine List.forall_mem_cons.mpr ⟨?_, ?_⟩
      · intro text isLast
        rw [isFound text isLast]
        exact List.mem_append_left _ (List.mem_singleton_self _)
      · intro other member text isLast
        exact List.mem_append_right _ (othersFound other member text isLast)

omit still elsewhere in
theorem artifacts_brings_all (family : Family) (result : Result) :
    Brings (Machine.answer execute) (Filled scratch directory files)
      (family.artifacts (jobIn explorer accepted request options scratch) result)
      fun found _ =>
        OwnAmong family (jobIn explorer accepted request options scratch) files result.options
          found := by
  cases family with
  | standard | rustc =>
      exact Brings.pure fun _ _ => ⟨fun impossible => (nomatch impossible), nofun⟩
  | cc65 =>
      have isPath := output_eq_spoken explorer accepted options isNamed request
      unfold Family.artifacts
      dsimp only
      split
      · refine Brings.bind
          (ofExisting?_brings_some allowed _ _ (outputNames_ne_nil request) isPath) fun found => ?_
        refine Brings.of_and fun isFound => ?_
        refine Brings.pure fun _ _ => ⟨fun impossible => (nomatch impossible), ?_⟩
        intro _ _ _ text isLast
        exact Option.mem_toList.mpr (isFound text isLast)
      · rename_i notAsked
        refine Brings.pure fun _ _ => ⟨fun impossible => (nomatch impossible), ?_⟩
        intro _ binary asked
        exact absurd (Bool.and_eq_true_iff.mpr ⟨binary, asked⟩) notAsked
  | clang =>
      have isPath : (jobIn explorer accepted request options scratch).output.withExtension "json" =
          scratch.join (Path.spoken (stepNames request.build ++ ["output.json".toList])) :=
        (output_withExtension isNamed).trans (stepPlace_join isNamed request.build (by decide))
      have speaks : stepNames request.build ++ ["output.json".toList] ≠ [] :=
        List.append_ne_nil_of_right_ne_nil _ (List.cons_ne_nil _ _)
      unfold Family.artifacts
      dsimp only
      split
      · refine Brings.bind (ofExisting?_brings_some allowed _ _ speaks isPath) fun found => ?_
        refine Brings.of_and fun isFound => ?_
        refine Brings.pure fun _ _ => ⟨?_, nofun⟩
        intro _ _ text isLast
        exact Option.mem_toList.mpr (isFound text isLast)
      · rename_i notAsked
        exact Brings.pure fun _ _ => ⟨fun _ asked => absurd asked notAsked, nofun⟩

theorem collect_brings_all (family : Family) {before : Result}
    (noListing : before.listing = []) (noDevices : before.devices = none) :
    Brings (Machine.answer execute) (Filled scratch directory files)
      (collect family (jobIn explorer accepted request options scratch) before)
      fun result _ =>
        ShowsAll family (jobIn explorer accepted request options scratch) files result := by
  refine Brings.bind (addOutput_brings_listing still isNamed allowed elsewhere family noListing
    noDevices) fun listed => ?_
  refine Brings.of_and fun isListed => ?_
  refine Brings.bind (addDerived_brings_remarks still isNamed allowed elsewhere family listed)
    fun derived => ?_
  refine Brings.of_and fun isDerived => ?_
  obtain ⟨⟨sameListing, sameDevices⟩, isRemarked⟩ := isDerived
  refine Brings.bind (probe_brings_all isNamed allowed (by decide)) fun known => ?_
  refine Brings.of_and fun isKnown => ?_
  refine Brings.bind (artifacts_brings_all isNamed allowed family _) fun own => ?_
  refine Brings.pure fun _ isOwn => ⟨?_, isRemarked, ?_, ?_⟩
  · intro binary text isLast
    obtain ⟨isListing, isDevices⟩ := isListed binary text isLast
    exact ⟨sameListing.trans isListing, sameDevices.trans isDevices⟩
  · intro named member text isLast
    refine List.mem_append_left _ (List.mem_append_right _ ?_)
    exact isKnown named member text isLast
  · exact isOwn.mono fun _ => List.mem_append_right _

variable (accepted request options) in
/-- A build shows all files that lead to places that are looked at, if its tools leave them
alone. -/
theorem build_brings_all (family : Family) :
    Brings (Machine.answer execute) (Filled scratch directory files)
      (build explorer.config family (jobIn explorer accepted request options scratch))
      fun result _ =>
        ShowsAll family (jobIn explorer accepted request options scratch) files result := by
  have works := runSteps_works explorer.config family
    (jobIn explorer accepted request options scratch)
  rw [build_eq_runSteps]
  have runs : Brings (Machine.answer execute) (Filled scratch directory files)
      (runSteps explorer.config family (jobIn explorer accepted request options scratch))
      fun ran machine => (ran.listing = [] ∧ ran.devices = none) ∧
        Filled scratch directory files machine := by
    intro machine filled
    refine ⟨?_, Works.brings_filled works still elsewhere machine filled⟩
    obtain ⟨kept, recorded, -⟩ := exists_recordAll_runSteps (Machine.answer execute)
      explorer.config family (jobIn explorer accepted request options scratch) machine
    rw [recorded, Result.recordAll_eq]
    exact ⟨rfl, rfl⟩
  refine Brings.bind runs fun ran => ?_
  refine Brings.of_and fun isBlank => ?_
  exact collect_brings_all still isNamed allowed elsewhere family isBlank.1 isBlank.2

end Collecting

/-! ## What is shown of a request -/

theorem allowed_of_checkFiles {files : List ExtraFile} (checked : checkFiles files = .ok ()) :
    ∀ file ∈ files, Guard.checkFileName file.name = .ok () := by
  induction files with
  | nil => exact List.forall_mem_nil _
  | cons file rest inductionHypothesis =>
      unfold checkFiles at checked
      split at checked
      · cases checked
      · rename_i allowed
        exact List.forall_mem_cons.mpr ⟨allowed, inductionHypothesis checked⟩

theorem allowed_of_laidOut {config : Config} {request : Request} {accepted : Accepted}
    (checked : check config request = .ok accepted) :
    ∀ file ∈ laidOut accepted.language.sourceName request,
      Guard.checkFileName file.name = .ok () := by
  obtain ⟨allowed, filesAllowed⟩ := checkFileName_of_check checked
  exact List.forall_mem_cons.mpr ⟨allowed, allowed_of_checkFiles filesAllowed⟩

/-- What is laid out behind the source counts for more than the source. -/
theorem lastContents_laidOut_of_some {sourceName : String} {request : Request} {names : Location}
    {text : String} (isLast : lastContents request.files names = some text) :
    lastContents (laidOut sourceName request) names = some text := by
  rw [laidOut, lastContents_cons, isLast]
  rfl

theorem ShowsAll.of_laidOut {family : Family} {sourceName : String} {job : Job} {result : Result}
    (shows : ShowsAll family job (laidOut sourceName job.request) result) :
    ShowsAll family job job.request.files result where
  listing := fun binary text isLast =>
    shows.listing binary text (lastContents_laidOut_of_some isLast)
  remarks := fun isClang asked text isLast =>
    shows.remarks isClang asked text (lastContents_laidOut_of_some isLast)
  known := fun named member text isLast =>
    shows.known named member text (lastContents_laidOut_of_some isLast)
  own :=
    { timeTrace := fun isClang asked text isLast =>
        shows.own.timeTrace isClang asked text (lastContents_laidOut_of_some isLast)
      program := fun isCc65 binary asked text isLast =>
        shows.own.program isCc65 binary asked text (lastContents_laidOut_of_some isLast) }

/-- On a machine whose tools make and change no file, and whose log is not in the scratch
directory, a request for which tools are run comes to a result that shows nothing but extra
files: there is no listing, for the host or for devices, unless an extra file leads to the
primary output, no remarks unless one leads to the file of the remarks, and each artifact is
the last extra file that leads to one of the places that are looked at.  If the tools leave
all files as they are, such extra files are shown. -/
theorem idle_tools_show_extra_files {execute : ToolBehaviour Tools} (idle : IsIdle execute)
    {explorer : Explorer} {request : Request} {machine : Machine Tools}
    (grounded : machine.tree.Grounded)
    (elsewhere : ∀ place, CanBeScratch machine place →
      IsElsewhere explorer.auditLog machine.directory place)
    (ran : (explorer.compile request).invocations (Machine.answer execute) machine ≠ []) :
    ∃ result scratch,
      ((explorer.compile request).run (Machine.answer execute) machine).1 = .ok result ∧
      CanBeScratch machine (FileTree.goal machine.directory scratch) ∧
      ShowsAtMost scratch request request.files result ∧
      (IsStill execute → ∀ accepted, check explorer.config request = .ok accepted →
        let options := userOptions explorer.config request
        let job := jobIn explorer accepted request options scratch
        ShowsAll accepted.family job request.files result) := by
  have laysOut := setUp_brings execute explorer request grounded machine rfl
  rw [compile_eq_setUp, Program.invocations_bind, invocations_setUp, List.nil_append] at ran
  rw [compile_eq_setUp, Program.run_bind]
  generalize (explorer.setUp request).run (Machine.answer execute) machine = ended
    at laysOut ran ⊢
  rcases ended with ⟨setup, readied⟩
  cases setup with
  | refused error => exact absurd rfl ran
  | served stored => exact absurd rfl ran
  | ready accepted key scratch job =>
      obtain ⟨checked, rfl, isScratch, filled⟩ := laysOut accepted key scratch _ rfl
      have isElsewhere := elsewhere _ isScratch
      have atMost : FilledAtMost scratch machine.directory
          (laidOut accepted.language.sourceName request) readied :=
        ⟨filled.isDirectory, filled.holds.atMost⟩
      obtain ⟨shows, -⟩ := build_leaves accepted request (userOptions explorer.config request)
        idle filled.isNamed isElsewhere accepted.family readied atMost
      simp only [conclude, Program.run_bind, Program.run_pure]
      refine ⟨_, scratch, rfl, isScratch,
        shows.of_laidOut (language_mem_all_of_check checked).1, ?_⟩
      intro still other otherChecked
      obtain rfl := Except.ok.inj (checked.symm.trans otherChecked)
      have showsAll := build_brings_all accepted request (userOptions explorer.config request)
        still filled.isNamed (allowed_of_laidOut checked) isElsewhere accepted.family readied filled
      exact showsAll.of_laidOut

/-- The theorem at a request whose extra files lead to the primary output and to an artifact:
the tools have only greeted, and both files are shown as theirs. -/
theorem idle_tools_show_extra_files_forged :
    let explorer : Explorer := { config := { compilers := [plainCompiler] } }
    let request : Request :=
      { compiler := "cc", files := [⟨"output.s", "f:\n\tret\n"⟩, ⟨"./example.nes", "NES"⟩] }
    ∃ result,
      ((explorer.compile request).run (Machine.answer greetingTools) cacheMachine).1 = .ok result ∧
      result.listing.map (·.text) = ["f:", "\tret"] ∧
      ∃ artifact ∈ result.artifacts, artifact.kind = .nesImage ∧ artifact.content = "TkVT" := by
  intro explorer request
  have grounded : cacheMachine.tree.Grounded := FileTree.grounded_of_entries (by decide)
  have still : IsStill greetingTools := fun _ _ => rfl
  have noLog : ∀ place, CanBeScratch cacheMachine place →
      IsElsewhere explorer.auditLog cacheMachine.directory place :=
    fun _ _ _ impossible => nomatch impossible
  have ran :
      (explorer.compile request).invocations (Machine.answer greetingTools) cacheMachine ≠ [] := by
    decide +kernel
  obtain ⟨result, scratch, isResult, -, -, shows⟩ :=
    idle_tools_show_extra_files still.isIdle grounded noLog ran
  have showsAll := shows still ⟨plainCompiler, .standard, .cpp⟩ rfl
  have isOutput : lastContents request.files ["output.s".toList] = some "f:\n\tret\n" := by
    decide +kernel
  have isImage : lastContents request.files ["example.nes".toList] = some "NES" := by
    decide +kernel
  obtain ⟨isListing, -⟩ := showsAll.listing rfl _ isOutput
  have isArtifact := showsAll.known ("example.nes", .nesImage) (by decide) _ isImage
  have isContent : String.ofList (Text.Base64.encode (bytesOf "NES")) = "TkVT" := by
    decide +kernel
  refine ⟨result, isResult, ?_, _, isArtifact, rfl, isContent⟩
  have isShown :
      (Family.standard.addAssembly "f:\n\tret\n" request.filters {}).listing.map (·.text) =
        ["f:", "\tret"] := by
    decide +kernel
  rw [isListing]
  exact isShown

end Explorer

end BuildExplorer
