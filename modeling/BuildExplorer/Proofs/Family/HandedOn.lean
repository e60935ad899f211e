import BuildExplorer.Proofs.Explorer.Ready
import BuildExplorer.Proofs.Text.Runs

/-!
# Options that are handed on

A build system that compiles for cc65 gets the options of the user twice: each of them
is an argument of its own for the configure step, and all of them are one text in
`CFLAGS`, which the build cuts at blanks before it hands the words on to the compiler.

The guard judges options and not words.  An argument is never forbidden.  A word in
`CFLAGS` can be: the forbidden words that get through are exactly those which stand in
an allowed option behind something else.
-/

namespace BuildExplorer

open Text (words isBlank StandsBetween)
open Program (Always)
open scoped List

/-! ## Words of options -/

namespace Guard

/-- An option conceals a word that stands in it, but not at its start. -/
def Conceals (option : String) (word : List Char) : Prop :=
  ∃ before after, option.toList = before ++ word ++ after ∧ before ≠ [] ∧
    StandsBetween isBlank before word after

theorem mem_allowedOptions_iff {forbidden options : List String} {option : String} :
    option ∈ allowedOptions forbidden options ↔
      option ∈ options ∧ ∀ flag ∈ forbidden, isForbidden flag option = false := by
  simp [allowedOptions]

/-- What no flag forbids does not start with a flag. -/
theorem not_prefix_of_isForbidden_eq_false {flag option : String} (nonempty : flag ≠ "")
    (allowed : isForbidden flag option = false) : ¬flag.toList <+: option.toList := by
  intro starts
  have isEmpty : flag.isEmpty = false := by simpa using nonempty
  rw [isForbidden, isEmpty, List.isPrefixOf_iff_prefix.mpr starts] at allowed
  exact nomatch allowed

/-- The words of the options that are let through, one option behind the other. -/
def allowedWords (forbidden options : List String) : List (List Char) :=
  (allowedOptions forbidden options).flatMap fun option => words option.toList

/-- A word that starts with a forbidden flag gets through exactly if an allowed option
conceals it. -/
theorem mem_allowedWords_iff_conceals {forbidden options : List String} {flag : String}
    (isFlag : flag ∈ forbidden) (nonempty : flag ≠ "") {word : List Char}
    (starts : flag.toList <+: word) :
    word ∈ allowedWords forbidden options ↔
      ∃ option ∈ allowedOptions forbidden options, Conceals option word := by
  rw [allowedWords, List.mem_flatMap]
  constructor
  · rintro ⟨option, allowed, member⟩
    obtain ⟨earlier, others, isWords⟩ := List.append_of_mem member
    obtain ⟨before, after, isOption, stands, -, -⟩ := Text.runs_eq_append_cons_iff.mp isWords
    have notForbidden := (mem_allowedOptions_iff.mp allowed).2 flag isFlag
    refine ⟨option, allowed, before, after, isOption, ?_, stands⟩
    rintro rfl
    apply not_prefix_of_isForbidden_eq_false nonempty notForbidden
    rw [isOption]
    exact starts.trans (List.prefix_append word after)
  · rintro ⟨option, allowed, before, after, isOption, -, stands⟩
    refine ⟨option, allowed, ?_⟩
    rw [isOption, Text.words_eq_runs, stands.runs_eq]
    simp

end Guard

/-! ## What a build system is told -/

namespace Family

/-- The words of the flags are those of the compiler's own options and those of the
options of the user. -/
theorem words_cc65Flags (job : Job) :
    words (cc65Flags job).toList =
      words job.info.options.toList ++ job.userOptions.flatMap fun option =>
        words option.toList := by
  have blank : isBlank ' ' = true := rfl
  calc
    words (cc65Flags job).toList =
        words (job.info.options.toList ++ ' ' ::
          [' '].intercalate (job.userOptions.map String.toList)) := by
      simp [cc65Flags, Text.words_trim]
    _ = words job.info.options.toList ++
          words ([' '].intercalate (job.userOptions.map String.toList)) :=
      Text.runs_append_cons blank _ _
    _ = words job.info.options.toList ++
          job.userOptions.flatMap fun option => words option.toList := by
      rw [Text.words_eq_runs ([' '].intercalate _), Text.runs_intercalate_eq_flatMap blank,
        List.flatMap_map]
      rfl

theorem toolVariables_always_named (log : Option Path) (installation : Installation)
    (tools : List (String × String)) :
    (toolVariables log installation tools).Always fun found =>
      ∀ pair ∈ found, pair.1 ∈ tools.map Prod.fst := by
  induction tools with
  | nil =>
      apply Program.always_pure_iff.mpr
      exact fun _ impossible => nomatch impossible
  | cons tool rest inductionHypothesis =>
      refine Always.bind (Program.always_true _) fun found _ => ?_
      refine Always.bind inductionHypothesis fun others named => ?_
      apply Program.always_pure_iff.mpr
      intro pair member
      rcases List.mem_append.mp member with own | other
      · obtain ⟨path, -, rfl⟩ := List.mem_map.mp own
        exact List.mem_cons_self
      · exact List.mem_cons_of_mem _ (named pair other)

/-- The flags are exported once. -/
def ExportsFlags (job : Job) (environment : List (String × String)) : Prop :=
  ∀ flags, ("CFLAGS", flags) ∈ environment ↔ flags = cc65Flags job

theorem environment_cc65_always_exportsFlags (job : Job) :
    (environment .cc65 job).Always (ExportsFlags job) := by
  have own : ExportsFlags job [("CC", job.info.exe.text), ("CFLAGS", cc65Flags job)] := by
    intro flags
    simp
  unfold environment
  dsimp only
  split
  · exact Program.always_pure_iff.mpr own
  · refine Always.bind (toolVariables_always_named _ _ _) fun found named => ?_
    apply Program.always_pure_iff.mpr
    intro flags
    have notTool : ("CFLAGS", flags) ∉ found := by
      intro member
      have isTool := named _ member
      simp [cc65Tools] at isTool
    rw [List.mem_append, or_iff_left notTool]
    exact own flags

end Family

namespace Explorer

/-- The steps of a build system that compiles for cc65: both know the flags, and the
first one has the options of the user as its arguments. -/
theorem steps_cc65_always (config : Config) {job : Job} (isCMake : job.request.build = .cmake) :
    (steps config .cc65 job).Always fun chosen =>
      ∃ environment, Family.ExportsFlags job environment ∧ chosen = [
        ⟨"cmake", job.call job.stepDirectory config.settings.cmake
          (job.userOptions ++ [job.directory.text]) environment⟩,
        ⟨"build", job.call job.stepDirectory config.settings.cmake ["--build", "."]
          environment⟩] := by
  unfold steps
  rw [isCMake]
  refine Always.bind (Family.environment_cc65_always_exportsFlags job) fun environment exports => ?_
  exact Program.always_pure_iff.mpr ⟨environment, exports, rfl⟩

theorem environment_of_mem_behind {family : Family} {job : Job} (isCc65 : family = .cc65)
    {call : Tool.Call}
    (member : call ∈ (disassemblerCall job).toList ++ (macroExpansionCall family job).toList) :
    call.environment = [] := by
  subst isCc65
  have noExpansion : macroExpansionCall .cc65 job = none := rfl
  rw [noExpansion, Option.toList_none, List.append_nil, Option.mem_toList, disassemblerCall]
    at member
  split at member
  · obtain ⟨tool, -, rfl⟩ := Option.map_eq_some_iff.mp member
    rfl
  · exact nomatch member

variable {World : Type}

/-- What the tools of a build system get that compiles for cc65.  The first tool that is
run gets the allowed options as its arguments.  Wherever `CFLAGS` is exported, its words
are those of the compiler's own options and of the allowed ones. -/
theorem calls_build_cc65 (host : Host World) (config : Config) (job : Job)
    (isCMake : job.request.build = .cmake) (world : World) :
    let calls := ((build config .cc65 job).invocations host world).map (·.call)
    (∃ configure ∈ calls.head?, configure.args = job.userOptions ++ [job.directory.text] ∧
        ("CFLAGS", Family.cc65Flags job) ∈ configure.environment) ∧
      ∀ call ∈ calls, ∀ flags, ("CFLAGS", flags) ∈ call.environment →
        flags = Family.cc65Flags job := by
  obtain ⟨count, behind, positive, called, isBehind⟩ := calls_build host config .cc65 job world
  obtain ⟨environment, exports, isSteps⟩ := (steps_cc65_always config isCMake).run host world
  obtain ⟨count, rfl⟩ := Nat.exists_eq_add_one_of_ne_zero (Nat.pos_iff_ne_zero.mp positive)
  intro calls
  rw [isSteps] at called
  have isCalls : calls = _ := called
  constructor
  · refine ⟨job.call job.stepDirectory config.settings.cmake
      (job.userOptions ++ [job.directory.text]) environment, ?_, rfl, (exports _).mpr rfl⟩
    rw [isCalls]
    exact rfl
  · intro call member flags exported
    rw [isCalls] at member
    rcases List.mem_append.mp member with ofStep | ofBehind
    · obtain ⟨step, isStep, rfl⟩ := List.mem_map.mp ofStep
      have known := List.mem_of_mem_take isStep
      simp only [List.mem_cons, List.not_mem_nil, or_false] at known
      rcases known with rfl | rfl <;> exact (exports flags).mp exported
    · rw [environment_of_mem_behind rfl (isBehind.mem ofBehind)] at exported
      exact nomatch exported

/-- What reaches a build system that compiles for cc65, in every run of a request.  The
configure step gets exactly the allowed options, none of which starts with a forbidden
flag.  `CFLAGS` holds the words of the compiler's own options and of the allowed options,
and a word among the latter starts with a forbidden flag exactly if an allowed option
conceals it. -/
theorem forbidden_word_is_handed_on_iff (host : Host World) {explorer : Explorer}
    {request : Request} {accepted : Accepted}
    (checked : check explorer.config request = .ok accepted)
    (isCc65 : accepted.family = .cc65) (isCMake : request.build = .cmake) (world : World) :
    let forbidden := explorer.config.settings.forbiddenFlags
    let allowed := Guard.allowedOptions forbidden request.options
    let calls := ((explorer.compile request).invocations host world).map (·.call)
    (∀ configure ∈ calls.head?, ∃ directory : Path,
        configure.args = allowed ++ [directory.text] ∧
        (∃ flags, ("CFLAGS", flags) ∈ configure.environment) ∧
        ∀ option ∈ allowed, ∀ flag ∈ forbidden, flag ≠ "" → ¬flag.toList <+: option.toList) ∧
      ∀ call ∈ calls, ∀ flags, ("CFLAGS", flags) ∈ call.environment →
        ∃ handedOn, words flags.toList = words accepted.info.options.toList ++ handedOn ∧
          ∀ flag ∈ forbidden, flag ≠ "" → ∀ word, flag.toList <+: word →
            (word ∈ handedOn ↔ ∃ option ∈ allowed, Guard.Conceals option word) := by
  intro forbidden allowed calls
  rcases invocations_compile host explorer request world with
    idle | ⟨found, key, job, readied, isReady, invoked⟩
  · have noCalls : calls = [] := by
      simp only [calls, idle, List.map_nil]
    rw [noCalls]
    constructor
    · exact fun _ impossible => nomatch impossible
    · exact fun _ impossible => nomatch impossible
  · have same : found = accepted := Except.ok.inj (isReady.checked.symm.trans checked)
    subst same
    obtain ⟨directory, stepDirectory, rfl⟩ := isReady.isJob
    rw [isCc65] at invoked
    obtain ⟨⟨first, isFirst, isArgs, exported⟩, onlyFlags⟩ :=
      calls_build_cc65 host explorer.config
        (explorer.job found request (userOptions explorer.config request) directory
          stepDirectory) isCMake readied
    rw [← invoked] at isFirst onlyFlags
    constructor
    · intro configure isConfigure
      have same : configure = first := Option.mem_unique isConfigure isFirst
      subst same
      refine ⟨directory, isArgs, ⟨_, exported⟩, ?_⟩
      intro option isAllowed flag isFlag nonempty
      exact Guard.not_prefix_of_isForbidden_eq_false nonempty
        ((Guard.mem_allowedOptions_iff.mp isAllowed).2 flag isFlag)
    · intro call member flags isExported
      rw [onlyFlags call member flags isExported]
      refine ⟨_, Family.words_cc65Flags _, ?_⟩
      intro flag isFlag nonempty word starts
      exact Guard.mem_allowedWords_iff_conceals isFlag nonempty starts

/-- The theorem at an option that conceals a forbidden word: the build system is told to
hand it on to the compiler. -/
theorem forbidden_word_is_handed_on_iff_search_directory :
    let explorer : Explorer :=
      { config := { compilers := [{ id := "cc", exe := ⟨"/cl65"⟩, family := "cc65" }] } }
    let request : Request :=
      { compiler := "cc", options := ["-O2 -B/tmp"], build := .cmake,
        files := [⟨targetsFileName, ""⟩] }
    ∃ accepted, check explorer.config request = .ok accepted ∧ accepted.family = .cc65 ∧
      request.build = .cmake ∧ "-B" ∈ explorer.config.settings.forbiddenFlags ∧
      ∃ call ∈ ((explorer.compile request).invocations workingHost ()).map (·.call),
        ∃ flags, ("CFLAGS", flags) ∈ call.environment ∧
          "-B/tmp".toList ∈ words flags.toList := by
  intro explorer request
  have isFlag : "-B" ∈ explorer.config.settings.forbiddenFlags := by decide
  obtain ⟨configure, isConfigure⟩ : ∃ configure, (((explorer.compile request).invocations
      workingHost ()).map (·.call)).head? = some configure := by
    apply Option.isSome_iff_exists.mp
    decide +kernel
  obtain ⟨atConfigure, atEach⟩ :=
    @forbidden_word_is_handed_on_iff Unit workingHost explorer request _ rfl rfl rfl ()
  obtain ⟨-, -, ⟨flags, exported⟩, -⟩ := atConfigure configure isConfigure
  have isCall := List.mem_of_head? isConfigure
  obtain ⟨handedOn, isWords, reaches⟩ := atEach configure isCall flags exported
  have conceals : Guard.Conceals "-O2 -B/tmp" "-B/tmp".toList := by
    refine ⟨"-O2 ".toList, [], rfl, List.cons_ne_nil _ _, ?_⟩
    constructor
    · exact List.cons_ne_nil _ _
    · simp [isBlank]
    · simp [isBlank]
    · simp
  have gotThrough : "-B/tmp".toList ∈ handedOn :=
    (reaches "-B" isFlag (by decide) _ ⟨"/tmp".toList, rfl⟩).mpr
      ⟨"-O2 -B/tmp", by decide +kernel, conceals⟩
  refine ⟨_, rfl, rfl, rfl, isFlag, configure, isCall, flags, exported, ?_⟩
  rw [isWords]
  exact List.mem_append_right _ gotThrough

end Explorer

end BuildExplorer
