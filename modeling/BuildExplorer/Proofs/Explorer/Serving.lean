import BuildExplorer.Config.Toml
import BuildExplorer.Proofs.Explorer.Key
import BuildExplorer.Proofs.Explorer.Plan

/-!
# What a stored result stands for

A result is served to every request with the same key, under whatever
configuration.  A key holds the request and of the configuration no more than the
program of the compiler and its options.  The rest of what a configuration adds to
a plan is listed here: a plan is a function of the hashed record and of that rest.
So requests with one key have one plan where the rest is the same, and each part
of the rest can make the difference where it is not.
-/

namespace BuildExplorer.Explorer

/-! ## What is hashed -/

/-- The options of a user that a configuration lets through. -/
def userOptions (config : Config) (request : Request) : List String :=
  Guard.allowedOptions config.settings.forbiddenFlags request.options

/-- The record that is hashed for a request. -/
def hashed (config : Config) (accepted : Accepted) (request : Request) : KeyInput :=
  .ofRequest accepted.info request (userOptions config request)

/-- The key of a request. -/
def keyOf (config : Config) (accepted : Accepted) (request : Request) : String :=
  cacheKey accepted.info request (userOptions config request)

theorem keyOf_eq_hex (config : Config) (accepted : Accepted) (request : Request) :
    keyOf config accepted request =
      Digest.Sha256.hex (Text.Utf8.encode (hashed config accepted request).text) := by
  unfold keyOf cacheKey hashed
  rfl

/-- Requests with the same record have the same key. -/
theorem keyOf_eq_of_hashed_eq {first second : Config} {firstAccepted secondAccepted : Accepted}
    {firstRequest secondRequest : Request}
    (sameRecord : hashed first firstAccepted firstRequest =
      hashed second secondAccepted secondRequest) :
    keyOf first firstAccepted firstRequest = keyOf second secondAccepted secondRequest := by
  rw [keyOf_eq_hex, keyOf_eq_hex, sameRecord]

/-! ## What is not hashed -/

/-- What a configuration adds to the steps of one kind of build. -/
inductive Parts where
  /-- The options for the libraries: where headers are, and where the linker
  searches if there is something to link. -/
  | single (includeOptions libraryPathOptions : List String)
  /-- The build system. -/
  | cmake (program : Path)
  deriving DecidableEq, Repr

/-- What a configuration adds to a plan beyond what is hashed. -/
structure Unhashed where
  family : Family
  language : Language
  policy : FailurePolicy
  parts : Parts
  deriving DecidableEq, Repr

/-- What a configuration adds to the steps of a request. -/
def partsOf (config : Config) (info : CompilerInfo) (request : Request) : Parts :=
  match request.build with
  | .single =>
      let libraries := config.resolveLibraries request.libraries
      .single (Family.includeOptions info libraries)
        (if request.filters.binary then
          Family.libraryPathOptions info libraries config.settings.libDownloadPath
        else [])
  | .cmake => .cmake config.settings.cmake

/-- What a configuration adds to the plan of a request beyond what is hashed. -/
def unhashed (config : Config) (accepted : Accepted) (request : Request) : Unhashed where
  family := accepted.family
  language := accepted.language
  policy := policyOf accepted
  parts := partsOf config accepted.info request

/-! ## Jobs that are alike -/

/-- Jobs that differ in nothing but what tools may use up, and in parts of the
compiler and the request that no step is made from. -/
structure Alike (first second : Job) : Prop where
  exe : first.info.exe = second.info.exe
  options : first.info.options = second.info.options
  filters : first.request.filters = second.request.filters
  build : first.request.build = second.request.build
  remarks : first.request.optimizationRemarks = second.request.optimizationRemarks
  language : first.language = second.language
  directory : first.directory = second.directory
  stepDirectory : first.stepDirectory = second.stepDirectory
  input : first.input = second.input
  output : first.output = second.output
  userOptions : first.userOptions = second.userOptions
  auditLog : first.auditLog = second.auditLog

theorem Alike.extraOptions {first second : Job} (alike : Alike first second) (family : Family) :
    family.extraOptions first = family.extraOptions second := by
  cases family with
  | standard | cc65 | rustc => rfl
  | clang =>
      unfold Family.extraOptions Job.remarksPath
      rw [alike.remarks, alike.directory]

theorem Alike.environment {first second : Job} (alike : Alike first second) (family : Family) :
    family.environment first = family.environment second := by
  cases family with
  | rustc => rfl
  | standard | clang =>
      unfold Family.environment
      rw [alike.language, alike.exe]
  | cc65 =>
      unfold Family.environment Family.cc65Flags
      rw [alike.exe, alike.options, alike.userOptions, alike.auditLog]

theorem Alike.compilerOptions {firstConfig secondConfig : Config} {first second : Job}
    (alike : Alike first second) (family : Family)
    (sameHeaders :
      Family.includeOptions first.info (firstConfig.resolveLibraries first.request.libraries) =
        Family.includeOptions second.info
          (secondConfig.resolveLibraries second.request.libraries))
    (sameSearch : first.request.filters.binary = true →
      Family.libraryPathOptions first.info
          (firstConfig.resolveLibraries first.request.libraries)
          firstConfig.settings.libDownloadPath =
        Family.libraryPathOptions second.info
          (secondConfig.resolveLibraries second.request.libraries)
          secondConfig.settings.libDownloadPath) :
    compilerOptions firstConfig family first = compilerOptions secondConfig family second := by
  unfold Explorer.compilerOptions CompilerInfo.optionArgs
  dsimp only
  rw [alike.options, alike.extraOptions, sameHeaders, alike.userOptions, alike.input,
    alike.output, ← alike.filters]
  by_cases binary : first.request.filters.binary = true
  · rw [if_pos binary, if_pos binary, sameSearch binary]
  · rw [if_neg binary, if_neg binary]

/-- Alike jobs have one plan where the configurations add the same to it. -/
theorem Alike.ofSteps_steps {firstConfig secondConfig : Config} {first second : Job}
    (alike : Alike first second) (family : Family) (policy : FailurePolicy)
    (sameParts : partsOf firstConfig first.info first.request =
      partsOf secondConfig second.info second.request) :
    (Plan.ofSteps policy <$> steps firstConfig family first) =
      Plan.ofSteps policy <$> steps secondConfig family second := by
  unfold partsOf at sameParts
  rw [← alike.build] at sameParts
  unfold steps
  rw [← alike.build]
  cases build : first.request.build with
  | single =>
      simp only [build, Parts.single.injEq] at sameParts
      obtain ⟨sameHeaders, sameSearch⟩ := sameParts
      have sameOptions := alike.compilerOptions family sameHeaders (by
        intro binary
        simpa [← alike.filters, binary] using sameSearch)
      simp only [map_pure, Plan.ofSteps, List.map_cons, List.map_nil, Tool.Call.errand, Job.call,
        sameOptions, alike.directory, alike.exe]
  | cmake =>
      simp only [build, Parts.cmake.injEq] at sameParts
      simp only [map_bind, map_pure, Plan.ofSteps, List.map_cons, List.map_nil,
        Tool.Call.errand, Job.call, alike.environment, alike.stepDirectory, alike.userOptions,
        alike.directory, sameParts]

/-! ## Requests with one key -/

/-- Requests with the same record become alike jobs where the language is the
same. -/
theorem alike_job {first second : Config} {firstAccepted secondAccepted : Accepted}
    {firstRequest secondRequest : Request}
    (sameRecord : hashed first firstAccepted firstRequest =
      hashed second secondAccepted secondRequest)
    (sameLanguage : firstAccepted.language = secondAccepted.language) (log : Option Path)
    (directory stepDirectory : Path) :
    Alike
      ({ config := first, auditLog := log : Explorer }.job firstAccepted firstRequest
        (userOptions first firstRequest) directory stepDirectory)
      ({ config := second, auditLog := log : Explorer }.job secondAccepted secondRequest
        (userOptions second secondRequest) directory stepDirectory) := by
  simp only [hashed, KeyInput.ofRequest, KeyInput.mk.injEq] at sameRecord
  obtain ⟨-, exe, options, userOptions, filters, -, -, -, build, remarks, -⟩ := sameRecord
  have output : firstRequest.outputName = secondRequest.outputName := by
    rw [Request.outputName, Request.outputName, build]
  constructor <;> simp only [job, sameLanguage, output] <;> first | rfl | assumption

/-- The plan of a request under a configuration, with a log and in a scratch
directory that are given. -/
def planned (config : Config) (log : Option Path) (request : Request) (directory : Path) :
    Program (Except SetupError Plan) :=
  match check config request with
  | .error error => return .error error
  | .ok accepted =>
      plan { config, auditLog := log } accepted request (userOptions config request) directory

/-- Requests with one key have one plan, in whatever scratch directory, if the hash
has not collided and the configurations agree on the rest that plans are made
from: the family and the language of the compiler, what happens behind a failed
step, and the options for libraries, or else the build system. -/
theorem planned_eq_of_keyOf_eq {first second : Config}
    {firstAccepted secondAccepted : Accepted} {firstRequest secondRequest : Request}
    (firstChecked : check first firstRequest = .ok firstAccepted)
    (secondChecked : check second secondRequest = .ok secondAccepted)
    (apart : (hashed first firstAccepted firstRequest).HashesApart
      (hashed second secondAccepted secondRequest))
    (sameKey : keyOf first firstAccepted firstRequest =
      keyOf second secondAccepted secondRequest)
    (sameRest : unhashed first firstAccepted firstRequest =
      unhashed second secondAccepted secondRequest)
    (log : Option Path) (directory : Path) :
    planned first log firstRequest directory = planned second log secondRequest directory := by
  have sameRecord : hashed first firstAccepted firstRequest =
      hashed second secondAccepted secondRequest := keyInput_eq_of_cacheKey_eq apart sameKey
  simp only [unhashed, Unhashed.mk.injEq] at sameRest
  obtain ⟨sameFamily, sameLanguage, samePolicy, sameParts⟩ := sameRest
  have sameLayout : layOut firstAccepted.language.sourceName firstRequest directory =
      layOut secondAccepted.language.sourceName secondRequest directory := by
    simp only [hashed, KeyInput.ofRequest, KeyInput.mk.injEq] at sameRecord
    obtain ⟨-, -, -, -, -, source, files, -, build, -, -⟩ := sameRecord
    rw [layOut, layOut, sameLanguage, source, files, build]
  simp only [planned, firstChecked, secondChecked, plan_eq_layOut]
  rw [sameLayout]
  refine bind_congr fun laidOut => ?_
  cases laidOut with
  | error error => rfl
  | ok stepDirectory =>
      have samePlan := (alike_job sameRecord sameLanguage log directory stepDirectory).ofSteps_steps
        firstAccepted.family (policyOf firstAccepted) sameParts
      have sameOutcome := congrArg
        (fun planning => (Except.ok <$> planning : Program (Except SetupError Plan))) samePlan
      rw [← samePolicy, ← sameFamily]
      simpa only [bind_pure_comp, Functor.map_map] using sameOutcome

/-- A host on which everything works and nothing is found. -/
def workingHost : Host Unit
  | .readContents _, world => (.error .notFound, world)
  | .writeContents _ _, world => (.ok (), world)
  | .appendContents _ _, world => (.ok (), world)
  | .createDirectories _, world => (.ok (), world)
  | .isFile _, world => (false, world)
  | .listDirectory _, world => (.ok [], world)
  | .makeScratch, world => (.ok ⟨"/w"⟩, world)
  | .removeScratch _, world => ((), world)
  | .makeTemporary _, world => (.ok ⟨"/t"⟩, world)
  | .moveFile _ _, world => (.ok (), world)
  | .eraseFile _, world => (.ok (), world)
  | .execute _, world => ({}, world)
  | .readInput, world => (.ok [], world)
  | .timeStamp, world => ("", world)

/-- Where requests with one key have one plan, compiling them without a cache goes by it,
whatever the host: the files are laid out alike, and the planned steps are what is handed to
tools first. -/
theorem compile_goesBy_plan_of_keyOf_eq {first second : Config}
    {firstAccepted secondAccepted : Accepted} {firstRequest secondRequest : Request}
    (firstChecked : check first firstRequest = .ok firstAccepted)
    (secondChecked : check second secondRequest = .ok secondAccepted)
    (apart : (hashed first firstAccepted firstRequest).HashesApart
      (hashed second secondAccepted secondRequest))
    (sameKey : keyOf first firstAccepted firstRequest =
      keyOf second secondAccepted secondRequest)
    (sameRest : unhashed first firstAccepted firstRequest =
      unhashed second secondAccepted secondRequest)
    (log : Option Path) :
    (∀ directory,
      planned first log firstRequest directory = planned second log secondRequest directory) ∧
    ∀ {World : Type} (host : Host World) (world : World),
      let planning := inScratch (planned first log firstRequest)
      GoesBy host world planning
        ({ config := first, auditLog := log : Explorer }.compile firstRequest) ∧
      GoesBy host world planning
        ({ config := second, auditLog := log : Explorer }.compile secondRequest) := by
  have samePlan := planned_eq_of_keyOf_eq firstChecked secondChecked apart sameKey sameRest log
  have goes : ∀ {config : Config} {accepted : Accepted} {request : Request},
      check config request = .ok accepted → ∀ {World : Type} (host : Host World) (world : World),
        GoesBy host world (inScratch (planned config log request))
          ({ config, auditLog := log : Explorer }.compile request) := by
    intro config accepted request checked World host world
    have isPlan : planned config log request =
        plan { config, auditLog := log } accepted request (userOptions config request) := by
      funext directory
      rw [planned, checked]
    rw [isPlan]
    exact compile_goesBy_plan rfl checked
  refine ⟨samePlan, fun host world => ⟨goes firstChecked host world, ?_⟩⟩
  rw [funext samePlan]
  exact goes secondChecked host world

/-- The theorem at two requests under two configurations that differ in what is
neither hashed nor planned: a name, a disassembler, a time, a forbidden flag that
one of the users gave.  On a host where everything works both ask the same of the compiler. -/
theorem compile_goesBy_plan_of_keyOf_eq_forbidden_flag :
    let info : CompilerInfo := { id := "cc", exe := ⟨"/cc"⟩ }
    let other := { info with name := "C", objdumper := some ⟨"/od"⟩, timeoutMs := some 5 }
    let first : Config := { compilers := [info] }
    let second : Config := { compilers := [other] }
    let firstRequest : Request := { compiler := "cc", options := ["-O2"] }
    let secondRequest : Request := { compiler := "cc", options := ["-O2", "-fplugin=x"] }
    let planning := inScratch (planned first none firstRequest)
    let errands (config : Config) (request : Request) :=
      ((({ config : Explorer }).compile request).invocations workingHost ()).map (·.call.errand)
    check first firstRequest = .ok ⟨info, .standard, .cpp⟩ ∧
      check second secondRequest = .ok ⟨other, .standard, .cpp⟩ ∧
      planned first none firstRequest ⟨"/w"⟩ = planned second none secondRequest ⟨"/w"⟩ ∧
      GoesBy workingHost () planning ({ config := second : Explorer }.compile secondRequest) ∧
      errands second secondRequest = errands first firstRequest ∧
      errands second secondRequest = [{
        command := ⟨"/cc"⟩
        args := ["-g", "-o", "/w/output.s", "-S", "-O2", "/w/example.cpp"]
        directory := some ⟨"/w"⟩
        environment := [] }] := by
  intro info other first second firstRequest secondRequest planning errands
  have firstChecked : check first firstRequest = .ok ⟨info, .standard, .cpp⟩ := rfl
  have secondChecked : check second secondRequest = .ok ⟨other, .standard, .cpp⟩ := rfl
  have sameRecord : hashed first ⟨info, .standard, .cpp⟩ firstRequest =
      hashed second ⟨other, .standard, .cpp⟩ secondRequest := by decide +kernel
  have apart : (hashed first ⟨info, .standard, .cpp⟩ firstRequest).HashesApart
      (hashed second ⟨other, .standard, .cpp⟩ secondRequest) := by
    rw [sameRecord]
    exact fun _ => rfl
  have sameRest : unhashed first ⟨info, .standard, .cpp⟩ firstRequest =
      unhashed second ⟨other, .standard, .cpp⟩ secondRequest := by decide +kernel
  obtain ⟨samePlan, goes⟩ := compile_goesBy_plan_of_keyOf_eq firstChecked secondChecked apart
    (keyOf_eq_of_hashed_eq sameRecord) sameRest none
  refine ⟨firstChecked, secondChecked, samePlan ⟨"/w"⟩, (goes workingHost ()).2, ?same, ?errand⟩
  case same => decide +kernel
  case errand => decide +kernel

/-! ## Requests that share a key only -/

/-- Two configurations, given by their texts, with one cache between them: they
accept a request under one key and do not plan it alike. -/
def ShareKeyOnly (firstText secondText : String) (request : Request) : Prop :=
  ∃ first second firstAccepted secondAccepted,
    Config.ofToml firstText = .ok first ∧ Config.ofToml secondText = .ok second ∧
    first.settings.cacheDir.isSome = true ∧
    first.settings.cacheDir = second.settings.cacheDir ∧
    check first request = .ok firstAccepted ∧ check second request = .ok secondAccepted ∧
    keyOf first firstAccepted request = keyOf second secondAccepted request ∧
    ∃ directory, planned first none request directory ≠ planned second none request directory

/-- The plan of a request on a host where everything works. -/
def workingPlan? (config : Config) (request : Request) : Option Plan :=
  ((planned config none request ⟨"/w"⟩).run workingHost ()).1.toOption

theorem planned_ne_of_workingPlan?_ne {first second : Config} {request : Request}
    (differ : workingPlan? first request ≠ workingPlan? second request) :
    planned first none request ⟨"/w"⟩ ≠ planned second none request ⟨"/w"⟩ := by
  intro same
  rw [workingPlan?, workingPlan?, same] at differ
  exact differ rfl

theorem eq_ok_of_toOption_eq_some {Error Outcome : Type} {attempt : Except Error Outcome}
    {outcome : Outcome} (succeeds : attempt.toOption = some outcome) : attempt = .ok outcome := by
  cases attempt with
  | error error => exact nomatch succeeds
  | ok found => rw [Option.some.inj succeeds]

/-- Texts share a key only where the records of a request are the same and its plans
differ on a host where everything works. -/
theorem shareKeyOnly_of_reads {firstText secondText : String} {request : Request}
    {first second : Config} {firstAccepted secondAccepted : Accepted}
    (firstRead : (Config.ofToml firstText).toOption = some first)
    (secondRead : (Config.ofToml secondText).toOption = some second)
    (cached : first.settings.cacheDir.isSome = true)
    (sameCache : first.settings.cacheDir = second.settings.cacheDir)
    (firstChecked : check first request = .ok firstAccepted)
    (secondChecked : check second request = .ok secondAccepted)
    (sameRecord : hashed first firstAccepted request = hashed second secondAccepted request)
    (differ : workingPlan? first request ≠ workingPlan? second request) :
    ShareKeyOnly firstText secondText request :=
  ⟨first, second, firstAccepted, secondAccepted, eq_ok_of_toOption_eq_some firstRead,
    eq_ok_of_toOption_eq_some secondRead, cached, sameCache, firstChecked, secondChecked,
    keyOf_eq_of_hashed_eq sameRecord, ⟨"/w"⟩, planned_ne_of_workingPlan?_ne differ⟩

/-- The text of a configuration with a cache and a compiler. -/
def plainText : String :=
  "[explorer]\ncache_dir = '/c'\n[[compiler]]\nid = 'cc'\nexe = '/cc'\n"

/-- The text with more about the compiler, or behind it. -/
def plainTextWith (more : String) : String :=
  String.ofList (plainText.toList ++ more.toList)

/-- The text of a library with headers. -/
def libraryText : String :=
  "[[library]]\nid = 'fmt'\nversion = '1'\ninclude_path = ['/h']\n"

/-- The plain text with another build system. -/
def otherCmakeText : String :=
  "[explorer]\ncache_dir = '/c'\ncmake = '/m'\n[[compiler]]\nid = 'cc'\nexe = '/cc'\n"

/-- The compiler of the plain text. -/
def plainCompiler : CompilerInfo :=
  { id := "cc", exe := ⟨"/cc"⟩ }

/-- The configuration of the plain text, with a compiler in place of the plain one. -/
def cachedConfig (info : CompilerInfo) : Config :=
  { settings := { cacheDir := some ⟨"/c"⟩ }, compilers := [info] }

/-- A request for a program with a library. -/
def libraryRequest : Request :=
  { compiler := "cc", filters := { binary := true }, libraries := [⟨"fmt", "1"⟩] }

/-- A request for a build of a project. -/
def projectRequest : Request :=
  { compiler := "cc", build := .cmake, files := [⟨"CMakeLists.txt", ""⟩] }

theorem ofToml_plainText :
    (Config.ofToml plainText).toOption = some (cachedConfig plainCompiler) := by
  decide +kernel

theorem check_libraryRequest :
    check (cachedConfig plainCompiler) libraryRequest = .ok ⟨plainCompiler, .standard, .cpp⟩ :=
  rfl

theorem shareKeyOnly_family :
    ShareKeyOnly plainText (plainTextWith "family = 'rustc'") libraryRequest := by
  let other := { plainCompiler with family := "rustc" }
  have read : (Config.ofToml (plainTextWith "family = 'rustc'")).toOption =
      some (cachedConfig other) := by
    decide +kernel
  have checked : check (cachedConfig other) libraryRequest = .ok ⟨other, .rustc, .cpp⟩ := rfl
  exact shareKeyOnly_of_reads ofToml_plainText read rfl rfl check_libraryRequest checked
    (by decide +kernel) (by decide +kernel)

theorem shareKeyOnly_language :
    ShareKeyOnly plainText (plainTextWith "lang = 'c'") libraryRequest := by
  let other := { plainCompiler with lang := "c" }
  have read : (Config.ofToml (plainTextWith "lang = 'c'")).toOption =
      some (cachedConfig other) := by
    decide +kernel
  have checked : check (cachedConfig other) libraryRequest = .ok ⟨other, .standard, .c⟩ := rfl
  exact shareKeyOnly_of_reads ofToml_plainText read rfl rfl check_libraryRequest checked
    (by decide +kernel) (by decide +kernel)

theorem shareKeyOnly_policy :
    ShareKeyOnly plainText (plainTextWith "step_failure_policy = 'abort'") libraryRequest := by
  let other := { plainCompiler with failurePolicy := some .abort }
  have read : (Config.ofToml (plainTextWith "step_failure_policy = 'abort'")).toOption =
      some (cachedConfig other) := by
    decide +kernel
  have checked : check (cachedConfig other) libraryRequest = .ok ⟨other, .standard, .cpp⟩ := rfl
  exact shareKeyOnly_of_reads ofToml_plainText read rfl rfl check_libraryRequest checked
    (by decide +kernel) (by decide +kernel)

theorem shareKeyOnly_headers :
    ShareKeyOnly plainText (plainTextWith libraryText) libraryRequest := by
  let library : LibraryInfo := { id := "fmt", version := "1", includePath := ["/h"] }
  let other : Config := { cachedConfig plainCompiler with libraries := [library] }
  have read : (Config.ofToml (plainTextWith libraryText)).toOption = some other := by
    decide +kernel
  have checked : check other libraryRequest = .ok ⟨plainCompiler, .standard, .cpp⟩ :=
    check_libraryRequest
  exact shareKeyOnly_of_reads ofToml_plainText read rfl rfl check_libraryRequest checked
    (by decide +kernel) (by decide +kernel)

theorem shareKeyOnly_search :
    ShareKeyOnly plainText (plainTextWith "lib_path = ['/l']") libraryRequest := by
  let other := { plainCompiler with libPath := ["/l"] }
  have read : (Config.ofToml (plainTextWith "lib_path = ['/l']")).toOption =
      some (cachedConfig other) := by
    decide +kernel
  have checked : check (cachedConfig other) libraryRequest = .ok ⟨other, .standard, .cpp⟩ := rfl
  exact shareKeyOnly_of_reads ofToml_plainText read rfl rfl check_libraryRequest checked
    (by decide +kernel) (by decide +kernel)

theorem shareKeyOnly_buildSystem : ShareKeyOnly plainText otherCmakeText projectRequest := by
  let other : Config :=
    { settings := { cmake := ⟨"/m"⟩, cacheDir := some ⟨"/c"⟩ }, compilers := [plainCompiler] }
  have read : (Config.ofToml otherCmakeText).toOption = some other := by
    decide +kernel
  have plainChecked : check (cachedConfig plainCompiler) projectRequest =
      .ok ⟨plainCompiler, .standard, .cpp⟩ := rfl
  have checked : check other projectRequest = .ok ⟨plainCompiler, .standard, .cpp⟩ :=
    plainChecked
  exact shareKeyOnly_of_reads ofToml_plainText read rfl rfl plainChecked checked
    (by decide +kernel) (by decide +kernel)

/-- Each part of what is not hashed can make the difference: the family and the
language of a compiler, what happens behind a failed step, where headers are, where
the linker searches, and the build system. -/
theorem shareKeyOnly_each_part :
    ShareKeyOnly plainText (plainTextWith "family = 'rustc'") libraryRequest ∧
      ShareKeyOnly plainText (plainTextWith "lang = 'c'") libraryRequest ∧
      ShareKeyOnly plainText (plainTextWith "step_failure_policy = 'abort'") libraryRequest ∧
      ShareKeyOnly plainText (plainTextWith libraryText) libraryRequest ∧
      ShareKeyOnly plainText (plainTextWith "lib_path = ['/l']") libraryRequest ∧
      ShareKeyOnly plainText otherCmakeText projectRequest :=
  ⟨shareKeyOnly_family, shareKeyOnly_language, shareKeyOnly_policy, shareKeyOnly_headers,
    shareKeyOnly_search, shareKeyOnly_buildSystem⟩

end BuildExplorer.Explorer
