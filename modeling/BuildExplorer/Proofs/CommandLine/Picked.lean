import Mathlib.Data.List.Lattice
import Mathlib.Data.List.Nodup
import Mathlib.Data.List.Pairwise
import BuildExplorer.CommandLine.Run
import BuildExplorer.Proofs.Config

/-!
# The compiler that is picked

Where no compiler is named, the command line goes from the extension of the source to a
language, and from there to the first compiler for it.  The explorer goes the other way: from
an identifier to a compiler, and from there to a language, by what the compiler calls it.  The
two ways meet: no two languages share a name, and no two compilers share an identifier.
-/

namespace BuildExplorer

/-! ## Names of languages -/

namespace Language

/-- What a language is called by a compiler: its identifier or one of its aliases. -/
def IsCalled (language : Language) (key : String) : Prop :=
  language ∈ all ∧ (key = language.id ∨ key ∈ language.aliases)

theorem isCalled_id {language : Language} (known : language ∈ all) :
    language.IsCalled language.id :=
  ⟨known, .inl rfl⟩

/-- No two languages share a name: among the names of all no one comes twice. -/
theorem eq_of_isCalled {first second : Language} {key : String} (isFirst : first.IsCalled key)
    (isSecond : second.IsCalled key) : first = second := by
  have distinct : (all.flatMap fun language => language.id :: language.aliases).Nodup := by
    decide +kernel
  obtain ⟨-, apart⟩ := List.nodup_flatMap.mp distinct
  have symmetric : Std.Symm
      (Function.onFun List.Disjoint fun language : Language => language.id :: language.aliases) :=
    ⟨fun _ _ disjoint => List.Disjoint.symm disjoint⟩
  by_contra different
  exact apart.forall isFirst.1 isSecond.1 different (List.mem_cons.mpr isFirst.2)
    (List.mem_cons.mpr isSecond.2)

/-- A name leads to the language that is called so. -/
theorem find?_eq_some_iff {language : Language} {key : String} :
    find? key = some language ↔ language.IsCalled key := by
  have isCalled : ∀ {found}, find? key = some found → found.IsCalled key := by
    intro found isFound
    rw [find?, Option.orElse_eq_orElse, Option.orElse_eq_or, Option.or_eq_some_iff] at isFound
    rcases isFound with byId | ⟨-, byAlias⟩
    · have isId := List.find?_some byId
      exact ⟨List.mem_of_find?_eq_some byId, .inl (beq_iff_eq.mp isId).symm⟩
    · have isAlias := List.find?_some byAlias
      exact ⟨List.mem_of_find?_eq_some byAlias, .inr (List.contains_iff_mem.mp isAlias)⟩
  refine ⟨isCalled, fun called => ?_⟩
  have isFound : (find? key).isSome = true := by
    rw [find?, Option.orElse_eq_orElse, Option.orElse_eq_or, Option.isSome_or, Bool.or_eq_true,
      List.find?_isSome, List.find?_isSome]
    rcases called.2 with isId | isAlias
    · exact .inl ⟨language, called.1, by simp [isId]⟩
    · exact .inr ⟨language, called.1, by simpa using isAlias⟩
  obtain ⟨found, isSome⟩ := Option.isSome_iff_exists.mp isFound
  rw [isSome, eq_of_isCalled (isCalled isSome) called]

theorem mem_all_of_ofPath? {path : Path} {language : Language}
    (isLanguage : ofPath? path = some language) : language ∈ all := by
  obtain ⟨extension, -, found⟩ := Option.bind_eq_some_iff.mp isLanguage
  simp only [Option.orElse_eq_orElse, Option.orElse_eq_or, Option.or_eq_some_iff] at found
  rcases found with isFirst | ⟨-, isOther⟩
  · exact List.mem_of_find?_eq_some isFirst
  · exact List.mem_of_find?_eq_some isOther

/-- To lead to a language with some identifier is to be a name of it. -/
theorem any_find?_iff {language : Language} (known : language ∈ all) {key : String} :
    ((find? key).any fun found => found.id == language.id) = true ↔ language.IsCalled key := by
  rw [Option.any_eq_true]
  constructor
  · rintro ⟨found, isFound, sameId⟩
    have called := find?_eq_some_iff.mp isFound
    have isId := isCalled_id called.1
    rw [beq_iff_eq.mp sameId] at isId
    rwa [← eq_of_isCalled isId (isCalled_id known)]
  · intro called
    exact ⟨language, find?_eq_some_iff.mpr called, beq_self_eq_true _⟩

end Language

/-! ## The first compiler for a language -/

namespace Config

/-- A compiler is configured for a language, and none in front of it is. -/
structure FirstFor (config : Config) (language : Language) (info : CompilerInfo) : Prop where
  isFor : language.IsCalled info.lang
  isFirst : ∃ before after, config.compilers = before ++ info :: after ∧
    ∀ other ∈ before, ¬language.IsCalled other.lang

theorem FirstFor.mem {config : Config} {language : Language} {info : CompilerInfo}
    (first : config.FirstFor language info) : info ∈ config.compilers := by
  obtain ⟨before, after, isSplit, -⟩ := first.isFirst
  rw [isSplit]
  exact List.mem_append_right before List.mem_cons_self

section Default

variable {config : Config} {language : Language} (known : language ∈ Language.all)
include known

theorem firstFor_of_defaultCompiler? {info : CompilerInfo}
    (isDefault : config.defaultCompiler? language = some info) :
    config.FirstFor language info := by
  obtain ⟨isFor, before, after, isSplit, others⟩ := List.find?_eq_some_iff_append.mp isDefault
  refine ⟨(Language.any_find?_iff known).mp isFor, before, after, isSplit, ?_⟩
  intro other isBefore called
  have isNot := others other isBefore
  rw [(Language.any_find?_iff known).mpr called] at isNot
  exact absurd isNot (by decide)

theorem not_isCalled_of_defaultCompiler? (noDefault : config.defaultCompiler? language = none) :
    ∀ info ∈ config.compilers, ¬language.IsCalled info.lang := fun info member called =>
  List.find?_eq_none.mp noDefault info member ((Language.any_find?_iff known).mpr called)

end Default

end Config

/-! ## What is left to check -/

namespace Explorer

/-- Check what has nothing to do with the identifier and the language of a compiler. -/
def checkRest (info : CompilerInfo) (language : Language) (request : Request) :
    Except SetupError Accepted :=
  match Family.ofKey? info.family with
  | none => .error (.unknownFamily info.id info.family)
  | some family => do
      checkFiles request.files
      checkTargets request
      return { info, family, language }

theorem check_eq_checkRest {config : Config} {request : Request} {info : CompilerInfo}
    {language : Language} (isCompiler : config.compiler? request.compiler = some info)
    (isLanguage : Language.find? info.lang = some language) :
    check config request = checkRest info language request := by
  cases isFamily : Family.ofKey? info.family with
  | none => simp only [check, checkRest, isCompiler, isFamily]
  | some family => simp only [check, checkRest, isCompiler, isFamily, isLanguage]

end Explorer

namespace CommandLine

/-! ## What is picked -/

theorem pickCompiler_eq_ok_iff {config : Config} {path : Path} {id : String} :
    pickCompiler config (some path) = .ok id ↔
      ∃ language info, Language.ofPath? path = some language ∧
        config.defaultCompiler? language = some info ∧ info.id = id := by
  unfold pickCompiler
  dsimp only
  cases Language.ofPath? path with
  | none => simp
  | some language => cases isDefault : config.defaultCompiler? language <;> simp [isDefault]

theorem pickCompiler_eq_error_iff {config : Config} {path : Path} {language : Language}
    (isLanguage : Language.ofPath? path = some language) {error : Error} :
    pickCompiler config (some path) = .error error ↔
      config.defaultCompiler? language = none ∧ error = .noCompilerFor language.name := by
  unfold pickCompiler
  dsimp only
  rw [isLanguage]
  cases isDefault : config.defaultCompiler? language <;> simp [isDefault, eq_comm]

/-- A compiler is picked for a source by an identifier: it is the first one for the language
of the source, and the explorer has the same compiler and the same language for requests with
that identifier. -/
structure PickedFor (config : Config) (path : Path) (id : String) (info : CompilerInfo)
    (language : Language) : Prop where
  id_eq : info.id = id
  ofPath : Language.ofPath? path = some language
  isDefault : config.defaultCompiler? language = some info
  isFirst : config.FirstFor language info
  compiler : config.compiler? id = some info
  lang : Language.find? info.lang = some language
  check_eq : ∀ request : Request, request.compiler = id →
    Explorer.check config request = Explorer.checkRest info language request

theorem pickedFor_of_pickCompiler {config : Config} {path : Path} {id : String}
    (picked : pickCompiler config (some path) = .ok id) (distinct : config.DistinctIds) :
    ∃ info language, PickedFor config path id info language := by
  obtain ⟨language, info, isLanguage, isDefault, rfl⟩ := pickCompiler_eq_ok_iff.mp picked
  have isFirst := Config.firstFor_of_defaultCompiler?
    (Language.mem_all_of_ofPath? isLanguage) isDefault
  have isCompiler := Config.compiler?_eq_some_of_mem distinct isFirst.mem
  have isFound := Language.find?_eq_some_iff.mpr isFirst.isFor
  refine ⟨info, language, rfl, isLanguage, isDefault, isFirst, isCompiler, isFound, ?_⟩
  intro request named
  exact Explorer.check_eq_checkRest (by rw [named, isCompiler]) isFound

/-- A configuration that can be read is accepted exactly if no two compilers share an
identifier.  Under an accepted one, with whatever settings from the command line, the compiler
that is picked for a source is the first one for the language of its extension, and the
explorer finds that compiler by its identifier and builds in that language.  If none is picked
for a source with a language, no compiler is configured for it. -/
theorem picked_compiler_speaks_language (text : String) (config : Config) :
    (Config.ofToml text = .ok config ↔
      (Toml.parse text).bind (Config.ofJson? Config.fileManner) = some config ∧
        (config.compilers.map (·.id)).Nodup) ∧
      (Config.ofToml text = .ok config → ∀ (settings : Settings) (path : Path),
        let running : Config := { config with settings }
        (∀ id, pickCompiler running (some path) = .ok id →
          ∃ info language, PickedFor running path id info language) ∧
        ∀ error language, pickCompiler running (some path) = .error error →
          Language.ofPath? path = some language →
          error = .noCompilerFor language.name ∧
            ∀ info ∈ config.compilers, ¬language.IsCalled info.lang) := by
  refine ⟨Config.ofToml_eq_ok_iff, fun accepted settings path => ⟨fun id picked => ?_, ?_⟩⟩
  · exact pickedFor_of_pickCompiler picked (Config.ofToml_eq_ok_iff.mp accepted).2
  · intro error language failed isLanguage
    obtain ⟨noDefault, isError⟩ := (pickCompiler_eq_error_iff isLanguage).mp failed
    have known := Language.mem_all_of_ofPath? isLanguage
    exact ⟨isError, Config.not_isCalled_of_defaultCompiler? known noDefault⟩

/-- The theorem at a compiler for C++ by one of its aliases, which is picked in front of
another one, and at a source in Rust, for which there is none. -/
theorem picked_compiler_speaks_language_by_alias :
    let text := "[[compiler]]\nid = 'cc'\nexe = '/cc'\nlang = 'c'\n" ++
      "[[compiler]]\nid = 'g++'\nexe = '/g++'\nlang = 'gcc'\n" ++
      "[[compiler]]\nid = 'clang++'\nexe = '/clang++'\n"
    let config : Config := {
      compilers := [
        { id := "cc", exe := ⟨"/cc"⟩, lang := "c" },
        { id := "g++", exe := ⟨"/g++"⟩, lang := "gcc" },
        { id := "clang++", exe := ⟨"/clang++"⟩ }] }
    Config.ofToml text = .ok config ∧
      pickCompiler config (some ⟨"x.HPP"⟩) = .ok "g++" ∧
      (∃ info language, PickedFor config ⟨"x.HPP"⟩ "g++" info language) ∧
      pickCompiler config (some ⟨"x.rs"⟩) = .error (.noCompilerFor "Rust") ∧
      Language.ofPath? ⟨"x.rs"⟩ = some .rust ∧
      ∀ info ∈ config.compilers, ¬Language.rust.IsCalled info.lang := by
  intro text config
  have accepted : Config.ofToml text = .ok config := by decide +kernel
  have picked : pickCompiler config (some ⟨"x.HPP"⟩) = .ok "g++" := by decide +kernel
  have failed : pickCompiler config (some ⟨"x.rs"⟩) = .error (.noCompilerFor "Rust") := by
    decide +kernel
  have isRust : Language.ofPath? ⟨"x.rs"⟩ = some .rust := by decide +kernel
  have ways := (picked_compiler_speaks_language text config).2 accepted config.settings
  exact ⟨accepted, picked, (ways ⟨"x.HPP"⟩).1 "g++" picked, failed, isRust,
    ((ways ⟨"x.rs"⟩).2 (.noCompilerFor "Rust") .rust failed isRust).2⟩

end CommandLine

end BuildExplorer
