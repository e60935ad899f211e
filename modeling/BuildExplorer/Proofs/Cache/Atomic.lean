import BuildExplorer.Proofs.Cache.Interleaving

/-!
# A cache changes entry by entry

However the steps of many callers are mixed, an entry of a cache holds what was moved to
it last, as a whole, and nobody sees anything else in it.  A caller that writes holds a
file of its own until this file is moved; so nothing that is done to it in between, and
no failure, can be seen in an entry.

The proof follows each call through its phases.  What a step can do in a phase is said
once, by `Advance`; the invariant of all callers is derived from that.
-/

namespace BuildExplorer.Cache

open Host (Bytes Fault)

/-! ## Phases -/

/-- How far a call has come. -/
inductive Phase where
  /-- No file is held. -/
  | idle
  /-- A file is held in which there need not be all that is to be stored. -/
  | holds (temporary : Path)
  /-- A file is held that is ready to be moved. -/
  | filled (temporary : Path) (contents : Bytes)
  | stored (contents : Bytes)
  | saw (seen : Option Bytes)

/-- The file that is held in a phase. -/
def Phase.temporary? : Phase → Option Path
  | .holds temporary => some temporary
  | .filled temporary _ => some temporary
  | _ => none

/-- The effects that a call with an entry has had up to a phase. -/
def Phase.effects (entry : Path) : Phase → List Effect
  | .stored contents => [.moved entry contents]
  | .saw seen => [.read entry seen]
  | _ => []

/-- Do files hold what they have to hold in a phase? -/
def Phase.Agrees (files : Files) : Phase → Prop
  | .holds temporary => files temporary ≠ none
  | .filled temporary contents => files temporary = some contents
  | _ => True

/-- A call ends in a phase with an outcome. -/
inductive EndsIn : Call → Phase → Outcome → Prop where
  | stored {key : String} {result : Result} {contents : Bytes}
      (encoded : encode result = .ok contents) :
      EndsIn (.put key result) (.stored contents) (.stored (.ok ()))
  | failed {key : String} {result : Result} (error : StoreError) :
      EndsIn (.put key result) .idle (.stored (.error error))
  | found {key : String} (seen : Option Bytes) :
      EndsIn (.get key) (.saw seen) (.found (seen.bind decode?))

/-- A program does what a call in a phase may still do, whatever is replied to it. -/
inductive Obeys (cache : Cache) (call : Call) : Phase → Program Outcome → Prop where
  | done {phase : Phase} {outcome : Outcome} (ends : EndsIn call phase outcome) :
      Obeys cache call phase (.done outcome)
  | makes {next : Except Fault Path → Program Outcome}
      (failed : ∀ fault, Obeys cache call .idle (next (.error fault)))
      (made : ∀ temporary, Obeys cache call (.holds temporary) (next (.ok temporary))) :
      Obeys cache call .idle (.ask (.makeTemporary cache.directory) next)
  | writes {temporary : Path} {contents : Bytes} {next : Except Fault Unit → Program Outcome}
      (failed : ∀ fault, Obeys cache call (.holds temporary) (next (.error fault)))
      (written : Obeys cache call (.filled temporary contents) (next (.ok ()))) :
      Obeys cache call (.holds temporary) (.ask (.writeContents temporary contents) next)
  | moves {temporary : Path} {contents : Bytes} {next : Except Fault Unit → Program Outcome}
      (failed : ∀ fault, Obeys cache call (.holds temporary) (next (.error fault)))
      (moved : Obeys cache call (.stored contents) (next (.ok ()))) :
      Obeys cache call (.filled temporary contents)
        (.ask (.moveFile temporary (cache.entry call.key)) next)
  | erases {temporary : Path} {next : Except Fault Unit → Program Outcome}
      (erased : ∀ reply, Obeys cache call .idle (next reply)) :
      Obeys cache call (.holds temporary) (.ask (.eraseFile temporary) next)
  | reads {next : Except Fault Bytes → Program Outcome}
      (missing : ∀ fault, Obeys cache call (.saw none) (next (.error fault)))
      (found : ∀ contents, Obeys cache call (.saw (some contents)) (next (.ok contents))) :
      Obeys cache call .idle (.ask (.readContents (cache.entry call.key)) next)

/-- Storing a result obeys. -/
theorem obeys_put (cache : Cache) (key : String) (result : Result) :
    Obeys cache (.put key result) .idle ((Call.put key result).program cache) := by
  have discards : ∀ (temporary : Path) (error : StoreError),
      Obeys cache (.put key result) (.holds temporary)
        (Outcome.stored <$> (do
          let _ ← Program.eraseFile temporary
          return .error error)) := by
    intro temporary error
    exact .erases fun reply => .done (.failed error)
  unfold Call.program put
  apply Obeys.makes
  · intro fault
    exact .done (.failed _)
  · intro temporary
    cases encoded : encode result with
    | error error => exact discards temporary (.notWritable error)
    | ok contents =>
        apply Obeys.writes
        · intro fault
          exact discards temporary (.notWritten fault)
        · apply Obeys.moves
          · intro fault
            exact discards temporary (.notStored key fault)
          · exact .done (.stored encoded)

/-- Looking up a result obeys. -/
theorem obeys_get (cache : Cache) (key : String) :
    Obeys cache (.get key) .idle ((Call.get key).program cache) := by
  apply Obeys.reads
  · intro fault
    exact .done (.found none)
  · intro contents
    exact .done (.found (some contents))

theorem obeys_program (cache : Cache) (call : Call) :
    Obeys cache call .idle (call.program cache) := by
  cases call with
  | put key result => exact obeys_put cache key result
  | get key => exact obeys_get cache key

/-! ## What a step can do -/

/-- What is left of a program is what a call in a phase has left to do, and the files hold
what they have to hold. -/
inductive Stands (cache : Cache) (call : Call) (files : Files) : Phase → Thread → Prop where
  | acts {phase : Phase} {program : Program Outcome} (obeys : Obeys cache call phase program)
      (agrees : phase.Agrees files) : Stands cache call files phase (.acts program)
  | writes {temporary : Path} {written rest : Bytes}
      {next : Except Fault Unit → Program Outcome}
      (failed : ∀ fault, Obeys cache call (.holds temporary) (next (.error fault)))
      (whole : Obeys cache call (.filled temporary (written ++ rest)) (next (.ok ())))
      (agrees : files temporary = some written) :
      Stands cache call files (.holds temporary) (.writes temporary rest next)

/-- What a step of a call can do in a phase. -/
inductive Advance (cache : Cache) (call : Call) (files : Files) :
    Phase → Files → Phase → Option Effect → Prop where
  | makes {temporary : Path} (isTemporary : IsTemporary cache.directory temporary)
      (isFree : files temporary = none) :
      Advance cache call files .idle (Function.update files temporary (some []))
        (.holds temporary) none
  | writes {temporary : Path} (written : Bytes) :
      Advance cache call files (.holds temporary) (Function.update files temporary (some written))
        (.holds temporary) none
  | fills {temporary : Path} (contents : Bytes) :
      Advance cache call files (.holds temporary) files (.filled temporary contents) none
  | fails (phase : Phase) : Advance cache call files phase files phase none
  | spoils {temporary : Path} {contents : Bytes} :
      Advance cache call files (.filled temporary contents) files (.holds temporary) none
  | erases {temporary : Path} :
      Advance cache call files (.holds temporary) (Function.update files temporary none) .idle none
  | leaves {temporary : Path} : Advance cache call files (.holds temporary) files .idle none
  | stores {temporary : Path} {contents : Bytes} :
      Advance cache call files (.filled temporary contents)
        (Function.update (Function.update files temporary none) (cache.entry call.key)
          (some contents))
        (.stored contents) (some (.moved (cache.entry call.key) contents))
  | sees :
      Advance cache call files .idle files (.saw (files (cache.entry call.key)))
        (some (.read (cache.entry call.key) (files (cache.entry call.key))))

theorem exists_advance {cache : Cache} {call : Call} {files after : Files} {phase : Phase}
    {thread left : Thread} {effect : Option Effect} (stands : Stands cache call files phase thread)
    (acts : Acts files thread after left effect) :
    ∃ next, Advance cache call files phase after next effect ∧
      Stands cache call after next left := by
  cases stands with
  | acts obeys agrees =>
      cases obeys with
      | done ends => cases acts
      | makes failed made =>
          cases acts with
          | makes isTemporary isFree =>
              refine ⟨_, .makes isTemporary isFree, .acts (made _) ?_⟩
              simp [Phase.Agrees]
          | makesNone fault => exact ⟨_, .fails _, .acts (failed fault) agrees⟩
      | @writes temporary contents next failed written =>
          have whole : Obeys cache call (.filled temporary ([] ++ contents)) (next (.ok ())) :=
            written
          cases acts with
          | begins => exact ⟨_, .writes [], .writes failed whole (Function.update_self _ _ _)⟩
          | beginsNot fault => exact ⟨_, .fails _, .acts (failed fault) agrees⟩
      | moves failed moved =>
          cases acts with
          | moves holds =>
              obtain rfl := Option.some.inj (holds.symm.trans agrees)
              exact ⟨_, .stores, .acts moved trivial⟩
          | movesNot fault =>
              refine ⟨_, .spoils, .acts (failed fault) ?_⟩
              rw [Phase.Agrees, agrees]
              exact Option.some_ne_none _
      | erases erased =>
          cases acts with
          | erases => exact ⟨_, .erases, .acts (erased _) trivial⟩
          | erasesNot fault => exact ⟨_, .leaves, .acts (erased _) trivial⟩
      | reads missing found =>
          cases acts with
          | found holds =>
              refine ⟨.saw (some _), ?_, .acts (found _) trivial⟩
              rw [← holds]
              exact .sees
          | missing fault isFree =>
              refine ⟨.saw none, ?_, .acts (missing fault) trivial⟩
              rw [← isFree]
              exact .sees
  | @writes temporary written rest next failed whole agrees =>
      cases acts with
      | @writes _ chunk rest _ =>
          rw [← List.append_assoc] at whole
          rw [agrees]
          exact ⟨_, .writes _, .writes failed whole (Function.update_self _ _ _)⟩
      | ends =>
          rw [List.append_nil] at whole
          exact ⟨_, .fills written, .acts whole agrees⟩
      | breaksOff fault =>
          refine ⟨_, .fails _, .acts (failed fault) ?_⟩
          rw [Phase.Agrees, agrees]
          exact Option.some_ne_none _

/-- A step changes no file but one that its call holds, makes or moves to its entry. -/
theorem Advance.files_eq {cache : Cache} {call : Call} {files after : Files} {phase next : Phase}
    {effect : Option Effect} (advance : Advance cache call files phase after next effect)
    {path : Path} (notHeld : phase.temporary? ≠ some path)
    (notMade : IsTemporary cache.directory path → files path ≠ none)
    (notEntry : effect ≠ none → path ≠ cache.entry call.key) : after path = files path := by
  cases advance with
  | fills | fails | spoils | leaves | sees => rfl
  | @makes temporary isTemporary isFree =>
      have apart : path ≠ temporary := by
        rintro rfl
        exact notMade isTemporary isFree
      exact Function.update_of_ne apart _ _
  | @writes temporary | @erases temporary =>
      have apart : path ≠ temporary := by
        rintro rfl
        exact notHeld rfl
      exact Function.update_of_ne apart _ _
  | @stores temporary contents =>
      have apart : path ≠ temporary := by
        rintro rfl
        exact notHeld rfl
      rw [Function.update_of_ne (notEntry (Option.some_ne_none _)), Function.update_of_ne apart]

/-- A file that is held was held before, or it is new. -/
theorem Advance.held {cache : Cache} {call : Call} {files after : Files} {phase next : Phase}
    {effect : Option Effect} (advance : Advance cache call files phase after next effect)
    {path : Path} (held : next.temporary? = some path) :
    phase.temporary? = some path ∨ IsTemporary cache.directory path ∧ files path = none := by
  cases advance with
  | makes isTemporary isFree =>
      cases held
      exact .inr ⟨isTemporary, isFree⟩
  | writes | fills | spoils | fails => exact .inl held
  | erases | leaves | stores | sees => cases held

/-- The effects up to a phase grow by that of the step. -/
theorem Advance.effects {cache : Cache} {call : Call} {files after : Files} {phase next : Phase}
    {effect : Option Effect} (advance : Advance cache call files phase after next effect) :
    next.effects (cache.entry call.key) =
      effect.toList ++ phase.effects (cache.entry call.key) := by
  cases advance <;> rfl

/-- What is seen is what the entry holds. -/
theorem Advance.seen_eq {cache : Cache} {call : Call} {files after : Files} {phase next : Phase}
    {path : Path} {seen : Option Bytes}
    (advance : Advance cache call files phase after next (some (.read path seen))) :
    seen = files (cache.entry call.key) := by
  cases advance
  rfl

/-- A call that has moved its result is over, and the result was whole. -/
theorem Stands.of_stored {cache : Cache} {call : Call} {files : Files} {contents : Bytes}
    {thread : Thread} (stands : Stands cache call files (.stored contents) thread) :
    ∃ key result, call = .put key result ∧ encode result = .ok contents := by
  cases stands with
  | acts obeys agrees =>
      cases obeys with
      | done ends =>
          cases ends with
          | stored encoded => exact ⟨_, _, rfl, encoded⟩

/-- A call that has seen an entry looks it up. -/
theorem Stands.of_saw {cache : Cache} {call : Call} {files : Files} {seen : Option Bytes}
    {thread : Thread} (stands : Stands cache call files (.saw seen) thread) :
    ∃ key, call = .get key := by
  cases stands with
  | acts obeys agrees =>
      cases obeys with
      | done ends =>
          cases ends with
          | found seen => exact ⟨_, rfl⟩

/-- A call that is over has ended in its phase. -/
theorem Stands.endsIn {cache : Cache} {call : Call} {files : Files} {phase : Phase}
    {outcome : Outcome} (stands : Stands cache call files phase (.acts (.done outcome))) :
    EndsIn call phase outcome := by
  cases stands with
  | acts obeys agrees =>
      cases obeys with
      | done ends => exact ends

/-- What is left of a call does not notice changes of files that it does not hold. -/
theorem Stands.of_files_eq {cache : Cache} {call : Call} {files after : Files} {phase : Phase}
    {thread : Thread} (stands : Stands cache call files phase thread)
    (same : ∀ path, phase.temporary? = some path → after path = files path) :
    Stands cache call after phase thread := by
  cases stands with
  | @acts phase program obeys agrees =>
      refine .acts obeys ?_
      cases phase with
      | holds | filled =>
          rw [Phase.Agrees, same _ rfl]
          exact agrees
      | idle | stored | saw => trivial
  | writes failed whole agrees => exact .writes failed whole ((same _ rfl).trans agrees)

/-- A file that is held is there. -/
theorem Stands.held_ne_none {cache : Cache} {call : Call} {files : Files} {phase : Phase}
    {thread : Thread} (stands : Stands cache call files phase thread) {path : Path}
    (held : phase.temporary? = some path) : files path ≠ none := by
  cases stands with
  | @acts phase program obeys agrees =>
      cases phase with
      | holds temporary =>
          cases held
          exact agrees
      | filled temporary contents =>
          cases held
          rw [show files path = _ from agrees]
          exact Option.some_ne_none _
      | idle | stored | saw => cases held
  | writes failed whole agrees =>
      cases held
      rw [agrees]
      exact Option.some_ne_none _

/-! ## All callers -/

variable {Caller : Type} [DecidableEq Caller]

/-- The log behind a step of a caller. -/
abbrev logged (caller : Caller) (effect : Option Effect) (log : List (Caller × Effect)) :
    List (Caller × Effect) :=
  (effect.map fun effect => (caller, effect)).toList ++ log

theorem effectsOf_logged_self (caller : Caller) (effect : Option Effect)
    (log : List (Caller × Effect)) :
    effectsOf caller (logged caller effect log) = effect.toList ++ effectsOf caller log := by
  cases effect <;> simp [effectsOf, logged]

theorem effectsOf_logged_of_ne {caller other : Caller} (apart : other ≠ caller)
    (effect : Option Effect) (log : List (Caller × Effect)) :
    effectsOf other (logged caller effect log) = effectsOf other log := by
  cases effect <;> simp [effectsOf, logged, apart.symm]

/-- What holds of all callers together, each of them in its phase. -/
structure Invariant (cache : Cache) (calls : Caller → Call) (initial : Files)
    (shared : Shared Caller) (phases : Caller → Phase) : Prop where
  stands : ∀ caller,
    Stands cache (calls caller) shared.files (phases caller) (shared.threads caller)
  temporary : ∀ caller path, (phases caller).temporary? = some path →
    IsTemporary cache.directory path
  /-- No file is held by two callers. -/
  apart : ∀ first second path, (phases first).temporary? = some path →
    (phases second).temporary? = some path → first = second
  entries : ∀ key, IsHexadecimal key →
    shared.files (cache.entry key) = lastStored cache calls initial key shared.log
  effects : ∀ caller, effectsOf caller shared.log =
    (phases caller).effects (cache.entry (calls caller).key)
  reads : ∀ later earlier caller path seen,
    shared.log = later ++ (caller, .read path seen) :: earlier →
      seen = lastStored cache calls initial (calls caller).key earlier

theorem invariant_start (cache : Cache) (calls : Caller → Call) (initial : Files) :
    Invariant cache calls initial (.start cache calls initial) fun _ => .idle := by
  constructor
  case stands => exact fun caller => .acts (obeys_program cache (calls caller)) trivial
  case temporary => exact fun _ _ impossible => nomatch impossible
  case apart => exact fun _ _ _ impossible => nomatch impossible
  case entries => exact fun _ _ => rfl
  case effects => exact fun _ => rfl
  case reads =>
      intro later earlier caller path seen isLog
      exact absurd isLog (List.append_ne_nil_of_right_ne_nil later (List.cons_ne_nil _ _)).symm

/-- A step changes an entry only if it moves to it what its call stores there. -/
theorem Advance.moves_or_keeps {cache : Cache} {call : Call} {files after : Files}
    {phase next : Phase} {effect : Option Effect}
    (advance : Advance cache call files phase after next effect)
    (isHeld : ∀ path, phase.temporary? = some path → IsTemporary cache.directory path)
    (hexadecimal : IsHexadecimal call.key) {key : String} (isKey : IsHexadecimal key) :
    (∃ contents, call.key = key ∧ effect = some (.moved (cache.entry key) contents) ∧
        next = .stored contents ∧ after (cache.entry key) = some contents) ∨
      (call.key = key → ∀ target contents, effect ≠ some (.moved target contents)) ∧
        after (cache.entry key) = files (cache.entry key) := by
  have notHeld : phase.temporary? ≠ some (cache.entry key) :=
    fun held => (isHeld _ held).ne_entry isKey rfl
  have quiet : effect = none → after (cache.entry key) = files (cache.entry key) := by
    intro isQuiet
    refine advance.files_eq notHeld ?_ fun isEffect => absurd isQuiet isEffect
    exact fun isTemporary => absurd rfl (isTemporary.ne_entry isKey)
  cases advance with
  | makes | writes | fills | fails | spoils | erases | leaves =>
      exact .inr ⟨fun _ _ _ impossible => (nomatch impossible), quiet rfl⟩
  | sees => exact .inr ⟨fun _ _ _ impossible => (nomatch impossible), rfl⟩
  | @stores temporary contents =>
      by_cases same : call.key = key
      · subst same
        exact .inl ⟨contents, rfl, rfl, rfl, Function.update_self _ _ _⟩
      · have notEntry : cache.entry key ≠ cache.entry call.key :=
          fun sameEntry => same (entry_injective isKey hexadecimal sameEntry).symm
        have notTemporary : cache.entry key ≠ temporary := by
          rintro rfl
          exact notHeld rfl
        right
        constructor
        · exact fun isSame => absurd isSame same
        · rw [Function.update_of_ne notEntry, Function.update_of_ne notTemporary]

omit [DecidableEq Caller] in
/-- A step leaves every entry with what was moved to it last. -/
theorem Advance.entries {cache : Cache} {calls : Caller → Call} {initial : Files} {caller : Caller}
    {files after : Files} {phase next : Phase} {effect : Option Effect}
    (advance : Advance cache (calls caller) files phase after next effect)
    (isHeld : ∀ path, phase.temporary? = some path → IsTemporary cache.directory path)
    (hexadecimal : IsHexadecimal (calls caller).key) {log : List (Caller × Effect)} {key : String}
    (isKey : IsHexadecimal key)
    (before : files (cache.entry key) = lastStored cache calls initial key log) :
    after (cache.entry key) = lastStored cache calls initial key (logged caller effect log) := by
  rcases advance.moves_or_keeps isHeld hexadecimal isKey with
    ⟨contents, same, rfl, -, holds⟩ | ⟨notMoved, keeps⟩
  · rw [holds]
    simp [logged, lastStored, same]
  · rw [keeps, before]
    cases effect with
    | none => rfl
    | some effect =>
        cases effect with
        | read path seen => rfl
        | moved target contents =>
            have other : (calls caller).key ≠ key := fun same => notMoved same target contents rfl
            simp [logged, lastStored, other]

/-- Whatever step is taken, the invariant stays, with the caller in its next phase. -/
theorem Invariant.advance {cache : Cache} {calls : Caller → Call} {initial : Files}
    {before : Shared Caller} {phases : Caller → Phase}
    (invariant : Invariant cache calls initial before phases)
    (hexadecimal : ∀ caller, IsHexadecimal (calls caller).key) {caller : Caller} {files : Files}
    {thread : Thread} {next : Phase} {effect : Option Effect}
    (advance : Advance cache (calls caller) before.files (phases caller) files next effect)
    (stands : Stands cache (calls caller) files next thread) :
    Invariant cache calls initial
      ⟨files, Function.update before.threads caller thread, logged caller effect before.log⟩
      (Function.update phases caller next) := by
  -- A file that another caller holds is neither that of this caller, nor new, nor an entry.
  have others : ∀ other, other ≠ caller → ∀ path, (phases other).temporary? = some path →
      files path = before.files path := by
    intro other isOther path held
    apply advance.files_eq
    · exact fun heldHere => isOther (invariant.apart other caller path held heldHere)
    · exact fun _ => (invariant.stands other).held_ne_none held
    · exact fun _ => (invariant.temporary other path held).ne_entry (hexadecimal caller)
  have heldApart : ∀ other path, other ≠ caller → (phases other).temporary? = some path →
      next.temporary? ≠ some path := by
    intro other path isOther held heldHere
    rcases advance.held heldHere with before | ⟨-, isFree⟩
    · exact isOther (invariant.apart other caller path held before)
    · exact (invariant.stands other).held_ne_none held isFree
  constructor
  case stands =>
      intro other
      by_cases isCaller : other = caller
      · subst isCaller
        simpa only [Function.update_self] using stands
      · simp only [Function.update_of_ne isCaller]
        exact (invariant.stands other).of_files_eq (others other isCaller)
  case temporary =>
      intro other path held
      by_cases isCaller : other = caller
      · subst isCaller
        rw [Function.update_self] at held
        rcases advance.held held with before | ⟨isTemporary, -⟩
        · exact invariant.temporary other path before
        · exact isTemporary
      · rw [Function.update_of_ne isCaller] at held
        exact invariant.temporary other path held
  case apart =>
      intro first second path heldFirst heldSecond
      by_cases isFirst : first = caller
      · by_cases isSecond : second = caller
        · rw [isFirst, isSecond]
        · rw [isFirst, Function.update_self] at heldFirst
          rw [Function.update_of_ne isSecond] at heldSecond
          exact absurd heldFirst (heldApart second path isSecond heldSecond)
      · rw [Function.update_of_ne isFirst] at heldFirst
        by_cases isSecond : second = caller
        · rw [isSecond, Function.update_self] at heldSecond
          exact absurd heldSecond (heldApart first path isFirst heldFirst)
        · rw [Function.update_of_ne isSecond] at heldSecond
          exact invariant.apart first second path heldFirst heldSecond
  case entries =>
      intro key isKey
      exact advance.entries (invariant.temporary caller) (hexadecimal caller) isKey
        (invariant.entries key isKey)
  case effects =>
      intro other
      by_cases isCaller : other = caller
      · subst isCaller
        rw [effectsOf_logged_self, Function.update_self, advance.effects, invariant.effects]
      · rw [effectsOf_logged_of_ne isCaller, Function.update_of_ne isCaller, invariant.effects]
  case reads =>
      intro later earlier reader path seen isLog
      cases effect with
      | none => exact invariant.reads later earlier reader path seen isLog
      | some effect =>
          cases later with
          | cons event later =>
              exact invariant.reads later earlier reader path seen (List.cons.inj isLog).2
          | nil =>
              obtain ⟨isEvent, rfl⟩ := List.cons.inj isLog
              obtain ⟨rfl, rfl⟩ := Prod.mk.inj isEvent
              rw [advance.seen_eq]
              exact invariant.entries _ (hexadecimal caller)

theorem Step.exists_invariant {cache : Cache} {calls : Caller → Call} {initial : Files}
    (hexadecimal : ∀ caller, IsHexadecimal (calls caller).key) {before after : Shared Caller}
    (step : Step before after)
    (holds : ∃ phases, Invariant cache calls initial before phases) :
    ∃ phases, Invariant cache calls initial after phases := by
  obtain ⟨phases, invariant⟩ := holds
  cases step with
  | act caller acts =>
      obtain ⟨next, advance, stands⟩ := exists_advance (invariant.stands caller) acts
      exact ⟨_, invariant.advance hexadecimal advance stands⟩

/-- The invariant holds after any number of steps. -/
theorem Steps.exists_invariant {cache : Cache} {calls : Caller → Call} {initial : Files}
    (hexadecimal : ∀ caller, IsHexadecimal (calls caller).key) {shared : Shared Caller}
    (steps : Steps (.start cache calls initial) shared) :
    ∃ phases, Invariant cache calls initial shared phases := by
  induction steps with
  | refl => exact ⟨_, invariant_start cache calls initial⟩
  | tail earlier step inductionHypothesis =>
      exact step.exists_invariant hexadecimal inductionHypothesis

/-! ## What callers see -/

/-- What all callers have done to a cache, and what they have seen of it. -/
structure Atomic (cache : Cache) (calls : Caller → Call) (initial : Files)
    (shared : Shared Caller) : Prop where
  /-- An entry holds what was moved to it last. -/
  entries : ∀ key, IsHexadecimal key →
    shared.files (cache.entry key) = lastStored cache calls initial key shared.log
  /-- An entry changes in no other step than the one that moves a whole result to it. -/
  changes : ∀ after, Step shared after → ∀ key, IsHexadecimal key →
    after.files (cache.entry key) = shared.files (cache.entry key) ∨
      ∃ caller result contents, calls caller = .put key result ∧ encode result = .ok contents ∧
        after.log = (caller, .moved (cache.entry key) contents) :: shared.log ∧
        after.files (cache.entry key) = some contents
  /-- What is moved is moved to the entry of its key, and it is a whole result. -/
  moves : ∀ caller target contents, (caller, .moved target contents) ∈ shared.log →
    ∃ key result, calls caller = .put key result ∧ target = cache.entry key ∧
      encode result = .ok contents
  /-- What is seen of an entry is what was moved to it last before. -/
  reads : ∀ later earlier caller path seen,
    shared.log = later ++ (caller, .read path seen) :: earlier →
      ∃ key, calls caller = .get key ∧ path = cache.entry key ∧
        seen = lastStored cache calls initial key earlier
  once : ∀ caller, (effectsOf caller shared.log).length ≤ 1
  /-- A call that stores has come to its end without an error exactly if it has moved its
  result. -/
  stored : ∀ caller key result outcome, calls caller = .put key result →
    shared.threads caller = .acts (.done outcome) →
      ∃ ended, outcome = .stored ended ∧
        (ended = .ok () ↔ ∃ contents, (caller, .moved (cache.entry key) contents) ∈ shared.log)
  /-- A call that looks up has come to its end with what it has seen of its entry. -/
  found : ∀ caller key outcome, calls caller = .get key →
    shared.threads caller = .acts (.done outcome) →
      ∃ seen, (caller, .read (cache.entry key) seen) ∈ shared.log ∧
        outcome = .found (seen.bind decode?)

theorem mem_effectsOf_iff {caller : Caller} {effect : Effect} {log : List (Caller × Effect)} :
    effect ∈ effectsOf caller log ↔ (caller, effect) ∈ log := by
  simp [effectsOf]

theorem Invariant.atomic {cache : Cache} {calls : Caller → Call} {initial : Files}
    {shared : Shared Caller} {phases : Caller → Phase}
    (invariant : Invariant cache calls initial shared phases)
    (hexadecimal : ∀ caller, IsHexadecimal (calls caller).key) :
    Atomic cache calls initial shared := by
  have inPhase : ∀ caller effect, (caller, effect) ∈ shared.log ↔
      effect ∈ (phases caller).effects (cache.entry (calls caller).key) := by
    intro caller effect
    rw [← mem_effectsOf_iff, invariant.effects]
  constructor
  case entries => exact invariant.entries
  case changes =>
      rintro _ ⟨caller, acts⟩ key isKey
      obtain ⟨next, advance, stands⟩ := exists_advance (invariant.stands caller) acts
      rcases advance.moves_or_keeps (invariant.temporary caller) (hexadecimal caller) isKey with
        ⟨contents, same, rfl, rfl, holds⟩ | ⟨-, keeps⟩
      · obtain ⟨other, result, isPut, encoded⟩ := stands.of_stored
        rw [isPut, Call.key] at same
        subst same
        exact .inr ⟨caller, result, contents, isPut, encoded, rfl, holds⟩
      · exact .inl keeps
  case moves =>
      intro caller target contents member
      have isEffect := (inPhase caller _).mp member
      have stands := invariant.stands caller
      generalize phases caller = phase at isEffect stands
      cases phase with
      | idle | holds | filled | saw => simp [Phase.effects] at isEffect
      | stored whole =>
          simp only [Phase.effects, List.mem_singleton, Effect.moved.injEq] at isEffect
          obtain ⟨rfl, rfl⟩ := isEffect
          obtain ⟨key, result, isPut, encoded⟩ := stands.of_stored
          exact ⟨key, result, isPut, by rw [isPut]; rfl, encoded⟩
  case reads =>
      intro later earlier caller path seen isLog
      have isSeen := invariant.reads later earlier caller path seen isLog
      have member : (caller, Effect.read path seen) ∈ shared.log := by
        rw [isLog]
        exact List.mem_append_right _ List.mem_cons_self
      have isEffect := (inPhase caller _).mp member
      have stands := invariant.stands caller
      generalize phases caller = phase at isEffect stands
      cases phase with
      | idle | holds | filled | stored => simp [Phase.effects] at isEffect
      | saw other =>
          simp only [Phase.effects, List.mem_singleton, Effect.read.injEq] at isEffect
          obtain ⟨key, isGet⟩ := stands.of_saw
          rw [isGet] at isEffect isSeen
          exact ⟨key, isGet, isEffect.1, isSeen⟩
  case once =>
      intro caller
      rw [invariant.effects]
      cases phases caller <;> simp [Phase.effects]
  case stored =>
      intro caller key result outcome isPut isOver
      have stands := invariant.stands caller
      rw [isOver] at stands
      have ends := stands.endsIn
      simp only [inPhase, isPut, Call.key] at ends ⊢
      generalize phases caller = phase at ends ⊢
      cases ends with
      | stored encoded =>
          refine ⟨_, rfl, iff_of_true rfl ⟨_, List.mem_singleton_self _⟩⟩
      | failed error =>
          refine ⟨_, rfl, iff_of_false (fun impossible => nomatch impossible) ?_⟩
          rintro ⟨_, impossible⟩
          exact nomatch impossible
  case found =>
      intro caller key outcome isGet isOver
      have stands := invariant.stands caller
      rw [isOver] at stands
      have ends := stands.endsIn
      simp only [inPhase, isGet, Call.key] at ends ⊢
      generalize phases caller = phase at ends ⊢
      cases ends with
      | found seen => exact ⟨seen, List.mem_singleton_self _, rfl⟩

/-- Any number of calls that store and look up results under hexadecimal keys, whatever the
files hold before, and however their steps are mixed: an entry holds what was moved to it
last, which is the whole of what a call stores under its key, or what it held before; a
lookup sees what is in the entry of its key at that time; and a call that fails has moved
nothing. -/
theorem calls_are_atomic {cache : Cache} {calls : Caller → Call}
    (hexadecimal : ∀ caller, IsHexadecimal (calls caller).key) (initial : Files)
    {shared : Shared Caller} (steps : Steps (.start cache calls initial) shared) :
    Atomic cache calls initial shared := by
  obtain ⟨phases, invariant⟩ := steps.exists_invariant hexadecimal
  exact invariant.atomic hexadecimal

/-- Two callers: one stores an empty result, the other looks it up. -/
def twoCalls : Bool → Call
  | true => .put "0a" {}
  | false => .get "0a"

/-- The theorem at two callers of which one looks up while the other writes: it sees
nothing, and then the entry holds what was written. -/
theorem calls_are_atomic_two_callers :
    (∀ caller, IsHexadecimal (twoCalls caller).key) ∧
      ∃ contents shared,
        Steps (.start ⟨⟨"/c"⟩⟩ twoCalls fun _ => none) shared ∧
        encode {} = .ok contents ∧
        shared.log = [(true, .moved ⟨"/c/0a.json"⟩ contents), (false, .read ⟨"/c/0a.json"⟩ none)] ∧
        Atomic ⟨⟨"/c"⟩⟩ twoCalls (fun _ => none) shared := by
  have hexadecimal : ∀ caller, IsHexadecimal (twoCalls caller).key := by
    intro caller
    cases caller <;> simp [twoCalls, Call.key, IsHexadecimal]
  have start : Steps (.start ⟨⟨"/c"⟩⟩ twoCalls fun _ => none)
      (.start ⟨⟨"/c"⟩⟩ twoCalls fun _ => none) := .refl
  have made := start.tail (.act true (.makes ⟨"a", rfl⟩ rfl))
  have begun := made.tail (.act true .begins)
  have seen := begun.tail (.act false (.missing .notFound rfl))
  have wrote := seen.tail (.act true .writesAll)
  have ended := wrote.tail (.act true .ends)
  have moved := ended.tail (.act true (.moves rfl))
  constructor
  · exact hexadecimal
  · exact ⟨_, _, moved, rfl, rfl, calls_are_atomic hexadecimal _ moved⟩

end BuildExplorer.Cache
