import Mathlib.Logic.Function.Basic
import Mathlib.Logic.Relation
import BuildExplorer.Cache
import BuildExplorer.CacheKey
import BuildExplorer.Proofs.Program.Trace

/-!
# Calls of a cache side by side

Any number of callers store and look up results in one directory.  Each runs the program
of its call, and one action of one of them is a step.  A file is written piece by piece,
and others may act between two pieces; every action but a lookup may fail.  Moving a file
is one step, and so is reading one.

What a program does to entries is kept in a log: the files that were moved, with what they
held, and the files that were read, with what was seen.
-/

namespace BuildExplorer

/-- Names in one directory have different paths. -/
theorem Path.join_injective {parent : Path} {first second : String}
    (firstRelative : first.toList.head? ≠ some '/')
    (secondRelative : second.toList.head? ≠ some '/')
    (same : parent.join first = parent.join second) : first = second := by
  have firstTest : (first.toList.head? == some '/') = false := by simpa using firstRelative
  have secondTest : (second.toList.head? == some '/') = false := by simpa using secondRelative
  rw [join, join, firstTest, secondTest] at same
  split at same
  · exact congrArg Path.text same
  · split at same
    all_goals
      have sameChars := congrArg (fun path : Path => path.text.toList) same
      exact String.toList_inj.mp (by simpa using sameChars)

namespace Cache

open Host (Bytes Fault)

/-! ## Keys -/

/-- A key of hexadecimal digits. -/
def IsHexadecimal (key : String) : Prop :=
  ∀ digit ∈ key.toList, digit ∈ "0123456789abcdefABCDEF".toList

instance (key : String) : Decidable (IsHexadecimal key) :=
  inferInstanceAs (Decidable (∀ digit ∈ key.toList, digit ∈ "0123456789abcdefABCDEF".toList))

/-- The keys of requests are hexadecimal. -/
theorem isHexadecimal_cacheKey (info : CompilerInfo) (request : Request) (options : List String) :
    IsHexadecimal (cacheKey info request options) := by
  have digits : ∀ value < 16, Nat.digitChar value ∈ "0123456789abcdefABCDEF".toList := by decide
  intro digit member
  simp only [cacheKey, Digest.Sha256.hex, String.toList_ofList, List.mem_flatMap,
    Digest.Sha256.wordHex, List.mem_map] at member
  obtain ⟨word, -, shift, -, rfl⟩ := member
  exact digits _ (Nat.mod_lt _ (by decide))

/-- The name of an entry does not lead out of the directory. -/
theorem head?_entryName {key : String} (hexadecimal : IsHexadecimal key) :
    (key ++ ".json").toList.head? ≠ some '/' := by
  rw [String.toList_append]
  cases chars : key.toList with
  | nil => decide
  | cons first rest =>
      have isDigit := hexadecimal first (by rw [chars]; exact List.mem_cons_self)
      rintro ⟨⟩
      exact absurd isDigit (by decide)

/-- Keys have different entries. -/
theorem entry_injective {cache : Cache} {first second : String}
    (firstHexadecimal : IsHexadecimal first) (secondHexadecimal : IsHexadecimal second)
    (same : cache.entry first = cache.entry second) : first = second := by
  have sameNames := Path.join_injective (head?_entryName firstHexadecimal)
    (head?_entryName secondHexadecimal) same
  have sameChars := congrArg String.toList sameNames
  exact String.toList_inj.mp (by simpa using sameChars)

/-- The path of a temporary file in a directory. -/
def IsTemporary (directory path : Path) : Prop :=
  ∃ letters : String, path = directory.join (".tmp" ++ letters)

/-- No temporary file is an entry. -/
theorem IsTemporary.ne_entry {cache : Cache} {path : Path}
    (isTemporary : IsTemporary cache.directory path) {key : String}
    (hexadecimal : IsHexadecimal key) : path ≠ cache.entry key := by
  rintro rfl
  obtain ⟨letters, same⟩ := isTemporary
  have relative : (".tmp" ++ letters).toList.head? ≠ some '/' := by
    rw [String.toList_append]
    exact fun impossible => nomatch impossible
  have sameNames := congrArg String.toList
    (Path.join_injective (head?_entryName hexadecimal) relative same)
  rw [String.toList_append, String.toList_append] at sameNames
  cases chars : key.toList with
  | nil =>
      rw [chars] at sameNames
      exact nomatch sameNames
  | cons first rest =>
      have isDigit := hexadecimal first (by rw [chars]; exact List.mem_cons_self)
      rw [chars] at sameNames
      obtain rfl : first = '.' := (List.cons.inj sameNames).1
      exact absurd isDigit (by decide)

/-! ## Calls -/

/-- What a caller wants of a cache. -/
inductive Call where
  | put (key : String) (result : Result)
  | get (key : String)

/-- The key that a call is about. -/
def Call.key : Call → String
  | .put key _ => key
  | .get key => key

/-- What a call comes to. -/
inductive Outcome where
  | stored (outcome : Except StoreError Unit)
  | found (result : Option Result)

/-- The program of a call. -/
def Call.program (cache : Cache) : Call → Program Outcome
  | .put key result => Outcome.stored <$> cache.put key result
  | .get key => Outcome.found <$> cache.get key

/-! ## Steps -/

/-- What files hold. -/
abbrev Files := Path → Option Bytes

/-- What is left of a program. -/
inductive Thread where
  /-- The next action is to be done, if there is one. -/
  | acts (program : Program Outcome)
  /-- The rest is still to be written to a file. -/
  | writes (path : Path) (rest : Bytes) (next : Except Fault Unit → Program Outcome)

/-- What others can see of a step, or what a step has seen of others. -/
inductive Effect where
  | moved (target : Path) (contents : Bytes)
  | read (path : Path) (seen : Option Bytes)

/-- A step of one program: what it does to the files, and what is left of the program. -/
inductive Acts (files : Files) : Thread → Files → Thread → Option Effect → Prop where
  | found {path : Path} {next : Except Fault Bytes → Program Outcome} {contents : Bytes}
      (holds : files path = some contents) :
      Acts files (.acts (.ask (.readContents path) next)) files (.acts (next (.ok contents)))
        (some (.read path (some contents)))
  | missing {path : Path} {next : Except Fault Bytes → Program Outcome} (fault : Fault)
      (isFree : files path = none) :
      Acts files (.acts (.ask (.readContents path) next)) files (.acts (next (.error fault)))
        (some (.read path none))
  | makes {directory temporary : Path} {next : Except Fault Path → Program Outcome}
      (isTemporary : IsTemporary directory temporary) (isFree : files temporary = none) :
      Acts files (.acts (.ask (.makeTemporary directory) next))
        (Function.update files temporary (some [])) (.acts (next (.ok temporary))) none
  | makesNone {directory : Path} {next : Except Fault Path → Program Outcome} (fault : Fault) :
      Acts files (.acts (.ask (.makeTemporary directory) next)) files
        (.acts (next (.error fault))) none
  | begins {path : Path} {contents : Bytes} {next : Except Fault Unit → Program Outcome} :
      Acts files (.acts (.ask (.writeContents path contents) next))
        (Function.update files path (some [])) (.writes path contents next) none
  | beginsNot {path : Path} {contents : Bytes} {next : Except Fault Unit → Program Outcome}
      (fault : Fault) :
      Acts files (.acts (.ask (.writeContents path contents) next)) files
        (.acts (next (.error fault))) none
  | writes {path : Path} {chunk rest : Bytes} {next : Except Fault Unit → Program Outcome} :
      Acts files (.writes path (chunk ++ rest) next)
        (Function.update files path (some ((files path).getD [] ++ chunk)))
        (.writes path rest next) none
  | ends {path : Path} {next : Except Fault Unit → Program Outcome} :
      Acts files (.writes path [] next) files (.acts (next (.ok ()))) none
  | breaksOff {path : Path} {rest : Bytes} {next : Except Fault Unit → Program Outcome}
      (fault : Fault) :
      Acts files (.writes path rest next) files (.acts (next (.error fault))) none
  | moves {source target : Path} {next : Except Fault Unit → Program Outcome} {contents : Bytes}
      (holds : files source = some contents) :
      Acts files (.acts (.ask (.moveFile source target) next))
        (Function.update (Function.update files source none) target (some contents))
        (.acts (next (.ok ()))) (some (.moved target contents))
  | movesNot {source target : Path} {next : Except Fault Unit → Program Outcome} (fault : Fault) :
      Acts files (.acts (.ask (.moveFile source target) next)) files
        (.acts (next (.error fault))) none
  | erases {path : Path} {next : Except Fault Unit → Program Outcome} :
      Acts files (.acts (.ask (.eraseFile path) next)) (Function.update files path none)
        (.acts (next (.ok ()))) none
  | erasesNot {path : Path} {next : Except Fault Unit → Program Outcome} (fault : Fault) :
      Acts files (.acts (.ask (.eraseFile path) next)) files (.acts (next (.error fault))) none

/-- What is left of a file can be written at once. -/
theorem Acts.writesAll {files : Files} {path : Path} {contents : Bytes}
    {next : Except Fault Unit → Program Outcome} :
    Acts files (.writes path contents next)
      (Function.update files path (some ((files path).getD [] ++ contents)))
      (.writes path [] next) none := by
  have acts := @Acts.writes files path contents [] next
  rwa [List.append_nil] at acts

variable {Caller : Type} [DecidableEq Caller]

/-- The files, what is left of each program, and the log, the latest first. -/
structure Shared (Caller : Type) where
  files : Files
  threads : Caller → Thread
  log : List (Caller × Effect) := []

/-- All programs are still to be run. -/
def Shared.start (cache : Cache) (calls : Caller → Call) (files : Files) : Shared Caller where
  files := files
  threads := fun caller => .acts ((calls caller).program cache)

/-- One caller acts. -/
inductive Step (before : Shared Caller) : Shared Caller → Prop where
  | act (caller : Caller) {files : Files} {thread : Thread} {effect : Option Effect}
      (acts : Acts before.files (before.threads caller) files thread effect) :
      Step before {
        files := files
        threads := Function.update before.threads caller thread
        log := (effect.map fun effect => (caller, effect)).toList ++ before.log }

/-- Any of the callers act, one after the other. -/
abbrev Steps : Shared Caller → Shared Caller → Prop :=
  Relation.ReflTransGen Step

/-! ## What a log tells -/

/-- The effects of a caller. -/
def effectsOf (caller : Caller) (log : List (Caller × Effect)) : List Effect :=
  (log.filter (·.1 = caller)).map Prod.snd

/-- What the entry of a key holds by a log: what was moved last by a caller that stores a
result under this key, or else what it held before. -/
def lastStored (cache : Cache) (calls : Caller → Call) (initial : Files) (key : String) :
    List (Caller × Effect) → Option Bytes
  | [] => initial (cache.entry key)
  | (caller, .moved _ contents) :: earlier =>
      if (calls caller).key = key then some contents
      else lastStored cache calls initial key earlier
  | (_, .read _ _) :: earlier => lastStored cache calls initial key earlier

end Cache

end BuildExplorer
