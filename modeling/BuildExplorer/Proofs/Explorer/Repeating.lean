import BuildExplorer.Proofs.Cache.Interleaving
import BuildExplorer.Proofs.Explorer.Devices
import BuildExplorer.Proofs.Explorer.Ready
import BuildExplorer.Proofs.Host.Inside

/-!
# Requests that are repeated

Where the files of a cache can be written, a request that was built leaves the bytes of
its result in the entry of its key.  All that happens before the request is made again is
that the scratch directory is removed, and no entry is in there: the directory of the cache
was there when the scratch directory was made.  So the same result is served the second
time, without any tool, exactly if it comes back from these bytes: if the arguments of its
remarks last.
-/

namespace BuildExplorer

open Program (Always)
open Host (FileTree Machine ToolBehaviour)

variable {World : Type}

/-! ## Writes that succeed -/

/-- Was a file not made, not written or not moved? -/
def Host.Event.isRefused : Host.Event → Bool
  | ⟨.makeTemporary _, .error _⟩ => true
  | ⟨.writeContents _ _, .error _⟩ => true
  | ⟨.moveFile _ _, .error _⟩ => true
  | _ => false

/-- All files that were to be made, written and moved in the course of events were. -/
def WritesSucceed (events : List Host.Event) : Prop :=
  ∀ event ∈ events, event.isRefused = false

theorem writesSucceed_append_iff {earlier later : List Host.Event} :
    WritesSucceed (earlier ++ later) ↔ WritesSucceed earlier ∧ WritesSucceed later :=
  List.forall_mem_append

theorem exists_makes {host : Host World} {directory : Path} {world : World}
    (succeed : WritesSucceed ((Program.makeTemporary directory).trace host world)) :
    ∃ temporary made, host (.makeTemporary directory) world = (.ok temporary, made) := by
  have notRefused : Host.Event.isRefused ⟨_, (host (.makeTemporary directory) world).1⟩ = false :=
    succeed _ List.mem_cons_self
  rcases makes : host (.makeTemporary directory) world with ⟨fault | temporary, made⟩
  · rw [makes] at notRefused
    cases notRefused
  · exact ⟨temporary, made, rfl⟩

theorem exists_writes {host : Host World} {path : Path} {contents : Host.Bytes} {world : World}
    (succeed : WritesSucceed ((Program.writeContents path contents).trace host world)) :
    ∃ written, host (.writeContents path contents) world = (.ok (), written) := by
  have notRefused :
      Host.Event.isRefused ⟨_, (host (.writeContents path contents) world).1⟩ = false :=
    succeed _ List.mem_cons_self
  rcases writes : host (.writeContents path contents) world with ⟨fault | _, written⟩
  · rw [writes] at notRefused
    cases notRefused
  · exact ⟨written, rfl⟩

theorem exists_moves {host : Host World} {source target : Path} {world : World}
    (succeed : WritesSucceed ((Program.moveFile source target).trace host world)) :
    ∃ moved, host (.moveFile source target) world = (.ok (), moved) := by
  have notRefused :
      Host.Event.isRefused ⟨_, (host (.moveFile source target) world).1⟩ = false :=
    succeed _ List.mem_cons_self
  rcases moves : host (.moveFile source target) world with ⟨fault | _, moved⟩
  · rw [moves] at notRefused
    cases notRefused
  · exact ⟨moved, rfl⟩

namespace Cache

/-- A result that was stored is read as what was written of it. -/
theorem readContents_of_put {host : Host World} (keeps : host.KeepsFiles) {cache : Cache}
    {key : String} {result : Result} {contents : Host.Bytes} {world : World}
    (encoded : encode result = .ok contents)
    (succeed : WritesSucceed ((cache.put key result).trace host world)) :
    (host (.readContents (cache.entry key)) ((cache.put key result).run host world).2).1 =
      .ok contents := by
  unfold put at succeed ⊢
  rw [Program.trace_bind, writesSucceed_append_iff] at succeed
  obtain ⟨temporary, made, makes⟩ := exists_makes succeed.1
  have ran : (Program.makeTemporary cache.directory).run host world = (.ok temporary, made) := makes
  simp only [Program.run_bind, ran, encoded, Program.trace_bind, writesSucceed_append_iff]
    at succeed ⊢
  obtain ⟨written, writes⟩ := exists_writes succeed.2.1
  have ranWrite : (Program.writeContents temporary contents).run host made = (.ok (), written) :=
    writes
  simp only [ranWrite, place, Program.run_bind, Program.trace_bind, writesSucceed_append_iff]
    at succeed ⊢
  obtain ⟨moved, moves⟩ := exists_moves succeed.2.2.1
  have ranMove :
      (Program.moveFile temporary (cache.entry key)).run host written = (.ok (), moved) :=
    moves
  simp only [ranMove, Program.run_pure]
  exact keeps.places makes writes moves

/-- A lookup leaves a host that keeps files as it was. -/
theorem run_get_of_keepsFiles {host : Host World} (keeps : host.KeepsFiles) (cache : Cache)
    (key : String) (world : World) : ((cache.get key).run host world).2 = world := by
  have unchanged : ((Program.readContents (cache.entry key)).run host world).2 = world :=
    keeps.reads (cache.entry key) world
  unfold get
  rw [Program.run_bind, unchanged]
  split <;> rfl

/-! ## Names of entries -/

theorem not_mem_entryName {key : String} (hexadecimal : IsHexadecimal key) {char : Char}
    (noDigit : char ∉ "0123456789abcdefABCDEF".toList) (noEnding : char ∉ ".json".toList) :
    char ∉ (key ++ ".json").toList := by
  rw [String.toList_append, List.mem_append, not_or]
  exact ⟨fun member => noDigit (hexadecimal char member), noEnding⟩

/-- No entry has the name of a scratch directory. -/
theorem entryName_ne_numbered (key : String) (number : Nat) :
    (key ++ ".json").toList ≠ Machine.numbered "cohcc" number := by
  intro same
  have isIn : '.' ∈ Machine.numbered "cohcc" number := by
    rw [← same, String.toList_append]
    exact List.mem_append_right _ (by decide)
  rw [Machine.numbered, List.mem_append] at isIn
  rcases isIn with isBeginning | isLetter
  · exact absurd isBeginning (by decide)
  · exact Machine.not_mem_letters (by decide) _ _ isLetter

/-- The path of an entry leads through nothing inside of a fresh scratch directory, if the
directory of the cache was there before. -/
theorem entry_outside_scratch {Tools : Type} {machine made : Machine Tools} {cache : Cache}
    {key : String} {scratch : Path} (hexadecimal : IsHexadecimal key)
    (grounded : machine.tree.Grounded)
    (isOpen : FileTree.isDirectory machine.tree machine.directory cache.directory = true)
    (isMade : machine.makeFresh machine.scratchParent "cohcc" .directory = (.ok scratch, made)) :
    ∀ stage ∈ FileTree.way machine.directory (cache.entry key),
      ¬FileTree.goal machine.directory scratch <+: stage := by
  obtain ⟨number, fresh⟩ := Machine.exists_fresh (by decide) (by decide) isMade
  have outside := fresh.outside grounded isOpen
  obtain ⟨location, found⟩ := FileTree.exists_of_isDirectory isOpen
  have isNamed := FileTree.chars_ne_nil_of_resolve (FileTree.find_eq_ok_iff.mp found).1
  have whole : '/' ∉ (key ++ ".json").toList :=
    not_mem_entryName hexadecimal (by decide) (by decide)
  have long : 2 < (key ++ ".json").toList.length := by
    rw [String.toList_append, List.length_append]
    exact Nat.lt_add_left _ (by decide)
  intro stage member
  rcases FileTree.mem_way_join isNamed whole member with onTheWay | rfl
  · exact outside stage onTheWay
  · rw [FileTree.stepTo_of_long long, fresh.isGoal, List.prefix_concat_iff]
    rintro (same | inside)
    · exact entryName_ne_numbered key number
        (List.singleton_inj.mp (List.append_inj_right' same rfl)).symm
    · rw [← fresh.isGoal] at inside
      exact outside _ (FileTree.goal_mem_way _ _) inside

end Cache

namespace Explorer

/-! ## Where a result comes from -/

/-- What a set-up is once the request was checked. -/
theorem setUp_of_check {explorer : Explorer} {request : Request} {accepted : Accepted}
    (checked : check explorer.config request = .ok accepted) :
    explorer.setUp request = (do
      match ← explorer.lookup (keyOf explorer.config accepted request) with
      | some result => return .served result
      | none =>
          explorer.setUpFresh accepted request (userOptions explorer.config request)
            (keyOf explorer.config accepted request)) := by
  unfold setUp
  rw [checked]
  rfl

/-- Nothing is served by a set-up that has found nothing. -/
theorem setUpFresh_always_not_served (explorer : Explorer) (accepted : Accepted)
    (request : Request) (userOptions : List String) (key : String) :
    (explorer.setUpFresh accepted request userOptions key).Always fun setup =>
      ∀ stored, setup ≠ .served stored := by
  unfold setUpFresh
  refine Always.bind (Program.always_true _) fun scratch _ => ?_
  cases scratch with
  | error fault => exact Program.always_pure_iff.mpr fun _ => Setup.noConfusion
  | ok directory =>
      refine Always.bind (Program.always_true _) fun prepared _ => ?_
      cases prepared with
      | ok job => exact Program.always_pure_iff.mpr fun _ => Setup.noConfusion
      | error error =>
          exact Always.bind (Program.always_true _) fun _ _ =>
            Program.always_pure_iff.mpr fun _ => Setup.noConfusion

/-- A set-up that makes a job ready has begun with a fresh directory for it. -/
theorem exists_made_of_setUpFresh {host : Host World} {explorer : Explorer}
    {accepted other : Accepted} {request : Request} {userOptions : List String}
    {key otherKey : String} {directory : Path} {job : Job} {world readied : World}
    (ended : (explorer.setUpFresh accepted request userOptions key).run host world =
      (.ready other otherKey directory job, readied)) :
    ∃ made, host .makeScratch world = (.ok directory, made) := by
  rcases makes : host .makeScratch world with ⟨fault | scratch, made⟩
  all_goals
    have ran : Program.makeScratch.run host world = (_, made) := makes
    rw [setUpFresh, Program.run_bind, ran] at ended
  · cases ended
  · dsimp only at ended
    rw [Program.run_bind] at ended
    cases prepared :
        ((explorer.prepare accepted request userOptions scratch).run host made).1 with
    | error error =>
        rw [prepared] at ended
        dsimp only at ended
        rw [Program.run_bind] at ended
        cases ended
    | ok job =>
        rw [prepared] at ended
        cases ended
        exact ⟨made, rfl⟩

/-- What is done once a result was built in a directory: it is stored, and the directory is
removed. -/
def finish (explorer : Explorer) (key : String) (directory : Path) (result : Result) :
    Program Unit := do
  explorer.store key result
  explorer.dispose directory

/-- A result that is found is served: nothing else is done than to look it up. -/
structure Served (host : Host World) (explorer : Explorer) (request : Request) (key : String)
    (world : World) (result : Result) : Prop where
  found : ((explorer.lookup key).run host world).1 = some result
  runs : (explorer.compile request).run host world =
    (.ok result, ((explorer.lookup key).run host world).2)
  notBuilt : ¬Builds ((explorer.compile request).trace host world)
  idle : (explorer.compile request).invocations host world = []

/-- A result that is missing is built by some tools in a directory that was just made; in the
end it is stored and the directory is removed. -/
structure Built (host : Host World) (explorer : Explorer) (request : Request) (key : String)
    (world : World) (result : Result) : Prop where
  missing : ((explorer.lookup key).run host world).1 = none
  built : Builds ((explorer.compile request).trace host world)
  invokes : (explorer.compile request).invocations host world ≠ []
  devicesInOrder : result.DevicesInOrder
  finishes : ∃ directory made earlier start,
    host .makeScratch ((explorer.lookup key).run host world).2 = (.ok directory, made) ∧
    (explorer.compile request).trace host world =
      earlier ++ (explorer.finish key directory result).trace host start ∧
    ((explorer.compile request).run host world).2 =
      ((explorer.finish key directory result).run host start).2

theorem served_of_lookup {host : Host World} {explorer : Explorer} {request : Request}
    {accepted : Accepted} {world : World} {result : Result}
    (checked : check explorer.config request = .ok accepted)
    (found : ((explorer.lookup (keyOf explorer.config accepted request)).run host world).1 =
      some result) :
    Served host explorer request (keyOf explorer.config accepted request) world result := by
  have isSetUp := setUp_of_check checked
  have served : (explorer.setUp request).run host world = (.served result,
      ((explorer.lookup (keyOf explorer.config accepted request)).run host world).2) := by
    rw [isSetUp, Program.run_bind, found]
    rfl
  have events : (explorer.compile request).trace host world =
      (explorer.lookup (keyOf explorer.config accepted request)).trace host world := by
    rw [compile_eq_setUp, Program.trace_bind, served, isSetUp, Program.trace_bind, found]
    simp [conclude]
  constructor
  case found => exact found
  case runs =>
      rw [compile_eq_setUp, Program.run_bind, served]
      rfl
  case notBuilt =>
      rw [events]
      exact not_builds_lookup host explorer _ world
  case idle =>
      rw [compile_eq_setUp, Program.invocations_bind, invocations_setUp, served]
      rfl

/-- Where a job is ready in a directory that was just made, the request comes to the result
of its build. -/
theorem built_of_ready {host : Host World} {explorer : Explorer} {request : Request}
    {accepted : Accepted} {key : String} {directory : Path} {job : Job}
    {world made readied : World} {result : Result}
    (missing : ((explorer.lookup key).run host world).1 = none)
    (makes : host .makeScratch ((explorer.lookup key).run host world).2 = (.ok directory, made))
    (ended : (explorer.setUp request).run host world =
      (.ready accepted key directory job, readied))
    (isResult : ((explorer.compile request).run host world).1 = .ok result) :
    Built host explorer request key world result := by
  have ends := ends_setUp host explorer request world
  rw [ended] at ends
  have isBuilt : result = ((build explorer.config accepted.family job).run host readied).1 := by
    rw [compile_eq_setUp, Program.run_bind, ended] at isResult
    simp only [conclude, Program.run_bind, Program.run_pure] at isResult
    exact (Except.ok.inj isResult).symm
  constructor
  case missing => exact missing
  case built =>
      cases ends with
      | ready built isRequest =>
          rw [compile_eq_setUp, Program.trace_bind, builds_append_iff]
          exact .inl built
  case invokes =>
      rw [compile_eq_setUp, Program.invocations_bind, invocations_setUp, ended]
      simp only [conclude, Program.invocations_bind, List.nil_append]
      intro idle
      exact invocations_build_ne_nil host explorer.config accepted.family job readied
        (List.append_eq_nil_iff.mp idle).1
  case devicesInOrder =>
      rw [isBuilt]
      exact build_devicesInOrder host explorer.config accepted.family job readied
  case finishes =>
      refine ⟨directory, made, (explorer.setUp request).trace host world ++
        (build explorer.config accepted.family job).trace host readied,
        ((build explorer.config accepted.family job).run host readied).2, makes, ?_, ?_⟩
      · rw [compile_eq_setUp, Program.trace_bind, ended, isBuilt]
        simp only [conclude, finish, Program.trace_bind, Program.trace_pure, List.append_nil,
          List.append_assoc]
      · rw [compile_eq_setUp, Program.run_bind, ended, isBuilt]
        simp only [conclude, finish, Program.run_bind, Program.run_pure]

/-- A request comes to a result only if the result is served or built. -/
theorem served_or_built {host : Host World} {explorer : Explorer} {request : Request}
    {world : World} {result : Result}
    (isResult : ((explorer.compile request).run host world).1 = .ok result) :
    ∃ accepted, check explorer.config request = .ok accepted ∧
      (Served host explorer request (keyOf explorer.config accepted request) world result ∨
        Built host explorer request (keyOf explorer.config accepted request) world result) := by
  cases checked : check explorer.config request with
  | error error =>
      rw [compile, checked] at isResult
      cases isResult
  | ok accepted =>
      refine ⟨accepted, rfl, ?_⟩
      cases found :
          ((explorer.lookup (keyOf explorer.config accepted request)).run host world).1 with
      | some stored =>
          have served := served_of_lookup checked found
          rw [served.runs] at isResult
          obtain rfl := Except.ok.inj isResult
          exact .inl served
      | none =>
          right
          have isReady := (setUp_always_isReady explorer request).run host world
          have isFresh : (explorer.setUp request).run host world =
              (explorer.setUpFresh accepted request (userOptions explorer.config request)
                (keyOf explorer.config accepted request)).run host
                ((explorer.lookup (keyOf explorer.config accepted request)).run host world).2 := by
            rw [setUp_of_check checked, Program.run_bind, found]
          have notServed : ∀ stored,
              ((explorer.setUp request).run host world).1 ≠ .served stored := by
            rw [isFresh]
            exact (setUpFresh_always_not_served _ _ _ _ _).run host _
          rcases ended : (explorer.setUp request).run host world with ⟨setup, readied⟩
          rw [ended] at isReady notServed
          cases setup with
          | refused error =>
              rw [compile_eq_setUp, Program.run_bind, ended] at isResult
              cases isResult
          | served stored => exact absurd rfl (notServed stored)
          | ready other key directory job =>
              have ready := isReady other key directory job rfl
              obtain rfl := Except.ok.inj (checked.symm.trans ready.checked)
              obtain rfl := ready.isKey
              obtain ⟨made, makes⟩ := exists_made_of_setUpFresh (isFresh.symm.trans ended)
              exact built_of_ready found makes ended isResult

/-! ## The second time -/

/-- What was stored of a result is what is read under its key. -/
theorem readContents_of_store {host : Host World} (keeps : host.KeepsFiles) {explorer : Explorer}
    {cache : Cache} (hasCache : explorer.cache = some cache) {key : String} {result : Result}
    (clean : result.hasProcessFailure = false) {contents : Host.Bytes}
    (encoded : Cache.encode result = .ok contents) {world : World}
    (succeed : WritesSucceed ((explorer.store key result).trace host world)) :
    (host (.readContents (cache.entry key)) ((explorer.store key result).run host world).2).1 =
      .ok contents := by
  have isStore : explorer.store key result = cache.put key result >>= fun _ => pure () := by
    rw [store, hasCache]
    simp only [clean]
    rfl
  rw [isStore, Program.trace_bind, Program.trace_pure, List.append_nil] at succeed
  rw [isStore, Program.run_bind, Program.run_pure]
  exact Cache.readContents_of_put keeps encoded succeed

theorem lookup_of_contents {host : Host World} {explorer : Explorer} {cache : Cache}
    (hasCache : explorer.cache = some cache) {key : String} {contents : Host.Bytes} {world : World}
    (read : (host (.readContents (cache.entry key)) world).1 = .ok contents) :
    ((explorer.lookup key).run host world).1 = Cache.decode? contents := by
  rw [lookup, hasCache]
  exact Cache.run_get_of_contents read

theorem run_lookup_of_keepsFiles {host : Host World} (keeps : host.KeepsFiles) (explorer : Explorer)
    (key : String) (world : World) : ((explorer.lookup key).run host world).2 = world := by
  unfold lookup
  split
  · rfl
  · exact Cache.run_get_of_keepsFiles keeps _ key world

/-- Whatever is looked up can be written. -/
theorem lookup_always_writable (explorer : Explorer) (key : String) :
    (explorer.lookup key).Always fun found =>
      ∀ result, found = some result → ∃ contents, Cache.encode result = .ok contents := by
  unfold lookup
  split
  · exact Program.always_pure_iff.mpr fun _ impossible => nomatch impossible
  · refine Always.bind (Program.always_true _) fun contents _ => ?_
    cases contents with
    | error fault => exact Program.always_pure_iff.mpr fun _ impossible => nomatch impossible
    | ok contents =>
        exact Program.always_pure_iff.mpr fun _ decoded => Cache.exists_encode_of_decode? decoded

/-- A request is repeated if it comes to the same result again and runs no tool. -/
def Repeats (host : Host World) (explorer : Explorer) (request : Request) (world : World)
    (result : Result) : Prop :=
  ((explorer.compile request).run host world).1 = .ok result ∧
    (explorer.compile request).invocations host world = []

/-- What repeats is looked up. -/
theorem lookup_of_repeats {host : Host World} {explorer : Explorer} {request : Request}
    {accepted : Accepted} (checked : check explorer.config request = .ok accepted)
    {world : World} {result : Result} (repeats : Repeats host explorer request world result) :
    ((explorer.lookup (keyOf explorer.config accepted request)).run host world).1 =
      some result := by
  obtain ⟨isResult, idle⟩ := repeats
  obtain ⟨other, otherChecked, served | built⟩ := served_or_built isResult
  · obtain rfl := Except.ok.inj (checked.symm.trans otherChecked)
    exact served.found
  · exact absurd idle built.invokes

section Machines

variable {Tools : Type} (execute : ToolBehaviour Tools) {explorer : Explorer} {cache : Cache}
  {machine : Machine Tools} {result : Result}

/-- The entry of a key is read as before once a fresh scratch directory is removed. -/
theorem readContents_of_dispose {key : String} (hexadecimal : Cache.IsHexadecimal key)
    (grounded : machine.tree.Grounded)
    (isOpen : FileTree.isDirectory machine.tree machine.directory cache.directory = true)
    {scratch : Path} {made stored : Machine Tools}
    (isMade : Machine.answer execute .makeScratch machine = (.ok scratch, made))
    (sameDirectory : stored.directory = machine.directory) {contents : Host.Bytes}
    (read : (Machine.answer execute (.readContents (cache.entry key)) stored).1 = .ok contents) :
    (Machine.answer execute (.readContents (cache.entry key))
      ((explorer.dispose scratch).run (Machine.answer execute) stored).2).1 = .ok contents := by
  unfold dispose
  split
  · exact read
  · have outside := Cache.entry_outside_scratch hexadecimal grounded isOpen isMade
    rw [← sameDirectory] at outside
    exact Machine.readContents_removeAll outside read

/-- A result whose storing has gone well is looked up as what was written of it, after the
scratch directory is removed. -/
theorem lookup_of_finish (hasCache : explorer.cache = some cache) {key : String}
    (hexadecimal : Cache.IsHexadecimal key) (grounded : machine.tree.Grounded)
    (isOpen : FileTree.isDirectory machine.tree machine.directory cache.directory = true)
    {scratch : Path} {made start : Machine Tools}
    (isMade : Machine.answer execute .makeScratch machine = (.ok scratch, made))
    (sameDirectory : start.directory = machine.directory)
    (clean : result.hasProcessFailure = false) {contents : Host.Bytes}
    (encoded : Cache.encode result = .ok contents)
    (succeed : WritesSucceed
      ((explorer.finish key scratch result).trace (Machine.answer execute) start)) :
    ((explorer.lookup key).run (Machine.answer execute)
      ((explorer.finish key scratch result).run (Machine.answer execute) start).2).1 =
        Cache.decode? contents := by
  rw [finish, Program.trace_bind, writesSucceed_append_iff] at succeed
  have read := readContents_of_store (Machine.answer_keepsFiles execute) hasCache clean encoded
    succeed.1
  rw [← Machine.run_directory execute (explorer.store key result)] at sameDirectory
  rw [finish, Program.run_bind]
  exact lookup_of_contents hasCache
    (readContents_of_dispose execute hexadecimal grounded isOpen isMade sameDirectory read)

/-- A request to a machine with a cache whose files could all be written, whatever its
tools do, comes to its result again and runs no tool exactly if the result was served
already, or if the arguments of its remarks last.  The directory of the cache is there from
the beginning, since opening the cache has made it. -/
theorem machine_repeats_iff (hasCache : explorer.cache = some cache) {request : Request}
    (grounded : machine.tree.Grounded)
    (isOpen : FileTree.isDirectory machine.tree machine.directory cache.directory = true)
    (isResult : ((explorer.compile request).run (Machine.answer execute) machine).1 = .ok result)
    (clean : result.hasProcessFailure = false)
    (succeed : WritesSucceed
      ((explorer.compile request).trace (Machine.answer execute) machine)) :
    let left := ((explorer.compile request).run (Machine.answer execute) machine).2
    Repeats (Machine.answer execute) explorer request left result ↔
      (Builds ((explorer.compile request).trace (Machine.answer execute) machine) →
        result.RemarksLast) := by
  have unchanged := run_lookup_of_keepsFiles (Machine.answer_keepsFiles execute) explorer
  intro left
  obtain ⟨accepted, checked, served | built⟩ := served_or_built isResult
  · have isLeft : left = machine := (congrArg Prod.snd served.runs).trans (unchanged _ machine)
    rw [isLeft]
    exact iff_of_true ⟨isResult, served.idle⟩ fun builds => absurd builds served.notBuilt
  · obtain ⟨scratch, made, earlier, start, isMade, events, isLeft⟩ := built.finishes
    rw [unchanged] at isMade
    rw [events, writesSucceed_append_iff] at succeed
    have sameDirectory : start.directory = machine.directory := by
      rw [← Machine.run_directory execute (explorer.finish _ scratch result) start, ← isLeft,
        Machine.run_directory]
    have hexadecimal := Cache.isHexadecimal_cacheKey accepted.info request
      (userOptions explorer.config request)
    have stored : ∀ contents, Cache.encode result = .ok contents →
        ((explorer.lookup (keyOf explorer.config accepted request)).run (Machine.answer execute)
          left).1 = Cache.decode? contents := by
      intro contents encoded
      rw [show left = _ from isLeft]
      exact lookup_of_finish execute hasCache hexadecimal grounded isOpen isMade sameDirectory
        clean encoded succeed.2
    constructor
    · intro repeats _
      have found := lookup_of_repeats checked repeats
      obtain ⟨contents, encoded⟩ := (lookup_always_writable explorer _).run _ left result found
      rw [stored contents encoded] at found
      exact (Cache.comes_back_iff built.devicesInOrder).mp ⟨contents, encoded, found⟩
    · intro last
      obtain ⟨contents, encoded, decoded⟩ :=
        (Cache.comes_back_iff built.devicesInOrder).mpr (last built.built)
      have served := served_of_lookup checked ((stored contents encoded).trans decoded)
      constructor
      · rw [served.runs]
      · exact served.idle

end Machines

/-- A machine with a directory for a cache and one for scratch. -/
def cacheMachine : Machine Unit where
  tree := ⟨[([['c']], .directory), ([['t', 'm', 'p']], .directory)]⟩
  tools := ()

/-- Clang under the name of the plain compiler. -/
def clangCompiler : CompilerInfo :=
  { plainCompiler with family := "clang" }

/-- Tools that greet. -/
def greetingTools : ToolBehaviour Unit :=
  fun _ machine => ({ stdout := ["hello"] }, machine)

/-- Tools that greet and leave a remark where they run. -/
def remarkingTools : ToolBehaviour Unit := fun call machine =>
  let remark := "--- !Missed\nPass: inline\nName: NoDefinition\nArgs:\n  - Callee: f\n...\n"
  let path := (call.directory.getD ⟨"."⟩).join "output.opt.yaml"
  let (report, machine) := greetingTools call machine
  match FileTree.writeContents machine.tree machine.directory path (Host.bytesOf remark) with
  | .ok tree => (report, { machine with tree })
  | .error _ => (report, machine)

/-- The theorem at a request that brings a remark with an argument that lasts: the files are
written, and the second time the result is the same without a tool. -/
theorem machine_repeats_iff_remark :
    let explorer : Explorer :=
      { config := { compilers := [clangCompiler] }, cache := some ⟨⟨"/c"⟩⟩ }
    let request : Request := { compiler := "cc", optimizationRemarks := true }
    let host := Machine.answer remarkingTools
    ∃ (result : Result) (remark : Remark),
      ((explorer.compile request).run host cacheMachine).1 = .ok result ∧
      result.hasProcessFailure = false ∧ result.stdout.map (·.text) = ["hello"] ∧
      result.remarks = some [remark] ∧ remark.name = "NoDefinition" ∧
      remark.arguments = [[(.string "Callee", .string "f")]] ∧
      WritesSucceed ((explorer.compile request).trace host cacheMachine) ∧
      Repeats host explorer request
        ((explorer.compile request).run host cacheMachine).2 result := by
  intro explorer request host
  have checked : check explorer.config request = .ok ⟨clangCompiler, .clang, .cpp⟩ := rfl
  have isKey : keyOf explorer.config ⟨clangCompiler, .clang, .cpp⟩ request =
      "3009933e879adc4b975c5aaf2da7b5a1d4fc5c67791fc9a4d6e61a1a7f237833" := by
    decide +kernel
  have isSetUp := setUp_of_check checked
  rw [isKey] at isSetUp
  let view (remark : Remark) :=
    (remark.name, decide (remark.arguments.mapM Yaml.texts? = some [[("Callee", "f")]]))
  have shown : ((explorer.compile request).run host cacheMachine).1.toOption.map
      (fun result => (result.hasProcessFailure, result.stdout.map (·.text),
        result.remarks.map (·.map view))) =
        some (false, ["hello"], some [("NoDefinition", true)]) ∧
      ∀ event ∈ (explorer.compile request).trace host cacheMachine, event.isRefused = false := by
    rw [compile_eq_setUp, isSetUp]
    decide +kernel
  obtain ⟨result, isSome, isShown⟩ := Option.map_eq_some_iff.mp shown.1
  simp only [Prod.mk.injEq] at isShown
  obtain ⟨clean, greets, hasRemark⟩ := isShown
  obtain ⟨remarks, isRemarks, isOne⟩ := Option.map_eq_some_iff.mp hasRemark
  obtain ⟨remark, rfl, isRemark⟩ := List.map_eq_singleton_iff.mp isOne
  obtain ⟨isNamed, areTexts⟩ := Prod.mk.inj isRemark
  have arguments : remark.arguments = [Yaml.ofTexts [("Callee", "f")]] :=
    Json.eq_map_of_mapM (fun _ _ => Yaml.eq_ofTexts_of_texts?) (of_decide_eq_true areTexts)
  have isResult := eq_ok_of_toOption_eq_some isSome
  have last : result.RemarksLast := by
    rw [Result.RemarksLast, isRemarks]
    intro remarks isOnly other member record isRecord
    obtain rfl := Option.some.inj isOnly
    obtain rfl := List.mem_singleton.mp member
    rw [arguments] at isRecord
    obtain rfl := List.mem_singleton.mp isRecord
    have distinct : ([("Callee", "f")].map Prod.fst).Nodup := by decide
    exact Yaml.lasts_ofTexts distinct _
  refine ⟨result, remark, isResult, clean, greets, isRemarks, isNamed, arguments, shown.2, ?_⟩
  have grounded : cacheMachine.tree.Grounded := FileTree.grounded_of_entries (by decide)
  have isOpen : FileTree.isDirectory cacheMachine.tree cacheMachine.directory ⟨"/c"⟩ = true := by
    decide +kernel
  exact (machine_repeats_iff remarkingTools rfl grounded isOpen isResult clean shown.2).mpr
    fun _ => last

end Explorer

end BuildExplorer
