import BuildExplorer.Host.Machine
import BuildExplorer.Proofs.Attempt
import BuildExplorer.Proofs.Path

/-!
# Files that are moved into place

Where the names of a path lead is told by the names alone; the tree only says whether all
that is on the way is there.  So a path leads to the same place in every tree that has
the same directories, and a file that was made, written and moved is found where it was
moved to, with all that was written.
-/

namespace BuildExplorer.Host

namespace FileTree

/-! ## Entries -/

/-- A place that is kept is found as before. -/
theorem lookup_filter {Value : Type} (keeps : Location → Bool) {key : Location}
    (kept : keeps key = true) (items : List (Location × Value)) :
    (items.filter fun item => keeps item.1).lookup key = items.lookup key := by
  induction items with
  | nil => rfl
  | cons item items inductionHypothesis =>
      rcases item with ⟨place, value⟩
      rw [List.filter_cons]
      split
      · rw [List.lookup_cons, List.lookup_cons, inductionHypothesis]
      · rename_i isDropped
        have misses : (key == place) = false := by
          rw [beq_eq_false_iff_ne]
          rintro rfl
          exact isDropped kept
        rw [inductionHypothesis, List.lookup_cons, misses]

theorem lookup_filter_of_ne {Value : Type} {key other : Location} (apart : key ≠ other)
    (items : List (Location × Value)) :
    (items.filter (·.1 != other)).lookup key = items.lookup key :=
  lookup_filter (· != other) (bne_iff_ne.mpr apart) items

theorem entry?_put_self (tree : FileTree) {location : Location} (named : location ≠ [])
    (entry : Entry) : entry? (tree.put location entry) location = some entry := by
  simp [ entry?, put, named]

theorem entry?_put_of_ne (tree : FileTree) {location other : Location} (apart : other ≠ location)
    (entry : Entry) : entry? (tree.put location entry) other = tree.entry? other := by
  have misses : (other == location) = false := by simpa using apart
  simp only [ entry?, put, List.lookup_cons, misses, lookup_filter_of_ne apart]

theorem entry?_erase_of_ne (tree : FileTree) {location other : Location}
    (apart : other ≠ location) : entry? (tree.erase location) other = tree.entry? other := by
  simp only [ entry?, erase, lookup_filter_of_ne apart]

/-! ## Where names lead -/

/-- Where a name leads from a location. -/
def stepTo (here : Location) (name : List Char) : Location :=
  if name.isEmpty || name = ['.'] then here
  else if name = ['.', '.'] then here.dropLast
  else here ++ [name]

/-- A name that is longer than two characters leads down. -/
theorem stepTo_of_long {here : Location} {name : List Char} (long : 2 < name.length) :
    stepTo here name = here ++ [name] := by
  have apart : ∀ short : List Char, short.length ≤ 2 → name ≠ short := by
    rintro short isShort rfl
    omega
  have silent : (name.isEmpty || name = ['.']) = false := by
    simp [apart [] (by decide), apart ['.'] (by decide)]
  rw [stepTo, silent, if_neg Bool.false_ne_true, if_neg (apart ['.', '.'] (by decide))]

/-- Where names lead if all that is on the way is there. -/
def follow (here : Location) (names : List (List Char)) : Location :=
  names.foldl stepTo here

/-- The locations that names lead through, from the one where they begin. -/
def stages (here : Location) (names : List (List Char)) : List Location :=
  names.scanl stepTo here

theorem stages_cons (here : Location) (name : List Char) (names : List (List Char)) :
    stages here (name :: names) = here :: stages (stepTo here name) names :=
  List.scanl_cons

/-- A name is followed from a directory, if it is not too long. -/
theorem walk_cons_eq_ok_iff {tree : FileTree} {here there : Location} {name : List Char}
    {names : List (List Char)} :
    walk tree here (name :: names) = .ok there ↔
      tree.entry? here = some .directory ∧ (Text.Utf8.encode name).length ≤ maxNameLength ∧
        walk tree (stepTo here name) names = .ok there := by
  rw [walk, stepTo]
  split
  · simp [*]
  · rename_i isDirectory
    by_cases silent : (name.isEmpty || name = ['.']) = true
    · have short : (Text.Utf8.encode name).length ≤ maxNameLength := by
        rw [Bool.or_eq_true, List.isEmpty_iff, decide_eq_true_eq] at silent
        rcases silent with rfl | rfl <;> decide
      rw [if_pos silent, if_pos silent]
      simp [isDirectory, short]
    · by_cases up : name = ['.', '.']
      · have short : (Text.Utf8.encode name).length ≤ maxNameLength := by
          rw [up]
          decide
        rw [if_neg silent, if_neg silent, if_pos up, if_pos up]
        simp [isDirectory, short]
      · rw [if_neg silent, if_neg silent, if_neg up, if_neg up]
        by_cases long : maxNameLength < (Text.Utf8.encode name).length
        · rw [if_pos long]
          simp [Nat.not_le.mpr long]
        · rw [if_neg long]
          simp [isDirectory, Nat.not_lt.mp long]
  · rename_i other notDirectory isEntry
    refine iff_of_false (fun impossible => nomatch impossible) ?_
    rintro ⟨isDirectory, -, -⟩
    rw [isEntry, Option.some.injEq] at isDirectory
    exact notDirectory isDirectory

theorem eq_follow_of_walk {tree : FileTree} {here there : Location} {names : List (List Char)}
    (walked : walk tree here names = .ok there) : there = follow here names := by
  induction names generalizing here with
  | nil => exact (Except.ok.inj walked).symm
  | cons name names inductionHypothesis =>
      obtain ⟨-, -, later⟩ := walk_cons_eq_ok_iff.mp walked
      exact inductionHypothesis later

/-- A walk does not notice what a tree has beside the directories on its way. -/
theorem walk_of_stages {tree changed : FileTree} {here there : Location}
    {names : List (List Char)}
    (keeps : ∀ stage ∈ stages here names, tree.entry? stage = some .directory →
      changed.entry? stage = some .directory)
    (walked : walk tree here names = .ok there) : walk changed here names = .ok there := by
  induction names generalizing here with
  | nil => exact walked
  | cons name names inductionHypothesis =>
      obtain ⟨isDirectory, short, later⟩ := walk_cons_eq_ok_iff.mp walked
      rw [stages_cons, List.forall_mem_cons] at keeps
      exact walk_cons_eq_ok_iff.mpr
        ⟨keeps.1 isDirectory, short, inductionHypothesis keeps.2 later⟩

theorem walk_append_eq_ok_iff {tree : FileTree} {here there : Location}
    {first second : List (List Char)} :
    walk tree here (first ++ second) = .ok there ↔
      ∃ between, walk tree here first = .ok between ∧ walk tree between second = .ok there := by
  induction first generalizing here with
  | nil =>
      constructor
      · intro walked
        exact ⟨here, rfl, walked⟩
      · rintro ⟨_, ⟨⟩, walked⟩
        exact walked
  | cons name names inductionHypothesis =>
      rw [List.cons_append, walk_cons_eq_ok_iff, inductionHypothesis]
      simp only [walk_cons_eq_ok_iff]
      constructor
      · rintro ⟨isDirectory, short, between, walked, later⟩
        exact ⟨between, ⟨isDirectory, short, walked⟩, later⟩
      · rintro ⟨between, ⟨isDirectory, short, walked⟩, later⟩
        exact ⟨isDirectory, short, between, walked, later⟩

theorem resolve_eq_ok_iff {tree : FileTree} {directory location : Location} {path : Path} :
    resolve tree directory path = .ok location ↔
      checkPath path = .ok () ∧
        walk tree (start directory path) (path.chars.splitOn '/') = .ok location := by
  rw [resolve, bind_eq_ok_iff]
  constructor
  · rintro ⟨_, checked, walked⟩
    exact ⟨checked, walked⟩
  · rintro ⟨checked, walked⟩
    exact ⟨(), checked, walked⟩

theorem find_eq_ok_iff {tree : FileTree} {directory location : Location} {path : Path}
    {entry : Entry} :
    find tree directory path = .ok (location, entry) ↔
      resolve tree directory path = .ok location ∧ tree.entry? location = some entry := by
  rw [find, bind_eq_ok_iff]
  constructor
  · rintro ⟨found, resolved, isEntry⟩
    cases there : tree.entry? found with
    | none =>
        rw [there] at isEntry
        cases isEntry
    | some other =>
        rw [there] at isEntry
        cases isEntry
        exact ⟨resolved, there⟩
  · rintro ⟨resolved, isEntry⟩
    refine ⟨location, resolved, ?_⟩
    rw [isEntry]

/-- A path leads to the same place in every tree that has the same directories. -/
theorem resolve_of_directories {tree changed : FileTree}
    (keeps : ∀ place, tree.entry? place = some .directory →
      changed.entry? place = some .directory)
    {directory location : Location} {path : Path}
    (resolved : resolve tree directory path = .ok location) :
    resolve changed directory path = .ok location := by
  obtain ⟨checked, walked⟩ := resolve_eq_ok_iff.mp resolved
  exact resolve_eq_ok_iff.mpr ⟨checked, walk_of_stages (fun stage _ => keeps stage) walked⟩

/-- All that names lead through to a directory are directories. -/
theorem entry?_of_mem_stages {tree : FileTree} {here there : Location} {names : List (List Char)}
    (walked : walk tree here names = .ok there) (isThere : tree.entry? there = some .directory) :
    ∀ stage ∈ stages here names, tree.entry? stage = some .directory := by
  induction names generalizing here with
  | nil =>
      obtain rfl := Except.ok.inj walked
      exact List.forall_mem_singleton.mpr isThere
  | cons name names inductionHypothesis =>
      obtain ⟨isDirectory, -, later⟩ := walk_cons_eq_ok_iff.mp walked
      rw [stages_cons, List.forall_mem_cons]
      exact ⟨isDirectory, inductionHypothesis later⟩

/-- Where a path leads if all that is on the way is there. -/
def goal (directory : Location) (path : Path) : Location :=
  follow (start directory path) (path.chars.splitOn '/')

theorem eq_goal_of_resolve {tree : FileTree} {directory location : Location} {path : Path}
    (resolved : resolve tree directory path = .ok location) : location = goal directory path :=
  eq_follow_of_walk (resolve_eq_ok_iff.mp resolved).2

/-- The root is no file. -/
theorem ne_nil_of_entry?_ne {tree : FileTree} {location : Location}
    (notDirectory : tree.entry? location ≠ some .directory) : location ≠ [] := by
  rintro rfl
  exact notDirectory rfl

/-! ## Files that are changed -/

/-- A path without a slash at its end is taken apart at its last slash. -/
theorem splitOn_eq_of_splitNames {path : Path} {before : List (List Char)} {last : List Char}
    (split : splitNames path = (before, last, false)) :
    path.chars.splitOn '/' = before ++ [last] := by
  generalize isPieces : (path.chars.splitOn '/').reverse = pieces at split
  have notEmpty : pieces ≠ [] := by
    rw [← isPieces]
    simp
  simp only [splitNames, isPieces, Prod.mk.injEq, decide_eq_false_iff_not, Nat.not_lt] at split
  obtain ⟨isBefore, isLast, noSlash⟩ := split
  have whole : pieces.dropWhile List.isEmpty = pieces :=
    (List.dropWhile_suffix _).eq_of_length_le noSlash
  obtain ⟨first, rest, rfl⟩ := List.exists_cons_of_ne_nil notEmpty
  rw [whole] at isBefore isLast
  rw [List.reverse_eq_iff] at isPieces
  rw [isPieces, ← isBefore, ← isLast]
  simp

/-- What is at a place once the file there was changed, or made. -/
def rewritten (change : List UInt8 → List UInt8) : Option Entry → Option Entry
  | none => some (.file (change []) false)
  | some (.file contents isExecutable) => some (.file (change contents) isExecutable)
  | some entry => some entry

/-- What is changed is what the path leads to, and nothing else. -/
theorem exists_of_updateFile {tree changed : FileTree} {directory : Location} {path : Path}
    {change : List UInt8 → List UInt8}
    (updated : updateFile tree directory path change = .ok changed) :
    ∃ location, resolve tree directory path = .ok location ∧
      tree.entry? location ≠ some .directory ∧
      changed.entry? location = rewritten change (tree.entry? location) ∧
      ∀ place, place ≠ location → changed.entry? place = tree.entry? place := by
  obtain ⟨_, checked, isUpdated⟩ := bind_eq_ok_iff.mp updated
  rcases split : splitNames path with ⟨before, last, slash⟩
  simp only [split] at isUpdated
  obtain ⟨parent, isParent, inParent⟩ := bind_eq_ok_iff.mp isUpdated
  obtain ⟨between, walkedBefore, isBetween⟩ := bind_eq_ok_iff.mp isParent
  obtain rfl : between = parent := by
    split at isBetween
    · cases isBetween
    · exact Except.ok.inj isBetween
    · cases isBetween
  cases slash with
  | true => cases inParent
  | false =>
      obtain ⟨location, walkedLast, isChanged⟩ := bind_eq_ok_iff.mp inParent
      refine ⟨location, resolve_eq_ok_iff.mpr ⟨checked, ?_⟩, ?_⟩
      · rw [splitOn_eq_of_splitNames split]
        exact walk_append_eq_ok_iff.mpr ⟨between, walkedBefore, walkedLast⟩
      · split at isChanged
        · rename_i isNew
          have notDirectory : tree.entry? location ≠ some .directory := by
            simp [isNew]
          cases isChanged
          rw [isNew, entry?_put_self tree (ne_nil_of_entry?_ne notDirectory)]
          exact ⟨nofun, rfl, fun place apart => entry?_put_of_ne tree apart _⟩
        · rename_i contents isExecutable isFile
          have notDirectory : tree.entry? location ≠ some .directory := by
            simp [isFile]
          cases isChanged
          rw [isFile, entry?_put_self tree (ne_nil_of_entry?_ne notDirectory)]
          exact ⟨nofun, rfl, fun place apart => entry?_put_of_ne tree apart _⟩
        · cases isChanged
        · rename_i entry notFile notDirectory isEntry
          cases isChanged
          have same : rewritten change (some entry) = some entry := by
            unfold rewritten
            split
            · exact absurd ‹_› (by simp)
            · rename_i isFile
              exact absurd (Option.some.inj isFile) (notFile _ _)
            · rename_i other
              exact other.symm
          rw [isEntry, same]
          exact ⟨fun isDirectory => notDirectory (Option.some.inj isDirectory), rfl,
            fun place _ => rfl⟩

/-- A change of a file leaves all directories. -/
theorem entry?_directory_of_updateFile {tree changed : FileTree} {directory place : Location}
    {path : Path} {change : List UInt8 → List UInt8}
    (updated : updateFile tree directory path change = .ok changed)
    (isDirectory : tree.entry? place = some .directory) :
    changed.entry? place = some .directory := by
  obtain ⟨location, -, notDirectory, -, others⟩ := exists_of_updateFile updated
  have apart : place ≠ location := by
    rintro rfl
    exact notDirectory isDirectory
  rw [others place apart, isDirectory]

/-- A file that has been written holds what was written. -/
theorem find_of_writeContents {tree changed : FileTree} {directory location : Location}
    {path : Path} {old contents : List UInt8} {isExecutable : Bool}
    (found : find tree directory path = .ok (location, .file old isExecutable))
    (written : writeContents tree directory path contents = .ok changed) :
    find changed directory path = .ok (location, .file contents isExecutable) := by
  obtain ⟨resolved, isFile⟩ := find_eq_ok_iff.mp found
  obtain ⟨place, led, -, isWritten, -⟩ := exists_of_updateFile written
  obtain rfl : place = location := Except.ok.inj (led.symm.trans resolved)
  apply find_eq_ok_iff.mpr
  constructor
  · exact resolve_of_directories (fun _ => entry?_directory_of_updateFile written) resolved
  · rw [isWritten, isFile]
    rfl

/-- A file that has been moved is read where it was moved to. -/
theorem readContents_of_moveFile {tree changed : FileTree} {directory origin : Location}
    {source target : Path} {contents : List UInt8} {isExecutable : Bool}
    (found : find tree directory source = .ok (origin, .file contents isExecutable))
    (moved : moveFile tree directory source target = .ok changed) :
    readContents changed directory target = .ok contents := by
  obtain ⟨⟨place, entry⟩, isFound, moved⟩ := bind_eq_ok_iff.mp moved
  obtain ⟨rfl, rfl⟩ := Prod.mk.inj (Except.ok.inj (found.symm.trans isFound))
  obtain ⟨goal, resolved, isMoved⟩ := bind_eq_ok_iff.mp moved
  obtain ⟨-, isFile⟩ := find_eq_ok_iff.mp found
  have isChanged : tree.entry? goal ≠ some .directory ∧
      changed = (tree.erase origin).put goal (.file contents isExecutable) := by
    split at isMoved
    · cases isMoved
    · cases isMoved
    · cases isMoved
    · rename_i notDirectory
      exact ⟨notDirectory, (Except.ok.inj isMoved).symm⟩
  obtain ⟨notDirectory, rfl⟩ := isChanged
  have read : find ((tree.erase origin).put goal (.file contents isExecutable)) directory target =
      .ok (goal, .file contents isExecutable) := by
    apply find_eq_ok_iff.mpr
    constructor
    · refine resolve_of_directories (fun place isDirectory => ?_) resolved
      have notGoal : place ≠ goal := by
        rintro rfl
        exact notDirectory isDirectory
      have notOrigin : place ≠ origin := by
        rintro rfl
        rw [isFile] at isDirectory
        cases isDirectory
      rw [entry?_put_of_ne _ notGoal, entry?_erase_of_ne tree notOrigin, isDirectory]
    · exact entry?_put_self _ (ne_nil_of_entry?_ne notDirectory) _
  rw [readContents, read]
  rfl

/-! ## Names in a directory -/

theorem chars_ne_nil_of_checkPath {path : Path} (checked : checkPath path = .ok ()) :
    path.chars ≠ [] := by
  intro isEmpty
  have noText : path.text.isEmpty = true := by
    rw [String.isEmpty_iff, ← String.toList_eq_nil_iff]
    exact isEmpty
  rw [checkPath, isEmpty, noText] at checked
  cases checked

theorem chars_ne_nil_of_resolve {tree : FileTree} {directory location : Location} {path : Path}
    (resolved : resolve tree directory path = .ok location) : path.chars ≠ [] :=
  chars_ne_nil_of_checkPath (resolve_eq_ok_iff.mp resolved).1

theorem follow_append (here : Location) (first second : List (List Char)) :
    follow here (first ++ second) = follow (follow here first) second :=
  List.foldl_append

theorem mem_stages_self (here : Location) (names : List (List Char)) :
    here ∈ stages here names := by
  cases names with
  | nil => exact List.mem_singleton.mpr rfl
  | cons name names => exact (stages_cons here name names) ▸ List.mem_cons_self

/-- Names lead through what the first of them lead through, and then the others. -/
theorem mem_stages_append_iff {here stage : Location} {first second : List (List Char)} :
    stage ∈ stages here (first ++ second) ↔
      stage ∈ stages here first ∨ stage ∈ stages (follow here first) second := by
  induction first generalizing here with
  | nil =>
      have isFirst : stage ∈ stages here [] → stage ∈ stages here second := fun isHere =>
        (List.mem_singleton.mp isHere) ▸ mem_stages_self here second
      exact ⟨.inr, fun isStage => isStage.elim isFirst id⟩
  | cons name names inductionHypothesis =>
      rw [List.cons_append, stages_cons, stages_cons, List.mem_cons, List.mem_cons,
        inductionHypothesis, or_assoc]
      rfl

theorem follow_splitOn_front (here : Location) (path : Path) :
    follow here (path.front.splitOn '/') = follow here (path.chars.splitOn '/') := by
  rcases path.chars_eq_front_or with ⟨-, isFront⟩ | ⟨-, isFront⟩
  · rw [isFront]
  · rw [isFront, Text.splitOn_append_cons, follow_append]
    rfl

/-- A name in a directory is followed from where the directory is. -/
theorem goal_join (directory : Location) {parent : Path} (isNamed : parent.chars ≠ [])
    {name : String} (relative : name.toList.head? ≠ some '/') :
    goal directory (parent.join name) =
      follow (goal directory parent) (name.toList.splitOn '/') := by
  rw [goal, goal, start, start, Path.isAbsolute_join isNamed relative,
    Path.splitOn_join isNamed relative, follow_append, follow_splitOn_front]

/-- A name without slashes is followed in one step. -/
theorem goal_join_single (directory : Location) {parent : Path} (isNamed : parent.chars ≠ [])
    {name : String} (whole : '/' ∉ name.toList) :
    goal directory (parent.join name) = stepTo (goal directory parent) name.toList := by
  have relative : name.toList.head? ≠ some '/' := fun isHead => whole (List.mem_of_head? isHead)
  rw [goal_join directory isNamed relative, List.splitOn_eq_singleton whole]
  rfl

end FileTree

namespace Machine

variable {Tools : Type}

/-! ## Fresh files -/

theorem not_mem_letters {char : Char} (noLetter : ∀ rest < 26, Char.ofNat ('a'.toNat + rest) ≠ char)
    (count number : Nat) : char ∉ letters count number := by
  induction count generalizing number with
  | zero => exact List.not_mem_nil
  | succ count inductionHypothesis =>
      rw [letters, List.mem_append, List.mem_singleton]
      rintro (earlier | isLast)
      · exact inductionHypothesis _ earlier
      · exact noLetter _ (Nat.mod_lt _ (by decide)) isLast.symm

/-- A fresh entry is in the directory that was given, under a name that has no slash and
that nothing there had before. -/
theorem exists_of_makeFresh {machine made : Machine Tools} {parent path : Path}
    {beginning : String} {entry : Entry}
    (isMade : machine.makeFresh parent beginning entry = (.ok path, made)) :
    ∃ location number,
      FileTree.find machine.tree machine.directory parent = .ok (location, .directory) ∧
      path = parent.join (String.ofList (numbered beginning number)) ∧
      machine.tree.entry? (location ++ [numbered beginning number]) = none ∧
      made.directory = machine.directory ∧
      made.tree = machine.tree.put (location ++ [numbered beginning number]) entry := by
  unfold makeFresh at isMade
  split at isMade
  · cases isMade
  · rename_i location found
    dsimp only at isMade
    split at isMade
    · cases isMade
    · rename_i isNew
      cases isMade
      exact ⟨location, _, found, rfl, isNew, rfl, rfl⟩
  · cases isMade

/-- What is known of a fresh entry whose path is given back: its parent has a path of its own,
and the path of the entry leads to its place, where there was nothing before. -/
structure Fresh (machine made : Machine Tools) (parent path : Path) (beginning : String)
    (entry : Entry) (number : Nat) : Prop where
  isNamed : parent.chars ≠ []
  isPath : path.chars ≠ []
  isGoal : FileTree.goal machine.directory path =
    FileTree.goal machine.directory parent ++ [numbered beginning number]
  isFree : machine.tree.entry? (FileTree.goal machine.directory path) = none
  sameDirectory : made.directory = machine.directory
  isTree : made.tree = machine.tree.put (FileTree.goal machine.directory path) entry

theorem exists_fresh {machine made : Machine Tools} {parent path : Path} {beginning : String}
    (whole : '/' ∉ beginning.toList) (long : 2 < beginning.toList.length) {entry : Entry}
    (isMade : machine.makeFresh parent beginning entry = (.ok path, made)) :
    ∃ number, Fresh machine made parent path beginning entry number := by
  obtain ⟨location, number, found, rfl, isFree, sameDirectory, isTree⟩ := exists_of_makeFresh isMade
  obtain ⟨isParent, -⟩ := FileTree.find_eq_ok_iff.mp found
  have isNamed := FileTree.chars_ne_nil_of_resolve isParent
  let name := String.ofList (numbered beginning number)
  have isName : name.toList = numbered beginning number := String.toList_ofList
  have wholeName : '/' ∉ name.toList := by
    rw [isName, numbered, List.mem_append, not_or]
    exact ⟨whole, not_mem_letters (by decide) _ _⟩
  have longName : 2 < name.toList.length := by
    rw [isName, numbered, List.length_append]
    exact Nat.lt_add_right _ long
  have isGoal : FileTree.goal machine.directory (parent.join name) =
      FileTree.goal machine.directory parent ++ [numbered beginning number] := by
    rw [FileTree.goal_join_single _ isNamed wholeName, FileTree.stepTo_of_long longName, isName]
  obtain rfl := FileTree.eq_goal_of_resolve isParent
  refine ⟨number, isNamed, ?_, isGoal, ?_, sameDirectory, ?_⟩
  · exact Path.chars_join_ne_nil isNamed fun isHead => wholeName (List.mem_of_head? isHead)
  · rwa [isGoal]
  · rwa [isGoal]

/-- A temporary file is found empty, if its path leads anywhere. -/
theorem find_temporary {machine made : Machine Tools} {parent path : Path} {place : Location}
    (isMade : machine.makeFresh parent ".tmp" (.file [] false) = (.ok path, made))
    (resolved : FileTree.resolve made.tree made.directory path = .ok place) :
    FileTree.find made.tree made.directory path = .ok (place, .file [] false) := by
  obtain ⟨number, fresh⟩ := exists_fresh (by decide) (by decide) isMade
  have isPlace : place = FileTree.goal machine.directory path := by
    rw [FileTree.eq_goal_of_resolve resolved, fresh.sameDirectory]
  have named : place ≠ [] := by
    rw [isPlace, fresh.isGoal]
    exact List.concat_ne_nil _ _
  refine FileTree.find_eq_ok_iff.mpr ⟨resolved, ?_⟩
  rw [fresh.isTree, ← isPlace]
  exact FileTree.entry?_put_self _ named _

/-- What an update brings is the tree of the machine. -/
theorem update_eq_ok_iff {machine changed : Machine Tools} {outcome : Except Fault FileTree} :
    machine.update outcome = (.ok (), changed) ↔
      ∃ tree, outcome = .ok tree ∧ changed = { machine with tree } := by
  cases outcome with
  | error fault => simp [update]
  | ok tree => simp [update, eq_comm]

end Machine

end BuildExplorer.Host

namespace BuildExplorer

/-! ## Hosts that keep files -/

/-- A host where nothing is changed by reading, and where a file that is made, written
and moved is read where it was moved to. -/
structure Host.KeepsFiles {World : Type} (host : Host World) : Prop where
  reads : ∀ path world, (host (.readContents path) world).2 = world
  places : ∀ {directory temporary target contents world made written moved},
    host (.makeTemporary directory) world = (.ok temporary, made) →
    host (.writeContents temporary contents) made = (.ok (), written) →
    host (.moveFile temporary target) written = (.ok (), moved) →
      (host (.readContents target) moved).1 = .ok contents

/-- Every machine keeps files, whatever its tools do. -/
theorem Host.Machine.answer_keepsFiles {Tools : Type} (execute : ToolBehaviour Tools) :
    Host.KeepsFiles (answer execute) := by
  constructor
  case reads => exact fun _ _ => rfl
  case places =>
      intro directory temporary target contents machine made written moved isMade isWritten isMoved
      obtain ⟨writtenTree, writes, rfl⟩ := update_eq_ok_iff.mp isWritten
      obtain ⟨movedTree, moves, rfl⟩ := update_eq_ok_iff.mp isMoved
      obtain ⟨place, resolved, -⟩ := FileTree.exists_of_updateFile writes
      have found := FileTree.find_of_writeContents (find_temporary isMade resolved) writes
      exact FileTree.readContents_of_moveFile found moves

end BuildExplorer
