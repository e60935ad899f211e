import Mathlib.Data.List.Flatten
import Mathlib.Data.List.Induction
import BuildExplorer.Proofs.Host.Placing
import BuildExplorer.Proofs.Text.Utf8
import BuildExplorer.Request

/-!
# Directories that are filled

Files are written one after another into a directory that was empty before.  Where each of
them is kept is told by the components of its name, so a file replaces an earlier one
exactly if the components of their names are the same.  What the directory holds in the
end is at each place the last file that leads there; all else in it is directories.
-/

namespace BuildExplorer

/-! ## Files that lead to a place -/

/-- The names that an extra file leads through. -/
def ExtraFile.names (file : ExtraFile) : Host.Location :=
  (Path.mk file.name).components

/-- What the last of some files holds that lead to a place. -/
def lastContents (files : List ExtraFile) (names : Host.Location) : Option String :=
  (files.reverse.find? fun file => file.names = names).map (·.contents)

theorem lastContents_concat (files : List ExtraFile) (file : ExtraFile) (names : Host.Location) :
    lastContents (files ++ [file]) names =
      if file.names = names then some file.contents else lastContents files names := by
  rw [lastContents, List.reverse_concat, List.find?_cons]
  by_cases leads : file.names = names
  · simp [leads]
  · simp [leads, lastContents]

/-- What stands first counts only where nothing else leads. -/
theorem lastContents_cons (file : ExtraFile) (files : List ExtraFile) (names : Host.Location) :
    lastContents (file :: files) names =
      (lastContents files names <|> if file.names = names then some file.contents else none) := by
  rw [lastContents, List.reverse_cons, List.find?_append, lastContents]
  cases files.reverse.find? (fun file => file.names = names) with
  | none => by_cases leads : file.names = names <;> simp [leads]
  | some found => simp

/-- To a place that nothing else leads to, no file leads. -/
theorem lastContents_eq_none_iff {files : List ExtraFile} {names : Host.Location} :
    lastContents files names = none ↔ ∀ file ∈ files, file.names ≠ names := by
  simp [lastContents]

theorem exists_of_lastContents {files : List ExtraFile} {names : Host.Location} {text : String}
    (isLast : lastContents files names = some text) :
    ∃ file ∈ files, file.names = names ∧ file.contents = text := by
  obtain ⟨file, found, isText⟩ := Option.map_eq_some_iff.mp isLast
  have member := List.mem_of_find?_eq_some found
  have leads := List.find?_some found
  exact ⟨file, List.mem_reverse.mp member, of_decide_eq_true leads, isText⟩

namespace Host

/-- The bytes of a text. -/
def bytesOf (text : String) : Bytes :=
  Text.Utf8.encode text.toList

theorem bytesOf_injective : Function.Injective bytesOf := by
  intro first second same
  exact String.toList_injective (Text.Utf8.encode_injective same)

namespace FileTree

/-! ## Where names in a directory lead -/

/-- Names that do not lead up lead down. -/
theorem follow_eq_append {here : Location} {names : List (List Char)}
    (noneLeadsUp : ['.', '.'] ∉ names) :
    follow here names = here ++ names.filter fun name => !name.isEmpty && name != ['.'] := by
  induction names generalizing here with
  | nil => exact (List.append_nil here).symm
  | cons name names inductionHypothesis =>
      rw [List.mem_cons, not_or] at noneLeadsUp
      obtain ⟨notUp, rest⟩ := noneLeadsUp
      have isNext : follow here (name :: names) = follow (stepTo here name) names := rfl
      rw [isNext, inductionHypothesis rest, stepTo, List.filter_cons]
      by_cases silent : (name.isEmpty || name = ['.']) = true
      · have dropped : (!name.isEmpty && name != ['.']) = false := by
          rw [Bool.or_eq_true, decide_eq_true_eq] at silent
          rcases silent with isEmpty | isDot
          · simp [isEmpty]
          · simp [isDot]
        rw [if_pos silent, dropped]
        rfl
      · have kept : (!name.isEmpty && name != ['.']) = true := by
          simpa [not_or] using silent
        rw [if_neg silent, if_neg (Ne.symm notUp), kept, if_pos rfl, List.append_assoc]
        rfl

/-- A name that is allowed leads from a directory through its components. -/
theorem goal_join_of_allowed (directory : Location) {parent : Path} (isNamed : parent.chars ≠ [])
    {name : String} (allowed : Guard.checkFileName name = .ok ()) :
    goal directory (parent.join name) = goal directory parent ++ (Path.mk name).components := by
  rw [goal_join directory isNamed (Guard.relative_of_allowed allowed),
    follow_eq_append (Guard.up_not_mem_of_allowed allowed)]
  rfl

/-- What says nothing can be left out of names that are followed. -/
theorem walk_filter {tree : FileTree} {here there : Location} {names : List (List Char)}
    (walked : walk tree here names = .ok there) :
    walk tree here (names.filter fun name => !name.isEmpty && name != ['.']) = .ok there := by
  induction names generalizing here with
  | nil => exact walked
  | cons name names inductionHypothesis =>
      obtain ⟨isDirectory, short, later⟩ := walk_cons_eq_ok_iff.mp walked
      rw [List.filter_cons]
      split
      · exact walk_cons_eq_ok_iff.mpr ⟨isDirectory, short, inductionHypothesis later⟩
      · rename_i silent
        have stays : stepTo here name = here := by
          rw [stepTo, if_pos (by simpa [Decidable.or_iff_not_imp_left] using silent)]
        rw [stays] at later
        exact inductionHypothesis later

theorem checkPath_eq_ok_iff {path : Path} :
    checkPath path = .ok () ↔
      '\x00' ∉ path.chars ∧ path.chars ≠ [] ∧
        (Text.Utf8.encode path.chars).length ≤ maxPathLength := by
  have isEmptyIff : path.text.isEmpty = true ↔ path.chars = [] := by
    rw [String.isEmpty_iff, ← String.toList_eq_nil_iff]
    rfl
  unfold checkPath
  by_cases holdsNull : '\x00' ∈ path.chars
  · simp [holdsNull]
  by_cases isEmpty : path.chars = []
  · simp [isEmptyIff, isEmpty]
  · simp [holdsNull, isEmptyIff, isEmpty, apply_ite (· = Except.ok ())]

/-- A path is taken if a longer one is. -/
theorem checkPath_of_sublist {path longer : Path} (named : path.chars ≠ [])
    (shorter : path.chars.Sublist longer.chars) (checked : checkPath longer = .ok ()) :
    checkPath path = .ok () := by
  obtain ⟨noNull, -, short⟩ := checkPath_eq_ok_iff.mp checked
  refine checkPath_eq_ok_iff.mpr ⟨fun holdsNull => noNull (shorter.subset holdsNull), named, ?_⟩
  exact Nat.le_trans (shorter.flatMap String.utf8EncodeChar).length_le short

/-- A name leads where its components lead. -/
theorem resolve_join_spoken {tree : FileTree} {directory location : Location} {parent : Path}
    (isNamed : parent.chars ≠ []) {name : String} (relative : name.toList.head? ≠ some '/')
    (speaks : (Path.mk name).components ≠ [])
    (resolved : resolve tree directory (parent.join name) = .ok location) :
    resolve tree directory (parent.join (Path.spoken (Path.mk name).components)) =
      .ok location := by
  have spokenRelative := (Path.mk name).relative_spoken
  obtain ⟨checked, walked⟩ := resolve_eq_ok_iff.mp resolved
  refine resolve_eq_ok_iff.mpr ⟨?_, ?_⟩
  · refine checkPath_of_sublist (Path.chars_join_ne_nil isNamed spokenRelative) ?_ checked
    rw [Path.chars_join isNamed spokenRelative, Path.chars_join isNamed relative]
    exact (List.Sublist.refl _).append ((Path.spoken_components_sublist name).cons_cons '/')
  · rw [start, Path.isAbsolute_join isNamed relative, Path.splitOn_join isNamed relative] at walked
    rw [start, Path.isAbsolute_join isNamed spokenRelative,
      Path.splitOn_join isNamed spokenRelative, Path.splitOn_spoken speaks]
    obtain ⟨between, walkedParent, walkedName⟩ := walk_append_eq_ok_iff.mp walked
    exact walk_append_eq_ok_iff.mpr ⟨between, walkedParent, walk_filter walkedName⟩

/-! ## Entries that lie in directories -/

/-- Every entry of the tree lies in a directory of the tree. -/
def Grounded (tree : FileTree) : Prop :=
  ∀ location, tree.entry? location ≠ none → tree.entry? location.dropLast = some .directory

/-- A tree is grounded if each entry that is kept in it is. -/
theorem grounded_of_entries {tree : FileTree}
    (inDirectories : ∀ item ∈ tree.entries, tree.entry? item.1.dropLast = some .directory) :
    tree.Grounded := by
  intro location isThere
  cases location with
  | nil => rfl
  | cons name names =>
      obtain ⟨entry, isEntry⟩ := Option.ne_none_iff_exists'.mp isThere
      obtain ⟨before, behind, isCut, -⟩ := List.lookup_eq_some_iff.mp isEntry
      exact inDirectories (name :: names, entry) (by simp [isCut])

/-- Where there is nothing, there is nothing below. -/
theorem Grounded.entry?_below {tree : FileTree} (grounded : tree.Grounded) {home : Location}
    (isFree : tree.entry? home = none) (names : Location) : tree.entry? (home ++ names) = none := by
  induction names using List.reverseRecOn with
  | nil => rwa [List.append_nil]
  | append_singleton names name inductionHypothesis =>
      by_contra isThere
      have isDirectory := grounded _ isThere
      rw [← List.append_assoc, List.dropLast_concat, inductionHypothesis] at isDirectory
      cases isDirectory

/-! ## Directories that are made -/

/-- Directories were made where there was nothing, and nothing else has changed. -/
def Grows (before after : FileTree) : Prop :=
  ∀ place, after.entry? place = before.entry? place ∨
    before.entry? place = none ∧ after.entry? place = some .directory

theorem Grows.refl (tree : FileTree) : Grows tree tree :=
  fun _ => .inl rfl

theorem Grows.trans {first second third : FileTree} (grows : Grows first second)
    (later : Grows second third) : Grows first third := by
  intro place
  rcases later place with same | ⟨isFree, isMade⟩
  · rw [same]
    exact grows place
  · rcases grows place with unchanged | ⟨-, alreadyMade⟩
    · exact .inr ⟨unchanged ▸ isFree, isMade⟩
    · rw [alreadyMade] at isFree
      cases isFree

theorem Grows.entry?_directory {before after : FileTree} (grows : Grows before after)
    {place : Location} (isDirectory : before.entry? place = some .directory) :
    after.entry? place = some .directory := by
  rcases grows place with same | ⟨isFree, -⟩
  · rwa [same]
  · rw [isDirectory] at isFree
    cases isFree

theorem grows_put_directory {tree : FileTree} {location : Location}
    (isFree : tree.entry? location = none) : Grows tree (tree.put location .directory) := by
  intro place
  by_cases here : place = location
  · have notDirectory : tree.entry? location ≠ some .directory := by simp [isFree]
    rw [here]
    exact .inr ⟨isFree, entry?_put_self tree (ne_nil_of_entry?_ne notDirectory) _⟩
  · exact .inl (entry?_put_of_ne tree here _)

/-- Empty names lead nowhere. -/
theorem follow_of_empty {here : Location} {names : List (List Char)}
    (empty : ∀ name ∈ names, name = []) : follow here names = here := by
  induction names with
  | nil => rfl
  | cons name names inductionHypothesis =>
      obtain ⟨rfl, others⟩ := List.forall_mem_cons.mp empty
      exact inductionHypothesis others

/-- Slashes at the end do not change where a path leads. -/
theorem goal_eq_of_splitNames (directory : Location) {path : Path} {before : List (List Char)}
    {last : List Char} {slash : Bool} (split : splitNames path = (before, last, slash)) :
    goal directory path = follow (follow (start directory path) before) [last] := by
  generalize isPieces : (path.chars.splitOn '/').reverse = pieces at split
  simp only [splitNames, isPieces, Prod.mk.injEq] at split
  obtain ⟨isBefore, isLast, -⟩ := split
  have empty : ∀ name ∈ (pieces.takeWhile List.isEmpty).reverse, name = [] := by
    intro name member
    have allEmpty := List.all_eq_true.mp (List.all_takeWhile (p := List.isEmpty) (l := pieces))
    exact List.isEmpty_iff.mp (allEmpty name (List.mem_reverse.mp member))
  have parts := List.takeWhile_append_dropWhile (p := List.isEmpty) (l := pieces)
  rw [goal, List.reverse_eq_iff.mp isPieces, ← parts, List.reverse_append, follow_append,
    follow_of_empty empty, ← isBefore, ← isLast]
  cases pieces.dropWhile List.isEmpty with
  | nil => rfl
  | cons name names =>
      rw [List.reverse_cons, follow_append]
      rfl

/-- A directory that is made is where the path leads, and there was nothing before. -/
theorem exists_of_makeDirectory {tree changed : FileTree} {directory : Location} {path : Path}
    (made : makeDirectory tree directory path = .ok changed) :
    tree.entry? (goal directory path) = none ∧
      changed = tree.put (goal directory path) .directory := by
  obtain ⟨_, -, isMade⟩ := bind_eq_ok_iff.mp made
  rcases split : splitNames path with ⟨before, last, slash⟩
  simp only [split] at isMade
  obtain ⟨parent, isParent, inParent⟩ := bind_eq_ok_iff.mp isMade
  obtain ⟨between, walkedBefore, isBetween⟩ := bind_eq_ok_iff.mp isParent
  obtain rfl : between = parent := by
    split at isBetween
    · cases isBetween
    · exact Except.ok.inj isBetween
    · cases isBetween
  split at inParent
  · cases inParent
  · obtain ⟨location, walkedLast, isChanged⟩ := bind_eq_ok_iff.mp inParent
    have isGoal : location = goal directory path := by
      rw [goal_eq_of_splitNames directory split, eq_follow_of_walk walkedLast,
        eq_follow_of_walk walkedBefore]
    split at isChanged
    · rename_i isFree
      cases isChanged
      rw [← isGoal]
      exact ⟨isFree, rfl⟩
    · cases isChanged

theorem grows_of_makeDirectory {tree changed : FileTree} {directory : Location} {path : Path}
    (made : makeDirectory tree directory path = .ok changed) : Grows tree changed := by
  obtain ⟨isFree, rfl⟩ := exists_of_makeDirectory made
  exact grows_put_directory isFree

/-- A relation that holds between a tree and what comes of it when a directory is made at one
of some paths.  The parents of these paths are among them. -/
structure Growth (related : FileTree → FileTree → Prop) (directory : Location)
    (among : Path → Prop) : Prop where
  refl : ∀ tree, related tree tree
  trans : ∀ {first second third}, related first second → related second third →
    related first third
  upward : ∀ {path parent}, among path → path.parent? = some parent → among parent
  makes : ∀ {tree path changed}, among path →
    makeDirectory tree directory path = .ok changed → related tree changed

namespace Growth

variable {related : FileTree → FileTree → Prop} {directory : Location} {among : Path → Prop}
  (growth : Growth related directory among)

include growth

theorem ensureDirectory {tree changed : FileTree} {path : Path} (isAmong : among path)
    (made : ensureDirectory tree directory path = .ok changed) : related tree changed := by
  unfold FileTree.ensureDirectory at made
  split at made
  · rename_i isMade
    cases made
    exact growth.makes isAmong isMade
  · split at made
    · cases made
      exact growth.refl _
    · cases made

theorem makeWithParents (fuel : Nat) (tree : FileTree) {path : Path} (isAmong : among path) :
    related tree (makeWithParents directory fuel tree path).1 := by
  induction fuel generalizing tree path with
  | zero => exact growth.refl tree
  | succ fuel inductionHypothesis =>
      unfold FileTree.makeWithParents
      split
      · rename_i made
        exact growth.ensureDirectory isAmong made
      · rename_i parent _ isParent
        split
        · exact growth.refl tree
        · have parents := inductionHypothesis tree (growth.upward isAmong isParent)
          split
          · rename_i isMade
            rwa [isMade] at parents
          · rename_i isMade
            rw [isMade] at parents
            split
            · rename_i last
              exact growth.trans parents (growth.ensureDirectory isAmong last)
            · exact parents
      · exact growth.refl tree

/-- The relation holds between a tree and the tree with all directories that lead to one of
the paths. -/
theorem createDirectories (tree : FileTree) {path : Path} (isAmong : among path) :
    related tree (createDirectories tree directory path).1 := by
  unfold FileTree.createDirectories
  split
  · exact growth.refl tree
  · exact growth.makeWithParents _ tree isAmong

end Growth

/-- Directories are made without a change to what is there. -/
theorem grows_createDirectories (tree : FileTree) (directory : Location) (path : Path) :
    Grows tree (createDirectories tree directory path).1 := by
  have growth : Growth Grows directory fun _ => True :=
    { refl := Grows.refl, trans := Grows.trans, upward := fun _ _ => trivial
      makes := fun _ => grows_of_makeDirectory }
  exact growth.createDirectories tree trivial

/-! ## What a directory holds -/

/-- A directory holds some files, the last one at each place that they lead to; besides
them there are only directories in it. -/
structure Holds (tree : FileTree) (home : Location) (files : List ExtraFile) : Prop where
  placed : ∀ {names text}, lastContents files names = some text →
    tree.entry? (home ++ names) = some (.file (bytesOf text) false)
  others : ∀ {names}, lastContents files names = none →
    tree.entry? (home ++ names) = none ∨ tree.entry? (home ++ names) = some .directory

/-- A directory that was just made holds nothing. -/
theorem Grounded.holds_put {tree : FileTree} (grounded : tree.Grounded) {home : Location}
    (isFree : tree.entry? home = none) : (tree.put home .directory).Holds home [] where
  placed := nofun
  others := by
    intro names _
    rcases grows_put_directory isFree (home ++ names) with same | ⟨-, isMade⟩
    · rw [same]
      exact .inl (grounded.entry?_below isFree names)
    · exact .inr isMade

theorem Holds.grow {before after : FileTree} {home : Location} {files : List ExtraFile}
    (holds : before.Holds home files) (grows : Grows before after) : after.Holds home files := by
  constructor
  case placed =>
      intro names text isLast
      rcases grows (home ++ names) with same | ⟨isFree, -⟩
      · rw [same]
        exact holds.placed isLast
      · rw [holds.placed isLast] at isFree
        cases isFree
  case others =>
      intro names noneLeads
      rcases grows (home ++ names) with same | ⟨-, isMade⟩
      · rw [same]
        exact holds.others noneLeads
      · exact .inr isMade

/-- A file that is written is at its place, and all else stays. -/
theorem Holds.write {before after : FileTree} {home : Location} {files : List ExtraFile}
    (holds : before.Holds home files) {directory : Location} {path : Path} {file : ExtraFile}
    (isGoal : goal directory path = home ++ file.names)
    (written : writeContents before directory path (bytesOf file.contents) = .ok after) :
    after.Holds home (files ++ [file]) := by
  obtain ⟨location, resolved, notDirectory, isWritten, others⟩ := exists_of_updateFile written
  obtain rfl : location = home ++ file.names := (eq_goal_of_resolve resolved).trans isGoal
  have isFile : after.entry? (home ++ file.names) =
      some (.file (bytesOf file.contents) false) := by
    rw [isWritten]
    cases isLast : lastContents files file.names with
    | some text =>
        rw [holds.placed isLast]
        rfl
    | none =>
        rcases holds.others isLast with isFree | isDirectory
        · rw [isFree]
          rfl
        · exact absurd isDirectory notDirectory
  have elsewhere : ∀ {names}, file.names ≠ names →
      after.entry? (home ++ names) = before.entry? (home ++ names) := by
    intro names apart
    exact others _ fun same => apart (List.append_cancel_left same).symm
  constructor
  case placed =>
      intro names text isLast
      rw [lastContents_concat] at isLast
      split at isLast
      · rename_i leads
        cases isLast
        rwa [← leads]
      · rename_i apart
        rw [elsewhere apart]
        exact holds.placed isLast
  case others =>
      intro names noneLeads
      rw [lastContents_concat] at noneLeads
      split at noneLeads
      · cases noneLeads
      · rename_i apart
        rw [elsewhere apart]
        exact holds.others noneLeads

/-- A file that is changed elsewhere leaves a directory as it was. -/
theorem entry?_below_of_updateFile {before after : FileTree} {home directory : Location}
    {path : Path} {change : List UInt8 → List UInt8} (elsewhere : ¬home <+: goal directory path)
    (updated : updateFile before directory path change = .ok after) (names : Location) :
    after.entry? (home ++ names) = before.entry? (home ++ names) := by
  obtain ⟨location, resolved, -, -, others⟩ := exists_of_updateFile updated
  refine others _ ?_
  rintro rfl
  rw [← eq_goal_of_resolve resolved] at elsewhere
  exact elsewhere (List.prefix_append home names)

/-- A file that is changed elsewhere leaves what a directory holds. -/
theorem Holds.update {before after : FileTree} {home directory : Location}
    {files : List ExtraFile} (holds : before.Holds home files) {path : Path}
    {change : List UInt8 → List UInt8} (elsewhere : ¬home <+: goal directory path)
    (updated : updateFile before directory path change = .ok after) : after.Holds home files := by
  have same := entry?_below_of_updateFile elsewhere updated
  constructor
  case placed =>
      intro names text isLast
      rw [same]
      exact holds.placed isLast
  case others =>
      intro names noneLeads
      rw [same]
      exact holds.others noneLeads

/-- A file that is held is read under each name that leads to it. -/
theorem Holds.readContents {tree : FileTree} {home : Location} {files : List ExtraFile}
    (holds : tree.Holds home files) {directory : Location} {path : Path} {names : Location}
    {text : String} (resolved : resolve tree directory path = .ok (home ++ names))
    (isLast : lastContents files names = some text) :
    readContents tree directory path = .ok (bytesOf text) := by
  have found := find_eq_ok_iff.mpr ⟨resolved, holds.placed isLast⟩
  rw [FileTree.readContents, found]
  rfl

/-! ## Trees that hold at most some files -/

/-- All that is in a directory, besides directories, is the last of some files at each place
that they lead to. -/
def HoldsAtMost (tree : FileTree) (home : Location) (files : List ExtraFile) : Prop :=
  ∀ names entry, tree.entry? (home ++ names) = some entry → entry ≠ .directory →
    ∃ text, lastContents files names = some text ∧ entry = .file (bytesOf text) false

theorem Holds.atMost {tree : FileTree} {home : Location} {files : List ExtraFile}
    (holds : tree.Holds home files) : tree.HoldsAtMost home files := by
  intro names entry isEntry notDirectory
  cases isLast : lastContents files names with
  | some text =>
      rw [holds.placed isLast] at isEntry
      exact ⟨text, rfl, (Option.some.inj isEntry).symm⟩
  | none =>
      rcases holds.others isLast with isFree | isDirectory
      · rw [isFree] at isEntry
        cases isEntry
      · rw [isDirectory] at isEntry
        exact absurd (Option.some.inj isEntry).symm notDirectory

/-- What adds only directories to a directory adds nothing to what it holds. -/
theorem HoldsAtMost.of_entries {before after : FileTree} {home : Location}
    {files : List ExtraFile} (holds : before.HoldsAtMost home files)
    (kept : ∀ names entry, after.entry? (home ++ names) = some entry → entry ≠ .directory →
      before.entry? (home ++ names) = some entry) : after.HoldsAtMost home files :=
  fun _ _ isEntry notDirectory => holds _ _ (kept _ _ isEntry notDirectory) notDirectory

theorem HoldsAtMost.grow {before after : FileTree} {home : Location} {files : List ExtraFile}
    (holds : before.HoldsAtMost home files) (grows : Grows before after) :
    after.HoldsAtMost home files := by
  refine holds.of_entries fun names entry isEntry notDirectory => ?_
  rcases grows (home ++ names) with same | ⟨-, isMade⟩
  · rwa [← same]
  · rw [isMade] at isEntry
    exact absurd (Option.some.inj isEntry).symm notDirectory

theorem HoldsAtMost.update {before after : FileTree} {home : Location} {files : List ExtraFile}
    (holds : before.HoldsAtMost home files) {directory : Location} {path : Path}
    {change : List UInt8 → List UInt8} (elsewhere : ¬home <+: goal directory path)
    (updated : updateFile before directory path change = .ok after) :
    after.HoldsAtMost home files := by
  refine holds.of_entries fun names entry isEntry _ => ?_
  rwa [entry?_below_of_updateFile elsewhere updated] at isEntry

/-- What is found there, unless it is a directory, is one of the files. -/
theorem HoldsAtMost.exists_of_find {tree : FileTree} {home : Location} {files : List ExtraFile}
    (holds : tree.HoldsAtMost home files) {directory location names : Location} {path : Path}
    {entry : Entry} (isGoal : goal directory path = home ++ names)
    (found : find tree directory path = .ok (location, entry)) (notDirectory : entry ≠ .directory) :
    ∃ text, lastContents files names = some text ∧ entry = .file (bytesOf text) false := by
  obtain ⟨resolved, isEntry⟩ := find_eq_ok_iff.mp found
  rw [eq_goal_of_resolve resolved, isGoal] at isEntry
  exact holds _ _ isEntry notDirectory

theorem HoldsAtMost.exists_of_isFile {tree : FileTree} {home : Location} {files : List ExtraFile}
    (holds : tree.HoldsAtMost home files) {directory names : Location} {path : Path}
    (isGoal : goal directory path = home ++ names) (isThere : isFile tree directory path = true) :
    ∃ text, lastContents files names = some text := by
  unfold isFile at isThere
  split at isThere
  · rename_i found
    obtain ⟨text, isLast, -⟩ := holds.exists_of_find isGoal found Entry.noConfusion
    exact ⟨text, isLast⟩
  · rename_i found
    obtain ⟨text, isLast, -⟩ := holds.exists_of_find isGoal found Entry.noConfusion
    exact ⟨text, isLast⟩
  · cases isThere

theorem HoldsAtMost.exists_of_readContents {tree : FileTree} {home : Location}
    {files : List ExtraFile} (holds : tree.HoldsAtMost home files) {directory names : Location}
    {path : Path} {contents : Bytes} (isGoal : goal directory path = home ++ names)
    (isRead : readContents tree directory path = .ok contents) :
    ∃ text, lastContents files names = some text ∧ contents = bytesOf text := by
  obtain ⟨⟨location, entry⟩, found, isContents⟩ := bind_eq_ok_iff.mp isRead
  cases entry with
  | directory => cases isContents
  | file held isExecutable =>
      obtain ⟨text, isLast, isFile⟩ := holds.exists_of_find isGoal found Entry.noConfusion
      obtain ⟨rfl, -⟩ := Entry.file.inj isFile
      exact ⟨text, isLast, (Except.ok.inj isContents).symm⟩
  | device _ | pipe | utility _ =>
      obtain ⟨_, -, impossible⟩ := holds.exists_of_find isGoal found Entry.noConfusion
      cases impossible

end FileTree

end Host

end BuildExplorer
