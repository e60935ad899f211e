import BuildExplorer.Proofs.Host.Filling

/-!
# Paths that stay inside

An absolute path without names that lead up leads down from the root, name by name, to its
components.  So once it has come to a directory it stays there: whatever names follow, if
none of them leads up, lead to the directory itself or to something inside.  What is
changed at such a path is changed inside, too, as long as all that leads to the directory is
there.  And what is read at a path that keeps out of a directory is read as before once the
directory is removed.
-/

namespace BuildExplorer.Host

namespace FileTree

/-! ## Names that lead down -/

theorem prefix_stepTo {here : Location} {name : List Char} (notUp : name ≠ ['.', '.']) :
    here <+: stepTo here name := by
  unfold stepTo
  split
  · exact List.prefix_refl here
  · exact List.prefix_append here [name]

theorem prefix_of_mem_stages {here stage : Location} {names : List (List Char)}
    (noneLeadsUp : ['.', '.'] ∉ names) (member : stage ∈ stages here names) : here <+: stage := by
  induction names generalizing here with
  | nil => exact (List.mem_singleton.mp member) ▸ List.prefix_refl here
  | cons name names inductionHypothesis =>
      rw [List.mem_cons, not_or] at noneLeadsUp
      rw [stages_cons] at member
      rcases List.mem_cons.mp member with rfl | later
      · exact List.prefix_refl stage
      · exact (prefix_stepTo (Ne.symm noneLeadsUp.1)).trans
          (inductionHypothesis noneLeadsUp.2 later)

/-- What comes later on the way of names that do not lead up is inside of what came before. -/
theorem pairwise_stages (here : Location) {names : List (List Char)}
    (noneLeadsUp : ['.', '.'] ∉ names) : (stages here names).Pairwise (· <+: ·) := by
  induction names generalizing here with
  | nil => exact List.pairwise_singleton _ _
  | cons name names inductionHypothesis =>
      have allLater : ∀ stage ∈ stages (stepTo here name) names, here <+: stage := by
        intro stage later
        exact prefix_of_mem_stages noneLeadsUp
          (stages_cons here name names ▸ List.mem_cons_of_mem _ later)
      rw [List.mem_cons, not_or] at noneLeadsUp
      rw [stages_cons]
      exact List.pairwise_cons.mpr ⟨allLater, inductionHypothesis _ noneLeadsUp.2⟩

/-- Once names have come to a place, all that follow lead to it or to something inside. -/
def NeverLeaves (home here : Location) (names : List (List Char)) : Prop :=
  ∀ earlier later, stages here names = earlier ++ later →
    home ∈ earlier → ∀ stage ∈ later, home <+: stage

theorem neverLeaves (home here : Location) {names : List (List Char)}
    (noneLeadsUp : ['.', '.'] ∉ names) : NeverLeaves home here names := by
  intro earlier later isWhole isReached stage follows
  have inside := pairwise_stages here noneLeadsUp
  rw [isWhole] at inside
  exact (List.pairwise_append.mp inside).2.2 home isReached stage follows

/-- Where the first names lead is on the way of all. -/
theorem follow_mem_stages (here : Location) (first second : List (List Char)) :
    follow here first ∈ stages here (first ++ second) :=
  mem_stages_append_iff.mpr (.inr (mem_stages_self _ second))

theorem prefix_follow (here : Location) {names : List (List Char)}
    (noneLeadsUp : ['.', '.'] ∉ names) : here <+: follow here names := by
  have isStage := follow_mem_stages here names []
  rw [List.append_nil] at isStage
  exact prefix_of_mem_stages noneLeadsUp isStage

theorem length_stepTo_le (here : Location) (name : List Char) :
    (stepTo here name).length ≤ here.length + 1 := by
  unfold stepTo
  split
  · exact Nat.le_succ _
  · split
    · rw [List.length_dropLast]
      omega
    · exact Nat.le_of_eq List.length_append

/-- On the way of names that do not lead up all is a directory. -/
theorem entry?_of_walk {tree : FileTree} {here there place : Location} {names : List (List Char)}
    (noneLeadsUp : ['.', '.'] ∉ names) (walked : walk tree here names = .ok there)
    (isBehind : here <+: place) (isAhead : place <+: there) (apart : place ≠ there) :
    tree.entry? place = some .directory := by
  induction names generalizing here with
  | nil =>
      obtain rfl := Except.ok.inj walked
      exact absurd (isAhead.eq_of_length_le isBehind.length_le) apart
  | cons name names inductionHypothesis =>
      obtain ⟨isDirectory, -, later⟩ := walk_cons_eq_ok_iff.mp walked
      by_cases isHere : here = place
      · rwa [← isHere]
      · rw [List.mem_cons, not_or] at noneLeadsUp
        have leads : stepTo here name <+: there := by
          rw [eq_follow_of_walk later]
          exact prefix_follow _ noneLeadsUp.2
        -- The next stage is at most one name further than `here`, and `place` is at least one.
        have isNext : stepTo here name <+: place := by
          refine List.prefix_of_prefix_length_le leads isAhead ?_
          have further : here.length ≠ place.length := fun same =>
            isHere (isBehind.eq_of_length same)
          have atLeast := isBehind.length_le
          have atMost := length_stepTo_le here name
          omega
        exact inductionHypothesis noneLeadsUp.2 later isNext

/-! ## Absolute paths -/

/-- Where an absolute path leads is told by its components, if none of them leads up. -/
theorem goal_of_isAbsolute (directory : Location) {path : Path}
    (absolute : path.isAbsolute = true) (noneLeadsUp : ['.', '.'] ∉ path.components) :
    goal directory path = path.components := by
  rw [Path.up_mem_components_iff] at noneLeadsUp
  rw [goal, start, if_pos absolute, follow_eq_append noneLeadsUp]
  rfl

/-! ## Directories on the way -/

/-- Nothing has changed but what was missing on the way to a location. -/
def GrowsToward (target : Location) (before after : FileTree) : Prop :=
  ∀ place, after.entry? place = before.entry? place ∨
    before.entry? place = none ∧ place <+: target

theorem GrowsToward.refl (target : Location) (tree : FileTree) : GrowsToward target tree tree :=
  fun _ => .inl rfl

theorem GrowsToward.trans {target : Location} {first second third : FileTree}
    (grows : GrowsToward target first second) (later : GrowsToward target second third) :
    GrowsToward target first third := by
  intro place
  rcases grows place with same | isMade
  · rw [← same]
    exact later place
  · exact .inr isMade

/-- Directories are made only on the way to where a path leads. -/
theorem growsToward_createDirectories (tree : FileTree) (directory : Location) {target : Location}
    (noneLeadsUp : ['.', '.'] ∉ target) {path : Path} (absolute : path.isAbsolute = true)
    (leads : path.components <+: target) :
    GrowsToward target tree (createDirectories tree directory path).1 := by
  have growth : Growth (GrowsToward target) directory fun path =>
      path.isAbsolute = true ∧ path.components <+: target := by
    constructor
    case refl => exact GrowsToward.refl target
    case trans => exact GrowsToward.trans
    case upward =>
        rintro path parent ⟨absolute, leads⟩ isParent
        obtain ⟨parentAbsolute, isAbove⟩ := Path.parent_of_isAbsolute absolute isParent
        exact ⟨parentAbsolute, isAbove.trans leads⟩
    case makes =>
        rintro tree path changed ⟨absolute, leads⟩ made
        obtain ⟨isFree, rfl⟩ := exists_of_makeDirectory made
        rw [goal_of_isAbsolute directory absolute fun up => noneLeadsUp (leads.subset up)]
          at isFree ⊢
        intro place
        by_cases isHere : place = path.components
        · rw [isHere]
          exact .inr ⟨isFree, leads⟩
        · exact .inl (entry?_put_of_ne tree isHere _)
  exact growth.createDirectories tree ⟨absolute, leads⟩

/-! ## Changes inside -/

/-- Two trees hold the same outside of a directory. -/
def AgreeOutside (home : Location) (before after : FileTree) : Prop :=
  ∀ place, ¬home <+: place → after.entry? place = before.entry? place

theorem AgreeOutside.refl (home : Location) (tree : FileTree) : AgreeOutside home tree tree :=
  fun _ _ => rfl

/-- All that leads to a directory is there. -/
def LeadsTo (tree : FileTree) (home : Location) : Prop :=
  ∀ place, place <+: home → place ≠ home → tree.entry? place = some .directory

/-- What leads to a directory is outside of it. -/
theorem LeadsTo.of_agreeOutside {home : Location} {before after : FileTree}
    (leads : before.LeadsTo home) (agree : AgreeOutside home before after) :
    after.LeadsTo home := by
  intro place isAbove apart
  have outside : ¬home <+: place := fun isBelow =>
    apart (isAbove.eq_of_length_le isBelow.length_le)
  rw [agree place outside, leads place isAbove apart]

/-- A file that is changed inside of a directory leaves what is outside. -/
theorem agreeOutside_updateFile {home directory : Location} {before after : FileTree}
    {path : Path} {change : List UInt8 → List UInt8} (inside : home <+: goal directory path)
    (updated : updateFile before directory path change = .ok after) :
    AgreeOutside home before after := by
  obtain ⟨location, resolved, -, -, others⟩ := exists_of_updateFile updated
  intro place outside
  refine others place ?_
  rintro rfl
  rw [eq_goal_of_resolve resolved] at outside
  exact outside inside

/-- Where a file inside of a directory was changed, all that leads to the directory is
there. -/
theorem leadsTo_of_updateFile {home directory : Location} {before after : FileTree}
    {path : Path} {change : List UInt8 → List UInt8} (absolute : path.isAbsolute = true)
    (noneLeadsUp : ['.', '.'] ∉ path.components) (inside : home <+: path.components)
    (updated : updateFile before directory path change = .ok after) : after.LeadsTo home := by
  obtain ⟨location, resolved, -, -, -⟩ := exists_of_updateFile updated
  have isGoal := goal_of_isAbsolute directory absolute noneLeadsUp
  obtain rfl : location = path.components := (eq_goal_of_resolve resolved).trans isGoal
  obtain ⟨-, walked⟩ := resolve_eq_ok_iff.mp resolved
  rw [start, if_pos absolute] at walked
  intro place isAbove apart
  have isThere : before.entry? place = some .directory := by
    refine entry?_of_walk (fun up => noneLeadsUp (Path.up_mem_components_iff.mpr up)) walked
      List.nil_prefix (isAbove.trans inside) ?_
    rintro rfl
    exact apart (isAbove.eq_of_length_le inside.length_le)
  exact entry?_directory_of_updateFile updated isThere

/-- Directories that are made on the way to something inside of a directory leave what is
outside, where all that leads to the directory is there. -/
theorem agreeOutside_of_growsToward {home target : Location} {before after : FileTree}
    (leads : before.LeadsTo home) (inside : home <+: target)
    (grows : GrowsToward target before after) : AgreeOutside home before after := by
  intro place outside
  rcases grows place with same | ⟨isFree, onTheWay⟩
  · exact same
  · rcases List.prefix_or_prefix_of_prefix onTheWay inside with isAbove | isBelow
    · have apart : place ≠ home := fun same => outside (same ▸ List.prefix_refl home)
      rw [leads place isAbove apart] at isFree
      cases isFree
    · exact absurd isBelow outside

/-- A directory that is removed leaves what is outside. -/
theorem agreeOutside_eraseBelow (tree : FileTree) (home : Location) :
    AgreeOutside home tree (tree.eraseBelow home) := by
  intro place outside
  have kept : (!home.isPrefixOf place) = true := by
    rw [Bool.not_eq_true', ← Bool.not_eq_true, List.isPrefixOf_iff_prefix]
    exact outside
  unfold entry? eraseBelow
  split
  · rfl
  · exact lookup_filter (fun location => !home.isPrefixOf location) kept tree.entries

/-! ## Ways -/

/-- The locations that a path leads through, from where it starts to where it leads. -/
def way (directory : Location) (path : Path) : List Location :=
  stages (start directory path) (path.chars.splitOn '/')

theorem goal_mem_way (directory : Location) (path : Path) :
    goal directory path ∈ way directory path := by
  have isStage := follow_mem_stages (start directory path) (path.chars.splitOn '/') []
  rwa [List.append_nil] at isStage

/-- The path of a name in a directory leads through what the directory is found through, and
then to the name. -/
theorem mem_way_join {directory stage : Location} {parent : Path} (isNamed : parent.chars ≠ [])
    {name : String} (whole : '/' ∉ name.toList)
    (member : stage ∈ way directory (parent.join name)) :
    stage ∈ way directory parent ∨ stage = stepTo (goal directory parent) name.toList := by
  have relative : name.toList.head? ≠ some '/' := fun isHead => whole (List.mem_of_head? isHead)
  rw [way, start, Path.isAbsolute_join isNamed relative, ← start,
    Path.splitOn_join isNamed relative, List.splitOn_eq_singleton whole, mem_stages_append_iff,
    follow_splitOn_front, stages_cons, List.mem_cons] at member
  rcases member with earlier | isParent | isLast
  · left
    rcases parent.chars_eq_front_or with ⟨-, isFront⟩ | ⟨-, isFront⟩
    · rwa [way, isFront]
    · rw [way, isFront, Text.splitOn_append_cons, mem_stages_append_iff]
      exact .inl earlier
  · left
    rw [isParent]
    exact goal_mem_way directory parent
  · exact .inr (List.mem_singleton.mp isLast)

theorem exists_of_isDirectory {tree : FileTree} {directory : Location} {path : Path}
    (isThere : isDirectory tree directory path = true) :
    ∃ location, find tree directory path = .ok (location, .directory) := by
  unfold isDirectory at isThere
  split at isThere
  · rename_i location found
    exact ⟨location, found⟩
  · cases isThere

/-- All that a path to a directory leads through is a directory. -/
theorem entry?_of_mem_way {tree : FileTree} {directory stage : Location} {path : Path}
    (isThere : isDirectory tree directory path = true) (member : stage ∈ way directory path) :
    tree.entry? stage = some .directory := by
  obtain ⟨location, found⟩ := exists_of_isDirectory isThere
  obtain ⟨resolved, isEntry⟩ := find_eq_ok_iff.mp found
  exact entry?_of_mem_stages (resolve_eq_ok_iff.mp resolved).2 isEntry stage member

/-- What is read outside of a directory is read as before once the directory is removed. -/
theorem readContents_eraseBelow {tree : FileTree} {home directory : Location} {path : Path}
    {contents : List UInt8} (outside : ∀ stage ∈ way directory path, ¬home <+: stage)
    (read : readContents tree directory path = .ok contents) :
    readContents (tree.eraseBelow home) directory path = .ok contents := by
  have agree := agreeOutside_eraseBelow tree home
  obtain ⟨⟨location, entry⟩, found, isRead⟩ := bind_eq_ok_iff.mp read
  obtain ⟨resolved, isEntry⟩ := find_eq_ok_iff.mp found
  obtain ⟨checked, walked⟩ := resolve_eq_ok_iff.mp resolved
  have isGoal := eq_goal_of_resolve resolved
  have keeps : ∀ stage ∈ way directory path, tree.entry? stage = some .directory →
      entry? (tree.eraseBelow home) stage = some .directory := by
    intro stage member isDirectory
    rw [agree stage (outside stage member), isDirectory]
  have foundStill : find (tree.eraseBelow home) directory path = .ok (location, entry) := by
    refine find_eq_ok_iff.mpr ⟨resolve_eq_ok_iff.mpr ⟨checked, walk_of_stages keeps walked⟩, ?_⟩
    rw [agree location (outside location (isGoal ▸ goal_mem_way directory path)), isEntry]
  rw [readContents, foundStill]
  exact isRead

end FileTree

namespace Machine

variable {Tools : Type}

/-! ## Directories of a machine -/

/-- The program runs where it ran, whatever it has done. -/
theorem answer_directory (execute : ToolBehaviour Tools) (action : Action)
    (machine : Machine Tools) :
    (answer execute action machine).2.directory = machine.directory := by
  have updated : ∀ outcome, (machine.update outcome).2.directory = machine.directory := by
    intro outcome
    cases outcome <;> rfl
  have fresh : ∀ parent beginning entry,
      (machine.makeFresh parent beginning entry).2.directory = machine.directory := by
    intro parent beginning entry
    rcases isMade : machine.makeFresh parent beginning entry with ⟨fault | path, made⟩
    · unfold makeFresh at isMade
      split at isMade
      · cases isMade
        rfl
      · dsimp only at isMade
        split at isMade <;> cases isMade
        rfl
      · cases isMade
        rfl
    · obtain ⟨location, number, -, -, -, sameDirectory, -⟩ := exists_of_makeFresh isMade
      exact sameDirectory
  cases action with
  | writeContents | appendContents | moveFile | eraseFile => exact updated _
  | makeScratch | makeTemporary => exact fresh _ _ _
  | removeScratch path =>
      change (machine.removeAll path).directory = machine.directory
      unfold removeAll
      split <;> rfl
  | _ => rfl

theorem run_directory {Result : Type} (execute : ToolBehaviour Tools) (program : Program Result)
    (machine : Machine Tools) :
    (program.run (answer execute) machine).2.directory = machine.directory := by
  induction program generalizing machine with
  | done result => rfl
  | ask action next inductionHypothesis =>
      rw [Program.run_ask, inductionHypothesis, answer_directory]

/-- A path to a directory that was there leads through nothing that is inside of a fresh
one. -/
theorem Fresh.outside {machine made : Machine Tools} {parent path : Path} {beginning : String}
    {entry : Entry} {number : Nat} (fresh : Fresh machine made parent path beginning entry number)
    (grounded : machine.tree.Grounded) {there : Path}
    (isThere : FileTree.isDirectory machine.tree machine.directory there = true) :
    ∀ stage ∈ FileTree.way machine.directory there,
      ¬FileTree.goal machine.directory path <+: stage := by
  rintro _ member ⟨names, rfl⟩
  have isDirectory := FileTree.entry?_of_mem_way isThere member
  rw [grounded.entry?_below fresh.isFree] at isDirectory
  cases isDirectory

/-- What is read outside of a directory is read as before once the directory is removed. -/
theorem readContents_removeAll {machine : Machine Tools} {removed path : Path}
    {contents : List UInt8}
    (outside : ∀ stage ∈ FileTree.way machine.directory path,
      ¬FileTree.goal machine.directory removed <+: stage)
    (read : FileTree.readContents machine.tree machine.directory path = .ok contents) :
    FileTree.readContents (machine.removeAll removed).tree (machine.removeAll removed).directory
      path = .ok contents := by
  unfold removeAll
  split
  · exact read
  · rename_i location resolved
    rw [FileTree.eq_goal_of_resolve resolved]
    exact FileTree.readContents_eraseBelow outside read

end Machine

end BuildExplorer.Host
