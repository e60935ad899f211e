import Mathlib.Data.List.Basic
import BuildExplorer.Family.Options

/-!
# Directories of libraries

The options for libraries name directories: those of the libraries in the order in which
they were selected, then those of the compiler, and at last the one for downloads.  A
directory that comes more than once is named where it comes first and nowhere else.  So a
library that is selected again has nothing to add, wherever it stands, and neither has one
that is not known.
-/

namespace BuildExplorer

/-! ## First occurrences -/

/-- A list holds all members of another one, in the order in which they occur first. -/
structure ListsFirsts (all firsts : List String) : Prop where
  mem_iff : ∀ text, text ∈ firsts ↔ text ∈ all
  inOrder : firsts.Pairwise fun first second => all.idxOf first < all.idxOf second

theorem ListsFirsts.nodup {all firsts : List String} (lists : ListsFirsts all firsts) :
    firsts.Nodup :=
  lists.inOrder.imp fun before => by
    rintro rfl
    exact Nat.lt_irrefl _ before

theorem mem_firstOccurrences_iff {text : String} {texts : List String} :
    text ∈ firstOccurrences texts ↔ text ∈ texts := by
  induction texts with
  | nil => rfl
  | cons first rest inductionHypothesis =>
      by_cases isFirst : text = first <;> simp [firstOccurrences, isFirst, inductionHypothesis]

theorem listsFirsts_firstOccurrences (texts : List String) :
    ListsFirsts texts (firstOccurrences texts) := by
  refine ⟨fun text => mem_firstOccurrences_iff, ?_⟩
  induction texts with
  | nil => exact List.Pairwise.nil
  | cons first rest inductionHypothesis =>
      have other : ∀ {text}, text ∈ (firstOccurrences rest).filter (· != first) → first ≠ text := by
        intro text member
        have isOther : text ≠ first := by simpa using (List.mem_filter.mp member).2
        exact isOther.symm
      refine List.pairwise_cons.mpr ⟨fun text member => ?_, ?_⟩
      · rw [List.idxOf_cons_self, List.idxOf_cons_ne _ (other member)]
        exact Nat.succ_pos _
      · refine (inductionHypothesis.filter _).imp_of_mem fun firstIn secondIn before => ?_
        rw [List.idxOf_cons_ne _ (other firstIn), List.idxOf_cons_ne _ (other secondIn)]
        exact Nat.succ_lt_succ before

/-- Behind some texts, only those occur for the first time that are not among them. -/
theorem firstOccurrences_append (front back : List String) :
    firstOccurrences (front ++ back) =
      firstOccurrences front ++ (firstOccurrences back).filter (!front.contains ·) := by
  induction front with
  | nil => simp [firstOccurrences]
  | cons first rest inductionHypothesis =>
      rw [List.cons_append, firstOccurrences, firstOccurrences, inductionHypothesis,
        List.filter_append, List.filter_filter, List.cons_append]
      congr 2
      refine List.filter_congr fun text _ => ?_
      rw [List.contains_cons, Bool.not_or]
      rfl

/-- Texts that occurred already may be left out. -/
theorem firstOccurrences_append_of_subset {front again : List String} (known : again ⊆ front)
    (back : List String) :
    firstOccurrences (front ++ again ++ back) = firstOccurrences (front ++ back) := by
  have nothingNew : (firstOccurrences again).filter (!front.contains ·) = [] := by
    refine List.filter_eq_nil_iff.mpr fun text member => ?_
    simpa using known (mem_firstOccurrences_iff.mp member)
  have sameSeen : ∀ text : String, (front ++ again).contains text = front.contains text := by
    intro text
    rw [Bool.eq_iff_iff]
    simp only [List.contains_iff_mem, List.mem_append]
    exact ⟨fun seen => seen.elim id (known ·), .inl⟩
  simp only [firstOccurrences_append, nothingNew, sameSeen, List.append_nil]

/-- Where no two texts become one, it does not matter whether they are changed before or
after. -/
theorem firstOccurrences_map {change : String → String} (injective : Function.Injective change)
    (texts : List String) :
    firstOccurrences (texts.map change) = (firstOccurrences texts).map change := by
  induction texts with
  | nil => rfl
  | cons first rest inductionHypothesis =>
      rw [List.map_cons, firstOccurrences, firstOccurrences, inductionHypothesis, List.map_cons,
        List.filter_map]
      congr 2
      refine List.filter_congr fun text _ => ?_
      simp [bne, injective.beq_eq]

namespace Family

/-! ## Options -/

/-- The options with a flag name some directories, each of them once and in the order in
which they come first. -/
structure NamesEachOnce (flag : String) (directories options : List String) : Prop where
  inOrder : ∃ distinct, ListsFirsts directories distinct ∧ options = distinct.map (flag ++ ·)
  nodup : options.Nodup
  complete : ∀ directory ∈ directories, flag ++ directory ∈ options

theorem namesEachOnce_directoryOptions (flag : String) (directories : List String) :
    NamesEachOnce flag directories (directoryOptions flag directories) := by
  have isMap : directoryOptions flag directories =
      (firstOccurrences directories).map (flag ++ ·) :=
    firstOccurrences_map (fun _ _ => (String.append_right_inj flag).mp) directories
  refine ⟨⟨_, listsFirsts_firstOccurrences directories, isMap⟩, ?_, fun directory member => ?_⟩
  · exact (listsFirsts_firstOccurrences _).nodup
  · exact mem_firstOccurrences_iff.mpr (List.mem_map_of_mem member)

/-- Directories that were named already need not be named again. -/
theorem directoryOptions_append_of_subset {front again : List String} (known : again ⊆ front)
    (flag : String) (back : List String) :
    directoryOptions flag (front ++ again ++ back) = directoryOptions flag (front ++ back) := by
  simp only [directoryOptions, List.map_append]
  exact firstOccurrences_append_of_subset (List.map_subset _ known) _

/-! ## Selections -/

section Selections

variable {config : Config} {before : List SelectedLibrary} {again : SelectedLibrary}

/-- Libraries are resolved one by one. -/
theorem resolveLibraries_append (config : Config) (before after : List SelectedLibrary) :
    config.resolveLibraries (before ++ after) =
      config.resolveLibraries before ++ config.resolveLibraries after :=
  List.filterMap_append

/-- Nothing adds to a selection that was selected already or is not known. -/
theorem resolveLibraries_subset
    (nothingNew : again ∈ before ∨ ∀ known ∈ config.libraries,
      ¬(known.id = again.id ∧ known.version = again.version)) :
    config.resolveLibraries [again] ⊆ config.resolveLibraries before := by
  intro library member
  obtain ⟨selected, isAgain, isKnown⟩ := List.mem_filterMap.mp member
  obtain rfl := List.mem_singleton.mp isAgain
  rcases nothingNew with isBefore | unknown
  · exact List.mem_filterMap.mpr ⟨selected, isBefore, isKnown⟩
  · have isSelected := List.find?_some isKnown
    rw [Bool.and_eq_true, beq_iff_eq, beq_iff_eq] at isSelected
    exact absurd isSelected (unknown library (List.mem_of_find?_eq_some isKnown))

/-- The options for directories of libraries, and of some more, do not change with a library
that adds nothing. -/
theorem directoryOptions_resolveLibraries
    (nothingNew : config.resolveLibraries [again] ⊆ config.resolveLibraries before)
    (after : List SelectedLibrary) (flag : String) (directoriesOf : LibraryInfo → List String)
    (more : List String) :
    directoryOptions flag
        ((config.resolveLibraries (before ++ again :: after)).flatMap directoriesOf ++ more) =
      directoryOptions flag
        ((config.resolveLibraries (before ++ after)).flatMap directoriesOf ++ more) := by
  have known : (config.resolveLibraries [again]).flatMap directoriesOf ⊆
      (config.resolveLibraries before).flatMap directoriesOf := by
    intro directory member
    obtain ⟨library, isAgain, holds⟩ := List.mem_flatMap.mp member
    exact List.mem_flatMap.mpr ⟨library, nothingNew isAgain, holds⟩
  rw [List.append_cons, resolveLibraries_append, resolveLibraries_append,
    resolveLibraries_append, List.flatMap_append, List.flatMap_append, List.flatMap_append,
    List.append_assoc _ _ more, List.append_assoc _ _ more,
    directoryOptions_append_of_subset known]

end Selections

/-- The options for libraries name each directory once, in the order in which the
directories come first, and miss none: those of the libraries that are selected and known,
then those of the compiler, then the one for downloads, which is `.` if none is given or its
name is empty.  So do the options for headers.  None of these options changes with a library
that was selected before, or is not known, wherever it is selected. -/
theorem library_options_name_each_once (config : Config) (info : CompilerInfo)
    (selected : List SelectedLibrary) (downloadPath : Option String) :
    let libraries := config.resolveLibraries selected
    let download :=
      match downloadPath with
      | none => "."
      | some path => if path = "" then "." else path
    NamesEachOnce (info.libPathFlag.getD "-L")
        (libraries.flatMap (·.libPath) ++ info.libPath ++ [download])
        (libraryPathOptions info libraries downloadPath) ∧
      NamesEachOnce (info.includeFlag.getD "-I") (libraries.flatMap (·.includePath))
        (includeOptions info libraries) ∧
      ∀ before again after, selected = before ++ again :: after →
        (again ∈ before ∨ ∀ known ∈ config.libraries,
          ¬(known.id = again.id ∧ known.version = again.version)) →
        let fewer := config.resolveLibraries (before ++ after)
        libraryPathOptions info libraries downloadPath =
            libraryPathOptions info fewer downloadPath ∧
          includeOptions info libraries = includeOptions info fewer := by
  intro libraries download
  have isDownload : (downloadPath.filter (!·.isEmpty)).getD defaultDownloadPath = download := by
    cases downloadPath with
    | none => rfl
    | some path =>
        by_cases empty : path = "" <;>
          simp [Option.filter_some, download, empty, defaultDownloadPath]
  refine ⟨?_, namesEachOnce_directoryOptions _ _, ?_⟩
  · rw [libraryPathOptions, isDownload]
    exact namesEachOnce_directoryOptions _ _
  · rintro before again after rfl nothingNew fewer
    have nothingMore := resolveLibraries_subset nothingNew
    constructor
    · rw [libraryPathOptions, libraryPathOptions, List.append_assoc, List.append_assoc]
      exact directoryOptions_resolveLibraries nothingMore after _ _ _
    · have same := directoryOptions_resolveLibraries nothingMore after
        (info.includeFlag.getD "-I") (·.includePath) []
      rwa [List.append_nil, List.append_nil] at same

/-- The theorem at a library that is selected again behind one that shares a directory with
it and names the one for downloads. -/
theorem library_options_name_each_once_selected_again :
    let first : SelectedLibrary := ⟨"fmt", "10.0"⟩
    let second : SelectedLibrary := ⟨"zlib", "1"⟩
    let config : Config := {
      libraries := [
        { id := "fmt", version := "10.0", libPath := ["/fmt", "/shared"], includePath := ["/fmt"] },
        { id := "zlib", version := "1", libPath := ["/shared", "."] }] }
    let info := CompilerInfo.named "cc" "/usr/bin/cc"
    let libraries := config.resolveLibraries [first, second, first]
    libraryPathOptions info libraries none = ["-L/fmt", "-L/shared", "-L."] ∧
      NamesEachOnce "-L" ["/fmt", "/shared", "/shared", ".", "/fmt", "/shared", "."]
        (libraryPathOptions info libraries none) ∧
      NamesEachOnce "-I" ["/fmt", "/fmt"] (includeOptions info libraries) ∧
      first ∈ [first, second] ∧
      libraryPathOptions info libraries none =
          libraryPathOptions info (config.resolveLibraries [first, second]) none ∧
        includeOptions info libraries =
          includeOptions info (config.resolveLibraries [first, second]) := by
  intro first second config info libraries
  have isBefore : first ∈ [first, second] := List.mem_cons_self
  obtain ⟨directories, headers, unchanged⟩ :=
    library_options_name_each_once config info [first, second, first] none
  exact ⟨by decide, directories, headers, isBefore,
    unchanged [first, second] first [] rfl (.inl isBefore)⟩

end Family

end BuildExplorer
