import BuildExplorer.Guard
import BuildExplorer.Path
import BuildExplorer.Proofs.Text.Lines

/-!
# Names in a directory

The path of a name in a directory is the path of the directory, a slash and the name.  A
name that is allowed for an extra file does not begin with a slash and has no piece that
leads up, so all that counts of it are its components.
-/

namespace BuildExplorer

/-! ## Pieces between slashes -/

theorem Text.occursIn_iff {word text : List Char} :
    occursIn word text = true ↔ word <:+: text := by
  induction text with
  | nil => simp [occursIn]
  | cons char rest inductionHypothesis =>
      rw [occursIn, Bool.or_eq_true, List.isPrefixOf_iff_prefix, inductionHypothesis,
        List.infix_cons_iff]

/-- Pieces stand in the text that they make up. -/
theorem infix_intercalate {separator piece : List Char} {pieces : List (List Char)}
    (member : piece ∈ pieces) : piece <:+: separator.intercalate pieces := by
  induction pieces with
  | nil => exact absurd member List.not_mem_nil
  | cons first rest inductionHypothesis =>
      cases rest with
      | nil =>
          obtain rfl := List.mem_singleton.mp member
          simp
      | cons second rest =>
          rw [List.intercalate_cons_cons]
          rcases List.mem_cons.mp member with rfl | later
          · exact ⟨[], separator ++ separator.intercalate (second :: rest), by simp⟩
          · exact (inductionHypothesis later).trans (List.suffix_append _ _).isInfix

theorem infix_of_mem_splitOn {piece text : List Char} (member : piece ∈ text.splitOn '/') :
    piece <:+: text := by
  have whole : piece <:+: ['/'].intercalate (text.splitOn '/') := infix_intercalate member
  rwa [List.intercalate_splitOn] at whole

/-- No slash is left in a piece. -/
theorem slash_not_mem_of_mem_splitOn {piece text : List Char} (member : piece ∈ text.splitOn '/') :
    '/' ∉ piece := by
  generalize isSize : text.length = size
  induction size using Nat.strongRecOn generalizing text with
  | ind size inductionHypothesis =>
      by_cases whole : '/' ∈ text
      · obtain ⟨first, second, rfl⟩ := List.append_of_mem whole
        rw [Text.splitOn_append_cons, List.mem_append] at member
        rw [List.length_append, List.length_cons] at isSize
        rcases member with inFirst | inSecond
        · exact inductionHypothesis _ (by omega) inFirst rfl
        · exact inductionHypothesis _ (by omega) inSecond rfl
      · rw [List.splitOn_eq_singleton whole, List.mem_singleton] at member
        rwa [member]

/-- Where pieces are left out, some of the text is left. -/
theorem intercalate_filter_sublist (keeps : List Char → Bool) (pieces : List (List Char)) :
    (['/'].intercalate (pieces.filter keeps)).Sublist (['/'].intercalate pieces) := by
  induction pieces with
  | nil => exact List.Sublist.refl _
  | cons first rest inductionHypothesis =>
      cases rest with
      | nil =>
          rw [List.filter_cons]
          split
          · exact List.Sublist.refl _
          · exact List.nil_sublist _
      | cons second rest =>
          rw [List.intercalate_cons_cons]
          generalize second :: rest = others at inductionHypothesis ⊢
          rw [List.filter_cons]
          split
          · cases isOthers : others.filter keeps with
            | nil =>
                rw [List.intercalate_singleton, List.append_assoc]
                exact List.sublist_append_left _ _
            | cons next later =>
                rw [isOthers] at inductionHypothesis
                rw [List.intercalate_cons_cons]
                exact (List.Sublist.refl _).append inductionHypothesis
          · exact inductionHypothesis.trans (List.sublist_append_right _ _)

/-! ## Names that are allowed -/

/-- What a name that is allowed is not. -/
theorem Guard.checkFileName_eq_ok_iff {name : String} :
    checkFileName name = .ok () ↔
      name.toList ≠ [] ∧ (name.toList ≠ ['.'] ∧ ¬['.', '.'] <:+: name.toList) ∧
        (name.toList.head? ≠ some '/' ∧ '\\' ∉ name.toList) ∧ '\x00' ∉ name.toList := by
  rw [← Text.occursIn_iff, checkFileName]
  by_cases isEmpty : name.toList = []
  · simp [isEmpty]
  by_cases climbs : name.toList = ['.'] ∨ Text.occursIn ['.', '.'] name.toList = true
  · rcases climbs with isDot | climbs
    · simp [isDot]
    · simp [isEmpty, climbs]
  by_cases leads : name.toList.head? = some '/' ∨ '\\' ∈ name.toList
  · rcases leads with isAbsolute | holdsBackslash
    · simp [isEmpty, climbs, isAbsolute]
    · simp [isEmpty, climbs, holdsBackslash]
  · by_cases holdsNull : '\x00' ∈ name.toList
    · simp [isEmpty, climbs, leads, holdsNull]
    · simp only [not_or] at climbs leads
      simp [isEmpty, climbs, leads, holdsNull]

theorem Guard.relative_of_allowed {name : String} (allowed : checkFileName name = .ok ()) :
    name.toList.head? ≠ some '/' :=
  (checkFileName_eq_ok_iff.mp allowed).2.2.1.1

/-- No piece of a name that is allowed leads up. -/
theorem Guard.up_not_mem_of_allowed {name : String} (allowed : checkFileName name = .ok ()) :
    ['.', '.'] ∉ name.toList.splitOn '/' := by
  intro member
  exact (checkFileName_eq_ok_iff.mp allowed).2.1.2 (infix_of_mem_splitOn member)

namespace Path

theorem ext_chars {first second : Path} (same : first.chars = second.chars) : first = second := by
  rcases first with ⟨first⟩
  rcases second with ⟨second⟩
  exact congrArg Path.mk (String.toList_injective same)

/-! ## Joined paths -/

/-- The characters of a path up to a slash at its end. -/
def front (path : Path) : List Char :=
  if path.chars.getLast? = some '/' then path.chars.dropLast else path.chars

/-- A path is its front, and perhaps a slash. -/
theorem chars_eq_front_or (path : Path) :
    (path.chars.getLast? ≠ some '/' ∧ path.chars = path.front) ∨
      (path.chars.getLast? = some '/' ∧ path.chars = path.front ++ ['/']) := by
  by_cases ends : path.chars.getLast? = some '/'
  · obtain ⟨rest, isRest⟩ := List.getLast?_eq_some_iff.mp ends
    refine .inr ⟨ends, ?_⟩
    rw [front, if_pos ends, isRest, List.dropLast_concat]
  · refine .inl ⟨ends, ?_⟩
    rw [front, if_neg ends]

/-- A slash stands between the path of a directory and a name in it. -/
theorem chars_join {parent : Path} (isNamed : parent.chars ≠ []) {name : String}
    (relative : name.toList.head? ≠ some '/') :
    (parent.join name).chars = parent.front ++ '/' :: name.toList := by
  have isRelative : (name.toList.head? == some '/') = false := by
    simpa using relative
  have notEmpty : parent.text.isEmpty = false := by
    rw [← Bool.not_eq_true, String.isEmpty_iff]
    intro isEmpty
    exact isNamed (by simp [Path.chars, isEmpty])
  rw [Path.join, isRelative, notEmpty, Bool.or_self, if_neg Bool.false_ne_true]
  rcases parent.chars_eq_front_or with ⟨noSlash, isFront⟩ | ⟨ends, isFront⟩
  · rw [if_neg (by simpa using noSlash), ← isFront]
    simp [Path.chars]
  · rw [if_pos (by simpa using ends), List.append_cons, ← isFront]
    simp [Path.chars]

theorem chars_join_ne_nil {parent : Path} (isNamed : parent.chars ≠ []) {name : String}
    (relative : name.toList.head? ≠ some '/') : (parent.join name).chars ≠ [] := by
  rw [chars_join isNamed relative]
  exact List.append_ne_nil_of_right_ne_nil _ (List.cons_ne_nil _ _)

theorem isAbsolute_join {parent : Path} (isNamed : parent.chars ≠ []) {name : String}
    (relative : name.toList.head? ≠ some '/') :
    (parent.join name).isAbsolute = parent.isAbsolute := by
  rw [Path.isAbsolute, Path.isAbsolute, chars_join isNamed relative]
  rcases parent.chars_eq_front_or with ⟨-, isFront⟩ | ⟨-, isFront⟩
  · rw [isFront] at isNamed ⊢
    obtain ⟨first, rest, isChars⟩ := List.exists_cons_of_ne_nil isNamed
    rw [isChars]
    rfl
  · rw [isFront]
    cases parent.front <;> rfl

/-- The pieces of the path of a name in a directory are those of the directory, as far as
they say something, and those of the name. -/
theorem splitOn_join {parent : Path} (isNamed : parent.chars ≠ []) {name : String}
    (relative : name.toList.head? ≠ some '/') :
    (parent.join name).chars.splitOn '/' =
      parent.front.splitOn '/' ++ name.toList.splitOn '/' := by
  rw [chars_join isNamed relative, Text.splitOn_append_cons]

/-! ## Components -/

/-- The path of the components of a name, with one slash between each two. -/
def spoken (names : List (List Char)) : String :=
  String.ofList (['/'].intercalate names)

/-- All that counts of a name is left of it with its components. -/
theorem spoken_components_sublist (name : String) :
    (spoken (Path.mk name).components).toList.Sublist name.toList := by
  have shorter := intercalate_filter_sublist (fun piece => !piece.isEmpty && piece != ['.'])
    (name.toList.splitOn '/')
  rw [List.intercalate_splitOn] at shorter
  rwa [spoken, String.toList_ofList]

theorem speaks_of_mem_components {path : Path} {name : List Char}
    (member : name ∈ path.components) : name ≠ [] ∧ '/' ∉ name := by
  obtain ⟨isPiece, speaks⟩ := List.mem_filter.mp member
  refine ⟨?_, slash_not_mem_of_mem_splitOn isPiece⟩
  rintro rfl
  cases speaks

theorem splitOn_spoken {path : Path} (speaks : path.components ≠ []) :
    (spoken path.components).toList.splitOn '/' = path.components := by
  rw [spoken, String.toList_ofList]
  exact List.splitOn_intercalate '/' (fun _ member => (speaks_of_mem_components member).2) speaks

theorem relative_spoken (path : Path) : (spoken path.components).toList.head? ≠ some '/' := by
  rw [spoken, String.toList_ofList]
  cases isComponents : path.components with
  | nil => simp
  | cons first rest =>
      obtain ⟨notEmpty, whole⟩ := speaks_of_mem_components (isComponents ▸ List.mem_cons_self)
      obtain ⟨char, chars, rfl⟩ := List.exists_cons_of_ne_nil notEmpty
      rw [List.mem_cons, not_or] at whole
      have begins : (['/'].intercalate ((char :: chars) :: rest)).head? = some char := by
        cases rest <;> simp [List.intercalate_cons_cons]
      rw [begins]
      exact fun isSlash => whole.1 (Option.some.inj isSlash).symm

/-- All that counts of a path stands in front of a slash at its end. -/
theorem components_front (path : Path) :
    (path.front.splitOn '/').filter (fun piece => !piece.isEmpty && piece != ['.']) =
      path.components := by
  rw [components]
  rcases path.chars_eq_front_or with ⟨-, isFront⟩ | ⟨-, isFront⟩
  · rw [isFront]
  · rw [isFront, Text.splitOn_append_cons, List.filter_append]
    exact (List.append_nil _).symm

/-- The components of the path of a name in a directory are those of the directory and those
of the name. -/
theorem components_join {parent : Path} (isNamed : parent.chars ≠ []) {name : String}
    (relative : name.toList.head? ≠ some '/') :
    (parent.join name).components = parent.components ++ (Path.mk name).components := by
  rw [components, splitOn_join isNamed relative, List.filter_append, components_front]
  rfl

/-- A piece that leads up is never left out. -/
theorem up_mem_components_iff {path : Path} :
    ['.', '.'] ∈ path.components ↔ ['.', '.'] ∈ path.chars.splitOn '/' := by
  simp [components]

theorem chars_ne_nil_of_isAbsolute {path : Path} (absolute : path.isAbsolute = true) :
    path.chars ≠ [] := by
  intro isEmpty
  rw [isAbsolute, isEmpty] at absolute
  cases absolute

/-! ## Parents -/

theorem dropSilent_suffix (pieces : List (List Char)) : dropSilent pieces <:+ pieces := by
  induction pieces with
  | nil => exact List.suffix_refl _
  | cons piece pieces inductionHypothesis =>
      cases pieces with
      | nil => exact List.suffix_refl _
      | cons next rest =>
          rw [dropSilent]
          split
          · exact inductionHypothesis.trans (List.suffix_cons _ _)
          · exact List.suffix_refl _

/-- The first piece is never dropped; it is the last one here. -/
theorem getLast?_dropSilent (pieces : List (List Char)) :
    (dropSilent pieces).getLast? = pieces.getLast? := by
  induction pieces with
  | nil => rfl
  | cons piece pieces inductionHypothesis =>
      cases pieces with
      | nil => rfl
      | cons next rest =>
          rw [dropSilent]
          split
          · rw [inductionHypothesis, List.getLast?_cons_cons]
          · rfl

/-- A path is put together of pieces again: its components are those that say something. -/
theorem components_intercalate {pieces : List (List Char)} (nonempty : pieces ≠ [])
    (whole : ∀ piece ∈ pieces, '/' ∉ piece) :
    (ofChars (['/'].intercalate pieces)).components =
      pieces.filter (fun piece => !piece.isEmpty && piece != ['.']) := by
  rw [components, chars_ofChars, List.splitOn_intercalate '/' whole nonempty]

theorem isAbsolute_intercalate (second : List Char) (rest : List (List Char)) :
    (ofChars (['/'].intercalate ([] :: second :: rest))).isAbsolute = true := by
  rw [isAbsolute, chars_ofChars, List.intercalate_cons_cons]
  rfl

/-- The pieces of an absolute path begin at the root. -/
theorem head?_splitOn_of_isAbsolute {path : Path} (absolute : path.isAbsolute = true) :
    (path.chars.splitOn '/').head? = some [] := by
  obtain ⟨chars, isChars⟩ := List.head?_eq_some_iff.mp (eq_of_beq absolute)
  rw [isChars, ← List.nil_append ('/' :: chars), Text.splitOn_append_cons]
  rfl

/-- The last component of an absolute path is cut off: what is left begins at the root, too. -/
theorem exists_of_splitLast? {path : Path} (absolute : path.isAbsolute = true) {name : List Char}
    {before : List (List Char)} (isLast : path.splitLast? = some (name, before)) :
    ∃ rest behind, dropSilent before = rest ++ [[]] ∧
      path.chars.splitOn '/' = (dropSilent before).reverse ++ behind := by
  have isDropped : dropSilent (path.chars.splitOn '/').reverse = name :: before ∧ name ≠ [] := by
    unfold splitLast? at isLast
    split at isLast
    · cases isLast
    · rename_i piece pieces isDropped
      split at isLast
      · cases isLast
      · rename_i nonempty
        obtain ⟨rfl, rfl⟩ := Prod.mk.inj (Option.some.inj isLast)
        exact ⟨isDropped, by simpa using nonempty⟩
  obtain ⟨isDropped, nonempty⟩ := isDropped
  have first := head?_splitOn_of_isAbsolute absolute
  rw [← List.getLast?_reverse, ← getLast?_dropSilent, isDropped] at first
  have firstBefore : (dropSilent before).getLast? = some [] := by
    rw [getLast?_dropSilent]
    cases before with
    | nil => exact absurd (Option.some.inj first) nonempty
    | cons next before => rwa [List.getLast?_cons_cons] at first
  obtain ⟨rest, isRest⟩ := List.getLast?_eq_some_iff.mp firstBefore
  obtain ⟨silent, parts⟩ := dropSilent_suffix (path.chars.splitOn '/').reverse
  obtain ⟨silentBefore, partsBefore⟩ := dropSilent_suffix before
  refine ⟨rest, (silent ++ name :: silentBefore).reverse, isRest, ?_⟩
  rw [← List.reverse_append, List.append_assoc, List.cons_append, partsBefore, ← isDropped,
    parts, List.reverse_reverse]

/-- The parent of an absolute path is absolute, and its components are the first ones of the
path. -/
theorem parent_of_isAbsolute {path parent : Path} (absolute : path.isAbsolute = true)
    (isParent : path.parent? = some parent) :
    parent.isAbsolute = true ∧ parent.components <+: path.components := by
  obtain ⟨⟨name, before⟩, isLast, rfl⟩ := Option.map_eq_some_iff.mp isParent
  obtain ⟨rest, behind, isRest, parts⟩ := exists_of_splitLast? absolute isLast
  have begins : ((dropSilent before).reverse.filter fun piece => !piece.isEmpty && piece != ['.'])
      <+: path.components := by
    rw [components, parts, List.filter_append]
    exact List.prefix_append _ _
  have fromRoot : (dropSilent before).reverse = [] :: rest.reverse := by
    rw [isRest, List.reverse_concat]
  dsimp only
  split
  · exact ⟨rfl, List.nil_prefix⟩
  · rename_i notRoot
    have whole : ∀ piece ∈ (dropSilent before).reverse, '/' ∉ piece := by
      intro piece member
      exact slash_not_mem_of_mem_splitOn (parts ▸ List.mem_append_left behind member)
    rw [components_intercalate (by simp [fromRoot]) whole]
    refine ⟨?_, begins⟩
    rw [fromRoot]
    cases isMore : rest.reverse with
    | nil =>
        rw [List.reverse_eq_nil_iff.mp isMore] at isRest
        exact absurd isRest notRoot
    | cons second more => exact isAbsolute_intercalate second more

/-! ## Other extensions -/

/-- A name in a directory that leads to no other directory is the last component of its
path. -/
theorem splitLast?_join {parent : Path} (isNamed : parent.chars ≠ []) {name : String}
    (whole : '/' ∉ name.toList) (speaks : name.toList ≠ []) (leads : name.toList ≠ ['.']) :
    (parent.join name).splitLast? = some (name.toList, (parent.front.splitOn '/').reverse) := by
  have relative : name.toList.head? ≠ some '/' := fun isHead => whole (List.mem_of_head? isHead)
  obtain ⟨next, rest, isFront⟩ : ∃ next rest, (parent.front.splitOn '/').reverse = next :: rest :=
    List.exists_cons_of_ne_nil (by simp)
  have silent : (name.toList.isEmpty || name.toList == ['.']) = false := by
    simp [speaks, leads]
  rw [splitLast?, splitOn_join isNamed relative, List.splitOn_eq_singleton whole,
    List.reverse_append, List.reverse_singleton, List.singleton_append, isFront, dropSilent, silent]
  simp [speaks]

/-- A file with another extension is beside the file. -/
theorem withExtension_join {parent : Path} (isNamed : parent.chars ≠ []) {name : String}
    (stem : String) (whole : '/' ∉ name.toList)
    (isStem : (cutAtDot name.toList).1 = stem.toList) (wholeStem : '/' ∉ stem.toList)
    (speaks : name.toList ≠ []) (leads : name.toList ≠ ['.']) (stays : name.toList ≠ ['.', '.'])
    (extension : String) :
    (parent.join name).withExtension extension = parent.join (stem ++ "." ++ extension) := by
  have isLast := splitLast?_join isNamed whole speaks leads
  have isName : (parent.join name).fileName? = some name.toList := by
    rw [fileName?, isLast]
    simp [stays, leads]
  have relative : (stem ++ "." ++ extension).toList.head? ≠ some '/' := by
    rw [String.toList_append, String.toList_append]
    cases isStem : stem.toList with
    | nil => simp
    | cons first rest =>
        rw [isStem] at wholeStem
        intro isHead
        exact wholeStem (List.mem_cons.mpr (.inl (Option.some.inj isHead).symm))
  have joined : ['/'].intercalate (parent.front.splitOn '/' ++ [stem.toList]) =
      parent.front ++ '/' :: stem.toList := by
    rw [← List.splitOn_eq_singleton wholeStem, ← Text.splitOn_append_cons, List.intercalate_splitOn]
  apply ext_chars
  rw [withExtension, isName, isLast]
  simp only [isStem, List.reverse_cons, List.reverse_reverse, joined, chars_ofChars]
  rw [chars_join isNamed relative]
  simp

end Path

end BuildExplorer
