import Mathlib.Data.List.Nodup
import BuildExplorer.Proofs.Json.Record
import BuildExplorer.Yaml.Value

/-!
# Values that outlast their JSON

A document can hold more than JSON can.  A value outlasts being written as JSON and read
again exactly if its mappings have distinct texts for keys, if it has no tags, if its
numbers are read as they were written, and if it is not nested too deep.  Everything
else is lost: it cannot be written, it cannot be read, or it comes back as something
else.
-/

namespace BuildExplorer.Yaml

open Json (reread rereadItems rereadMembers)

/-! ## Which values last -/

/-- A value that is read as itself if it may be nested to a depth. -/
inductive Value.Lasts : Nat → Value → Prop where
  | null {depth : Nat} : Lasts depth .null
  | bool {depth : Nat} (value : Bool) : Lasts depth (.bool value)
  | number {depth : Nat} {value : Number} (exact : Json.Numeral.reread value = .number value) :
      Lasts depth (.number value)
  | string {depth : Nat} (text : String) : Lasts depth (.string text)
  | sequence {depth : Nat} {items : List Value} (each : ∀ item ∈ items, Lasts depth item) :
      Lasts (depth + 1) (.sequence items)
  | mapping {depth : Nat} {entries : Mapping}
      (keys : ∀ entry ∈ entries, ∃ text, entry.1 = .string text)
      (distinct : (entries.map Prod.fst).Nodup) (each : ∀ entry ∈ entries, Lasts depth entry.2) :
      Lasts (depth + 1) (.mapping entries)

/-- Induction on the values in a value; keys are not looked into. -/
@[elab_as_elim]
theorem Value.byParts {holds : Value → Prop} (null : holds .null)
    (bool : ∀ value, holds (.bool value)) (number : ∀ value, holds (.number value))
    (string : ∀ text, holds (.string text))
    (sequence : ∀ items : List Value, (∀ item ∈ items, holds item) → holds (.sequence items))
    (mapping : ∀ entries : Mapping, (∀ entry ∈ entries, holds entry.2) → holds (.mapping entries))
    (tagged : ∀ tag value, holds (.tagged tag value)) (value : Value) : holds value :=
  match value with
  | .null => null
  | .bool value => bool value
  | .number value => number value
  | .string text => string text
  | .sequence items => sequence items fun item _ =>
      byParts null bool number string sequence mapping tagged item
  | .mapping entries => mapping entries fun entry _ =>
      byParts null bool number string sequence mapping tagged entry.2
  | .tagged tag value => tagged tag value
termination_by sizeOf value
decreasing_by
  · rename_i isItem
    have smaller := List.sizeOf_lt_of_mem isItem
    simp only [Value.sequence.sizeOf_spec]
    omega
  · rename_i isEntry
    have smaller := List.sizeOf_lt_of_mem isEntry
    rcases entry with ⟨key, item⟩
    simp only [Value.mapping.sizeOf_spec, Prod.mk.sizeOf_spec] at smaller ⊢
    omega

/-! ## Parts of what is written -/

/-- The first item is written in front of the others. -/
theorem itemsToJson_cons_eq_ok {item : Value} {items : List Value} {written : List Json}
    (isWritten : itemsToJson (item :: items) = .ok written) :
    ∃ json others, item.toJson = .ok json ∧ itemsToJson items = .ok others ∧
      written = json :: others := by
  obtain ⟨json, first, rest⟩ := bind_eq_ok_iff.mp isWritten
  obtain ⟨others, later, same⟩ := bind_eq_ok_iff.mp rest
  exact ⟨json, others, first, later, (Except.ok.inj same).symm⟩

/-- The first entry is written in front of the others, under the text of its key. -/
theorem entriesToJson_cons_eq_ok {key value : Value} {entries : Mapping}
    {written : List (String × Json)}
    (isWritten : entriesToJson ((key, value) :: entries) = .ok written) :
    ∃ name json others, keyText key = .ok name ∧ value.toJson = .ok json ∧
      entriesToJson entries = .ok others ∧ written = (name, json) :: others := by
  obtain ⟨name, isName, rest⟩ := bind_eq_ok_iff.mp isWritten
  obtain ⟨json, first, rest⟩ := bind_eq_ok_iff.mp rest
  obtain ⟨others, later, same⟩ := bind_eq_ok_iff.mp rest
  exact ⟨name, json, others, isName, first, later, (Except.ok.inj same).symm⟩

/-- A key is the text under which it is written exactly if it is a text. -/
theorem string_eq_iff_of_keyText {key : Value} {name : String} (isName : keyText key = .ok name) :
    Value.string name = key ↔ ∃ text, key = .string text := by
  constructor
  · intro same
    exact ⟨name, same.symm⟩
  · rintro ⟨text, rfl⟩
    exact congrArg Value.string (Except.ok.inj isName).symm

/-- Where all keys are texts, they are the names of the members. -/
theorem map_fst_of_entriesToJson {entries : Mapping} {members : List (String × Json)}
    (isWritten : entriesToJson entries = .ok members)
    (keys : ∀ entry ∈ entries, ∃ text, entry.1 = .string text) :
    entries.map Prod.fst = (members.map Prod.fst).map .string := by
  induction entries generalizing members with
  | nil =>
      cases isWritten
      rfl
  | cons entry entries inductionHypothesis =>
      obtain ⟨name, json, others, isName, -, later, rfl⟩ := entriesToJson_cons_eq_ok isWritten
      have same := (string_eq_iff_of_keyText isName).mpr (keys entry List.mem_cons_self)
      have rest := inductionHypothesis later fun entry member =>
        keys entry (List.mem_cons_of_mem _ member)
      rw [List.map_cons, rest, ← same]
      rfl

theorem distinctKeys_rereadMembers (members : List (String × Json)) :
    distinctKeys (rereadMembers members) = distinctKeys members := by
  have sameNames : (rereadMembers members).map Prod.fst = members.map Prod.fst := by
    rw [Json.rereadMembers_eq_map, List.map_map]
    rfl
  rw [distinctKeys, sameNames, distinctKeys]

/-! ## What is read again -/

/-- A value is read again as itself exactly if it lasts. -/
def RereadIff (value : Value) : Prop :=
  ∀ depth json, value.toJson = .ok json →
    (Value.ofJson? depth json.reread = some value ↔ value.Lasts depth)

theorem itemsOfJson?_rereadItems_iff {items : List Value} (each : ∀ item ∈ items, RereadIff item)
    {written : List Json} (isWritten : itemsToJson items = .ok written) (depth : Nat) :
    itemsOfJson? depth (rereadItems written) = some items ↔
      ∀ item ∈ items, item.Lasts depth := by
  induction items generalizing written with
  | nil =>
      cases isWritten
      simp [rereadItems, itemsOfJson?]
  | cons item items inductionHypothesis =>
      obtain ⟨json, others, first, later, rfl⟩ := itemsToJson_cons_eq_ok isWritten
      have ofFirst := each item List.mem_cons_self depth json first
      have ofOthers := inductionHypothesis
        (fun item member => each item (List.mem_cons_of_mem _ member)) later
      rw [List.forall_mem_cons, ← ofFirst, ← ofOthers]
      simp [rereadItems, itemsOfJson?, Option.bind_eq_some_iff]

theorem entriesOfJson?_rereadMembers_iff {entries : Mapping}
    (each : ∀ entry ∈ entries, RereadIff entry.2) {members : List (String × Json)}
    (isWritten : entriesToJson entries = .ok members) (depth : Nat) :
    entriesOfJson? depth (rereadMembers members) = some entries ↔
      (∀ entry ∈ entries, ∃ text, entry.1 = .string text) ∧
        ∀ entry ∈ entries, entry.2.Lasts depth := by
  induction entries generalizing members with
  | nil =>
      cases isWritten
      simp [rereadMembers, entriesOfJson?]
  | cons entry entries inductionHypothesis =>
      rcases entry with ⟨key, value⟩
      obtain ⟨name, json, others, isName, first, later, rfl⟩ := entriesToJson_cons_eq_ok isWritten
      have ofFirst := each (key, value) List.mem_cons_self depth json first
      have ofOthers := inductionHypothesis
        (fun entry member => each entry (List.mem_cons_of_mem _ member)) later
      rw [List.forall_mem_cons, List.forall_mem_cons, ← string_eq_iff_of_keyText isName, ← ofFirst]
      simp only [rereadMembers, entriesOfJson?, Option.bind_eq_bind, Option.bind_eq_some_iff,
        Option.pure_def, Option.some.injEq, List.cons.injEq, Prod.mk.injEq]
      constructor
      · rintro ⟨found, isFound, others, areOthers, ⟨isKey, rfl⟩, rfl⟩
        have rest := ofOthers.mp areOthers
        exact ⟨⟨isKey, rest.1⟩, isFound, rest.2⟩
      · rintro ⟨⟨isKey, keys⟩, isFound, lasting⟩
        exact ⟨value, isFound, entries, ofOthers.mpr ⟨keys, lasting⟩, ⟨isKey, rfl⟩, rfl⟩

theorem rereadIff_number (number : Number) : RereadIff (.number number) := by
  intro depth json isWritten
  cases isWritten
  rw [reread]
  constructor
  · intro read
    apply Value.Lasts.number
    generalize Json.Numeral.reread number = json at read ⊢
    cases json with
    | number found =>
        cases read
        rfl
    | null | bool | string | unusable => cases read
    | array items =>
        cases depth with
        | zero => cases read
        | succ depth =>
            obtain ⟨_, -, impossible⟩ := Option.map_eq_some_iff.mp read
            cases impossible
    | object members =>
        cases depth with
        | zero => cases read
        | succ depth =>
            rw [Value.ofJson?] at read
            split at read
            · obtain ⟨_, -, impossible⟩ := Option.map_eq_some_iff.mp read
              cases impossible
            · cases read
  · rintro ⟨⟩
    rename_i exact
    rw [exact, Value.ofJson?]

theorem rereadIff_sequence {items : List Value} (each : ∀ item ∈ items, RereadIff item) :
    RereadIff (.sequence items) := by
  intro depth json isWritten
  rw [Value.toJson] at isWritten
  obtain ⟨jsons, written, rfl⟩ := map_eq_ok_iff.mp isWritten
  cases depth with
  | zero =>
      constructor
      · intro impossible
        cases impossible
      · intro impossible
        cases impossible
  | succ depth =>
      have ofItems := itemsOfJson?_rereadItems_iff each written depth
      rw [reread, Value.ofJson?, Option.map_eq_some_iff]
      constructor
      · rintro ⟨found, isFound, same⟩
        cases same
        exact .sequence (ofItems.mp isFound)
      · rintro ⟨⟩
        rename_i lasting
        exact ⟨items, ofItems.mpr lasting, rfl⟩

theorem rereadIff_mapping {entries : Mapping} (each : ∀ entry ∈ entries, RereadIff entry.2) :
    RereadIff (.mapping entries) := by
  intro depth json isWritten
  rw [Value.toJson] at isWritten
  obtain ⟨members, written, rfl⟩ := map_eq_ok_iff.mp isWritten
  cases depth with
  | zero =>
      constructor
      · intro impossible
        cases impossible
      · intro impossible
        cases impossible
  | succ depth =>
      have ofEntries := entriesOfJson?_rereadMembers_iff each written depth
      have distinctIff : (∀ entry ∈ entries, ∃ text, entry.1 = .string text) →
          (distinctKeys members = true ↔ (entries.map Prod.fst).Nodup) := by
        intro keys
        have textInjective : Function.Injective Value.string := fun _ _ => Value.string.inj
        rw [map_fst_of_entriesToJson written keys, List.nodup_map_iff textInjective,
          distinctKeys, decide_eq_true_eq]
      rw [reread, Value.ofJson?, distinctKeys_rereadMembers]
      constructor
      · intro read
        split at read
        · rename_i distinct
          obtain ⟨found, isFound, same⟩ := Option.map_eq_some_iff.mp read
          cases same
          obtain ⟨keys, lasting⟩ := ofEntries.mp isFound
          exact .mapping keys ((distinctIff keys).mp distinct) lasting
        · cases read
      · rintro ⟨⟩
        rename_i keys distinct lasting
        rw [if_pos ((distinctIff keys).mpr distinct), ofEntries.mpr ⟨keys, lasting⟩]
        rfl

/-- A tag is lost: it comes back as the only key of a mapping. -/
theorem rereadIff_tagged (tag : String) (value : Value) : RereadIff (.tagged tag value) := by
  intro depth json isWritten
  constructor
  · intro read
    rw [Value.toJson] at isWritten
    obtain ⟨inner, -, rfl⟩ := map_eq_ok_iff.mp isWritten
    rw [reread] at read
    cases depth with
    | zero => cases read
    | succ depth =>
        rw [Value.ofJson?] at read
        split at read
        · obtain ⟨_, -, impossible⟩ := Option.map_eq_some_iff.mp read
          cases impossible
        · cases read
  · intro impossible
    cases impossible

/-- A value that was written is read again as itself exactly if it lasts. -/
theorem ofJson?_reread_iff (value : Value) : RereadIff value := by
  induction value using Value.byParts with
  | null =>
      intro depth json isWritten
      cases isWritten
      exact iff_of_true rfl .null
  | bool value =>
      intro depth json isWritten
      cases isWritten
      exact iff_of_true rfl (.bool value)
  | number number => exact rereadIff_number number
  | string text =>
      intro depth json isWritten
      cases isWritten
      exact iff_of_true rfl (.string text)
  | sequence items each => exact rereadIff_sequence each
  | mapping entries each => exact rereadIff_mapping each
  | tagged tag value => exact rereadIff_tagged tag value

/-! ## What lasts can be written -/

theorem exists_itemsToJson {items : List Value}
    (each : ∀ item ∈ items, ∃ json, item.toJson = .ok json) :
    ∃ written, itemsToJson items = .ok written := by
  induction items with
  | nil => exact ⟨[], rfl⟩
  | cons item items inductionHypothesis =>
      obtain ⟨json, first⟩ := each item List.mem_cons_self
      obtain ⟨others, later⟩ := inductionHypothesis fun item member =>
        each item (List.mem_cons_of_mem _ member)
      exact ⟨json :: others, by rw [itemsToJson, first, later]; rfl⟩

theorem exists_entriesToJson {entries : Mapping}
    (keys : ∀ entry ∈ entries, ∃ text, entry.1 = .string text)
    (each : ∀ entry ∈ entries, ∃ json, entry.2.toJson = .ok json) :
    ∃ members, entriesToJson entries = .ok members := by
  induction entries with
  | nil => exact ⟨[], rfl⟩
  | cons entry entries inductionHypothesis =>
      rcases entry with ⟨key, value⟩
      obtain ⟨text, isText⟩ := keys (key, value) List.mem_cons_self
      obtain ⟨json, first⟩ := each (key, value) List.mem_cons_self
      obtain ⟨others, later⟩ := inductionHypothesis
        (fun entry member => keys entry (List.mem_cons_of_mem _ member))
        fun entry member => each entry (List.mem_cons_of_mem _ member)
      subst isText
      exact ⟨(text, json) :: others, by rw [entriesToJson, first, later]; rfl⟩

theorem Value.Lasts.exists_toJson {depth : Nat} {value : Value} (lasts : value.Lasts depth) :
    ∃ json, value.toJson = .ok json := by
  induction lasts with
  | null => exact ⟨.null, rfl⟩
  | bool value => exact ⟨.bool value, rfl⟩
  | @number _ value exact => exact ⟨.number value, rfl⟩
  | string text => exact ⟨.string text, rfl⟩
  | sequence each inductionHypothesis =>
      obtain ⟨written, isWritten⟩ := exists_itemsToJson inductionHypothesis
      exact ⟨.array written, by rw [Value.toJson, isWritten]; rfl⟩
  | mapping keys distinct each inductionHypothesis =>
      obtain ⟨members, isWritten⟩ := exists_entriesToJson keys inductionHypothesis
      exact ⟨.object members, by rw [Value.toJson, isWritten]; rfl⟩

/-! ## What was read can be written -/

/-- What was read is written as what it was read from. -/
def IsWrittenBack (json : Json) : Prop :=
  ∀ depth value, Value.ofJson? depth json = some value → value.toJson = .ok json

theorem itemsToJson_of_itemsOfJson? {items : List Json} (each : ∀ item ∈ items, IsWrittenBack item)
    {depth : Nat} {values : List Value} (read : itemsOfJson? depth items = some values) :
    itemsToJson values = .ok items := by
  induction items generalizing values with
  | nil =>
      cases read
      rfl
  | cons item items inductionHypothesis =>
      obtain ⟨value, isValue, rest⟩ := Option.bind_eq_some_iff.mp read
      obtain ⟨others, areOthers, same⟩ := Option.bind_eq_some_iff.mp rest
      cases same
      have first := each item List.mem_cons_self depth value isValue
      have later := inductionHypothesis
        (fun item member => each item (List.mem_cons_of_mem _ member)) areOthers
      rw [itemsToJson, first, later]
      rfl

theorem entriesToJson_of_entriesOfJson? {members : List (String × Json)}
    (each : ∀ member ∈ members, IsWrittenBack member.2) {depth : Nat} {entries : Mapping}
    (read : entriesOfJson? depth members = some entries) :
    entriesToJson entries = .ok members := by
  induction members generalizing entries with
  | nil =>
      cases read
      rfl
  | cons member members inductionHypothesis =>
      obtain ⟨value, isValue, rest⟩ := Option.bind_eq_some_iff.mp read
      obtain ⟨others, areOthers, same⟩ := Option.bind_eq_some_iff.mp rest
      cases same
      have first := each member List.mem_cons_self depth value isValue
      have later := inductionHypothesis
        (fun member isMember => each member (List.mem_cons_of_mem _ isMember)) areOthers
      rw [entriesToJson, keyText, first, later]
      rfl

theorem isWrittenBack (json : Json) : IsWrittenBack json := by
  induction json using Json.byParts with
  | null | bool value | number value | string text =>
      intro depth value read
      cases read
      rfl
  | unusable => exact fun _ _ impossible => nomatch impossible
  | array items each =>
      intro depth value read
      cases depth with
      | zero => cases read
      | succ depth =>
          obtain ⟨values, areValues, rfl⟩ := Option.map_eq_some_iff.mp read
          rw [Value.toJson, itemsToJson_of_itemsOfJson? each areValues]
          rfl
  | object members each =>
      intro depth value read
      cases depth with
      | zero => cases read
      | succ depth =>
          rw [Value.ofJson?] at read
          split at read
          · obtain ⟨entries, areEntries, rfl⟩ := Option.map_eq_some_iff.mp read
            rw [Value.toJson, entriesToJson_of_entriesOfJson? each areEntries]
            rfl
          · cases read

/-! ## Mappings -/

/-- What a mapping is when it was written and is read again. -/
def rereadMapping? (depth : Nat) (entries : Mapping) : Option Mapping :=
  match entriesToJson entries with
  | .error _ => none
  | .ok members => mappingOfJson? depth (Json.object members).reread

theorem mappingOfJson?_eq_some_iff {depth : Nat} {json : Json} {entries : Mapping} :
    mappingOfJson? depth json = some entries ↔
      Value.ofJson? depth json = some (.mapping entries) := by
  unfold mappingOfJson?
  split
  · rename_i found isFound
    rw [isFound]
    simp
  · rename_i noMapping
    constructor
    · intro impossible
      cases impossible
    · intro read
      exact absurd read (noMapping entries)

/-- A mapping that was read can be written. -/
theorem exists_entriesToJson_of_mappingOfJson? {depth : Nat} {json : Json} {entries : Mapping}
    (read : mappingOfJson? depth json = some entries) :
    ∃ members, entriesToJson entries = .ok members := by
  have back := isWrittenBack json depth _ (mappingOfJson?_eq_some_iff.mp read)
  rw [Value.toJson] at back
  obtain ⟨members, written, -⟩ := map_eq_ok_iff.mp back
  exact ⟨members, written⟩

/-- A mapping comes back exactly if it lasts. -/
theorem rereadMapping?_eq_some_self_iff {depth : Nat} {entries : Mapping} :
    rereadMapping? depth entries = some entries ↔ (Value.mapping entries).Lasts depth := by
  unfold rereadMapping?
  cases written : entriesToJson entries with
  | error error =>
      constructor
      · intro impossible
        cases impossible
      · intro lasts
        obtain ⟨json, isWritten⟩ := lasts.exists_toJson
        rw [Value.toJson, written] at isWritten
        cases isWritten
  | ok members =>
      have isWritten : (Value.mapping entries).toJson = .ok (.object members) := by
        rw [Value.toJson, written]
        rfl
      rw [mappingOfJson?_eq_some_iff]
      exact ofJson?_reread_iff (.mapping entries) depth _ isWritten

/-! ## Mappings of texts -/

/-- The mapping of texts to texts. -/
def ofTexts (texts : List (String × String)) : Mapping :=
  texts.map fun entry => (.string entry.1, .string entry.2)

/-- The texts of a mapping that has no other keys and values. -/
def texts? (entries : Mapping) : Option (List (String × String)) :=
  entries.mapM fun
    | (.string key, .string text) => some (key, text)
    | _ => none

theorem eq_ofTexts_of_texts? {entries : Mapping} {texts : List (String × String)}
    (areTexts : texts? entries = some texts) : entries = ofTexts texts := by
  refine Json.eq_map_of_mapM (fun entry text isText => ?_) areTexts
  split at isText
  · cases isText
    rfl
  · cases isText

theorem lasts_ofTexts {texts : List (String × String)} (distinct : (texts.map Prod.fst).Nodup)
    (depth : Nat) : (Value.mapping (ofTexts texts)).Lasts (depth + 1) := by
  refine .mapping ?keys ?distinct ?each
  case keys =>
      intro entry member
      obtain ⟨text, -, rfl⟩ := List.mem_map.mp member
      exact ⟨text.1, rfl⟩
  case distinct =>
      have injective : Function.Injective Value.string := fun _ _ => Value.string.inj
      have keys : (ofTexts texts).map Prod.fst = (texts.map Prod.fst).map Value.string := by
        rw [ofTexts, List.map_map, List.map_map]
        rfl
      rw [keys]
      exact distinct.map injective
  case each =>
      intro entry member
      obtain ⟨text, -, rfl⟩ := List.mem_map.mp member
      exact .string text.2

end BuildExplorer.Yaml
