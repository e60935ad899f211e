import BuildExplorer.Json.Decode
import BuildExplorer.Proofs.Attempt
import BuildExplorer.Proofs.Json.RoundTrip

/-!
# Records that are written and read

A record is written as an object whose members are its fields, in their declared order;
fields without a value are left out.  A reader that asks for the fields by their names
finds each of them, present or absent as it was.
-/

namespace BuildExplorer

namespace Json

/-! ## Lists -/

/-- A list is decoded by its items. -/
theorem mapM_map_eq_some {Item Read Wanted : Type} {write : Item → Read}
    {decode : Read → Option Wanted} {wanted : Item → Wanted} {items : List Item}
    (each : ∀ item ∈ items, decode (write item) = some (wanted item)) :
    (items.map write).mapM decode = some (items.map wanted) := by
  induction items with
  | nil => rfl
  | cons item items inductionHypothesis =>
      have later := inductionHypothesis fun item member => each item (List.mem_cons_of_mem _ member)
      rw [List.map_cons, List.mapM_cons, each item List.mem_cons_self, later]
      rfl

theorem mapM_map_eq_some_self {Item Read : Type} {write : Item → Read}
    {decode : Read → Option Item} {items : List Item}
    (each : ∀ item ∈ items, decode (write item) = some item) :
    (items.map write).mapM decode = some items := by
  have read := mapM_map_eq_some each
  rwa [List.map_id'] at read

/-- A list that was decoded is told by its items, if each part is. -/
theorem eq_map_of_mapM {Item Read : Type} {decode : Read → Option Item} {write : Item → Read}
    (isTold : ∀ part item, decode part = some item → part = write item) {parts : List Read}
    {items : List Item} (read : parts.mapM decode = some items) : parts = items.map write := by
  induction parts generalizing items with
  | nil =>
      cases read
      rfl
  | cons part parts inductionHypothesis =>
      rw [List.mapM_cons] at read
      obtain ⟨first, isFirst, rest⟩ := Option.bind_eq_some_iff.mp read
      obtain ⟨others, areOthers, same⟩ := Option.bind_eq_some_iff.mp rest
      cases same
      rw [List.map_cons, isTold part first isFirst, inductionHypothesis areOthers]

/-- Each item of a list that was decoded was decoded. -/
theorem exists_of_mem_mapM {Item Read : Type} {decode : Read → Option Item} {parts : List Read}
    {items : List Item} (read : parts.mapM decode = some items) {item : Item}
    (member : item ∈ items) : ∃ part ∈ parts, decode part = some item := by
  induction parts generalizing items with
  | nil =>
      cases read
      exact nomatch member
  | cons part parts inductionHypothesis =>
      rw [List.mapM_cons] at read
      obtain ⟨first, isFirst, rest⟩ := Option.bind_eq_some_iff.mp read
      obtain ⟨others, areOthers, same⟩ := Option.bind_eq_some_iff.mp rest
      cases same
      rcases List.mem_cons.mp member with rfl | later
      · exact ⟨part, List.mem_cons_self, isFirst⟩
      · obtain ⟨other, isOther, decoded⟩ := inductionHypothesis areOthers later
        exact ⟨other, List.mem_cons_of_mem _ isOther, decoded⟩

theorem mapM_eq_some_iff_self {Item : Type} {decode : Item → Option Item} {items : List Item} :
    items.mapM decode = some items ↔ ∀ item ∈ items, decode item = some item := by
  constructor
  · intro read
    induction items with
    | nil => exact fun _ impossible => nomatch impossible
    | cons item items inductionHypothesis =>
        rw [List.mapM_cons] at read
        obtain ⟨found, isFound, read⟩ := Option.bind_eq_some_iff.mp read
        obtain ⟨others, areOthers, same⟩ := Option.bind_eq_some_iff.mp read
        obtain ⟨rfl, rfl⟩ := List.cons.inj (Option.some.inj same)
        intro wanted member
        rcases List.mem_cons.mp member with rfl | later
        · exact isFound
        · exact inductionHypothesis areOthers wanted later
  · intro each
    have read : (items.map id).mapM decode = some items := mapM_map_eq_some_self each
    rwa [List.map_id] at read

/-- A list of values that come back comes back. -/
theorem asList_array {Item : Type} {encode : Item → Json} {decode : Json → Option Item}
    (back : ∀ item, decode (encode item) = some item) (items : List Item) :
    asList decode (.array (items.map encode)) = some items :=
  mapM_map_eq_some_self fun item _ => back item

/-- Each item of a list that was read was decoded. -/
theorem exists_of_asList {Item : Type} {decode : Json → Option Item} {json : Json}
    {items : List Item} (read : asList decode json = some items) {item : Item}
    (member : item ∈ items) : ∃ part, decode part = some item := by
  cases json with
  | array parts =>
      obtain ⟨part, -, decoded⟩ := exists_of_mem_mapM read member
      exact ⟨part, decoded⟩
  | null | bool | number | string | object | unusable => cases read

theorem asString_string (text : String) : asString (.string text) = some text :=
  rfl

theorem asList_ofStrings (texts : List String) : asList asString (.ofStrings texts) = some texts :=
  asList_array asString_string texts

/-! ## Numbers -/

theorem exact_ofInt {value : Int} (isWord : Numeral.IsWord value) : Exact (.ofInt value) :=
  Numeral.reread_integer isWord

theorem exact_ofNat {value : Nat} (small : value < twoTo 64) : Exact (.ofNat value) := by
  apply exact_ofInt
  constructor
  · have : (0 : Int) ≤ twoTo 63 := Int.natCast_nonneg _
    omega
  · exact Int.ofNat_lt.mpr small

theorem asIntIn_ofInt {low limit value : Int} (notBelow : low ≤ value) (below : value < limit) :
    asIntIn low limit (.ofInt value) = some value := by
  simp [asIntIn, ofInt, notBelow, below]

theorem asUInt32_ofNat (value : UInt32) : asUInt32 (.ofNat value.toNat) = some value := by
  have below : (value.toNat : Int) < (twoTo 32 : Nat) := Int.ofNat_lt.mpr value.toNat_lt
  rw [asUInt32, ofNat, asIntIn_ofInt (Int.natCast_nonneg _) below]
  simp

theorem asUInt64_ofNat (value : UInt64) : asUInt64 (.ofNat value.toNat) = some value := by
  have below : (value.toNat : Int) < (twoTo 64 : Nat) := Int.ofNat_lt.mpr value.toNat_lt
  rw [asUInt64, ofNat, asIntIn_ofInt (Int.natCast_nonneg _) below]
  simp

theorem asInt32_ofInt (value : Int32) : asInt32 (.ofInt value.toInt) = some value := by
  have notBelow : -(twoTo 31 : Nat) ≤ value.toInt := value.le_toInt
  have below : value.toInt < (twoTo 31 : Nat) := value.toInt_lt
  rw [asInt32, asIntIn_ofInt notBelow below]
  simp

theorem exact_uint32 (value : UInt32) : Exact (.ofNat value.toNat) :=
  exact_ofNat (Nat.lt_trans value.toNat_lt (by decide))

theorem exact_uint64 (value : UInt64) : Exact (.ofNat value.toNat) :=
  exact_ofNat value.toNat_lt

theorem exact_int32 (value : Int32) : Exact (.ofInt value.toInt) := by
  apply exact_ofInt
  have notBelow : -(2 : Int) ^ 31 ≤ value.toInt := value.le_toInt
  have below : value.toInt < (2 : Int) ^ 31 := value.toInt_lt
  have low : (twoTo 63 : Int) = 9223372036854775808 := rfl
  have high : (twoTo 64 : Int) = 18446744073709551616 := rfl
  constructor <;> omega

theorem exact_ofStrings (texts : List String) : Exact (.ofStrings texts) := by
  apply exact_array
  intro item member
  obtain ⟨text, -, rfl⟩ := List.mem_map.mp member
  exact exact_string text

theorem exact_array_map {Item : Type} {encode : Item → Json} (each : ∀ item, Exact (encode item))
    (items : List Item) : Exact (.array (items.map encode)) := by
  apply exact_array
  intro json member
  obtain ⟨item, -, rfl⟩ := List.mem_map.mp member
  exact each item

/-- Fields whose values come back are read again as they were. -/
theorem map_reread_of_exact {Item : Type} {encode : Item → Json}
    (each : ∀ item, Exact (encode item)) (value : Option Item) :
    (value.map encode).map reread = value.map encode := by
  cases value with
  | none => rfl
  | some item => exact congrArg some (each item)

/-! ## Required and optional fields -/

/-- A field that is there is read as its value is. -/
theorem required_of_back {Item : Type} {decode : Json → Option Item} {json : Json} {item : Item}
    (back : decode json = some item) : required decode (some json) = some item :=
  back

@[simp]
theorem required_asString (text : String) : required asString (some (.string text)) = some text :=
  rfl

@[simp]
theorem required_asBool (value : Bool) : required asBool (some (.bool value)) = some value :=
  rfl

@[simp]
theorem required_asStrings (texts : List String) :
    required (asList asString) (some (.ofStrings texts)) = some texts :=
  required_of_back (asList_ofStrings texts)

@[simp]
theorem required_asUInt32 (value : UInt32) :
    required asUInt32 (some (.ofNat value.toNat)) = some value :=
  required_of_back (asUInt32_ofNat value)

@[simp]
theorem required_asUInt64 (value : UInt64) :
    required asUInt64 (some (.ofNat value.toNat)) = some value :=
  required_of_back (asUInt64_ofNat value)

@[simp]
theorem required_asInt32 (value : Int32) :
    required asInt32 (some (.ofInt value.toInt)) = some value :=
  required_of_back (asInt32_ofInt value)

/-- A field that has to be there was decoded. -/
theorem exists_of_required {Item : Type} {decode : Json → Option Item} {field : Option Json}
    {item : Item} (read : required decode field = some item) :
    ∃ json, decode json = some item := by
  cases field with
  | none => cases read
  | some json => exact ⟨json, read⟩

/-- A field that may be absent was decoded if it is there. -/
theorem exists_of_withDefault {Item : Type} {decode : Json → Option Item} {field : Option Json}
    {item : Item} (read : withDefault none (asOption decode) field = some (some item)) :
    ∃ json, decode json = some item := by
  cases field with
  | none => cases read
  | some json =>
      simp only [withDefault, asOption] at read
      split at read
      · cases read
      · obtain ⟨found, isFound, same⟩ := Option.map_eq_some_iff.mp read
        cases same
        exact ⟨_, isFound⟩

/-- A field that may be absent is read as it was, if no value is written as `null`. -/
theorem withDefault_asOption {Item : Type} {encode : Item → Json} {decode : Json → Option Item}
    (value : Option Item) (back : ∀ item ∈ value, decode (encode item) = some item)
    (present : ∀ item, encode item ≠ .null) :
    withDefault none (asOption decode) (value.map encode) = some value := by
  cases value with
  | none => rfl
  | some item =>
      have found := back item rfl
      have notNull := present item
      rw [Option.map_some, withDefault]
      generalize encode item = json at found notNull ⊢
      cases json with
      | null => exact absurd rfl notNull
      | bool | number | string | array | object | unusable =>
          rw [asOption, found] <;> simp

@[simp]
theorem withDefault_asString (value : Option String) :
    withDefault none (asOption asString) (value.map .string) = some value :=
  withDefault_asOption value (fun text _ => asString_string text) fun _ => Json.noConfusion

@[simp]
theorem withDefault_asUInt32 (value : Option UInt32) :
    withDefault none (asOption asUInt32) (value.map fun number => .ofNat number.toNat) =
      some value :=
  withDefault_asOption value (fun number _ => asUInt32_ofNat number) fun _ => Json.noConfusion

/-! ## Records -/

/-- An object with a member for each field that has a value. -/
def record (entries : List (String × Option Json)) : Json :=
  .object (entries.flatMap fun (key, value) => optional key id value)

theorem optional_eq_map {Item : Type} (key : String) (encode : Item → Json)
    (value : Option Item) : optional key encode value = optional key id (value.map encode) := by
  cases value <;> rfl

theorem map_optional (change : Json → Json) (key : String) (value : Option Json) :
    (optional key id value).map (fun (name, item) => (name, change item)) =
      optional key id (value.map change) := by
  cases value <;> rfl

/-- A record is read again field by field. -/
theorem reread_record (entries : List (String × Option Json)) :
    (record entries).reread = record (entries.map fun (key, value) => (key, value.map reread)) := by
  rw [record, reread, rereadMembers_eq_map, List.map_flatMap, record, List.flatMap_map]
  simp only [map_optional]

theorem exact_record {entries : List (String × Option Json)}
    (each : ∀ entry ∈ entries, ∀ value ∈ entry.2, Exact value) : Exact (record entries) := by
  have same : (entries.map fun (key, value) => (key, value.map reread)) = entries := by
    refine (List.map_congr_left fun entry member => ?_).trans (List.map_id _)
    rcases entry with ⟨key, value⟩
    cases value with
    | none => rfl
    | some json =>
        have isExact : json.reread = json := each (key, some json) member json rfl
        simp [isExact]
  rw [Exact, reread_record, same]

theorem filter_optional_of_ne {key name : String} (other : key ≠ name) (value : Option Json) :
    (optional key id value).filter (·.1 == name) = [] := by
  cases value <;> simp [other]

/-- Each field is found under its name. -/
theorem uniqueMember_record {entries : List (String × Option Json)} {key : String}
    {value : Option Json} (distinct : (entries.map Prod.fst).Nodup)
    (field : (key, value) ∈ entries) :
    uniqueMember (entries.flatMap fun (key, value) => optional key id value) key = some value := by
  have alone : (entries.flatMap fun (key, value) => optional key id value).filter (·.1 == key) =
      optional key id value := by
    induction entries with
    | nil => exact nomatch field
    | cons entry entries inductionHypothesis =>
        rw [List.map_cons, List.nodup_cons] at distinct
        rw [List.flatMap_cons, List.filter_append]
        rcases List.mem_cons.mp field with rfl | later
        · -- No other field has this name.
          have none : (entries.flatMap fun (key, value) => optional key id value).filter
              (·.1 == key) = [] := by
            rw [List.filter_flatMap, List.flatMap_eq_nil_iff]
            intro other member
            apply filter_optional_of_ne
            intro same
            exact distinct.1 (List.mem_map.mpr ⟨other, member, same⟩)
          rw [none, List.append_nil]
          cases value <;> simp
        · have other : entry.1 ≠ key := by
            intro same
            exact distinct.1 (List.mem_map.mpr ⟨(key, value), later, same.symm⟩)
          rw [filter_optional_of_ne other, List.nil_append]
          exact inductionHypothesis distinct.2 later
  rw [uniqueMember, alone]
  cases value <;> rfl

/-- The fields of a record are found as they are, whether they have a value or not. -/
theorem fields_record {entries : List (String × Option Json)}
    (distinct : (entries.map Prod.fst).Nodup) :
    (record entries).fields (entries.map Prod.fst) = some (entries.map Prod.snd) :=
  mapM_map_eq_some fun _ member => uniqueMember_record distinct member

end Json

end BuildExplorer
