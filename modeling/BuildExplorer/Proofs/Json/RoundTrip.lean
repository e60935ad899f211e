import BuildExplorer.Json.Parser
import BuildExplorer.Proofs.Json.Numeral

/-!
# What is written is read back

The compact form of a value is always read, and the parts of what is read are the parts
of what was written: no choice of texts inside of them can blur where one ends and the
next begins.  Only numbers may come back as others, and what has no spelling comes back
as `null`.  So two values that are made without numbers are the same if they have one
form.
-/

namespace BuildExplorer.Json

open BuildExplorer.Json.Parser (Draft stringTail value items members key skipSpace isSpace)

/-! ## Texts -/

theorem hexValue_hexDigit {digit : Nat} (small : digit < 16) :
    Text.hexValue (hexDigit digit) = some digit := by
  have each : ∀ digit < 16, Text.hexValue (hexDigit digit) = some digit := by decide
  exact each digit small

/-- An escape of one letter is read as what it denotes. -/
theorem stringTail_shortEscape {letter char : Char}
    (denotes : Parser.shortEscape letter = some char) (draft : Draft) (rest : List Char) :
    stringTail draft ('\\' :: letter :: rest) = stringTail (draft.push char) rest := by
  have notUnit : letter ≠ 'u' := by
    rintro rfl
    exact nomatch denotes
  simp [stringTail, notUnit, denotes]

/-- The escape of a control is read as the control. -/
theorem stringTail_unit {char : Char} (control : char.toNat < 32) (draft : Draft)
    (rest : List Char) :
    stringTail draft ('\\' :: 'u' :: '0' :: '0' :: hexDigit (char.toNat / 16) ::
      hexDigit (char.toNat % 16) :: rest) = stringTail (draft.push char) rest := by
  have zero : Text.hexValue '0' = some 0 := by decide
  have high : Text.hexValue (hexDigit (char.toNat / 16)) = some (char.toNat / 16) :=
    hexValue_hexDigit (by omega)
  have low : Text.hexValue (hexDigit (char.toNat % 16)) = some (char.toNat % 16) :=
    hexValue_hexDigit (by omega)
  have unit : Parser.hexUnit '0' '0' (hexDigit (char.toNat / 16)) (hexDigit (char.toNat % 16)) =
      some char.toNat := by
    simp only [Parser.hexUnit, zero, high, low]
    simp
    omega
  have noSurrogate : draft.pushUnit char.toNat = draft.push char := by
    unfold Draft.pushUnit
    rw [if_neg (by simp; omega), if_neg (by simp; omega), Char.ofNat_toNat]
  rw [stringTail, unit]
  exact congrArg (stringTail · rest) noSurrogate

/-- A character that was escaped is read back. -/
theorem stringTail_escape (draft : Draft) (char : Char) (rest : List Char) :
    stringTail draft (escape char ++ rest) = stringTail (draft.push char) rest := by
  unfold escape
  -- Seven characters have an escape of one letter.
  split
  · subst_vars
    exact stringTail_shortEscape rfl draft rest
  split
  · subst_vars
    exact stringTail_shortEscape rfl draft rest
  split
  · subst_vars
    exact stringTail_shortEscape rfl draft rest
  split
  · subst_vars
    exact stringTail_shortEscape rfl draft rest
  split
  · subst_vars
    exact stringTail_shortEscape rfl draft rest
  split
  · subst_vars
    exact stringTail_shortEscape rfl draft rest
  split
  · subst_vars
    exact stringTail_shortEscape rfl draft rest
  split
  · rename_i control
    exact stringTail_unit control draft rest
  · rename_i notBackslash _ _ _ _ _ notControl
    simp [stringTail, notBackslash, notControl]

/-- A text that was escaped is read back up to the quote behind it. -/
theorem stringTail_flatMap_escape (draft : Draft) (text rest : List Char) :
    stringTail draft (text.flatMap escape ++ '"' :: rest) =
      some (text.foldl Draft.push draft, rest) := by
  induction text generalizing draft with
  | nil => simp [stringTail]
  | cons char text inductionHypothesis =>
      rw [List.flatMap_cons, List.append_assoc, stringTail_escape, inductionHypothesis]
      rfl

theorem foldl_push (text done : List Char) :
    text.foldl Draft.push ⟨done, none, true⟩ = ⟨text.reverse ++ done, none, true⟩ := by
  induction text generalizing done with
  | nil => rfl
  | cons char text inductionHypothesis =>
      rw [List.foldl_cons, List.reverse_cons, List.append_assoc]
      exact inductionHypothesis (char :: done)

/-- A text in quotes is read back. -/
theorem stringTail_printString (text : String) (rest : List Char) :
    stringTail .empty (text.toList.flatMap escape ++ '"' :: rest) =
      some (⟨text.toList.reverse, none, true⟩, rest) := by
  rw [stringTail_flatMap_escape, Draft.empty, foldl_push, List.append_nil]

/-! ## What values are read as -/

/-- Induction on the parts of a value. -/
@[elab_as_elim]
theorem byParts {holds : Json → Prop} (null : holds .null) (bool : ∀ value, holds (.bool value))
    (number : ∀ value, holds (.number value)) (string : ∀ text, holds (.string text))
    (array : ∀ items : List Json, (∀ item ∈ items, holds item) → holds (.array items))
    (object : ∀ members : List (String × Json), (∀ member ∈ members, holds member.2) →
      holds (.object members))
    (unusable : holds .unusable) (json : Json) : holds json :=
  match json with
  | .null => null
  | .bool value => bool value
  | .number value => number value
  | .string text => string text
  | .array items => array items fun item _ =>
      byParts null bool number string array object unusable item
  | .object members => object members fun member _ =>
      byParts null bool number string array object unusable member.2
  | .unusable => unusable
termination_by sizeOf json
decreasing_by
  · rename_i isItem
    have smaller := List.sizeOf_lt_of_mem isItem
    simp only [Json.array.sizeOf_spec]
    omega
  · rename_i isMember
    have smaller := List.sizeOf_lt_of_mem isMember
    rcases member with ⟨name, item⟩
    simp only [Json.object.sizeOf_spec, Prod.mk.sizeOf_spec] at smaller ⊢
    omega

mutual

/-- What a value is when it was written and is read again. -/
def reread : Json → Json
  | .null => .null
  | .bool value => .bool value
  | .number value => Numeral.reread value
  | .string text => .string text
  | .array items => .array (rereadItems items)
  | .object members => .object (rereadMembers members)
  | .unusable => .null

def rereadItems : List Json → List Json
  | [] => []
  | item :: items => reread item :: rereadItems items

def rereadMembers : List (String × Json) → List (String × Json)
  | [] => []
  | (name, item) :: members => (name, reread item) :: rereadMembers members

end

theorem rereadItems_eq_map (items : List Json) : rereadItems items = items.map reread := by
  induction items with
  | nil => rfl
  | cons item items inductionHypothesis => rw [rereadItems, inductionHypothesis, List.map_cons]

theorem rereadMembers_eq_map (members : List (String × Json)) :
    rereadMembers members = members.map fun (name, item) => (name, item.reread) := by
  induction members with
  | nil => rfl
  | cons member members inductionHypothesis =>
      rw [rereadMembers, inductionHypothesis, List.map_cons]

/-- A value is read as another one, given enough fuel and something that ends it. -/
def ReadsAs (json found : Json) : Prop :=
  ∀ fuel rest, 2 * (compact json).length ≤ fuel → Numeral.Ended rest →
    value fuel (compact json ++ rest) = some (found, rest)

/-! ## Values without parts -/

theorem length_printString (text : String) : 2 ≤ (printString text).length := by
  simp [printString]

theorem readsAs_null : ReadsAs .null .null := by
  intro fuel rest enough _
  cases fuel with
  | zero => simp [compact] at enough
  | succ fuel => simp [compact, value, skipSpace, isSpace]

theorem readsAs_bool (isTrue : Bool) : ReadsAs (.bool isTrue) (.bool isTrue) := by
  intro fuel rest enough _
  cases fuel with
  | zero => cases isTrue <;> simp [compact] at enough
  | succ fuel => cases isTrue <;> simp [compact, value, skipSpace, isSpace]

theorem readsAs_string (text : String) : ReadsAs (.string text) (.string text) := by
  intro fuel rest enough _
  have long := length_printString text
  obtain ⟨fuel, rfl⟩ : ∃ smaller, fuel = smaller + 1 := ⟨fuel - 1, by
    simp only [compact] at enough
    omega⟩
  simp [compact, printString, value, skipSpace, isSpace, Parser.string, stringTail_printString,
    Draft.text?]

/-- A digit or a minus sign begins no other value than a number. -/
def IsNumeralStart (char : Char) : Prop :=
  char.isDigit = true ∨ char = '-'

theorem IsNumeralStart.isSpace_eq_false {char : Char} (starts : IsNumeralStart char) :
    isSpace char = false := by
  rcases starts with isDigit | rfl
  · simp only [isSpace, Bool.or_eq_false_iff, decide_eq_false_iff_not]
    refine ⟨⟨⟨?_, ?_⟩, ?_⟩, ?_⟩ <;> exact Numeral.ne_of_isDigit isDigit (by decide)
  · rfl

theorem IsNumeralStart.ne {char other : Char} (starts : IsNumeralStart char)
    (notDigit : other.isDigit = false) (notMinus : other ≠ '-') : char ≠ other := by
  rcases starts with isDigit | rfl
  · exact Numeral.ne_of_isDigit isDigit notDigit
  · exact notMinus.symm

theorem value_of_numeralStart (fuel : Nat) {first : Char} (starts : IsNumeralStart first)
    (text : List Char) : value (fuel + 1) (first :: text) = Numeral.read (first :: text) := by
  have stays : skipSpace (first :: text) = first :: text := by
    simp [skipSpace, starts.isSpace_eq_false]
  have others : first ≠ 'n' ∧ first ≠ 't' ∧ first ≠ 'f' ∧ first ≠ '"' ∧ first ≠ '[' ∧
      first ≠ '\x7b' := by
    refine ⟨?_, ?_, ?_, ?_, ?_, ?_⟩ <;> exact starts.ne (by decide) (by decide)
  simp [value, stays, others]

/-- What is spelled as a number begins like one. -/
theorem exists_numeralStart {magnitude : List Char} (spelled : Decimal.Spelled magnitude)
    (negative : Bool) : ∃ first rest, IsNumeralStart first ∧
      (if negative then '-' :: magnitude else magnitude) = first :: rest := by
  cases negative with
  | true => exact ⟨'-', magnitude, .inr rfl, rfl⟩
  | false =>
      obtain ⟨whole, tail, rfl, isWhole, -⟩ := spelled
      obtain ⟨first, others, rfl⟩ := List.exists_cons_of_ne_nil isWhole.nonempty
      exact ⟨first, others ++ tail, .inl (isWhole.each first List.mem_cons_self), rfl⟩

theorem readsAs_number (number : Number) : ReadsAs (.number number) (Numeral.reread number) := by
  intro fuel rest enough ended
  rcases Numeral.spelled_or_null number with ⟨negative, magnitude, spelled, isText⟩ | isNull
  · obtain ⟨json, readsAs⟩ := Numeral.exists_readsAs_of_spelled spelled negative
    obtain ⟨first, after, starts, isCons⟩ := exists_numeralStart spelled negative
    rw [← isText] at readsAs isCons
    rw [Numeral.reread_of_readsAs readsAs]
    have readHere := readsAs rest ended
    simp only [compact, isCons, List.length_cons] at enough readHere ⊢
    obtain ⟨fuel, rfl⟩ : ∃ smaller, fuel = smaller + 1 := ⟨fuel - 1, by omega⟩
    rw [List.cons_append, value_of_numeralStart fuel starts]
    exact readHere
  · have readAsNull : Numeral.reread number = .null := by
      rw [Numeral.reread, isNull]
      rfl
    have sameText : compact (.number number) = compact .null := isNull
    rw [readAsNull, sameText]
    exact readsAs_null fuel rest (sameText ▸ enough) ended

/-- The compact form of a value starts with a character that is no blank and ends no
container. -/
theorem exists_compact_eq_cons (json : Json) :
    ∃ first rest, compact json = first :: rest ∧ isSpace first = false ∧ first ≠ ']' := by
  cases json with
  | null | unusable => exact ⟨'n', _, rfl, by decide, by decide⟩
  | bool value => cases value <;> exact ⟨_, _, rfl, by decide, by decide⟩
  | number number =>
      rcases Numeral.spelled_or_null number with ⟨negative, magnitude, spelled, isText⟩ | isNull
      · obtain ⟨first, after, starts, isCons⟩ := exists_numeralStart spelled negative
        exact ⟨first, after, isText.trans isCons, starts.isSpace_eq_false,
          starts.ne (by decide) (by decide)⟩
      · exact ⟨'n', _, isNull, by decide, by decide⟩
  | string text => exact ⟨'"', _, rfl, by decide, by decide⟩
  | array items => exact ⟨'[', _, rfl, by decide, by decide⟩
  | object members => exact ⟨'\x7b', _, rfl, by decide, by decide⟩

/-! ## Containers -/

/-- What stands between the parts of a container, or closes it, ends a number. -/
theorem ended_cons_of_closes {closing : Char} (closes : Numeral.continues closing = false)
    (rest : List Char) : Numeral.Ended (closing :: rest) := by
  rintro char ⟨⟩
  exact closes

/-- The items of an array are read one behind the other. -/
theorem items_intercalate (left : List Json) (nonempty : left ≠ [])
    (each : ∀ item ∈ left, ReadsAs item item.reread) (done : List Json) (fuel : Nat)
    (rest : List Char)
    (enough : 2 * ([','].intercalate (compactItems left)).length + 1 ≤ fuel) :
    items fuel done ([','].intercalate (compactItems left) ++ ']' :: rest) =
      some (.array (done.reverse ++ rereadItems left), rest) := by
  induction left generalizing done fuel with
  | nil => exact absurd rfl nonempty
  | cons item left inductionHypothesis =>
      obtain ⟨fuel, rfl⟩ : ∃ smaller, fuel = smaller + 1 := ⟨fuel - 1, by omega⟩
      have first := each item List.mem_cons_self
      cases left with
      | nil =>
          simp only [compactItems, List.intercalate_singleton] at enough ⊢
          rw [items, first fuel _ (by omega) (ended_cons_of_closes rfl _)]
          simp [skipSpace, isSpace, rereadItems]
      | cons second left =>
          simp only [compactItems, List.intercalate_cons_cons, List.length_append,
            List.length_singleton] at enough inductionHypothesis ⊢
          rw [List.append_assoc, List.append_assoc, List.singleton_append, items,
            first fuel _ (by omega) (ended_cons_of_closes rfl _)]
          have later := inductionHypothesis (by simp)
            (fun item member => each item (List.mem_cons_of_mem _ member)) (item.reread :: done)
            fuel (by omega)
          simpa [skipSpace, isSpace, rereadItems] using later

/-- The key of a member is read back, and the colon with it. -/
theorem key_printString (name : String) (rest : List Char) :
    key (printString name ++ ':' :: rest) = some (some name, rest) := by
  simp [key, printString, skipSpace, isSpace, stringTail_printString, Draft.text?]

/-- Members with keys that can be used make an object. -/
theorem objectOf_reverse_map (members : List (String × Json)) :
    Parser.objectOf (members.map fun member => (some member.1, member.2)).reverse =
      .object members := by
  have named : (members.map fun member => (some member.1, member.2)).mapM
      (fun entry => entry.1.map (·, entry.2)) = some members := by
    induction members with
    | nil => rfl
    | cons member members inductionHypothesis => simp [inductionHypothesis]
  rw [Parser.objectOf, List.reverse_reverse]
  dsimp only
  split
  · rename_i found isFound
    rw [Option.some.inj (isFound.symm.trans named)]
  · rename_i notFound
    exact nomatch notFound.symm.trans named

/-- The members of an object are read one behind the other. -/
theorem members_intercalate (left : List (String × Json)) (nonempty : left ≠ [])
    (each : ∀ member ∈ left, ReadsAs member.2 member.2.reread) (earlier : List (String × Json))
    (fuel : Nat) (rest : List Char)
    (enough : 2 * ([','].intercalate (compactMembers left)).length + 1 ≤ fuel) :
    members fuel (earlier.map fun member => (some member.1, member.2)).reverse
        ([','].intercalate (compactMembers left) ++ '\x7d' :: rest) =
      some (.object (earlier ++ rereadMembers left), rest) := by
  induction left generalizing earlier fuel with
  | nil => exact absurd rfl nonempty
  | cons member left inductionHypothesis =>
      obtain ⟨fuel, rfl⟩ : ∃ smaller, fuel = smaller + 1 := ⟨fuel - 1, by omega⟩
      obtain ⟨name, item⟩ := member
      have first : ReadsAs item item.reread := each (name, item) List.mem_cons_self
      have done := objectOf_reverse_map (earlier ++ [(name, item.reread)])
      have grown : (some name, item.reread) ::
          (earlier.map fun member => (some member.1, member.2)).reverse =
            ((earlier ++ [(name, item.reread)]).map
              fun member => (some member.1, member.2)).reverse := by
        simp
      cases left with
      | nil =>
          simp only [compactMembers, List.intercalate_singleton, List.length_append,
            List.length_cons] at enough ⊢
          rw [List.append_assoc, List.cons_append, members, key_printString]
          dsimp only
          rw [first fuel _ (by omega) (ended_cons_of_closes rfl _)]
          have closing : skipSpace ('\x7d' :: rest) = '\x7d' :: rest := rfl
          simp only [closing, grown, done, rereadMembers]
      | cons second left =>
          simp only [compactMembers, List.intercalate_cons_cons, List.length_append,
            List.length_cons, List.length_nil] at enough inductionHypothesis ⊢
          rw [List.append_assoc, List.append_assoc, List.append_assoc, List.cons_append, members,
            key_printString]
          dsimp only
          rw [List.singleton_append, first fuel _ (by omega) (ended_cons_of_closes rfl _)]
          have later := inductionHypothesis (by simp)
            (fun member isMember => each member (List.mem_cons_of_mem _ isMember))
            (earlier ++ [(name, item.reread)]) fuel (by omega)
          have comma : ∀ rest, skipSpace (',' :: rest) = ',' :: rest := fun rest => rfl
          simp only [comma, grown]
          simpa [rereadMembers] using later

/-- An array is read by its items. -/
theorem readsAs_array {list : List Json} (each : ∀ item ∈ list, ReadsAs item item.reread) :
    ReadsAs (.array list) (.array (rereadItems list)) := by
  intro fuel rest enough _
  simp only [compact, List.length_append, List.length_cons, List.length_nil] at enough ⊢
  obtain ⟨fuel, rfl⟩ : ∃ smaller, fuel = smaller + 1 := ⟨fuel - 1, by omega⟩
  cases list with
  | nil => rfl
  | cons item left =>
      have later := items_intercalate (item :: left) (by simp) each [] fuel rest (by omega)
      -- What stands behind the bracket is an item and no closing bracket.
      obtain ⟨first, body, starts, solid, notClosing⟩ := exists_compact_eq_cons item
      obtain ⟨after, isBody⟩ : ∃ after,
          [','].intercalate (compactItems (item :: left)) = first :: after := by
        cases left <;> simp [compactItems, starts]
      rw [isBody] at later ⊢
      have opens : ∀ rest, skipSpace ('[' :: rest) = '[' :: rest := fun rest => rfl
      have stays : ∀ rest, skipSpace (first :: rest) = first :: rest := by
        intro rest
        simp [skipSpace, solid]
      simp only [List.cons_append, List.append_assoc, List.nil_append, value, opens, stays]
      split
      · rename_i closes
        exact absurd (List.cons.inj closes).1 notClosing
      · exact later

/-- An object is read by the values of its members. -/
theorem readsAs_object {list : List (String × Json)}
    (each : ∀ member ∈ list, ReadsAs member.2 member.2.reread) :
    ReadsAs (.object list) (.object (rereadMembers list)) := by
  intro fuel rest enough _
  simp only [compact, List.length_append, List.length_cons, List.length_nil] at enough ⊢
  obtain ⟨fuel, rfl⟩ : ∃ smaller, fuel = smaller + 1 := ⟨fuel - 1, by omega⟩
  cases list with
  | nil => rfl
  | cons member left =>
      have later := members_intercalate (member :: left) (by simp) each [] fuel rest (by omega)
      obtain ⟨after, isBody⟩ : ∃ after,
          [','].intercalate (compactMembers (member :: left)) = '"' :: after := by
        cases left <;> simp [compactMembers, printString]
      rw [isBody] at later ⊢
      simpa [value, skipSpace, isSpace] using later

/-! ## The whole -/

/-- The compact form of every value is read, whatever ends it. -/
theorem readsAs_reread (json : Json) : ReadsAs json json.reread := by
  induction json using byParts with
  | null => exact readsAs_null
  | bool value => exact readsAs_bool value
  | number number => exact readsAs_number number
  | string text => exact readsAs_string text
  | array items each => exact readsAs_array each
  | object members each => exact readsAs_object each
  | unusable => exact readsAs_null

/-- A text that holds the compact form of a value is read. -/
theorem parse_compact_eq_reread (json : Json) : parse (compact json) = some json.reread := by
  have whole := readsAs_reread json (2 * (compact json).length + 2) [] (by omega) Numeral.ended_nil
  rw [List.append_nil] at whole
  simp [parse, whole, skipSpace]

/-! ## Values that come back -/

/-- A value that is read as itself. -/
def Exact (json : Json) : Prop :=
  json.reread = json

theorem exact_null : Exact .null :=
  rfl

theorem exact_bool (value : Bool) : Exact (.bool value) :=
  rfl

theorem exact_string (text : String) : Exact (.string text) :=
  rfl

theorem exact_array {items : List Json} (each : ∀ item ∈ items, Exact item) :
    Exact (.array items) := by
  have same : items.map reread = items := (List.map_congr_left each).trans (List.map_id _)
  rw [Exact, reread, rereadItems_eq_map, same]

theorem exact_object {members : List (String × Json)}
    (each : ∀ member ∈ members, Exact member.2) : Exact (.object members) := by
  have same : (members.map fun (name, item) => (name, item.reread)) = members := by
    refine (List.map_congr_left fun member isMember => ?_).trans (List.map_id _)
    exact Prod.ext rfl (each member isMember)
  rw [Exact, reread, rereadMembers_eq_map, same]

/-- A value that is made without numbers, and can be used. -/
inductive Textual : Json → Prop where
  | null : Textual .null
  | bool (value : Bool) : Textual (.bool value)
  | string (text : String) : Textual (.string text)
  | array {items : List Json} (each : ∀ item ∈ items, Textual item) : Textual (.array items)
  | object {members : List (String × Json)} (each : ∀ member ∈ members, Textual member.2) :
      Textual (.object members)

theorem Textual.exact {json : Json} (textual : json.Textual) : json.Exact := by
  induction textual with
  | null => exact exact_null
  | bool value => exact exact_bool value
  | string text => exact exact_string text
  | array each inductionHypothesis => exact exact_array inductionHypothesis
  | object each inductionHypothesis => exact exact_object inductionHypothesis

/-- A text that holds the compact form of a textual value is read as that value. -/
theorem parse_compact {json : Json} (textual : json.Textual) :
    parse (compact json) = some json := by
  rw [parse_compact_eq_reread, textual.exact]

/-- Textual values with the same compact form are the same. -/
theorem compact_injective {first second : Json} (firstTextual : first.Textual)
    (secondTextual : second.Textual) (same : compact first = compact second) :
    first = second := by
  have read := parse_compact firstTextual
  rw [same, parse_compact secondTextual] at read
  exact (Option.some.inj read).symm

end BuildExplorer.Json
