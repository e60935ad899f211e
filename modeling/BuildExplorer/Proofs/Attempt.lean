/-!
# Attempts

An attempt comes to an outcome or to an error.  One that is made of parts succeeds if
each of its parts does.
-/

namespace BuildExplorer

/-- An attempt of two parts succeeds if both do. -/
theorem bind_eq_ok_iff {Error First Second : Type} {attempt : Except Error First}
    {next : First → Except Error Second} {outcome : Second} :
    attempt >>= next = .ok outcome ↔ ∃ found, attempt = .ok found ∧ next found = .ok outcome := by
  cases attempt with
  | error error =>
      constructor
      · intro impossible
        cases impossible
      · rintro ⟨_, impossible, -⟩
        cases impossible
  | ok found =>
      constructor
      · exact fun isOutcome => ⟨found, rfl, isOutcome⟩
      · rintro ⟨_, ⟨⟩, isOutcome⟩
        exact isOutcome

theorem map_eq_ok_iff {Error First Second : Type} {attempt : Except Error First}
    {change : First → Second} {outcome : Second} :
    attempt.map change = .ok outcome ↔ ∃ found, attempt = .ok found ∧ change found = outcome := by
  cases attempt with
  | error error =>
      constructor
      · intro impossible
        cases impossible
      · rintro ⟨_, impossible, -⟩
        cases impossible
  | ok found =>
      constructor
      · exact fun isOutcome => ⟨found, rfl, Except.ok.inj isOutcome⟩
      · rintro ⟨_, ⟨⟩, rfl⟩
        rfl

theorem exists_mapM_eq_ok {Error Item Outcome : Type} {attempt : Item → Except Error Outcome}
    {items : List Item} (each : ∀ item ∈ items, ∃ outcome, attempt item = .ok outcome) :
    ∃ outcomes, items.mapM attempt = .ok outcomes := by
  induction items with
  | nil => exact ⟨[], rfl⟩
  | cons item items inductionHypothesis =>
      obtain ⟨outcome, first⟩ := each item List.mem_cons_self
      obtain ⟨outcomes, later⟩ := inductionHypothesis fun item member =>
        each item (List.mem_cons_of_mem _ member)
      exact ⟨outcome :: outcomes, by rw [List.mapM_cons, first, later]; rfl⟩

end BuildExplorer
