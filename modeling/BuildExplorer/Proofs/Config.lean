import Mathlib.Data.List.Basic
import BuildExplorer.Config.Toml

/-!
# Identifiers of compilers

A configuration is accepted exactly if no two of its compilers share an identifier.  Then
an identifier stands for one compiler: the look-up of the identifier of a configured compiler
finds that very entry.
-/

namespace BuildExplorer.Config

/-- No identifier is found to come again exactly if all are distinct and new. -/
theorem firstDuplicate?_eq_none_iff {seen ids : List String} :
    firstDuplicate? seen ids = none ↔ ids.Nodup ∧ ∀ id ∈ ids, id ∉ seen := by
  induction ids generalizing seen with
  | nil => simp [firstDuplicate?]
  | cons first rest inductionHypothesis =>
      rw [firstDuplicate?, List.nodup_cons, List.forall_mem_cons]
      by_cases isSeen : first ∈ seen
      · simp [isSeen]
      · rw [if_neg (by simpa using isSeen), inductionHypothesis]
        constructor
        · rintro ⟨distinct, allNew⟩
          refine ⟨⟨fun again => allNew first again List.mem_cons_self, distinct⟩, isSeen, ?_⟩
          exact fun id member inSeen => allNew id member (List.mem_cons_of_mem _ inSeen)
        · rintro ⟨⟨notAgain, distinct⟩, -, allNew⟩
          refine ⟨distinct, fun id member inSeen => ?_⟩
          rcases List.mem_cons.mp inSeen with rfl | inSeen
          · exact notAgain member
          · exact allNew id member inSeen

/-- Each identifier stands for one compiler. -/
def DistinctIds (config : Config) : Prop :=
  (config.compilers.map (·.id)).Nodup

theorem check_eq_ok_iff {config accepted : Config} :
    config.check = .ok accepted ↔ config = accepted ∧ config.DistinctIds := by
  have isNone : config.duplicateId? = none ↔ config.DistinctIds := by
    rw [duplicateId?, firstDuplicate?_eq_none_iff, DistinctIds]
    simp
  unfold check
  split
  · rename_i id found
    have notDistinct : ¬config.DistinctIds := by
      rw [← isNone, found]
      exact Option.some_ne_none id
    simp [notDistinct]
  · rename_i noneFound
    simp [isNone.mp noneFound]

/-- A text is accepted as a configuration if it can be read as one with distinct identifiers. -/
theorem ofToml_eq_ok_iff {text : String} {config : Config} :
    ofToml text = .ok config ↔
      (Toml.parse text).bind (ofJson? fileManner) = some config ∧ config.DistinctIds := by
  unfold ofToml
  split
  · rename_i read isRead
    rw [check_eq_ok_iff, isRead, Option.some.injEq]
    refine and_congr_right fun same => ?_
    rw [same]
  · rename_i notRead
    simp [notRead]

/-- The identifier of a configured compiler leads to that compiler. -/
theorem compiler?_eq_some_of_mem {config : Config} (distinct : config.DistinctIds)
    {info : CompilerInfo} (member : info ∈ config.compilers) :
    config.compiler? info.id = some info := by
  obtain ⟨before, after, isSplit⟩ := List.append_of_mem member
  rw [DistinctIds, isSplit, List.map_append, List.map_cons] at distinct
  refine List.find?_eq_some_iff_append.mpr ⟨beq_self_eq_true _, before, after, isSplit, ?_⟩
  intro other isBefore
  have apart := (List.nodup_append.mp distinct).2.2
  simpa using apart other.id (List.mem_map_of_mem isBefore) info.id List.mem_cons_self

end BuildExplorer.Config
