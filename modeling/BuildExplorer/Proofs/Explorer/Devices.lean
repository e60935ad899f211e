import BuildExplorer.Proofs.Cache.Stored
import BuildExplorer.Proofs.Explorer.Storing

/-!
# Listings for devices

The listings for devices are made of the sections of a bundle, which are set into a map
that is kept in the order of the targets.  Nothing else that is found in a build says
anything of devices.  So every result that is built has them in order.
-/

namespace BuildExplorer

open Program (Always)

/-! ## Sections of a bundle -/

namespace DeviceBundle

variable {Body : Type}

theorem mem_insert {target : String} {body : Body} {bodies : PerTarget Body}
    {entry : String × Body} (member : entry ∈ insert target body bodies) :
    entry = (target, body) ∨ entry ∈ bodies := by
  induction bodies with
  | nil => exact .inl (List.mem_singleton.mp member)
  | cons first bodies inductionHypothesis =>
      rcases first with ⟨other, text⟩
      rw [insert] at member
      split at member
      · exact List.mem_cons.mp member
      · split at member
        · rcases List.mem_cons.mp member with isNew | later
          · exact .inl isNew
          · exact .inr (List.mem_cons_of_mem _ later)
        · rcases List.mem_cons.mp member with isFirst | later
          · rw [isFirst]
            exact .inr List.mem_cons_self
          · rcases inductionHypothesis later with isNew | later
            · exact .inl isNew
            · exact .inr (List.mem_cons_of_mem _ later)

theorem InOrder.insert {bodies : PerTarget Body} (inOrder : InOrder bodies) (target : String)
    (body : Body) : InOrder (insert target body bodies) := by
  induction bodies with
  | nil => exact List.pairwise_singleton _ _
  | cons first bodies inductionHypothesis =>
      rcases first with ⟨other, text⟩
      obtain ⟨isFirst, rest⟩ := List.pairwise_cons.mp inOrder
      rw [DeviceBundle.insert]
      split
      · rename_i before
        apply List.pairwise_cons.mpr
        constructor
        · intro entry member
          rcases List.mem_cons.mp member with rfl | later
          · exact before
          · exact String.lt_trans before (isFirst entry later)
        · exact inOrder
      · rename_i notBefore
        split
        · rename_i same
          apply List.pairwise_cons.mpr
          constructor
          · intro entry member
            rw [same]
            exact isFirst entry member
          · exact rest
        · rename_i notSame
          have behind : other < target := by
            by_contra notBehind
            exact notSame (String.le_antisymm (String.not_lt.mp notBehind)
              (String.not_lt.mp notBefore))
          apply List.pairwise_cons.mpr
          constructor
          · intro entry member
            rcases mem_insert member with rfl | later
            · exact behind
            · exact isFirst entry later
          · exact inductionHypothesis rest

/-- Whatever line comes next, the sections stay in order. -/
theorem Reader.next_inOrder {reader : Reader} (inOrder : InOrder reader.sections)
    (line : List Char) : InOrder (reader.next line).sections := by
  unfold Reader.next
  split
  · exact inOrder
  · split
    · split
      · exact inOrder.insert _ _
      · exact inOrder
    · exact inOrder
  · split <;> exact inOrder

theorem split_inOrder {text : String} {sections : Sections} (isSplit : split text = some sections) :
    InOrder sections := by
  have ends : ∀ (lines : List (List Char)) (reader : Reader), InOrder reader.sections →
      InOrder (lines.foldl Reader.next reader).sections := by
    intro lines
    induction lines with
    | nil => exact fun _ inOrder => inOrder
    | cons line lines inductionHypothesis =>
        exact fun reader inOrder => inductionHypothesis _ (Reader.next_inOrder inOrder line)
  have inOrder := ends (text.toList.splitOn '\n') .initial List.Pairwise.nil
  simp only [split] at isSplit
  split at isSplit
  · rwa [Option.some.inj isSplit] at inOrder
  · cases isSplit

end DeviceBundle

/-! ## What is added to a result -/

theorem Family.addAssembly_devicesInOrder (family : Family) (text : String) (filters : Filters)
    {result : Result} (inOrder : result.DevicesInOrder) :
    (family.addAssembly text filters result).DevicesInOrder := by
  unfold addAssembly
  split
  · rename_i sections isSplit
    rintro _ ⟨⟩
    apply List.pairwise_map.mpr
    exact (DeviceBundle.split_inOrder isSplit).filter _
  · exact inOrder

theorem Family.addDerived_always_devicesInOrder (family : Family) (job : Job) {result : Result}
    (inOrder : result.DevicesInOrder) :
    (family.addDerived job result).Always Result.DevicesInOrder := by
  cases family with
  | standard | cc65 => exact Program.always_pure_iff.mpr inOrder
  | clang | rustc =>
      unfold addDerived
      dsimp only
      split
      · exact Always.bind (Program.always_true _) fun _ _ => Program.always_pure_iff.mpr inOrder
      · exact Program.always_pure_iff.mpr inOrder

namespace Explorer

theorem addOutput_always_devicesInOrder (family : Family) (job : Job) {result : Result}
    (inOrder : result.DevicesInOrder) :
    (addOutput family job result).Always Result.DevicesInOrder := by
  refine Always.bind (Program.always_true _) fun isThere _ => ?_
  split
  · split
    · unfold disassemble
      split
      · exact Program.always_pure_iff.mpr inOrder
      · refine Always.bind (Program.always_true _) fun report _ => ?_
        split
        · exact family.addAssembly_devicesInOrder _ _ inOrder
        · exact inOrder
    · refine Always.bind (Program.always_true _) fun contents _ => ?_
      cases contents with
      | error fault => exact inOrder
      | ok contents => exact family.addAssembly_devicesInOrder _ _ inOrder
  · exact Program.always_pure_iff.mpr inOrder

theorem collect_always_devicesInOrder (family : Family) (job : Job) {result : Result}
    (inOrder : result.DevicesInOrder) :
    (collect family job result).Always Result.DevicesInOrder := by
  refine Always.bind (addOutput_always_devicesInOrder family job inOrder) fun listed inOrder => ?_
  refine Always.bind (family.addDerived_always_devicesInOrder job inOrder) fun derived inOrder => ?_
  refine Always.bind (Program.always_true _) fun _ _ => ?_
  exact Always.bind (Program.always_true _) fun _ _ => Program.always_pure_iff.mpr inOrder

/-- Every result that is built has its devices in order. -/
theorem build_devicesInOrder {World : Type} (host : Host World) (config : Config) (family : Family)
    (job : Job) (world : World) :
    ((build config family job).run host world).1.DevicesInOrder := by
  obtain ⟨kept, recorded, -⟩ := exists_recordAll_runSteps host config family job world
  have noDevices : ((runSteps config family job).run host world).1.DevicesInOrder := by
    rw [recorded, Result.recordAll_eq]
    exact fun _ impossible => nomatch impossible
  rw [build_eq_runSteps, Program.run_bind]
  exact (collect_always_devicesInOrder family job noDevices).run host _

end Explorer

end BuildExplorer
