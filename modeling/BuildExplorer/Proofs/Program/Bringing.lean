import BuildExplorer.Proofs.Program.Trace

/-!
# What runs bring about

A program brings something about on a host if each run of it that begins in a world with
one property ends with a result and a world that have another.  What a sequence brings
about is told by its parts, and a property that every action of a program keeps is kept by
its runs.

A run asks for one action after another, each in a world of its own.  Tools are handed the
world in which they are called.
-/

namespace BuildExplorer.Program

variable {First Second World : Type}

/-! ## From one world to another -/

/-- Every run that begins with the one property ends with the other. -/
def Brings (host : Host World) (before : World → Prop) (program : Program First)
    (after : First → World → Prop) : Prop :=
  ∀ world, before world → after (program.run host world).1 (program.run host world).2

theorem Brings.pure {host : Host World} {before : World → Prop} {result : First}
    {after : First → World → Prop} (holds : ∀ world, before world → after result world) :
    Brings host before (pure result) after :=
  holds

/-- A program that has failed brings about whatever is said of its success. -/
theorem Brings.fails {Fault : Type} {host : Host World} {before : World → Prop} {fault : Fault}
    {after : First → World → Prop} :
    Brings host before (Pure.pure (Except.error fault)) fun outcome world =>
      ∀ result, outcome = .ok result → after result world := by
  intro world _ result impossible
  cases impossible

theorem Brings.bind {host : Host World} {before : World → Prop} {program : Program First}
    {between : First → World → Prop} {continuation : First → Program Second}
    {after : Second → World → Prop} (first : Brings host before program between)
    (rest : ∀ result, Brings host (between result) (continuation result) after) :
    Brings host before (program >>= continuation) after := by
  intro world holds
  rw [run_bind]
  exact rest _ _ (first world holds)

theorem Brings.and {host : Host World} {before : World → Prop} {program : Program First}
    {one other : First → World → Prop} (bringsOne : Brings host before program one)
    (bringsOther : Brings host before program other) :
    Brings host before program fun result world => one result world ∧ other result world :=
  fun world holds => ⟨bringsOne world holds, bringsOther world holds⟩

theorem Brings.weaken {host : Host World} {before : World → Prop} {program : Program First}
    {after wider : First → World → Prop} (brings : Brings host before program after)
    (implies : ∀ result world, after result world → wider result world) :
    Brings host before program wider :=
  fun world holds => implies _ _ (brings world holds)

theorem Brings.strengthen {host : Host World} {before narrower : World → Prop}
    {program : Program First} {after : First → World → Prop}
    (implies : ∀ world, narrower world → before world)
    (brings : Brings host before program after) : Brings host narrower program after :=
  fun world holds => brings world (implies world holds)

/-- What is known beforehand and speaks of no world stays known. -/
theorem Brings.of_and {host : Host World} {before : World → Prop} {program : Program First}
    {after : First → World → Prop} {known : Prop}
    (brings : known → Brings host before program after) :
    Brings host (fun world => known ∧ before world) program after :=
  fun world holds => brings holds.1 world holds.2

/-- A property that every action of a program keeps is kept by its runs. -/
theorem Only.brings {allowed : Host.Action → Prop} {program : Program First}
    (bounded : program.Only allowed) {host : Host World} {holds : World → Prop}
    (keeps : ∀ action, allowed action → ∀ world, holds world → holds (host action world).2) :
    Brings host holds program fun _ => holds := by
  intro world isHeld
  induction program generalizing world with
  | done result => exact isHeld
  | ask action next inductionHypothesis =>
      rw [run_ask]
      exact inductionHypothesis _ (bounded.2 _) _ (keeps action bounded.1 world isHeld)

/-- What is known of all results of a program is known of the result of a run. -/
theorem Always.brings {outcome : First → Prop} {program : Program First}
    (bounded : program.Always outcome) (host : Host World) (before : World → Prop) :
    Brings host before program fun result _ => outcome result :=
  fun world _ => bounded.run host world

/-! ## Worlds in which a run asks -/

/-- The actions that a run asks for, each with the world in which it does. -/
def asked (host : Host World) : Program First → World → List (Host.Action × World)
  | .done _, _ => []
  | .ask action next, world =>
      (action, world) :: (next (host action world).1).asked host (host action world).2

@[simp]
theorem asked_pure (host : Host World) (result : First) (world : World) :
    (pure result : Program First).asked host world = [] :=
  rfl

@[simp]
theorem asked_writeContents (host : Host World) (path : Path) (contents : Host.Bytes)
    (world : World) :
    (writeContents path contents).asked host world = [(.writeContents path contents, world)] :=
  rfl

/-- A sequence asks what its parts ask. -/
theorem asked_bind (host : Host World) (program : Program First)
    (continuation : First → Program Second) (world : World) :
    (program >>= continuation).asked host world =
      program.asked host world ++
        (continuation (program.run host world).1).asked host (program.run host world).2 := by
  change (program.andThen continuation).asked host world = _
  induction program generalizing world with
  | done result => rfl
  | ask action next inductionHypothesis =>
      rw [ask_andThen, asked, asked, inductionHypothesis, List.cons_append]
      rfl

/-- A property that every action of a program keeps holds whenever a run asks. -/
theorem Only.of_mem_asked {allowed : Host.Action → Prop} {program : Program First}
    (bounded : program.Only allowed) {host : Host World} {holds : World → Prop}
    (keeps : ∀ action, allowed action → ∀ world, holds world → holds (host action world).2)
    {world : World} (isHeld : holds world) :
    ∀ step ∈ program.asked host world, allowed step.1 ∧ holds step.2 := by
  induction program generalizing world with
  | done result => exact List.forall_mem_nil _
  | ask action next inductionHypothesis =>
      refine List.forall_mem_cons.mpr ⟨⟨bounded.1, isHeld⟩, ?_⟩
      exact inductionHypothesis _ (bounded.2 _) (keeps action bounded.1 world isHeld)

theorem Only.mem_asked {allowed : Host.Action → Prop} {program : Program First}
    (bounded : program.Only allowed) (host : Host World) (world : World) :
    ∀ step ∈ program.asked host world, allowed step.1 :=
  fun step member =>
    (bounded.of_mem_asked (fun _ _ _ (stays : True) => stays) trivial step member).1

/-- A bound on a sequence bounds what follows a run of its first part. -/
theorem Only.of_bind {allowed : Host.Action → Prop} {program : Program First}
    {continuation : First → Program Second} (bounded : (program >>= continuation).Only allowed)
    (host : Host World) (world : World) :
    (continuation (program.run host world).1).Only allowed := by
  change (program.andThen continuation).Only allowed at bounded
  induction program generalizing world with
  | done result => exact bounded
  | ask action next inductionHypothesis => exact inductionHypothesis _ _ (bounded.2 _)

/-! ## Worlds that are handed to tools -/

/-- The calls of tools in a run, each with the world that it is handed. -/
def handed (host : Host World) : Program First → World → List (Tool.Call × World)
  | .done _, _ => []
  | .ask action next, world =>
      let rest := (next (host action world).1).handed host (host action world).2
      match action with
      | .execute call => (call, world) :: rest
      | _ => rest

@[simp]
theorem handed_pure (host : Host World) (result : First) (world : World) :
    (pure result : Program First).handed host world = [] :=
  rfl

@[simp]
theorem handed_execute (host : Host World) (call : Tool.Call) (world : World) :
    (execute call).handed host world = [(call, world)] :=
  rfl

/-- The calls in a sequence are those of its parts. -/
theorem handed_bind (host : Host World) (program : Program First)
    (continuation : First → Program Second) (world : World) :
    (program >>= continuation).handed host world =
      program.handed host world ++
        (continuation (program.run host world).1).handed host (program.run host world).2 := by
  change (program.andThen continuation).handed host world = _
  induction program generalizing world with
  | done result => rfl
  | ask action next inductionHypothesis =>
      cases action <;> simp only [ask_andThen, handed, run_ask, inductionHypothesis,
        List.cons_append]

/-- The calls that are handed over are those of the invocations. -/
theorem map_handed (host : Host World) (program : Program First) (world : World) :
    (program.handed host world).map (·.1) =
      (program.invocations host world).map (·.call) := by
  induction program generalizing world with
  | done result => rfl
  | ask action next inductionHypothesis =>
      have rest := inductionHypothesis (host action world).1 (host action world).2
      cases action <;>
        simp only [handed, invocations, trace, List.filterMap_cons, Host.Event.invocation?,
          List.map_cons] at rest ⊢ <;> simp only [rest]

/-- Where no tool is invoked, none is handed anything. -/
theorem handed_eq_nil {host : Host World} {program : Program First} {world : World}
    (idle : program.invocations host world = []) : program.handed host world = [] := by
  have calls := map_handed host program world
  rw [idle, List.map_nil] at calls
  exact List.map_eq_nil_iff.mp calls

end BuildExplorer.Program
