import BuildExplorer.Host.Program

/-!
# Traces of programs

A run of a program on a host leaves a trace: the actions that were asked for,
each with the reply that came back.  A sequence of programs leaves the traces of
its parts behind each other.

What holds of all runs is read off the program itself.  `Only` bounds the
actions that a program can come to, and `Always` bounds its results; neither
looks at a host.
-/

namespace BuildExplorer

/-- Does an action run a tool? -/
def Host.Action.isExecute : Host.Action → Bool
  | .execute _ => true
  | _ => false

/-- Does an action handle the files that entries of a cache are made of? -/
def Host.Action.isStoring : Host.Action → Bool
  | .makeTemporary _ | .moveFile _ _ | .eraseFile _ => true
  | _ => false

/-- An action that neither runs a tool nor handles entries of a cache. -/
def Host.Action.isPlain (action : Host.Action) : Bool :=
  !action.isExecute && !action.isStoring

/-- An action together with its reply. -/
structure Host.Event where
  action : Host.Action
  reply : action.Reply

/-- A call of a tool together with the report on it. -/
structure Tool.Invocation where
  call : Tool.Call
  report : Tool.Report
  deriving DecidableEq, Repr

/-- The invocation that an event is, if it is one. -/
def Host.Event.invocation? : Host.Event → Option Tool.Invocation
  | ⟨.execute call, report⟩ => some ⟨call, report⟩
  | _ => none

namespace Program

variable {First Second World : Type}

/-! ## Sequences -/

instance : LawfulMonad Program :=
  LawfulMonad.mk' Program (fun program => andThen_done program) (fun _ _ => rfl)
    (fun program second third => andThen_assoc program second third)

@[simp]
theorem run_pure (host : Host World) (result : First) (world : World) :
    (pure result : Program First).run host world = (result, world) :=
  rfl

/-- A run of a sequence in terms of the runs of its parts. -/
theorem run_bind (host : Host World) (program : Program First)
    (continuation : First → Program Second) (world : World) :
    (program >>= continuation).run host world =
      (continuation (program.run host world).1).run host (program.run host world).2 :=
  run_andThen host program continuation world

@[simp]
theorem run_perform (host : Host World) (action : Host.Action) (world : World) :
    (perform action).run host world = host action world :=
  rfl

/-- The events of a run, in order. -/
def trace (host : Host World) : Program First → World → List Host.Event
  | .done _, _ => []
  | .ask action next, world =>
      let (reply, world) := host action world
      ⟨action, reply⟩ :: (next reply).trace host world

@[simp]
theorem trace_pure (host : Host World) (result : First) (world : World) :
    (pure result : Program First).trace host world = [] :=
  rfl

@[simp]
theorem trace_perform (host : Host World) (action : Host.Action) (world : World) :
    (perform action).trace host world = [⟨action, (host action world).1⟩] :=
  rfl

/-- The trace of a sequence is made of the traces of its parts. -/
theorem trace_bind (host : Host World) (program : Program First)
    (continuation : First → Program Second) (world : World) :
    (program >>= continuation).trace host world =
      program.trace host world ++
        (continuation (program.run host world).1).trace host (program.run host world).2 := by
  change (program.andThen continuation).trace host world = _
  induction program generalizing world with
  | done result => rfl
  | ask action next inductionHypothesis =>
      simp only [ask_andThen, trace, run_ask, List.cons_append]
      rw [inductionHypothesis]

/-- The invocations of tools in a run, in order. -/
def invocations (host : Host World) (program : Program First) (world : World) :
    List Tool.Invocation :=
  (program.trace host world).filterMap Host.Event.invocation?

@[simp]
theorem invocations_pure (host : Host World) (result : First) (world : World) :
    (pure result : Program First).invocations host world = [] :=
  rfl

@[simp]
theorem invocations_execute (host : Host World) (call : Tool.Call) (world : World) :
    (execute call).invocations host world = [⟨call, (host (.execute call) world).1⟩] :=
  rfl

theorem invocations_bind (host : Host World) (program : Program First)
    (continuation : First → Program Second) (world : World) :
    (program >>= continuation).invocations host world =
      program.invocations host world ++
        (continuation (program.run host world).1).invocations host
          (program.run host world).2 := by
  simp only [invocations, trace_bind, List.filterMap_append]

/-- The report of an invocation is what the host answers, as the world is by then. -/
theorem exists_answer_of_mem_invocations {host : Host World} {program : Program First}
    {world : World} {invocation : Tool.Invocation}
    (member : invocation ∈ program.invocations host world) :
    ∃ before, invocation.report = (host (.execute invocation.call) before).1 := by
  induction program generalizing world with
  | done result => cases member
  | ask action next inductionHypothesis =>
      obtain ⟨event, isEvent, isInvocation⟩ := List.mem_filterMap.mp member
      rcases List.mem_cons.mp isEvent with rfl | later
      · cases action <;> cases isInvocation
        exact ⟨world, rfl⟩
      · exact inductionHypothesis _ (List.mem_filterMap.mpr ⟨event, later, isInvocation⟩)

/-- Only events that run a tool are invocations. -/
theorem invocations_eq_nil_of_trace {host : Host World} {program : Program First}
    {world : World}
    (idle : ∀ event ∈ program.trace host world, event.action.isExecute = false) :
    program.invocations host world = [] := by
  rw [invocations, List.filterMap_eq_nil_iff]
  intro event member
  have isIdle := idle event member
  rcases event with ⟨action, reply⟩
  cases action <;> first | rfl | simp [Host.Action.isExecute] at isIdle

/-! ## Bounds on actions -/

/-- Every action that the program can come to is allowed. -/
def Only (allowed : Host.Action → Prop) : Program First → Prop
  | .done _ => True
  | .ask action next => allowed action ∧ ∀ reply, (next reply).Only allowed

@[simp]
theorem only_pure (allowed : Host.Action → Prop) (result : First) :
    (pure result : Program First).Only allowed :=
  trivial

@[simp]
theorem only_perform_iff {allowed : Host.Action → Prop} {action : Host.Action} :
    (perform action).Only allowed ↔ allowed action :=
  ⟨fun bounded => bounded.1, fun holds => ⟨holds, fun _ => trivial⟩⟩

theorem Only.bind {allowed : Host.Action → Prop} {program : Program First}
    {continuation : First → Program Second} (bounded : program.Only allowed)
    (rest : ∀ result, (continuation result).Only allowed) :
    (program >>= continuation).Only allowed := by
  change (program.andThen continuation).Only allowed
  induction program with
  | done result => exact rest result
  | ask action next inductionHypothesis =>
      exact ⟨bounded.1, fun reply => inductionHypothesis reply (bounded.2 reply)⟩

/-- The form in which programs are written: an action, and what follows. -/
theorem Only.ask {allowed : Host.Action → Prop} {action : Host.Action}
    {continuation : action.Reply → Program Second} (holds : allowed action)
    (rest : ∀ reply, (continuation reply).Only allowed) :
    (perform action >>= continuation).Only allowed :=
  ⟨holds, rest⟩

theorem Only.mono {allowed permitted : Host.Action → Prop} {program : Program First}
    (bounded : program.Only allowed) (wider : ∀ action, allowed action → permitted action) :
    program.Only permitted := by
  induction program with
  | done result => trivial
  | ask action next inductionHypothesis =>
      exact ⟨wider action bounded.1,
        fun reply => inductionHypothesis reply (bounded.2 reply)⟩

/-- A bound on the actions of a program holds of each event of each run. -/
theorem Only.mem_trace {allowed : Host.Action → Prop} {program : Program First}
    (bounded : program.Only allowed) (host : Host World) (world : World) :
    ∀ event ∈ program.trace host world, allowed event.action := by
  induction program generalizing world with
  | done result => simp [trace]
  | ask action next inductionHypothesis =>
      intro event member
      rcases List.mem_cons.mp member with rfl | member
      · exact bounded.1
      · exact inductionHypothesis _ (bounded.2 _) _ event member

/-- A program that runs no tools makes no invocations. -/
theorem invocations_eq_nil {program : Program First}
    (bounded : program.Only fun action => action.isExecute = false)
    (host : Host World) (world : World) : program.invocations host world = [] :=
  invocations_eq_nil_of_trace (bounded.mem_trace host world)

/-- Every action that the program can come to is plain. -/
abbrev Plain (program : Program First) : Prop :=
  program.Only fun action => action.isPlain = true

theorem Plain.isExecute_eq_false {program : Program First} (plain : program.Plain) :
    program.Only fun action => action.isExecute = false :=
  plain.mono fun action holds => by
    simpa using (Bool.and_eq_true_iff.mp holds).1

/-- No action that the program can come to handles entries of a cache. -/
abbrev Storeless (program : Program First) : Prop :=
  program.Only fun action => action.isStoring = false

theorem Plain.storeless {program : Program First} (plain : program.Plain) :
    program.Storeless :=
  plain.mono fun action holds => by
    simpa using (Bool.and_eq_true_iff.mp holds).2

/-- A plain program makes no invocations. -/
theorem Plain.invocations {program : Program First} (plain : program.Plain)
    (host : Host World) (world : World) : program.invocations host world = [] :=
  invocations_eq_nil plain.isExecute_eq_false host world

/-! ## Bounds on results -/

/-- Every result that the program can come to has a property. -/
def Always (holds : First → Prop) : Program First → Prop
  | .done result => holds result
  | .ask _ next => ∀ reply, (next reply).Always holds

@[simp]
theorem always_pure_iff {holds : First → Prop} {result : First} :
    (pure result : Program First).Always holds ↔ holds result :=
  Iff.rfl

theorem Always.bind {holds : First → Prop} {outcome : Second → Prop} {program : Program First}
    {continuation : First → Program Second} (first : program.Always holds)
    (rest : ∀ result, holds result → (continuation result).Always outcome) :
    (program >>= continuation).Always outcome := by
  change (program.andThen continuation).Always outcome
  induction program with
  | done result => exact rest result first
  | ask action next inductionHypothesis =>
      exact fun reply => inductionHypothesis reply (first reply)

/-- Nothing is known of the results of a program before it is run. -/
theorem always_true (program : Program First) : program.Always fun _ => True := by
  induction program with
  | done result => trivial
  | ask action next inductionHypothesis => exact inductionHypothesis

/-- A bound on the results of a program holds of the result of each run. -/
theorem Always.run {holds : First → Prop} {program : Program First}
    (bounded : program.Always holds) (host : Host World) (world : World) :
    holds (program.run host world).1 := by
  induction program generalizing world with
  | done result => exact bounded
  | ask action next inductionHypothesis => exact inductionHypothesis _ (bounded _) _

end Program

end BuildExplorer
