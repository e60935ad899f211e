import BuildExplorer.Result.Basic

/-!
# Recording steps

A result with a list of steps recorded, one behind the other, has a closed form:
streams and steps are appended, the first code other than zero is kept, a missed
deadline is never forgotten, and times are added up as far as they fit.
-/

namespace BuildExplorer

theorem twoTo_sixtyFour : twoTo 64 = UInt64.size :=
  rfl

/-- Times are added as natural numbers, up to the longest time. -/
theorem toNat_addTimes (first second : UInt64) :
    (addTimes first second).toNat = min (first.toNat + second.toNat) (UInt64.size - 1) := by
  rw [addTimes, twoTo_sixtyFour]
  exact UInt64.toNat_ofNat_of_lt' (by simp only [UInt64.size]; omega)

/-- Did the tool come to an end of its own?  It did not if it was never started,
was lost, or was stopped at its deadline. -/
def Tool.Report.ranToEnd (report : Tool.Report) : Bool :=
  !report.timedOut && report.launchFailure.isNone && report.supervisionFailure.isNone

namespace Result

/-- Record steps one behind the other. -/
def recordAll (result : Result) (steps : List StepResult) : Result :=
  steps.foldl record result

@[simp]
theorem recordAll_nil (result : Result) : result.recordAll [] = result :=
  rfl

@[simp]
theorem recordAll_cons (result : Result) (step : StepResult) (steps : List StepResult) :
    result.recordAll (step :: steps) = (result.record step).recordAll steps :=
  rfl

/-- The first code other than zero, or else zero. -/
def firstCode (codes : List Int32) : Int32 :=
  (codes.find? (· != 0)).getD 0

theorem firstCode_cons (code : Int32) (codes : List Int32) :
    firstCode (code :: codes) = if code = 0 then firstCode codes else code := by
  by_cases zero : code = 0 <;> simp [firstCode, zero]

theorem firstCode_singleton (code : Int32) : firstCode [code] = code := by
  rw [firstCode_cons]
  split
  · rename_i zero
    exact zero.symm
  · rfl

/-- Only where all codes are zero, the first other than zero is missing. -/
theorem firstCode_eq_zero_iff {codes : List Int32} :
    firstCode codes = 0 ↔ ∀ code ∈ codes, code = 0 := by
  induction codes with
  | nil => simp [firstCode]
  | cons code codes inductionHypothesis =>
      rw [firstCode_cons, List.forall_mem_cons, ← inductionHypothesis]
      by_cases zero : code = 0 <;> simp [zero]

/-- The sum of times, or the longest time if that is exceeded. -/
def totalTime (times : List UInt64) : UInt64 :=
  UInt64.ofNat (min (UInt64.size - 1) (times.foldr (·.toNat + ·) 0))

theorem toNat_totalTime (times : List UInt64) :
    (totalTime times).toNat = min (UInt64.size - 1) (times.foldr (·.toNat + ·) 0) :=
  UInt64.toNat_ofNat_of_lt' (by simp only [UInt64.size]; omega)

theorem totalTime_singleton (time : UInt64) : totalTime [time] = time := by
  apply UInt64.toNat_inj.mp
  have bound := time.toNat_lt
  rw [toNat_totalTime]
  simp only [UInt64.size, List.foldr_cons, List.foldr_nil]
  omega

/-- A sum that was cut at the longest time can be added to like any other. -/
theorem totalTime_addTimes_cons (first second : UInt64) (times : List UInt64) :
    totalTime (addTimes first second :: times) = totalTime (first :: second :: times) := by
  apply UInt64.toNat_inj.mp
  simp only [toNat_totalTime, toNat_addTimes, List.foldr_cons]
  omega

/-- The closed form of a result with steps recorded.  Fields that are not named
stay as they are. -/
theorem recordAll_eq (result : Result) (steps : List StepResult) :
    result.recordAll steps =
      { result with
        code := firstCode (result.code :: steps.map (·.code))
        timedOut := result.timedOut || steps.any (·.timedOut)
        elapsedMs := totalTime (result.elapsedMs :: steps.map (·.elapsedMs))
        stdout := result.stdout ++ steps.flatMap (·.stdout)
        stderr := result.stderr ++ steps.flatMap (·.stderr)
        steps := result.steps ++ steps } := by
  induction steps generalizing result with
  | nil =>
      simp [totalTime_singleton, firstCode_singleton]
  | cons step steps inductionHypothesis =>
      rw [recordAll_cons, inductionHypothesis]
      by_cases zero : result.code = 0 <;>
        simp [record, zero, firstCode_cons, totalTime_addTimes_cons, Bool.or_assoc]

/-- A result shows a process failure exactly if one of the recorded steps did. -/
theorem hasProcessFailure_recordAll (result : Result) (steps : List StepResult) :
    (result.recordAll steps).hasProcessFailure =
      (result.hasProcessFailure || steps.any fun step => step.timedOut || step.wasLost) := by
  rw [recordAll_eq]
  simp only [hasProcessFailure, List.any_append]
  induction steps with
  | nil => simp
  | cons step steps inductionHypothesis =>
      simp only [List.any_cons]
      grind

end Result

end BuildExplorer
