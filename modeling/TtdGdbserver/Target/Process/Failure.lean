import TtdGdbserver.Target.Process.Operations
import TtdGdbserver.Ttd.Scripted

/-!
# Backend failures

A replay result whose event is an error, a count or unknown says that the
backend failed.  Single steps translate the event before anything else and
always return an error.  A continue first looks at the hit id and at the
position, and returns a stop reason when either decides.
-/

namespace TtdGdbserver.Target

open TtdGdbserver.Ttd

/-- The events for which a stop reason cannot be trusted. -/
def BackendFailure : EventType → Prop
  | .error => True
  | .count => True
  | .unknown _ => True
  | _ => False

theorem tryFrom_error {result : TtdReplayResult} (failure : BackendFailure result.stopReason) :
    ∃ error, StopReason.tryFrom result = .error error := by
  unfold StopReason.tryFrom
  cases event : result.stopReason <;> simp_all [BackendFailure]

/-- The trace boundary a replay was heading for. -/
def AtBoundary (forward : Bool) (position : TtdPosition)
    (lifetime : TtdPosition × TtdPosition) : Prop :=
  if forward then position ≥ lifetime.2 else position ≤ lifetime.1

instance (forward : Bool) (position : TtdPosition) (lifetime : TtdPosition × TtdPosition) :
    Decidable (AtBoundary forward position lifetime) :=
  inferInstanceAs (Decidable (if forward then _ else _))

/-- Without a hit a failure is classified by the boundary alone. -/
theorem classify_eq_none_iff {result : TtdReplayResult}
    (failure : BackendFailure result.stopReason) (hitBpId : UInt64) (bp : Option Breakpoint)
    (forward : Bool) (position : TtdPosition) (lifetime : TtdPosition × TtdPosition)
    (endsWithProcessExit : Bool) :
    classifyContinueStop result hitBpId bp forward position lifetime endsWithProcessExit = none ↔
      hitBpId = 0 ∧ ¬AtBoundary forward position lifetime := by
  have notProcess : result.stopReason ≠ .process := by
    intro process
    rw [process] at failure
    exact failure
  unfold classifyContinueStop AtBoundary
  by_cases hit : hitBpId = 0
  · cases forward
    · simp [hit]
    · by_cases boundary : position ≥ lifetime.2
      · cases endsWithProcessExit <;> simp [hit, notProcess, boundary]
      · simp [hit, notProcess, boundary]
  · cases bp with
    | none => simp [hit]
    | some bp => simp [hit]

/-! ## What an operation obtained from the engine -/

/-- A replay result, the hit id recorded with it and the position where the
replay stopped. -/
structure Obtained where
  result : TtdReplayResult
  hitBpId : UInt64
  position : TtdPosition

/-- A step consults no hit id. -/
def SingleStep.obtained (single : SingleStep) : Option Obtained :=
  match single.outcome with
  | .returned (.ok result) => some ⟨result, 0, single.landed⟩
  | _ => none

namespace TtdProcess

variable {σ : Type} [SdkCursor σ]

/-- What a continue obtains. -/
def continueObtained (process : TtdProcess σ) (limit : TtdPosition) (forward : Bool)
    (fuel : Nat) : Option Obtained :=
  match process.replayWatchpointFiltered limit forward fuel with
  | some (.returned (.ok (result, hitBpId)), after) =>
      some ⟨result, hitBpId, positionOf after.cursors.persistent.cursor⟩
  | _ => none

/-- Every replay result that an operation obtains. -/
def obtained (process : TtdProcess σ) (fuel : Nat) : ExecOp → List Obtained
  | .continueForward => (process.continueObtained process.lifetime.2 true fuel).toList
  | .continueBackward => (process.continueObtained process.lifetime.1 false fuel).toList
  | op => (process.singleSteps fuel op).filterMap SingleStep.obtained

/-! ## Single steps -/

theorem stepOnStepCursor_of_failure {process : TtdProcess σ} {backward : Bool}
    {report : Obtained} (obtains : (process.singleStep backward).obtained = some report)
    (failure : BackendFailure report.result.stopReason) :
    ∃ error, (process.stepOnStepCursor backward).1 = .returned (.error error) := by
  rcases replayEq : stepReplay process.stepSource backward with ⟨outcome, cursor⟩
  simp only [SingleStep.obtained, singleStep, replayEq] at obtains
  unfold stepSource at replayEq
  cases outcome with
  | panicked payload => contradiction
  | returned returned =>
      cases returned with
      | error error => contradiction
      | ok result =>
          obtain ⟨error, errorEq⟩ : ∃ error, StopReason.tryFrom result = .error error := by
            cases obtains
            exact tryFrom_error failure
          simp only [stepOnStepCursor, replayEq, resolveStep, errorEq]
          exact ⟨_, rfl⟩

/-- A lone single step that obtains a failure ends the operation with an
error. -/
theorem error_of_singleStep_failure {process after : TtdProcess σ} {backward : Bool}
    {outcome : Unwind (Except DebugError StopReason)}
    (ran : some (process.stepOnStepCursor backward) = some (outcome, after)) {report : Obtained}
    (obtains : report ∈ [process.singleStep backward].filterMap SingleStep.obtained)
    (failure : BackendFailure report.result.stopReason) :
    ∃ error, outcome = .returned (.error error) := by
  obtain ⟨single, same, obtained⟩ := List.mem_filterMap.mp obtains
  rw [List.mem_singleton.mp same] at obtained
  have returned : (process.stepOnStepCursor backward).1 = outcome :=
    congrArg Prod.fst (Option.some.inj ran)
  rw [← returned]
  exact stepOnStepCursor_of_failure obtained failure

/-- None of the single steps met a failure. -/
def NoFailure (steps : List SingleStep) : Prop :=
  ∀ report ∈ steps.filterMap SingleStep.obtained, ¬BackendFailure report.result.stopReason

/-- A recorded step meets no failure or returns an error. -/
theorem noFailure_recordedStep {recorded : TtdProcess σ × List SingleStep}
    (sound : NoFailure recorded.2) :
    NoFailure (recordedStep recorded).2.2 ∨
      ∃ error, (recordedStep recorded).1 = .returned (.error error) := by
  rcases recorded with ⟨process, steps⟩
  by_cases failed : ∃ report, (process.singleStep false).obtained = some report ∧
      BackendFailure report.result.stopReason
  · obtain ⟨report, obtains, failure⟩ := failed
    exact .inr (stepOnStepCursor_of_failure obtains failure)
  · refine .inl fun report member failure => ?_
    simp only [recordedStep, List.filterMap_append, List.mem_append] at member
    rcases member with earlier | last
    · exact sound report earlier failure
    · obtain ⟨single, same, obtains⟩ := List.mem_filterMap.mp last
      rw [List.mem_singleton.mp same] at obtains
      exact failed ⟨report, obtains, failure⟩

/-- A range step that meets a failure ends there with an error. -/
theorem recordedRange_of_failure {process next : TtdProcess σ} {threadId : Option UInt64}
    {start finish : UInt64} {epoch : Nat → UInt64} {fuel : Nat} {steps : List SingleStep}
    {outcome : Unwind (Except DebugError StopReason)}
    (finished : process.recordedRange threadId start finish epoch fuel =
      some (outcome, next, steps))
    {report : Obtained} (obtains : report ∈ steps.filterMap SingleStep.obtained)
    (failure : BackendFailure report.result.stopReason) :
    ∃ error, outcome = .returned (.error error) := by
  have ended : NoFailure steps ∨ ∃ error, outcome = .returned (.error error) := by
    refine rangeLoop_spec
      (fun recorded : TtdProcess σ × List SingleStep => NoFailure recorded.2)
      (fun result recorded => NoFailure recorded.2 ∨ ∃ error, result = .returned (.error error))
      ?_ (fun _ sound => sound) ?_ (fun _ _ sound _ => .inl sound) finished ?_
    · intro recorded after sound stepEq
      have extended := noFailure_recordedStep sound
      rw [stepEq] at extended
      exact extended.resolve_right (by simp)
    · intro recorded result after sound stepEq _
      have extended := noFailure_recordedStep sound
      rw [stepEq] at extended
      exact extended
    · simp [NoFailure]
  exact ended.resolve_left fun sound => sound report obtains failure

/-! ## Continues -/

omit [SdkCursor σ] in
/-- Without a hit, away from the boundary, a continue reports the failure;
otherwise it returns a stop reason. -/
theorem resolveContinueStop_of_failure {process : TtdProcess σ} {result : TtdReplayResult}
    (failure : BackendFailure result.stopReason) (hitBpId : UInt64) (forward : Bool) :
    (∃ error, process.resolveContinueStop result hitBpId forward = .error error) ↔
      hitBpId = 0 ∧ ¬AtBoundary forward process.position process.lifetime := by
  obtain ⟨error, errorEq⟩ := tryFrom_error failure
  rw [← classify_eq_none_iff failure hitBpId
    (if hitBpId ≠ 0 then process.breakpoints.get hitBpId else none) forward process.position
    process.lifetime process.endsWithProcessExit]
  simp only [resolveContinueStop, errorEq]
  cases classifyContinueStop result hitBpId
    (if hitBpId ≠ 0 then process.breakpoints.get hitBpId else none) forward process.position
    process.lifetime process.endsWithProcessExit with
  | none => simp
  | some reason => simp

theorem watchpointReplay_of_failure {process after : TtdProcess σ} {limit : TtdPosition}
    {forward : Bool} {fuel : Nat} {outcome : Unwind (Except DebugError StopReason)}
    (ran : process.watchpointReplay limit forward fuel = some (outcome, after))
    {report : Obtained} (obtains : process.continueObtained limit forward fuel = some report)
    (failure : BackendFailure report.result.stopReason) :
    (∃ error, outcome = .returned (.error error)) ↔
      report.hitBpId = 0 ∧ ¬AtBoundary forward report.position process.lifetime := by
  unfold continueObtained at obtains
  split at obtains
  · rename_i result hitBpId stopped replayed
    cases obtains
    have lifetime := (sameDebugState_replayWatchpointFilteredWith replayed).lifetime
    simp only [watchpointReplay, replayed, Option.map_some, Option.some.injEq,
      Prod.mk.injEq] at ran
    rw [← ran.1, ← lifetime]
    simp only [Unwind.returned.injEq]
    exact resolveContinueStop_of_failure failure hitBpId forward
  · contradiction

end TtdProcess

/-! ## Failures are reported -/

/-- The direction an operation travels in. -/
def ExecOp.forward : ExecOp → Bool
  | .stepBack | .continueBackward => false
  | _ => true

/-- An operation that obtains a failure returns an error exactly when it is a
step, or recorded no hit and did not end at the boundary it was heading for. -/
theorem failure_is_error_iff {σ : Type} [SdkCursor σ] (process : TtdProcess σ) (op : ExecOp)
    (fuel : Nat) {outcome : Unwind (Except DebugError StopReason)} {after : TtdProcess σ}
    (ran : process.execute fuel op = some (outcome, after)) {report : Obtained}
    (obtains : report ∈ process.obtained fuel op)
    (failure : BackendFailure report.result.stopReason) :
    (∃ error, outcome = .returned (.error error)) ↔
      op.isStep = true ∨
        report.hitBpId = 0 ∧ ¬AtBoundary op.forward report.position process.lifetime := by
  cases op with
  | step =>
      simpa [ExecOp.isStep] using TtdProcess.error_of_singleStep_failure ran obtains failure
  | stepBack =>
      simpa [ExecOp.isStep] using TtdProcess.error_of_singleStep_failure ran obtains failure
  | stepRange threadId start finish epoch =>
      simp only [ExecOp.isStep, true_or, iff_true]
      simp only [TtdProcess.obtained, TtdProcess.singleSteps] at obtains
      simp only [TtdProcess.execute] at ran
      by_cases empty : start ≥ finish
      · rw [if_pos empty] at obtains
        rw [TtdProcess.stepRange, if_pos empty] at ran
        exact TtdProcess.error_of_singleStep_failure ran obtains failure
      · rw [if_neg empty] at obtains
        rw [TtdProcess.stepRange_eq_recordedRange _ _ empty] at ran
        obtain ⟨⟨result, next, steps⟩, finished, projected⟩ := Option.map_eq_some_iff.mp ran
        cases projected
        rw [finished] at obtains
        exact TtdProcess.recordedRange_of_failure finished obtains failure
  | continueForward =>
      simp only [ExecOp.isStep, Bool.false_eq_true, false_or]
      exact TtdProcess.watchpointReplay_of_failure ran (Option.mem_toList.mp obtains) failure
  | continueBackward =>
      simp only [ExecOp.isStep, Bool.false_eq_true, false_or]
      exact TtdProcess.watchpointReplay_of_failure ran (Option.mem_toList.mp obtains) failure

/-! ## An engine that fails at the end of the trace -/

/-- A trace of ten fragments whose persistent cursor answers its first replay
with an engine error at `landing`. -/
def failingProcess (landing : TtdPosition) : TtdProcess ScriptedCursor :=
  .openTrace (.new [] [] ⟨1, 0⟩ ⟨9, 1000⟩)
    ⟨⟨0, 0⟩, [⟨[], landing, { (default : ReplayOutcome) with stopReason := 9 }⟩]⟩ ⟨⟨0, 0⟩, []⟩ none

/-- The failure at the last position comes back as the end of the trace. -/
theorem failure_at_boundary_is_traceEnd :
    ∃ report after, report ∈ (failingProcess ⟨9, 1000⟩).obtained 1 .continueForward ∧
      BackendFailure report.result.stopReason ∧
      (failingProcess ⟨9, 1000⟩).execute 1 .continueForward =
        some (.returned (.ok .traceEnd), after) :=
  ⟨_, _, List.mem_singleton.mpr rfl, trivial, rfl⟩

/-- Elsewhere it comes back as an error. -/
theorem failure_inside_trace_is_error :
    ∃ outcome after, (failingProcess ⟨5, 0⟩).execute 1 .continueForward = some (outcome, after) ∧
      ∃ error, outcome = .returned (.error error) :=
  ⟨_, _, rfl, (failure_is_error_iff (failingProcess ⟨5, 0⟩) .continueForward 1 rfl
    (List.mem_singleton.mpr rfl) trivial).mpr (.inr ⟨rfl, by decide⟩)⟩

end TtdGdbserver.Target
