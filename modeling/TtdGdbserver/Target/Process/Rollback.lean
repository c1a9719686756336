import TtdGdbserver.Target.Process.Coherence
import TtdGdbserver.Target.Process.Failure

/-!
# What a failed operation leaves behind

A step or a continue fails in one of two places: the replay call itself fails,
or its result is rejected afterwards.  Between the two the process adopts the
position and the thread where the replay stopped.  The first failure therefore
leaves the debug state as it was, and the second only if the replay stopped
where it had started.
-/

namespace TtdGdbserver.Target

open TtdGdbserver.Ttd TtdGdbserver.Transition

/-- The operations that make one step or one continue. -/
inductive Travel where
  | step
  | stepBack
  | continueForward
  | continueBackward
  deriving DecidableEq, Repr

/-- The execution method of a travel. -/
def Travel.op : Travel → ExecOp
  | .step => .step
  | .stepBack => .stepBack
  | .continueForward => .continueForward
  | .continueBackward => .continueBackward

/-- An answer depends on the current thread and the metadata of the process. -/
theorem Query.answerOn_process {σ : Type} [SdkCursor σ] {first second : TtdProcess σ}
    (thread : first.currentThreadId = second.currentThreadId)
    (metadata : first.metadata = second.metadata) (query : Query) (cursor : ReplayCursor σ) :
    query.answerOn first cursor = query.answerOn second cursor := by
  cases query with
  | threadState threadId => simp only [answerOn, TtdProcess.osTid, thread, metadata]
  | _ => rfl

/-- The debug state is what it was, and the queries are answered there. -/
structure Unchanged {σ : Type} [SdkCursor σ] (before after : TtdProcess σ) : Prop where
  position : after.position = before.position
  currentThreadId : after.currentThreadId = before.currentThreadId
  breakpoints : after.breakpoints.manager = before.breakpoints.manager
  queries : ∀ (query : Query) (fresh : ReplayCursor σ),
    (after.ask query).1 = query.answerOn before (fresh.setPosition before.position)

namespace TtdProcess

variable {σ : Type} [SdkCursor σ]

/-! ## What a replay result makes the process adopt -/

/-- The position and the thread that a single step adopts, if its replay call
has a result. -/
def stepAdopts (process : TtdProcess σ) (backward : Bool) :
    Option (TtdPosition × Option UInt64) :=
  match stepReplay process.stepSource backward with
  | (.returned (.ok _), cursor) =>
      let tid := currentTid cursor
      some (positionOf cursor, if tid ≠ 0 then some tid.toUInt64 else process.currentThreadId)
  | _ => none

/-- The position and the thread that a continue adopts, if its replay has a
result. -/
def continueAdopts (process : TtdProcess σ) (limit : TtdPosition) (forward : Bool)
    (fuel : Nat) : Option (TtdPosition × Option UInt64) :=
  match process.replayWatchpointFiltered limit forward fuel with
  | some (.returned (.ok _), after) =>
      let cursor := after.cursors.persistent.cursor
      let tid := currentTid cursor
      some (positionOf cursor, if tid = 0 then none else some tid.toUInt64)
  | _ => none

/-- The position and thread that the operation adopts, if its replay returns a result. -/
def adopts (process : TtdProcess σ) (fuel : Nat) : Travel → Option (TtdPosition × Option UInt64)
  | .step => process.stepAdopts false
  | .stepBack => process.stepAdopts true
  | .continueForward => process.continueAdopts process.lifetime.2 true fuel
  | .continueBackward => process.continueAdopts process.lifetime.1 false fuel

/-- The replay call itself fails, or it stops where it started. -/
def FailsInPlace (process : TtdProcess σ) (fuel : Nat) (travel : Travel) : Prop :=
  ∀ adopted, process.adopts fuel travel = some adopted →
    adopted = (process.position, process.currentThreadId)

instance (process : TtdProcess σ) (fuel : Nat) (travel : Travel) :
    Decidable (process.FailsInPlace fuel travel) :=
  inferInstanceAs (Decidable (∀ adopted, process.adopts fuel travel = some adopted → _))

/-- What a failed operation leaves behind: the breakpoints and the metadata it
found, at the place it adopted. -/
structure LeftAt (before after : TtdProcess σ) (place : TtdPosition × Option UInt64) : Prop where
  place : (after.position, after.currentThreadId) = place
  breakpoints : after.breakpoints = before.breakpoints
  metadata : after.metadata = before.metadata

theorem leftAt_stepOnStepCursor {process after : TtdProcess σ} {backward : Bool}
    {error : DebugError}
    (ran : process.stepOnStepCursor backward = (.returned (.error error), after)) :
    LeftAt process after
      ((process.stepAdopts backward).getD (process.position, process.currentThreadId)) := by
  rcases replayEq : stepReplay process.stepSource backward with ⟨outcome, cursor⟩
  simp only [stepAdopts, replayEq]
  unfold stepSource at replayEq
  simp only [stepOnStepCursor, replayEq] at ran
  cases outcome with
  | panicked payload => simp at ran
  | returned returned =>
      cases returned with
      | error failed =>
          cases ran
          exact ⟨rfl, rfl, rfl⟩
      | ok result =>
          obtain ⟨_, rfl⟩ := Prod.mk.inj ran
          cases (process.cursors.step.prepare process.position).1 <;> exact ⟨rfl, rfl, rfl⟩

theorem leftAt_watchpointReplay {process after : TtdProcess σ} {limit : TtdPosition}
    {forward : Bool} {fuel : Nat} {error : DebugError}
    (ran : process.watchpointReplay limit forward fuel =
      some (.returned (.error error), after)) :
    LeftAt process after
      ((process.continueAdopts limit forward fuel).getD
        (process.position, process.currentThreadId)) := by
  unfold watchpointReplay at ran
  unfold continueAdopts
  cases replayed : process.replayWatchpointFiltered limit forward fuel with
  | none =>
      rw [replayed] at ran
      contradiction
  | some finished =>
      obtain ⟨outcome, stopped⟩ := finished
      have same := sameDebugState_replayWatchpointFilteredWith replayed
      rw [replayed, Option.map_some, Option.some.injEq] at ran
      cases outcome with
      | panicked payload => cases ran
      | returned returned =>
          cases returned with
          | error failed =>
              cases ran
              exact ⟨by rw [same.position, same.currentThreadId]; rfl, same.breakpoints,
                same.metadata⟩
          | ok result =>
              obtain ⟨_, rfl⟩ := Prod.mk.inj ran
              exact ⟨rfl, same.breakpoints, same.metadata⟩

theorem leftAt_execute {process after : TtdProcess σ} {travel : Travel} {fuel : Nat}
    {error : DebugError}
    (ran : process.execute fuel travel.op = some (.returned (.error error), after)) :
    LeftAt process after
      ((process.adopts fuel travel).getD (process.position, process.currentThreadId)) := by
  cases travel with
  | step => exact leftAt_stepOnStepCursor (Option.some.inj ran)
  | stepBack => exact leftAt_stepOnStepCursor (Option.some.inj ran)
  | continueForward => exact leftAt_watchpointReplay ran
  | continueBackward => exact leftAt_watchpointReplay ran

end TtdProcess

/-! ## Every run -/

/-- After every run, a step or a continue that returns an error leaves the debug
state as it was exactly when it fails in place. -/
theorem unchanged_iff_failsInPlace {σ : Type} [SdkCursor σ] [LawfulSdkCursor σ]
    (metadata : TraceMetadata) (persistent step : σ) (probe : Option σ) {ops : List Op}
    {process after : TtdProcess σ}
    (run : Run TtdProcess.perform AnyStep (.openTrace metadata persistent step probe) ops
      process)
    (travel : Travel) (fuel : Nat) {error : DebugError}
    (ran : process.execute fuel travel.op = some (.returned (.error error), after)) :
    Unchanged process after ↔ process.FailsInPlace fuel travel := by
  have left_ := TtdProcess.leftAt_execute ran
  constructor
  · intro unchanged adopted adopts
    have place := left_.place
    rw [adopts, Option.getD_some, unchanged.position, unchanged.currentThreadId] at place
    exact place.symm
  · intro inPlace
    have place : (after.position, after.currentThreadId) =
        (process.position, process.currentThreadId) := by
      rw [left_.place]
      cases adopts : process.adopts fuel travel with
      | none => rfl
      | some adopted => exact inPlace adopted adopts
    obtain ⟨position, thread⟩ := Prod.mk.inj place
    have coherent : after.Coherent :=
      (TtdProcess.coherent_of_run run).execute ran
    refine ⟨position, thread, congrArg _ left_.breakpoints, ?_⟩
    intro query fresh
    rw [(coherent.ask query fresh).2, position]
    exact query.answerOn_process thread left_.metadata _

/-- A continue that ends with an engine error in the middle of the trace. -/
theorem rejectedStop_changes_position :
    ∃ error after, (failingProcess ⟨5, 0⟩).execute 1 Travel.continueForward.op =
        some (.returned (.error error), after) ∧
      ¬ Unchanged (failingProcess ⟨5, 0⟩) after := by
  refine ⟨_, _, rfl, ?_⟩
  intro unchanged
  exact absurd unchanged.position (by decide)

/-- A step whose replay call fails after it moved the cursor. -/
def brokenStep : TtdProcess ScriptedCursor :=
  .openTrace (.new [] [] ⟨1, 0⟩ ⟨9, 1000⟩) ⟨⟨0, 0⟩, []⟩
    ⟨⟨0, 0⟩, [⟨[], ⟨2, 7⟩, { (default : ReplayOutcome) with stopReason := 255 }⟩]⟩ none

theorem brokenStep_unchanged :
    ∃ error after, brokenStep.execute 1 Travel.step.op =
      some (.returned (.error error), after) ∧ Unchanged brokenStep after :=
  ⟨_, _, rfl, (unchanged_iff_failsInPlace _ _ _ _ .nil .step 1 rfl).mpr (by decide)⟩

end TtdGdbserver.Target
