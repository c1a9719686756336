import TtdGdbserver.Target.Process.Coherence

/-!
# How a single step ends

A single step prepares the step cursor for the debug position and makes one
replay call.  Either the call fails, and the process forgets where the step
cursor is, or the process lands where the cursor did.
-/

namespace TtdGdbserver.Target.TtdProcess

open TtdGdbserver.Ttd

variable {σ : Type} [SdkCursor σ]

/-- The process where a completed single step left the step cursor. -/
def landStep (process : TtdProcess σ) (cursor : ReplayCursor σ) : TtdProcess σ :=
  let (seeked, step) := process.cursors.step.prepare process.position
  let process := process.withStep ((step.withCursor cursor).notePosition cursor.position)
  let process := process.bumpSeek seeked
  let process := process.bump fun stats => { stats with steps := stats.steps + 1 }
  { process with
    position := cursor.position
    currentThreadId :=
      if currentTid cursor ≠ 0 then some (currentTid cursor).toUInt64
      else process.currentThreadId }

/-- The process when the replay call of a single step failed. -/
def failStep (process : TtdProcess σ) (cursor : ReplayCursor σ) : TtdProcess σ :=
  let (_, step) := process.cursors.step.prepare process.position
  process.withStep (step.withCursor cursor).invalidate

@[simp]
theorem position_landStep (process : TtdProcess σ) (cursor : ReplayCursor σ) :
    (process.landStep cursor).position = cursor.position :=
  rfl

@[simp]
theorem cursors_landStep (process : TtdProcess σ) (cursor : ReplayCursor σ) :
    (process.landStep cursor).cursors =
      ⟨process.cursors.persistent, ⟨cursor, some cursor.position⟩⟩ := by
  simp only [landStep, bump, cursors_bumpSeek]
  rfl

@[simp]
theorem cursors_failStep (process : TtdProcess σ) (cursor : ReplayCursor σ) :
    (process.failStep cursor).cursors = ⟨process.cursors.persistent, ⟨cursor, none⟩⟩ :=
  rfl

/-- What a single step can do. -/
inductive Stepped (process : TtdProcess σ) (backward : Bool) :
    Unwind (Except DebugError StopReason) → TtdProcess σ → Prop
  | failed {error : TtdError} {cursor : ReplayCursor σ} (reported : TtdError) :
      stepReplay process.stepSource backward = (.returned (.error error), cursor) →
      Stepped process backward (.returned (.error (.ttd reported))) (process.failStep cursor)
  | landed {result : TtdReplayResult} {cursor : ReplayCursor σ} :
      stepReplay process.stepSource backward = (.returned (.ok result), cursor) →
      Stepped process backward
        (.returned ((process.landStep cursor).resolveStep result backward))
        (process.landStep cursor)

theorem stepped_stepOnStepCursor (process : TtdProcess σ) (backward : Bool) :
    Stepped process backward (process.stepOnStepCursor backward).1
      (process.stepOnStepCursor backward).2 := by
  have returns := stepReplay_ne_panicked process.stepSource backward
  have source : (process.cursors.step.prepare process.position).2.cursor = process.stepSource :=
    rfl
  unfold stepOnStepCursor
  rcases replayed : stepReplay process.stepSource backward with ⟨outcome, cursor⟩
  rw [replayed] at returns
  dsimp only
  rw [source, replayed]
  cases outcome with
  | panicked payload => exact (returns payload rfl).elim
  | returned returned =>
      cases returned with
      | error error => exact .failed _ replayed
      | ok result =>
          exact .landed replayed

theorem stepped_of_eq {process after : TtdProcess σ} {backward : Bool}
    {outcome : Unwind (Except DebugError StopReason)}
    (ran : process.stepOnStepCursor backward = (outcome, after)) :
    Stepped process backward outcome after := by
  have stepped := stepped_stepOnStepCursor process backward
  rwa [ran] at stepped

end TtdGdbserver.Target.TtdProcess
