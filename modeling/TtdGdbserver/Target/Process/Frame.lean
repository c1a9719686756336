import TtdGdbserver.Target.Process.Operations

/-!
# What the operations leave alone

An operation moves cursors, counters, the debug position and the current
thread.  Only the breakpoint calls touch the breakpoints, and nothing touches
the tables that were read when the trace was opened.
-/

namespace TtdGdbserver.Target

open TtdGdbserver.Ttd

/-- An operation that is no breakpoint call. -/
def Op.isBreakpoint : Op → Bool
  | .breakpoint _ => true
  | _ => false

namespace TtdProcess

variable {σ : Type} [SdkCursor σ]

/-- The tables of the trace and the breakpoints are the same. -/
structure Frame (before after : TtdProcess σ) : Prop where
  lifetime : after.lifetime = before.lifetime
  endsWithProcessExit : after.endsWithProcessExit = before.endsWithProcessExit
  metadata : after.metadata = before.metadata
  breakpoints : after.breakpoints = before.breakpoints

omit [SdkCursor σ] in
theorem Frame.refl (process : TtdProcess σ) : Frame process process :=
  ⟨rfl, rfl, rfl, rfl⟩

omit [SdkCursor σ] in
theorem Frame.trans {first second third : TtdProcess σ} (left : Frame first second)
    (right : Frame second third) : Frame first third :=
  ⟨right.lifetime.trans left.lifetime, right.endsWithProcessExit.trans left.endsWithProcessExit,
    right.metadata.trans left.metadata, right.breakpoints.trans left.breakpoints⟩

omit [SdkCursor σ] in
theorem SameDebugState.frame {before after : TtdProcess σ}
    (same : SameDebugState after before) : Frame before after :=
  ⟨same.lifetime, same.endsWithProcessExit, same.metadata, same.breakpoints⟩

theorem frame_adoptCursorPosition (process : TtdProcess σ) :
    Frame process process.adoptCursorPosition :=
  ⟨rfl, rfl, rfl, rfl⟩

theorem frame_goto (process : TtdProcess σ) (position : TtdPosition) :
    Frame process (process.goto position).2 := by
  apply Frame.trans _ (frame_adoptCursorPosition _)
  exact (Frame.mk rfl rfl rfl rfl : Frame process { process with
    position := clampPosition position process.lifetime.1 process.lifetime.2 }).trans
      (sameDebugState_atPosition _ _).frame

theorem frame_stepOnStepCursor (process : TtdProcess σ) (backward : Bool) :
    Frame process (process.stepOnStepCursor backward).2 := by
  unfold stepOnStepCursor
  rcases process.cursors.step.prepare process.position with ⟨seeked, step⟩
  rcases replayed : stepReplay step.cursor backward with ⟨outcome, cursor⟩
  simp only [replayed]
  cases outcome with
  | panicked payload => exact ⟨rfl, rfl, rfl, rfl⟩
  | returned returned =>
      cases returned with
      | error error => exact ⟨rfl, rfl, rfl, rfl⟩
      | ok result => cases seeked <;> exact ⟨rfl, rfl, rfl, rfl⟩

theorem frame_watchpointReplay {process after : TtdProcess σ} {limit : TtdPosition}
    {forward : Bool} {fuel : Nat} {outcome : Unwind (Except DebugError StopReason)}
    (ran : process.watchpointReplay limit forward fuel = some (outcome, after)) :
    Frame process after := by
  obtain ⟨⟨replayed, stopped⟩, replay, finished⟩ := Option.map_eq_some_iff.mp ran
  have kept := (sameDebugState_replayWatchpointFilteredWith replay).frame
  cases replayed with
  | panicked payload =>
      cases finished
      exact kept
  | returned returned =>
      cases returned with
      | error error =>
          cases finished
          exact kept
      | ok result =>
          cases finished
          exact kept.trans (frame_adoptCursorPosition _)

theorem frame_stepRange {process after : TtdProcess σ} {threadId : Option UInt64}
    {start finish : UInt64} {epoch : Nat → UInt64} {fuel : Nat}
    {outcome : Unwind (Except DebugError StopReason)}
    (ran : process.stepRange threadId start finish epoch fuel = some (outcome, after)) :
    Frame process after := by
  unfold stepRange at ran
  split at ran
  · have stepped := frame_stepOnStepCursor process false
    rwa [Option.some.inj ran] at stepped
  · refine rangeLoop_spec (Frame process) (fun _ => Frame process) ?_ (fun _ kept => kept) ?_
      (fun _ _ kept _ => kept) ran (Frame.refl process)
    · intro state next kept stepEq
      have stepped := frame_stepOnStepCursor state false
      rw [show state.stepOnStepCursor false = _ from stepEq] at stepped
      exact kept.trans stepped
    · intro state result next kept stepEq _
      have stepped := frame_stepOnStepCursor state false
      rw [show state.stepOnStepCursor false = _ from stepEq] at stepped
      exact kept.trans stepped

theorem frame_execute {process after : TtdProcess σ} {op : ExecOp} {fuel : Nat}
    {outcome : Unwind (Except DebugError StopReason)}
    (ran : process.execute fuel op = some (outcome, after)) : Frame process after := by
  have single : ∀ backward, some (process.stepOnStepCursor backward) = some (outcome, after) →
      Frame process after := by
    intro backward stepped
    have kept := frame_stepOnStepCursor process backward
    rwa [Option.some.inj stepped] at kept
  cases op with
  | step => exact single false ran
  | stepBack => exact single true ran
  | stepRange => exact frame_stepRange ran
  | continueForward => exact frame_watchpointReplay ran
  | continueBackward => exact frame_watchpointReplay ran

theorem frame_withCursor {α : Type} (process : TtdProcess σ) (ask : ReplayCursor σ → α) :
    Frame process (process.withCursor ask).2 :=
  (sameDebugState_withCursor process ask).frame

theorem frame_ask (process : TtdProcess σ) (query : Query) :
    Frame process (process.ask query).2 := by
  cases query with
  | readMemory addr buf => exact frame_withCursor process fun cursor => readInto cursor addr buf
  | readMemoryRanges addr buf maxRanges =>
      exact frame_withCursor process fun cursor => readRangesInto cursor addr buf maxRanges
  | activeThreadIds => exact frame_withCursor process activeThreadIdsOf
  | threadState threadId =>
      simp only [ask, threadState]
      cases process.osTid threadId with
      | none => exact Frame.refl process
      | some tid =>
          dsimp only
          split
          · exact frame_withCursor process fun cursor => some (threadStateOf cursor tid)
          · exact Frame.refl process
  | threadInfo threadId =>
      simp only [ask, threadInfo]
      cases u32TryFrom threadId with
      | none => exact Frame.refl process
      | some osTid => exact frame_withCursor process fun cursor => threadInfoOf cursor osTid

/-- Every operation but a breakpoint call keeps the frame. -/
theorem frame_perform {process after : TtdProcess σ} {op : Op} (other : op.isBreakpoint = false)
    (performed : process.perform op = some after) : Frame process after := by
  cases op with
  | exec op fuel =>
      obtain ⟨⟨outcome, next⟩, ran, rfl⟩ := Option.map_eq_some_iff.mp performed
      exact frame_execute ran
  | goto position =>
      cases performed
      exact frame_goto process position
  | setCurrentThread id =>
      cases performed
      exact ⟨rfl, rfl, rfl, rfl⟩
  | breakpoint call => contradiction
  | query query =>
      cases performed
      exact frame_ask process query

end TtdProcess

end TtdGdbserver.Target
