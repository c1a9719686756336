import TtdGdbserver.Target.Process.Independence

/-!
# Where the debug position comes from

The debug position is the one a process was opened at, until an operation
adopts the position of a cursor.  A jump therefore returns to any debug
position within the lifetime, and the clamping keeps it from any other.
-/

namespace TtdGdbserver.Target

open TtdGdbserver.Ttd

/-- A query that asks for memory, for the live threads or for a named thread,
and not for the current thread. -/
def Query.isExplicit : Query → Bool
  | .threadState none => false
  | _ => true

/-- An explicit query is answered by the position and the trace alone. -/
theorem Query.answerOn_explicit {σ : Type} [SdkCursor σ] {query : Query}
    (explicit : query.isExplicit = true) {first second : TtdProcess σ}
    (trace : first.metadata = second.metadata) (cursor : ReplayCursor σ) :
    query.answerOn first cursor = query.answerOn second cursor := by
  cases query with
  | threadState threadId =>
      cases threadId with
      | none => contradiction
      | some id => simp only [answerOn, TtdProcess.osTid, trace]
  | _ => rfl

namespace TtdProcess

variable {σ : Type} [SdkCursor σ]

/-- The position stayed or is a cursor's. -/
def Landed (before after : TtdProcess σ) : Prop :=
  after.position = before.position ∨ ∃ cursor : ReplayCursor σ, after.position = cursor.position

theorem Landed.trans {first second third : TtdProcess σ} (left : Landed first second)
    (right : Landed second third) : Landed first third := by
  rcases right with stayed | moved
  · rcases left with same | moved
    · exact .inl (stayed.trans same)
    · exact .inr (stayed ▸ moved)
  · exact .inr moved

theorem landed_adoptCursorPosition (process before : TtdProcess σ) :
    Landed before process.adoptCursorPosition :=
  .inr ⟨process.cursors.persistent.cursor, rfl⟩

theorem landed_stepOnStepCursor (process : TtdProcess σ) (backward : Bool) :
    Landed process (process.stepOnStepCursor backward).2 := by
  unfold stepOnStepCursor
  rcases process.cursors.step.prepare process.position with ⟨seeked, step⟩
  rcases replayed : stepReplay step.cursor backward with ⟨outcome, cursor⟩
  simp only [replayed]
  cases outcome with
  | panicked payload => exact .inl rfl
  | returned returned =>
      cases returned with
      | error error => exact .inl rfl
      | ok result => exact .inr ⟨cursor, rfl⟩

theorem landed_watchpointReplay {process after : TtdProcess σ} {limit : TtdPosition}
    {forward : Bool} {fuel : Nat} {outcome : Unwind (Except DebugError StopReason)}
    (ran : process.watchpointReplay limit forward fuel = some (outcome, after)) :
    Landed process after := by
  obtain ⟨⟨replayed, stopped⟩, replay, finished⟩ := Option.map_eq_some_iff.mp ran
  have kept : Landed process stopped :=
    .inl (sameDebugState_replayWatchpointFilteredWith replay).position
  cases replayed with
  | panicked payload =>
      cases finished
      exact kept
  | returned returned =>
      cases returned with
      | error error =>
          cases finished
          exact kept
      | ok result =>
          cases finished
          exact landed_adoptCursorPosition stopped process

theorem landed_stepRange {process after : TtdProcess σ} {threadId : Option UInt64}
    {start finish : UInt64} {epoch : Nat → UInt64} {fuel : Nat}
    {outcome : Unwind (Except DebugError StopReason)}
    (ran : process.stepRange threadId start finish epoch fuel = some (outcome, after)) :
    Landed process after := by
  unfold stepRange at ran
  split at ran
  case isTrue =>
    have stepped := landed_stepOnStepCursor process false
    rwa [Option.some.inj ran] at stepped
  case isFalse =>
    have stepped {state next : TtdProcess σ} {result : Unwind (Except DebugError StopReason)}
        (stepEq : state.step = (result, next)) : Landed state next := by
      have landed := landed_stepOnStepCursor state false
      rwa [show state.stepOnStepCursor false = _ from stepEq] at landed
    exact rangeLoop_spec (Landed process) (fun _ => Landed process)
      (fun _ _ landed stepEq => landed.trans (stepped stepEq)) (fun _ landed => landed)
      (fun _ _ _ landed stepEq _ => landed.trans (stepped stepEq)) (fun _ _ landed _ => landed)
      ran (.inl rfl)

theorem landed_perform {process after : TtdProcess σ} {op : Op}
    (performed : process.perform op = some after) : Landed process after := by
  cases op with
  | exec op fuel =>
      obtain ⟨⟨outcome, next⟩, ran, rfl⟩ := Option.map_eq_some_iff.mp performed
      cases op with
      | step =>
          have landed := landed_stepOnStepCursor process false
          rwa [show process.stepOnStepCursor false = _ from Option.some.inj ran] at landed
      | stepBack =>
          have landed := landed_stepOnStepCursor process true
          rwa [show process.stepOnStepCursor true = _ from Option.some.inj ran] at landed
      | stepRange => exact landed_stepRange ran
      | continueForward => exact landed_watchpointReplay ran
      | continueBackward => exact landed_watchpointReplay ran
  | goto position =>
      cases performed
      exact landed_adoptCursorPosition _ process
  | setCurrentThread id =>
      cases performed
      exact .inl rfl
  | breakpoint call =>
      cases performed
      exact .inl rfl
  | query query =>
      cases performed
      exact .inl (stepsAlike_ask process query).position

/-- No operation touches the tables of the trace. -/
theorem tables_perform {process after : TtdProcess σ} {op : Op}
    (performed : process.perform op = some after) :
    after.lifetime = process.lifetime ∧ after.metadata = process.metadata := by
  by_cases other : op.isBreakpoint = false
  · have frame := frame_perform other performed
    exact ⟨frame.lifetime, frame.metadata⟩
  · cases op with
    | breakpoint call =>
        cases performed
        exact ⟨rfl, rfl⟩
    | _ => contradiction

/-! ## Returning to a position -/

variable [LawfulSdkCursor σ]

/-- The engine lands on the debug position when it is asked to. -/
def Settled (process : TtdProcess σ) : Prop :=
  LawfulSdkCursor.round σ process.position = process.position

theorem Settled.perform {process after : TtdProcess σ} (settled : process.Settled) {op : Op}
    (performed : process.perform op = some after) : after.Settled := by
  rcases landed_perform performed with stayed | ⟨cursor, landed⟩
  · rw [Settled, stayed]
    exact settled
  · rw [Settled, landed]
    exact cursor.round_position

/-- A jump lands on the rounding of the clamped request. -/
theorem Coherent.position_goto {process : TtdProcess σ} (coherent : process.Coherent)
    (position : TtdPosition) :
    (process.goto position).2.position =
      LawfulSdkCursor.round σ
        (clampPosition position process.lifetime.1 process.lifetime.2) := by
  have moved : ({ process with
      position := clampPosition position process.lifetime.1 process.lifetime.2 } :
        TtdProcess σ).Coherent :=
    ⟨coherent.persistent, coherent.step⟩
  exact (moved.atPosition _).2

/-- Processes of one trace at one position answer explicit queries alike. -/
theorem Coherent.ask_explicit {first second : TtdProcess σ} (left : first.Coherent)
    (right : second.Coherent) (position : first.position = second.position)
    (trace : first.metadata = second.metadata) {query : Query}
    (explicit : query.isExplicit = true) : (first.ask query).1 = (second.ask query).1 := by
  have fresh := first.cursors.step.cursor
  rw [(left.ask query fresh).2, (right.ask query fresh).2, position,
    Query.answerOn_explicit explicit trace]

end TtdProcess

end TtdGdbserver.Target
