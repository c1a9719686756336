import TtdGdbserver.Target.Process.Position
import TtdGdbserver.Target.Process.Stepping
import TtdGdbserver.Target.Process.Transparent
import TtdGdbserver.Transition.Amortised
import TtdGdbserver.Ttd.Metered

/-!
# Seeks are paid for by moves

A cursor that knows it is at the debug position answers without a seek.  Each
execution or jump lets at most two cursors lose sight of the debug position, so
the seeks of a run are bounded by its executions and jumps, whatever the number
of queries, and of single steps within a range step.
-/

namespace TtdGdbserver.Target

open TtdGdbserver.Ttd TtdGdbserver.Transition

/-! ## What operations may spend -/

/-- The seeks an operation may cause, now or later. -/
def Op.seekCharge : Op → Nat
  | .exec (.stepRange ..) _ => 2
  | .exec _ _ => 1
  | .goto _ => 2
  | .setCurrentThread _ | .breakpoint _ | .query _ => 0

namespace PositionedCursor

variable {σ : Type} [SdkCursor σ]

/-- The seeks that preparing the cursor for `position` takes. -/
def staleAt (self : PositionedCursor σ) (position : TtdPosition) : Nat :=
  if self.knownAt = some position then 0 else 1

omit [SdkCursor σ] in
theorem staleAt_le (self : PositionedCursor σ) (position : TtdPosition) :
    self.staleAt position ≤ 1 := by
  unfold staleAt
  split <;> omega

omit [SdkCursor σ] in
@[simp]
theorem staleAt_notePosition (self : PositionedCursor σ) (position : TtdPosition) :
    (self.notePosition position).staleAt position = 0 :=
  if_pos rfl

theorem seeked_prepare (self : PositionedCursor σ) (position : TtdPosition) :
    (self.prepare position).1.toNat = self.staleAt position := by
  unfold prepare staleAt
  split <;> rfl

theorem seeks_prepare [SeekMeter σ] (self : PositionedCursor σ) (position : TtdPosition) :
    (self.prepare position).2.cursor.seeks = self.cursor.seeks + self.staleAt position := by
  unfold prepare staleAt
  split
  · rfl
  · exact ReplayCursor.seeks_setPosition _ _

/-- A cursor prepared for a position the engine can land on stays prepared. -/
theorem staleAt_prepare [LawfulSdkCursor σ] (self : PositionedCursor σ) {position : TtdPosition}
    (settled : LawfulSdkCursor.round σ position = position) :
    (self.prepare position).2.staleAt position = 0 := by
  unfold prepare
  split
  · rename_i cached
    exact if_pos cached
  · refine if_pos (congrArg some ?_)
    exact (ReplayCursor.position_setPosition _ _).trans settled

end PositionedCursor

namespace TtdProcess

variable {σ : Type} [SdkCursor σ]

/-- The seeks that the next use of each cursor takes. -/
def stale (process : TtdProcess σ) : Nat :=
  process.cursors.persistent.staleAt process.position +
    process.cursors.step.staleAt process.position

/-- The `SetPosition` calls that the cursors have served. -/
def seeks [SeekMeter σ] (process : TtdProcess σ) : Nat :=
  process.cursors.persistent.cursor.seeks + process.cursors.step.cursor.seeks

/-- Every seek on the way from `before` to `after` is among `spent`, and so is
every one that was counted. -/
structure Spends [SeekMeter σ] (before after : TtdProcess σ) (spent : Nat) : Prop where
  seeks : after.seeks ≤ before.seeks + spent
  counted : after.stats.cursorSeeks.toNat ≤ before.stats.cursorSeeks.toNat + spent

section Spends

variable [SeekMeter σ]

theorem Spends.refl (process : TtdProcess σ) : Spends process process 0 :=
  ⟨Nat.le_refl _, Nat.le_refl _⟩

theorem Spends.trans {first second third : TtdProcess σ} {spent more : Nat}
    (left : Spends first second spent) (right : Spends second third more) :
    Spends first third (spent + more) := by
  obtain ⟨seeks, counted⟩ := left
  obtain ⟨seeks', counted'⟩ := right
  constructor <;> omega

theorem Spends.mono {before after : TtdProcess σ} {spent more : Nat}
    (spends : Spends before after spent) (enough : spent ≤ more) : Spends before after more :=
  ⟨spends.seeks.trans (Nat.add_le_add_left enough _),
    spends.counted.trans (Nat.add_le_add_left enough _)⟩

omit [SdkCursor σ] [SeekMeter σ] in
theorem counted_bumpSeek (process : TtdProcess σ) (seeked : Bool) :
    (process.bumpSeek seeked).stats.cursorSeeks.toNat ≤
      process.stats.cursorSeeks.toNat + seeked.toNat := by
  cases seeked with
  | false => exact Nat.le_refl _
  | true =>
      have wrapped := UInt64.toNat_add process.stats.cursorSeeks 1
      have bound := Nat.mod_le (process.stats.cursorSeeks.toNat + (1 : UInt64).toNat) (2 ^ 64)
      exact (wrapped.trans_le bound)

theorem spends_atPosition (process : TtdProcess σ) (position : TtdPosition) :
    Spends process (process.atPosition position)
      (process.cursors.persistent.staleAt position) := by
  constructor
  · simp only [seeks, TtdProcess.atPosition, cursors_bumpSeek, withPersistent,
      PositionedCursor.seeks_prepare]
    omega
  · rw [← PositionedCursor.seeked_prepare]
    exact counted_bumpSeek _ _

/-- Spending no more than the stale cursors lost and the charge. -/
def Paid (before after : TtdProcess σ) (charge : Nat) : Prop :=
  ∃ spent, Spends before after spent ∧ spent + after.stale ≤ before.stale + charge

/-! ### Steps -/

theorem seeks_stepReplay (cursor : ReplayCursor σ) (backward : Bool) :
    (stepReplay cursor backward).2.seeks = cursor.seeks := by
  cases backward <;> exact ReplayCursor.seeks_replay _ _ _ _ _ _

/-- A single step seeks once if the step cursor is stale, and not otherwise. -/
theorem Stepped.spends {process after : TtdProcess σ} {backward : Bool}
    {outcome : Unwind (Except DebugError StopReason)}
    (stepped : Stepped process backward outcome after) :
    Spends process after (process.cursors.step.staleAt process.position) := by
  have seeks {cursor : ReplayCursor σ} {result : Unwind (Except TtdError TtdReplayResult)}
      (replayed : stepReplay process.stepSource backward = (result, cursor)) :
      process.cursors.persistent.cursor.seeks + cursor.seeks =
        process.seeks + process.cursors.step.staleAt process.position := by
    have replays := seeks_stepReplay process.stepSource backward
    rw [replayed] at replays
    rw [replays, stepSource, PositionedCursor.seeks_prepare, ← Nat.add_assoc]
    rfl
  cases stepped with
  | failed reported replayed => exact ⟨(seeks replayed).le, Nat.le_add_right _ _⟩
  | landed replayed =>
      constructor
      · rw [TtdProcess.seeks, cursors_landStep]
        exact (seeks replayed).le
      · rw [← PositionedCursor.seeked_prepare]
        exact counted_bumpSeek _ _

omit [SeekMeter σ] in
/-- It may leave the persistent cursor behind, or lose the step cursor. -/
theorem Stepped.stale_le {process after : TtdProcess σ} {backward : Bool}
    {outcome : Unwind (Except DebugError StopReason)}
    (stepped : Stepped process backward outcome after) :
    after.stale ≤ process.cursors.persistent.staleAt process.position + 1 := by
  cases stepped with
  | failed => exact Nat.add_le_add_left (PositionedCursor.staleAt_le _ _) _
  | @landed result cursor =>
      have behind := process.cursors.persistent.staleAt_le cursor.position
      have fresh : (PositionedCursor.mk cursor (some cursor.position)).staleAt cursor.position =
          0 := if_pos rfl
      rw [stale, cursors_landStep, position_landStep]
      dsimp only
      rw [fresh]
      omega

omit [SeekMeter σ] in
/-- A step that returns a stop knows where the step cursor is. -/
theorem Stepped.fresh {process after : TtdProcess σ} {backward : Bool} {reason : StopReason}
    (stepped : Stepped process backward (.returned (.ok reason)) after) :
    after.cursors.step.staleAt after.position = 0 := by
  generalize outcomeEq : Unwind.returned (Except.ok reason) = outcome at stepped
  cases stepped with
  | failed => cases outcomeEq
  | landed =>
      rw [cursors_landStep, position_landStep]
      exact if_pos rfl

/-- Only the first single step of a range step can find the step cursor
stale. -/
theorem spends_stepRange {process after : TtdProcess σ} {threadId : Option UInt64}
    {start finish : UInt64} {epoch : Nat → UInt64} {fuel : Nat}
    {outcome : Unwind (Except DebugError StopReason)}
    (ran : process.stepRange threadId start finish epoch fuel = some (outcome, after)) :
    Spends process after (process.cursors.step.staleAt process.position) := by
  have spends {state next : TtdProcess σ} {result : Unwind (Except DebugError StopReason)}
      (stepEq : state.step = (result, next)) :
      Spends state next (state.cursors.step.staleAt state.position) :=
    (stepped_of_eq stepEq).spends
  unfold stepRange at ran
  split at ran
  case isTrue => exact spends (Option.some.inj ran)
  case isFalse =>
    -- Until the first step the process is as it was; from then on the step cursor is fresh.
    have goesOn {state next : TtdProcess σ} {result : Unwind (Except DebugError StopReason)}
        (inv : state = process ∨
          (Spends process state (process.cursors.step.staleAt process.position) ∧
            state.cursors.step.staleAt state.position = 0))
        (stepEq : state.step = (result, next)) :
        Spends process next (process.cursors.step.staleAt process.position) := by
      rcases inv with rfl | ⟨sofar, fresh⟩
      · exact spends stepEq
      · have stepped := spends stepEq
        rw [fresh] at stepped
        exact sofar.trans stepped
    refine rangeLoop_spec
      (fun state : TtdProcess σ => state = process ∨
        (Spends process state (process.cursors.step.staleAt process.position) ∧
          state.cursors.step.staleAt state.position = 0))
      (fun _ state => Spends process state (process.cursors.step.staleAt process.position))
      (fun state next inv stepEq => .inr ⟨goesOn inv stepEq, (stepped_of_eq stepEq).fresh⟩)
      (fun _ inv => inv) (fun _ _ _ inv stepEq _ => goesOn inv stepEq) ?_ ran (.inl rfl)
    rintro state reason (rfl | ⟨sofar, -⟩) -
    · exact (Spends.refl state).mono (Nat.zero_le _)
    · exact sofar

/-! ### Continues -/

theorem spends_beginContinue (process : TtdProcess σ) :
    Spends process process.beginContinue
      (process.cursors.persistent.staleAt process.position) := by
  have positioned := spends_atPosition (process.withPersistent
    (process.cursors.persistent.withCursor
      (process.cursors.persistent.cursor.setExceptionMask exceptionMask))) process.position
  have masked : (process.withPersistent (process.cursors.persistent.withCursor
      (process.cursors.persistent.cursor.setExceptionMask exceptionMask))).seeks =
        process.seeks :=
    congrArg (· + process.cursors.step.cursor.seeks) (ReplayCursor.seeks_setExceptionMask _ _)
  obtain ⟨seeks, counted⟩ := positioned
  rw [masked] at seeks
  exact ⟨seeks, counted⟩

theorem seeks_replayTo {τ : Type} {limit : TtdPosition} {forward : Bool}
    {callback : WatchpointFn τ} {cursor moved : ReplayCursor σ} {state next : τ}
    {outcome : Unwind (Except TtdError TtdReplayResult)}
    (replayed : replayTo cursor limit forward callback state = (outcome, moved, next)) :
    moved.seeks = cursor.seeks := by
  have kept : (replayTo cursor limit forward callback state).2.1.seeks = cursor.seeks := by
    cases forward <;> exact ReplayCursor.seeks_replay _ _ _ _ _ _
  rwa [replayed] at kept

/-- However many exceptions a continue passes, it never seeks on the way. -/
theorem seeks_replayPastTransparentExceptions {τ : Type} {metadata : TraceMetadata}
    {limit : TtdPosition} {forward : Bool} {callback : WatchpointFn τ} {fuel : Nat}
    {previous : Option TtdPosition} {cursor moved : ReplayCursor σ} {state next : τ}
    {outcome : Unwind (Except TtdError TtdReplayResult)}
    (ran : replayPastTransparentExceptions metadata limit forward callback fuel previous cursor
      state = some (outcome, moved, next)) : moved.seeks = cursor.seeks := by
  induction fuel generalizing previous cursor state with
  | zero => contradiction
  | succ fuel ih =>
      rcases replayed : replayTo cursor limit forward callback state with ⟨reported, here, after⟩
      have stayed := seeks_replayTo replayed
      cases reported with
      | panicked payload =>
          rw [replayPastTransparentExceptions, replayed] at ran
          cases ran
          exact stayed
      | returned returned =>
          cases returned with
          | error error =>
              rw [replayPastTransparentExceptions, replayed] at ran
              cases ran
              exact stayed
          | ok result =>
              rw [replayPastTransparentExceptions_returned replayed] at ran
              split at ran
              · exact (ih ran).trans stayed
              · cases ran
                exact stayed

/-- A continue seeks once if the persistent cursor is stale, and not
otherwise. -/
theorem spends_watchpointReplay {process after : TtdProcess σ} {limit : TtdPosition}
    {forward : Bool} {fuel : Nat} {outcome : Unwind (Except DebugError StopReason)}
    (ran : process.watchpointReplay limit forward fuel = some (outcome, after)) :
    Spends process after (process.cursors.persistent.staleAt process.position) := by
  obtain ⟨⟨replayed, stopped⟩, ran, finished⟩ := Option.map_eq_some_iff.mp ran
  obtain ⟨⟨result, cursor, hitBpId⟩, replays, ended⟩ := Option.map_eq_some_iff.mp ran
  have stayed := (seeks_replayPastTransparentExceptions replays).trans
    (ReplayCursor.seeks_setEventMask _ _)
  have begun := process.spends_beginContinue
  have whole : cursor.seeks + process.beginContinue.cursors.step.cursor.seeks ≤
      process.seeks + process.cursors.persistent.staleAt process.position := by
    rw [stayed]
    exact begun.seeks
  cases result with
  | panicked payload =>
      cases ended
      cases finished
      exact ⟨whole, begun.counted⟩
  | returned returned =>
      cases returned with
      | error error =>
          cases ended
          cases finished
          exact ⟨whole, begun.counted⟩
      | ok result =>
          cases ended
          cases finished
          exact ⟨whole, begun.counted⟩

end Spends

theorem stale_adoptCursorPosition (process : TtdProcess σ) :
    process.adoptCursorPosition.stale ≤ 1 := by
  have behind := process.cursors.step.staleAt_le (positionOf process.cursors.persistent.cursor)
  simp only [stale, TtdProcess.adoptCursorPosition, withPersistent,
    PositionedCursor.staleAt_notePosition]
  omega

/-- It may leave the step cursor behind, or lose the persistent cursor. -/
theorem stale_watchpointReplay {process after : TtdProcess σ} {limit : TtdPosition}
    {forward : Bool} {fuel : Nat} {outcome : Unwind (Except DebugError StopReason)}
    (ran : process.watchpointReplay limit forward fuel = some (outcome, after)) :
    after.stale ≤ process.cursors.step.staleAt process.position + 1 := by
  obtain ⟨⟨replayed, stopped⟩, ran, finished⟩ := Option.map_eq_some_iff.mp ran
  obtain ⟨⟨result, cursor, hitBpId⟩, -, ended⟩ := Option.map_eq_some_iff.mp ran
  have lost (persistent : PositionedCursor σ) :
      (process.beginContinue.withPersistent persistent).stale ≤
        process.cursors.step.staleAt process.position + 1 := by
    have begun : process.beginContinue.cursors.step = process.cursors.step := by
      simp only [beginContinue, bump, TtdProcess.atPosition, cursors_bumpSeek]
      rfl
    have stays := process.sameDebugState_beginContinue.position
    have behind := persistent.staleAt_le process.position
    rw [stale, withPersistent]
    dsimp only
    rw [begun, stays]
    omega
  cases result with
  | panicked payload =>
      cases ended
      cases finished
      exact lost _
  | returned returned =>
      cases returned with
      | error error =>
          cases ended
          cases finished
          exact lost _
      | ok result =>
          cases ended
          cases finished
          exact (stale_adoptCursorPosition _).trans (by omega)

/-! ### Each operation keeps within its charge -/

section Paid

variable [SeekMeter σ]

theorem Paid.refl (process : TtdProcess σ) : Paid process process 0 :=
  ⟨0, Spends.refl process, by omega⟩

theorem paid_step {process after : TtdProcess σ} {backward : Bool}
    {outcome : Unwind (Except DebugError StopReason)}
    (ran : some (process.stepOnStepCursor backward) = some (outcome, after)) :
    Paid process after 1 := by
  have stepped := stepped_of_eq (Option.some.inj ran)
  have left := stepped.stale_le
  refine ⟨_, stepped.spends, ?_⟩
  simp only [stale] at left ⊢
  omega

theorem paid_execute {process after : TtdProcess σ} {op : ExecOp} {fuel : Nat}
    {outcome : Unwind (Except DebugError StopReason)}
    (ran : process.execute fuel op = some (outcome, after)) :
    Paid process after (Op.exec op fuel).seekCharge := by
  have continues {limit : TtdPosition} {forward : Bool}
      (ran : process.watchpointReplay limit forward fuel = some (outcome, after)) :
      Paid process after 1 := by
    have left := stale_watchpointReplay ran
    refine ⟨_, spends_watchpointReplay ran, ?_⟩
    simp only [stale] at left ⊢
    omega
  cases op with
  | step => exact paid_step ran
  | stepBack => exact paid_step ran
  | stepRange =>
      have persistent := after.cursors.persistent.staleAt_le after.position
      have step := after.cursors.step.staleAt_le after.position
      refine ⟨_, spends_stepRange ran, ?_⟩
      simp only [stale, Op.seekCharge]
      omega
  | continueForward => exact continues ran
  | continueBackward => exact continues ran

theorem spends_adoptCursorPosition (process : TtdProcess σ) :
    Spends process process.adoptCursorPosition 0 :=
  ⟨Nat.le_refl _, Nat.le_refl _⟩

theorem paid_goto (process : TtdProcess σ) (position : TtdPosition) :
    Paid process (process.goto position).2 2 := by
  rw [goto]
  dsimp only
  generalize clampPosition position process.lifetime.1 process.lifetime.2 = target
  have moved : Spends process { process with position := target } 0 :=
    ⟨Nat.le_refl _, Nat.le_refl _⟩
  have positioned := (spends_atPosition { process with position := target } target).mono
    (process.cursors.persistent.staleAt_le target)
  have adopted := stale_adoptCursorPosition
    (({ process with position := target } : TtdProcess σ).atPosition target)
  refine ⟨_, (moved.trans positioned).trans (spends_adoptCursorPosition _), ?_⟩
  omega

theorem seeks_guardedWatchpointCall {op : String}
    {call : ReplayCursor σ → UInt64 → UInt64 → DataAccessMask → UInt32 → Bool × ReplayCursor σ}
    (stays : ∀ cursor addr size access tid,
      (call cursor addr size access tid).2.seeks = cursor.seeks)
    (cursor : ReplayCursor σ) (key : WatchpointKey) :
    (guardedWatchpointCall op call cursor key).2.seeks = cursor.seeks := by
  have stayed := stays cursor key.addr key.size key.access key.tid
  unfold guardedWatchpointCall
  split
  · rfl
  · split
    rename_i accepted moved callEq
    rw [callEq] at stayed
    split <;> exact stayed

/-- Breakpoints are set and removed where the cursor happens to be. -/
theorem paid_breakpointCall (process : TtdProcess σ) (call : BreakpointState.Call) :
    Paid process (process.breakpointCall call).2 0 := by
  have stayed : (process.breakpoints.perform process.cursors.persistent.cursor call).2.2.seeks =
      process.cursors.persistent.cursor.seeks :=
    BreakpointState.perform_undisturbed
      (fun cursor : ReplayCursor σ => cursor.seeks = process.cursors.persistent.cursor.seeks)
      (fun _ _ same =>
        (seeks_guardedWatchpointCall ReplayCursor.seeks_watchpoint _ _).trans same)
      (fun _ _ same =>
        (seeks_guardedWatchpointCall ReplayCursor.seeks_removeWatchpoint _ _).trans same)
      rfl call
  exact ⟨0, ⟨(Nat.add_le_add_right stayed.le _), Nat.le_refl _⟩, (Nat.zero_add _).le⟩

variable [LawfulSdkCursor σ]

/-- A stale cursor is refreshed at a position that the engine can land on. -/
theorem paid_atPosition {process : TtdProcess σ} (settled : process.Settled) :
    Paid process (process.atPosition process.position) 0 := by
  refine ⟨_, spends_atPosition process process.position, ?_⟩
  have fresh := process.cursors.persistent.staleAt_prepare settled
  have after : (process.atPosition process.position).stale =
      (process.cursors.persistent.prepare process.position).2.staleAt process.position +
        process.cursors.step.staleAt process.position := by
    rw [stale, (sameDebugState_atPosition _ _).position]
    simp only [TtdProcess.atPosition, cursors_bumpSeek, withPersistent]
  rw [after, fresh, stale]
  omega

theorem paid_withCursor {α : Type} {process : TtdProcess σ} (settled : process.Settled)
    (ask : ReplayCursor σ → α) : Paid process (process.withCursor ask).2 0 := by
  have counted : (process.bump fun stats =>
      { stats with queries := stats.queries + 1 }).Settled := settled
  obtain ⟨spent, spends, covered⟩ := paid_atPosition counted
  exact ⟨spent, ⟨spends.seeks, spends.counted⟩, covered⟩

theorem paid_ask {process : TtdProcess σ} (settled : process.Settled) (query : Query) :
    Paid process (process.ask query).2 0 := by
  cases query with
  | readMemory addr buf => exact paid_withCursor settled fun cursor => readInto cursor addr buf
  | readMemoryRanges addr buf maxRanges =>
      exact paid_withCursor settled fun cursor => readRangesInto cursor addr buf maxRanges
  | activeThreadIds => exact paid_withCursor settled activeThreadIdsOf
  | threadState threadId =>
      simp only [TtdProcess.ask, TtdProcess.threadState]
      cases process.osTid threadId with
      | none => exact Paid.refl process
      | some tid =>
          dsimp only
          split
          · exact paid_withCursor settled fun cursor => some (threadStateOf cursor tid)
          · exact Paid.refl process
  | threadInfo threadId =>
      simp only [TtdProcess.ask, TtdProcess.threadInfo]
      cases u32TryFrom threadId with
      | none => exact Paid.refl process
      | some osTid => exact paid_withCursor settled fun cursor => threadInfoOf cursor osTid

theorem paid_perform {process after : TtdProcess σ} (settled : process.Settled) {op : Op}
    (performed : process.perform op = some after) : Paid process after op.seekCharge := by
  cases op with
  | exec op fuel =>
      obtain ⟨⟨outcome, next⟩, ran, rfl⟩ := Option.map_eq_some_iff.mp performed
      exact paid_execute ran
  | goto position =>
      cases performed
      exact paid_goto process position
  | setCurrentThread id =>
      cases performed
      exact ⟨0, ⟨Nat.le_refl _, Nat.le_refl _⟩, (Nat.zero_add _).le⟩
  | breakpoint call =>
      cases performed
      exact paid_breakpointCall process call
  | query query =>
      cases performed
      exact paid_ask settled query

end Paid

end TtdProcess

/-! ## Every run -/

/-- In every run of an opened trace whose start the engine can land on, the
seeks that the cursors served, and those that the statistics count, are at most
the first one of each cursor and the charges of the executions and jumps.
Queries and breakpoint calls add nothing, and a range step adds no more than two
however many instructions it steps. -/
theorem seeks_of_run {σ : Type} [SdkCursor σ] [LawfulSdkCursor σ] [SeekMeter σ]
    (metadata : TraceMetadata) (persistent step : σ) (probe : Option σ)
    (start : LawfulSdkCursor.round σ metadata.lifetime.1 = metadata.lifetime.1)
    {ops : List Op} {process : TtdProcess σ}
    (run : Run TtdProcess.perform AnyStep (.openTrace metadata persistent step probe) ops
      process) :
    process.seeks ≤ (TtdProcess.openTrace metadata persistent step probe).seeks + 2 +
        (ops.map Op.seekCharge).sum ∧
      process.stats.cursorSeeks.toNat ≤ 2 + (ops.map Op.seekCharge).sum := by
  have settled : (TtdProcess.openTrace metadata persistent step probe).Settled := start
  have cold : (TtdProcess.openTrace metadata persistent step probe).stale = 2 := rfl
  have seeks := run.amortised TtdProcess.Settled TtdProcess.seeks TtdProcess.stale Op.seekCharge
    (fun settled _ performed => settled.perform performed)
    (fun settled _ performed => by
      obtain ⟨spent, spends, covered⟩ := TtdProcess.paid_perform settled performed
      have served := spends.seeks
      omega) settled
  have counted := run.amortised TtdProcess.Settled
    (fun process => process.stats.cursorSeeks.toNat) TtdProcess.stale Op.seekCharge
    (fun settled _ performed => settled.perform performed)
    (fun settled _ performed => by
      obtain ⟨spent, spends, covered⟩ := TtdProcess.paid_perform settled performed
      have counted := spends.counted
      omega) settled
  have unused : (TtdProcess.openTrace metadata persistent step probe).stats.cursorSeeks.toNat =
    0 := rfl
  rw [cold] at seeks counted
  rw [unused] at counted
  exact ⟨by omega, by omega⟩

/-- Ten reads, a range step of two instructions and ten more reads. -/
def readingOps : List Op :=
  let reads := List.replicate 10 (Op.query (.readMemory 0x1000 [0, 0]))
  reads ++ .exec (.stepRange none 0 0x100 fun _ => 0) 4 :: reads

/-- A trace whose engine completes two single steps. -/
def meteredTrace : TtdProcess (MeteredCursor ScriptedCursor) :=
  let stepped (position : TtdPosition) : Reaction :=
    ⟨[], position, { (default : ReplayOutcome) with stopReason := 5 }⟩
  .openTrace (.new [⟨1, 1⟩] [] ⟨1, 0⟩ ⟨9, 0⟩) ⟨⟨⟨0, 0⟩, []⟩, 0⟩
    ⟨⟨⟨0, 0⟩, [stepped ⟨2, 1⟩, stepped ⟨2, 2⟩]⟩, 0⟩ none

theorem meteredTrace_seeks :
    ∃ process, exec TtdProcess.perform meteredTrace readingOps = some process ∧
      process.seeks ≤ meteredTrace.seeks + 2 + 2 ∧ process.stats.cursorSeeks.toNat ≤ 2 + 2 := by
  obtain ⟨process, executed⟩ := Option.isSome_iff_exists.mp
    (show (exec TtdProcess.perform meteredTrace readingOps).isSome from by decide +kernel)
  exact ⟨process, executed, seeks_of_run _ _ _ _ rfl (run_of_exec executed)⟩

end TtdGdbserver.Target
