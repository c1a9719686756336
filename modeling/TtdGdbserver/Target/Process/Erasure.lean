import TtdGdbserver.Target.Process.Independence
import TtdGdbserver.Target.Process.Serving

/-!
# Queries leave no trace

A query may move the persistent cursor to the debug position and counts itself.
Every operation that depends on that cursor seeks first, so that a run does the
same with its queries erased: steps, continues, jumps and breakpoint calls
respond alike, whatever was asked between them.
-/

namespace TtdGdbserver.Target

open TtdGdbserver.Ttd TtdGdbserver.Transition

/-! ## Physical calls through a projection -/

section Projection

variable {σ τ : Type}

/-- `call'` does after `project` what `call` does before it. -/
def CallsAlike (project : σ → τ) (call : PhysicalCall σ) (call' : PhysicalCall τ) : Prop :=
  ∀ sink key, call' (project sink) key = Prod.map id project (call sink key)

/-- The same sync on the projected sink. -/
def SyncState.project (project : σ → τ) (state : SyncState σ) : SyncState τ :=
  ⟨state.applied, project state.sink, state.report, state.firstAddError⟩

variable {project : σ → τ} {add remove : PhysicalCall σ} {add' remove' : PhysicalCall τ}

theorem removeStale_project (alike : CallsAlike project remove remove') (state : SyncState σ)
    (key : WatchpointKey) :
    removeStale remove' (state.project project) key =
      (removeStale remove state key).project project := by
  simp only [removeStale, SyncState.project, alike state.sink key]
  rcases remove state.sink key with ⟨outcome, sink⟩
  cases outcome <;> rfl

theorem addMissing_project (alike : CallsAlike project add add') (state : SyncState σ)
    (key : WatchpointKey) :
    addMissing add' (state.project project) key =
      (addMissing add state key).project project := by
  simp only [addMissing, SyncState.project, alike state.sink key]
  rcases add state.sink key with ⟨outcome, sink⟩
  cases outcome <;> rfl

theorem WatchpointRegistry.sync_project (adds : CallsAlike project add add')
    (removes : CallsAlike project remove remove') (registry : WatchpointRegistry)
    (desired : WatchpointSet) (sink : σ) :
    registry.sync desired add' remove' (project sink) =
      (registry.sync desired add remove sink).project project := by
  unfold sync
  dsimp only
  rw [← List.foldl_hom (SyncState.project project) (addMissing_project adds),
    ← List.foldl_hom (SyncState.project project) (removeStale_project removes)]
  rfl

end Projection

namespace BreakpointState

variable {C : Type} [WatchpointCursor C] {project : C → C}

theorem sync_project (adds : CallsAlike project addWatchpoint addWatchpoint)
    (removes : CallsAlike project removeWatchpoint removeWatchpoint) (state : BreakpointState)
    (cursor : C) :
    state.sync (project cursor) = Prod.map id (Prod.map id project) (state.sync cursor) := by
  simp only [sync, WatchpointRegistry.sync_project adds removes]
  rfl

theorem register_project (adds : CallsAlike project addWatchpoint addWatchpoint)
    (removes : CallsAlike project removeWatchpoint removeWatchpoint) (state : BreakpointState)
    (addr size : UInt64) (access : DataAccessMask) (kind : BreakpointKind)
    (threadId : Option UInt64) (cursor : C) :
    state.register addr size access kind threadId (project cursor) =
      Prod.map id (Prod.map id project)
        (state.register addr size access kind threadId cursor) := by
  simp only [register, sync_project adds removes]
  rcases sync { state with manager := (state.manager.add addr size access kind threadId).2 }
    cursor with ⟨outcome, synced, moved⟩
  cases outcome with
  | ok => rfl
  | error error => simp only [Prod.map_apply, id, sync_project adds removes]; rfl

theorem syncRemoved_project (adds : CallsAlike project addWatchpoint addWatchpoint)
    (removes : CallsAlike project removeWatchpoint removeWatchpoint) (state : BreakpointState)
    (removal : Bool × BreakpointManager) (cursor : C) :
    state.syncRemoved removal (project cursor) =
      Prod.map id (Prod.map id project) (state.syncRemoved removal cursor) := by
  simp only [syncRemoved, sync_project adds removes]
  split <;> rfl

/-- The breakpoint operations do on a projected cursor what they do before the
projection. -/
theorem perform_project (adds : CallsAlike project addWatchpoint addWatchpoint)
    (removes : CallsAlike project removeWatchpoint removeWatchpoint) (state : BreakpointState)
    (cursor : C) (call : Call) :
    state.perform (project cursor) call =
      Prod.map id (Prod.map id project) (state.perform cursor call) := by
  cases call with
  | setBreakpoint addr threadId =>
      simp only [perform, setBreakpoint, register_project adds removes]
      rfl
  | setDataBreakpoint addr size kind =>
      simp only [perform, setDataBreakpoint, register_project adds removes]
      rfl
  | removeBreakpoint id =>
      simp only [perform, removeBreakpoint, syncRemoved_project adds removes]
      rfl
  | removeBreakpointExact addr size access =>
      simp only [perform, removeBreakpointExact, syncRemoved_project adds removes]
      rfl

end BreakpointState

/-! ## Cursors that a seek makes equal -/

/-- A cursor is its place and its settings: a seek forgets the place, and the
settings are the same wherever they are made. -/
class ForgetfulSdkCursor (σ : Type) [SdkCursor σ] : Prop where
  setPosition_setPosition : ∀ (cursor : σ) (first second : TtdPosition),
    SdkCursor.setPosition (SdkCursor.setPosition cursor first) second =
      SdkCursor.setPosition cursor second
  setPosition_getPosition : ∀ cursor : σ,
    SdkCursor.setPosition cursor (SdkCursor.getPosition cursor) = cursor
  setExceptionMask_setPosition : ∀ (cursor : σ) (position : TtdPosition) (mask : ExceptionMask),
    SdkCursor.setExceptionMask (SdkCursor.setPosition cursor position) mask =
      SdkCursor.setPosition (SdkCursor.setExceptionMask cursor mask) position
  addMemoryWatchpoint_setPosition : ∀ (cursor : σ) (position : TtdPosition)
    (address size : UInt64) (mask : DataAccessMask) (thread : UInt32),
    SdkCursor.addMemoryWatchpoint (SdkCursor.setPosition cursor position) address size mask
        thread =
      Prod.map id (SdkCursor.setPosition · position)
        (SdkCursor.addMemoryWatchpoint cursor address size mask thread)
  removeMemoryWatchpoint_setPosition : ∀ (cursor : σ) (position : TtdPosition)
    (address size : UInt64) (mask : DataAccessMask) (thread : UInt32),
    SdkCursor.removeMemoryWatchpoint (SdkCursor.setPosition cursor position) address size mask
        thread =
      Prod.map id (SdkCursor.setPosition · position)
        (SdkCursor.removeMemoryWatchpoint cursor address size mask thread)

instance : ForgetfulSdkCursor ScriptedCursor where
  setPosition_setPosition _ _ _ := rfl
  setPosition_getPosition _ := rfl
  setExceptionMask_setPosition _ _ _ := rfl
  addMemoryWatchpoint_setPosition _ _ _ _ _ _ := rfl
  removeMemoryWatchpoint_setPosition _ _ _ _ _ _ := rfl

section Seeks

variable {σ : Type} [SdkCursor σ]

/-- Every seek makes the cursors equal. -/
def SeeksAlike (first second : ReplayCursor σ) : Prop :=
  ∀ position, first.setPosition position = second.setPosition position

theorem guardedWatchpointCall_seek {op : String}
    {call : ReplayCursor σ → UInt64 → UInt64 → DataAccessMask → UInt32 → Bool × ReplayCursor σ}
    {position : TtdPosition}
    (commutes : ∀ cursor addr size access tid,
      call (cursor.setPosition position) addr size access tid =
        Prod.map id (·.setPosition position) (call cursor addr size access tid)) :
    CallsAlike (·.setPosition position) (guardedWatchpointCall op call)
      (guardedWatchpointCall op call) := by
  intro cursor key
  simp only [guardedWatchpointCall, commutes]
  rcases call cursor key.addr key.size key.access key.tid with ⟨accepted, moved⟩
  by_cases invalid : (!validWatchpointRange key.addr key.size) = true
  · rw [if_pos invalid, if_pos invalid]
    rfl
  · rw [if_neg invalid, if_neg invalid]
    cases accepted <;> rfl

variable [ForgetfulSdkCursor σ]

theorem addWatchpoint_seek (position : TtdPosition) :
    CallsAlike (·.setPosition position) (addWatchpoint (C := ReplayCursor σ)) addWatchpoint := by
  refine guardedWatchpointCall_seek fun cursor addr size access tid => ?_
  simp only [ReplayCursor.watchpoint, ReplayCursor.setPosition,
    ForgetfulSdkCursor.addMemoryWatchpoint_setPosition]
  rfl

theorem removeWatchpoint_seek (position : TtdPosition) :
    CallsAlike (·.setPosition position) (removeWatchpoint (C := ReplayCursor σ))
      removeWatchpoint := by
  refine guardedWatchpointCall_seek fun cursor addr size access tid => ?_
  simp only [ReplayCursor.removeWatchpoint, ReplayCursor.setPosition,
    ForgetfulSdkCursor.removeMemoryWatchpoint_setPosition]
  rfl

theorem SeeksAlike.setExceptionMask {first second : ReplayCursor σ}
    (alike : SeeksAlike first second) (mask : ExceptionMask) :
    SeeksAlike (first.setExceptionMask mask) (second.setExceptionMask mask) := by
  have commutes (cursor : ReplayCursor σ) (position : TtdPosition) :
      (cursor.setExceptionMask mask).setPosition position =
        (cursor.setPosition position).setExceptionMask mask := by
    rw [ReplayCursor.setPosition, ReplayCursor.setExceptionMask,
      ← ForgetfulSdkCursor.setExceptionMask_setPosition]
    rfl
  intro position
  rw [commutes, commutes, alike position]

/-- Where a breakpoint call finds the cursor is out of its sight. -/
theorem SeeksAlike.perform {first second : ReplayCursor σ} (alike : SeeksAlike first second)
    (state : BreakpointState) (call : BreakpointState.Call) :
    (state.perform first call).1 = (state.perform second call).1 ∧
      (state.perform first call).2.1 = (state.perform second call).2.1 ∧
      SeeksAlike (state.perform first call).2.2 (state.perform second call).2.2 := by
  have same (position : TtdPosition) :
      Prod.map id (Prod.map id (·.setPosition position)) (state.perform first call) =
        Prod.map id (Prod.map id (·.setPosition position)) (state.perform second call) := by
    have projected (cursor : ReplayCursor σ) :=
      BreakpointState.perform_project (addWatchpoint_seek position)
        (removeWatchpoint_seek position) state cursor call
    rw [← projected, ← projected, alike position]
  have anywhere := same ⟨0, 0⟩
  exact ⟨congrArg (·.1) anywhere, congrArg (·.2.1) anywhere,
    fun position => congrArg (·.2.2) (same position)⟩

/-- A cursor whose cache is right is prepared as if it always seeked. -/
theorem PositionedCursor.Coherent.prepare_eq {self : PositionedCursor σ}
    (coherent : self.Coherent) (position : TtdPosition) :
    (self.prepare position).2 =
      ⟨self.cursor.setPosition position, some (self.cursor.setPosition position).position⟩ := by
  unfold PositionedCursor.prepare
  by_cases cached : self.knownAt = some position
  · have there := coherent position cached
    have stays : self.cursor.setPosition position = self.cursor := by
      rw [← there, ReplayCursor.setPosition, ReplayCursor.position,
        ForgetfulSdkCursor.setPosition_getPosition]
    rw [if_pos cached, stays, there, ← cached]
  · rw [if_neg cached]
    rfl

/-- Cursors that a seek makes equal are prepared to be equal. -/
theorem SeeksAlike.prepare {first second : PositionedCursor σ}
    (alike : SeeksAlike first.cursor second.cursor) (left : first.Coherent)
    (right : second.Coherent) (position : TtdPosition) :
    (first.prepare position).2 = (second.prepare position).2 := by
  rw [left.prepare_eq, right.prepare_eq, alike position]

/-- A prepared cursor is as the cursor was, up to seeks. -/
theorem PositionedCursor.Coherent.seeksAlike_prepare {self : PositionedCursor σ}
    (coherent : self.Coherent) (position : TtdPosition) :
    SeeksAlike (self.prepare position).2.cursor self.cursor := by
  intro target
  rw [coherent.prepare_eq]
  exact congrArg ReplayCursor.mk (ForgetfulSdkCursor.setPosition_setPosition _ _ _)

end Seeks

/-! ## Processes that differ in their queries -/

namespace TtdProcess

variable {σ : Type} [SdkCursor σ]

/-- The processes differ in their counters at most. -/
structure SameButStats (first second : TtdProcess σ) : Prop where
  debugState : SameDebugState first second
  cursors : first.cursors = second.cursors

/-- The processes differ in their counters, and in where the persistent cursor
is, at most. -/
structure UpToQueries (first second : TtdProcess σ) : Prop where
  debugState : SameDebugState first second
  step : first.cursors.step = second.cursors.step
  persistent : SeeksAlike first.cursors.persistent.cursor second.cursors.persistent.cursor
  first : first.Coherent
  second : second.Coherent

omit [SdkCursor σ] in
theorem SameDebugState.refl (process : TtdProcess σ) : SameDebugState process process :=
  ⟨rfl, rfl, rfl, rfl, rfl, rfl⟩

omit [SdkCursor σ] in
theorem SameDebugState.symm {first second : TtdProcess σ} (same : SameDebugState first second) :
    SameDebugState second first :=
  ⟨same.position.symm, same.lifetime.symm, same.endsWithProcessExit.symm,
    same.currentThreadId.symm, same.metadata.symm, same.breakpoints.symm⟩

theorem UpToQueries.refl {process : TtdProcess σ} (coherent : process.Coherent) :
    UpToQueries process process :=
  ⟨SameDebugState.refl process, rfl, fun _ => rfl, coherent, coherent⟩

theorem UpToQueries.symm {first second : TtdProcess σ} (same : UpToQueries first second) :
    UpToQueries second first :=
  ⟨same.debugState.symm, same.step.symm, fun position => (same.persistent position).symm,
    same.second, same.first⟩

theorem UpToQueries.trans {first second third : TtdProcess σ} (left : UpToQueries first second)
    (right : UpToQueries second third) : UpToQueries first third :=
  ⟨left.debugState.trans right.debugState, left.step.trans right.step,
    fun position => (left.persistent position).trans (right.persistent position), left.first,
    right.second⟩

theorem UpToQueries.stepsAlike {first second : TtdProcess σ} (same : UpToQueries first second) :
    StepsAlike first second :=
  ⟨same.step, same.debugState.position, same.debugState.lifetime,
    same.debugState.endsWithProcessExit, same.debugState.currentThreadId,
    same.debugState.metadata⟩

theorem SameButStats.upToQueries {first second : TtdProcess σ} (same : SameButStats first second)
    (left : first.Coherent) (right : second.Coherent) : UpToQueries first second :=
  ⟨same.debugState, congrArg CursorPair.step same.cursors,
    fun _ => by rw [same.cursors], left, right⟩

/-! ### The tail of a continue and of a jump -/

theorem SameButStats.adoptCursorPosition {first second : TtdProcess σ}
    (same : SameButStats first second) :
    SameButStats first.adoptCursorPosition second.adoptCursorPosition := by
  constructor
  · refine ⟨?_, same.debugState.lifetime, same.debugState.endsWithProcessExit, ?_,
      same.debugState.metadata, same.debugState.breakpoints⟩
    · simp only [TtdProcess.adoptCursorPosition, same.cursors]
    · simp only [TtdProcess.adoptCursorPosition, same.cursors]
  · simp only [TtdProcess.adoptCursorPosition, withPersistent, same.cursors]

omit [SdkCursor σ] in
theorem SameButStats.endContinue {τ : Type} {first second : TtdProcess σ}
    (same : SameButStats first second)
    (replayed : Unwind (Except TtdError TtdReplayResult) × ReplayCursor σ × τ) :
    SameResult SameButStats (first.endContinue replayed) (second.endContinue replayed) := by
  have kept := (sameDebugState_endContinue first replayed).trans
    (same.debugState.trans (sameDebugState_endContinue second replayed).symm)
  rcases replayed with ⟨outcome, cursor, state⟩
  cases outcome with
  | panicked payload =>
      exact ⟨rfl, kept, by simp only [TtdProcess.endContinue, withPersistent, same.cursors]⟩
  | returned result =>
      cases result <;>
        exact ⟨rfl, kept, by simp only [TtdProcess.endContinue, withPersistent, same.cursors]⟩

omit [SdkCursor σ] in
theorem SameDebugState.resolveContinueStop {first second : TtdProcess σ}
    (same : SameDebugState first second) (result : TtdReplayResult) (hitBpId : UInt64)
    (forward : Bool) :
    first.resolveContinueStop result hitBpId forward =
      second.resolveContinueStop result hitBpId forward := by
  have enriched : first.enrichException = second.enrichException := by
    funext reason
    simp only [enrichException, same.position, same.metadata]
  simp only [TtdProcess.resolveContinueStop, same.position, same.lifetime,
    same.endsWithProcessExit, same.breakpoints, enriched]

/-! ### Steps stay off the persistent cursor -/

theorem Stepped.persistent {process after : TtdProcess σ} {backward : Bool}
    {outcome : Unwind (Except DebugError StopReason)}
    (stepped : Stepped process backward outcome after) :
    after.cursors.persistent = process.cursors.persistent := by
  cases stepped with
  | failed => rw [cursors_failStep]
  | landed => rw [cursors_landStep]

theorem persistent_stepRange {process after : TtdProcess σ} {threadId : Option UInt64}
    {start finish : UInt64} {epoch : Nat → UInt64} {fuel : Nat}
    {outcome : Unwind (Except DebugError StopReason)}
    (ran : process.stepRange threadId start finish epoch fuel = some (outcome, after)) :
    after.cursors.persistent = process.cursors.persistent := by
  have stepped {state next : TtdProcess σ} {result : Unwind (Except DebugError StopReason)}
      (stepEq : state.step = (result, next)) :
      next.cursors.persistent = state.cursors.persistent :=
    (stepped_of_eq stepEq).persistent
  unfold stepRange at ran
  split at ran
  case isTrue => exact stepped (Option.some.inj ran)
  case isFalse =>
    exact rangeLoop_spec
      (fun state : TtdProcess σ => state.cursors.persistent = process.cursors.persistent)
      (fun _ state => state.cursors.persistent = process.cursors.persistent)
      (fun _ _ kept stepEq => (stepped stepEq).trans kept) (fun _ kept => kept)
      (fun _ _ _ kept stepEq _ => (stepped stepEq).trans kept) (fun _ _ kept _ => kept) ran rfl

theorem persistent_execute {process after : TtdProcess σ} {op : ExecOp} {fuel : Nat}
    {outcome : Unwind (Except DebugError StopReason)} (steps : op.isStep = true)
    (ran : process.execute fuel op = some (outcome, after)) :
    after.cursors.persistent = process.cursors.persistent := by
  cases op with
  | step => exact (stepped_of_eq (Option.some.inj ran)).persistent
  | stepBack => exact (stepped_of_eq (Option.some.inj ran)).persistent
  | stepRange => exact persistent_stepRange ran
  | continueForward => contradiction
  | continueBackward => contradiction

/-! ### Operations respond alike -/

variable [ForgetfulSdkCursor σ]

/-- Positioning the persistent cursor ends the difference. -/
theorem UpToQueries.atPosition {first second : TtdProcess σ} (same : UpToQueries first second)
    (position : TtdPosition) :
    SameButStats (first.atPosition position) (second.atPosition position) := by
  constructor
  · exact (sameDebugState_atPosition first position).trans
      (same.debugState.trans (sameDebugState_atPosition second position).symm)
  · simp only [TtdProcess.atPosition, cursors_bumpSeek, withPersistent,
      same.persistent.prepare same.first.persistent same.second.persistent, same.step]

variable [LawfulSdkCursor σ]

theorem UpToQueries.beginContinue {first second : TtdProcess σ}
    (same : UpToQueries first second) :
    SameButStats first.beginContinue second.beginContinue := by
  have masked (process : TtdProcess σ) (coherent : process.Coherent) :
      (process.withPersistent (process.cursors.persistent.withCursor
        (process.cursors.persistent.cursor.setExceptionMask exceptionMask))).Coherent :=
    coherent.withPersistent
      (coherent.persistent.withCursor (ReplayCursor.position_setExceptionMask _ _))
  have alike : UpToQueries
      (first.withPersistent (first.cursors.persistent.withCursor
        (first.cursors.persistent.cursor.setExceptionMask exceptionMask)))
      (second.withPersistent (second.cursors.persistent.withCursor
        (second.cursors.persistent.cursor.setExceptionMask exceptionMask))) :=
    ⟨((sameDebugState_withPersistent _ _).trans same.debugState).trans
        (sameDebugState_withPersistent _ _).symm,
      same.step, same.persistent.setExceptionMask exceptionMask, masked first same.first,
      masked second same.second⟩
  constructor
  · exact ((sameDebugState_beginContinue first).trans same.debugState).trans
      (sameDebugState_beginContinue second).symm
  · have positioned := (alike.atPosition first.position).cursors
    exact positioned.trans (congrArg (fun target => ((second.withPersistent
      (second.cursors.persistent.withCursor
        (second.cursors.persistent.cursor.setExceptionMask exceptionMask))).atPosition
          target).cursors) same.debugState.position)

/-- A continue runs on a cursor it has positioned, so it goes alike. -/
theorem UpToQueries.watchpointReplay {first second : TtdProcess σ}
    (same : UpToQueries first second) (limit : TtdPosition) (forward : Bool) (fuel : Nat) :
    Option.Rel (SameResult SameButStats) (first.watchpointReplay limit forward fuel)
      (second.watchpointReplay limit forward fuel) := by
  have begun := same.beginContinue
  simp only [TtdProcess.watchpointReplay, replayWatchpointFiltered, replayWatchpointFilteredWith,
    same.debugState.breakpoints, begun.debugState.metadata, begun.cursors]
  cases replayPastTransparentExceptions second.beginContinue.metadata limit forward
      (matchHit second.breakpoints) fuel none
      (second.beginContinue.cursors.persistent.cursor.setEventMask
        (.memoryWatchpoint ||| .exception)) 0 with
  | none => exact .none
  | some replayed =>
      obtain ⟨sameOutcome, ended⟩ := begun.endContinue replayed
      simp only [Option.map_some]
      rcases leftEq : first.beginContinue.endContinue replayed with ⟨outcome, left⟩
      rcases rightEq : second.beginContinue.endContinue replayed with ⟨outcome', right⟩
      rw [leftEq, rightEq] at sameOutcome ended
      obtain rfl : outcome = outcome' := sameOutcome
      cases outcome with
      | panicked payload => exact .some ⟨rfl, ended⟩
      | returned returned =>
          cases returned with
          | error error => exact .some ⟨rfl, ended⟩
          | ok result =>
              have adopted := ended.adoptCursorPosition
              exact .some ⟨congrArg Unwind.returned
                (adopted.debugState.resolveContinueStop result.1 result.2 forward), adopted⟩

omit [LawfulSdkCursor σ] in
/-- A jump lands on a cursor it has positioned, so it goes alike. -/
theorem UpToQueries.goto {first second : TtdProcess σ} (same : UpToQueries first second)
    (position : TtdPosition) :
    SameButStats (first.goto position).2 (second.goto position).2 := by
  have target : clampPosition position first.lifetime.1 first.lifetime.2 =
      clampPosition position second.lifetime.1 second.lifetime.2 := by
    rw [same.debugState.lifetime]
  have moved (target : TtdPosition) :
      UpToQueries { first with position := target } { second with position := target } :=
    ⟨⟨rfl, same.debugState.lifetime, same.debugState.endsWithProcessExit,
        same.debugState.currentThreadId, same.debugState.metadata, same.debugState.breakpoints⟩,
      same.step, same.persistent, ⟨same.first.persistent, same.first.step⟩,
      ⟨same.second.persistent, same.second.step⟩⟩
  simp only [TtdProcess.goto, target]
  exact ((moved _).atPosition _).adoptCursorPosition

theorem UpToQueries.breakpointCall {first second : TtdProcess σ}
    (same : UpToQueries first second) (call : BreakpointState.Call) :
    SameResult UpToQueries (first.breakpointCall call) (second.breakpointCall call) := by
  have performed := same.persistent.perform second.breakpoints call
  have left := same.first.breakpointCall call
  have right := same.second.breakpointCall call
  simp only [TtdProcess.breakpointCall, same.debugState.breakpoints] at left ⊢
  exact ⟨performed.1, ⟨same.debugState.position, same.debugState.lifetime,
      same.debugState.endsWithProcessExit, same.debugState.currentThreadId,
      same.debugState.metadata, performed.2.1⟩,
    same.step, performed.2.2, left, right⟩

omit [LawfulSdkCursor σ] in
/-- A query through the persistent cursor seeks it and counts itself. -/
theorem Coherent.seeksAlike_withCursor {α : Type} {process : TtdProcess σ}
    (coherent : process.Coherent) (ask : ReplayCursor σ → α) :
    SeeksAlike (process.withCursor ask).2.cursors.persistent.cursor
      process.cursors.persistent.cursor := by
  simp only [TtdProcess.withCursor, TtdProcess.atPosition, cursors_bumpSeek]
  exact coherent.persistent.seeksAlike_prepare process.position

omit [LawfulSdkCursor σ] in
theorem Coherent.seeksAlike_ask {process : TtdProcess σ} (coherent : process.Coherent)
    (query : Query) :
    SeeksAlike (process.ask query).2.cursors.persistent.cursor
      process.cursors.persistent.cursor := by
  cases query with
  | readMemory addr buf =>
      exact coherent.seeksAlike_withCursor fun cursor => readInto cursor addr buf
  | readMemoryRanges addr buf maxRanges =>
      exact coherent.seeksAlike_withCursor fun cursor => readRangesInto cursor addr buf maxRanges
  | activeThreadIds => exact coherent.seeksAlike_withCursor activeThreadIdsOf
  | threadState threadId =>
      simp only [TtdProcess.ask, TtdProcess.threadState]
      cases process.osTid threadId with
      | none => exact fun _ => rfl
      | some tid =>
          dsimp only
          split
          · exact coherent.seeksAlike_withCursor fun cursor => some (threadStateOf cursor tid)
          · exact fun _ => rfl
  | threadInfo threadId =>
      simp only [TtdProcess.ask, TtdProcess.threadInfo]
      cases u32TryFrom threadId with
      | none => exact fun _ => rfl
      | some osTid => exact coherent.seeksAlike_withCursor fun cursor => threadInfoOf cursor osTid

/-- A query repositions the persistent cursor and changes nothing else. -/
theorem Coherent.upToQueries_ask {process : TtdProcess σ} (coherent : process.Coherent)
    (query : Query) : UpToQueries (process.ask query).2 process := by
  have alike := stepsAlike_ask process query
  exact ⟨⟨alike.position, alike.lifetime, alike.endsWithProcessExit, alike.currentThreadId,
      alike.metadata, (frame_ask process query).breakpoints⟩,
    alike.step, coherent.seeksAlike_ask query,
    (coherent.ask query process.cursors.persistent.cursor).1, coherent⟩

omit [LawfulSdkCursor σ] [ForgetfulSdkCursor σ] in
/-- Steps leave the persistent cursor and the breakpoints alone. -/
theorem UpToQueries.steps {first second : TtdProcess σ} (same : UpToQueries first second)
    {op : ExecOp} (steps : op.isStep = true) {fuel : Nat}
    (alike : Option.Rel (SameResult StepsAlike) (first.execute fuel op)
      (second.execute fuel op)) :
    Option.Rel (SameResult UpToQueries) (first.execute fuel op) (second.execute fuel op) := by
  refine SameResult.strengthen_rel alike ?_
  intro outcome left right leftEq rightEq ended
  have breakpoints := (frame_execute leftEq).breakpoints.trans
    (same.debugState.breakpoints.trans (frame_execute rightEq).breakpoints.symm)
  have persistent : SeeksAlike left.cursors.persistent.cursor
      right.cursors.persistent.cursor := by
    rw [persistent_execute steps leftEq, persistent_execute steps rightEq]
    exact same.persistent
  exact ⟨⟨ended.position, ended.lifetime, ended.endsWithProcessExit, ended.currentThreadId,
      ended.metadata, breakpoints⟩,
    ended.step, persistent, same.first.execute leftEq, same.second.execute rightEq⟩

/-- Up to queries, execution goes alike. -/
theorem UpToQueries.execute {first second : TtdProcess σ} (same : UpToQueries first second)
    (fuel : Nat) (op : ExecOp) :
    Option.Rel (SameResult UpToQueries) (first.execute fuel op) (second.execute fuel op) := by
  have continues {op : ExecOp} (alike : Option.Rel (SameResult SameButStats)
      (first.execute fuel op) (second.execute fuel op)) :
      Option.Rel (SameResult UpToQueries) (first.execute fuel op) (second.execute fuel op) :=
    SameResult.strengthen_rel alike fun _ _ _ left right ended =>
      ended.upToQueries (same.first.execute left) (same.second.execute right)
  cases op with
  | step => exact same.steps rfl (.some (same.stepsAlike.stepOnStepCursor false))
  | stepBack => exact same.steps rfl (.some (same.stepsAlike.stepOnStepCursor true))
  | stepRange threadId start finish epoch =>
      exact same.steps rfl (same.stepsAlike.stepRange threadId start finish epoch fuel)
  | continueForward =>
      apply continues
      simp only [TtdProcess.execute, TtdProcess.continueForward, same.debugState.lifetime]
      exact same.watchpointReplay _ true fuel
  | continueBackward =>
      apply continues
      simp only [TtdProcess.execute, TtdProcess.continueBackward, same.debugState.lifetime]
      exact same.watchpointReplay _ false fuel

/-- Up to queries, every operation responds alike. -/
theorem UpToQueries.respond {first second : TtdProcess σ} (same : UpToQueries first second)
    (op : Op) :
    Option.Rel (SameResult UpToQueries) (first.respond op) (second.respond op) := by
  cases op with
  | exec op fuel => exact SameResult.map_rel Response.executed (same.execute fuel op)
  | goto position =>
      exact .some ⟨congrArg Response.moved
          ((first.goto_reached position).trans (second.goto_reached position).symm),
        (same.goto position).upToQueries (same.first.goto position)
          (same.second.goto position)⟩
  | setCurrentThread id =>
      exact .some ⟨rfl, ⟨same.debugState.position, same.debugState.lifetime,
          same.debugState.endsWithProcessExit, rfl, same.debugState.metadata,
          same.debugState.breakpoints⟩,
        same.step, same.persistent, ⟨same.first.persistent, same.first.step⟩,
        ⟨same.second.persistent, same.second.step⟩⟩
  | breakpoint call =>
      obtain ⟨sameReply, after⟩ := same.breakpointCall call
      exact .some ⟨congrArg Response.called sameReply, after⟩
  | query query =>
      have fresh := first.cursors.step.cursor
      have sameAnswer : (first.ask query).1 = (second.ask query).1 := by
        rw [(same.first.ask query fresh).2, (same.second.ask query fresh).2,
          same.debugState.position, same.stepsAlike.answerOn]
      exact .some ⟨congrArg Response.answered sameAnswer,
        ((same.first.upToQueries_ask query).trans same).trans
          (same.second.upToQueries_ask query).symm⟩

end TtdProcess

/-! ## Runs with and without their queries -/

/-- An operation that only asks. -/
def Op.isQuery : Op → Bool
  | .query _ => true
  | _ => false

namespace TtdProcess

variable {σ : Type} [SdkCursor σ]

/-- What a run of operations observes apart from its queries. -/
def effects (process : TtdProcess σ) : List Op → Option (List Observation × TtdProcess σ)
  | [] => some ([], process)
  | op :: ops => do
      let (response, next) ← process.respond op
      let (later, last) ← effects next ops
      some (if op.isQuery then later
        else ⟨response, next.position, next.currentThreadId⟩ :: later, last)

theorem effects_query (process : TtdProcess σ) (query : Query) (ops : List Op) :
    process.effects (.query query :: ops) = (process.ask query).2.effects ops := by
  rw [effects]
  simp [respond, Op.isQuery]

theorem effects_other (process : TtdProcess σ) {op : Op} (other : op.isQuery = false)
    (ops : List Op) :
    process.effects (op :: ops) = (process.respond op).bind fun responded =>
      (responded.2.effects ops).map
        (Prod.map (observation responded.1 responded.2 :: ·) id) := by
  rw [effects]
  simp only [other, Bool.false_eq_true, if_false, Option.bind_eq_bind, Option.map_eq_bind]
  rfl

theorem UpToQueries.observation_eq {result result' : Response × TtdProcess σ}
    (responded : SameResult UpToQueries result result') :
    observation result.1 result.2 = observation result'.1 result'.2 := by
  rw [observation, observation, responded.1, responded.2.debugState.position,
    responded.2.debugState.currentThreadId]

variable [LawfulSdkCursor σ] [ForgetfulSdkCursor σ]

/-- What differs in its queries answers them alike. -/
theorem UpToQueries.answers {first second : TtdProcess σ} (same : UpToQueries first second)
    (query : Query) : (first.ask query).1 = (second.ask query).1 := by
  have answered := same.respond (.query query)
  exact Response.answered.inj (Option.rel_some_some.mp answered).1

/-- A run has the effects of the run without its queries. -/
theorem UpToQueries.effects {first second : TtdProcess σ} (same : UpToQueries first second)
    (ops : List Op) :
    Option.Rel (SameResult UpToQueries) (first.effects ops)
      (second.effects (ops.filter fun op => !op.isQuery)) := by
  induction ops generalizing first second with
  | nil => exact .some ⟨rfl, same⟩
  | cons op ops ih =>
      by_cases asks : op.isQuery = true
      · cases op with
        | query query =>
            rw [effects_query, List.filter_cons_of_neg (by simp [Op.isQuery])]
            exact ih ((same.first.upToQueries_ask query).trans same)
        | _ => contradiction
      · have other : op.isQuery = false := Bool.not_eq_true _ ▸ asks
        rw [List.filter_cons_of_pos (by simp [other]), effects_other first other,
          effects_other second other]
        refine SameResult.bind_rel (same.respond op) ?_
        intro result result' responded
        rw [observation_eq responded]
        exact SameResult.map_rel _ (ih responded.2)

end TtdProcess

/-- Two runs of an opened trace that are the same apart from their queries do
the same: every step, continue, jump and breakpoint call responds alike and
leaves the same position and thread, and in the end the breakpoints and the
answers to all queries are the same. -/
theorem effects_without_queries {σ : Type} [SdkCursor σ] [LawfulSdkCursor σ]
    [ForgetfulSdkCursor σ] (metadata : TraceMetadata) (persistent step : σ) (probe : Option σ)
    {first second : List Op}
    (same : (first.filter fun op => !op.isQuery) = second.filter fun op => !op.isQuery) :
    let opened := TtdProcess.openTrace metadata persistent step probe
    Option.Rel (fun left right => left.1 = right.1 ∧
        TtdProcess.SameDebugState left.2 right.2 ∧
        ∀ query, (left.2.ask query).1 = (right.2.ask query).1)
      (opened.effects first) (opened.effects second) := by
  intro opened
  have start : TtdProcess.UpToQueries opened opened :=
    TtdProcess.UpToQueries.refl (TtdProcess.coherent_openTrace metadata persistent step probe)
  have left := start.effects first
  have right := start.effects second
  rw [← same] at right
  apply SameResult.join_rel left right
  intro left right bare ended ended'
  have both := ended.2.trans ended'.2.symm
  exact ⟨ended.1.trans ended'.1.symm, both.debugState, both.answers⟩

/-- Reads and thread queries around a breakpoint, a continue and a step. -/
def questionedOps : List Op :=
  [.query (.readMemory 0x1000 [0, 0]), .breakpoint (.setBreakpoint 0x1000 none),
    .exec .continueForward 1, .query (.threadState none), .query .activeThreadIds,
    .exec .step 1, .query (.readMemory 0x1000 [0])]

theorem questioned_effects :
    let opened := disturbedTrace
    (opened.effects questionedOps).isSome ∧ Option.Rel (fun left right => left.1 = right.1 ∧
        TtdProcess.SameDebugState left.2 right.2 ∧
        ∀ query, (left.2.ask query).1 = (right.2.ask query).1)
      (opened.effects questionedOps)
      (opened.effects [.breakpoint (.setBreakpoint 0x1000 none), .exec .continueForward 1,
        .exec .step 1]) :=
  ⟨by decide +kernel, effects_without_queries _ _ _ _ rfl⟩

end TtdGdbserver.Target
