import TtdGdbserver.Target.Process.Operations
import TtdGdbserver.Ttd.Scripted

/-!
# Cursor caches never lie

Between operations a cached position is where its cursor really is.  Queries
therefore answer as a fresh cursor would that was seeked to the debug position,
and the step cursor starts from there.
-/

namespace TtdGdbserver.Target

open TtdGdbserver.Ttd TtdGdbserver.Transition

namespace PositionedCursor

variable {σ : Type} [SdkCursor σ]

/-- A cached position is the cursor's position. -/
def Coherent (self : PositionedCursor σ) : Prop :=
  ∀ position, self.knownAt = some position → self.cursor.position = position

@[simp]
theorem coherent_new (cursor : ReplayCursor σ) : (new cursor).Coherent := by
  simp [Coherent, new]

@[simp]
theorem coherent_invalidate (self : PositionedCursor σ) : self.invalidate.Coherent := by
  simp [Coherent, invalidate]

/-- Noting the cursor's own position is right whatever was cached before. -/
theorem coherent_notePosition (self : PositionedCursor σ) {position : TtdPosition}
    (landed : positionOf self.cursor = position) : (self.notePosition position).Coherent := by
  intro noted cached
  exact landed.trans (Option.some.inj cached)

/-- A cursor that turned into one at the same place keeps its cache. -/
theorem Coherent.withCursor {self : PositionedCursor σ} (coherent : self.Coherent)
    {cursor : ReplayCursor σ} (stayed : cursor.position = self.cursor.position) :
    (self.withCursor cursor).Coherent :=
  fun position cached => stayed.trans (coherent position cached)

variable [LawfulSdkCursor σ]

/-- After `prepare` the cursor is at the rounded request, and the cache knows. -/
theorem Coherent.prepare {self : PositionedCursor σ} (coherent : self.Coherent)
    (position : TtdPosition) :
    (self.prepare position).2.Coherent ∧
      (self.prepare position).2.cursor.position = LawfulSdkCursor.round σ position := by
  unfold PositionedCursor.prepare
  by_cases cached : self.knownAt = some position
  · rw [if_pos cached]
    refine ⟨coherent, ?_⟩
    rw [← coherent position cached, ReplayCursor.round_position]
  · rw [if_neg cached]
    refine ⟨?_, ReplayCursor.position_setPosition _ _⟩
    intro noted known
    exact Option.some.inj known

end PositionedCursor

/-! ## The answer to a query on a given cursor -/

/-- What `cursor` answers to a query that `process` receives. -/
def Query.answerOn {σ : Type} [SdkCursor σ] (process : TtdProcess σ) (cursor : ReplayCursor σ) :
    Query → Answer
  | .readMemory addr buf => .memory (TtdProcess.readInto cursor addr buf)
  | .readMemoryRanges addr buf maxRanges =>
      .ranges (TtdProcess.readRangesInto cursor addr buf maxRanges)
  | .activeThreadIds => .threads (TtdProcess.activeThreadIdsOf cursor)
  | .threadState threadId =>
      .state (((process.osTid threadId).filter process.metadata.threads.containsOsTid).map
        (TtdProcess.threadStateOf cursor))
  | .threadInfo threadId =>
      .info ((u32TryFrom threadId).bind (TtdProcess.threadInfoOf cursor))

/-- An answer is read off the view alone. -/
theorem Query.answerOn_congr {σ : Type} [SdkCursor σ] (process : TtdProcess σ)
    {first second : ReplayCursor σ} (same : first.view = second.view) (query : Query) :
    query.answerOn process first = query.answerOn process second := by
  cases query with
  | readMemory =>
      simp only [answerOn, TtdProcess.readInto, ReplayCursor.readMemory, same]
  | readMemoryRanges =>
      simp only [answerOn, TtdProcess.readRangesInto, ReplayCursor.readMemoryRanges, same]
  | activeThreadIds =>
      simp only [answerOn, TtdProcess.activeThreadIdsOf, ReplayCursor.activeThread_congr same,
        ReplayCursor.activeThreadCount, same]
  | threadState threadId =>
      have states : TtdProcess.threadStateOf first = TtdProcess.threadStateOf second := by
        funext tid
        simp only [TtdProcess.threadStateOf, ReplayCursor.amd64Context,
          ReplayCursor.tebAddressOf, same]
      simp only [answerOn, states]
  | threadInfo threadId =>
      have infos : TtdProcess.threadInfoOf first = TtdProcess.threadInfoOf second := by
        funext osTid
        simp only [TtdProcess.threadInfoOf, ReplayCursor.activeThread_congr same,
          ReplayCursor.activeThreadCount, ReplayCursor.tebAddressOf, same]
      simp only [answerOn, infos]

/-! ## Operations keep the caches right -/

namespace TtdProcess

variable {σ : Type} [SdkCursor σ]

/-- Both cursors are where their caches say. -/
structure Coherent (process : TtdProcess σ) : Prop where
  persistent : process.cursors.persistent.Coherent
  step : process.cursors.step.Coherent

theorem coherent_openTrace (metadata : TraceMetadata) (persistent step : σ) (probe : Option σ) :
    (openTrace metadata persistent step probe).Coherent :=
  ⟨PositionedCursor.coherent_new _, PositionedCursor.coherent_new _⟩

theorem Coherent.withPersistent {process : TtdProcess σ} (coherent : process.Coherent)
    {persistent : PositionedCursor σ} (right : persistent.Coherent) :
    (process.withPersistent persistent).Coherent :=
  ⟨right, coherent.step⟩

theorem Coherent.withStep {process : TtdProcess σ} (coherent : process.Coherent)
    {step : PositionedCursor σ} (right : step.Coherent) : (process.withStep step).Coherent :=
  ⟨coherent.persistent, right⟩

omit [SdkCursor σ] in
@[simp]
theorem cursors_bumpSeek (process : TtdProcess σ) (seeked : Bool) :
    (process.bumpSeek seeked).cursors = process.cursors := by
  cases seeked <;> rfl

theorem Coherent.bumpSeek {process : TtdProcess σ} (coherent : process.Coherent)
    (seeked : Bool) : (process.bumpSeek seeked).Coherent := by
  cases seeked <;> exact ⟨coherent.persistent, coherent.step⟩

/-- Adopting the cursor's position makes its cache right. -/
theorem coherent_adoptCursorPosition {process : TtdProcess σ}
    (step : process.cursors.step.Coherent) : process.adoptCursorPosition.Coherent :=
  ⟨PositionedCursor.coherent_notePosition _ rfl, step⟩

variable [LawfulSdkCursor σ]

/-- The persistent cursor is at the rounded request. -/
theorem Coherent.atPosition {process : TtdProcess σ} (coherent : process.Coherent)
    (position : TtdPosition) :
    (process.atPosition position).Coherent ∧
      (process.atPosition position).cursors.persistent.cursor.position =
        LawfulSdkCursor.round σ position := by
  obtain ⟨right, landed⟩ := coherent.persistent.prepare position
  refine ⟨(coherent.withPersistent right).bumpSeek _, ?_⟩
  simp only [TtdProcess.atPosition, cursors_bumpSeek]
  exact landed

/-- A query through `withCursor` is asked of a cursor at the debug position. -/
theorem Coherent.withCursor {α : Type} {process : TtdProcess σ} (coherent : process.Coherent)
    (ask : ReplayCursor σ → α) :
    (process.withCursor ask).2.Coherent ∧
      ∃ cursor : ReplayCursor σ, cursor.position = LawfulSdkCursor.round σ process.position ∧
        (process.withCursor ask).1 = ask cursor := by
  have counted : (process.bump fun stats =>
      { stats with queries := stats.queries + 1 }).Coherent :=
    ⟨coherent.persistent, coherent.step⟩
  obtain ⟨right, landed⟩ := counted.atPosition process.position
  exact ⟨right, _, landed, rfl⟩

/-- A query keeps the caches right and answers as a fresh cursor seeked to the
debug position. -/
theorem Coherent.ask {process : TtdProcess σ} (coherent : process.Coherent) (query : Query)
    (fresh : ReplayCursor σ) :
    (process.ask query).2.Coherent ∧
      (process.ask query).1 = query.answerOn process (fresh.setPosition process.position) := by
  have asked : (process.ask query).2.Coherent ∧
      ∃ cursor : ReplayCursor σ, cursor.position = LawfulSdkCursor.round σ process.position ∧
        (process.ask query).1 = query.answerOn process cursor := by
    cases query with
    | readMemory addr buf =>
        obtain ⟨right, cursor, landed, answer⟩ :=
          coherent.withCursor fun cursor => readInto cursor addr buf
        exact ⟨right, cursor, landed, congrArg Answer.memory answer⟩
    | readMemoryRanges addr buf maxRanges =>
        obtain ⟨right, cursor, landed, answer⟩ :=
          coherent.withCursor fun cursor => readRangesInto cursor addr buf maxRanges
        exact ⟨right, cursor, landed, congrArg Answer.ranges answer⟩
    | activeThreadIds =>
        obtain ⟨right, cursor, landed, answer⟩ := coherent.withCursor activeThreadIdsOf
        exact ⟨right, cursor, landed, congrArg Answer.threads answer⟩
    | threadState threadId =>
        have aside : ∃ cursor : ReplayCursor σ,
            cursor.position = LawfulSdkCursor.round σ process.position :=
          ⟨fresh.setPosition process.position, ReplayCursor.position_setPosition _ _⟩
        simp only [TtdProcess.ask, TtdProcess.threadState, Query.answerOn]
        cases process.osTid threadId with
        | none =>
            obtain ⟨cursor, landed⟩ := aside
            exact ⟨coherent, cursor, landed, rfl⟩
        | some tid =>
            by_cases known : process.metadata.threads.containsOsTid tid
            · obtain ⟨right, cursor, landed, answer⟩ :=
                coherent.withCursor fun cursor => some (threadStateOf cursor tid)
              simp only [known, if_true, Option.filter_some]
              exact ⟨right, cursor, landed, congrArg Answer.state answer⟩
            · obtain ⟨cursor, landed⟩ := aside
              simp only [known, Option.filter_some]
              exact ⟨coherent, cursor, landed, rfl⟩
    | threadInfo threadId =>
        simp only [TtdProcess.ask, TtdProcess.threadInfo, Query.answerOn]
        cases u32TryFrom threadId with
        | none =>
            exact ⟨coherent, fresh.setPosition process.position,
              ReplayCursor.position_setPosition _ _, rfl⟩
        | some osTid =>
            obtain ⟨right, cursor, landed, answer⟩ :=
              coherent.withCursor fun cursor => threadInfoOf cursor osTid
            exact ⟨right, cursor, landed, congrArg Answer.info answer⟩
  obtain ⟨right, cursor, landed, answer⟩ := asked
  refine ⟨right, answer.trans (query.answerOn_congr process (ReplayCursor.view_congr ?_))⟩
  rw [landed, ReplayCursor.position_setPosition]

theorem Coherent.goto {process : TtdProcess σ} (coherent : process.Coherent)
    (position : TtdPosition) : (process.goto position).2.Coherent := by
  have moved : ({ process with
      position := clampPosition position process.lifetime.1 process.lifetime.2 } :
        TtdProcess σ).Coherent :=
    ⟨coherent.persistent, coherent.step⟩
  exact coherent_adoptCursorPosition (moved.atPosition _).1.step

omit [LawfulSdkCursor σ] in
/-- A physical watchpoint call moves no cursor, accepted or not. -/
theorem position_guardedWatchpointCall {op : String}
    {call : ReplayCursor σ → UInt64 → UInt64 → DataAccessMask → UInt32 → Bool × ReplayCursor σ}
    (stays : ∀ cursor addr size access tid,
      (call cursor addr size access tid).2.position = cursor.position)
    (cursor : ReplayCursor σ) (key : WatchpointKey) :
    (guardedWatchpointCall op call cursor key).2.position = cursor.position := by
  have stayed := stays cursor key.addr key.size key.access key.tid
  unfold guardedWatchpointCall
  by_cases valid : validWatchpointRange key.addr key.size
  · simp only [valid, Bool.not_true, Bool.false_eq_true, if_false]
    split <;> exact stayed
  · simp [valid]

/-- Breakpoints move no cursor. -/
theorem Coherent.breakpointCall {process : TtdProcess σ} (coherent : process.Coherent)
    (call : BreakpointState.Call) : (process.breakpointCall call).2.Coherent := by
  have stayed : (process.breakpoints.perform process.cursors.persistent.cursor call).2.2.position =
      process.cursors.persistent.cursor.position :=
    BreakpointState.perform_undisturbed
      (fun cursor : ReplayCursor σ => cursor.position = process.cursors.persistent.cursor.position)
      (fun _ _ same =>
        (position_guardedWatchpointCall ReplayCursor.position_watchpoint _ _).trans same)
      (fun _ _ same =>
        (position_guardedWatchpointCall ReplayCursor.position_removeWatchpoint _ _).trans same)
      rfl call
  exact ⟨coherent.persistent.withCursor stayed, coherent.step⟩

/-! ## Replays -/

omit [LawfulSdkCursor σ] in
/-- A continue forgets the position unless its caller adopts it. -/
theorem Coherent.watchpointReplay {process after : TtdProcess σ} (coherent : process.Coherent)
    {limit : TtdPosition} {forward : Bool} {fuel : Nat}
    {outcome : Unwind (Except DebugError StopReason)}
    (ran : process.watchpointReplay limit forward fuel = some (outcome, after)) :
    after.Coherent := by
  obtain ⟨⟨replayed, stopped⟩, ran, finished⟩ := Option.map_eq_some_iff.mp ran
  obtain ⟨⟨result, cursor, hitBpId⟩, -, ended⟩ := Option.map_eq_some_iff.mp ran
  have prepared : process.beginContinue.cursors.step.Coherent := by
    simp only [beginContinue, TtdProcess.atPosition, cursors_bumpSeek, bump]
    exact coherent.step
  cases result with
  | panicked payload =>
      cases ended
      cases finished
      exact ⟨PositionedCursor.coherent_invalidate _, prepared⟩
  | returned returned =>
      cases returned with
      | error error =>
          cases ended
          cases finished
          exact ⟨PositionedCursor.coherent_invalidate _, prepared⟩
      | ok result =>
          cases ended
          cases finished
          exact coherent_adoptCursorPosition prepared

omit [LawfulSdkCursor σ] in
/-- A step cursor has no callback, so its replay call cannot unwind. -/
theorem stepReplay_ne_panicked (cursor : ReplayCursor σ) (backward : Bool) (payload : String) :
    (stepReplay cursor backward).1 ≠ .panicked payload := by
  cases backward <;> exact ReplayCursor.replay_none_ne_panicked _ _ _ _ _

omit [LawfulSdkCursor σ] in
theorem Coherent.stepOnStepCursor {process : TtdProcess σ} (coherent : process.Coherent)
    (backward : Bool) : (process.stepOnStepCursor backward).2.Coherent := by
  unfold TtdProcess.stepOnStepCursor
  rcases process.cursors.step.prepare process.position with ⟨seeked, step⟩
  have returns := stepReplay_ne_panicked step.cursor backward
  rcases replayed : stepReplay step.cursor backward with ⟨outcome, cursor⟩
  rw [replayed] at returns
  simp only [replayed]
  cases outcome with
  | panicked payload => exact (returns payload rfl).elim
  | returned returned =>
      cases returned with
      | error error =>
          exact coherent.withStep (PositionedCursor.coherent_invalidate _)
      | ok result =>
          have noted := coherent.withStep
            (PositionedCursor.coherent_notePosition (step.withCursor cursor) rfl)
          have counted := noted.bumpSeek seeked
          exact ⟨counted.persistent, counted.step⟩

omit [LawfulSdkCursor σ] in
theorem Coherent.after_step {process after : TtdProcess σ} (coherent : process.Coherent)
    {backward : Bool} {outcome : Unwind (Except DebugError StopReason)}
    (ran : some (process.stepOnStepCursor backward) = some (outcome, after)) :
    after.Coherent := by
  have stepped := coherent.stepOnStepCursor backward
  rwa [Option.some.inj ran] at stepped

omit [LawfulSdkCursor σ] in
theorem Coherent.stepRange {process after : TtdProcess σ} (coherent : process.Coherent)
    {threadId : Option UInt64} {start finish : UInt64} {epoch : Nat → UInt64} {fuel : Nat}
    {outcome : Unwind (Except DebugError StopReason)}
    (ran : process.stepRange threadId start finish epoch fuel = some (outcome, after)) :
    after.Coherent := by
  unfold TtdProcess.stepRange at ran
  split at ran
  case isTrue => exact coherent.after_step ran
  case isFalse =>
    refine rangeLoop_spec Coherent (fun _ => Coherent) ?_ (fun _ before => before) ?_
      (fun _ _ before _ => before) ran coherent
    · intro state next before stepEq
      have stepped := before.stepOnStepCursor false
      rwa [show state.stepOnStepCursor false = _ from stepEq] at stepped
    · intro state outcome next before stepEq _
      have stepped := before.stepOnStepCursor false
      rwa [show state.stepOnStepCursor false = _ from stepEq] at stepped

omit [LawfulSdkCursor σ] in
theorem Coherent.execute {process after : TtdProcess σ} (coherent : process.Coherent)
    {op : ExecOp} {fuel : Nat} {outcome : Unwind (Except DebugError StopReason)}
    (ran : process.execute fuel op = some (outcome, after)) : after.Coherent := by
  cases op with
  | step => exact coherent.after_step ran
  | stepBack => exact coherent.after_step ran
  | stepRange => exact coherent.stepRange ran
  | continueForward => exact coherent.watchpointReplay ran
  | continueBackward => exact coherent.watchpointReplay ran

theorem Coherent.perform {process after : TtdProcess σ} (coherent : process.Coherent) {op : Op}
    (performed : process.perform op = some after) : after.Coherent := by
  cases op with
  | exec op fuel =>
      obtain ⟨⟨outcome, next⟩, ran, rfl⟩ := Option.map_eq_some_iff.mp performed
      exact coherent.execute ran
  | goto position =>
      cases performed
      exact coherent.goto position
  | setCurrentThread id =>
      cases performed
      exact ⟨coherent.persistent, coherent.step⟩
  | breakpoint call =>
      cases performed
      exact coherent.breakpointCall call
  | query query =>
      cases performed
      exact (coherent.ask query process.cursors.persistent.cursor).1

/-- No run of operations on an opened trace makes a cache lie. -/
theorem coherent_of_run {metadata : TraceMetadata} {persistent step : σ} {probe : Option σ}
    {ops : List Op} {process : TtdProcess σ}
    (run : Run perform AnyStep (openTrace metadata persistent step probe) ops process) :
    process.Coherent :=
  run.invariant (coherent_openTrace metadata persistent step probe)
    fun before _ performed => before.perform performed

end TtdProcess

end TtdGdbserver.Target
