import TtdGdbserver.Target.HitMatching
import TtdGdbserver.Target.Process.Erasure
import TtdGdbserver.Target.Process.Halting
import TtdGdbserver.Target.Process.Position

/-!
# Between operations the watchpoints follow the table

Moving a cursor leaves its subscription alone, so only the breakpoint calls touch
the watchpoints of the persistent cursor, and the invariant of the table holds
through every run.  A continue then finds a cursor that watches whatever the
table selects.
-/

namespace TtdGdbserver.Target

open TtdGdbserver.Ttd TtdGdbserver.Transition

/-! ## Operations keep the watchpoints -/

namespace TtdProcess

variable {σ : Type} [SdkCursor σ] [SdkWatchpoints σ] [SdkSubscription σ]

/-- The subscription of the persistent cursor. -/
def subscription (process : TtdProcess σ) : Subscription :=
  subscriptionOf process.cursors.persistent.cursor

theorem subscription_atPosition (process : TtdProcess σ) (position : TtdPosition) :
    (process.atPosition position).subscription = process.subscription := by
  simp only [subscription, atPosition, cursors_bumpSeek, withPersistent, PositionedCursor.prepare]
  split
  · rfl
  · exact SdkSubscription.setPosition _ _

theorem subscription_beginContinue (process : TtdProcess σ) :
    process.beginContinue.subscription =
      { process.subscription with exceptions := exceptionMask } := by
  have masked := SdkSubscription.setExceptionMask process.cursors.persistent.cursor.cursor
    exceptionMask
  exact (subscription_atPosition _ _).trans masked

theorem watchpoints_watchpointReplay {process after : TtdProcess σ} {limit : TtdPosition}
    {forward : Bool} {fuel : Nat} {outcome : Unwind (Except DebugError StopReason)}
    (ran : process.watchpointReplay limit forward fuel = some (outcome, after)) :
    after.subscription.watchpoints = process.subscription.watchpoints := by
  obtain ⟨⟨replayed, stopped⟩, ran, finished⟩ := Option.map_eq_some_iff.mp ran
  obtain ⟨⟨result, cursor, hitBpId⟩, replays, ended⟩ := Option.map_eq_some_iff.mp ran
  have masked := SdkSubscription.setEventMask process.beginContinue.cursors.persistent.cursor.cursor
    (.memoryWatchpoint ||| .exception)
  have stayed : (subscriptionOf cursor).watchpoints = process.subscription.watchpoints := by
    rw [subscriptionOf_loop replays, subscriptionOf, ReplayCursor.setEventMask, masked]
    have begun := congrArg Subscription.watchpoints process.subscription_beginContinue
    exact begun
  cases result with
  | panicked payload =>
      cases ended
      cases finished
      exact stayed
  | returned returned =>
      cases returned with
      | error error =>
          cases ended
          cases finished
          exact stayed
      | ok result =>
          cases ended
          cases finished
          exact stayed

omit [SdkWatchpoints σ] [SdkSubscription σ] in
/-- A query positions the persistent cursor or is answered without it. -/
theorem ask_cases (process : TtdProcess σ) (query : Query) :
    (process.ask query).2 = process ∨
      (process.ask query).2 = (process.withCursor fun _ => ()).2 := by
  cases query with
  | readMemory => exact .inr rfl
  | readMemoryRanges => exact .inr rfl
  | activeThreadIds => exact .inr rfl
  | threadState threadId =>
      simp only [ask, threadState]
      cases process.osTid threadId with
      | none => exact .inl rfl
      | some tid =>
          dsimp only
          split
          · exact .inr rfl
          · exact .inl rfl
  | threadInfo threadId =>
      simp only [ask, threadInfo]
      cases u32TryFrom threadId with
      | none => exact .inl rfl
      | some osTid => exact .inr rfl

theorem watchpoints_execute {process after : TtdProcess σ} {op : ExecOp} {fuel : Nat}
    {outcome : Unwind (Except DebugError StopReason)}
    (ran : process.execute fuel op = some (outcome, after)) :
    after.subscription.watchpoints = process.subscription.watchpoints := by
  cases steps : op.isStep with
  | true => rw [subscription, persistent_execute steps ran, subscription]
  | false =>
      cases op with
      | continueForward => exact watchpoints_watchpointReplay ran
      | continueBackward => exact watchpoints_watchpointReplay ran
      | step => contradiction
      | stepBack => contradiction
      | stepRange => contradiction

theorem subscription_adoptCursorPosition (process : TtdProcess σ) :
    process.adoptCursorPosition.subscription = process.subscription :=
  rfl

theorem watchpoints_goto (process : TtdProcess σ) (position : TtdPosition) :
    (process.goto position).2.subscription.watchpoints = process.subscription.watchpoints := by
  simp only [goto]
  generalize clampPosition position process.lifetime.1 process.lifetime.2 = place
  rw [subscription_adoptCursorPosition, subscription_atPosition, subscription, subscription]

theorem watchpoints_ask (process : TtdProcess σ) (query : Query) :
    (process.ask query).2.subscription.watchpoints = process.subscription.watchpoints := by
  rcases process.ask_cases query with kept | asked
  · rw [kept]
  · rw [asked]
    exact congrArg Subscription.watchpoints (subscription_atPosition _ _)

/-- Only the breakpoint calls touch the registered watchpoints. -/
theorem watchpoints_perform {process after : TtdProcess σ} {op : Op}
    (other : op.isBreakpoint = false) (performed : process.perform op = some after) :
    after.subscription.watchpoints = process.subscription.watchpoints := by
  cases op with
  | exec op fuel =>
      obtain ⟨⟨outcome, next⟩, ran, rfl⟩ := Option.map_eq_some_iff.mp performed
      exact watchpoints_execute ran
  | goto position =>
      cases performed
      exact watchpoints_goto process position
  | setCurrentThread id =>
      cases performed
      rfl
  | breakpoint call => contradiction
  | query query =>
      cases performed
      exact watchpoints_ask process query

/-! ## What holds between operations -/

/-- After at most `calls` operations the caches are right, the watchpoints follow
the table, and the tables of the trace are as they were read. -/
structure Armed (metadata : TraceMetadata) (calls : Nat) (process : TtdProcess σ) : Prop where
  coherent : process.Coherent
  table : BreakpointState.Coherent OnlySafeRanges calls process.breakpoints.manager.breakpoints
    process.breakpoints process.cursors.persistent.cursor
  threads : process.breakpoints.threads = metadata.threads
  trace : process.metadata = metadata
  lifetime : process.lifetime = metadata.lifetime

omit [SdkSubscription σ] in
/-- The invariant of the table sees the registered watchpoints only. -/
theorem coherent_of_physical {calls : Nat} {table : Std.ExtTreeMap BreakpointId Breakpoint}
    {state : BreakpointState} {cursor next : ReplayCursor σ}
    (coherent : BreakpointState.Coherent OnlySafeRanges calls table state cursor)
    (same : physical next = physical cursor) :
    BreakpointState.Coherent OnlySafeRanges calls table state next := by
  obtain ⟨tracks, good, counted⟩ := coherent.tracking
  refine ⟨⟨tracks.trans same.symm, ?_, same ▸ counted⟩, coherent.covered, coherent.ids,
    coherent.nextId, coherent.table⟩
  intro key present
  exact good key (same ▸ present)

theorem physical_eq (process : TtdProcess σ) :
    physical process.cursors.persistent.cursor = process.subscription.watchpoints :=
  (SdkSubscription.watchpoints _).symm

variable {metadata : TraceMetadata} {calls : Nat}

theorem armed_openTrace [LawfulSdkCursor σ] (metadata : TraceMetadata) (persistent step : σ)
    (probe : Option σ) (blank : SdkWatchpoints.registered persistent = ∅) :
    Armed metadata 0 (openTrace metadata persistent step probe) := by
  have empty : physical (openTrace metadata persistent step probe).cursors.persistent.cursor =
      ∅ := by
    rw [physical_eq, ← blank, ← SdkSubscription.watchpoints]
    exact congrArg Subscription.watchpoints (SdkSubscription.setPosition _ _)
  refine ⟨coherent_openTrace metadata persistent step probe, ?_, rfl, rfl, rfl⟩
  exact BreakpointState.coherent_new (fun key present => by simp [empty] at present) empty

omit [SdkSubscription σ] in
/-- The ranges of the table are those of the registered watchpoints. -/
theorem Armed.validRanges {process : TtdProcess σ} (armed : Armed metadata calls process) :
    process.breakpoints.manager.ValidRanges := by
  intro id bp found _
  have active := (BreakpointManager.mem_active_iff process.breakpoints.manager bp).mpr
    ((process.breakpoints.manager.keyed id bp found).symm ▸ found)
  have desired := BreakpointState.mem_desiredWatchpoints.mpr ⟨bp, active, rfl⟩
  have present := armed.table.covered _ desired
  rw [armed.table.tracking.tracks] at present
  exact armed.table.tracking.good _ present

omit [SdkSubscription σ] in
/-- A breakpoint of the table is found by its id, which is not the reserved one. -/
theorem Armed.filed {process : TtdProcess σ} (armed : Armed metadata calls process)
    {bp : Breakpoint} (active : bp ∈ process.breakpoints.manager.active) :
    process.breakpoints.get bp.id = some bp ∧ bp.id ≠ 0 := by
  have found := (BreakpointManager.mem_active_iff process.breakpoints.manager bp).mp active
  have positive := (armed.table.ids.below bp.id bp found).1
  exact ⟨found, fun zero => by simp [zero] at positive⟩

variable [LawfulSdkCursor σ]

theorem Armed.perform {process after : TtdProcess σ} (armed : Armed metadata calls process)
    (room : calls + 2 < 2 ^ 64) {op : Op} (performed : process.perform op = some after) :
    Armed metadata (calls + 1) after := by
  have coherent := armed.coherent.perform performed
  obtain ⟨lifetime, trace⟩ := tables_perform performed
  have trace := trace.trans armed.trace
  have lifetime := lifetime.trans armed.lifetime
  cases other : op.isBreakpoint with
  | false =>
      have frame := frame_perform other performed
      refine ⟨coherent, ?_, ?_, trace, lifetime⟩
      · rw [frame.breakpoints]
        refine coherent_of_physical armed.table.more ?_
        rw [physical_eq, physical_eq, watchpoints_perform other performed]
      · rw [frame.breakpoints]
        exact armed.threads
  | true =>
      cases op with
      | breakpoint call =>
          cases performed
          have called := (armed.table.perform keptByCalls_onlySafeRanges room call).1
          refine ⟨coherent, ?_, ?_, trace, lifetime⟩
          · exact ⟨called.tracking, called.covered, called.ids, called.nextId, rfl⟩
          · exact (BreakpointState.threads_perform call).trans armed.threads
      | exec | goto | setCurrentThread | query => contradiction

/-- After every run of operations, if there are not too many breakpoints to give
each an id of its own. -/
theorem armed_of_run {persistent step : σ} {probe : Option σ}
    (blank : SdkWatchpoints.registered persistent = ∅) {ops : List Op} {process : TtdProcess σ}
    (few : ops.length + 1 < 2 ^ 64)
    (run : Run TtdProcess.perform AnyStep (.openTrace metadata persistent step probe) ops
      process) : Armed metadata ops.length process := by
  induction run with
  | nil => exact armed_openTrace metadata persistent step probe blank
  | @snoc ops middle after op _ _ performed ih =>
      rw [List.length_append, List.length_singleton] at few ⊢
      exact (ih (by omega)).perform few performed

/-! ## The subscription of a continue -/

/-- The persistent cursor as the replay of a continue finds it. -/
def continueSource (process : TtdProcess σ) : ReplayCursor σ :=
  process.beginContinue.cursors.persistent.cursor.setEventMask (.memoryWatchpoint ||| .exception)

omit [SdkWatchpoints σ] [SdkSubscription σ] in
theorem Coherent.position_continueSource {process : TtdProcess σ} (coherent : process.Coherent) :
    process.continueSource.position = LawfulSdkCursor.round σ process.position := by
  have masked : (process.withPersistent (process.cursors.persistent.withCursor
      (process.cursors.persistent.cursor.setExceptionMask exceptionMask))).Coherent :=
    coherent.withPersistent (coherent.persistent.withCursor
      (ReplayCursor.position_setExceptionMask _ _))
  rw [continueSource, ReplayCursor.position_setEventMask]
  exact (masked.atPosition process.position).2

omit [LawfulSdkCursor σ] in
theorem subscription_continueSource (process : TtdProcess σ) :
    subscriptionOf process.continueSource =
      ⟨process.subscription.watchpoints, .memoryWatchpoint ||| .exception, exceptionMask⟩ := by
  have begun := process.subscription_beginContinue
  rw [subscription] at begun
  rw [continueSource, subscriptionOf, ReplayCursor.setEventMask, SdkSubscription.setEventMask]
  rw [subscriptionOf] at begun
  rw [begun]

omit [LawfulSdkCursor σ] in
/-- The watchpoints deliver what the table selects, since no OS thread id of the
log was used again. -/
theorem Armed.serves {threads : List TtdThreadInfo} {log : TraceLog}
    {firstPosition lastPosition : TtdPosition} {process : TtdProcess σ}
    (armed : Armed (.new threads log.exceptions firstPosition lastPosition) calls process)
    (holders : ∀ event ∈ log.events, lastHolder threads event.thread.id = some event.thread) :
    (subscriptionOf process.continueSource).Serves process.breakpoints log := by
  rw [subscription_continueSource]
  constructor
  · intro event
    simp only [Subscription.haltsAt, TraceEvent.isException, admits_exceptionEvent,
      admits_exceptionMask, Bool.and_self]
  · intro event recorded taken
    obtain ⟨bp, selected⟩ := Option.isSome_iff_exists.mp taken
    obtain ⟨hit, put, selected⟩ := Option.bind_eq_some_iff.mp selected
    obtain ⟨active, matches_, filter⟩ := BreakpointManager.selected selected
    have desired := BreakpointState.mem_desiredWatchpoints.mpr ⟨bp, active, rfl⟩
    have present := armed.table.covered _ desired
    rw [armed.table.tracking.tracks] at present
    have safe := armed.table.tracking.good _ present
    obtain ⟨mask, overlap⟩ := BreakpointManager.meets_of_matchesAddr safe matches_
    have delivers : ∀ address size access, event.occurrence = .access address size access →
        (BreakpointState.watchpointKey process.breakpoints.threads bp).Delivers event.thread
          address size (.ofU8 access) := by
      intro address size access occurs
      simp only [TraceEvent.hit, occurs, Option.some.injEq] at put
      subst put
      refine ⟨overlap, mask, ?_⟩
      rcases filter with named | any
      · right
        rw [armed.threads]
        simp [BreakpointState.watchpointKey, named, TraceMetadata.new,
          uidForOsTid_fromEngineThreads, holders event recorded]
      · left
        simp [BreakpointState.watchpointKey, any]
    rw [physical_eq] at present
    unfold Subscription.watches
    cases occurs : event.occurrence with
    | exception => simp [TraceEvent.hit, occurs] at put
    | access address size access =>
        simp only [admits_memoryWatchpoint, Bool.true_and, List.any_eq_true, decide_eq_true_eq]
        exact ⟨_, Std.ExtTreeSet.mem_toList.mpr present, delivers address size access occurs⟩

end TtdProcess

end TtdGdbserver.Target
