import TtdGdbserver.Target.Process.Armed
import TtdGdbserver.Target.Process.Failure
import TtdGdbserver.Target.Process.Hits

/-!
# A continue shows the first event there is to show

On an engine that plays a log, a continue ends at the first event in the
direction of travel that a breakpoint of the table takes or that is an exception
a live debugger stops at, and at the boundary of the trace if there is none.
The opposite continue then leads back.
-/

namespace TtdGdbserver.Target

open TtdGdbserver.Ttd TtdGdbserver.Transition

/-! ## What a client is to be shown -/

/-- The breakpoint applies to the thread and fits its access. -/
structure Breakpoint.Takes (bp : Breakpoint) (thread : TtdThreadInfo) (addr size : UInt64)
    (access : DataAccessMask) : Prop where
  thread : bp.threadId = none ∨ bp.threadId = some thread.id.toUInt64
  fits : Fits addr size access bp

/-- Of the breakpoints that take an access this one is named: the least one for
the thread, or the least one for all threads where there is none. -/
def BreakpointManager.Names (manager : BreakpointManager) (thread : TtdThreadInfo)
    (addr size : UInt64) (access : DataAccessMask) (bp : Breakpoint) : Prop :=
  LeastFit manager addr size access (some thread.id.toUInt64) bp ∨
    (∀ other ∈ manager.active, other.threadId = some thread.id.toUInt64 →
      ¬Fits addr size access other) ∧ LeastFit manager addr size access none bp

namespace TraceEvent

/-- A breakpoint takes the access, or a live debugger stops at the exception. -/
def Visible (manager : BreakpointManager) (event : TraceEvent) : Prop :=
  match event.occurrence with
  | .access address size access =>
      ∃ bp ∈ manager.active, bp.Takes event.thread address size (DataAccessType.ofU8 access).mask
  | .exception _ code _ _ => code ∉ firstChanceExceptionCodes

theorem breakpoint_eq_some_iff {breakpoints : BreakpointState} {event : TraceEvent}
    (valid : breakpoints.manager.ValidRanges) {address size : UInt64} {access : UInt8}
    (occurs : event.occurrence = .access address size access) (bp : Breakpoint) :
    event.breakpoint breakpoints = some bp ↔
      breakpoints.manager.Names event.thread address size (DataAccessType.ofU8 access).mask
        bp := by
  simp only [breakpoint, hit, occurs, Option.bind_some, BreakpointState.selects,
    BreakpointState.findByWatchpointHitAndThread, BreakpointManager.findByWatchpointHitAndThread,
    Option.or_eq_some_iff, BreakpointManager.find?_filter_eq_some_iff valid,
    BreakpointManager.find?_filter_eq_none_iff valid]
  rfl

theorem shown_iff_visible {breakpoints : BreakpointState} (valid : breakpoints.manager.ValidRanges)
    (event : TraceEvent) :
    event.shown breakpoints = true ↔ event.Visible breakpoints.manager := by
  unfold Visible
  cases occurs : event.occurrence with
  | exception class_ code recordAddress programCounter =>
      simp [shown, raises, catalogued, breakpoint, hit, occurs]
  | access address size access =>
      have unraised : event.raises = false := by simp [raises, catalogued, occurs]
      rw [shown, unraised, Bool.false_or]
      simp only [breakpoint, hit, occurs, Option.bind_some, BreakpointState.selects,
        BreakpointState.findByWatchpointHitAndThread,
        BreakpointManager.findByWatchpointHitAndThread]
      rw [Option.isSome_iff_ne_none, ne_eq, Option.or_eq_none_iff,
        BreakpointManager.find?_filter_eq_none_iff valid,
        BreakpointManager.find?_filter_eq_none_iff valid]
      constructor
      · intro untaken
        by_contra nothing
        apply untaken
        constructor <;> intro bp active filter fits
        · exact nothing ⟨bp, active, .inr filter, fits⟩
        · exact nothing ⟨bp, active, .inl filter, fits⟩
      · rintro ⟨bp, active, filter, fits⟩ ⟨forThread, forAll⟩
        rcases filter with all | thread
        · exact forAll bp active all fits
        · exact forThread bp active thread fits

end TraceEvent

/-- The event is the first one beyond the start, and not beyond the limit, that is
to be shown. -/
structure FirstVisible (log : TraceLog) (manager : BreakpointManager) (forward : Bool)
    (start limit : TtdPosition) (event : TraceEvent) : Prop where
  recorded : event ∈ log.events
  ahead : TraceLog.IsAhead forward start limit event
  visible : event.Visible manager
  first : ∀ other ∈ log.events, Beyond forward start other.position →
    Beyond forward other.position event.position → ¬other.Visible manager

theorem firstVisible_of_find {log : TraceLog} {breakpoints : BreakpointState}
    (valid : breakpoints.manager.ValidRanges) {forward : Bool} {start limit : TtdPosition}
    {event : TraceEvent}
    (found : (log.ahead forward start limit).find? (TraceEvent.shown breakpoints) = some event) :
    FirstVisible log breakpoints.manager forward start limit event := by
  obtain ⟨shown, before, after, split, skipped⟩ := List.find?_eq_some_iff_append.mp found
  have member : event ∈ log.ahead forward start limit := by
    rw [split]
    simp
  obtain ⟨recorded, ahead⟩ := TraceLog.mem_ahead.mp member
  refine ⟨recorded, ahead, (event.shown_iff_visible valid).mp shown, ?_⟩
  intro other otherRecorded beyond earlier visible
  have otherAhead : other ∈ log.ahead forward start limit :=
    TraceLog.mem_ahead.mpr ⟨otherRecorded, beyond, fun past => ahead.2 (past.trans earlier)⟩
  have ordered : (log.ahead forward start limit).Pairwise (TraceLog.InTravel forward) :=
    (log.pairwise_travelled forward).filter _
  rw [split] at otherAhead ordered
  rcases List.mem_append.mp otherAhead with inFront | behind
  · have hidden := skipped other inFront
    rw [(other.shown_iff_visible valid).mpr visible] at hidden
    contradiction
  · rcases List.mem_cons.mp behind with rfl | later
    · exact earlier.ne rfl
    · have inTravel := (List.pairwise_cons.mp (List.pairwise_append.mp ordered).2.1).1 other later
      exact inTravel.notBeyond earlier

/-! ## What a client is told -/

/-- The stop reason of a breakpoint. -/
def Breakpoint.stopReason (bp : Breakpoint) : StopReason :=
  if bp.kind = .execute then .breakpoint bp.id bp.addr else .watchpoint bp.id bp.addr bp.access

namespace TtdProcess

/-- The stop reason of the boundary of the trace. -/
def boundaryReason {σ : Type} (process : TtdProcess σ) (forward : Bool) : StopReason :=
  if forward then if process.endsWithProcessExit then .processExit else .traceEnd else .traceStart

/-- The reason that a client is told for a stop at an event.  The boundary of the
trace counts for more than an exception there. -/
inductive Tells {σ : Type} (process : TtdProcess σ) (forward : Bool) (event : TraceEvent) :
    StopReason → Prop
  | taken {address size : UInt64} {access : UInt8} {bp : Breakpoint}
      (occurs : event.occurrence = .access address size access)
      (named : process.breakpoints.manager.Names event.thread address size
        (DataAccessType.ofU8 access).mask bp) : Tells process forward event bp.stopReason
  | raised {entry : TtdExceptionEvent} (catalogued : event.catalogued = some entry)
      (inside : ¬AtBoundary forward event.position process.lifetime) :
      Tells process forward event (.exception entry.code entry.recordAddress)
  | atBoundary (exception : event.isException = true)
      (boundary : AtBoundary forward event.position process.lifetime) :
      Tells process forward event (process.boundaryReason forward)

/-- The continue ended where it had to, and its client is told why. -/
inductive ShowsFirst {σ : Type} (process : TtdProcess σ) (log : TraceLog) (start : TtdPosition)
    (forward : Bool) (reason : StopReason) (after : TtdProcess σ) : Prop
  | event (event : TraceEvent)
      (first : FirstVisible log process.breakpoints.manager forward start
        (process.continueLimit forward) event)
      (position : after.position = event.position)
      (thread : after.currentThreadId =
        if event.thread.id = 0 then none else some event.thread.id.toUInt64)
      (told : Tells process forward event reason)
  | boundary
      (nothing : ∀ event ∈ log.events,
        TraceLog.IsAhead forward start (process.continueLimit forward) event →
        ¬event.Visible process.breakpoints.manager)
      (position : after.position = haltPosition forward start (process.continueLimit forward) none)
      (told : reason = process.boundaryReason forward)

/-! ### Resolving the stop -/

section Resolve

variable {σ : Type}

theorem resolve_taken {process : TtdProcess σ} {bp : Breakpoint}
    (found : process.breakpoints.get bp.id = some bp) (filed : bp.id ≠ 0)
    (result : TtdReplayResult) (forward : Bool) :
    process.resolveContinueStop result bp.id forward = .ok bp.stopReason := by
  simp [resolveContinueStop, classifyContinueStop, filed, found, Breakpoint.stopReason]

/-- Without a hit the boundary decides, and then the event. -/
theorem resolve_untaken (process : TtdProcess σ) {result : TtdReplayResult}
    (goesOn : result.stopReason ≠ .process) (forward : Bool) :
    process.resolveContinueStop result 0 forward =
      if AtBoundary forward process.position process.lifetime then
        .ok (process.boundaryReason forward)
      else
        match StopReason.tryFrom result with
        | .ok reason => .ok (process.enrichException reason)
        | .error error => .error (.ttd error) := by
  unfold resolveContinueStop classifyContinueStop AtBoundary boundaryReason
  cases forward with
  | false =>
      by_cases boundary : process.position ≤ process.lifetime.1
      · simp [boundary]
      · cases StopReason.tryFrom result <;> simp [boundary]
  | true =>
      by_cases boundary : process.position ≥ process.lifetime.2
      · cases process.endsWithProcessExit <;> simp [boundary, goesOn]
      · cases StopReason.tryFrom result <;> simp [boundary, goesOn]

/-- At an exception inside the trace the client gets its code and address. -/
theorem resolve_raised {process : TtdProcess σ} {result : TtdReplayResult}
    {entry : TtdExceptionEvent} (raised : result.stopReason = .exception)
    (found : process.metadata.exceptionAt process.position = some entry) {forward : Bool}
    (inside : ¬AtBoundary forward process.position process.lifetime) :
    process.resolveContinueStop result 0 forward =
      .ok (.exception entry.code entry.recordAddress) := by
  rw [resolve_untaken process (by simp [raised]), if_neg inside]
  simp [StopReason.tryFrom, raised, enrichException, found]

end Resolve

/-! ### Every continue -/

section Continue

variable {σ : Type} [SdkCursor σ] [LawfulSdkCursor σ] [SdkWatchpoints σ] [SdkSubscription σ]
  {process : TtdProcess σ} {threads : List TtdThreadInfo} {log : TraceLog}
  {firstPosition lastPosition : TtdPosition} {calls : Nat}

omit [SdkCursor σ] [LawfulSdkCursor σ] [SdkWatchpoints σ] [SdkSubscription σ] in
theorem atBoundary_haltPosition (process : TtdProcess σ) (forward : Bool) (start : TtdPosition) :
    AtBoundary forward (haltPosition forward start (process.continueLimit forward) none)
      process.lifetime := by
  cases forward with
  | true =>
      by_cases before : start < process.lifetime.2
      · simp [AtBoundary, haltPosition, continueLimit, Beyond, before]
      · simp only [AtBoundary, haltPosition, continueLimit, Beyond, before, if_true, if_false]
        exact not_lt.mp before
  | false =>
      by_cases before : process.lifetime.1 < start
      · simp [AtBoundary, haltPosition, continueLimit, Beyond, before]
      · simp only [AtBoundary, haltPosition, continueLimit, Beyond, before, if_false,
          Bool.false_eq_true]
        exact not_lt.mp before

/-- Every continue of an armed process returns where its replay halted. -/
theorem Armed.lands
    (armed : Armed (.new threads log.exceptions firstPosition lastPosition) calls process)
    (plays : PlaysLog σ log)
    (holders : ∀ event ∈ log.events, lastHolder threads event.thread.id = some event.thread)
    (forward : Bool) {fuel : Nat} (enough : log.events.length < fuel) :
    ∃ (result : TtdReplayResult) (hitBpId : UInt64) (moved : ReplayCursor σ) (after : TtdProcess σ),
      process.continueIn forward fuel =
          some (.returned (after.resolveContinueStop result hitBpId forward), after) ∧
        process.Frame after ∧ after.position = moved.position ∧
        after.currentThreadId =
          (if currentTid moved = 0 then none else some (currentTid moved).toUInt64) ∧
        Halted process.breakpoints forward (LawfulSdkCursor.round σ process.position)
          (process.continueLimit forward)
          ((log.ahead forward (LawfulSdkCursor.round σ process.position)
            (process.continueLimit forward)).find? (TraceEvent.shown process.breakpoints))
          result moved hitBpId := by
  have trace : process.beginContinue.metadata =
      .new threads log.exceptions firstPosition lastPosition :=
    (sameDebugState_beginContinue process).metadata.trans armed.trace
  have few : (log.ahead forward process.continueSource.position
      (process.continueLimit forward)).length < fuel :=
    (log.length_ahead_le _ _ _).trans_lt enough
  have untravelled : ∀ position, (none : Option TtdPosition) = some position →
      position = process.continueSource.position := by simp
  obtain ⟨result, moved, hitBpId, ran, halted⟩ :=
    halted_loop plays (armed.serves holders) untravelled few
  rw [armed.coherent.position_continueSource] at halted
  have whole : process.watchpointReplay (process.continueLimit forward) forward fuel =
      some (.returned ((process.beginContinue.withPersistent
        (process.beginContinue.cursors.persistent.withCursor
          moved)).adoptCursorPosition.resolveContinueStop result hitBpId forward),
        (process.beginContinue.withPersistent
          (process.beginContinue.cursors.persistent.withCursor moved)).adoptCursorPosition) := by
    simp only [watchpointReplay, replayWatchpointFiltered, replayWatchpointFilteredWith]
    rw [trace, show process.beginContinue.cursors.persistent.cursor.setEventMask
      (.memoryWatchpoint ||| .exception) = process.continueSource from rfl, ran]
    rfl
  exact ⟨result, hitBpId, moved, _, (process.continueIn_eq forward fuel).trans whole,
    frame_watchpointReplay whole, rfl, rfl, halted⟩

/-- Every continue of an armed process ends at the first event to be shown, and
its client is told so. -/
theorem Armed.showsFirst
    (armed : Armed (.new threads log.exceptions firstPosition lastPosition) calls process)
    (plays : PlaysLog σ log)
    (holders : ∀ event ∈ log.events, lastHolder threads event.thread.id = some event.thread)
    (forward : Bool) {fuel : Nat} (enough : log.events.length < fuel) :
    ∃ reason after, process.continueIn forward fuel = some (.returned (.ok reason), after) ∧
      ShowsFirst process log (LawfulSdkCursor.round σ process.position) forward reason after := by
  have valid := armed.validRanges
  obtain ⟨result, hitBpId, moved, after, ran, frame, position, thread, halted⟩ :=
    armed.lands plays holders forward enough
  have reasons : after.boundaryReason forward = process.boundaryReason forward := by
    simp only [boundaryReason, frame.endsWithProcessExit]
  rw [ran]
  cases found : (log.ahead forward (LawfulSdkCursor.round σ process.position)
      (process.continueLimit forward)).find? (TraceEvent.shown process.breakpoints) with
  | none =>
      rw [found] at halted
      have place := position.trans halted.position
      have boundary : AtBoundary forward after.position after.lifetime := by
        rw [place, frame.lifetime]
        exact atBoundary_haltPosition process forward _
      have goesOn : result.stopReason ≠ .process := by simp [halted.reason, haltType]
      have unmatched : hitBpId = 0 := halted.hitBpId
      rw [unmatched, resolve_untaken after goesOn, if_pos boundary, reasons]
      refine ⟨_, _, rfl, .boundary ?_ place rfl⟩
      intro event recorded ahead visible
      exact List.find?_eq_none.mp found event (TraceLog.mem_ahead.mpr ⟨recorded, ahead⟩)
        ((event.shown_iff_visible valid).mpr visible)
  | some event =>
      rw [found] at halted
      have place : after.position = event.position := position.trans halted.position
      rw [halted.thread event rfl] at thread
      have first := firstVisible_of_find valid found
      cases occurs : event.occurrence with
      | access address size access =>
          have shown := List.find?_some found
          have unraised : event.raises = false := by
            simp [TraceEvent.raises, TraceEvent.catalogued, occurs]
          rw [TraceEvent.shown, unraised, Bool.false_or] at shown
          obtain ⟨bp, taken⟩ := Option.isSome_iff_exists.mp shown
          have named := (TraceEvent.breakpoint_eq_some_iff valid occurs bp).mp taken
          have active : bp ∈ process.breakpoints.manager.active := by
            rcases named with leastFit | ⟨-, leastFit⟩
            · exact leastFit.active
            · exact leastFit.active
          obtain ⟨filed, unreserved⟩ := armed.filed active
          rw [← frame.breakpoints] at filed
          have matched : hitBpId = bp.id := by
            rw [halted.hitBpId, Option.bind_some, taken]
            rfl
          rw [matched, resolve_taken filed unreserved]
          exact ⟨_, _, rfl, .event event first place thread (.taken occurs named)⟩
      | exception class_ code recordAddress programCounter =>
          have exception : event.isException = true := by simp [TraceEvent.isException, occurs]
          obtain ⟨entry, catalogued⟩ := TraceEvent.catalogued_of_isException exception
          have raised : result.stopReason = .exception := by
            rw [halted.reason, haltType, TraceEvent.eventType, if_pos exception]
          have unmatched : hitBpId = 0 := by
            rw [halted.hitBpId, Option.bind_some, TraceEvent.breakpoint_exception exception]
            rfl
          by_cases boundary : AtBoundary forward event.position process.lifetime
          · have reached : AtBoundary forward after.position after.lifetime := by
              rw [place, frame.lifetime]
              exact boundary
            rw [unmatched, resolve_untaken after (by simp [raised]), if_pos reached, reasons]
            exact ⟨_, _, rfl, .event event first place thread (.atBoundary exception boundary)⟩
          · have inside : ¬AtBoundary forward after.position after.lifetime := by
              rw [place, frame.lifetime]
              exact boundary
            have entryAt : after.metadata.exceptionAt after.position = some entry := by
              rw [place, frame.metadata, armed.trace]
              exact log.exceptionAt_catalogued first.recorded catalogued _ _ _
            rw [unmatched, resolve_raised raised entryAt inside]
            exact ⟨_, _, rfl, .event event first place thread (.raised catalogued boundary)⟩

end Continue

/-! ### There and back -/

section Return

variable {σ : Type}

theorem beyond_not {forward : Bool} {first second : TtdPosition} :
    Beyond (!forward) first second ↔ Beyond forward second first := by
  cases forward <;> rfl

/-- The continue moved, and passed nothing that was to be shown. -/
theorem ShowsFirst.passed {process after : TtdProcess σ} {log : TraceLog} {start : TtdPosition}
    {forward : Bool} {reason : StopReason}
    (shows : process.ShowsFirst log start forward reason after)
    (before : Beyond forward start (process.continueLimit forward)) :
    Beyond forward start after.position ∧
      ∀ other ∈ log.events, Beyond forward start other.position →
        Beyond forward other.position after.position →
        ¬other.Visible process.breakpoints.manager := by
  cases shows with
  | event event first position thread told =>
      rw [position]
      exact ⟨first.ahead.1, first.first⟩
  | boundary nothing position told =>
      rw [position, haltPosition, if_pos before]
      refine ⟨before, fun other recorded beyond short => nothing other recorded ⟨beyond, ?_⟩⟩
      exact fun past => (past.trans short).ne rfl

/-- What a client is told depends on the breakpoints and the trace only. -/
theorem Tells.of_frame {process after : TtdProcess σ} (frame : process.Frame after)
    {forward : Bool} {event : TraceEvent} {reason : StopReason}
    (told : after.Tells forward event reason) : process.Tells forward event reason := by
  have reasons : after.boundaryReason forward = process.boundaryReason forward := by
    simp only [boundaryReason, frame.endsWithProcessExit]
  cases told with
  | taken occurs named => exact .taken occurs (frame.breakpoints ▸ named)
  | raised catalogued inside => exact .raised catalogued (frame.lifetime ▸ inside)
  | atBoundary exception boundary =>
      rw [reasons]
      exact .atBoundary exception (frame.lifetime ▸ boundary)

variable [SdkCursor σ]

/-- A continue that returns a stop adopts the position of a cursor. -/
theorem position_of_continueIn {process after : TtdProcess σ} {forward : Bool} {fuel : Nat}
    {reason : StopReason}
    (ran : process.continueIn forward fuel = some (.returned (.ok reason), after)) :
    ∃ cursor : ReplayCursor σ, after.position = cursor.position := by
  rw [continueIn_eq] at ran
  obtain ⟨⟨replayed, stopped⟩, -, finished⟩ := Option.map_eq_some_iff.mp ran
  cases replayed with
  | panicked payload => cases finished
  | returned returned =>
      cases returned with
      | error error => cases finished
      | ok result =>
          obtain ⟨-, rfl⟩ := Prod.mk.inj finished
          exact ⟨_, rfl⟩

/-- A continue is one of the operations. -/
theorem perform_of_continueIn {process after : TtdProcess σ} {forward : Bool} {fuel : Nat}
    {outcome : Unwind (Except DebugError StopReason)}
    (ran : process.continueIn forward fuel = some (outcome, after)) :
    process.perform (.exec (if forward then .continueForward else .continueBackward) fuel) =
      some after := by
  cases forward <;> exact Option.map_eq_some_iff.mpr ⟨_, ran, rfl⟩

variable [LawfulSdkCursor σ] [SdkWatchpoints σ] [SdkSubscription σ]
  {process : TtdProcess σ} {threads : List TtdThreadInfo} {log : TraceLog}
  {firstPosition lastPosition : TtdPosition} {calls : Nat}

/-- The opposite continue comes back to the event that the first one left. -/
theorem Armed.returns
    (armed : Armed (.new threads log.exceptions firstPosition lastPosition) calls process)
    (room : calls + 2 < 2 ^ 64) (plays : PlaysLog σ log)
    (holders : ∀ event ∈ log.events, lastHolder threads event.thread.id = some event.thread)
    (forward : Bool) {fuel : Nat} (enough : log.events.length < fuel) {event : TraceEvent}
    (recorded : event ∈ log.events) (visible : event.Visible process.breakpoints.manager)
    (here : LawfulSdkCursor.round σ process.position = event.position)
    (before : Beyond forward event.position (process.continueLimit forward))
    (inside : ¬Beyond (!forward) (process.continueLimit (!forward)) event.position) :
    ∃ reason after told back,
      process.continueIn forward fuel = some (.returned (.ok reason), after) ∧
        after.continueIn (!forward) fuel = some (.returned (.ok told), back) ∧
        back.position = event.position ∧
        ∃ again ∈ log.events, again.position = event.position ∧
          again.Visible process.breakpoints.manager ∧ process.Tells (!forward) again told := by
  obtain ⟨reason, after, ran, shows⟩ := armed.showsFirst plays holders forward enough
  have performed := perform_of_continueIn ran
  have frame : process.Frame after := frame_perform rfl performed
  have limits : after.continueLimit (!forward) = process.continueLimit (!forward) := by
    simp only [continueLimit, frame.lifetime]
  rw [here] at shows
  obtain ⟨moved, passed⟩ := shows.passed before
  obtain ⟨cursor, landed⟩ := position_of_continueIn ran
  have settled : LawfulSdkCursor.round σ after.position = after.position := by
    rw [landed, ReplayCursor.round_position]
  obtain ⟨told, back, returned, showsBack⟩ :=
    (armed.perform room performed).showsFirst plays holders (!forward) enough
  rw [settled] at showsBack
  refine ⟨reason, after, told, back, ran, returned, ?_⟩
  cases showsBack with
  | boundary nothing position reasonEq =>
      refine absurd visible ?_
      rw [← frame.breakpoints]
      exact nothing event recorded ⟨beyond_not.mpr moved, limits ▸ inside⟩
  | event again first position thread tells =>
      have seen := first.visible
      rw [frame.breakpoints] at seen
      have same : again.position = event.position := by
        rcases beyond_trichotomy forward event.position again.position with between | same | past
        · exact absurd seen (passed again first.recorded between (beyond_not.mp first.ahead.1))
        · exact same.symm
        · have unseen := first.first event recorded (beyond_not.mpr moved) (beyond_not.mpr past)
          rw [frame.breakpoints] at unseen
          exact absurd visible unseen
      exact ⟨position.trans same, again, first.recorded, same, seen, tells.of_frame frame⟩

end Return

end TtdProcess

/-! ## Every run -/

section Runs

variable {σ : Type} [SdkCursor σ] [LawfulSdkCursor σ] [SdkWatchpoints σ] [SdkSubscription σ]
  {log : TraceLog} {threads : List TtdThreadInfo} {firstPosition lastPosition : TtdPosition}
  {persistent step : σ} {probe : Option σ} {ops : List Op} {process : TtdProcess σ}

/-- After every run of operations, whatever failed in them, a continue in either
direction ends at the first event that the clients' breakpoints take or that is
an exception to stop at, and the client is told so. -/
theorem showsFirst_of_run (plays : PlaysLog σ log)
    (blank : SdkWatchpoints.registered persistent = ∅)
    (holders : ∀ event ∈ log.events, lastHolder threads event.thread.id = some event.thread)
    (few : ops.length + 1 < 2 ^ 64)
    (run : Run TtdProcess.perform AnyStep
      (.openTrace (.new threads log.exceptions firstPosition lastPosition) persistent step probe)
      ops process) (forward : Bool) {fuel : Nat} (enough : log.events.length < fuel) :
    ∃ reason after, process.continueIn forward fuel = some (.returned (.ok reason), after) ∧
      process.ShowsFirst log (LawfulSdkCursor.round σ process.position) forward reason after :=
  (TtdProcess.armed_of_run blank few run).showsFirst plays holders forward enough

/-- If the first continue left an event that is to be shown, the opposite one comes
back to it. -/
theorem returns_of_run (plays : PlaysLog σ log)
    (blank : SdkWatchpoints.registered persistent = ∅)
    (holders : ∀ event ∈ log.events, lastHolder threads event.thread.id = some event.thread)
    (few : ops.length + 2 < 2 ^ 64)
    (run : Run TtdProcess.perform AnyStep
      (.openTrace (.new threads log.exceptions firstPosition lastPosition) persistent step probe)
      ops process) (forward : Bool) {fuel : Nat} (enough : log.events.length < fuel)
    {event : TraceEvent} (recorded : event ∈ log.events)
    (visible : event.Visible process.breakpoints.manager)
    (here : LawfulSdkCursor.round σ process.position = event.position)
    (before : Beyond forward event.position (process.continueLimit forward))
    (inside : ¬Beyond (!forward) (process.continueLimit (!forward)) event.position) :
    ∃ reason after told back,
      process.continueIn forward fuel = some (.returned (.ok reason), after) ∧
        after.continueIn (!forward) fuel = some (.returned (.ok told), back) ∧
        back.position = event.position ∧
        ∃ again ∈ log.events, again.position = event.position ∧
          again.Visible process.breakpoints.manager ∧ process.Tells (!forward) again told :=
  (TtdProcess.armed_of_run blank (by omega) run).returns few plays holders forward enough recorded
    visible here before inside

end Runs

/-- A program that throws, and executes `0x1000` on its first thread and then
twice on its second one. -/
def twoThreadedLog : TraceLog where
  events :=
    [⟨⟨2, 0⟩, ⟨2, 0x100⟩, .exception .cPlusPlus 0xE06D7363 0x7000 0x7000⟩,
      ⟨⟨3, 0⟩, ⟨2, 0x100⟩, .access 0x1000 1 2⟩, ⟨⟨4, 0⟩, ⟨5, 0x200⟩, .access 0x1000 1 2⟩,
      ⟨⟨6, 0⟩, ⟨5, 0x200⟩, .access 0x1000 1 2⟩]
  ordered := by decide +kernel

/-- The threads of the trace. -/
def twoThreads : List TtdThreadInfo := [⟨2, 0x100⟩, ⟨5, 0x200⟩]

/-- A cursor that nobody has used. -/
def idleCursor : LogCursor twoThreadedLog := ⟨⟨0, 0⟩, ∅, ⟨0⟩, ⟨0⟩⟩

/-- The trace, just opened. -/
def twoThreadedTrace : TtdProcess (LogCursor twoThreadedLog) :=
  .openTrace (.new twoThreads twoThreadedLog.exceptions ⟨1, 0⟩ ⟨9, 0⟩) idleCursor idleCursor none

/-- A breakpoint for the second thread, and a query. -/
def twoThreadedOps : List Op :=
  [.breakpoint (.setBreakpoint 0x1000 (some 0x200)), .query .activeThreadIds]

/-- The continue passes the throw and the first thread. -/
theorem twoThreadedTrace_showsFirst :
    ∃ process reason after,
      Run TtdProcess.perform AnyStep twoThreadedTrace twoThreadedOps process ∧
        process.continueIn true 5 = some (.returned (.ok reason), after) ∧
        process.ShowsFirst twoThreadedLog process.position true reason after ∧
        reason = .breakpoint 1 0x1000 ∧ after.position = ⟨4, 0⟩ := by
  obtain ⟨process, executed, continued⟩ := Option.bind_eq_some_iff.mp
    (show ((exec TtdProcess.perform twoThreadedTrace twoThreadedOps).bind fun process =>
        (process.continueIn true 5).map fun (outcome, after) => (outcome, after.position)) =
      some (.returned (.ok (.breakpoint 1 0x1000)), ⟨4, 0⟩) by decide +kernel)
  have run := run_of_exec executed
  obtain ⟨reason, after, ran, shows⟩ := showsFirst_of_run (LogCursor.playsLog twoThreadedLog) rfl
    (by decide) (by decide) run true (Nat.lt_succ_self 4)
  rw [ran, Option.map_some, Option.some.injEq, Prod.mk.injEq] at continued
  obtain ⟨outcome, position⟩ := continued
  cases outcome
  exact ⟨process, _, after, run, ran, shows, rfl, position⟩

/-- From the breakpoint to its next hit and back. -/
theorem twoThreadedTrace_returns :
    ∃ process reason after told back,
      Run TtdProcess.perform AnyStep twoThreadedTrace
          (twoThreadedOps ++ [.exec .continueForward 5]) process ∧
        process.continueIn true 5 = some (.returned (.ok reason), after) ∧
        after.continueIn false 5 = some (.returned (.ok told), back) ∧
        process.position = ⟨4, 0⟩ ∧ back.position = ⟨4, 0⟩ := by
  obtain ⟨process, executed, state⟩ := Option.map_eq_some_iff.mp
    (show (exec TtdProcess.perform twoThreadedTrace
        (twoThreadedOps ++ [.exec .continueForward 5])).map (fun process =>
          (process.position, process.breakpoints.manager.active, process.lifetime)) =
      some (⟨4, 0⟩, [⟨1, 0x1000, 1, .execute, .execute, some 0x200⟩], ⟨1, 0⟩, ⟨9, 0⟩) by
        decide +kernel)
  obtain ⟨position, active, lifetime⟩ : process.position = ⟨4, 0⟩ ∧
      process.breakpoints.manager.active = [⟨1, 0x1000, 1, .execute, .execute, some 0x200⟩] ∧
      process.lifetime = (⟨1, 0⟩, ⟨9, 0⟩) := by simpa using state
  have run := run_of_exec executed
  have recorded : (⟨⟨4, 0⟩, ⟨5, 0x200⟩, .access 0x1000 1 2⟩ : TraceEvent) ∈
      twoThreadedLog.events := by simp [twoThreadedLog]
  have visible : (⟨⟨4, 0⟩, ⟨5, 0x200⟩, .access 0x1000 1 2⟩ : TraceEvent).Visible
      process.breakpoints.manager :=
    ⟨⟨1, 0x1000, 1, .execute, .execute, some 0x200⟩, by simp [active], .inr rfl, by decide, rfl⟩
  obtain ⟨reason, after, told, back, ran, returned, same, -⟩ :=
    returns_of_run (LogCursor.playsLog twoThreadedLog) rfl (by decide) (by decide) run true
      (Nat.lt_succ_self 4) recorded visible position
      (by simp only [TtdProcess.continueLimit, lifetime]; decide +kernel)
      (by simp only [TtdProcess.continueLimit, lifetime]; decide +kernel)
  exact ⟨process, reason, after, told, back, run, ran, returned, position, same⟩

end TtdGdbserver.Target
