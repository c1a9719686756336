import TtdGdbserver.Target.TraceLog

/-!
# Where the replay of a continue halts

On an engine that plays a log, a replay call ends at the first exception or
access of a breakpoint, and the loop of a continue passes the exceptions that do
not count.  Together they end at the first event that is to be shown.
-/

namespace TtdGdbserver.Target

open TtdGdbserver.Ttd TtdGdbserver.Transition

/-! ## What the callback makes of an event -/

/-- The breakpoint that a call of the callback selects. -/
def BreakpointState.selects (breakpoints : BreakpointState) (hit : WatchpointHit) :
    Option Breakpoint :=
  breakpoints.findByWatchpointHitAndThread hit.address hit.size
    (DataAccessType.ofU8 hit.access).mask hit.thread.toUInt64

namespace TraceEvent

/-- The breakpoint that takes the access. -/
def breakpoint (breakpoints : BreakpointState) (event : TraceEvent) : Option Breakpoint :=
  event.hit.bind breakpoints.selects

/-- A replay call of a continue halts here. -/
def halts (breakpoints : BreakpointState) (event : TraceEvent) : Bool :=
  event.isException || (event.breakpoint breakpoints).isSome

/-- A live debugger stops at the exception. -/
def raises (event : TraceEvent) : Bool :=
  event.catalogued.any fun entry => !firstChanceExceptionCodes.contains entry.code

/-- A continue ends here. -/
def shown (breakpoints : BreakpointState) (event : TraceEvent) : Bool :=
  event.raises || (event.breakpoint breakpoints).isSome

theorem breakpoint_exception {breakpoints : BreakpointState} {event : TraceEvent}
    (exception : event.isException = true) : event.breakpoint breakpoints = none := by
  unfold isException at exception
  unfold breakpoint hit
  cases occurs : event.occurrence with
  | access => simp [occurs] at exception
  | exception => rfl

theorem catalogued_of_isException {event : TraceEvent} (exception : event.isException = true) :
    ∃ entry, event.catalogued = some entry := by
  unfold isException at exception
  unfold catalogued
  cases occurs : event.occurrence with
  | access => simp [occurs] at exception
  | exception => exact ⟨_, rfl⟩

/-- What is shown halts the replay. -/
theorem halts_of_shown {breakpoints : BreakpointState} {event : TraceEvent}
    (shown : event.shown breakpoints = true) : event.halts breakpoints = true := by
  rcases Bool.or_eq_true_iff.mp shown with raises | taken
  · obtain ⟨entry, catalogued, -⟩ := (Option.any_eq_true ..).mp raises
    exact Bool.or_eq_true_iff.mpr (.inl (position_catalogued catalogued).2)
  · exact Bool.or_eq_true_iff.mpr (.inr taken)

end TraceEvent

/-- The subscription of a continue: it halts at every exception and watches
whatever the table selects. -/
structure Subscription.Serves (subscription : Subscription) (breakpoints : BreakpointState)
    (log : TraceLog) : Prop where
  exceptions : ∀ event : TraceEvent, subscription.haltsAt event = event.isException
  watches : ∀ event ∈ log.events, (event.breakpoint breakpoints).isSome = true →
    subscription.watches event = true

/-! ## The masks of a continue -/

theorem admits_exceptionEvent :
    admitsEvent (.memoryWatchpoint ||| .exception) .exception = true := by
  decide

theorem admits_memoryWatchpoint :
    admitsEvent (.memoryWatchpoint ||| .exception) .memoryWatchpoint = true := by
  decide

/-- The mask admits every class. -/
theorem admits_exceptionMask (class_ : ExceptionClass) :
    admitsException exceptionMask class_ = true := by
  cases class_ <;> decide

/-! ## One replay call -/

/-- Where a replay ends that halts at the given event, if any. -/
def haltPosition (forward : Bool) (start limit : TtdPosition) :
    Option TraceEvent → TtdPosition
  | some event => event.position
  | none => if Beyond forward start limit then limit else start

/-- The event type that it reports. -/
def haltType : Option TraceEvent → EventType
  | some event => event.eventType
  | none => .position

/-- How a replay call ended that was to halt at the given event, if any. -/
structure Halted {σ : Type} [SdkCursor σ] (breakpoints : BreakpointState) (forward : Bool)
    (start limit : TtdPosition) (stop : Option TraceEvent) (result : TtdReplayResult)
    (moved : ReplayCursor σ) (hitBpId : UInt64) : Prop where
  position : moved.position = haltPosition forward start limit stop
  thread : ∀ event, stop = some event → currentTid moved = event.thread.id
  reason : result.stopReason = haltType stop
  hitBpId : hitBpId =
    ((stop.bind fun event => event.breakpoint breakpoints).map Breakpoint.id).getD 0

section Call

variable {σ : Type} [SdkCursor σ] [SdkWatchpoints σ] [SdkSubscription σ] {log : TraceLog}
  {breakpoints : BreakpointState} {limit : TtdPosition} {forward : Bool}

/-- The subscription of a wrapped cursor. -/
def subscriptionOf (cursor : ReplayCursor σ) : Subscription :=
  SdkSubscription.subscription cursor.cursor

theorem subscriptionOf_replayTo {τ : Type} {callback : WatchpointFn τ} {state after : τ}
    {cursor moved : ReplayCursor σ} {outcome : Unwind (Except TtdError TtdReplayResult)}
    (replayed : replayTo cursor limit forward callback state = (outcome, moved, after)) :
    subscriptionOf moved = subscriptionOf cursor := by
  have kept : subscriptionOf (replayTo cursor limit forward callback state).2.1 =
      subscriptionOf cursor := by
    cases forward <;> exact SdkSubscription.replay _ _ _ _
  rwa [replayed] at kept

theorem hit_panics {event : TraceEvent} {hit : WatchpointHit} (put : event.hit = some hit) :
    hit.panics = none := by
  unfold TraceEvent.hit at put
  split at put
  · cases put
    rfl
  · contradiction

omit [SdkCursor σ] [SdkWatchpoints σ] [SdkSubscription σ] in
/-- The events that end the scan are those that halt the replay. -/
theorem ends_scan {subscription : Subscription} (serves : subscription.Serves breakpoints log) :
    subscription.scan.ends (fun hit => (breakpoints.selects hit).isSome) =
      TraceEvent.halts breakpoints := by
  funext event
  rw [Scan.ends, TraceEvent.halts, TraceEvent.breakpoint, Option.isSome_bind]
  exact congrArg (· || _) (serves.exceptions event)

/-- The callback answers by what the table selects, and remembers what it
selected. -/
theorem watchpointShim_matchHit {hit : WatchpointHit} (calm : hit.panics = none)
    (state : UInt64 × Option String) :
    watchpointShim (some (matchHit breakpoints)) state hit =
      ((breakpoints.selects hit).isSome,
        ((breakpoints.selects hit).map Breakpoint.id).getD state.1, state.2) := by
  simp only [watchpointShim, calm, matchHit, BreakpointState.selects]
  cases breakpoints.findByWatchpointHitAndThread hit.address hit.size
    (DataAccessType.ofU8 hit.access).mask hit.thread.toUInt64 <;> rfl

omit [SdkCursor σ] [SdkWatchpoints σ] [SdkSubscription σ] in
/-- What the callback remembers of a scan. -/
theorem stateAfter_matchHit {subscription : Subscription}
    (serves : subscription.Serves breakpoints log) (stop : Option TraceEvent) :
    Dialogue.stateAfter subscription.scan (watchpointShim (some (matchHit breakpoints)))
        ((0, none) : UInt64 × Option String) stop =
      (((stop.bind fun event => event.breakpoint breakpoints).map Breakpoint.id).getD 0,
        none) := by
  cases stop with
  | none => rfl
  | some event =>
      have exceptions : subscription.scan.halts event = event.isException :=
        serves.exceptions event
      rw [Dialogue.stateAfter, exceptions, Option.bind_some]
      cases exception : event.isException with
      | true =>
          rw [if_pos rfl, TraceEvent.breakpoint_exception exception]
          rfl
      | false =>
          rw [if_neg (by simp)]
          cases put : event.hit with
          | none => simp [Subscription.scan, put, TraceEvent.breakpoint]
          | some hit =>
              have shim : watchpointShim (some (matchHit breakpoints)) (0, none) hit = _ :=
                watchpointShim_matchHit (hit_panics put) (0, none)
              simp [Subscription.scan, put, TraceEvent.breakpoint, shim]

/-- A replay call of a continue ends at the first event that halts it. -/
theorem halted_replayTo (plays : PlaysLog σ log) (limit : TtdPosition) (forward : Bool)
    {cursor : ReplayCursor σ} (serves : (subscriptionOf cursor).Serves breakpoints log) :
    ∃ result moved hitBpId,
      replayTo cursor limit forward (matchHit breakpoints) 0 =
        (.returned (.ok result), moved, hitBpId) ∧
      Halted breakpoints forward cursor.position limit
        ((log.ahead forward cursor.position limit).find? (TraceEvent.halts breakpoints))
        result moved hitBpId := by
  have decides : ∀ (state : UInt64 × Option String) (hit : WatchpointHit), hit.panics = none →
      (watchpointShim (some (matchHit breakpoints)) state hit).1 =
        (breakpoints.selects hit).isSome := by
    intro state hit calm
    rw [watchpointShim_matchHit calm]
  have ignores : ∀ (state : UInt64 × Option String) (hit : WatchpointHit), hit.panics = none →
      (breakpoints.selects hit).isSome = false →
      (watchpointShim (some (matchHit breakpoints)) state hit).2 = state := by
    intro state hit calm unselected
    rw [Option.isSome_eq_false_iff, Option.isNone_iff_eq_none] at unselected
    rw [watchpointShim_matchHit calm, unselected]
    rfl
  have covers : (subscriptionOf cursor).scan.Covers (fun hit => (breakpoints.selects hit).isSome)
      (log.ahead forward cursor.position limit) := by
    intro event member accepted
    apply serves.watches event (TraceLog.mem_ahead.mp member).1
    rw [TraceEvent.breakpoint, Option.isSome_bind]
    exact accepted
  have scans := plays cursor.cursor limit forward
  obtain ⟨ended, remembered⟩ := scans.run decides ignores
    (fun event _ hit put => hit_panics put) covers (0, none)
  rw [ends_scan serves] at ended remembered
  rw [stateAfter_matchHit serves] at remembered
  rcases ran : (SdkCursor.replay cursor.cursor ⟨limit, stepCountMax, forward⟩).run
    (watchpointShim (some (matchHit breakpoints))) (0, none) with ⟨⟨moved, raw⟩, state⟩
  rw [ran] at ended remembered
  subst remembered
  generalize (log.ahead forward cursor.position limit).find? (TraceEvent.halts breakpoints) =
    stop at ended ran ⊢
  have reported : raw.stopReason ≠ 255 := by
    cases stop with
    | none => simp [ended.2]
    | some event => cases exception : event.isException <;> simp [ended.2.2, exception]
  refine ⟨.ofOutcome raw, ⟨moved⟩,
    ((stop.bind fun event => event.breakpoint breakpoints).map Breakpoint.id).getD 0, ?_, ?_⟩
  · have replayed : replayTo cursor limit forward (matchHit breakpoints) 0 =
        cursor.replay limit stepCountMax forward (some (matchHit breakpoints)) 0 := by
      cases forward <;> rfl
    rw [replayed, ReplayCursor.replay, ran]
    simp [reported]
  · cases stop with
    | none =>
        refine ⟨ended.1, by simp, ?_, rfl⟩
        simp [TtdReplayResult.ofOutcome, ended.2, EventType.ofU8, haltType]
    | some event =>
        refine ⟨ended.1, ?_, ?_, rfl⟩
        · rintro other ⟨⟩
          exact ended.2.1
        · cases exception : event.isException <;>
            simp [TtdReplayResult.ofOutcome, ended.2.2, EventType.ofU8, haltType,
              TraceEvent.eventType, exception]

/-! ## The loop -/

section Loop

variable {threads : List TtdThreadInfo} {firstPosition lastPosition : TtdPosition}

omit [SdkCursor σ] [SdkWatchpoints σ] [SdkSubscription σ] in
/-- The loop goes on from a halt exactly if it is not to be shown. -/
theorem passes_iff {event : TraceEvent} (recorded : event ∈ log.events)
    (halts : event.halts breakpoints = true) {previous : Option TtdPosition}
    (advanced : previous ≠ some event.position) {result : TtdReplayResult}
    (reason : result.stopReason = event.eventType) :
    PassesException (.new threads log.exceptions firstPosition lastPosition) previous result
        event.position ↔ event.shown breakpoints = false := by
  unfold PassesException TraceEvent.shown
  cases exception : event.isException with
  | true =>
      obtain ⟨entry, catalogued⟩ := TraceEvent.catalogued_of_isException exception
      have found := log.exceptionAt_catalogued recorded catalogued threads firstPosition
        lastPosition
      simp [reason, TraceEvent.eventType, exception, advanced, IsFirstChance,
        TraceMetadata.exceptionCodeAt, found, TraceEvent.raises, catalogued,
        TraceEvent.breakpoint_exception exception]
  | false =>
      simp only [TraceEvent.halts, exception, Bool.false_or] at halts
      simp [reason, TraceEvent.eventType, exception, halts]

omit [SdkCursor σ] [SdkWatchpoints σ] [SdkSubscription σ] in
/-- The rest of the way ends where the whole way does. -/
theorem haltPosition_ahead {start : TtdPosition} {event : TraceEvent}
    (ahead : TraceLog.IsAhead forward start limit event) (stop : Option TraceEvent) :
    haltPosition forward event.position limit stop = haltPosition forward start limit stop := by
  cases stop with
  | some other => rfl
  | none =>
      rcases beyond_trichotomy forward event.position limit with before | atLimit | past
      · simp [haltPosition, before, ahead.1.trans before]
      · subst atLimit
        simp [haltPosition, ahead.1]
      · exact absurd past ahead.2

/-- The loop of a continue ends at the first event to be shown. -/
theorem halted_loop (plays : PlaysLog σ log) {fuel : Nat} {previous : Option TtdPosition}
    {cursor : ReplayCursor σ} (serves : (subscriptionOf cursor).Serves breakpoints log)
    (here : ∀ position, previous = some position → position = cursor.position)
    (enough : (log.ahead forward cursor.position limit).length < fuel) :
    ∃ result moved hitBpId,
      replayPastTransparentExceptions (.new threads log.exceptions firstPosition lastPosition)
          limit forward (matchHit breakpoints) fuel previous cursor 0 =
        some (.returned (.ok result), moved, hitBpId) ∧
      Halted breakpoints forward cursor.position limit
        ((log.ahead forward cursor.position limit).find? (TraceEvent.shown breakpoints))
        result moved hitBpId := by
  induction fuel generalizing previous cursor with
  | zero => contradiction
  | succ fuel ih =>
      obtain ⟨result, moved, hitBpId, replayed, halted⟩ :=
        halted_replayTo plays limit forward serves
      rw [replayPastTransparentExceptions_returned replayed]
      cases stop : (log.ahead forward cursor.position limit).find?
          (TraceEvent.halts breakpoints) with
      | none =>
          rw [stop] at halted
          have nothing : (log.ahead forward cursor.position limit).find?
              (TraceEvent.shown breakpoints) = none := by
            rw [List.find?_eq_none] at stop ⊢
            exact fun event member shown => stop event member (TraceEvent.halts_of_shown shown)
          have atLimit : result.stopReason ≠ .exception := by simp [halted.reason, haltType]
          rw [if_neg fun passes => atLimit passes.1, nothing]
          exact ⟨_, _, _, rfl, halted⟩
      | some event =>
          rw [stop] at halted
          obtain ⟨halts, before, after, split, skipped⟩ := List.find?_eq_some_iff_append.mp stop
          have member : event ∈ log.ahead forward cursor.position limit := by
            rw [split]
            simp
          obtain ⟨recorded, ahead⟩ := TraceLog.mem_ahead.mp member
          have advanced : previous ≠ some event.position := fun same =>
            ahead.1.ne (here event.position same).symm
          have unshown : before.find? (TraceEvent.shown breakpoints) = none := by
            rw [List.find?_eq_none]
            intro other earlier shown
            have missed := skipped other earlier
            rw [TraceEvent.halts_of_shown shown] at missed
            contradiction
          have landed : moved.position = event.position := halted.position
          rw [landed, if_congr (passes_iff recorded halts advanced halted.reason) rfl rfl, split,
            List.find?_append, unshown, Option.none_or]
          cases shown : event.shown breakpoints with
          | true =>
              rw [if_neg (by simp), List.find?_cons_of_pos shown]
              exact ⟨_, _, _, rfl, halted⟩
          | false =>
              have untaken : (event.breakpoint breakpoints).isSome = false :=
                (Bool.or_eq_false_iff.mp shown).2
              have exception : event.isException = true := by
                rw [TraceEvent.halts, untaken, Bool.or_false] at halts
                exact halts
              have unmatched : hitBpId = 0 := by
                rw [halted.hitBpId, Option.bind_some, TraceEvent.breakpoint_exception exception]
                rfl
              have rest := TraceLog.ahead_exception split exception
              rw [← landed] at rest
              rw [if_pos rfl, unmatched, List.find?_cons_of_neg (by simp [shown])]
              obtain ⟨final, finish, matched, ran, finished⟩ := ih
                ((subscriptionOf_replayTo replayed).symm ▸ serves)
                (fun position same => (Option.some.inj same).symm.trans landed.symm)
                (by
                  rw [rest]
                  rw [split, List.length_append, List.length_cons] at enough
                  omega)
              rw [rest, landed] at finished
              refine ⟨final, finish, matched, landed ▸ ran, ?_, finished.thread, finished.reason,
                finished.hitBpId⟩
              rw [finished.position, haltPosition_ahead ahead]

end Loop

/-- The loop leaves the subscription alone. -/
theorem subscriptionOf_loop {τ : Type} {metadata : TraceMetadata} {callback : WatchpointFn τ}
    {fuel : Nat} {previous : Option TtdPosition} {cursor moved : ReplayCursor σ}
    {state after : τ} {outcome : Unwind (Except TtdError TtdReplayResult)}
    (ran : replayPastTransparentExceptions metadata limit forward callback fuel previous cursor
      state = some (outcome, moved, after)) : subscriptionOf moved = subscriptionOf cursor := by
  induction fuel generalizing previous cursor state with
  | zero => contradiction
  | succ fuel ih =>
      rcases replayed : replayTo cursor limit forward callback state with ⟨reported, here, next⟩
      have stayed := subscriptionOf_replayTo replayed
      cases reported with
      | panicked payload =>
          rw [replayPastTransparentExceptions, replayed] at ran
          cases ran
          exact stayed
      | returned returned =>
          cases returned with
          | error error =>
              rw [replayPastTransparentExceptions, replayed] at ran
              cases ran
              exact stayed
          | ok result =>
              rw [replayPastTransparentExceptions_returned replayed] at ran
              split at ran
              · exact (ih ran).trans stayed
              · cases ran
                exact stayed

end Call

end TtdGdbserver.Target
