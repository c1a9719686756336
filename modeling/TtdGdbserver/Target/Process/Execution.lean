import TtdGdbserver.Target.Process.Core

/-!
# Execution control

Steps run on the step cursor, one replay call each.  A continue runs on the
persistent cursor with the breakpoint-matching callback installed and replays
past the exceptions a live debugger passes through.  Loops take fuel; `none`
means that it ran out.
-/

namespace TtdGdbserver.Target

open TtdGdbserver.Ttd

/-- The MSVC and MinGW/GCC C++ exception codes. -/
def firstChanceExceptionCodes : List UInt32 := [0xE06D7363, 0x20474343]

section Continue

variable {σ : Type} [SdkCursor σ] {τ : Type}

/-- One filtered replay.  A skipped exception costs one more replay call; a
position that does not advance ends the loop. -/
def replayPastTransparentExceptions (metadata : TraceMetadata) (limit : TtdPosition)
    (forward : Bool) (callback : WatchpointFn τ) :
    (fuel : Nat) → (previous : Option TtdPosition) → ReplayCursor σ → τ →
      Option (Unwind (Except TtdError TtdReplayResult) × ReplayCursor σ × τ)
  | 0, _, _, _ => none
  | fuel + 1, previous, cursor, state =>
      match replayTo cursor limit forward callback state with
      | (.panicked payload, cursor, state) => some (.panicked payload, cursor, state)
      | (.returned (.error _), cursor, state) =>
          some (.returned (.error (.ffi "replay failed")), cursor, state)
      | (.returned (.ok result), cursor, state) =>
          if result.stopReason ≠ .exception then
            some (.returned (.ok result), cursor, state)
          else
            let position := positionOf cursor
            if previous = some position then some (.returned (.ok result), cursor, state)
            else
              match metadata.exceptionCodeAt position with
              | none => some (.returned (.ok result), cursor, state)
              | some code =>
                  if firstChanceExceptionCodes.contains code then
                    replayPastTransparentExceptions metadata limit forward callback fuel
                      (some position) cursor state
                  else some (.returned (.ok result), cursor, state)

/-- Callbacks that answer alike make a filtered replay end alike. -/
theorem replayPastTransparentExceptions_project {τ' : Type} {project : τ → τ'}
    {callback : WatchpointFn τ} {callback' : WatchpointFn τ'}
    (alike : ReplayCursor.AnswersAlike project callback callback') (metadata : TraceMetadata)
    (limit : TtdPosition) (forward : Bool) (fuel : Nat) (previous : Option TtdPosition)
    (cursor : ReplayCursor σ) (state : τ) :
    replayPastTransparentExceptions metadata limit forward callback' fuel previous cursor
        (project state) =
      (replayPastTransparentExceptions metadata limit forward callback fuel previous cursor
        state).map (Prod.map id (Prod.map id project)) := by
  induction fuel generalizing previous cursor state with
  | zero => rfl
  | succ fuel ih =>
      have replays : replayTo cursor limit forward callback' (project state) =
          Prod.map id (Prod.map id project) (replayTo cursor limit forward callback state) := by
        cases forward <;> exact ReplayCursor.replay_project alike _ _ _ _ _
      rw [replayPastTransparentExceptions, replayPastTransparentExceptions, replays]
      rcases replayTo cursor limit forward callback state with ⟨outcome, moved, next⟩
      cases outcome with
      | panicked payload => rfl
      | returned returned =>
          cases returned with
          | error error => rfl
          | ok result =>
              simp only [Prod.map_apply, id]
              by_cases isException : result.stopReason = .exception
              · by_cases stuck : previous = some (positionOf moved)
                · simp [isException, stuck]
                · simp only [isException, ne_eq, not_true_eq_false, if_false, stuck]
                  cases metadata.exceptionCodeAt (positionOf moved) with
                  | none => rfl
                  | some code =>
                      by_cases transparent : firstChanceExceptionCodes.contains code = true
                      · simp only [transparent, if_true]
                        exact ih _ _ _
                      · simp only [transparent, Bool.false_eq_true, if_false]
                        rfl
              · simp [isException]

/-- The breakpoint-matching callback; its state is the id of the last breakpoint
hit, 0 if none. -/
def matchHit (breakpoints : BreakpointState) : WatchpointFn UInt64 :=
  fun hitBpId addr size access threadId =>
    match breakpoints.findByWatchpointHitAndThread addr size access threadId.toUInt64 with
    | some bp => (true, bp.id)
    | none => (false, hitBpId)

end Continue

/-! ## Stop reasons -/

/-- The part of the stop reason that the hit id and the position decide;
`none` leaves it to the replay result. -/
def classifyContinueStop (result : TtdReplayResult) (hitBpId : UInt64)
    (bp : Option Breakpoint) (forward : Bool) (position : TtdPosition)
    (lifetime : TtdPosition × TtdPosition) (endsWithProcessExit : Bool) :
    Option StopReason :=
  if hitBpId ≠ 0 then
    let addr := (bp.map Breakpoint.addr).getD result.wpAddress
    let watchpoint : StopReason :=
      .watchpoint hitBpId addr ((bp.map Breakpoint.access).getD result.wpAccessType.mask)
    match bp with
    | some b => some (if b.kind = .execute then .breakpoint hitBpId addr else watchpoint)
    | none => some watchpoint
  else if forward ∧ endsWithProcessExit ∧ position ≥ lifetime.2 then some .processExit
  else if forward ∧ result.stopReason = .process then some .processExit
  else if ¬forward ∧ position ≤ lifetime.1 then some .traceStart
  else if forward ∧ position ≥ lifetime.2 then some .traceEnd
  else none

namespace TtdProcess

variable {σ : Type} [SdkCursor σ]

/-- Enrich an exception stop with the code and address recorded at the stop
position. -/
def enrichException (process : TtdProcess σ) (reason : StopReason) : StopReason :=
  match reason with
  | .exception code _ =>
      if code = 0 then
        match process.metadata.exceptionAt process.position with
        | some event => .exception event.code event.recordAddress
        | none => reason
      else reason
  | _ => reason

/-! ## Continue -/

/-- Before the replay of a continue: set the exception mask, position the
persistent cursor and count the replay. -/
def beginContinue (process : TtdProcess σ) : TtdProcess σ :=
  let persistent := process.cursors.persistent
  let process := process.withPersistent
    (persistent.withCursor (persistent.cursor.setExceptionMask exceptionMask))
  let process := process.atPosition process.position
  process.bump fun stats => { stats with replays := stats.replays + 1 }

/-- After the replay of a continue: a failed or unwinding replay may have moved
the cursor, so its position is forgotten. -/
def endContinue {τ : Type} (process : TtdProcess σ)
    (replayed : Unwind (Except TtdError TtdReplayResult) × ReplayCursor σ × τ) :
    Unwind (Except DebugError (TtdReplayResult × τ)) × TtdProcess σ :=
  let (outcome, cursor, state) := replayed
  let moved := process.cursors.persistent.withCursor cursor
  match outcome with
  | .returned (.ok result) => (.returned (.ok (result, state)), process.withPersistent moved)
  | .returned (.error error) =>
      (.returned (.error (.ttd error)), process.withPersistent moved.invalidate)
  | .panicked payload => (.panicked payload, process.withPersistent moved.invalidate)

/-- Run one filtered continue on the persistent cursor with the given callback:
the replay result and the callback's final state. -/
def replayWatchpointFilteredWith {τ : Type} (process : TtdProcess σ) (callback : WatchpointFn τ)
    (initial : τ) (limit : TtdPosition) (forward : Bool) (fuel : Nat) :
    Option (Unwind (Except DebugError (TtdReplayResult × τ)) × TtdProcess σ) :=
  let process := process.beginContinue
  let cursor := process.cursors.persistent.cursor.setEventMask (.memoryWatchpoint ||| .exception)
  (replayPastTransparentExceptions process.metadata limit forward callback fuel none cursor
    initial).map process.endContinue

/-- The continue with the breakpoint-matching callback: the replay result and
the id of the breakpoint hit, or 0. -/
def replayWatchpointFiltered (process : TtdProcess σ) (limit : TtdPosition) (forward : Bool)
    (fuel : Nat) :
    Option (Unwind (Except DebugError (TtdReplayResult × UInt64)) × TtdProcess σ) :=
  process.replayWatchpointFilteredWith (matchHit process.breakpoints) 0 limit forward fuel

theorem sameDebugState_beginContinue (process : TtdProcess σ) :
    SameDebugState process.beginContinue process := by
  unfold beginContinue
  exact ((sameDebugState_bump _ _).trans (sameDebugState_atPosition _ _)).trans
    (sameDebugState_withPersistent process _)

omit [SdkCursor σ] in
theorem sameDebugState_endContinue {τ : Type} (process : TtdProcess σ)
    (replayed : Unwind (Except TtdError TtdReplayResult) × ReplayCursor σ × τ) :
    SameDebugState (process.endContinue replayed).2 process := by
  rcases replayed with ⟨outcome, cursor, state⟩
  cases outcome with
  | panicked payload => exact sameDebugState_withPersistent _ _
  | returned result => cases result <;> exact sameDebugState_withPersistent _ _

/-- A continue moves the persistent cursor and leaves the debug state to its
caller. -/
theorem sameDebugState_replayWatchpointFilteredWith {τ : Type} {process after : TtdProcess σ}
    {callback : WatchpointFn τ} {initial : τ} {limit : TtdPosition} {forward : Bool}
    {fuel : Nat} {outcome : Unwind (Except DebugError (TtdReplayResult × τ))}
    (ran : process.replayWatchpointFilteredWith callback initial limit forward fuel =
      some (outcome, after)) : SameDebugState after process := by
  obtain ⟨replayed, -, finished⟩ := Option.map_eq_some_iff.mp ran
  have ended := sameDebugState_endContinue process.beginContinue replayed
  rw [finished] at ended
  exact ended.trans (sameDebugState_beginContinue process)

/-- Translate a finished continue into a stop reason. -/
def resolveContinueStop (process : TtdProcess σ) (result : TtdReplayResult) (hitBpId : UInt64)
    (forward : Bool) : Except DebugError StopReason :=
  let bp := if hitBpId ≠ 0 then process.breakpoints.get hitBpId else none
  match classifyContinueStop result hitBpId bp forward process.position process.lifetime
      process.endsWithProcessExit with
  | some reason => .ok reason
  | none =>
      match StopReason.tryFrom result with
      | .ok reason => .ok (process.enrichException reason)
      | .error error => .error (.ttd error)

/-- Replay with watchpoints, adopt where the replay stopped and resolve the
reason. -/
def watchpointReplay (process : TtdProcess σ) (limit : TtdPosition) (forward : Bool)
    (fuel : Nat) : Option (Unwind (Except DebugError StopReason) × TtdProcess σ) :=
  (process.replayWatchpointFiltered limit forward fuel).map fun (outcome, process) =>
    match outcome with
    | .returned (.ok (result, hitBpId)) =>
        let process := process.adoptCursorPosition
        (.returned (process.resolveContinueStop result hitBpId forward), process)
    | .returned (.error error) => (.returned (.error error), process)
    | .panicked payload => (.panicked payload, process)

/-- `continue_forward`: to the end of the trace. -/
def continueForward (process : TtdProcess σ) (fuel : Nat) :
    Option (Unwind (Except DebugError StopReason) × TtdProcess σ) :=
  process.watchpointReplay process.lifetime.2 true fuel

/-- `continue_backward`: to its start. -/
def continueBackward (process : TtdProcess σ) (fuel : Nat) :
    Option (Unwind (Except DebugError StopReason) × TtdProcess σ) :=
  process.watchpointReplay process.lifetime.1 false fuel

/-! ## Single steps -/

/-- The replay call of one single step on `cursor`. -/
def stepReplay (cursor : ReplayCursor σ) (backward : Bool) :
    Unwind (Except TtdError TtdReplayResult) × ReplayCursor σ :=
  if backward then cursor.replayBackwardSteps 1 else cursor.replayForwardSteps 1

/-- The stop reason of a single step.  `unwrap_or` is eager: the replay result
is translated, and its error returned, whatever the position says. -/
def resolveStep (process : TtdProcess σ) (result : TtdReplayResult) (backward : Bool) :
    Except DebugError StopReason :=
  match StopReason.tryFrom result with
  | .error error => .error (.ttd error)
  | .ok translated =>
      let reason := (classifyContinueStop result 0 none (!backward) process.position
        process.lifetime process.endsWithProcessExit).getD translated
      .ok (process.enrichException reason)

/-- Single-step on the step cursor.  Thread id 0 keeps the current thread. -/
def stepOnStepCursor (process : TtdProcess σ) (backward : Bool) :
    Unwind (Except DebugError StopReason) × TtdProcess σ :=
  let (seeked, step) := process.cursors.step.prepare process.position
  match stepReplay step.cursor backward with
  | (.panicked payload, cursor) => (.panicked payload, process.withStep (step.withCursor cursor))
  | (.returned (.error _), cursor) =>
      let error := TtdError.ffi (if backward then "step_backward failed" else "step_forward failed")
      (.returned (.error (.ttd error)), process.withStep (step.withCursor cursor).invalidate)
  | (.returned (.ok result), cursor) =>
      let position := positionOf cursor
      let tid := currentTid cursor
      let process := process.withStep ((step.withCursor cursor).notePosition position)
      let process := process.bumpSeek seeked
      let process := process.bump fun stats => { stats with steps := stats.steps + 1 }
      let process := { process with
        position := position
        currentThreadId := if tid ≠ 0 then some tid.toUInt64 else process.currentThreadId }
      (.returned (process.resolveStep result backward), process)

/-- `step`. -/
def step (process : TtdProcess σ) : Unwind (Except DebugError StopReason) × TtdProcess σ :=
  process.stepOnStepCursor false

/-- `step_back`. -/
def stepBack (process : TtdProcess σ) : Unwind (Except DebugError StopReason) × TtdProcess σ :=
  process.stepOnStepCursor true

end TtdProcess

/-! ## Range steps -/

/-- The loop of a range step over a state `S`: poll for an interrupt, step, read
the PC, and stop when it left the range or the position did not advance.
`interrupted` tells what the poll of each iteration finds; no PC ends the
range. -/
def rangeLoop {S : Type} (interrupted : Nat → Bool)
    (step : S → Unwind (Except DebugError StopReason) × S) (readPc : S → Option UInt64 × S)
    (position : S → TtdPosition) (inRange : UInt64 → Bool) :
    (fuel iteration : Nat) → (previous : TtdPosition) → S →
      Option (Unwind (Except DebugError StopReason) × S)
  | 0, _, _, _ => none
  | fuel + 1, iteration, previous, state =>
      if interrupted iteration then some (.returned (.ok .interrupted), state)
      else
        match step state with
        | (.returned (.ok .stepComplete), state) =>
            match readPc state with
            | (none, state) => some (.returned (.ok .stepComplete), state)
            | (some pc, state) =>
                if !inRange pc then some (.returned (.ok .stepComplete), state)
                else
                  let now := position state
                  if now ≤ previous then some (.returned (.ok .stepComplete), state)
                  else rangeLoop interrupted step readPc position inRange fuel (iteration + 1)
                    now state
        | (outcome, state) => some (outcome, state)

/-- Whether a PC lies in `[start, end)`. -/
def pcInRange (start finish pc : UInt64) : Bool :=
  decide (start ≤ pc) && decide (pc < finish)

namespace TtdProcess

variable {σ : Type} [SdkCursor σ]

/-- The PC of a thread at the step cursor, 0 if it has none. -/
def stepCursorPc (process : TtdProcess σ) (tid : UInt32) : UInt64 :=
  match process.cursors.step.cursor.amd64Context tid with
  | .ok regs => regs.rip
  | .error _ => 0

/-- Range step on the step cursor.  `epoch` is what each iteration loads from
the interrupt epoch. -/
def stepRange (process : TtdProcess σ) (threadId : Option UInt64) (start finish : UInt64)
    (epoch : Nat → UInt64) (fuel : Nat) :
    Option (Unwind (Except DebugError StopReason) × TtdProcess σ) :=
  if start ≥ finish then some (process.stepOnStepCursor false)
  else
    let tid := process.stepRangeTid threadId
    rangeLoop (fun iteration => epoch iteration != 0) step
      (fun process => (some (process.stepCursorPc tid), process)) TtdProcess.position
      (pcInRange start finish) fuel 0 process.position process

/-- The portable range step of the trait, over `step` and `threadState`. -/
def stepRangeDefault (process : TtdProcess σ) (threadId : Option UInt64)
    (start finish : UInt64) (fuel : Nat) :
    Option (Unwind (Except DebugError StopReason) × TtdProcess σ) :=
  rangeLoop (fun _ => false) step
    (fun process =>
      let (state, process) := process.threadState threadId
      (state.map fun (regs, _) => regs.rip, process))
    TtdProcess.position (pcInRange start finish) fuel 0 process.position process

end TtdProcess

end TtdGdbserver.Target
