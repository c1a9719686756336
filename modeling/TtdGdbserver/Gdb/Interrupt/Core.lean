import TtdGdbserver.Gdb.Runner.Turn
import TtdGdbserver.Target.Process.Transparent
import TtdGdbserver.Transition.Cancellation

/-!
# A continue and the interrupt handle

The continue job as a closure of the runner, cut at every effect that the
interrupt handle may see: the cursor is published, the loop over the transparent
exceptions issues one replay call after the other, and the cursor is withdrawn.
The handle counts the epoch up, loads the published cursor and interrupts it.

What a replay call returns is a choice of the engine.  A call that was
interrupted is cancelled: it does not end at an event.
-/

namespace TtdGdbserver.Gdb

open TtdGdbserver.Target TtdGdbserver.Transition TtdGdbserver.Ttd

/-! ## The memory between the threads -/

/-- A replay call in flight, and whether it was interrupted. -/
structure EngineCall where
  number : Nat
  told : Bool
  deriving DecidableEq, Repr

/-- The interrupt epoch, the slot of the cursor and the engine behind it. -/
structure ReplayChannel where
  interruptEpoch : UInt64
  /-- The slot names the cursor. -/
  published : Bool
  inFlight : Option EngineCall
  issued : Nat
  deriving DecidableEq, Repr

/-- Nothing was published and nobody asked for an interrupt. -/
def ReplayChannel.new : ReplayChannel :=
  ⟨0, false, none, 0⟩

/-! ## The continue -/

/-- What a replay call returns and where it leaves the cursor. -/
structure EngineReturn where
  outcome : Unwind (Except TtdError TtdReplayResult)
  position : TtdPosition

/-- A cancelled call may end like this. -/
def EngineReturn.isCancelled (call : EngineReturn) : Bool :=
  match call.outcome with
  | .returned (.ok result) => result.stopReason == .interrupted
  | _ => true

/-- The closures of a continue. -/
inductive ContinueJob where
  /-- About to publish the cursor; the callback and the event mask are set. -/
  | beginning
  /-- In the loop, about to issue a replay call. -/
  | turning (previous : Option TtdPosition)
  /-- In a replay call. -/
  | calling (previous : Option TtdPosition)
  /-- About to withdraw the cursor. -/
  | unpublishing (outcome : Unwind (Except TtdError TtdReplayResult))
  /-- About to resolve the stop reason. -/
  | resolving (outcome : Unwind (Except TtdError TtdReplayResult))
  /-- The stop that an interrupted continue reports. -/
  | interrupted
  deriving DecidableEq, Repr

/-- What the worker reports. -/
inductive ContinueReport where
  | replayed (result : TtdReplayResult)
  | failed (error : TtdError)
  | interrupted
  deriving DecidableEq, Repr

namespace ContinueJob

/-- The loop after a replay call. -/
def afterCall (metadata : TraceMetadata) (previous : Option TtdPosition)
    (outcome : Unwind (Except TtdError TtdReplayResult)) (position : TtdPosition) : ContinueJob :=
  match outcome with
  | .returned (.ok result) =>
      if PassesException metadata previous result position then .turning (some position)
      else .unpublishing (.returned (.ok result))
  | .returned (.error _) => .unpublishing (.returned (.error (.ffi "replay failed")))
  | .panicked payload => .unpublishing (.panicked payload)

/-- The closure issues no replay call any more. -/
def isPastLoop : ContinueJob → Bool
  | .beginning | .turning _ | .calling _ => false
  | .unpublishing _ | .resolving _ | .interrupted => true

/-- The end of a continue. -/
def ending (outcome : Unwind (Except TtdError TtdReplayResult)) : Ending ContinueReport :=
  match outcome with
  | .returned (.ok result) => .returned (.replayed result)
  | .returned (.error error) => .returned (.failed error)
  | .panicked payload => .panicked (.string payload)

/-- One step of a closure. -/
def run (metadata : TraceMetadata) (call : EngineReturn) (closure : ContinueJob)
    (channel : ReplayChannel) :
    Option (Progress ContinueJob ContinueReport × ReplayChannel × List CallEvent) :=
  match closure with
  | .beginning => some (.running (.turning none), { channel with published := true }, [])
  | .turning previous =>
      some (.running (.calling previous),
        { channel with inFlight := some ⟨channel.issued, false⟩, issued := channel.issued + 1 },
        [.issued channel.issued])
  | .calling previous =>
      match channel.inFlight with
      | none => none
      | some current =>
          if current.told ∧ ¬call.isCancelled then none
          else
            let next := afterCall metadata previous call.outcome call.position
            some (.running next, { channel with inFlight := none },
              [.returned current.number next.isPastLoop])
  | .unpublishing outcome =>
      some (.running (.resolving outcome), { channel with published := false }, [])
  | .resolving outcome => some (.ended (ending outcome), channel, [])
  | .interrupted => some (.ended (.returned .interrupted), channel, [])

end ContinueJob

section Loop

variable {σ : Type} [SdkCursor σ] {τ : Type} {metadata : TraceMetadata} {limit : TtdPosition}
  {forward : Bool} {callback : WatchpointFn τ}

/-- A turn of the loop is one replay call of the closure. -/
theorem replayPastTransparentExceptions_afterCall {cursor moved : ReplayCursor σ} {state next : τ}
    {outcome : Unwind (Except TtdError TtdReplayResult)}
    (replayed : replayTo cursor limit forward callback state = (outcome, moved, next)) (fuel : Nat)
    (previous : Option TtdPosition) :
    replayPastTransparentExceptions metadata limit forward callback (fuel + 1) previous cursor
        state =
      match ContinueJob.afterCall metadata previous outcome moved.position with
      | .turning previous =>
          replayPastTransparentExceptions metadata limit forward callback fuel previous moved next
      | .unpublishing outcome => some (outcome, moved, next)
      | _ => none := by
  cases outcome with
  | panicked payload =>
      rw [replayPastTransparentExceptions, replayed]
      rfl
  | returned returned =>
      cases returned with
      | error error =>
          rw [replayPastTransparentExceptions, replayed]
          rfl
      | ok result =>
          rw [replayPastTransparentExceptions_returned replayed, ContinueJob.afterCall]
          by_cases passes : PassesException metadata previous result moved.position
          · simp only [if_pos passes]
          · simp only [if_neg passes]

end Loop

/-! ## The interrupt handle -/

/-- Where the handle stands. -/
inductive InterruptStep where
  /-- About to count the epoch up. -/
  | counting
  /-- About to load the slot. -/
  | loading
  /-- About to interrupt the cursor that the slot named. -/
  | interrupting
  deriving DecidableEq, Repr

/-- One step of the handle.  Interrupting a cursor that is not replaying does
nothing. -/
def InterruptStep.fire (handle : InterruptStep) (channel : ReplayChannel) :
    Option (Option InterruptStep × ReplayChannel × List CallEvent) :=
  match handle with
  | .counting =>
      some (some .loading, { channel with interruptEpoch := channel.interruptEpoch + 1 }, [])
  | .loading =>
      if channel.published then some (some .interrupting, channel, [])
      else some (none, channel, [.looked none])
  | .interrupting =>
      match channel.inFlight with
      | none => some (none, channel, [.looked none])
      | some call =>
          some (none, { channel with inFlight := some { call with told := true } },
            [.looked (some call.number)])

/-! ## The workload -/

/-- Continues, with the interrupt handle of the process. -/
def continueLoad (metadata : TraceMetadata) :
    Workload ReplayChannel ContinueJob InterruptStep ContinueReport CallEvent EngineReturn where
  run := ContinueJob.run metadata
  handle := some .counting
  fire := InterruptStep.fire
  beginResume channel := { channel with interruptEpoch := 0 }
  serve _ := id
  access _ channel := (channel, [])

/-- The runner of a continue, with the replay channel as its memory. -/
abbrev ContinueRunner :=
  Runner ReplayChannel ContinueJob InterruptStep ContinueReport CallEvent

/-- The request is made when it stores the flag. -/
def callEvent : Event ContinueReport CallEvent → Option CallEvent
  | .stored => some .requested
  | .jobNote _ event => some event
  | .loopNote event => some event
  | _ => none

/-- The replay calls of a history, and the request. -/
def callEvents (history : List (Event ContinueReport CallEvent)) : List CallEvent :=
  history.filterMap callEvent

/-- The only job is one continue, and the flag is stored only once. -/
def admitsContinue (runner : ContinueRunner) :
    RunnerLabel ContinueJob EngineReturn → Bool
  | .loop (.start job onInterrupt) =>
      runner.workers.isEmpty && job == .beginning && onInterrupt == .interrupted
  | .loop .proceed =>
      match runner.loop with
      | .storing _ => !(callEvents runner.history).contains .requested
      | _ => true
  | _ => true

/-- A run of one continue with one request. -/
def OneContinue (runner : ContinueRunner) (label : RunnerLabel ContinueJob EngineReturn) : Prop :=
  admitsContinue runner label = true

instance (runner : ContinueRunner) (label : RunnerLabel ContinueJob EngineReturn) :
    Decidable (OneContinue runner label) :=
  inferInstanceAs (Decidable (admitsContinue runner label = true))

end TtdGdbserver.Gdb
