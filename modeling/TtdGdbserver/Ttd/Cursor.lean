import TtdGdbserver.Transition.Dialogue
import TtdGdbserver.Ttd.Registers

/-!
# Replay cursors

The SDK is not part of the repository: a type with an `SdkCursor` instance
stands for its cursors.  A replay call is a dialogue with the watchpoint
callback, so that it may report any hits, react to the answers, land anywhere
and fail after it moved.  Everything a cursor answers without moving is its
`view`.  `ReplayCursor` wraps an SDK cursor as the source does.
-/

namespace TtdGdbserver.Ttd

open TtdGdbserver.Transition

/-! ## The SDK -/

/-- One invocation of the watchpoint callback: the raw access, the OS thread
id, and the payload if the callback panics this time. -/
structure WatchpointHit where
  address : UInt64
  size : UInt64
  access : UInt8
  thread : UInt32
  panics : Option String
  deriving DecidableEq, Repr

/-- The arguments of a replay call. -/
structure ReplayRequest where
  limit : TtdPosition
  steps : UInt64
  forward : Bool
  deriving DecidableEq, Repr

/-- A thread live at a cursor's position, and where it stands. -/
structure ActiveThread where
  thread : TtdThreadInfo
  currentPosition : TtdPosition
  deriving DecidableEq, Repr

/-- The filled buffers of a memory query with provenance. -/
structure MemoryAnswer where
  buffer : List UInt8
  read : Nat
  ranges : List TtdMemRange
  rangeCount : Nat
  deriving DecidableEq, Repr

/-- The queries of a cursor.  Thread id 0 stands for the cursor's current
thread. -/
structure CursorView where
  queryMemory : (address : UInt64) → (size : Nat) → List UInt8 × Nat
  queryMemoryWithRanges : (address : UInt64) → (size count : Nat) → MemoryAnswer
  threadInfo : TtdThreadInfo
  activeThreadCount : Nat
  activeThreadAt : Nat → ActiveThread
  tebAddress : UInt32 → UInt64
  amd64Context : UInt32 → List UInt8

/-- The cursors of the SDK, for one loaded trace. -/
class SdkCursor (σ : Type) where
  /-- The processor architecture of the trace. -/
  architecture : UInt16
  getPosition : σ → TtdPosition
  setPosition : σ → TtdPosition → σ
  replay : σ → ReplayRequest → Dialogue WatchpointHit Bool (σ × ReplayOutcome)
  setEventMask : σ → EventMask → σ
  setExceptionMask : σ → ExceptionMask → σ
  addMemoryWatchpoint : σ → (address size : UInt64) → DataAccessMask → (thread : UInt32) →
    Bool × σ
  removeMemoryWatchpoint : σ → (address size : UInt64) → DataAccessMask → (thread : UInt32) →
    Bool × σ
  view : σ → CursorView

/-- What the target relies on: `SetPosition` lands on `round` of the request, a
reported position is its own rounding, nothing but `SetPosition` and the replay
calls moves a cursor, and the queries depend on the position alone. -/
class LawfulSdkCursor (σ : Type) [SdkCursor σ] where
  round : TtdPosition → TtdPosition
  getPosition_setPosition : ∀ (cursor : σ) (position : TtdPosition),
    SdkCursor.getPosition (SdkCursor.setPosition cursor position) = round position
  round_getPosition : ∀ cursor : σ,
    round (SdkCursor.getPosition cursor) = SdkCursor.getPosition cursor
  getPosition_setEventMask : ∀ (cursor : σ) (mask : EventMask),
    SdkCursor.getPosition (SdkCursor.setEventMask cursor mask) = SdkCursor.getPosition cursor
  getPosition_setExceptionMask : ∀ (cursor : σ) (mask : ExceptionMask),
    SdkCursor.getPosition (SdkCursor.setExceptionMask cursor mask) =
      SdkCursor.getPosition cursor
  getPosition_addMemoryWatchpoint : ∀ (cursor : σ) (address size : UInt64)
    (mask : DataAccessMask) (thread : UInt32),
    SdkCursor.getPosition (SdkCursor.addMemoryWatchpoint cursor address size mask thread).2 =
      SdkCursor.getPosition cursor
  getPosition_removeMemoryWatchpoint : ∀ (cursor : σ) (address size : UInt64)
    (mask : DataAccessMask) (thread : UInt32),
    SdkCursor.getPosition (SdkCursor.removeMemoryWatchpoint cursor address size mask thread).2 =
      SdkCursor.getPosition cursor
  view_congr : ∀ first second : σ,
    SdkCursor.getPosition first = SdkCursor.getPosition second →
    SdkCursor.view first = SdkCursor.view second

/-! ## Panics -/

/-- How a call that may unwind ends. -/
inductive Unwind (α : Type) where
  | returned (value : α)
  | panicked (payload : String)
  deriving DecidableEq, Repr

/-- A watchpoint callback with state `τ`, as `WatchpointFn`: address, size,
access mask and OS thread id; whether replay should stop there. -/
abbrev WatchpointFn (τ : Type) := τ → UInt64 → UInt64 → DataAccessMask → UInt32 → Bool × τ

/-- The bridge of the SDK's hit callback.  A panic is stashed, unless one is
stashed already, and stops the replay; without a callback a hit stops it too. -/
def watchpointShim {τ : Type} (callback : Option (WatchpointFn τ)) (state : τ × Option String)
    (hit : WatchpointHit) : Bool × τ × Option String :=
  match callback with
  | none => (true, state)
  | some callback =>
      match hit.panics with
      | some payload => (true, state.1, state.2.or (some payload))
      | none =>
          let (stop, next) := callback state.1 hit.address hit.size
            (DataAccessType.ofU8 hit.access).mask hit.thread
          (stop, next, state.2)

/-! ## The wrapped cursor -/

/-- `StepCount::Max`. -/
def stepCountMax : UInt64 := UInt64.ofNat (2 ^ 64 - 1) - 1

/-- The SDK's "last position" sentinel. -/
def maxPosition : TtdPosition := ⟨UInt64.ofNat (2 ^ 64 - 1), stepCountMax⟩

/-- The SDK's "first position" sentinel. -/
def minPosition : TtdPosition := ⟨0, 0⟩

/-- What the trace's process was built for. -/
inductive Architecture where
  | x64
  | x86
  | unknown
  deriving DecidableEq, Repr

/-- The architecture of a processor number. -/
def Architecture.ofProcessor (raw : UInt16) : Architecture :=
  match raw.toNat with
  | 9 => x64
  | 0 => x86
  | _ => unknown

/-- A handle to an SDK cursor. -/
structure ReplayCursor (σ : Type) where
  cursor : σ

namespace ReplayCursor

variable {σ : Type} [SdkCursor σ]

/-- `position`. -/
def position (self : ReplayCursor σ) : TtdPosition :=
  SdkCursor.getPosition self.cursor

/-- `set_position`. -/
def setPosition (self : ReplayCursor σ) (position : TtdPosition) : ReplayCursor σ :=
  ⟨SdkCursor.setPosition self.cursor position⟩

/-- One replay call with the given callback installed.  A stashed panic is
thrown when the call returns, whatever it returned. -/
def replay {τ : Type} (self : ReplayCursor σ) (limit : TtdPosition) (steps : UInt64)
    (forward : Bool) (callback : Option (WatchpointFn τ)) (state : τ) :
    Unwind (Except TtdError TtdReplayResult) × ReplayCursor σ × τ :=
  let ((cursor, raw), state, stashed) :=
    (SdkCursor.replay self.cursor ⟨limit, steps, forward⟩).run (watchpointShim callback)
      (state, none)
  let outcome : Unwind (Except TtdError TtdReplayResult) :=
    match stashed with
    | some payload => .panicked payload
    | none =>
        if raw.stopReason = 255 then .returned (.error (.ffi "replay"))
        else .returned (.ok (.ofOutcome raw))
  (outcome, ⟨cursor⟩, state)

/-- `replay_forward`. -/
def replayForward {τ : Type} (self : ReplayCursor σ) (limit : TtdPosition)
    (callback : WatchpointFn τ) (state : τ) :
    Unwind (Except TtdError TtdReplayResult) × ReplayCursor σ × τ :=
  self.replay limit stepCountMax true (some callback) state

/-- `replay_backward`. -/
def replayBackward {τ : Type} (self : ReplayCursor σ) (limit : TtdPosition)
    (callback : WatchpointFn τ) (state : τ) :
    Unwind (Except TtdError TtdReplayResult) × ReplayCursor σ × τ :=
  self.replay limit stepCountMax false (some callback) state

/-- Replay at most `steps` steps forward, on a cursor without a callback. -/
def replayForwardSteps (self : ReplayCursor σ) (steps : UInt64) :
    Unwind (Except TtdError TtdReplayResult) × ReplayCursor σ :=
  let (outcome, cursor, _) := self.replay maxPosition steps true none ()
  (outcome, cursor)

/-- Replay at most `steps` steps backward, on a cursor without a callback. -/
def replayBackwardSteps (self : ReplayCursor σ) (steps : UInt64) :
    Unwind (Except TtdError TtdReplayResult) × ReplayCursor σ :=
  let (outcome, cursor, _) := self.replay minPosition steps false none ()
  (outcome, cursor)

/-- `set_event_mask`. -/
def setEventMask (self : ReplayCursor σ) (mask : EventMask) : ReplayCursor σ :=
  ⟨SdkCursor.setEventMask self.cursor mask⟩

/-- `set_exception_mask`. -/
def setExceptionMask (self : ReplayCursor σ) (mask : ExceptionMask) : ReplayCursor σ :=
  ⟨SdkCursor.setExceptionMask self.cursor mask⟩

/-- Register one physical watchpoint; the result says whether the SDK took it. -/
def watchpoint (self : ReplayCursor σ) (address size : UInt64) (access : DataAccessMask)
    (thread : UInt32) : Bool × ReplayCursor σ :=
  let (accepted, cursor) := SdkCursor.addMemoryWatchpoint self.cursor address size access thread
  (accepted, ⟨cursor⟩)

/-- Remove one physical watchpoint; the result says whether the SDK did. -/
def removeWatchpoint (self : ReplayCursor σ) (address size : UInt64) (access : DataAccessMask)
    (thread : UInt32) : Bool × ReplayCursor σ :=
  let (accepted, cursor) :=
    SdkCursor.removeMemoryWatchpoint self.cursor address size access thread
  (accepted, ⟨cursor⟩)

/-! ### Queries -/

/-- What the queries are answered from. -/
def view (self : ReplayCursor σ) : CursorView :=
  SdkCursor.view self.cursor

/-- Read up to `size` bytes at `address`. -/
def readMemory (self : ReplayCursor σ) (address : UInt64) (size : Nat) :
    Except TtdError (List UInt8) :=
  let (buffer, read) := self.view.queryMemory address size
  .ok (buffer.take read)

/-- Read `size` bytes at `address` together with the runs they came from. -/
def readMemoryRanges (self : ReplayCursor σ) (address : UInt64) (size maxRanges : Nat) :
    Except TtdError (List UInt8 × List TtdMemRange) :=
  let answer := self.view.queryMemoryWithRanges address size (max maxRanges 1)
  .ok (answer.buffer.take answer.read, answer.ranges.take answer.rangeCount)

/-- `thread_info`. -/
def threadInfo (self : ReplayCursor σ) : TtdThreadInfo :=
  self.view.threadInfo

/-- `teb_address_of`. -/
def tebAddressOf (self : ReplayCursor σ) (thread : UInt32) : UInt64 :=
  self.view.tebAddress thread

/-- The register context of a thread; only x64 recordings have one. -/
def amd64Context (self : ReplayCursor σ) (thread : UInt32) : Except TtdError TtdX64Regs :=
  if Architecture.ofProcessor (SdkCursor.architecture σ) ≠ .x64 then
    .error .unsupportedArchitecture
  else
    match decodeAmd64Context (self.view.amd64Context thread) with
    | some regs => .ok regs
    | none => .error (.ffi "register context")

/-- `active_thread_count`. -/
def activeThreadCount (self : ReplayCursor σ) : Nat :=
  self.view.activeThreadCount

/-- `active_thread`; there is none past the count. -/
def activeThread (self : ReplayCursor σ) (index : Nat) : Option ActiveThread :=
  if index ≥ self.activeThreadCount then none else some (self.view.activeThreadAt index)

theorem activeThread_congr {first second : ReplayCursor σ} (same : first.view = second.view) :
    first.activeThread = second.activeThread := by
  funext index
  exact congrArg (fun view : CursorView =>
    if index ≥ view.activeThreadCount then none else some (view.activeThreadAt index)) same

/-! ### Positions -/

section Laws

variable [LawfulSdkCursor σ]

@[simp]
theorem position_setPosition (self : ReplayCursor σ) (position : TtdPosition) :
    (self.setPosition position).position = LawfulSdkCursor.round σ position :=
  LawfulSdkCursor.getPosition_setPosition self.cursor position

@[simp]
theorem round_position (self : ReplayCursor σ) :
    LawfulSdkCursor.round σ self.position = self.position :=
  LawfulSdkCursor.round_getPosition self.cursor

@[simp]
theorem position_setEventMask (self : ReplayCursor σ) (mask : EventMask) :
    (self.setEventMask mask).position = self.position :=
  LawfulSdkCursor.getPosition_setEventMask self.cursor mask

@[simp]
theorem position_setExceptionMask (self : ReplayCursor σ) (mask : ExceptionMask) :
    (self.setExceptionMask mask).position = self.position :=
  LawfulSdkCursor.getPosition_setExceptionMask self.cursor mask

@[simp]
theorem position_watchpoint (self : ReplayCursor σ) (address size : UInt64)
    (access : DataAccessMask) (thread : UInt32) :
    (self.watchpoint address size access thread).2.position = self.position :=
  LawfulSdkCursor.getPosition_addMemoryWatchpoint self.cursor address size access thread

@[simp]
theorem position_removeWatchpoint (self : ReplayCursor σ) (address size : UInt64)
    (access : DataAccessMask) (thread : UInt32) :
    (self.removeWatchpoint address size access thread).2.position = self.position :=
  LawfulSdkCursor.getPosition_removeMemoryWatchpoint self.cursor address size access thread

/-- Cursors at one position answer alike. -/
theorem view_congr {first second : ReplayCursor σ} (same : first.position = second.position) :
    first.view = second.view :=
  LawfulSdkCursor.view_congr first.cursor second.cursor same

end Laws

/-! ### Watching the callback -/

section Project

variable {τ τ' : Type} {callback : WatchpointFn τ} {callback' : WatchpointFn τ'}

/-- `callback` answers as `callback'` does, with the state that `project` reads
off. -/
def AnswersAlike (project : τ → τ') (callback : WatchpointFn τ) (callback' : WatchpointFn τ') :
    Prop :=
  ∀ (state : τ) (addr size : UInt64) (access : DataAccessMask) (thread : UInt32),
    callback' (project state) addr size access thread =
      ((callback state addr size access thread).1,
        project (callback state addr size access thread).2)

/-- Callbacks that answer alike make a replay call end alike. -/
theorem replay_project {project : τ → τ'} (alike : AnswersAlike project callback callback')
    (self : ReplayCursor σ) (limit : TtdPosition) (steps : UInt64) (forward : Bool) (state : τ) :
    self.replay limit steps forward (some callback') (project state) =
      ((self.replay limit steps forward (some callback) state).1,
        (self.replay limit steps forward (some callback) state).2.1,
        project (self.replay limit steps forward (some callback) state).2.2) := by
  have shims : ∀ (state : τ × Option String) (hit : WatchpointHit),
      watchpointShim (some callback') (Prod.map project id state) hit =
        ((watchpointShim (some callback) state hit).1,
          Prod.map project id (watchpointShim (some callback) state hit).2) := by
    intro state hit
    unfold watchpointShim
    cases hit.panics with
    | some payload => simp
    | none => simp [alike state.1]
  have runs := Dialogue.run_project (Prod.map project id) shims
    (SdkCursor.replay self.cursor ⟨limit, steps, forward⟩) (state, none)
  simp only [Prod.map_apply, id] at runs
  simp only [replay, runs, Prod.map_fst, Prod.map_snd, id]

end Project

/-! ### Without a callback nothing panics -/

theorem replay_none_ne_panicked (self : ReplayCursor σ) (limit : TtdPosition) (steps : UInt64)
    (forward : Bool) (payload : String) :
    (self.replay limit steps forward (none : Option (WatchpointFn Unit)) ()).1 ≠
      .panicked payload := by
  have unstashed : ((SdkCursor.replay self.cursor ⟨limit, steps, forward⟩).run
      (watchpointShim (none : Option (WatchpointFn Unit))) ((), none)).2.2 = none :=
    Dialogue.run_invariant (fun state : Unit × Option String => state.2 = none)
      (fun _ _ unstashed => unstashed) _ rfl
  simp only [replay, unstashed]
  split <;> simp

end ReplayCursor

end TtdGdbserver.Ttd
