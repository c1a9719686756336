import TtdGdbserver.Target.BreakpointState
import TtdGdbserver.Target.Cursors
import TtdGdbserver.Target.StopReason
import TtdGdbserver.Target.TraceMetadata

/-!
# The debug process

`TtdProcess` with its cursor plumbing, its queries and `goto`.  Queries borrow
the process immutably in the source and still move the persistent cursor, so
they return the process they leave behind.
-/

namespace TtdGdbserver.Target

open TtdGdbserver.Ttd

/-- Replay and query counters. -/
structure TargetStats where
  queries : UInt64
  cursorSeeks : UInt64
  steps : UInt64
  replays : UInt64
  watchpointAdds : UInt64
  watchpointRemoves : UInt64
  deriving DecidableEq, Repr

/-- Nothing was counted. -/
def TargetStats.zero : TargetStats := ⟨0, 0, 0, 0, 0, 0⟩

/-- Instruction-level debug engine over two replay cursors. -/
structure TtdProcess (σ : Type) where
  cursors : CursorPair σ
  stats : TargetStats
  position : TtdPosition
  lifetime : TtdPosition × TtdPosition
  endsWithProcessExit : Bool
  currentThreadId : Option UInt64
  metadata : TraceMetadata
  breakpoints : BreakpointState

namespace TtdProcess

variable {σ : Type} [SdkCursor σ]

/-! ## Construction -/

/-- Whether the recording ends because the process exited: one step past the
end on a throwaway cursor, if there is one. -/
def traceEndsWithProcessExit (cursor : Option (ReplayCursor σ))
    (lifetime : TtdPosition × TtdPosition) : Bool :=
  match cursor with
  | none => false
  | some cursor =>
      match ((seek cursor lifetime.2).replayForwardSteps 1).1 with
      | .returned (.ok result) => result.stopReason == .process
      | _ => false

/-- `TtdProcess::open` once the engine and its cursors exist.  New cursors start
at the beginning of the trace. -/
def openTrace (metadata : TraceMetadata) (persistent step : σ) (probe : Option σ) :
    TtdProcess σ :=
  let start (cursor : σ) := (ReplayCursor.mk cursor).setPosition metadata.lifetime.1
  { cursors := .new (start persistent) (start step)
    stats := .zero
    position := metadata.lifetime.1
    lifetime := metadata.lifetime
    endsWithProcessExit := traceEndsWithProcessExit (probe.map start) metadata.lifetime
    currentThreadId := metadata.firstOsTid
    metadata := metadata
    breakpoints := .new metadata.threads }

/-! ## Cursor plumbing -/

/-- `bump`. -/
def bump (process : TtdProcess σ) (update : TargetStats → TargetStats) : TtdProcess σ :=
  { process with stats := update process.stats }

/-- Count a seek if one was issued. -/
def bumpSeek (process : TtdProcess σ) (seeked : Bool) : TtdProcess σ :=
  if seeked then
    process.bump fun stats => { stats with cursorSeeks := stats.cursorSeeks + 1 }
  else process

/-- The process with another persistent cursor. -/
def withPersistent (process : TtdProcess σ) (persistent : PositionedCursor σ) : TtdProcess σ :=
  { process with cursors := { process.cursors with persistent := persistent } }

/-- The process with another step cursor. -/
def withStep (process : TtdProcess σ) (step : PositionedCursor σ) : TtdProcess σ :=
  { process with cursors := { process.cursors with step := step } }

/-- Position the persistent cursor at `position`, unless it is already there. -/
def atPosition (process : TtdProcess σ) (position : TtdPosition) : TtdProcess σ :=
  let (seeked, persistent) := process.cursors.persistent.prepare position
  (process.withPersistent persistent).bumpSeek seeked

/-- Position the persistent cursor at the debug position and ask it. -/
def withCursor {α : Type} (process : TtdProcess σ) (ask : ReplayCursor σ → α) :
    α × TtdProcess σ :=
  let process := process.bump fun stats => { stats with queries := stats.queries + 1 }
  let process := process.atPosition process.position
  (ask process.cursors.persistent.cursor, process)

/-- Narrow a client thread id, or the current one, to an OS tid. -/
def osTid (process : TtdProcess σ) (threadId : Option UInt64) : Option UInt32 :=
  match threadId with
  | some id => u32TryFrom id
  | none => process.currentThreadId.bind u32TryFrom

/-- The OS tid whose PC a range step reads: the requested one if the trace
knows it, else the current one, else 0. -/
def resolveStepRangeTid (threadId currentThreadId : Option UInt64) (threads : ThreadTable) :
    UInt32 :=
  (((threadId.bind u32TryFrom).filter threads.containsOsTid).or
    (currentThreadId.bind u32TryFrom)).getD 0

/-- The thread whose PC a range step reads. -/
def stepRangeTid (process : TtdProcess σ) (threadId : Option UInt64) : UInt32 :=
  resolveStepRangeTid threadId process.currentThreadId process.metadata.threads

/-- Adopt the persistent cursor's position and current thread as the debug
state; thread id 0 clears the current thread. -/
def adoptCursorPosition (process : TtdProcess σ) : TtdProcess σ :=
  let persistent := process.cursors.persistent
  let position := positionOf persistent.cursor
  let tid := currentTid persistent.cursor
  { process.withPersistent (persistent.notePosition position) with
    position := position
    currentThreadId := if tid = 0 then none else some tid.toUInt64 }

/-! ## Navigation without replay -/

/-- `Ord::clamp`. -/
def clampPosition (position first last : TtdPosition) : TtdPosition :=
  if position < first then first else if last < position then last else position

/-- Jump to a position of the trace. -/
def goto (process : TtdProcess σ) (position : TtdPosition) :
    Except DebugError StopReason × TtdProcess σ :=
  let position := clampPosition position process.lifetime.1 process.lifetime.2
  let process := { process with position := position }
  (.ok .positionReached, (process.atPosition position).adoptCursorPosition)

/-- `set_current_thread`. -/
def setCurrentThread (process : TtdProcess σ) (id : UInt64) : TtdProcess σ :=
  { process with currentThreadId := some id }

/-! ## Breakpoints -/

/-- The breakpoint methods delegate to `BreakpointState` on the persistent
cursor. -/
def breakpointCall (process : TtdProcess σ) (call : BreakpointState.Call) :
    BreakpointState.Reply × TtdProcess σ :=
  let persistent := process.cursors.persistent
  let (reply, breakpoints, cursor) := process.breakpoints.perform persistent.cursor call
  (reply, { process.withPersistent (persistent.withCursor cursor) with
    breakpoints := breakpoints })

/-! ## Queries -/

/-- Read into a buffer; the number of bytes read and the buffer. -/
def readInto (cursor : ReplayCursor σ) (addr : UInt64) (buf : List UInt8) :
    Nat × List UInt8 :=
  if buf.isEmpty then (0, buf)
  else
    match cursor.readMemory addr buf.length with
    | .ok bytes =>
        let n := min bytes.length buf.length
        (n, bytes.take n ++ buf.drop n)
    | .error _ => (0, buf)

/-- Read memory and keep only the provenance runs that describe received
bytes. -/
def readRangesInto (cursor : ReplayCursor σ) (addr : UInt64) (buf : List UInt8)
    (maxRanges : UInt32) : (Nat × List TtdMemRange) × List UInt8 :=
  if buf.isEmpty then ((0, []), buf)
  else
    match cursor.readMemoryRanges addr buf.length maxRanges.toNat with
    | .ok (bytes, runs) =>
        let n := min bytes.length buf.length
        let ranges := runs.filter fun run =>
          decide (run.size > 0) && decide (run.address ≥ addr) &&
            decide ((run.address - addr).toNat < n)
        ((n, ranges), bytes.take n ++ buf.drop n)
    | .error _ => ((0, []), buf)

/-- The OS ids of the threads live at the cursor; a zeroed entry is a hole. -/
def activeThreadIdsOf (cursor : ReplayCursor σ) : List UInt64 :=
  (List.range cursor.activeThreadCount).filterMap fun index =>
    (cursor.activeThread index).bind fun entry =>
      if entry.thread.id ≠ 0 then some entry.thread.id.toUInt64 else none

/-- The registers and the TEB of a thread; default registers if it has none. -/
def threadStateOf (cursor : ReplayCursor σ) (tid : UInt32) : TtdX64Regs × UInt64 :=
  let regs := match cursor.amd64Context tid with
    | .ok regs => regs
    | .error _ => default
  (regs, cursor.tebAddressOf tid)

/-- What `qThreadExtraInfo` and the TIB query show of a thread. -/
structure ThreadExtraInfoData where
  uniqueId : UInt32
  currentPosition : TtdPosition
  teb : UInt64
  deriving DecidableEq, Repr

/-- The first live entry with the given OS id. -/
def threadInfoOf (cursor : ReplayCursor σ) (osTid : UInt32) : Option ThreadExtraInfoData :=
  (List.range cursor.activeThreadCount).findSome? fun index =>
    (cursor.activeThread index).bind fun entry =>
      if entry.thread.id ≠ 0 ∧ entry.thread.id = osTid then
        some ⟨entry.thread.uniqueId, entry.currentPosition, cursor.tebAddressOf osTid⟩
      else none

/-- `read_memory`. -/
def readMemory (process : TtdProcess σ) (addr : UInt64) (buf : List UInt8) :
    (Nat × List UInt8) × TtdProcess σ :=
  process.withCursor fun cursor => readInto cursor addr buf

/-- `read_memory_ranges`. -/
def readMemoryRanges (process : TtdProcess σ) (addr : UInt64) (buf : List UInt8)
    (maxRanges : UInt32) : ((Nat × List TtdMemRange) × List UInt8) × TtdProcess σ :=
  process.withCursor fun cursor => readRangesInto cursor addr buf maxRanges

/-- `active_thread_ids`. -/
def activeThreadIds (process : TtdProcess σ) : List UInt64 × TtdProcess σ :=
  process.withCursor activeThreadIdsOf

/-- Registers and TEB of one thread; a thread the trace never knew has none. -/
def threadState (process : TtdProcess σ) (threadId : Option UInt64) :
    Option (TtdX64Regs × UInt64) × TtdProcess σ :=
  match process.osTid threadId with
  | none => (none, process)
  | some tid =>
      if process.metadata.threads.containsOsTid tid then
        process.withCursor fun cursor => some (threadStateOf cursor tid)
      else (none, process)

/-- `thread_info`; an id that is no OS thread id is not asked about. -/
def threadInfo (process : TtdProcess σ) (threadId : UInt64) :
    Option ThreadExtraInfoData × TtdProcess σ :=
  match u32TryFrom threadId with
  | none => (none, process)
  | some osTid => process.withCursor fun cursor => threadInfoOf cursor osTid

/-! ## Positioning touches cursors and counters only -/

/-- Two processes that differ in their cursors and counters at most. -/
structure SameDebugState (first second : TtdProcess σ) : Prop where
  position : first.position = second.position
  lifetime : first.lifetime = second.lifetime
  endsWithProcessExit : first.endsWithProcessExit = second.endsWithProcessExit
  currentThreadId : first.currentThreadId = second.currentThreadId
  metadata : first.metadata = second.metadata
  breakpoints : first.breakpoints = second.breakpoints

omit [SdkCursor σ] in
theorem SameDebugState.trans {first second third : TtdProcess σ}
    (left : SameDebugState first second) (right : SameDebugState second third) :
    SameDebugState first third :=
  ⟨left.position.trans right.position, left.lifetime.trans right.lifetime,
    left.endsWithProcessExit.trans right.endsWithProcessExit,
    left.currentThreadId.trans right.currentThreadId, left.metadata.trans right.metadata,
    left.breakpoints.trans right.breakpoints⟩

omit [SdkCursor σ] in
theorem sameDebugState_withPersistent (process : TtdProcess σ)
    (persistent : PositionedCursor σ) :
    SameDebugState (process.withPersistent persistent) process :=
  ⟨rfl, rfl, rfl, rfl, rfl, rfl⟩

omit [SdkCursor σ] in
theorem sameDebugState_bump (process : TtdProcess σ) (update : TargetStats → TargetStats) :
    SameDebugState (process.bump update) process :=
  ⟨rfl, rfl, rfl, rfl, rfl, rfl⟩

omit [SdkCursor σ] in
theorem sameDebugState_bumpSeek (process : TtdProcess σ) (seeked : Bool) :
    SameDebugState (process.bumpSeek seeked) process := by
  cases seeked <;> exact ⟨rfl, rfl, rfl, rfl, rfl, rfl⟩

theorem sameDebugState_atPosition (process : TtdProcess σ) (position : TtdPosition) :
    SameDebugState (process.atPosition position) process :=
  (sameDebugState_bumpSeek _ _).trans (sameDebugState_withPersistent _ _)

theorem sameDebugState_withCursor {α : Type} (process : TtdProcess σ)
    (ask : ReplayCursor σ → α) : SameDebugState (process.withCursor ask).2 process :=
  (sameDebugState_atPosition _ _).trans (sameDebugState_bump _ _)

/-- The counters, with those of the physical watchpoints merged in. -/
def mergedStats (process : TtdProcess σ) : TargetStats :=
  let watchpoints := process.breakpoints.watchpointStats
  { process.stats with
    watchpointAdds := watchpoints.adds
    watchpointRemoves := watchpoints.removes }

end TtdProcess

end TtdGdbserver.Target
