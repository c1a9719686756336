import TtdGdbserver.Gdb.Resume
import TtdGdbserver.Target.DebugTarget

/-!
# Wire mapping of backend results

Which thread a stop reply names, and which reply a stop reason becomes.
-/

namespace TtdGdbserver.Gdb

open TtdGdbserver.Ttd
open TtdGdbserver.Target

/-- The signals a stop reply carries. -/
inductive Signal where
  | sigZero
  | sigInt
  | sigTrap
  | sigAbrt
  | sigKill
  | sigSegv
  deriving DecidableEq, Repr

/-- The kind of a GDB watchpoint. -/
inductive WatchKind where
  | write
  | read
  | readWrite
  deriving DecidableEq, Repr

/-- `MultiThreadStopReason`, as far as the stub uses it. -/
inductive MultiThreadStopReason where
  | signalWithThread (tid : Tid) (signal : Signal)
  | watch (tid : Tid) (kind : WatchKind) (addr : UInt64)
  | exited (code : UInt8)
  deriving DecidableEq, Repr

/-- Narrow a backend thread id, which the wire cannot name if it is 0. -/
def toWireTid (id : UInt64) : Option Tid :=
  if nonzero : id ≠ 0 then some ⟨id, nonzero⟩ else none

/-- Widen a wire thread id. -/
def fromWireTid (tid : Tid) : UInt64 :=
  tid.val

/-- The thread a stop reply names: the current one, else the first active one,
else thread 1. -/
def stopTid {β ε : Type} (target : DebugTarget β ε) (backend : β) : Tid × β :=
  match (target.currentThreadId backend).bind toWireTid with
  | some tid => (tid, backend)
  | none =>
      let (ids, backend) := target.activeThreadIds backend
      ((ids.head?.bind toWireTid).getD ⟨1, by decide⟩, backend)

/-- A hit that neither reads nor writes is shown as a write. -/
def watchKindFromAccess (access : DataAccessMask) : WatchKind :=
  match access.intersects .read, access.intersects .write with
  | true, true => .readWrite
  | true, false => .read
  | _, _ => .write

/-- The signal of a Windows exception; an unmapped code is a fault. -/
def signalForException (code : UInt32) : Signal :=
  if code = 0x80000003 ∨ code = 0x80000004 then .sigTrap
  else if code = 0xC0000005 then .sigSegv
  else if code = 0xE06D7363 ∨ code = 0x20474343 then .sigAbrt
  else .sigSegv

/-- The stop reply for a reason, for the thread already chosen. -/
def stopReply (tid : Tid) : Except DebugError StopReason → MultiThreadStopReason
  | .error _ => .signalWithThread tid .sigTrap
  | .ok .processExit | .ok .traceEnd => .signalWithThread tid .sigKill
  | .ok .traceStart => .signalWithThread tid .sigZero
  | .ok (.watchpoint _ addr access) => .watch tid (watchKindFromAccess access) addr
  | .ok (.exception code _) => .signalWithThread tid (signalForException code)
  | .ok .interrupted => .signalWithThread tid .sigInt
  | .ok (.breakpoint ..) | .ok .stepComplete | .ok .positionReached =>
      .signalWithThread tid .sigTrap

/-- `map_stop_reason`: a backend error becomes a trap. -/
def mapStopReason {β ε : Type} (target : DebugTarget β ε) (backend : β)
    (reason : Except DebugError StopReason) : MultiThreadStopReason × β :=
  let (tid, backend) := stopTid target backend
  (stopReply tid reason, backend)

/-- No stop reason is reported as an exit. -/
theorem stopReply_ne_exited (tid : Tid) (reason : Except DebugError StopReason) (code : UInt8) :
    stopReply tid reason ≠ .exited code := by
  cases reason with
  | error error => simp [stopReply]
  | ok reason => cases reason <;> simp [stopReply]

theorem position_stopTid {β ε : Type} (target : DebugTarget β ε) (backend : β) :
    target.position (stopTid target backend).2 = target.position backend := by
  unfold stopTid
  split
  · rfl
  · exact target.position_activeThreadIds backend

end TtdGdbserver.Gdb
