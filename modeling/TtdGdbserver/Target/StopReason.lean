import TtdGdbserver.Target.Error

/-!
# Stop reasons

Why the debugger stopped, and the translation of a replay result into it.
-/

namespace TtdGdbserver.Target

open TtdGdbserver.Ttd

/-- Why an operation stopped. -/
inductive StopReason where
  | breakpoint (bpId addr : UInt64)
  | watchpoint (bpId addr : UInt64) (access : DataAccessMask)
  | stepComplete
  | traceEnd
  | processExit
  | traceStart
  | interrupted
  | exception (code : UInt32) (addr : UInt64)
  | positionReached
  deriving DecidableEq, Repr

namespace StopReason

/-- `TryFrom<&TtdReplayResult>`.  A backend error and an event without a
meaning here are hard errors. -/
def tryFrom (result : TtdReplayResult) : Except TtdError StopReason :=
  match result.stopReason with
  | .memoryWatchpoint => .ok (.watchpoint 0 result.wpAddress result.wpAccessType.mask)
  | .stepCount => .ok .stepComplete
  | .position => .ok .positionReached
  | .positionWatchpoint => .ok .positionReached
  | .process => .ok .processExit
  | .thread => .ok .traceEnd
  | .exception => .ok (.exception 0 0)
  | .interrupted => .ok .interrupted
  | .gap => .ok .stepComplete
  | .error => .error .replayFailed
  | .count => .error (.unsupportedEvent .count)
  | .unknown raw => .error (.unsupportedEvent (.unknown raw))

end StopReason

end TtdGdbserver.Target
