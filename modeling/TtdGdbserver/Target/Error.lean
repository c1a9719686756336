import TtdGdbserver.Ttd.Types

/-!
# Errors of the debug target
-/

namespace TtdGdbserver.Target

open TtdGdbserver.Ttd

/-- The failures a `DebugTarget` reports to its frontend. -/
inductive DebugError where
  | replayAlreadyRunning
  | ttd (source : TtdError)
  | invalidCommand (message : String)
  | breakpointRegister (addr : UInt64) (source : TtdError)
  deriving DecidableEq, Repr

end TtdGdbserver.Target
