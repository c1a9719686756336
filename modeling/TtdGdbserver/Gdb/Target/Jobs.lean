import TtdGdbserver.Gdb.Mapping
import TtdGdbserver.Gdb.Runner.Core

/-!
# The jobs of the GDB target

The closures that `GdbTarget` gives its runner: a replay, a stop at the current
position and the reply of the real exit.  A closure is cut where another thread
may see what it did.
-/

namespace TtdGdbserver.Gdb

open TtdGdbserver.Target

variable {β ε : Type}

/-- What the closures share with the event loop. -/
structure Shared (β : Type) where
  backend : β
  /-- Set when a forward replay reports the recorded process exit. -/
  endState : Bool
  deriving DecidableEq, Repr

/-- A closure, at the point it has reached. -/
inductive Job where
  /-- About to run the operation. -/
  | replay (op : ReplayOp)
  /-- About to set the end state if the operation reached it. -/
  | reporting (op : ReplayOp) (reason : Except DebugError StopReason)
  /-- About to map the stop reason. -/
  | mapping (reason : Except DebugError StopReason)
  /-- About to stop at the current position. -/
  | stopping (signal : Signal)
  /-- About to answer with the real exit. -/
  | exiting

/-- What a run leaves in the history. -/
inductive Note where
  /-- A job ran the operation. -/
  | executed (op : ReplayOp) (outcome : Executed)
  /-- A backward resume is about to start. -/
  | backward
  /-- A restart succeeded. -/
  | restarted

/-- The choices of the environment. -/
inductive Choice (β ε : Type) where
  /-- What other threads do while a closure takes a step. -/
  | environment (env : ε)
  /-- A query, or a command, that uses the backend. -/
  | query (use : β → β)
  /-- A panic becomes a stop at the current position. -/
  | mapPanic
  /-- A backward resume leaves the end state. -/
  | leaveEndState
  /-- `clear_end_state`, after a restart. -/
  | clearEndState
  | note (note : Note)

/-- `execute_op`: the thread of the operation is selected first. -/
def executeOp (target : DebugTarget β ε) (env : ε) (op : ReplayOp) (backend : β) :
    Option (Executed × β) :=
  match op with
  | .continue => target.continueForward env backend
  | .step tid => target.step env (target.setCurrentThread backend (fromWireTid tid))
  | .backwardContinue => target.continueBackward env backend
  | .backwardStep tid => target.stepBack env (target.setCurrentThread backend (fromWireTid tid))
  | .rangeStep tid start finish =>
      target.stepRange env (target.setCurrentThread backend (fromWireTid tid))
        (some (fromWireTid tid)) start finish

/-- The operation replayed forward to the recorded process exit. -/
def reachesExit (op : ReplayOp) (reason : Except DebugError StopReason) : Bool :=
  op.isForward && match reason with
    | .ok .processExit => true
    | _ => false

theorem reachesExit_iff {op : ReplayOp} {reason : Except DebugError StopReason} :
    reachesExit op reason = true ↔ op.isForward = true ∧ reason = .ok .processExit := by
  unfold reachesExit
  rcases reason with error | reason
  · simp
  · cases reason <;> simp

/-- A stop at the current position. -/
def stopHere (target : DebugTarget β ε) (signal : Signal) (backend : β) :
    MultiThreadStopReason × β :=
  let (tid, backend) := stopTid target backend
  (.signalWithThread tid signal, backend)

/-- One step of a closure. -/
def Job.run (target : DebugTarget β ε) (env : ε) (job : Job) (shared : Shared β) :
    Option (Progress Job MultiThreadStopReason × Shared β × List Note) :=
  match job with
  | .replay op =>
      match executeOp target env op shared.backend with
      | none => none
      | some (.returned reason, backend) =>
          some (.running (.reporting op reason), { shared with backend := backend },
            [.executed op (.returned reason)])
      | some (.panicked payload, backend) =>
          some (.ended (.panicked (.string payload)), { shared with backend := backend },
            [.executed op (.panicked payload)])
  | .reporting op reason =>
      some (.running (.mapping reason),
        if reachesExit op reason then { shared with endState := true } else shared, [])
  | .mapping reason =>
      let (stop, backend) := mapStopReason target shared.backend reason
      some (.ended (.returned stop), { shared with backend := backend }, [])
  | .stopping signal =>
      let (stop, backend) := stopHere target signal shared.backend
      some (.ended (.returned stop), { shared with backend := backend }, [])
  | .exiting => some (.ended (.returned (.exited 0)), shared, [])

/-- The closures of the target as the load of a runner.  What the interrupt
handle does to an operation in flight is part of the environment. -/
def workload (target : DebugTarget β ε) :
    Workload (Shared β) Job Unit MultiThreadStopReason Note (Choice β ε) where
  run choice job shared :=
    match choice with
    | .environment env => job.run target env shared
    | _ => none
  handle := some ()
  fire _ shared := some (none, shared, [])
  beginResume shared := { shared with backend := target.beginResume shared.backend }
  serve choice shared :=
    match choice with
    | .query use => { shared with backend := use shared.backend }
    | .mapPanic => { shared with backend := (stopHere target .sigTrap shared.backend).2 }
    | _ => shared
  access choice shared :=
    match choice with
    | .leaveEndState => ({ shared with endState := false }, [])
    | .clearEndState => ({ shared with endState := false }, [.restarted])
    | .note note => (shared, [note])
    | _ => (shared, [])

theorem position_stopHere (target : DebugTarget β ε) (signal : Signal) (backend : β) :
    target.position (stopHere target signal backend).2 = target.position backend :=
  position_stopTid target backend

end TtdGdbserver.Gdb
