import TtdGdbserver.Gdb.Runner.Drain
import TtdGdbserver.Gdb.Target.Jobs
import TtdGdbserver.Transition.Latest

/-!
# Resume dispatch

What a resume does is decided by three flags: the pending action, the restart
that no resume has answered yet, and the end state.  Here every stop is drained
before the next command, and the history of the commands alone tells what each
resume does.
-/

namespace TtdGdbserver.Gdb

open TtdGdbserver.Transition
open TtdGdbserver.Ttd
open TtdGdbserver.Target

variable {β ε : Type}

/-! ## The target -/

/-- `GdbTarget`, without what resumes and restarts leave alone. -/
structure GdbTarget (β : Type) where
  shared : Shared β
  resume : ResumeState
  /-- A restart moved the backend, and no resume followed yet. -/
  restartPending : Bool
  deriving DecidableEq, Repr

/-- A command of the client. -/
inductive Command where
  | clearResumeActions
  | setResumeActionContinue (tid : Tid)
  | setResumeActionStep (tid : Tid)
  | setResumeActionRangeStep (tid : Tid) (start finish : UInt64)
  | resume
  | reverseCont
  | reverseStep (tid : Tid)
  /-- `vRun`, with what its argument names. -/
  | run (destination : Except DebugError TtdPosition)
  /-- `R`. -/
  | restart

/-- What a command led to. -/
structure Exchange where
  command : Command
  /-- The operations that ran on the backend. -/
  executed : List (ReplayOp × Executed)
  /-- The stop that was drained. -/
  stop : Option MultiThreadStopReason
  /-- The command was a restart that succeeded. -/
  restarted : Bool
  /-- `position()` afterwards. -/
  position : TtdPosition

namespace GdbTarget

/-- `GdbTarget::new`. -/
def new (backend : β) : GdbTarget β :=
  ⟨⟨backend, false⟩, .default, false⟩

/-- `spawn_replay` once no restart is pending: which job to start. -/
def spawnFromEndState (gdb : GdbTarget β) (op : ReplayOp) : Job × GdbTarget β :=
  if gdb.shared.endState then
    if op.isForward then (.exiting, gdb)
    else (.replay op, { gdb with shared := { gdb.shared with endState := false } })
  else (.replay op, gdb)

/-- `spawn_replay`: which job to start. -/
def spawnReplay (gdb : GdbTarget β) (op : ReplayOp) : Job × GdbTarget β :=
  if gdb.restartPending then
    if op.isForward then (.stopping .sigTrap, { gdb with restartPending := false })
    else { gdb with restartPending := false }.spawnFromEndState op
  else gdb.spawnFromEndState op

/-- `map_worker_result`: a panic becomes a trap. -/
def mapWorkerResult (target : DebugTarget β ε) (ending : Ending MultiThreadStopReason)
    (backend : β) : MultiThreadStopReason × β :=
  match ending with
  | .returned stop => (stop, backend)
  | .panicked _ => stopHere target .sigTrap backend

/-- Start the job and wait for its stop. -/
def drain (target : DebugTarget β ε) (gdb : GdbTarget β) (environment : List ε) (job : Job) :
    Option (List Note × MultiThreadStopReason × GdbTarget β) :=
  match (workload target).complete (environment.map .environment) job
      ((workload target).beginResume gdb.shared) with
  | none => none
  | some (ending, shared, notes) =>
      let (stop, backend) := mapWorkerResult target ending shared.backend
      some (notes, stop, { gdb with shared := { shared with backend := backend } })

/-- The operations among the notes of a job. -/
def executedOps (notes : List Note) : List (ReplayOp × Executed) :=
  notes.filterMap fun
    | .executed op outcome => some (op, outcome)
    | _ => none

/-- A resume command. -/
def resumeWith (target : DebugTarget β ε) (gdb : GdbTarget β) (command : Command)
    (op : ReplayOp) (environment : List ε) : Option (GdbTarget β × Exchange) :=
  let (job, gdb) := gdb.spawnReplay op
  (gdb.drain target environment job).map fun (notes, stop, gdb) =>
    (gdb, ⟨command, executedOps notes, some stop, false, target.position gdb.shared.backend⟩)

/-- A command that moves nothing. -/
def quiet (target : DebugTarget β ε) (gdb : GdbTarget β) (command : Command) :
    GdbTarget β × Exchange :=
  (gdb, ⟨command, [], none, false, target.position gdb.shared.backend⟩)

/-- A restart: only a jump that succeeded touches the flags. -/
def restartAt (target : DebugTarget β ε) (gdb : GdbTarget β) (command : Command)
    (destination : TtdPosition) : GdbTarget β × Exchange :=
  match target.goto gdb.shared.backend destination with
  | (.error _, backend) =>
      { gdb with shared := { gdb.shared with backend := backend } }.quiet target command
  | (.ok _, backend) =>
      ({ gdb with shared := ⟨backend, false⟩, restartPending := true },
        ⟨command, [], none, true, target.position backend⟩)

/-- Handle a command and drain its stop, with what other threads do while its job
runs. -/
def perform (target : DebugTarget β ε) (gdb : GdbTarget β) (command : Command)
    (environment : List ε) : Option (GdbTarget β × Exchange) :=
  match command with
  | .clearResumeActions => some ({ gdb with resume := gdb.resume.clear }.quiet target command)
  | .setResumeActionContinue _ =>
      some ({ gdb with resume := gdb.resume.setContinue }.quiet target command)
  | .setResumeActionStep tid =>
      some ({ gdb with resume := gdb.resume.setStep tid }.quiet target command)
  | .setResumeActionRangeStep tid start finish =>
      some ({ gdb with resume := gdb.resume.setRangeStep tid start finish }.quiet target command)
  | .resume =>
      let (op, resume) := gdb.resume.take
      { gdb with resume := resume }.resumeWith target command op environment
  | .reverseCont => gdb.resumeWith target command .backwardContinue environment
  | .reverseStep tid => gdb.resumeWith target command (.backwardStep tid) environment
  | .run (.error _) => some (gdb.quiet target command)
  | .run (.ok destination) => some (gdb.restartAt target command destination)
  | .restart =>
      some (gdb.restartAt target command (target.lifetime gdb.shared.backend).1)

/-- One command, with what it led to added to the history. -/
def step (target : DebugTarget β ε) : LStep (GdbTarget β × List Exchange) (Command × List ε) :=
  fun (gdb, history) (command, environment) =>
    (gdb.perform target command environment).map fun (gdb, exchange) =>
      (gdb, history ++ [exchange])

end GdbTarget

/-! ## What the history says -/

namespace Command

/-- `resume`, as opposed to a reverse one. -/
def isForward : Command → Bool
  | .resume => true
  | _ => false

/-- `resume` or a reverse one. -/
def isResume : Command → Bool
  | .resume | .reverseCont | .reverseStep _ => true
  | _ => false

/-- `vRun` or `R`. -/
def isRestart : Command → Bool
  | .run _ | .restart => true
  | _ => false

/-- Where a restart goes. -/
def destination (target : DebugTarget β ε) (backend : β) : Command → Option TtdPosition
  | .run (.ok destination) => some destination
  | .restart => some (target.lifetime backend).1
  | _ => none

/-- The command decides what the next `resume` runs. -/
def settles : Command → Bool
  | .clearResumeActions | .resume | .setResumeActionStep _ | .setResumeActionRangeStep .. =>
      true
  | _ => false

/-- The step or range step that the command sets. -/
def sets : Command → Option ReplayOp
  | .setResumeActionStep tid => some (.step tid)
  | .setResumeActionRangeStep tid start finish =>
      some (if start = finish then .step tid else .rangeStep tid start finish)
  | _ => none

end Command

namespace Exchange

/-- A resume, or a restart that succeeded. -/
def Moves (exchange : Exchange) : Prop :=
  exchange.restarted = true ∨ exchange.command.isResume = true

/-- An execution, or a restart that succeeded. -/
def Runs (exchange : Exchange) : Prop :=
  exchange.restarted = true ∨ exchange.executed ≠ []

/-- A forward execution that reported the process exit. -/
def Exits (exchange : Exchange) : Prop :=
  ∃ op : ReplayOp, op.isForward = true ∧ exchange.executed = [(op, .returned (.ok .processExit))]

/-- The command decides what the next `resume` runs. -/
def Settles (exchange : Exchange) : Prop :=
  exchange.command.settles = true

end Exchange

/-- The latest restart or resume is a restart, this one. -/
def RestartStands (history : List Exchange) (restart : Exchange) : Prop :=
  Latest Exchange.Moves history restart ∧ restart.restarted = true

/-- The last execution was a forward one that reported the process exit, and no
restart succeeded since. -/
def ExitReached (history : List Exchange) : Prop :=
  LatestIs Exchange.Runs Exchange.Exits history

/-- The step or range step set since the latest clear or `resume`, and a
continue if there is none. -/
def Requested (history : List Exchange) (op : ReplayOp) : Prop :=
  LatestIs Exchange.Settles (fun exchange => exchange.command.sets = some op) history ∨
    op = .continue ∧
      ∀ exchange, Latest Exchange.Settles history exchange → exchange.command.sets = none

/-- The operation that a resume asks for. -/
inductive Chosen (history : List Exchange) : Command → ReplayOp → Prop
  | resume {op : ReplayOp} (requested : Requested history op) : Chosen history .resume op
  | reverseCont : Chosen history .reverseCont .backwardContinue
  | reverseStep {tid : Tid} : Chosen history (.reverseStep tid) (.backwardStep tid)

/-- The resume does what the commands before it determine. -/
structure Determined (before : List Exchange) (exchange : Exchange) : Prop where
  /-- The first resume after a restart stops where the restart went. -/
  afterRestart : exchange.command.isForward = true → ∀ restart, RestartStands before restart →
    exchange.executed = [] ∧ exchange.position = restart.position ∧
      ∃ tid, exchange.stop = some (.signalWithThread tid .sigTrap)
  /-- Past the process exit the real exit is reported, and only there. -/
  atExit : exchange.command.isForward = true → (∀ restart, ¬ RestartStands before restart) →
    ((exchange.executed = [] ∧ exchange.stop = some (.exited 0)) ↔ ExitReached before)
  /-- Any other resume runs one operation, the one asked for. -/
  runsOne : exchange.command.isResume = true →
    (exchange.command.isForward = true →
      (∀ restart, ¬ RestartStands before restart) ∧ ¬ ExitReached before) →
    ∃ op outcome, Chosen before exchange.command op ∧ exchange.executed = [(op, outcome)]

end TtdGdbserver.Gdb
