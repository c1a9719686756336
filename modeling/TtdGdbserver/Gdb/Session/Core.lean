import TtdGdbserver.Gdb.Target.Dispatch

/-!
# A session of the GDB target

The event loop of a session handles commands, interrupt requests and stops
while the worker of a resume runs.  The flags of `GdbTarget` are read and
written in the order of the source, each of them between steps of the runner.
-/

namespace TtdGdbserver.Gdb

open TtdGdbserver.Transition
open TtdGdbserver.Ttd
open TtdGdbserver.Target

variable {β ε : Type}

/-- The runner of a `GdbTarget`. -/
abbrev TargetRunner (β : Type) :=
  Runner (Shared β) Job Unit MultiThreadStopReason Note

/-- Where the handling of a command stands. -/
inductive SessionStage where
  /-- No command is being handled. -/
  | idle
  /-- In `spawn_replay`, about to load the end state. -/
  | loading (op : ReplayOp)
  /-- In `spawn_replay`, about to leave the end state. -/
  | leaving (op : ReplayOp)
  /-- About to start a job. -/
  | starting (job onInterrupt : Job)
  /-- In a restart, about to try the lock.  A `vRun` knows where to go, unless
  it was rejected; an `R` will ask the backend. -/
  | trying (destination : Option (Except DebugError TtdPosition))
  /-- In a restart, about to take the lock. -/
  | locking (destination : Option (Except DebugError TtdPosition))
  /-- In a restart, about to jump. -/
  | jumping (destination : Option (Except DebugError TtdPosition))
  /-- In a restart, about to release the lock. -/
  | releasing (moved : Bool)
  /-- In a restart, about to clear the end state. -/
  | clearing
  /-- The target refused a command, which ends the session. -/
  | finished

/-- A session, until its backend is recovered. -/
structure Session (β : Type) where
  runner : TargetRunner β
  resume : ResumeState
  restartPending : Bool
  stage : SessionStage

/-- The steps of a session. -/
inductive SessionLabel (β ε : Type) where
  | worker (number : Nat) (env : ε)
  /-- A call of the event loop that starts nothing. -/
  | call (action : LoopAction Job (Choice β ε))
  | command (command : Command)
  /-- The next step of the command being handled. -/
  | proceed

/-- The calls that the event loop makes between commands. -/
def LoopAction.between {J C : Type} : LoopAction J C → Bool
  | .takeStopReason | .waitStopReason | .requestInterrupt | .onInterrupt | .tryLock | .lock
  | .serve _ | .proceed => true
  | .start .. | .access _ | .intoBackend | .giveUp => false

/-- A backward replay is noted as it starts. -/
def Job.startNotes : Job → List (LoopAction Job (Choice β ε))
  | .replay op => if op.isForward then [] else [.access (.note .backward)]
  | _ => []

namespace Session

/-- A session that was just started. -/
def new (backend : β) : Session β where
  runner := .new ⟨backend, false⟩
  resume := .default
  restartPending := false
  stage := .idle

/-- The event loop takes these actions, and the command goes on. -/
def advance (target : DebugTarget β ε) (session : Session β)
    (actions : List (LoopAction Job (Choice β ε))) (stage : SessionStage) :
    Option (Session β) :=
  (exec (Runner.step (workload target)) session.runner (actions.map .loop)).map fun runner =>
    { session with runner := runner, stage := stage }

/-- `spawn_replay`, up to the end state. -/
def spawnReplay (session : Session β) (op : ReplayOp) : Session β :=
  if session.restartPending then
    if op.isForward then
      { session with
        restartPending := false
        stage := .starting (.stopping .sigTrap) (.stopping .sigTrap) }
    else { session with restartPending := false, stage := .loading op }
  else { session with stage := .loading op }

/-- Begin to handle a command. -/
def handle (session : Session β) : Command → Session β
  | .clearResumeActions => { session with resume := session.resume.clear }
  | .setResumeActionContinue _ => { session with resume := session.resume.setContinue }
  | .setResumeActionStep tid => { session with resume := session.resume.setStep tid }
  | .setResumeActionRangeStep tid start finish =>
      { session with resume := session.resume.setRangeStep tid start finish }
  | .resume =>
      let (op, resume) := session.resume.take
      { session with resume := resume }.spawnReplay op
  | .reverseCont => session.spawnReplay .backwardContinue
  | .reverseStep tid => session.spawnReplay (.backwardStep tid)
  | .run destination => { session with stage := .trying (some destination) }
  | .restart => { session with stage := .trying none }

/-- The jump of a restart, and whether it moved the backend. -/
def jump (target : DebugTarget β ε) (session : Session β) :
    Except DebugError TtdPosition → Option (Session β)
  | .error _ => session.advance target [] (.releasing false)
  | .ok destination =>
      session.advance target
        [.serve (.query fun backend => (target.goto backend destination).2)]
        (.releasing (target.goto session.runner.shared.backend destination).1.toBool)

/-- The next step of the command being handled. -/
def proceed (target : DebugTarget β ε) (session : Session β) : Option (Session β) :=
  match session.stage with
  | .loading op =>
      if session.runner.shared.endState then
        if op.isForward then session.advance target [] (.starting .exiting .exiting)
        else session.advance target [] (.leaving op)
      else session.advance target [] (.starting (.replay op) (.stopping .sigInt))
  | .leaving op =>
      session.advance target [.access .leaveEndState]
        (.starting (.replay op) (.stopping .sigInt))
  | .starting job onInterrupt =>
      if session.runner.inFlight then session.advance target [.start job onInterrupt] .finished
      else session.advance target (job.startNotes ++ [.start job onInterrupt]) .idle
  | .trying destination =>
      session.advance target [.tryLock]
        (if session.runner.inFlight then .idle else .locking destination)
  | .locking destination => session.advance target [.proceed] (.jumping destination)
  | .jumping destination =>
      session.jump target
        (destination.getD (.ok (target.lifetime session.runner.shared.backend).1))
  | .releasing moved =>
      session.advance target [.proceed] (if moved then .clearing else .idle)
  | .clearing =>
      { session with restartPending := true }.advance target [.access .clearEndState] .idle
  | .idle | .finished => none

/-- One step of a session. -/
def step (target : DebugTarget β ε) : LStep (Session β) (SessionLabel β ε) :=
  fun session label =>
    match label with
    | .worker number env =>
        (Runner.step (workload target) session.runner (.worker number (.environment env))).map
          fun runner => { session with runner := runner }
    | .call action =>
        match session.stage with
        | .idle => if action.between then session.advance target [action] .idle else none
        | _ => none
    | .command command =>
        match session.stage, session.runner.loop with
        | .idle, .ready => some (session.handle command)
        | _, _ => none
    | .proceed => session.proceed target

end Session

/-! ## The two stages of the exit -/

/-- What a session's history consists of. -/
abbrev SessionEvent := Event MultiThreadStopReason Note

/-- The job ran a forward replay that reported the process exit. -/
def ReportedExit (number : Nat) (history : List SessionEvent) : Prop :=
  ∃ op : ReplayOp, op.isForward = true ∧
    .jobNote number (.executed op (.returned (.ok .processExit))) ∈ history

/-- The event moves the client away from the process exit. -/
def Event.leavesExit : SessionEvent → Bool
  | .loopNote .backward | .loopNote .restarted => true
  | _ => false

/-- Since the latest backward resume or restart, the client has been delivered
the rewindable stop of a forward replay that reported the process exit. -/
def ExitAnnounced (history : List SessionEvent) : Prop :=
  ∃ before number tid after,
    history = before ++ .delivered number (.ok (.signalWithThread tid .sigKill)) :: after ∧
      ReportedExit number before ∧ ∀ event ∈ after, event.leavesExit = false

/-- The real exit is delivered only after its announcement. -/
def TwoStage (history : List SessionEvent) : Prop :=
  Follows (fun before event => ∀ number code,
    event = .delivered number (.ok (.exited code)) → ExitAnnounced before) history

end TtdGdbserver.Gdb
