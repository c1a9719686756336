import TtdGdbserver.Gdb.Runner.Flight
import TtdGdbserver.Gdb.Session.Progress
import TtdGdbserver.Gdb.Session.TwoStage
import TtdGdbserver.Gdb.Target.Sequential
import TtdGdbserver.Transition.Simulation

/-!
# A session refines the sequential target

A client that waits for the stop of a resume before its next command cannot see
the threads: whatever their schedule, it is answered as by a target that runs
each command at once, in order and alone.
-/

namespace TtdGdbserver.Gdb

open TtdGdbserver.Transition
open TtdGdbserver.Ttd
open TtdGdbserver.Target

variable {β ε : Type}

/-! ## The client -/

/-- What a client does to its target: commands, interrupt requests, and whatever
else uses the backend. -/
inductive ClientAct (β : Type) where
  | command (command : Command)
  | interrupt
  | query (use : β → β)
  /-- The client is told a panic as a stop at the current position. -/
  | mapPanic

/-- What the client does in a call of the event loop. -/
def LoopAction.client : LoopAction Job (Choice β ε) → Option (ClientAct β)
  | .requestInterrupt | .onInterrupt => some .interrupt
  | .serve (.query use) => some (.query use)
  | .serve .mapPanic => some .mapPanic
  | _ => none

/-- What the client does in a step of a session. -/
def SessionLabel.client : SessionLabel β ε → Option (ClientAct β)
  | .command given => some (.command given)
  | .call action => action.client
  | .worker .. | .proceed => none

/-- What the client does in a step of the sequential target. -/
def SequentialLabel.client : SequentialLabel β ε → Option (ClientAct β)
  | .command given => some (.command given)
  | .interrupt => some .interrupt
  | .query use => some (.query use)
  | .mapPanic => some .mapPanic
  | .answer .. => none

/-- A step that a client has to wait with while its target is running. -/
def SessionLabel.waits : SessionLabel β ε → Bool
  | .command _ => true
  | .call action => action.locks
  | .worker .. | .proceed => false

namespace Session

/-- No stop is outstanding. -/
def Answered (session : Session β) : Prop :=
  deliveredJobs session.runner.history = acceptedJobs session.runner.history

/-- Commands and queries wait for the stop of a resume. -/
def Orderly (session : Session β) (label : SessionLabel β ε) : Prop :=
  label.waits = true → session.Answered

instance (session : Session β) (label : SessionLabel β ε) : Decidable (session.Orderly label) :=
  inferInstanceAs (Decidable (label.waits = true →
    deliveredJobs session.runner.history = acceptedJobs session.runner.history))

/-- The flags and the memory, without the threads. -/
def sequential (session : Session β) : GdbTarget β :=
  ⟨session.runner.shared, session.resume, session.restartPending⟩

end Session

/-! ## What is left of a command -/

/-- What a restart does after its lock, all at once. -/
def GdbTarget.restarted (target : DebugTarget β ε) (gdb : GdbTarget β) :
    Except DebugError TtdPosition → GdbTarget β
  | .error _ => gdb
  | .ok destination => (gdb.restartAt target .restart destination).1

/-- Forget the end state, after a restart that moved. -/
def GdbTarget.cleared (gdb : GdbTarget β) (moved : Bool) : GdbTarget β :=
  if moved then { gdb with shared := { gdb.shared with endState := false }, restartPending := true }
  else gdb

/-- What the command that stands at this stage still has to do. -/
def SessionStage.rest (target : DebugTarget β ε) (stage : SessionStage) (gdb : GdbTarget β)
    (environment : List ε) (interrupted : Option (List ε)) :
    Option (GdbTarget β × Option (Outcome MultiThreadStopReason)) :=
  match stage with
  | .idle | .finished => some (gdb, none)
  | .loading op =>
      let (job, gdb) := gdb.spawnFromEndState op
      gdb.settle target job job.onInterrupt environment interrupted
  | .leaving op =>
      { gdb with shared := { gdb.shared with endState := false } }.settle target (.replay op)
        (.stopping .sigInt) environment interrupted
  | .starting job onInterrupt => gdb.settle target job onInterrupt environment interrupted
  | .trying destination | .locking destination | .jumping destination =>
      some (gdb.restarted target
        (destination.getD (.ok (target.lifetime gdb.shared.backend).1)), none)
  | .releasing moved => some (gdb.cleared moved, none)
  | .clearing => some (gdb.cleared true, none)

variable {target : DebugTarget β ε} {session next : Session β}

theorem rest_spawnReplay (session : Session β) (op : ReplayOp) :
    (session.spawnReplay op).stage.rest target (session.spawnReplay op).sequential =
      (session.sequential.spawnReplay op).2.settle target (session.sequential.spawnReplay op).1
        (session.sequential.spawnReplay op).1.onInterrupt := by
  unfold Session.spawnReplay GdbTarget.spawnReplay
  cases pending : session.restartPending <;> cases forward : op.isForward <;>
    simp only [Session.sequential, pending, Bool.false_eq_true, if_true, if_false]
  all_goals rfl

theorem restartAt_command (gdb : GdbTarget β) (command other : Command)
    (destination : TtdPosition) : (gdb.restartAt target command destination).1 =
      (gdb.restartAt target other destination).1 := by
  unfold GdbTarget.restartAt
  split <;> rfl

/-- To handle a command is to answer it. -/
theorem answer_handle (idle : session.stage = .idle) (command : Command) :
    session.sequential.answer target command =
      (session.handle command).stage.rest target (session.handle command).sequential := by
  cases command with
  | clearResumeActions | setResumeActionContinue | setResumeActionStep
  | setResumeActionRangeStep =>
      simp only [Session.handle, idle]
      rfl
  | resume =>
      exact (rest_spawnReplay { session with resume := session.resume.take.2 } _).symm
  | reverseCont | reverseStep => exact (rest_spawnReplay session _).symm
  | run destination =>
      cases destination with
      | error => rfl
      | ok destination =>
          funext environment interrupted
          simp only [GdbTarget.answer, GdbTarget.launch, GdbTarget.perform, Option.map_some,
            restartAt_command _ (.run _) .restart]
          rfl
  | restart => rfl

/-! ## The steps of a command -/

section Proceed

variable {action : LoopAction Job (Choice β ε)} {stage : SessionStage} {runner : TargetRunner β}

/-- The interrupt handle touches nothing that the closures share. -/
theorem light_workload {handle : Unit} {shared after : Shared β} {rest : Option Unit}
    {notes : List Note}
    (fired : (workload target).fire handle shared = some (rest, after, notes)) :
    after = shared := by
  cases fired
  rfl

/-- A call of a quiet runner that starts nothing and is no query. -/
theorem waited_quiet (quiet : session.runner.Quiet) (serving : session.runner.Serving)
    (attends : action.attends = true) (unserved : ∀ choice, action ≠ .serve choice)
    (stepEq : session.runner.loopStep (workload target) action = some runner) :
    runner.Quiet ∧ deliveries runner.history = deliveries session.runner.history ∧
      runner.shared = session.runner.shared := by
  have attended := Runner.attended_loopStep (fun _ _ _ _ _ => light_workload)
    quiet.calm serving.channeled.staying attends stepEq
  cases attended with
  | waited waited => exact ⟨quiet.waited waited, waited.outcomes, waited.shared⟩
  | received _ received => exact absurd received quiet.not_received
  | served choice use action_eq => exact absurd action_eq (unserved choice)

/-- A step of a command that starts no job. -/
structure Proceeded (target : DebugTarget β ε) (session next : Session β) : Prop where
  quiet : next.runner.Quiet
  told : deliveries next.runner.history = deliveries session.runner.history
  rest : next.stage.rest target next.sequential = session.stage.rest target session.sequential

/-- The step that starts one. -/
structure Started (target : DebugTarget β ε) (session next : Session β) (job onInterrupt : Job) :
    Prop where
  boarding : next.runner.Boarding (workload target) job onInterrupt session.runner.shared
  told : deliveries next.runner.history = deliveries session.runner.history
  stage : session.stage = .starting job onInterrupt
  idle : next.stage = .idle
  resume : next.resume = session.resume
  restartPending : next.restartPending = session.restartPending

/-- A call that only waits takes the command to its next stage. -/
theorem proceeded_advance (quiet : session.runner.Quiet) (serving : session.runner.Serving)
    (attends : action.attends = true) (unserved : ∀ choice, action ≠ .serve choice)
    (same : stage.rest target session.sequential = session.stage.rest target session.sequential)
    (stepEq : session.advance target [action] stage = some next) :
    Proceeded target session next := by
  obtain ⟨runner, loopEq, rfl⟩ := advance_one stepEq
  obtain ⟨quiet', told, shared⟩ := waited_quiet quiet serving attends unserved loopEq
  refine ⟨quiet', told, ?_⟩
  rw [← same]
  simp only [Session.sequential, shared]

/-- `spawn_replay` looks at the end state. -/
theorem proceeded_loading {op : ReplayOp} (quiet : session.runner.Quiet)
    (at_ : session.stage = .loading op) (stepEq : session.proceed target = some next) :
    Proceeded target session next := by
  simp only [Session.proceed, at_] at stepEq
  cases ended : session.runner.shared.endState with
  | false =>
      rw [ended, if_neg Bool.false_ne_true] at stepEq
      rw [advance_nil stepEq]
      refine ⟨quiet, rfl, ?_⟩
      funext environment interrupted
      simp [at_, SessionStage.rest, GdbTarget.spawnFromEndState, Session.sequential, ended,
        Job.onInterrupt]
  | true =>
      rw [ended, if_pos rfl] at stepEq
      cases forward : op.isForward with
      | false =>
          rw [forward, if_neg Bool.false_ne_true] at stepEq
          rw [advance_nil stepEq]
          refine ⟨quiet, rfl, ?_⟩
          funext environment interrupted
          simp [at_, SessionStage.rest, GdbTarget.spawnFromEndState, Session.sequential, ended,
            forward, Job.onInterrupt]
      | true =>
          rw [forward, if_pos rfl] at stepEq
          rw [advance_nil stepEq]
          refine ⟨quiet, rfl, ?_⟩
          funext environment interrupted
          simp [at_, SessionStage.rest, GdbTarget.spawnFromEndState, Session.sequential, ended,
            forward, Job.onInterrupt]

/-- A restart jumps. -/
theorem proceeded_jumping {destination : Option (Except DebugError TtdPosition)}
    (quiet : session.runner.Quiet)
    (at_ : session.stage = .jumping destination) (stepEq : session.proceed target = some next) :
    Proceeded target session next := by
  simp only [Session.proceed, at_, Session.jump] at stepEq
  cases where_ : destination.getD (.ok (target.lifetime session.runner.shared.backend).1) with
  | error error =>
      rw [where_] at stepEq
      rw [advance_nil stepEq]
      refine ⟨quiet, rfl, ?_⟩
      funext environment interrupted
      simp [at_, SessionStage.rest, Session.sequential, where_, GdbTarget.restarted,
        GdbTarget.cleared]
  | ok position =>
      rw [where_] at stepEq
      obtain ⟨runner, loopEq, rfl⟩ := advance_one stepEq
      have quiet' := quiet.served loopEq
      obtain rfl := Runner.served_loopStep loopEq
      refine ⟨quiet', rfl, ?_⟩
      funext environment interrupted
      simp only [at_, SessionStage.rest, Session.sequential, where_, GdbTarget.restarted,
        GdbTarget.restartAt, workload]
      rcases target.goto session.runner.shared.backend position with ⟨_ | _, backend⟩ <;> rfl

theorem startNotes_cases (job : Job) :
    (job.startNotes : List (LoopAction Job (Choice β ε))) = [] ∨
      (job.startNotes : List (LoopAction Job (Choice β ε))) = [.access (.note .backward)] := by
  cases job with
  | replay op => cases forward : op.isForward <;> simp [Job.startNotes, forward]
  | reporting | mapping | stopping | exiting => exact .inl rfl

/-- `start` accepts the job, and a backward replay is noted before. -/
theorem started_starting {job onInterrupt : Job} (quiet : session.runner.Quiet)
    (serving : session.runner.Serving) (at_ : session.stage = .starting job onInterrupt)
    (stepEq : session.proceed target = some next) :
    Started target session next job onInterrupt := by
  have idle : session.runner.inFlight = false := quiet.idle serving.exclusive
  simp only [Session.proceed, at_, idle, Bool.false_eq_true, if_false] at stepEq
  rcases startNotes_cases job with silent | noted
  · rw [silent, List.nil_append] at stepEq
    obtain ⟨runner, loopEq, rfl⟩ := advance_one stepEq
    obtain ⟨boarding, told⟩ := quiet.accepted serving.exclusive loopEq
    exact ⟨boarding, told, at_, rfl, rfl, rfl⟩
  · rw [noted, List.singleton_append] at stepEq
    obtain ⟨middle, runner, firstEq, secondEq, rfl⟩ := advance_two stepEq
    obtain ⟨quiet', shared, toldNote⟩ := quiet.accessed firstEq
    obtain ⟨boarding, told⟩ := quiet'.accepted (serving.exclusive.loopStep firstEq) secondEq
    rw [shared] at boarding
    exact ⟨boarding, told.trans toldNote, at_, rfl, rfl, rfl⟩

/-- A command goes on, or starts its job. -/
theorem proceeded_or_started (quiet : session.runner.Quiet) (serving : session.runner.Serving)
    (stepEq : session.proceed target = some next) :
    Proceeded target session next ∨
      ∃ job onInterrupt, Started target session next job onInterrupt := by
  have idle : session.runner.inFlight = false := quiet.idle serving.exclusive
  cases at_ : session.stage with
  | loading op => exact .inl (proceeded_loading quiet at_ stepEq)
  | leaving op =>
      simp only [Session.proceed, at_] at stepEq
      obtain ⟨runner, loopEq, rfl⟩ := advance_one stepEq
      obtain ⟨quiet', shared, told⟩ := quiet.accessed loopEq
      refine .inl ⟨quiet', told, ?_⟩
      simp only [Session.sequential, shared, at_]
      rfl
  | starting job onInterrupt =>
      exact .inr ⟨job, onInterrupt, started_starting quiet serving at_ stepEq⟩
  | trying destination =>
      simp only [Session.proceed, at_, idle, Bool.false_eq_true, if_false] at stepEq
      exact .inl (proceeded_advance quiet serving rfl (by simp) (by rw [at_]; rfl) stepEq)
  | locking destination =>
      simp only [Session.proceed, at_] at stepEq
      exact .inl (proceeded_advance quiet serving rfl (by simp) (by rw [at_]; rfl) stepEq)
  | jumping destination => exact .inl (proceeded_jumping quiet at_ stepEq)
  | releasing moved =>
      simp only [Session.proceed, at_] at stepEq
      refine .inl (proceeded_advance quiet serving rfl (by simp) ?_ stepEq)
      rw [at_]
      cases moved <;> rfl
  | clearing =>
      simp only [Session.proceed, at_] at stepEq
      obtain ⟨runner, loopEq, rfl⟩ := advance_one stepEq
      obtain ⟨quiet', shared, told⟩ := quiet.accessed loopEq
      refine .inl ⟨quiet', told, ?_⟩
      simp only [Session.sequential, shared, at_]
      rfl
  | idle | finished => simp [Session.proceed, at_] at stepEq

end Proceed

/-! ## The simulation -/

/-- The command in progress has started its job, on the flags and the memory of
`start`. -/
structure Underway (target : DebugTarget β ε) (session : Session β) (state : Sequential β)
    (start : GdbTarget β) (job onInterrupt : Job) : Prop where
  idle : session.stage = .idle
  pending : ∃ command, state.pending = some command ∧
    state.gdb.answer target command = start.settle target job onInterrupt
  resume : session.resume = start.resume
  restartPending : session.restartPending = start.restartPending

/-- How the two stand to each other while a command is handled, and before the
next. -/
inductive Phase (target : DebugTarget β ε) (session : Session β) (state : Sequential β) : Prop
  | resting (quiet : session.runner.Quiet) (idle : session.stage = .idle)
      (pending : state.pending = none) (same : session.sequential = state.gdb)
  | handling (quiet : session.runner.Quiet) (busy : session.stage ≠ .idle)
      (pending : ∃ command, state.pending = some command ∧
        state.gdb.answer target command = session.stage.rest target session.sequential)
  | boarding (start : GdbTarget β) (job onInterrupt : Job)
      (underway : Underway target session state start job onInterrupt)
      (boarding : session.runner.Boarding (workload target) job onInterrupt start.shared)
  | airborne (start : GdbTarget β) (job onInterrupt : Job)
      (underway : Underway target session state start job onInterrupt)
      (airborne : session.runner.Airborne (workload target) (state.asked = true) job onInterrupt
        ((workload target).beginResume start.shared))
  | arrived (start : GdbTarget β) (job onInterrupt : Job)
      (outcome : Outcome MultiThreadStopReason)
      (underway : Underway target session state start job onInterrupt)
      (arrived : session.runner.Arrived (workload target) (state.asked = true) job onInterrupt
        ((workload target).beginResume start.shared) outcome)

/-- The sequential target has been told the same, and tells the same. -/
structure Simulates (target : DebugTarget β ε) (labels : List (SessionLabel β ε))
    (session : Session β) (labels' : List (SequentialLabel β ε)) (state : Sequential β) :
    Prop where
  serving : session.runner.Serving
  client : labels'.filterMap SequentialLabel.client = labels.filterMap SessionLabel.client
  told : state.told = deliveries session.runner.history
  phase : Phase target session state

variable {state : Sequential β}

/-- A step that the sequential target matches with some of its own. -/
def Matched (target : DebugTarget β ε) (state : Sequential β) (session next : Session β)
    (label : SessionLabel β ε) : Prop :=
  ∃ more state', exec (Sequential.step target) state more = some state' ∧
    more.filterMap SequentialLabel.client = label.client.toList ∧
    (∃ outcomes, state'.told = state.told ++ outcomes ∧
      deliveries next.runner.history = deliveries session.runner.history ++ outcomes) ∧
    Phase target next state'

/-- A step behind the scenes. -/
theorem Matched.silent {label : SessionLabel β ε} (phase : Phase target next state)
    (quiet : label.client = none)
    (told : deliveries next.runner.history = deliveries session.runner.history) :
    Matched target state session next label :=
  ⟨[], state, rfl, by rw [quiet]; rfl, ⟨[], by simp, by simp [told]⟩, phase⟩

theorem matched_worker {number : Nat} {env : ε} (phase : Phase target session state)
    (serving : session.runner.Serving)
    (stepEq : Session.step target session (.worker number env) = some next) :
    Matched target state session next (.worker number env) := by
  obtain ⟨runner, stepped, rfl⟩ := Option.map_eq_some_iff.mp stepEq
  cases phase with
  | resting quiet idle pending same =>
      rw [quiet.landed.no_step] at stepped
      contradiction
  | handling quiet busy pending =>
      rw [quiet.landed.no_step] at stepped
      contradiction
  | boarding start job onInterrupt underway boarding =>
      rw [boarding.landed.no_step] at stepped
      contradiction
  | airborne start job onInterrupt underway airborne =>
      have underway' : Underway target { session with runner := runner } state start job
          onInterrupt :=
        ⟨underway.idle, underway.pending, underway.resume, underway.restartPending⟩
      obtain ⟨airborne' | ⟨outcome, arrived⟩, told⟩ := airborne.worker serving.channeled stepped
      · exact .silent (.airborne start job onInterrupt underway' airborne') rfl told
      · exact .silent (.arrived start job onInterrupt outcome underway' arrived) rfl told
  | arrived start job onInterrupt outcome underway arrived =>
      rw [arrived.landed.no_step] at stepped
      contradiction

/-- The client begins a command. -/
theorem matched_command {command : Command} (phase : Phase target session state)
    (orderly : session.Orderly (.command command : SessionLabel β ε))
    (stepEq : Session.step target session (.command command) = some next) :
    Matched target state session next (.command command) := by
  have answered : session.Answered := orderly rfl
  simp only [Session.step] at stepEq
  split at stepEq
  · rename_i at_ ready
    cases stepEq
    have told : deliveries (session.handle command).runner.history =
        deliveries session.runner.history := by rw [Session.runner_handle]
    cases phase with
    | resting quiet idle pending same =>
        have begun : Sequential.step target state (.command command) =
            some { state with pending := some command, asked := false } := by
          simp only [Sequential.step, pending]
        have quiet' : (session.handle command).runner.Quiet := by
          rw [Session.runner_handle]
          exact quiet
        have rest : state.gdb.answer target command =
            (session.handle command).stage.rest target (session.handle command).sequential := by
          rw [← same]
          exact answer_handle idle command
        by_cases over_ : (session.handle command).stage = .idle
        · refine ⟨[.command command, .answer [] none], { state with
            gdb := (session.handle command).sequential, pending := none, asked := false }, ?_, rfl,
            ⟨[], by simp, by simp [told]⟩, .resting quiet' over_ rfl rfl⟩
          rw [over_] at rest
          rw [exec_cons, begun, Option.bind_some, exec_cons]
          simp [Sequential.step, rest, SessionStage.rest]
        · refine ⟨[.command command], { state with pending := some command, asked := false }, ?_,
            rfl, ⟨[], by simp, by simp [told]⟩, .handling quiet' over_ ⟨command, rfl, rest⟩⟩
          rw [exec_cons, begun]
          rfl
    | handling quiet busy pending => exact absurd at_ busy
    | boarding start job onInterrupt underway boarding =>
        exact absurd answered boarding.awaits.ne
    | airborne start job onInterrupt underway airborne =>
        obtain ⟨landed, worker, workers, finished, flying, same, awaits, partway⟩ := airborne.crew
        exact absurd answered awaits.ne
    | arrived start job onInterrupt outcome underway arrived =>
        obtain ⟨number, queue, awaits⟩ := arrived.queue
        exact absurd answered awaits.ne
  · contradiction

/-- The command goes on. -/
theorem matched_proceed (phase : Phase target session state) (serving : session.runner.Serving)
    (stepEq : session.proceed target = some next) :
    Matched target state session next (.proceed : SessionLabel β ε) := by
  have busy : session.stage ≠ .idle := by
    intro idle
    simp [Session.proceed, idle] at stepEq
  cases phase with
  | handling quiet _ pending =>
      obtain ⟨command, pending, rest⟩ := pending
      rcases proceeded_or_started quiet serving stepEq with proceeded | ⟨job, onInterrupt, started⟩
      · rw [← proceeded.rest] at rest
        by_cases over_ : next.stage = .idle
        · refine ⟨[.answer [] none], { state with gdb := next.sequential, pending := none }, ?_,
            rfl, ⟨[], by simp, by simp [proceeded.told]⟩, .resting proceeded.quiet over_ rfl rfl⟩
          rw [over_] at rest
          simp [exec_cons, Sequential.step, pending, rest, SessionStage.rest]
        · exact .silent (.handling proceeded.quiet over_ ⟨command, pending, rest⟩) rfl
            proceeded.told
      · rw [started.stage] at rest
        exact .silent (.boarding session.sequential job onInterrupt
          ⟨started.idle, ⟨command, pending, rest⟩, started.resume, started.restartPending⟩
          started.boarding) rfl started.told
  | resting quiet idle => exact absurd idle busy
  | boarding start job onInterrupt underway => exact absurd underway.idle busy
  | airborne start job onInterrupt underway => exact absurd underway.idle busy
  | arrived start job onInterrupt outcome underway => exact absurd underway.idle busy

/-! ## The calls between commands -/

namespace Sequential

/-- The client may have asked for an interrupt. -/
def heard (state : Sequential β) (asks : Bool) : Sequential β :=
  { state with asked := state.asked || asks }

/-- What the client asked for. -/
def requests (asks : Bool) : List (SequentialLabel β ε) :=
  if asks then [.interrupt] else []

theorem exec_requests (target : DebugTarget β ε) (state : Sequential β) (asks : Bool) :
    exec (step target) state (requests asks) = some (state.heard asks) := by
  cases asks with
  | false => simp [requests, heard]
  | true => simp [requests, heard, exec_cons, step]

/-- A call that does not use the backend asks for an interrupt at most. -/
theorem client_requests {action : LoopAction Job (Choice β ε)}
    (unserved : ∀ choice, action ≠ .serve choice) :
    (requests action.asks : List (SequentialLabel β ε)).filterMap SequentialLabel.client =
      (SessionLabel.call action).client.toList := by
  cases action with
  | serve choice => exact absurd rfl (unserved choice)
  | _ => rfl

end Sequential

/-- A call while no command is in progress uses the backend as queries do. -/
theorem matched_resting {action : LoopAction Job (Choice β ε)} {runner : TargetRunner β}
    (quiet : session.runner.Quiet) (serving : session.runner.Serving)
    (pending : state.pending = none)
    (same : session.sequential = state.gdb) (attends : action.attends = true)
    (stepEq : session.runner.loopStep (workload target) action = some runner) :
    Matched target state session { session with runner := runner, stage := .idle }
      (.call action) := by
  by_cases served : ∃ choice, action = .serve choice
  · obtain ⟨choice, rfl⟩ := served
    have quiet' := quiet.served stepEq
    obtain rfl := Runner.served_loopStep stepEq
    have used (use : β → β) : Session.sequential { session with
        runner := { session.runner with shared :=
          { session.runner.shared with backend := use session.runner.shared.backend } }
        stage := .idle } = (state.useBackend use).gdb := by
      rw [Sequential.useBackend, ← same]
      rfl
    cases choice with
    | query use =>
        refine ⟨[.query use], state.useBackend use, ?_, rfl, ⟨[], by simp [Sequential.useBackend],
          by simp⟩, .resting quiet' rfl pending (used use)⟩
        simp [exec_cons, Sequential.step, pending]
    | mapPanic =>
        have mapped := used fun backend => (stopHere target .sigTrap backend).2
        refine ⟨[.mapPanic],
          state.useBackend fun backend => (stopHere target .sigTrap backend).2, ?_, rfl,
          ⟨[], by simp [Sequential.useBackend], by simp⟩, .resting quiet' rfl pending mapped⟩
        simp [exec_cons, Sequential.step, pending]
    | environment | leaveEndState | clearEndState | note =>
        exact .silent (.resting quiet' rfl pending same) rfl rfl
  · have unserved : ∀ choice, action ≠ .serve choice :=
      fun choice other => served ⟨choice, other⟩
    obtain ⟨quiet', told, shared⟩ := waited_quiet quiet serving attends unserved stepEq
    refine ⟨Sequential.requests action.asks, state.heard action.asks,
      Sequential.exec_requests target state _, Sequential.client_requests unserved,
      ⟨[], by simp [Sequential.heard], by simp [told]⟩, .resting quiet' rfl pending ?_⟩
    rw [Sequential.heard, ← same]
    simp only [Session.sequential, shared]

/-- The stop of the job is taken, which answers the command. -/
theorem answered_of_arrived {runner : TargetRunner β} {start : GdbTarget β} {job onInterrupt : Job}
    {outcome : Outcome MultiThreadStopReason} (asked : Bool)
    (underway : Underway target session state start job onInterrupt)
    (yields : (workload target).Yields (state.asked = true) job onInterrupt
      ((workload target).beginResume start.shared) outcome session.runner.shared)
    (shared : runner.shared = session.runner.shared) :
    ∃ environment interrupted, Sequential.step target (state.heard asked)
      (.answer environment interrupted) = some { state.heard asked with
        gdb := ({ session with runner := runner } : Session β).sequential
        pending := none
        told := state.told ++ [outcome] } := by
  obtain ⟨command, pending, answer⟩ := underway.pending
  obtain ⟨environment, interrupted, implies, settled⟩ := settle_of_yields yields
  refine ⟨environment, interrupted, ?_⟩
  have allowed : (interrupted.isSome && !(state.heard asked).asked) = false := by
    cases wish : interrupted.isSome with
    | false => rfl
    | true => simp [Sequential.heard, implies wish]
  have pending' : (state.heard asked).pending = some command := pending
  have answer' : (state.heard asked).gdb.answer target command =
      start.settle target job onInterrupt := answer
  simp only [Sequential.step, pending', allowed, Bool.false_eq_true, if_false, answer', settled,
    Option.map_some, Option.toList_some]
  simp only [Session.sequential, shared, underway.resume, underway.restartPending]
  rfl

/-- While a stop is outstanding, nothing waits for the backend. -/
theorem unlocking_of_awaits {action : LoopAction Job (Choice β ε)} {number : Nat}
    (orderly : session.Orderly (.call action : SessionLabel β ε))
    (awaits : session.runner.Awaits number) : action.locks = false := by
  rw [Bool.eq_false_iff]
  intro locks
  exact awaits.ne (orderly locks)

theorem heard_asked {asks : Bool} (asked : state.asked = true) :
    (state.heard asks).asked = true := by
  simp [Sequential.heard, asked]

theorem heard_asks {action : LoopAction Job (Choice β ε)} (asks : action.asks = true) :
    (state.heard action.asks).asked = true := by
  simp [Sequential.heard, asks]

/-- A call between commands, or while a job is on its way. -/
theorem matched_call {action : LoopAction Job (Choice β ε)} (phase : Phase target session state)
    (serving : session.runner.Serving)
    (orderly : session.Orderly (.call action : SessionLabel β ε))
    (stepEq : Session.step target session (.call action) = some next) :
    Matched target state session next (.call action) := by
  simp only [Session.step] at stepEq
  split at stepEq
  · rename_i idle
    simp only [Option.ite_none_right_eq_some] at stepEq
    obtain ⟨between, stepEq⟩ := stepEq
    obtain ⟨runner, loopEq, rfl⟩ := advance_one stepEq
    have attends : action.attends = true := by
      cases action <;> simp [LoopAction.between, LoopAction.attends] at between ⊢
    have attended (calm : session.runner.loop.starting = false) :=
      Runner.attended_loopStep (fun _ _ _ _ _ => light_workload) calm serving.channeled.staying
        attends loopEq
    have requested := Sequential.exec_requests target state action.asks
    cases phase with
    | resting quiet _ pending same =>
        exact matched_resting quiet serving pending same attends loopEq
    | handling quiet busy => exact absurd idle busy
    | boarding start job onInterrupt underway boarding =>
        have underway' : Underway target { session with runner := runner, stage := .idle } state
            start job onInterrupt :=
          ⟨rfl, underway.pending, underway.resume, underway.restartPending⟩
        have client : (.call action : SessionLabel β ε).client = none := by
          rw [Runner.proceed_of_starting boarding.started loopEq]
          rfl
        obtain ⟨boarding' | airborne, told⟩ :=
          boarding.loopStep (state.asked = true) loopEq
        · exact .silent (.boarding start job onInterrupt underway' boarding') client told
        · exact .silent (.airborne start job onInterrupt underway' airborne) client told
    | airborne start job onInterrupt underway airborne =>
        obtain ⟨landed, worker, workers, finished, flying, same, awaits, partway⟩ := airborne.crew
        obtain ⟨airborne', told⟩ := airborne.attended (attended airborne.calm)
          (unlocking_of_awaits orderly awaits) heard_asked heard_asks
        have unserved := Runner.unserved_of_unlocked airborne.unlocked loopEq
        exact ⟨Sequential.requests action.asks, state.heard action.asks, requested,
          Sequential.client_requests unserved, ⟨[], by simp [Sequential.heard], by simp [told]⟩,
          .airborne start job onInterrupt
            ⟨rfl, underway.pending, underway.resume, underway.restartPending⟩ airborne'⟩
    | arrived start job onInterrupt outcome underway arrived =>
        have unserved := Runner.unserved_of_unlocked arrived.unlocked loopEq
        obtain ⟨number, queue, awaits⟩ := arrived.queue
        rcases arrived.attended (attended arrived.calm) (unlocking_of_awaits orderly awaits)
          heard_asked with ⟨arrived', told⟩ | ⟨quiet, shared, told⟩
        · exact ⟨Sequential.requests action.asks, state.heard action.asks, requested,
            Sequential.client_requests unserved, ⟨[], by simp [Sequential.heard], by simp [told]⟩,
            .arrived start job onInterrupt outcome
              ⟨rfl, underway.pending, underway.resume, underway.restartPending⟩ arrived'⟩
        · obtain ⟨environment, interrupted, answered⟩ :=
            answered_of_arrived action.asks underway arrived.yields shared
          refine ⟨Sequential.requests action.asks ++ [.answer environment interrupted], _,
            exec_trans requested (by rw [exec_cons, answered]; rfl), ?_,
            ⟨[outcome], rfl, told⟩, .resting quiet rfl rfl rfl⟩
          rw [List.filterMap_append, Sequential.client_requests unserved]
          exact List.append_nil _
  · contradiction

/-! ## Runs -/

theorem Session.serving_step {label : SessionLabel β ε} (serving : session.runner.Serving)
    (stepEq : Session.step target session label = some next) : next.runner.Serving := by
  obtain ⟨labels, run⟩ := Session.drives_step stepEq
  exact run.invariant serving fun serving stays stepEq => serving.step stays stepEq

theorem simulates_new (backend : β) :
    Simulates target [] (Session.new backend) [] (Sequential.new backend) where
  serving := ⟨Runner.exclusive_new _, Runner.channeled_new _⟩
  client := rfl
  told := rfl
  phase := .resting (Runner.quiet_new _) rfl rfl rfl

/-- Every orderly step is matched. -/
theorem Simulates.step {labels : List (SessionLabel β ε)} {labels' : List (SequentialLabel β ε)}
    {label : SessionLabel β ε} (simulates : Simulates target labels session labels' state)
    (orderly : session.Orderly label) (stepEq : Session.step target session label = some next) :
    ∃ more state', exec (Sequential.step target) state more = some state' ∧
      Simulates target (labels ++ [label]) next (labels' ++ more) state' := by
  have matched : Matched target state session next label := by
    cases label with
    | worker number env => exact matched_worker simulates.phase simulates.serving stepEq
    | call action => exact matched_call simulates.phase simulates.serving orderly stepEq
    | command command => exact matched_command simulates.phase orderly stepEq
    | proceed => exact matched_proceed simulates.phase simulates.serving stepEq
  obtain ⟨more, state', executed, client, ⟨outcomes, told, delivered⟩, phase⟩ := matched
  refine ⟨more, state', executed, Session.serving_step simulates.serving stepEq, ?_, ?_, phase⟩
  · rw [List.filterMap_append, List.filterMap_append, simulates.client, client]
    cases shown : label.client <;> simp [shown]
  · rw [told, delivered, simulates.told]

/-- In every run of a session whose client waits for each stop before its next
command or query, the client is told what a sequential target tells it that is
given the same commands, interrupt requests and uses of the backend; and
whenever no command is in progress, the two agree on the flags and the memory. -/
theorem Session.refines_of_run {backend : β} {labels : List (SessionLabel β ε)}
    (run : Run (Session.step target) Session.Orderly (.new backend) labels session) :
    ∃ labels' state, Run (Sequential.step target) AnyStep (.new backend) labels' state ∧
      labels'.filterMap SequentialLabel.client = labels.filterMap SessionLabel.client ∧
      state.told = deliveries session.runner.history ∧
      (session.stage = .idle → session.Answered →
        state.pending = none ∧ state.gdb = session.sequential) := by
  obtain ⟨labels', state, run', simulates⟩ := run.simulated
    (fun labels session labels' state => Simulates target labels session labels' state)
    (fun simulates orderly stepEq => simulates.step orderly stepEq) (simulates_new backend)
  refine ⟨labels', state, run', simulates.client, simulates.told, ?_⟩
  intro idle answered
  cases simulates.phase with
  | resting quiet _ pending same => exact ⟨pending, same.symm⟩
  | handling quiet busy => exact absurd idle busy
  | boarding start job onInterrupt underway boarding => exact absurd answered boarding.awaits.ne
  | airborne start job onInterrupt underway airborne =>
      obtain ⟨landed, worker, workers, finished, flying, same, awaits, partway⟩ := airborne.crew
      exact absurd answered awaits.ne
  | arrived start job onInterrupt outcome underway arrived =>
      obtain ⟨number, queue, awaits⟩ := arrived.queue
      exact absurd answered awaits.ne

/-- The exit in two stages, with an interrupt on the way and a restart after it. -/
theorem announcedExit_refines :
    ∃ session, exec (restrict (Session.step Script.target) Session.Orderly)
        (Session.new ⟨⟨1, 0⟩, [.returned (.ok .interrupted), .returned (.ok .processExit),
          .returned (.ok .stepComplete), .returned (.ok .processExit)]⟩) announcedExit =
            some session ∧
      (deliveries session.runner.history).length = 6 ∧
      ∃ labels' state, Run (Sequential.step Script.target) AnyStep
          (.new ⟨⟨1, 0⟩, [.returned (.ok .interrupted), .returned (.ok .processExit),
            .returned (.ok .stepComplete), .returned (.ok .processExit)]⟩) labels' state ∧
        labels'.filterMap SequentialLabel.client =
          announcedExit.filterMap SessionLabel.client ∧
        state.told = deliveries session.runner.history ∧
        (session.stage = .idle → session.Answered →
          state.pending = none ∧ state.gdb = session.sequential) := by
  have ends : (exec (restrict (Session.step Script.target) Session.Orderly)
      (Session.new ⟨⟨1, 0⟩, [.returned (.ok .interrupted), .returned (.ok .processExit),
        .returned (.ok .stepComplete), .returned (.ok .processExit)]⟩) announcedExit).map
      (fun session => (deliveries session.runner.history).length) = some 6 := by decide
  obtain ⟨session, executed, length⟩ := Option.map_eq_some_iff.mp ends
  exact ⟨session, executed, length, Session.refines_of_run (run_of_exec_restrict executed)⟩

end TtdGdbserver.Gdb
